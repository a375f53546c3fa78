import Mathlib.Data.List.DropRight
import Worksheet.Text.Blank
import Worksheet.Text.Split

namespace Worksheet
namespace Text

/-!
Parts of texts.  Trimming, splitting and cutting all return a part that stands
in the text between two separators or at its ends.  What is known of a text
passes to such a part, and what is found in the part is found in the text.
-/

variable {separator : Char} {text part : List Char}

/-! ## Delimited parts -/

/-- Whether a part stands in a text with a separator or the end of the text on
each side. -/
def Delimited (Separator : Char → Prop) (part text : List Char) : Prop :=
  ∃ before after, text = before ++ part ++ after ∧
    (∀ c ∈ before.getLast?, Separator c) ∧ ∀ c ∈ after.head?, Separator c

theorem Delimited.mono {Fewer More : Char → Prop} (delimited : Delimited Fewer part text)
    (within : ∀ c, Fewer c → More c) : Delimited More part text := by
  rcases delimited with ⟨before, after, whole, left, right⟩
  exact ⟨before, after, whole, fun c last => within c (left c last),
    fun c first => within c (right c first)⟩

theorem Delimited.trans {Separator : Char → Prop} {outer : List Char}
    (inner : Delimited Separator part text) (delimited : Delimited Separator text outer) :
    Delimited Separator part outer := by
  rcases inner with ⟨before, after, rfl, left, right⟩
  rcases delimited with ⟨first, last, rfl, leftmost, rightmost⟩
  refine ⟨first ++ before, after ++ last, by simp only [List.append_assoc], ?_, ?_⟩
  · intro c ends
    cases shape : before.getLast? with
    | none =>
      rw [List.getLast?_eq_none_iff.mp shape, List.append_nil] at ends
      exact leftmost c ends
    | some d =>
      rw [List.getLast?_append, shape, Option.some_or] at ends
      exact left c (shape.trans ends)
  · intro c starts
    cases shape : after.head? with
    | none =>
      rw [List.head?_eq_none_iff.mp shape, List.nil_append] at starts
      exact rightmost c starts
    | some d =>
      rw [List.head?_append, shape, Option.some_or] at starts
      exact right c (shape.trans starts)

theorem Delimited.refl (Separator : Char → Prop) (text : List Char) :
    Delimited Separator text text :=
  ⟨[], [], (List.append_nil _).symm, fun _ last => (nomatch last), fun _ first => (nomatch first)⟩

theorem Delimited.append_cons {Separator : Char → Prop} {c : Char} {after : List Char}
    (separates : Separator c) : Delimited Separator part (part ++ c :: after) :=
  ⟨[], c :: after, rfl, fun _ last => (nomatch last),
    fun _ first => Option.some.inj first ▸ separates⟩

theorem Delimited.of_cons {Separator : Char → Prop} {c : Char} {before : List Char}
    (separates : Separator c) : Delimited Separator part (before ++ c :: part) := by
  refine ⟨before ++ [c], [], by simp, fun d last => ?_, fun _ first => (nomatch first)⟩
  rw [List.getLast?_concat] at last
  exact Option.some.inj last ▸ separates

/-- What holds of a part and stays when a text grows beyond a separator on
either side holds of the text. -/
theorem Delimited.extend {Separator : Char → Prop}
    (delimited : Delimited Separator part text) (Holds : List Char → Prop) (here : Holds part)
    (right : ∀ text c after, Separator c → Holds text → Holds (text ++ c :: after))
    (left : ∀ before c text, Separator c → Holds text → Holds (before ++ c :: text)) :
    Holds text := by
  rcases delimited with ⟨before, after, rfl, ends, starts⟩
  have grown : Holds (part ++ after) := by
    cases after with
    | nil => rwa [List.append_nil]
    | cons c after => exact right part c after (starts c rfl) here
  rw [List.append_assoc]
  rcases List.eq_nil_or_concat before with rfl | ⟨before, c, rfl⟩
  · exact grown
  · rw [List.concat_eq_append] at ends ⊢
    rw [List.append_assoc]
    exact left before c _ (ends c List.getLast?_concat) grown

theorem Delimited.subset {Separator : Char → Prop} (delimited : Delimited Separator part text) :
    part ⊆ text := by
  rcases delimited with ⟨before, after, rfl, _, _⟩
  intro c member
  simp [member]

theorem Delimited.isInfix {Separator : Char → Prop} (delimited : Delimited Separator part text) :
    part <:+: text := by
  rcases delimited with ⟨before, after, rfl, _, _⟩
  exact ⟨before, after, rfl⟩

/-! ## Where taking and dropping stop -/

section

variable {p : Char → Bool} {c : Char}

theorem takeWhile_eq_nil (first : ∀ c ∈ text.head?, p c = false) : text.takeWhile p = [] := by
  cases text with
  | nil => rfl
  | cons c rest => exact List.takeWhile_cons_of_neg (by rw [first c rfl]; exact Bool.false_ne_true)

theorem dropWhile_eq_self (first : ∀ c ∈ text.head?, p c = false) : text.dropWhile p = text := by
  cases text with
  | nil => rfl
  | cons c rest => exact List.dropWhile_cons_of_neg (by rw [first c rfl]; exact Bool.false_ne_true)

theorem takeWhile_append_cons (stops : p c = false) (text rest : List Char) :
    (text ++ c :: rest).takeWhile p = text.takeWhile p := by
  induction text with
  | nil => exact takeWhile_eq_nil fun d first => Option.some.inj first ▸ stops
  | cons d tail ih => rw [List.cons_append, List.takeWhile_cons, List.takeWhile_cons, ih]

theorem dropWhile_append_cons (stops : p c = false) (text rest : List Char) :
    (text ++ c :: rest).dropWhile p = text.dropWhile p ++ c :: rest := by
  induction text with
  | nil => exact dropWhile_eq_self fun d first => Option.some.inj first ▸ stops
  | cons d tail ih =>
    rw [List.cons_append, List.dropWhile_cons, List.dropWhile_cons, ih]
    split <;> rfl

theorem rdropWhile_eq_self (last : ∀ c ∈ text.getLast?, p c = false) :
    text.rdropWhile p = text := by
  rw [← List.head?_reverse] at last
  rw [List.rdropWhile, dropWhile_eq_self last, List.reverse_reverse]

theorem rdropWhile_append_cons (stops : p c = false) (text rest : List Char) :
    (text ++ c :: rest).rdropWhile p = text ++ c :: rest.rdropWhile p := by
  simp only [List.rdropWhile, List.reverse_append, List.reverse_cons, List.append_assoc,
    List.singleton_append, dropWhile_append_cons stops, List.reverse_reverse]

/-- The first run of characters of a kind is found between what stands around
it. -/
theorem takeWhile_dropWhile_run {run : List Char} (before after : List Char)
    (left : ∀ c ∈ before, p c = false) (inside : ∀ c ∈ run, p c) (nonempty : run ≠ [])
    (right : ∀ c ∈ after.head?, p c = false) :
    ((before ++ (run ++ after)).dropWhile (!p ·)).takeWhile p = run := by
  have skipped : ∀ c ∈ before, (!p c) = true := fun c member => by rw [left c member]; rfl
  have begins : ∀ c ∈ (run ++ after).head?, (!p c) = false := by
    intro c first
    rw [List.head?_append_of_ne_nil _ nonempty] at first
    rw [inside c (List.mem_of_mem_head? first)]
    rfl
  rw [List.dropWhile_append_of_pos skipped, dropWhile_eq_self begins,
    List.takeWhile_append_of_pos inside, takeWhile_eq_nil right, List.append_nil]

end

/-! ## Trimming -/

theorem trim_eq (text : List Char) : trim text = (text.dropWhile isBlank).rdropWhile isBlank :=
  rfl

/-- A text is its trimmed form between blanks. -/
theorem exists_trim (text : List Char) : ∃ before after, text = before ++ trim text ++ after ∧
    (∀ c ∈ before, isBlank c) ∧ ∀ c ∈ after, isBlank c := by
  refine ⟨text.takeWhile isBlank, (text.dropWhile isBlank).rtakeWhile isBlank, ?_,
    fun c member => List.mem_takeWhile_imp member,
    fun c member => List.mem_rtakeWhile_imp member⟩
  rw [trim_eq, List.append_assoc, List.rdropWhile_append_rtakeWhile,
    List.takeWhile_append_dropWhile]

theorem delimited_trim (text : List Char) :
    Delimited (fun c => isBlank c = true) (trim text) text := by
  rcases exists_trim text with ⟨before, after, whole, left, right⟩
  exact ⟨before, after, whole, fun c last => left c (List.mem_of_getLast? last),
    fun c first => right c (List.mem_of_mem_head? first)⟩

theorem isBlank_head?_trim {c : Char} (first : c ∈ (trim text).head?) : isBlank c = false := by
  have start : c ∈ (text.dropWhile isBlank).head? := by
    rcases List.rdropWhile_prefix isBlank (text.dropWhile isBlank) with ⟨dropped, whole⟩
    rw [← whole, List.head?_append, ← trim_eq, first, Option.some_or]
    rfl
  have stops := List.head?_dropWhile_not isBlank text
  rw [start] at stops
  exact stops

theorem isBlank_getLast?_trim {c : Char} (last : c ∈ (trim text).getLast?) :
    isBlank c = false := by
  rcases List.mem_getLast?_eq_getLast last with ⟨nonempty, rfl⟩
  exact Bool.not_eq_true _ ▸ List.rdropWhile_last_not isBlank _ nonempty

theorem exists_trim_of_head? (first : ∀ c ∈ text.head?, isBlank c = false) :
    ∃ after, text = trim text ++ after ∧ ∀ c ∈ after, isBlank c := by
  refine ⟨text.rtakeWhile isBlank, ?_, fun c member => List.mem_rtakeWhile_imp member⟩
  rw [trim_eq, dropWhile_eq_self first, List.rdropWhile_append_rtakeWhile]

theorem exists_trim_of_getLast? (last : ∀ c ∈ text.getLast?, isBlank c = false) :
    ∃ before, text = before ++ trim text ∧ ∀ c ∈ before, isBlank c := by
  refine ⟨text.takeWhile isBlank, ?_, fun c member => List.mem_takeWhile_imp member⟩
  have kept : (text.dropWhile isBlank).rdropWhile isBlank = text.dropWhile isBlank := by
    rw [List.rdropWhile_eq_self_iff]
    intro nonempty
    rw [Bool.not_eq_true]
    refine last _ ?_
    have ends : text.getLast? = some ((text.dropWhile isBlank).getLast nonempty) := by
      conv_lhs => rw [← List.takeWhile_append_dropWhile (p := isBlank) (l := text)]
      rw [List.getLast?_append, List.getLast?_eq_some_getLast nonempty, Option.some_or]
    exact ends
  rw [trim_eq, kept, List.takeWhile_append_dropWhile]

/-- What stands between blanks and does not itself begin or end with one is
the trimmed form. -/
theorem trim_eq_of_between {before core after : List Char}
    (left : ∀ c ∈ before, isBlank c) (right : ∀ c ∈ after, isBlank c)
    (first : ∀ c ∈ core.head?, isBlank c = false)
    (last : ∀ c ∈ core.getLast?, isBlank c = false) : trim (before ++ core ++ after) = core := by
  have rightBlank : ∀ c ∈ after.reverse, isBlank c :=
    fun c member => right c (List.mem_reverse.mp member)
  rw [trim_eq, List.append_assoc, List.dropWhile_append_of_pos left]
  cases core with
  | nil =>
    rw [List.nil_append, List.dropWhile_eq_nil_iff.mpr right, List.rdropWhile_nil]
  | cons c rest =>
    have starts : (c :: rest ++ after).dropWhile isBlank = c :: rest ++ after :=
      dropWhile_eq_self first
    rw [starts, List.rdropWhile, List.reverse_append,
      List.dropWhile_append_of_pos rightBlank, dropWhile_eq_self, List.reverse_reverse]
    intro d ends
    rw [List.head?_reverse] at ends
    exact last d ends

@[simp] theorem trim_trim (text : List Char) : trim (trim text) = trim text := by
  have whole : trim ([] ++ trim text ++ []) = trim text :=
    trim_eq_of_between (fun _ member => nomatch member) (fun _ member => nomatch member)
      (fun _ first => isBlank_head?_trim first) (fun _ last => isBlank_getLast?_trim last)
  rwa [List.nil_append, List.append_nil] at whole

/-- Changing characters changes the trimmed form, as long as blanks stay blank and
no others become so. -/
theorem trim_map {change : Char → Char} (keeps : ∀ c, isBlank (change c) = isBlank c)
    (text : List Char) : trim (text.map change) = (trim text).map change := by
  have same : isBlank ∘ change = isBlank := funext keeps
  simp only [trim, trimEnd, trimStart, List.dropWhile_map, ← List.map_reverse, same]

/-! ## Splitting -/

theorem split_eq_splitOn (separator : Char) (text : List Char) :
    split separator text = text.splitOn separator := by
  induction text with
  | nil => rfl
  | cons c rest ih =>
    rw [List.splitOn_cons_eq_if_modifyHead, ← ih]
    have nonempty := split_ne_nil separator rest
    unfold split at nonempty ⊢
    rw [List.foldr_cons]
    by_cases same : c = separator
    · rw [if_pos same, if_pos (beq_iff_eq.mpr same)]
    · rw [if_neg same, if_neg (by simpa using same)]
      generalize List.foldr _ [[]] rest = pieces at nonempty
      cases pieces with
      | nil => exact absurd rfl nonempty
      | cons piece pieces => rfl

theorem split_of_not_mem (absent : separator ∉ text) : split separator text = [text] := by
  rw [split_eq_splitOn, List.splitOn_eq_singleton absent]

theorem split_append_cons (absent : separator ∉ part) (rest : List Char) :
    split separator (part ++ separator :: rest) = part :: split separator rest := by
  rw [split_eq_splitOn, split_eq_splitOn, List.splitOn_append_cons_self_of_not_mem absent]

/-- Either a text is whole, or its first piece can be split off. -/
theorem split_cases (separator : Char) (text : List Char) :
    separator ∉ text ∧ split separator text = [text] ∨
      ∃ piece rest, text = piece ++ separator :: rest ∧ separator ∉ piece ∧
        split separator text = piece :: split separator rest := by
  by_cases member : separator ∈ text
  · rcases List.eq_append_cons_of_mem member with ⟨piece, rest, rfl, absent⟩
    exact .inr ⟨piece, rest, rfl, absent, split_append_cons absent rest⟩
  · exact .inl ⟨member, split_of_not_mem member⟩

/-- Changing characters changes the pieces, as long as separators stay what
they are. -/
theorem split_map {change : Char → Char} (keeps : ∀ c, change c = separator ↔ c = separator)
    (text : List Char) :
    split separator (text.map change) = (split separator text).map (List.map change) := by
  induction text with
  | nil => rfl
  | cons c rest ih =>
    unfold split at ih ⊢
    rw [List.map_cons, List.foldr_cons, List.foldr_cons, ih]
    by_cases same : c = separator
    · rw [if_pos same, if_pos ((keeps c).mpr same)]
      rfl
    · rw [if_neg same, if_neg (mt (keeps c).mp same)]
      generalize List.foldr _ [[]] rest = pieces
      cases pieces <;> rfl

theorem delimited_of_mem_split (member : part ∈ split separator text) :
    Delimited (· = separator) part text := by
  induction shape : split separator text generalizing text with
  | nil => exact absurd shape (split_ne_nil separator text)
  | cons first pieces ih =>
    rw [shape] at member
    rcases split_cases separator text with ⟨_, whole⟩ | ⟨piece, rest, rfl, _, cut⟩
    · rw [whole] at shape
      cases shape
      rw [List.mem_singleton.mp member]
      exact .refl _ _
    · rw [cut] at shape
      cases shape
      rcases List.mem_cons.mp member with rfl | later
      · exact .append_cons rfl
      · exact (ih later rfl).trans (.of_cons rfl)

/-! ## Cutting -/

theorem eq_of_dropWhile_ne {mark c : Char} {rest : List Char}
    (stopped : text.dropWhile (· ≠ mark) = c :: rest) : c = mark := by
  have stops := List.head?_dropWhile_not (fun c => decide (c ≠ mark)) text
  rw [stopped] at stops
  exact not_not.mp (of_decide_eq_false stops)

theorem eq_of_cutAtFirst? {mark : Char} {first rest : List Char}
    (cut : cutAtFirst? mark text = some (first, rest)) : text = first ++ mark :: rest := by
  unfold cutAtFirst? at cut
  cases shape : text.dropWhile (· ≠ mark) with
  | nil =>
    rw [shape] at cut
    cases cut
  | cons c tail =>
    rw [shape] at cut
    cases cut
    have whole := List.takeWhile_append_dropWhile (p := (· ≠ mark)) (l := text)
    rw [shape, eq_of_dropWhile_ne shape] at whole
    exact whole.symm

theorem beforeLast_eq_nil_or (mark : Char) (text : List Char) :
    beforeLast mark text = [] ∨ ∃ after, text = beforeLast mark text ++ mark :: after := by
  unfold beforeLast
  cases shape : text.reverse.dropWhile (· ≠ mark) with
  | nil => exact .inl rfl
  | cons c before =>
    right
    have whole := List.takeWhile_append_dropWhile (p := (· ≠ mark)) (l := text.reverse)
    rw [shape, eq_of_dropWhile_ne shape] at whole
    refine ⟨(text.reverse.takeWhile (· ≠ mark)).reverse, ?_⟩
    calc
      text = text.reverse.reverse := (List.reverse_reverse text).symm
      _ = (text.reverse.takeWhile (· ≠ mark) ++ mark :: before).reverse :=
        congrArg List.reverse whole.symm
      _ = before.reverse ++ mark :: (text.reverse.takeWhile (· ≠ mark)).reverse := by
        rw [List.reverse_append, List.reverse_cons, List.append_assoc, List.singleton_append]

theorem not_mem_of_cutAtFirst? {mark : Char} {first rest : List Char}
    (cut : cutAtFirst? mark text = some (first, rest)) : mark ∉ first := by
  unfold cutAtFirst? at cut
  split at cut
  · cases cut
  · rw [← (Prod.mk.inj (Option.some.inj cut)).1]
    intro member
    have different := List.mem_takeWhile_imp member
    exact of_decide_eq_true different rfl

theorem cutAtFirst?_append_cons {mark : Char} (absent : mark ∉ part) (rest : List Char) :
    cutAtFirst? mark (part ++ mark :: rest) = some (part, rest) := by
  have different : ∀ c ∈ part, decide (c ≠ mark) = true :=
    fun c member => decide_eq_true fun same => absent (same ▸ member)
  have stops : ∀ c ∈ (mark :: rest).head?, decide (c ≠ mark) = false :=
    fun c first => decide_eq_false (not_not.mpr (Option.some.inj first).symm)
  unfold cutAtFirst?
  rw [List.dropWhile_append_of_pos different, dropWhile_eq_self stops,
    List.takeWhile_append_of_pos different, takeWhile_eq_nil stops, List.append_nil]

theorem cutAtFirst?_of_not_mem {mark : Char} (absent : mark ∉ text) :
    cutAtFirst? mark text = none := by
  have different : ∀ c ∈ text, decide (c ≠ mark) = true :=
    fun c member => decide_eq_true fun same => absent (same ▸ member)
  rw [cutAtFirst?, List.dropWhile_eq_nil_iff.mpr different]

section

variable {mark : Char} {change : Char → Char} (keeps : ∀ c, change c = mark ↔ c = mark)

include keeps

theorem decide_ne_mark_map :
    (fun c => decide (c ≠ mark)) ∘ change = fun c => decide (c ≠ mark) := by
  funext c
  exact decide_eq_decide.mpr (not_congr (keeps c))

theorem cutAtFirst?_map (text : List Char) : cutAtFirst? mark (text.map change) =
    (cutAtFirst? mark text).map (Prod.map (List.map change) (List.map change)) := by
  unfold cutAtFirst?
  rw [List.dropWhile_map, List.takeWhile_map, decide_ne_mark_map keeps]
  cases text.dropWhile (· ≠ mark) <;> rfl

theorem beforeLast_map (text : List Char) :
    beforeLast mark (text.map change) = (beforeLast mark text).map change := by
  unfold beforeLast
  rw [← List.map_reverse, List.dropWhile_map, decide_ne_mark_map keeps, ← List.map_drop,
    List.map_reverse]

end

theorem beforeLast_append_of_not_mem {mark : Char} {after : List Char} (absent : mark ∉ after)
    (text : List Char) : beforeLast mark (text ++ after) = beforeLast mark text := by
  have different : ∀ c ∈ after.reverse, decide (c ≠ mark) = true :=
    fun c member => decide_eq_true fun same => absent (same ▸ List.mem_reverse.mp member)
  rw [beforeLast, List.reverse_append, List.dropWhile_append_of_pos different, beforeLast]

theorem beforeLast_of_not_mem {mark : Char} (absent : mark ∉ text) :
    beforeLast mark text = [] :=
  beforeLast_append_of_not_mem absent []

theorem beforeLast_append_cons {mark : Char} {after : List Char} (absent : mark ∉ after)
    (before : List Char) : beforeLast mark (before ++ mark :: after) = before := by
  have whole : before ++ mark :: after = (before ++ [mark]) ++ after := by simp
  have stops : ∀ c ∈ (mark :: before.reverse).head?, decide (c ≠ mark) = false :=
    fun c first => decide_eq_false (not_not.mpr (Option.some.inj first).symm)
  rw [whole, beforeLast_append_of_not_mem absent, beforeLast, List.reverse_append,
    List.reverse_singleton, List.singleton_append, dropWhile_eq_self stops, List.drop_one,
    List.tail_cons, List.reverse_reverse]

/-- Either a mark is missing, or what stands before its last occurrence can be
split off. -/
theorem beforeLast_cases (mark : Char) (text : List Char) :
    mark ∉ text ∨ ∃ before after, text = before ++ mark :: after ∧ mark ∉ after := by
  by_cases member : mark ∈ text
  · rcases List.eq_append_cons_of_mem (List.mem_reverse.mpr member) with
      ⟨after, before, whole, absent⟩
    refine .inr ⟨before.reverse, after.reverse, ?_, mt List.mem_reverse.mp absent⟩
    calc
      text = text.reverse.reverse := (List.reverse_reverse text).symm
      _ = (after ++ mark :: before).reverse := congrArg List.reverse whole
      _ = before.reverse ++ mark :: after.reverse := by
        rw [List.reverse_append, List.reverse_cons, List.append_assoc, List.singleton_append]
  · exact .inl member

end Text
end Worksheet
