import Worksheet.Formula.Relocation
import Worksheet.Proofs.Reference.Rewriting

namespace Worksheet
namespace Formula

/-!
Formulas cut at their literals.  A change of the tokens outside literals neither
makes nor removes a quote, so a changed text is cut at the same literals again:
each stands where it stood, between the changed stretches, and a literal without
a closing quote still has none.
-/

open Reference (KeepsShape changed tokenMeasure)

variable {text rest : List Char} {c quote : Char} {change : List Char → List Char}

/-! ## Cutting -/

theorem segments_of_plain (plain : ∀ c ∈ text, opensLiteral c = false) :
    segments text = [.plain text] := by
  have all : ∀ c ∈ text, (!opensLiteral c) = true := fun c member => by rw [plain c member]; rfl
  have outside : text.takeWhile (!opensLiteral ·) = text := List.takeWhile_eq_self_iff.mpr all
  have nothing : text.dropWhile (!opensLiteral ·) = [] := List.dropWhile_eq_nil_iff.mpr all
  rw [segments]
  split
  · rw [outside]
  · next some =>
    rw [nothing] at some
    cases some

theorem segments_append_quote (plain : ∀ c ∈ text, opensLiteral c = false)
    (opens : opensLiteral quote = true) (rest : List Char) :
    segments (text ++ quote :: rest) =
      .plain text :: .literal (quote :: (literalRest quote false rest).1) ::
        segments (literalRest quote false rest).2 := by
  have all : ∀ c ∈ text, (!opensLiteral c) = true := fun c member => by rw [plain c member]; rfl
  have mark : ¬(!opensLiteral quote) = true := by rw [opens]; decide
  have outside : (text ++ quote :: rest).takeWhile (!opensLiteral ·) = text := by
    rw [List.takeWhile_append_of_pos all,
      List.takeWhile_cons_of_neg (p := (!opensLiteral ·)) mark, List.append_nil]
  have after : (text ++ quote :: rest).dropWhile (!opensLiteral ·) = quote :: rest := by
    rw [List.dropWhile_append_of_pos all,
      List.dropWhile_cons_of_neg (p := (!opensLiteral ·)) mark]
  rw [segments]
  split
  · next none =>
    rw [after] at none
    cases none
  · next first others some =>
    rw [after] at some
    cases some
    rw [outside]

/-- A text has no quote, or a literal begins at its first one. -/
theorem plain_or_quote (text : List Char) :
    (∀ c ∈ text, opensLiteral c = false) ∨
      ∃ before quote rest, text = before ++ quote :: rest ∧
        (∀ c ∈ before, opensLiteral c = false) ∧ opensLiteral quote = true := by
  cases found : text.find? opensLiteral with
  | none =>
    left
    intro c member
    exact Bool.eq_false_iff.mpr (List.find?_eq_none.mp found c member)
  | some quote =>
    right
    rcases List.find?_eq_some_iff_append.mp found with ⟨opens, before, rest, whole, outside⟩
    refine ⟨before, quote, rest, whole, fun c member => ?_, opens⟩
    simpa using outside c member

/-- What holds of a text without quotes, and of one with a literal if it holds
behind the literal, holds of every text. -/
theorem segments_induction {Holds : List Char → Prop}
    (plain : ∀ text, (∀ c ∈ text, opensLiteral c = false) → Holds text)
    (literal : ∀ text quote rest, (∀ c ∈ text, opensLiteral c = false) →
      opensLiteral quote = true → Holds (literalRest quote false rest).2 →
        Holds (text ++ quote :: rest)) (text : List Char) : Holds text := by
  rcases plain_or_quote text with outside | ⟨before, quote, rest, whole, outside, opens⟩
  · exact plain text outside
  · rw [whole]
    apply literal before quote rest outside opens
    exact segments_induction plain literal _
termination_by text.length
decreasing_by
  have shorter := length_literalRest_le quote false rest
  rw [whole, List.length_append, List.length_cons]
  omega

/-! ## The parts of a stretch -/

namespace Segment

/-- The characters of a stretch. -/
def chars : Segment → List Char
  | plain text => text
  | literal text => text

/-- The reference tokens of a stretch; a literal has none. -/
def tokens : Segment → List (List Char)
  | plain text => Text.findAll tokenMeasure text
  | literal _ => []

/-- A stretch with its reference tokens changed. -/
def mapTokens (change : List Char → List Char) : Segment → Segment
  | plain text => plain (changed change text)
  | literal text => literal text

theorem isToken_of_mem_tokens {segment : Segment} {token : List Char}
    (found : token ∈ segment.tokens) : Reference.IsToken token := by
  cases segment with
  | plain text => exact Reference.isToken_of_mem_findAll found
  | literal text => cases found

theorem mapTokens_congr {segment : Segment} {other : List Char → List Char}
    (same : ∀ token ∈ segment.tokens, change token = other token) :
    segment.mapTokens change = segment.mapTokens other := by
  cases segment with
  | plain text => exact congrArg plain (Reference.changed_congr same)
  | literal text => rfl

theorem mapTokens_mapTokens (keeps : KeepsShape change) (next : List Char → List Char)
    (segment : Segment) :
    (segment.mapTokens change).mapTokens next = segment.mapTokens (next ∘ change) := by
  cases segment with
  | plain text => exact congrArg plain (keeps.changed_changed next text)
  | literal text => rfl

end Segment

/-- The reference tokens of a text outside its literals, in order. -/
def plainTokens (text : List Char) : List (List Char) :=
  (segments text).flatMap Segment.tokens

/-- A text with the reference tokens outside its literals changed. -/
def changedOutside (change : List Char → List Char) (text : List Char) : List Char :=
  (segments text).flatMap fun segment => (segment.mapTokens change).chars

theorem isToken_of_mem_plainTokens {token : List Char} (found : token ∈ plainTokens text) :
    Reference.IsToken token := by
  rcases List.mem_flatMap.mp found with ⟨segment, _, found⟩
  exact segment.isToken_of_mem_tokens found

/-- Cutting loses nothing: the stretches together are the text. -/
theorem flatMap_chars_segments (text : List Char) :
    (segments text).flatMap Segment.chars = text := by
  induction text using segments_induction with
  | plain text plain =>
    rw [segments_of_plain plain]
    exact List.append_nil text
  | literal text quote rest plain opens ih =>
    rw [segments_append_quote plain opens, List.flatMap_cons, List.flatMap_cons, ih]
    simp only [Segment.chars, List.cons_append, literalRest_append]

/-! ## Changed texts -/

theorem changedOutside_of_plain (plain : ∀ c ∈ text, opensLiteral c = false) :
    changedOutside change text = changed change text := by
  rw [changedOutside, segments_of_plain plain]
  exact List.append_nil _

theorem changedOutside_append_quote (plain : ∀ c ∈ text, opensLiteral c = false)
    (opens : opensLiteral quote = true) (rest : List Char) :
    changedOutside change (text ++ quote :: rest) =
      changed change text ++ quote :: ((literalRest quote false rest).1 ++
        changedOutside change (literalRest quote false rest).2) := by
  rw [changedOutside, segments_append_quote plain opens, List.flatMap_cons, List.flatMap_cons]
  rfl

/-- Before the first literal a change goes on from one part to the next. -/
theorem changedOutside_append_cons (plain : ∀ d ∈ text, opensLiteral d = false)
    (outside : Reference.isTokenChar c = false) (plainMark : opensLiteral c = false)
    (rest : List Char) :
    changedOutside change (text ++ c :: rest) =
      changed change text ++ c :: changedOutside change rest := by
  have before {later : List Char} (plainLater : ∀ d ∈ later, opensLiteral d = false) :
      ∀ d ∈ text ++ c :: later, opensLiteral d = false := by
    intro d member
    rcases List.mem_append.mp member with early | late
    · exact plain d early
    · rcases List.mem_cons.mp late with rfl | late
      · exact plainMark
      · exact plainLater d late
  rcases plain_or_quote rest with plainLater | ⟨later, quote, rest, rfl, plainLater, opens⟩
  · rw [changedOutside_of_plain (before plainLater), changedOutside_of_plain plainLater,
      Reference.changed_append_cons outside]
  · rw [← List.cons_append, ← List.append_assoc,
      changedOutside_append_quote (before plainLater) opens,
      changedOutside_append_quote plainLater opens, Reference.changed_append_cons outside,
      List.append_assoc, List.cons_append]

theorem mem_changedOutside_iff (keeps : KeepsShape change) (notUpper : c.isUpper = false)
    (notDigit : c.isDigit = false) : c ∈ changedOutside change text ↔ c ∈ text := by
  induction text using segments_induction with
  | plain text plain =>
    rw [changedOutside_of_plain plain, keeps.mem_changed_iff notUpper notDigit]
  | literal text quote rest plain opens ih =>
    conv_rhs => rw [← literalRest_append quote false rest]
    simp only [changedOutside_append_quote plain opens, List.mem_append, List.mem_cons, ih,
      keeps.mem_changed_iff notUpper notDigit]

theorem changedOutside_congr {other : List Char → List Char}
    (same : ∀ token ∈ plainTokens text, change token = other token) :
    changedOutside change text = changedOutside other text := by
  rw [changedOutside, changedOutside, List.flatMap_def, List.flatMap_def]
  refine congrArg List.flatten (List.map_congr_left fun segment member => ?_)
  exact congrArg Segment.chars (Segment.mapTokens_congr fun token found =>
    same token (List.mem_flatMap.mpr ⟨segment, member, found⟩))

theorem changedOutside_eq_self (same : ∀ token ∈ plainTokens text, change token = token) :
    changedOutside change text = text := by
  rw [changedOutside_congr same]
  conv_rhs => rw [← flatMap_chars_segments text]
  rw [changedOutside]
  congr 1
  funext segment
  cases segment with
  | plain text => exact Reference.changed_same text
  | literal text => rfl

theorem plain_changed (keeps : KeepsShape change) (plain : ∀ c ∈ text, opensLiteral c = false) :
    ∀ c ∈ changed change text, opensLiteral c = false := by
  intro c member
  cases opens : opensLiteral c with
  | false => rfl
  | true =>
    have mark : c = '"' ∨ c = '\'' := by simpa [opensLiteral] using opens
    have unchanged : c ∈ text := by
      rcases mark with rfl | rfl
      · exact (keeps.mem_changed_iff rfl rfl).mp member
      · exact (keeps.mem_changed_iff rfl rfl).mp member
    rw [plain c unchanged] at opens
    cases opens

/-- A literal ends where it ended, whatever now follows; one that is not closed
must stay the end of the text. -/
theorem literalRest_append_other {escaped : Bool} {other : List Char}
    (ends : (literalRest quote escaped text).2 = [] → other = []) :
    literalRest quote escaped ((literalRest quote escaped text).1 ++ other) =
      ((literalRest quote escaped text).1, other) := by
  fun_induction literalRest quote escaped text with
  | case1 escaped =>
    rw [ends rfl]
    rfl
  | case2 escaped c rest closes =>
    rw [List.singleton_append, literalRest, if_pos closes]
  | case3 escaped c rest inside first after same ih =>
    rw [same] at ih
    rw [List.cons_append, literalRest, if_neg inside, ih ends]

/-- The changed text is cut at the same literals, between the changed
stretches. -/
theorem segments_changedOutside (keeps : KeepsShape change) (text : List Char) :
    segments (changedOutside change text) = (segments text).map (Segment.mapTokens change) := by
  induction text using segments_induction with
  | plain text plain =>
    rw [changedOutside_of_plain plain, segments_of_plain (plain_changed keeps plain),
      segments_of_plain plain]
    rfl
  | literal text quote rest plain opens ih =>
    have ends : (literalRest quote false rest).2 = [] →
        changedOutside change (literalRest quote false rest).2 = [] := by
      intro nothing
      rw [nothing, changedOutside_of_plain (fun _ member => by cases member),
        Reference.changed_nil]
    rw [changedOutside_append_quote plain opens,
      segments_append_quote (plain_changed keeps plain) opens, literalRest_append_other ends, ih,
      segments_append_quote plain opens, List.map_cons, List.map_cons]
    rfl

theorem changedOutside_changedOutside (keeps : KeepsShape change) (next : List Char → List Char)
    (text : List Char) :
    changedOutside next (changedOutside change text) = changedOutside (next ∘ change) text := by
  rw [changedOutside, segments_changedOutside keeps, List.flatMap_map, changedOutside]
  simp only [Segment.mapTokens_mapTokens keeps]

end Formula
end Worksheet
