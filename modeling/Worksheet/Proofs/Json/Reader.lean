import Mathlib.Data.List.Basic
import Worksheet.Json.Reader

namespace Worksheet
namespace Json

/-!
Reading what was written.  The reader takes one character after another, so
what it makes of a text is composed of what it makes of the parts.  A written
value brings it from a place where a value must begin to one where that value
has ended, whatever containers are open around it.
-/

/-! ## Values that can be written -/

/-- The stage at which a literal ends, if it begins as a number does. -/
def numberStage? : List Char → Option NumberStage
  | [] => none
  | c :: rest => (NumberStage.first? c).bind fun stage => rest.foldlM NumberStage.next? stage

/-- Whether a literal is a whole number of JSON. -/
def IsNumber (literal : List Char) : Prop :=
  ∃ stage, numberStage? literal = some stage ∧ stage.isComplete = true

/-- Whether every number in a value is written as JSON prescribes. -/
inductive WellFormed : Json → Prop
  | null : WellFormed .null
  | bool (value : Bool) : WellFormed (.bool value)
  | number {literal : List Char} (isNumber : IsNumber literal) : WellFormed (.number literal)
  | string (text : Option String) : WellFormed (.string text)
  | array {items : List Json} (members : ∀ item ∈ items, WellFormed item) :
    WellFormed (.array items)
  | object {fields : List (Option String × Json)} (members : ∀ field ∈ fields, WellFormed field.2) :
    WellFormed (.object fields)

/-- Whether a layout puts nothing but space between the tokens. -/
structure Layout.Spaced (layout : Layout) : Prop where
  lineBreak : ∀ depth, ∀ c ∈ layout.lineBreak depth, isSpace c = true
  afterColon : ∀ c ∈ layout.afterColon, isSpace c = true

theorem spaced_compactLayout : compactLayout.Spaced :=
  ⟨fun _ _ member => (nomatch member), fun _ member => (nomatch member)⟩

theorem spaced_indentedLayout : indentedLayout.Spaced := by
  constructor
  · intro depth c member
    rcases List.mem_cons.mp member with rfl | member
    · rfl
    · rw [List.eq_of_mem_replicate member]
      rfl
  · intro c member
    rw [List.mem_singleton.mp member]
    rfl

/-! ## Reading part by part -/

/-- Whether the reader comes from one place to another by taking a text. -/
def Reads (start : Progress) (text : List Char) (stop : Progress) : Prop :=
  text.foldlM step? start = some stop

variable {start middle stop : Progress} {text rest : List Char} {c : Char} {frames : List Frame}
  {value : Json} {layout : Layout}

theorem Reads.nil (start : Progress) : Reads start [] start :=
  rfl

theorem Reads.append (first : Reads start text middle) (second : Reads middle rest stop) :
    Reads start (text ++ rest) stop := by
  rw [Reads, List.foldlM_append, first]
  exact second

theorem Reads.cons (step : step? start c = some middle) (later : Reads middle rest stop) :
    Reads start (c :: rest) stop := by
  rw [Reads, List.foldlM_cons, step]
  exact later

theorem Reads.one (step : step? start c = some stop) : Reads start [c] stop :=
  .cons step (.nil stop)

theorem Reads.stay (stays : ∀ c ∈ text, step? start c = some start) : Reads start text start := by
  induction text with
  | nil => exact .nil start
  | cons c rest ih =>
    exact .cons (stays c List.mem_cons_self)
      (ih fun d member => stays d (List.mem_cons_of_mem c member))

theorem parse?_of_reads (reads : Reads ⟨[], .value⟩ text stop) : parse? text = finish? stop := by
  rw [parse?, reads, Option.bind_some]

/-- Whether a character may follow a value. -/
def Closes (c : Char) : Prop :=
  isSpace c = true ∨ c = ',' ∨ c = ']' ∨ c = '}'

/-- Whether a value has ended at a place of the reader.  A number ends only with
the character after it, so the focus need not say so. -/
structure Ended (progress : Progress) (frames : List Frame) (value : Json) : Prop where
  step : ∀ c, Closes c → step? progress c = afterValue? frames value c
  finish : frames = [] → finish? progress = some value

theorem ended_ended (frames : List Frame) (value : Json) :
    Ended ⟨frames, .ended value⟩ frames value :=
  ⟨fun _ _ => rfl, fun outermost => by rw [outermost]; rfl⟩

theorem ended_word (frames : List Frame) (value : Json) :
    Ended ⟨frames, .word [] value⟩ frames value :=
  ⟨fun _ _ => rfl, fun outermost => by rw [outermost]; rfl⟩

/-- Space after a value does not matter. -/
theorem Ended.reads_space (ended : Ended start frames value) (space : ∀ c ∈ text, isSpace c) :
    ∃ stop, Reads start text stop ∧ Ended stop frames value := by
  cases text with
  | nil => exact ⟨start, .nil start, ended⟩
  | cons c rest =>
    have after (progress : Progress) (ended : Ended progress frames value) (c : Char)
        (blank : isSpace c) : step? progress c = some ⟨frames, .ended value⟩ := by
      rw [ended.step c (.inl blank), afterValue?.eq_def, if_pos blank]
    refine ⟨⟨frames, .ended value⟩, .cons (after start ended c (space c List.mem_cons_self)) ?_,
      ended_ended frames value⟩
    exact .stay fun d member =>
      after _ (ended_ended frames value) d (space d (List.mem_cons_of_mem c member))

theorem reads_space_value (space : ∀ c ∈ text, isSpace c) (frames : List Frame) :
    Reads ⟨frames, .value⟩ text ⟨frames, .value⟩ :=
  .stay fun c member => by rw [step?]; exact if_pos (space c member)

theorem reads_space_firstItem (space : ∀ c ∈ text, isSpace c) (frames : List Frame) :
    Reads ⟨frames, .firstItem⟩ text ⟨frames, .firstItem⟩ :=
  .stay fun c member => by rw [step?]; exact if_pos (space c member)

theorem reads_space_key (space : ∀ c ∈ text, isSpace c) (frames : List Frame)
    (before : List (Option String × Json)) (mayEnd : Bool) :
    Reads ⟨frames, .key before mayEnd⟩ text ⟨frames, .key before mayEnd⟩ :=
  .stay fun c member => by rw [step?]; exact if_pos (space c member)

/-! ## Words and numbers -/

theorem reads_null (frames : List Frame) :
    Reads ⟨frames, .value⟩ "null".toList ⟨frames, .word [] .null⟩ :=
  rfl

theorem reads_true (frames : List Frame) :
    Reads ⟨frames, .value⟩ "true".toList ⟨frames, .word [] (.bool true)⟩ :=
  rfl

theorem reads_false (frames : List Frame) :
    Reads ⟨frames, .value⟩ "false".toList ⟨frames, .word [] (.bool false)⟩ :=
  rfl

theorem next?_of_closes (closes : Closes c) (stage : NumberStage) : stage.next? c = none := by
  have shape : c = ' ' ∨ c = '\n' ∨ c = '\t' ∨ c = '\r' ∨ c = ',' ∨ c = ']' ∨ c = '}' := by
    simpa [Closes, isSpace, or_assoc] using closes
  rcases shape with rfl | rfl | rfl | rfl | rfl | rfl | rfl <;> cases stage <;> rfl

theorem ended_number {stage : NumberStage} (complete : stage.isComplete = true)
    (frames : List Frame) (literal : List Char) :
    Ended ⟨frames, .number stage literal.reverse⟩ frames (.number literal) := by
  constructor
  · intro c closes
    simp only [step?, next?_of_closes closes, complete, if_true, List.reverse_reverse]
  · rintro rfl
    simp only [finish?, complete, if_true, List.reverse_reverse]

theorem reads_digits {first last : NumberStage}
    (stages : text.foldlM NumberStage.next? first = some last) (frames : List Frame)
    (reversed : List Char) :
    Reads ⟨frames, .number first reversed⟩ text
      ⟨frames, .number last (text.reverse ++ reversed)⟩ := by
  induction text generalizing first reversed with
  | nil =>
    cases stages
    exact .nil _
  | cons c rest ih =>
    rw [List.foldlM_cons] at stages
    rcases Option.bind_eq_some_iff.mp stages with ⟨next, taken, later⟩
    have step : step? ⟨frames, .number first reversed⟩ c =
        some ⟨frames, .number next (c :: reversed)⟩ := by
      simp only [step?, taken]
    have shape : (c :: rest).reverse ++ reversed = rest.reverse ++ (c :: reversed) := by simp
    rw [shape]
    exact .cons step (ih later _)

theorem beginValue?_of_first? {stage : NumberStage} (first : NumberStage.first? c = some stage)
    (frames : List Frame) :
    isSpace c = false ∧ c ≠ ']' ∧ beginValue? frames c = some ⟨frames, .number stage [c]⟩ := by
  have different (d : Char) (none : NumberStage.first? d = none) : c ≠ d := by
    rintro rfl
    rw [none] at first
    cases first
  refine ⟨?_, different _ rfl, ?_⟩
  · simp [isSpace, different ' ' rfl, different '\n' rfl, different '\t' rfl, different '\r' rfl]
  · simp [beginValue?, different '{' rfl, different '[' rfl, different '"' rfl, different 'n' rfl,
      different 't' rfl, different 'f' rfl, first]

theorem reads_number {literal : List Char} (isNumber : IsNumber literal) (frames : List Frame) :
    ∃ stop, Reads ⟨frames, .value⟩ literal stop ∧ Ended stop frames (.number literal) := by
  rcases isNumber with ⟨last, stages, complete⟩
  cases literal with
  | nil => cases stages
  | cons c rest =>
    rcases Option.bind_eq_some_iff.mp stages with ⟨stage, first, later⟩
    rcases beginValue?_of_first? first frames with ⟨noSpace, _, begins⟩
    have step : step? ⟨frames, .value⟩ c = some ⟨frames, .number stage [c]⟩ := by
      rw [step?]
      exact (if_neg (by rw [noSpace]; exact Bool.false_ne_true)).trans begins
    refine ⟨_, .cons step (reads_digits later frames [c]), ?_⟩
    rw [← List.reverse_cons]
    exact ended_number complete frames (c :: rest)

/-! ## Strings -/

theorem hexValue?_hexDigit {number : Nat} (small : number < 16) :
    OpenString.hexValue? (hexDigit number) = some number := by
  have cases : ∀ n : Fin 16, OpenString.hexValue? (hexDigit n) = some n := by decide
  exact cases ⟨number, small⟩

/-- A focus inside a string: all characters go to the string until its closing
quote. -/
def InsideString (frames : List Frame) (focus : OpenString → Focus) : Prop :=
  ∀ content c, ¬(c = '"' ∧ content.escape = .none) →
    step? ⟨frames, focus content⟩ c = (content.take? c).map fun next => ⟨frames, focus next⟩

theorem insideString_text (frames : List Frame) : InsideString frames .text :=
  fun _ _ notClosing => by rw [step?]; exact if_neg notClosing

theorem insideString_keyText (frames : List Frame) (before : List (Option String × Json)) :
    InsideString frames (.keyText before) :=
  fun _ _ notClosing => by rw [step?]; exact if_neg notClosing

variable {focus : OpenString → Focus} {content next : OpenString}

theorem InsideString.reads_one (inside : InsideString frames focus)
    (notClosing : c ≠ '"' ∨ content.escape ≠ .none) (taken : content.take? c = some next) :
    Reads ⟨frames, focus content⟩ [c] ⟨frames, focus next⟩ := by
  refine .one ?_
  rw [inside content c (by tauto), taken]
  rfl

theorem InsideString.reads_backslash (inside : InsideString frames focus)
    (plain : content.escape = .none) :
    Reads ⟨frames, focus content⟩ ['\\'] ⟨frames, focus { content with escape := .backslash }⟩ := by
  refine inside.reads_one (.inl (by decide)) ?_
  simp only [OpenString.take?, plain, if_true]

/-- A short escape puts in the character that it stands for. -/
theorem InsideString.reads_short (inside : InsideString frames focus)
    (plain : content.escape = .none) {mark : Char} (notUnicode : mark ≠ 'u')
    (short : OpenString.shortEscape? mark = some c) :
    Reads ⟨frames, focus content⟩ ['\\', mark] ⟨frames, focus (content.push c)⟩ := by
  refine (inside.reads_backslash plain).append (inside.reads_one (.inr nofun) ?_)
  simp only [OpenString.take?, if_neg notUnicode, short, Option.map_some]
  rfl

theorem InsideString.reads_hexDigit (inside : InsideString frames focus) {digits number : Nat}
    (more : digits < 3) (content : OpenString) (before : Nat) (small : number < 16) :
    Reads ⟨frames, focus { content with escape := .unicode digits before }⟩ [hexDigit number]
      ⟨frames, focus { content with escape := .unicode (digits + 1) (before * 16 + number) }⟩ := by
  refine inside.reads_one (.inr nofun) ?_
  simp only [OpenString.take?, hexValue?_hexDigit small, Option.map_some,
    if_neg (Nat.ne_of_lt more)]

theorem pushUnit_escape (content : OpenString) (mode : Escape) (unit : Nat) :
    { content with escape := mode }.pushUnit unit = content.pushUnit unit := by
  simp only [OpenString.pushUnit, OpenString.push]

/-- Four hexadecimal digits put in the unit with that number. -/
theorem InsideString.reads_unit (inside : InsideString frames focus)
    (plain : content.escape = .none) {first second third fourth unit : Nat}
    (firstSmall : first < 16) (secondSmall : second < 16) (thirdSmall : third < 16)
    (fourthSmall : fourth < 16) (whole : ((first * 16 + second) * 16 + third) * 16 + fourth = unit) :
    Reads ⟨frames, focus content⟩
      ['\\', 'u', hexDigit first, hexDigit second, hexDigit third, hexDigit fourth]
      ⟨frames, focus (content.pushUnit unit)⟩ := by
  have marked : Reads ⟨frames, focus { content with escape := .backslash }⟩ ['u']
      ⟨frames, focus { content with escape := .unicode 0 0 }⟩ :=
    inside.reads_one (.inr nofun) (by simp only [OpenString.take?, if_true])
  have one := inside.reads_hexDigit (by decide : 0 < 3) content 0 firstSmall
  have two := inside.reads_hexDigit (by decide : 1 < 3) content first secondSmall
  have three := inside.reads_hexDigit (by decide : 2 < 3) content (first * 16 + second) thirdSmall
  have four : Reads
      ⟨frames, focus { content with escape := .unicode 3 ((first * 16 + second) * 16 + third) }⟩
      [hexDigit fourth] ⟨frames, focus (content.pushUnit unit)⟩ := by
    refine inside.reads_one (.inr nofun) ?_
    simp only [OpenString.take?, hexValue?_hexDigit fourthSmall, Option.map_some, if_true,
      pushUnit_escape, whole]
  simp only [Nat.zero_mul, Nat.zero_add] at one
  exact (inside.reads_backslash plain).append
    (marked.append (one.append (two.append (three.append four))))

/-- A control character is put in by its number. -/
theorem InsideString.reads_control (inside : InsideString frames focus)
    (plain : content.escape = .none) (control : c.toNat < 32) :
    Reads ⟨frames, focus content⟩
      ['\\', 'u', '0', '0', hexDigit (c.toNat / 16), hexDigit (c.toNat % 16)]
      ⟨frames, focus (content.push c)⟩ := by
  have number : ((0 * 16 + 0) * 16 + c.toNat / 16) * 16 + c.toNat % 16 = c.toNat := by omega
  have reads := inside.reads_unit plain (by decide : 0 < 16) (by decide : 0 < 16)
    (by omega : c.toNat / 16 < 16) (by omega : c.toNat % 16 < 16) number
  have noTrailing : ¬(0xDC00 ≤ c.toNat ∧ c.toNat < 0xE000) := by omega
  have noLeading : ¬(0xD800 ≤ c.toNat ∧ c.toNat < 0xDC00) := by omega
  rw [OpenString.pushUnit, if_neg noTrailing, if_neg noLeading, Char.ofNat_toNat] at reads
  exact reads

/-- An escaped character is put into the string. -/
theorem InsideString.reads_escape (inside : InsideString frames focus)
    (plain : content.escape = .none) (c : Char) :
    Reads ⟨frames, focus content⟩ (escape c) ⟨frames, focus (content.push c)⟩ := by
  by_cases short : c ∈ ['"', '\\', '\n', '\r', '\t', '\x08', '\x0c']
  · simp only [List.mem_cons, List.not_mem_nil, or_false] at short
    rcases short with rfl | rfl | rfl | rfl | rfl | rfl | rfl <;>
      exact inside.reads_short plain (by decide) rfl
  simp only [List.mem_cons, List.not_mem_nil, or_false, not_or] at short
  by_cases control : c < ' '
  · have written : escape c =
        ['\\', 'u', '0', '0', hexDigit (c.toNat / 16), hexDigit (c.toNat % 16)] := by
      simp only [escape, short, control, if_false, if_true]
    rw [written]
    exact inside.reads_control plain (UInt32.lt_iff_toNat_lt.mp control)
  · have written : escape c = [c] := by
      simp only [escape, short, control, if_false]
    rw [written]
    refine inside.reads_one (.inl short.1) ?_
    simp only [OpenString.take?, plain, if_neg short.2.1, if_neg control]

theorem InsideString.reads_text (inside : InsideString frames focus) (text : List Char)
    (reversed : List Char) :
    Reads ⟨frames, focus ⟨reversed, .none, false, .none⟩⟩ (text.flatMap escape)
      ⟨frames, focus ⟨text.reverse ++ reversed, .none, false, .none⟩⟩ := by
  induction text generalizing reversed with
  | nil => exact .nil _
  | cons c rest ih =>
    have shape : (c :: rest).reverse ++ reversed = rest.reverse ++ (c :: reversed) := by simp
    rw [List.flatMap_cons, shape]
    exact (inside.reads_escape rfl c).append (ih (c :: reversed))

/-- The characters of a quoted text without the quotes. -/
def quoted : Option String → List Char
  | some text => text.toList.flatMap escape
  | none => "\\ud800".toList

theorem quote_eq (text : Option String) : quote text = '"' :: (quoted text ++ ['"']) := by
  cases text with
  | none => rfl
  | some text => rfl

/-- Between its quotes a text becomes the content of the string. -/
theorem InsideString.reads_quoted (inside : InsideString frames focus) (text : Option String) :
    ∃ content, Reads ⟨frames, focus .empty⟩ (quoted text) ⟨frames, focus content⟩ ∧
      content.escape = .none ∧ content.close = text := by
  cases text with
  | some text =>
    refine ⟨_, inside.reads_text text.toList [], rfl, ?_⟩
    simp [OpenString.close]
  | none =>
    have surrogate : ((13 * 16 + 8) * 16 + 0) * 16 + 0 = 0xD800 := by decide
    have reads := inside.reads_unit (rfl : OpenString.empty.escape = .none) (by decide : 13 < 16)
      (by decide : 8 < 16) (by decide : 0 < 16) (by decide : 0 < 16) surrogate
    exact ⟨_, reads, rfl, rfl⟩

theorem reads_string (text : Option String) (frames : List Frame) :
    Reads ⟨frames, .value⟩ (quote text) ⟨frames, .ended (.string text)⟩ := by
  rcases (insideString_text frames).reads_quoted text with ⟨content, reads, plain, closed⟩
  have closing : step? ⟨frames, .text content⟩ '"' = some ⟨frames, .ended (.string text)⟩ := by
    simp only [step?, plain, closed, and_self, if_true]
  rw [quote_eq]
  exact .cons rfl (reads.append (.one closing))

theorem reads_key (key : Option String) (frames : List Frame)
    (before : List (Option String × Json)) (mayEnd : Bool) :
    Reads ⟨frames, .key before mayEnd⟩ (quote key ++ [':'])
      ⟨.fields before key :: frames, .value⟩ := by
  rcases (insideString_keyText frames before).reads_quoted key with ⟨content, reads, plain, closed⟩
  have closing : step? ⟨frames, .keyText before content⟩ '"' =
      some ⟨frames, .colon before key⟩ := by
    simp only [step?, plain, closed, and_self, if_true]
  rw [quote_eq, List.cons_append, List.append_assoc]
  exact .cons rfl (reads.append (.cons closing (.one rfl)))

/-! ## Brackets -/

/-- A member of a container on its line. -/
def line (layout : Layout) (depth : Nat) (part : List Char) : List Char :=
  layout.lineBreak (depth + 1) ++ part

theorem bracket_cons (layout : Layout) (depth : Nat) (opening closing : Char) (part : List Char)
    (parts : List (List Char)) :
    bracket layout depth opening closing (part :: parts) =
      opening :: (line layout depth part ++
        parts.flatMap (fun part => ',' :: line layout depth part) ++
          (layout.lineBreak depth ++ [closing])) := by
  have joined (first : List Char) (lines : List (List Char)) :
      ((first :: lines).intersperse [',']).flatten =
        first ++ lines.flatMap fun line => ',' :: line := by
    induction lines generalizing first with
    | nil => simp
    | cons second lines ih =>
      rw [List.intersperse_cons_cons, List.flatten_cons, List.flatten_cons, ih, List.flatMap_cons]
      rfl
  simp only [bracket, line, List.map_cons, joined, List.flatMap_map, List.append_assoc]

theorem writeItems_eq_map (layout : Layout) (depth : Nat) (items : List Json) :
    writeItems layout depth items = items.map (write layout depth) := by
  induction items with
  | nil => rfl
  | cons item items ih => rw [writeItems, ih, List.map_cons]

/-- The characters of a field. -/
def writeField (layout : Layout) (depth : Nat) (field : Option String × Json) : List Char :=
  quote field.1 ++ ':' :: (layout.afterColon ++ write layout depth field.2)

theorem writeFields_eq_map (layout : Layout) (depth : Nat)
    (fields : List (Option String × Json)) :
    writeFields layout depth fields = fields.map (writeField layout depth) := by
  induction fields with
  | nil => rfl
  | cons field fields ih =>
    rw [writeFields, ih, List.map_cons]
    rfl

/-- A kind of container, by its brackets, the frame that is open around a member
with those before it, and the value that its members make. -/
structure Container (Member : Type) where
  opening : Char
  closing : Char
  content : Member → Json
  frame : List Member → Member → Frame
  whole : List Member → Json
  closes : Closes closing
  afterValue?_closing : ∀ before last frames,
    afterValue? (frame before last :: frames) (content last) closing =
      some ⟨frames, .ended (whole (last :: before).reverse)⟩

namespace Container

/-- Arrays. -/
def items : Container Json where
  opening := '['
  closing := ']'
  content item := item
  frame before _ := .items before
  whole := .array
  closes := .inr (.inr (.inl rfl))
  afterValue?_closing _ _ _ := rfl

/-- Objects. -/
def fields : Container (Option String × Json) where
  opening := '{'
  closing := '}'
  content := Prod.snd
  frame before field := .fields before field.1
  whole := .object
  closes := .inr (.inr (.inr rfl))
  afterValue?_closing _ _ _ := rfl

variable {Member : Type} {container : Container Member} {members : List Member} {depth : Nat}

/-- Whether the members read so far, in reverse, are some, and the value of the
last of them has ended. -/
def Between (container : Container Member) (frames : List Frame) (members : List Member)
    (progress : Progress) : Prop :=
  ∃ last before, members = last :: before ∧
    Ended progress (container.frame before last :: frames) (container.content last)

/-- Members are read one after the other if each of them is read behind those
before it. -/
theorem reads_members (text : Member → List Char)
    (reads : ∀ member ∈ members, ∀ before progress, container.Between frames before progress →
      ∃ stop, Reads progress (',' :: text member) stop ∧
        container.Between frames (member :: before) stop)
    (before : List Member) (start : Progress) (between : container.Between frames before start) :
    ∃ stop, Reads start (members.flatMap fun member => ',' :: text member) stop ∧
      container.Between frames (members.reverse ++ before) stop := by
  induction members generalizing before start with
  | nil => exact ⟨start, .nil start, between⟩
  | cons member members ih =>
    rcases reads member List.mem_cons_self before start between with ⟨middle, first, held⟩
    rcases ih (fun other later => reads other (List.mem_cons_of_mem member later)) _ middle held
      with ⟨stop, rest, all⟩
    refine ⟨stop, first.append rest, ?_⟩
    rw [List.reverse_cons, List.append_assoc, List.singleton_append]
    exact all

/-- A container is read from its brackets if its first member is read behind the
opening one and every other member behind those before it. -/
theorem reads_bracket (spaced : layout.Spaced) {text : Member → List Char} {member : Member}
    (opens : step? ⟨frames, .value⟩ container.opening = some start)
    (first : ∃ stop, Reads start (line layout depth (text member)) stop ∧
      container.Between frames [member] stop)
    (next : ∀ other ∈ members, ∀ before progress, container.Between frames before progress →
      ∃ stop, Reads progress (',' :: line layout depth (text other)) stop ∧
        container.Between frames (other :: before) stop) :
    Reads ⟨frames, .value⟩
      (bracket layout depth container.opening container.closing ((member :: members).map text))
      ⟨frames, .ended (container.whole (member :: members))⟩ := by
  rcases first with ⟨afterFirst, firstReads, firstBetween⟩
  rcases reads_members (fun member => line layout depth (text member)) next [member] afterFirst
    firstBetween with ⟨afterAll, allReads, last, before, shape, ended⟩
  rcases ended.reads_space (spaced.lineBreak depth) with ⟨beforeClosing, spaceReads, stillEnded⟩
  have all : (last :: before).reverse = member :: members := by
    rw [← shape]
    simp
  have closing : step? beforeClosing container.closing =
      some ⟨frames, .ended (container.whole (member :: members))⟩ := by
    rw [stillEnded.step _ container.closes, container.afterValue?_closing, all]
  rw [List.map_cons, bracket_cons, List.flatMap_map]
  exact .cons opens ((firstReads.append allReads).append (spaceReads.append (.one closing)))

end Container

/-! ## Written values -/

/-- Whether the reader takes the text of a value for that value, at every depth
and inside all containers. -/
def ReadBack (layout : Layout) (value : Json) : Prop :=
  ∀ depth frames, ∃ stop, Reads ⟨frames, .value⟩ (write layout depth value) stop ∧
    Ended stop frames value

theorem write_head (wellFormed : WellFormed value) (layout : Layout) (depth : Nat) :
    ∃ c rest, write layout depth value = c :: rest ∧ isSpace c = false ∧ c ≠ ']' := by
  cases wellFormed with
  | null => exact ⟨_, _, rfl, rfl, by decide⟩
  | bool value =>
    cases value with
    | true => exact ⟨_, _, rfl, rfl, by decide⟩
    | false => exact ⟨_, _, rfl, rfl, by decide⟩
  | @number literal isNumber =>
    rcases isNumber with ⟨last, stages, _⟩
    cases literal with
    | nil => cases stages
    | cons c rest =>
      rcases Option.bind_eq_some_iff.mp stages with ⟨stage, first, _⟩
      rcases beginValue?_of_first? first [] with ⟨noSpace, different, _⟩
      exact ⟨c, rest, rfl, noSpace, different⟩
  | string text => exact ⟨'"', _, quote_eq text, rfl, by decide⟩
  | @array items =>
    cases items with
    | nil => exact ⟨_, _, rfl, rfl, by decide⟩
    | cons item items => exact ⟨_, _, bracket_cons layout depth '[' ']' _ _, rfl, by decide⟩
  | @object fields =>
    cases fields with
    | nil => exact ⟨_, _, rfl, rfl, by decide⟩
    | cons field fields => exact ⟨_, _, bracket_cons layout depth '{' '}' _ _, rfl, by decide⟩

/-- The first item of an array begins as any other value does. -/
theorem reads_firstItem (noSpace : isSpace c = false) (notClosing : c ≠ ']')
    (reads : Reads ⟨.items [] :: frames, .value⟩ (c :: rest) stop) :
    Reads ⟨frames, .firstItem⟩ (c :: rest) stop := by
  have blank : ¬isSpace c = true := by rw [noSpace]; exact Bool.false_ne_true
  have same : step? ⟨frames, .firstItem⟩ c = step? ⟨.items [] :: frames, .value⟩ c := by
    simp only [step?, if_neg blank, if_neg notClosing]
  rw [Reads, List.foldlM_cons] at reads ⊢
  rwa [same]

theorem readBack_array {items : List Json} (spaced : layout.Spaced)
    (wellFormed : ∀ item ∈ items, WellFormed item)
    (readBack : ∀ item ∈ items, ReadBack layout item) : ReadBack layout (.array items) := by
  intro depth frames
  refine ⟨⟨frames, .ended (.array items)⟩, ?_, ended_ended frames _⟩
  rw [write, writeItems_eq_map]
  cases items with
  | nil => exact rfl
  | cons item items =>
    have opens : step? ⟨frames, .value⟩ '[' = some ⟨frames, .firstItem⟩ := rfl
    refine Container.items.reads_bracket spaced opens ?_ ?_
    · rcases readBack item List.mem_cons_self (depth + 1) (.items [] :: frames) with
        ⟨stop, reads, ended⟩
      rcases write_head (wellFormed item List.mem_cons_self) layout (depth + 1) with
        ⟨c, rest, shape, noSpace, notClosing⟩
      refine ⟨stop, (reads_space_firstItem (spaced.lineBreak _) frames).append ?_, item, [], rfl,
        ended⟩
      rw [shape] at reads ⊢
      exact reads_firstItem noSpace notClosing reads
    · rintro other member _ progress ⟨last, before, rfl, ended⟩
      rcases readBack other (List.mem_cons_of_mem item member) (depth + 1)
        (.items (last :: before) :: frames) with ⟨stop, reads, otherEnded⟩
      refine ⟨stop, .cons (ended.step ',' (.inr (.inl rfl))) ?_, other, last :: before, rfl,
        otherEnded⟩
      exact (reads_space_value (spaced.lineBreak _) _).append reads

theorem readBack_object {fields : List (Option String × Json)} (spaced : layout.Spaced)
    (readBack : ∀ field ∈ fields, ReadBack layout field.2) : ReadBack layout (.object fields) := by
  intro depth frames
  refine ⟨⟨frames, .ended (.object fields)⟩, ?_, ended_ended frames _⟩
  rw [write, writeFields_eq_map]
  cases fields with
  | nil => exact rfl
  | cons field fields =>
    have one : ∀ other ∈ field :: fields, ∀ before mayEnd,
        ∃ stop, Reads ⟨frames, .key before mayEnd⟩
          (line layout depth (writeField layout (depth + 1) other)) stop ∧
            Container.fields.Between frames (other :: before) stop := by
      intro other member before mayEnd
      rcases readBack other member (depth + 1) (.fields before other.1 :: frames) with
        ⟨stop, reads, ended⟩
      refine ⟨stop, (reads_space_key (spaced.lineBreak _) frames before mayEnd).append ?_, other,
        before, rfl, ended⟩
      have shape : writeField layout (depth + 1) other =
          (quote other.1 ++ [':']) ++ (layout.afterColon ++ write layout (depth + 1) other.2) := by
        rw [writeField, List.append_assoc, List.singleton_append]
      rw [shape]
      exact (reads_key other.1 frames before mayEnd).append
        ((reads_space_value spaced.afterColon _).append reads)
    have opens : step? ⟨frames, .value⟩ '{' = some ⟨frames, .key [] true⟩ := rfl
    refine Container.fields.reads_bracket spaced opens ?_ ?_
    · exact one field List.mem_cons_self [] true
    · rintro other member _ progress ⟨last, before, rfl, ended⟩
      rcases one other (List.mem_cons_of_mem field member) (last :: before) false with
        ⟨stop, reads, between⟩
      exact ⟨stop, .cons (ended.step ',' (.inr (.inl rfl))) reads, between⟩

/-- A value with proper numbers is read back from its text. -/
theorem readBack_of_wellFormed (spaced : layout.Spaced) (wellFormed : WellFormed value) :
    ReadBack layout value := by
  induction wellFormed with
  | null => exact fun depth frames => ⟨_, reads_null frames, ended_word frames _⟩
  | bool value =>
    intro depth frames
    cases value with
    | true => exact ⟨_, reads_true frames, ended_word frames _⟩
    | false => exact ⟨_, reads_false frames, ended_word frames _⟩
  | number isNumber => exact fun depth frames => reads_number isNumber frames
  | string text => exact fun depth frames => ⟨_, reads_string text frames, ended_ended frames _⟩
  | array members ih => exact readBack_array spaced members ih
  | object _ ih => exact readBack_object spaced ih

/-- Parsing undoes writing, with any space behind the text. -/
theorem parse?_write (spaced : layout.Spaced) (wellFormed : WellFormed value)
    (space : ∀ c ∈ text, isSpace c) (depth : Nat) :
    parse? (write layout depth value ++ text) = some value := by
  rcases readBack_of_wellFormed spaced wellFormed depth [] with ⟨middle, reads, ended⟩
  rcases ended.reads_space space with ⟨stop, spaceReads, stillEnded⟩
  rw [parse?_of_reads (reads.append spaceReads), stillEnded.finish rfl]

end Json
end Worksheet
