import Worksheet.Proofs.Formula.Inquiry
import Worksheet.Proofs.Formula.Precedents
import Worksheet.Proofs.Range
import Worksheet.Proofs.Reference.Shift

namespace Worksheet

/-!
Formulas that name nothing in vain.  The search for precedents takes every
reference that it finds in the text of a formula, while the evaluation looks up
what its arguments are as a whole.  In a plain call every argument is one
reference or names nothing, so the two agree: all that is named can be
consulted.
-/

namespace Formula

open Reference (IsToken Outside dropDollars rangeTokenMeasure tokenMeasure)
open Range (partId)
open Text (isBlank split trim)

variable {text token first second before after arguments : List Char} {id : String} {c : Char}
  {function : SheetFunction} {lookup : Lookup}

/-! ## What a text names -/

/-- What is named on the two sides of a mark is named in the whole text, and
nothing else is. -/
theorem mem_scannedIds_append_cons (outside : Outside c) (text rest : List Char) :
    id ∈ scannedIds (text ++ c :: rest) ↔ id ∈ scannedIds text ∨ id ∈ scannedIds rest := by
  have ranges := Text.findAll_append_cons Reference.bounded_rangeTokenMeasure
    (Reference.separates_rangeTokenMeasure outside.1 outside.2) text rest
  have blotted : outsideRanges (text ++ c :: rest) =
      outsideRanges text ++ c :: outsideRanges rest :=
    Text.mapFound_append_cons Reference.bounded_rangeTokenMeasure
      (Reference.separates_rangeTokenMeasure outside.1 outside.2) _ text rest
  have tokens := Text.findAll_append_cons Reference.bounded_tokenMeasure
    (Reference.separates_tokenMeasure outside.1) (outsideRanges text) (outsideRanges rest)
  rw [← blotted] at tokens
  simp only [scannedIds, ranges, tokens, List.flatMap_append, List.map_append, List.mem_append]
  exact or_or_or_comm

theorem mem_scannedIds_append_of_outside (outside : ∀ c ∈ before, Outside c) :
    id ∈ scannedIds (before ++ text) ↔ id ∈ scannedIds text := by
  induction before with
  | nil => rfl
  | cons c before ih =>
    rcases List.forall_mem_cons.mp outside with ⟨here, later⟩
    have split : id ∈ scannedIds ([] ++ c :: (before ++ text)) ↔
        id ∈ scannedIds [] ∨ id ∈ scannedIds (before ++ text) :=
      mem_scannedIds_append_cons here [] (before ++ text)
    rw [List.nil_append, scannedIds_nil, ih later] at split
    rw [List.cons_append, split]
    exact or_iff_right List.not_mem_nil

theorem mem_scannedIds_trim (text : List Char) :
    id ∈ scannedIds (trim text) ↔ id ∈ scannedIds text := by
  rcases Text.exists_trim text with ⟨before, after, whole, left, right⟩
  have outside {blanks : List Char} (blank : ∀ c ∈ blanks, isBlank c) : ∀ c ∈ blanks, Outside c :=
    fun c member => Reference.outside_of_isBlank (blank c member)
  conv_rhs => rw [whole, List.append_assoc, mem_scannedIds_append_of_outside (outside left)]
  cases after with
  | nil => rw [List.append_nil]
  | cons c after =>
    rcases List.forall_mem_cons.mp (outside right) with ⟨here, later⟩
    have nothing : id ∈ scannedIds (after ++ []) ↔ id ∈ scannedIds [] :=
      mem_scannedIds_append_of_outside later
    rw [List.append_nil, scannedIds_nil] at nothing
    rw [mem_scannedIds_append_cons here, nothing]
    exact (or_iff_left List.not_mem_nil).symm

/-- What the arguments name is named in one of their parts. -/
theorem exists_mem_split_of_mem_scannedIds (named : id ∈ scannedIds arguments) :
    ∃ part ∈ split ',' arguments, id ∈ scannedIds part := by
  induction shape : split ',' arguments generalizing arguments with
  | nil => exact absurd shape (Text.split_ne_nil ',' arguments)
  | cons part parts ih =>
    rcases Text.split_cases ',' arguments with ⟨_, whole⟩ | ⟨piece, rest, rfl, _, cut⟩
    · rw [whole] at shape
      cases shape
      exact ⟨_, List.mem_cons_self, named⟩
    · rw [cut] at shape
      cases shape
      have comma : Outside ',' := ⟨rfl, by decide⟩
      rcases (mem_scannedIds_append_cons comma part rest).mp named with here | later
      · exact ⟨part, List.mem_cons_self, here⟩
      · rcases ih later rfl with ⟨other, member, found⟩
        exact ⟨other, List.mem_cons_of_mem _ member, found⟩

theorem scannedIds_of_isToken (isToken : IsToken token) : scannedIds token = [tokenId token] := by
  have noColon := not_mem_colon_of_isToken isToken
  have noRange : Text.findAll rangeTokenMeasure token = [] := by
    have plain : Text.pieces rangeTokenMeasure token = token.map .plain :=
      Text.pieces_of_zero fun d tail ends =>
        Reference.rangeTokenMeasure_of_not_mem fun member => noColon (ends.subset member)
    rw [Text.findAll, plain, List.filterMap_map]
    exact List.filterMap_eq_nil_iff.mpr fun _ _ => rfl
  rw [scannedIds, noRange, outsideRanges_of_not_mem noColon, Text.findAll,
    Reference.pieces_of_isToken isToken]
  rfl

theorem scannedIds_of_corners (isFirst : IsToken first) (isSecond : IsToken second) :
    scannedIds (first ++ ':' :: second) = rangeIds (first ++ ':' :: second) := by
  have measured : rangeTokenMeasure (first ++ ':' :: second ++ []) =
      (first ++ ':' :: second).length := by
    have whole : first ++ ':' :: second ++ [] = first ++ ':' :: (second ++ []) := by simp
    rw [whole]
    exact Reference.rangeTokenMeasure_append isFirst isSecond fun c head => nomatch head
  have pieces : Text.pieces rangeTokenMeasure (first ++ ':' :: second) =
      [.found (first ++ ':' :: second)] := by
    have found := Text.pieces_append_of_measure (by simp) measured
    rwa [List.append_nil, Text.pieces] at found
  have blotted : outsideRanges (first ++ ':' :: second) = [' '] := by
    rw [outsideRanges, Text.mapFound, pieces]
    rfl
  have blank : Text.findAll tokenMeasure [' '] = [] := by
    rw [Text.findAll, Text.pieces_cons_of_zero (by decide), Text.pieces]
    rfl
  rw [scannedIds, blotted, blank, Text.findAll, pieces]
  simp [Text.Piece.lexeme?]

/-! ## Parts of the arguments -/

/-- A part of the arguments that is one reference or names nothing. -/
def SinglePart (text : List Char) : Prop :=
  scannedIds text = [] ∨ IsToken (trim text)

theorem partId_of_between (isToken : IsToken token) (left : ∀ c ∈ before, isBlank c)
    (right : ∀ c ∈ after, isBlank c) : partId (before ++ token ++ after) = tokenId token := by
  have inside : ∀ c ∈ dropDollars token, isBlank c = false := fun c member =>
    Reference.isBlank_of_isReferenceChar (Reference.isReferenceChar_of_isTokenChar
      (isToken.isTokenChar (List.mem_of_mem_filter member)))
  have blanks {blanks : List Char} (blank : ∀ c ∈ blanks, isBlank c) :
      dropDollars blanks = blanks :=
    Range.dropDollars_of_not_mem fun member => by cases blank _ member
  rw [partId, Range.dropDollars_append, Range.dropDollars_append, blanks left, blanks right,
    Text.trim_eq_of_between left right
      (fun c first => inside c (List.mem_of_mem_head? first))
      (fun c last => inside c (List.mem_of_getLast? last)), tokenId]

theorem partId_of_isToken_trim (isToken : IsToken (trim text)) :
    partId text = tokenId (trim text) := by
  rcases Text.exists_trim text with ⟨before, after, whole, left, right⟩
  conv_lhs => rw [whole]
  exact partId_of_between isToken left right

theorem operandId_of_isToken_trim (isToken : IsToken (trim text)) :
    operandId text = tokenId (trim text) := by
  have upper : (dropDollars (trim text)).map Char.toUpper = dropDollars (trim text) :=
    Reference.map_toUpper_eq_self fun c member =>
      Reference.notLower_of_isTokenChar (isToken.isTokenChar (List.mem_of_mem_filter member))
  rw [operandId, upper, tokenId]

/-- A part that names a cell names it as a whole. -/
theorem SinglePart.cases (single : SinglePart text) (named : id ∈ scannedIds text) :
    IsToken (trim text) ∧ id = tokenId (trim text) := by
  rcases single with nothing | isToken
  · rw [nothing] at named
    cases named
  · rw [← mem_scannedIds_trim, scannedIds_of_isToken isToken] at named
    exact ⟨isToken, List.mem_singleton.mp named⟩

theorem SinglePart.eq_operandId (single : SinglePart text) (named : id ∈ scannedIds text) :
    id = operandId text := by
  rcases single.cases named with ⟨isToken, same⟩
  rw [operandId_of_isToken_trim isToken, same]

/-! ## Range arguments -/

/-- A range argument of single parts, or of two references around a colon that
do not cover too many cells. -/
def PlainRange (arguments : List Char) : Prop :=
  (∀ part ∈ split ',' arguments, SinglePart part) ∨
    ∃ first second ids, trim arguments = first ++ ':' :: second ∧ IsToken first ∧
      IsToken second ∧ Range.expand (trim arguments) = .ok ids

theorem notLower_of_isBlank (blank : isBlank c = true) : c.isLower = false := by
  have outside := Reference.isReferenceChar_of_isBlank blank
  rw [Bool.eq_false_iff, ne_eq, Reference.isReferenceChar_iff] at outside
  rw [Bool.eq_false_iff, ne_eq, Reference.isLower_iff]
  omega

theorem map_toUpper_of_trim (upper : ∀ c ∈ trim text, c.isLower = false) :
    text.map Char.toUpper = text := by
  rcases Text.exists_trim text with ⟨before, after, whole, left, right⟩
  refine Reference.map_toUpper_eq_self fun c member => ?_
  rw [whole, List.mem_append, List.mem_append] at member
  rcases member with (early | inside) | late
  · exact notLower_of_isBlank (left c early)
  · exact upper c inside
  · exact notLower_of_isBlank (right c late)

theorem tokenId_ne_empty (isToken : IsToken token) : tokenId token ≠ "" := by
  rcases isToken with ⟨columnFixed, letters, rowFixed, digits, rfl, ⟨nonempty, upper⟩, _⟩
  rcases List.exists_cons_of_ne_nil nonempty with ⟨letter, rest, rfl⟩
  intro empty
  have kept : letter ∈ dropDollars
      (Reference.dollar columnFixed ++ (letter :: rest ++ (Reference.dollar rowFixed ++ digits))) :=
    (Range.mem_dropDollars (Reference.ne_dollar_of_isUpper (upper letter List.mem_cons_self))).mpr
      (by simp)
  rw [tokenId, ← String.toList_inj, String.toList_ofList] at empty
  rw [empty] at kept
  cases kept

theorem rangeReads_of_expand {ids : List String}
    (expanded : Range.expand (arguments.map Char.toUpper) = .ok ids) :
    rangeReads arguments = ids := by
  rw [rangeReads, rangeCells, expanded]

/-- A reference between commas is looked up. -/
theorem partId_mem_rangeReads {part : List Char} (member : part ∈ split ',' arguments)
    (isToken : IsToken (trim part)) : partId part ∈ rangeReads arguments := by
  have raised : part.map Char.toUpper = part := map_toUpper_of_trim fun c inside =>
    Reference.notLower_of_isTokenChar (isToken.isTokenChar inside)
  by_cases comma : ',' ∈ arguments
  · have listed : Range.expand (arguments.map Char.toUpper) =
        .ok ((split ',' (arguments.map Char.toUpper)).map partId) := by
      rw [Range.expand, Range.ofText_of_comma (List.mem_map.mpr ⟨',', comma, rfl⟩), Range.cells]
    rw [rangeReads_of_expand listed,
      Text.split_map fun c => Reference.toUpper_eq_iff (by decide) (by decide)]
    exact List.mem_map_of_mem (List.mem_map.mpr ⟨part, member, raised⟩)
  · rw [Text.split_of_not_mem comma, List.mem_singleton] at member
    subst member
    have noColon : ':' ∉ part := by
      intro colon
      rcases Text.exists_trim part with ⟨before, after, whole, left, right⟩
      rw [whole, List.mem_append, List.mem_append] at colon
      rcases colon with (early | inside) | late
      · cases left _ early
      · exact not_mem_colon_of_isToken isToken inside
      · cases right _ late
    have single : Range.expand (part.map Char.toUpper) = .ok [partId part] := by
      rw [raised, Range.expand, Range.ofText_of_no_colon comma noColon, Range.cells]
    rw [rangeReads_of_expand single]
    exact List.mem_singleton_self _

/-- The cells between two references that stand around a colon do not depend on
blanks around the whole. -/
theorem expand_of_corners (isFirst : IsToken first) (isSecond : IsToken second)
    (left : ∀ c ∈ before, isBlank c) (right : ∀ c ∈ after, isBlank c) :
    Range.expand (before ++ (first ++ ':' :: second) ++ after) =
      match Address.parse? (tokenId first), Address.parse? (tokenId second) with
      | some top, some bottom => (Range.rectangle top bottom).cells
      | _, _ => .ok [] := by
  have whole : before ++ (first ++ ':' :: second) ++ after =
      (before ++ first) ++ ':' :: (second ++ after) := by simp
  have free (mark : Char) (outside : Reference.isTokenChar mark = false)
      (filled : isBlank mark = false) : mark ∉ before ++ first ∧ mark ∉ second ++ after := by
    simp only [List.mem_append, not_or]
    refine ⟨⟨fun member => ?_, fun member => ?_⟩, fun member => ?_, fun member => ?_⟩
    · rw [left _ member] at filled
      cases filled
    · rw [isFirst.isTokenChar member] at outside
      cases outside
    · rw [isSecond.isTokenChar member] at outside
      cases outside
    · rw [right _ member] at filled
      cases filled
  have noComma : ',' ∉ (before ++ first) ++ ':' :: (second ++ after) := by
    rw [List.mem_append, List.mem_cons]
    rintro (member | same | member)
    · exact (free ',' rfl rfl).1 member
    · cases same
    · exact (free ',' rfl rfl).2 member
  have firstId : partId (before ++ first) = tokenId first := by
    have padded : partId (before ++ first ++ []) = tokenId first :=
      partId_of_between isFirst left fun _ member => nomatch member
    rwa [List.append_nil] at padded
  have secondId : partId ([] ++ second ++ after) = tokenId second :=
    partId_of_between isSecond (fun _ member => nomatch member) right
  rw [List.nil_append] at secondId
  have something : partId (second ++ after) ≠ "" := by
    rw [secondId]
    exact tokenId_ne_empty isSecond
  rw [whole, Range.expand, Range.ofText_of_corners noComma (free ':' rfl rfl).1
    (Text.split_of_not_mem (free ':' rfl rfl).2) something, firstId, secondId]
  cases Address.parse? (tokenId first) <;> cases Address.parse? (tokenId second) <;> rfl

theorem mem_rangeReads_of_plainRange (plain : PlainRange arguments)
    (named : id ∈ scannedIds arguments) : id ∈ rangeReads arguments := by
  rcases plain with single | ⟨first, second, ids, corners, isFirst, isSecond, small⟩
  · rcases exists_mem_split_of_mem_scannedIds named with ⟨part, member, inside⟩
    rcases (single part member).cases inside with ⟨isToken, rfl⟩
    rw [← partId_of_isToken_trim isToken]
    exact partId_mem_rangeReads member isToken
  · rcases Text.exists_trim arguments with ⟨before, after, whole, left, right⟩
    rw [← mem_scannedIds_trim, corners, scannedIds_of_corners isFirst isSecond, rangeIds,
      ← corners, small] at named
    have raised : arguments.map Char.toUpper = arguments := by
      refine map_toUpper_of_trim fun c member => ?_
      rw [corners, List.mem_append, List.mem_cons] at member
      rcases member with early | rfl | late
      · exact Reference.notLower_of_isTokenChar (isFirst.isTokenChar early)
      · rfl
      · exact Reference.notLower_of_isTokenChar (isSecond.isTokenChar late)
    have padded := expand_of_corners isFirst isSecond left right
    have tight : Range.expand ([] ++ (first ++ ':' :: second) ++ []) =
        match Address.parse? (tokenId first), Address.parse? (tokenId second) with
        | some top, some bottom => (Range.rectangle top bottom).cells
        | _, _ => .ok [] :=
      expand_of_corners isFirst isSecond (fun _ member => nomatch member)
        fun _ member => nomatch member
    rw [← corners, ← whole] at padded
    rw [← corners, List.nil_append, List.append_nil, ← padded] at tight
    rw [rangeReads_of_expand (raised ▸ tight ▸ small)]
    exact named

/-! ## Plain calls -/

/-- The arguments of a call in which each part is one reference or names
nothing.  Only as many parts may be references as the function looks up. -/
def PlainArguments (function : SheetFunction) (arguments : List Char) : Prop :=
  match function with
  | .power | .round => ∃ first second rest, split ',' arguments = first :: second :: rest ∧
      SinglePart first ∧ (Address.parse? (operandId first)).isSome ∧ SinglePart second ∧
        ∀ part ∈ rest, scannedIds part = []
  | .trim | .upper | .lower => SinglePart arguments
  | .findAndReplace => ∃ target find replacement,
      split ',' arguments = [target, find, replacement] ∧ SinglePart target ∧
        scannedIds find = [] ∧ scannedIds replacement = []
  | .sum | .average | .max | .min | .count | .stdev | .product | .removeDuplicates
  | .concatenate => PlainRange arguments

/-- Whether a formula is a call with plain arguments that names nothing outside
of them. -/
def PlainCall (formula : String) : Prop :=
  ∃ function arguments, readCall? (formula.toList.drop 1) = some (function, arguments) ∧
    PlainArguments function arguments ∧ ∀ id ∈ precedents formula, id ∈ scannedIds arguments

theorem isSome_parse?_of_canonical (canonical : canonicalId id = id) :
    (Address.parse? id).isSome := by
  rw [← canonical, canonicalId, Reference.parse?_id]
  · rfl
  · exact ⟨⟨Reference.decode_column_pos _, Reference.decode_column_le _⟩,
      Reference.decode_row_bounds _⟩

/-- Whether a call gets beyond its first operand: only a function of two numbers
can stop there, when the cell has no number. -/
def Proceeds (function : SheetFunction) (lookup : Lookup) (arguments : List Char) : Prop :=
  function = .power ∨ function = .round →
    ∃ number, numberOperand lookup (split ',' arguments)[0]? = .ok number

theorem mem_asked_operands {rest : List (List Char)} {number : Float}
    {conclude : Float → Float → Inquiry String}
    (parts : split ',' arguments = first :: second :: rest)
    (parsed : (Address.parse? (operandId first)).isSome)
    (answered : numberOperand lookup (split ',' arguments)[0]? = .ok number)
    (member : id = operandId first ∨ id = operandId second ∧ (Address.parse? id).isSome) :
    id ∈ (inquireNumber (split ',' arguments)[0]? >>= fun number =>
      inquireNumber (split ',' arguments)[1]? >>= conclude number).asked lookup := by
  rcases member with rfl | ⟨rfl, parsedSecond⟩
  · rw [parts]
    exact Inquiry.mem_asked_bind (mem_asked_inquireNumber parsed)
  · refine Inquiry.mem_asked_bind_of_ok ((answer_inquireNumber _ _).trans answered) ?_
    rw [parts]
    exact Inquiry.mem_asked_bind (mem_asked_inquireNumber parsedSecond)

/-- All that plain arguments name is consulted, if the call gets that far. -/
theorem mem_asked_call (plain : PlainArguments function arguments)
    (named : id ∈ scannedIds arguments) (canonical : canonicalId id = id)
    (proceeds : Proceeds function lookup arguments) :
    id ∈ (inquireCall function arguments).asked lookup := by
  cases function with
  | sum | average | max | min | count | stdev | product | removeDuplicates | concatenate =>
    exact Inquiry.mem_asked_bind (Inquiry.mem_asked_bind
      (mem_asked_inquireRange (mem_rangeReads_of_plainRange plain named)))
  | trim | upper | lower =>
    rw [SinglePart.eq_operandId plain named]
    exact Inquiry.mem_asked_bind (mem_asked_inquireText lookup arguments)
  | findAndReplace =>
    rcases plain with ⟨target, find, replacement, parts, single, noFind, noReplacement⟩
    rcases exists_mem_split_of_mem_scannedIds named with ⟨part, member, inside⟩
    simp only [parts, List.mem_cons, List.not_mem_nil, or_false] at member
    rcases member with rfl | rfl | rfl
    · rw [single.eq_operandId inside, inquireCall, asked_inquireReplacement parts]
      exact List.mem_singleton_self _
    · rw [noFind] at inside
      cases inside
    · rw [noReplacement] at inside
      cases inside
  | power | round =>
    rcases plain with ⟨first, second, rest, parts, isFirst, parsed, isSecond, noRest⟩
    rcases proceeds (by simp) with ⟨number, answered⟩
    refine mem_asked_operands parts parsed answered ?_
    rcases exists_mem_split_of_mem_scannedIds named with ⟨part, member, inside⟩
    rw [parts, List.mem_cons, List.mem_cons] at member
    rcases member with rfl | rfl | later
    · exact .inl (isFirst.eq_operandId inside)
    · exact .inr ⟨isSecond.eq_operandId inside, isSome_parse?_of_canonical canonical⟩
    · rw [noRest part later] at inside
      cases inside

/-- A call that does not end in a fault gets beyond its first operand. -/
theorem proceeds_of_ne_fault (noFault : call function lookup arguments ≠ .error .fault) :
    Proceeds function lookup arguments := by
  intro two
  cases outcome : numberOperand lookup (split ',' arguments)[0]? with
  | ok number => exact ⟨number, rfl⟩
  | error error =>
    obtain rfl := eq_fault_of_numberOperand outcome
    refine absurd ?_ noFault
    rcases two with rfl | rfl
    · simp only [call, outcome]
      rfl
    · simp only [call, outcome]
      rfl

/-- Where every cell holds a number, a plain call gets beyond its first
operand. -/
theorem proceeds_of_numbers (plain : PlainArguments function arguments) :
    Proceeds function (fun _ => some "0") arguments := by
  have zero : (Number.parse? "0").isSome := by decide +kernel
  intro two
  have operands : PlainArguments .power arguments := by
    rcases two with rfl | rfl
    · exact plain
    · exact plain
  rcases operands with ⟨first, second, rest, parts, _, parsed, _⟩
  have named : ¬(Address.parse? (operandId first)).isNone :=
    fun missing => Option.isSome_iff_ne_none.mp parsed (Option.isNone_iff_eq_none.mp missing)
  rcases Option.isSome_iff_exists.mp zero with ⟨number, read⟩
  refine ⟨number, ?_⟩
  rw [parts, List.getElem?_cons_zero, numberOperand]
  simp only [if_neg named, Option.bind_some, read]

/-- What a plain call names it consults, over all values with which it does not
end in a fault, and there are values with which it does. -/
theorem PlainCall.consults {formula : String} (plain : PlainCall formula)
    (named : id ∈ precedents formula) (canonical : canonicalId id = id) :
    (∀ lookup, evaluate? formula lookup ≠ .error .fault → Consults formula lookup id) ∧
      ∃ lookup, Consults formula lookup id := by
  rcases plain with ⟨function, arguments, read, plain, within⟩
  have starts := isFormula_of_mem_precedents named
  have inquiry : inquire formula = inquireCall function arguments := by
    rw [inquire, if_pos starts, read]
  have evaluated (lookup : Lookup) : evaluate? formula lookup = call function lookup arguments := by
    rw [evaluate?, if_pos starts, read]
  have consulted (lookup : Lookup) (proceeds : Proceeds function lookup arguments) :
      Consults formula lookup id := by
    rw [Consults, inquiry]
    exact mem_asked_call plain (within id named) canonical proceeds
  refine ⟨fun lookup noFault => ?_, _, consulted _ (proceeds_of_numbers plain)⟩
  rw [evaluated] at noFault
  exact consulted lookup (proceeds_of_ne_fault noFault)

end Formula
end Worksheet
