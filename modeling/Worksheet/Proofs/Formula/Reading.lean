import Worksheet.Proofs.Formula.Coverage
import Worksheet.Proofs.Formula.Precedents
import Worksheet.Proofs.Formula.Tidy
import Worksheet.Proofs.Layout

namespace Worksheet
namespace Formula

/-!
The search for precedents against the evaluation of the arguments.  The two
take a formula apart in different ways: the one looks for ranges and tokens
anywhere in the text, the other cuts the arguments at commas and colons and
drops blanks and dollar signs.  If the arguments are tidy, every canonical
identifier that the evaluation looks up is found by the search.
-/

open Reference (IsToken Outside isTokenChar dropDollars tokenMeasure)
open Text (Delimited isBlank trim)
open Range (partId)

variable {text arguments first second rest : List Char} {id : String} {c : Char}

/-- A formula is covered if the search finds all that it looks up. -/
theorem covered_of_scanned {formula : String} (starts : isFormula formula = true)
    (found : ∀ id ∈ reads formula, id ∈ scannedIds formula.toList) : Covered formula :=
  covered_of_reads fun id member => (mem_precedents starts).mpr (found id member)

/-! ## Operands -/

theorem toList_partId (tidy : Tidy text) : (partId text).toList = dropDollars (trim text) := by
  rw [partId, String.toList_ofList, tidy.trim_dropDollars]

theorem isToken_trim_of_partId (tidy : Tidy text) (named : IsToken (partId text).toList) :
    IsToken (trim text) := by
  rw [toList_partId tidy] at named
  exact tidy.isToken_trim named

theorem partId_eq_tokenId (tidy : Tidy text) : partId text = tokenId (trim text) := by
  rw [partId, tidy.trim_dropDollars, tokenId]

theorem notLower_of_mem_dropDollars_trim (tidy : Tidy text)
    (member : c ∈ dropDollars (trim text)) : c.isLower = false :=
  tidy.upper c ((Text.delimited_trim text).subset (List.mem_of_mem_filter member))

theorem operandId_eq_partId (tidy : Tidy text) : operandId text = partId text := by
  have upper : (dropDollars (trim text)).map Char.toUpper = dropDollars (trim text) :=
    Reference.map_toUpper_eq_self fun _ member => notLower_of_mem_dropDollars_trim tidy member
  rw [operandId, upper, partId, tidy.trim_dropDollars]

theorem partId_trim (tidy : Tidy text) : partId (trim text) = partId text := by
  have inner : Tidy (trim text) := tidy.of_delimited
    ((Text.delimited_trim text).mono fun c blank => Reference.isReferenceChar_of_isBlank blank)
  rw [partId_eq_tokenId inner, partId_eq_tokenId tidy, Text.trim_trim]

theorem partId_mem_scannedIds (tidy : Tidy text) (named : IsToken (partId text).toList) :
    partId text ∈ scannedIds text := by
  rw [partId_eq_tokenId tidy]
  apply scannedIds_subset_of_delimited
    ((Text.delimited_trim text).mono fun c blank => Reference.outside_of_isBlank blank)
  exact tokenId_mem_scannedIds (isToken_trim_of_partId tidy named)

/-! ## Corners -/

theorem Tidy.before_colon (tidy : Tidy (first ++ ':' :: rest)) : Tidy first :=
  tidy.of_delimited (.append_cons rfl)

theorem Tidy.after_colon (tidy : Tidy (first ++ ':' :: rest)) : Tidy rest :=
  tidy.of_delimited (.of_cons rfl)

/-- A first corner stands right before its colon. -/
theorem delimited_corner (tidy : Tidy (first ++ ':' :: rest)) :
    Delimited Outside (trim first ++ ':' :: rest) (first ++ ':' :: rest) := by
  rcases Text.exists_trim_of_getLast? fun c last => tidy.isBlank_before_colon last with
    ⟨before, whole, blank⟩
  refine ⟨before, [], ?_, fun c last => ?_, fun c first => nomatch first⟩
  · rw [List.append_nil, ← List.append_assoc, ← whole]
  · exact Reference.outside_of_isBlank (blank c (List.mem_of_getLast? last))

theorem partId_mem_scannedIds_colon (tidy : Tidy (first ++ ':' :: rest))
    (none : tokenMeasure rest = 0) (named : IsToken (partId first).toList) :
    partId first ∈ scannedIds (first ++ ':' :: rest) := by
  rw [partId_eq_tokenId tidy.before_colon]
  apply scannedIds_subset_of_delimited (delimited_corner tidy)
  exact tokenId_mem_scannedIds_colon (isToken_trim_of_partId tidy.before_colon named) none

/-- A second corner stands right after its colon and ends where no token goes
on. -/
theorem exists_after_corner (tidy : Tidy (first ++ ':' :: rest)) {more : List (List Char)}
    (parts : Text.split ':' rest = second :: more) :
    ∃ after, rest = trim second ++ after ∧ ∀ c ∈ after.head?, isTokenChar c = false := by
  rcases Text.split_cases ':' rest with ⟨_, whole⟩ | ⟨piece, later, rfl, _, cut⟩
  · rw [whole] at parts
    cases parts
    rcases Text.exists_trim_of_head? fun c first => tidy.isBlank_after_colon first with
      ⟨after, whole, blank⟩
    exact ⟨after, whole, fun c first =>
      Reference.isTokenChar_of_isBlank (blank c (List.mem_of_mem_head? first))⟩
  · rw [cut] at parts
    cases parts
    have begins : ∀ c ∈ second.head?, isBlank c = false := by
      intro c first
      refine tidy.isBlank_after_colon ?_
      rw [List.head?_append, first, Option.some_or]
      rfl
    rcases Text.exists_trim_of_head? begins with ⟨after, whole, blank⟩
    refine ⟨after ++ ':' :: later, ?_, fun c first => ?_⟩
    · rw [← List.append_assoc, ← whole]
    · cases after with
      | nil =>
        rw [← Option.some.inj first]
        rfl
      | cons d after =>
        rw [← Option.some.inj first]
        exact Reference.isTokenChar_of_isBlank (blank d List.mem_cons_self)

/-- No token begins after a colon whose second corner is blank. -/
theorem tokenMeasure_of_blank_corner (tidy : Tidy (first ++ ':' :: rest)) {more : List (List Char)}
    (parts : Text.split ':' rest = second :: more) (nothing : partId second = "") :
    tokenMeasure rest = 0 := by
  have inner : Tidy second :=
    tidy.after_colon.of_mem_split rfl (by rw [parts]; exact List.mem_cons_self)
  have blank : trim second = [] := by
    apply inner.trim_eq_nil
    rw [← toList_partId inner, nothing]
    rfl
  rcases exists_after_corner tidy parts with ⟨after, whole, stops⟩
  rw [blank, List.nil_append] at whole
  rw [whole]
  cases after with
  | nil => rfl
  | cons c after =>
    exact (Reference.separates_tokenMeasure (stops c rfl)).cons Reference.bounded_tokenMeasure after

theorem rangeIds_corners_subset (tidy : Tidy (first ++ ':' :: rest)) {more : List (List Char)}
    (parts : Text.split ':' rest = second :: more) (isFirst : IsToken (trim first))
    (isSecond : IsToken (trim second)) :
    rangeIds (trim first ++ ':' :: trim second) ⊆ scannedIds (first ++ ':' :: rest) := by
  rcases exists_after_corner tidy parts with ⟨after, whole, stops⟩
  have found := rangeIds_subset_scannedIds isFirst isSecond fun c first =>
    Reference.isDigit_of_not_isTokenChar (stops c first)
  rw [← whole] at found
  exact fun id member => scannedIds_subset_of_delimited (delimited_corner tidy) (found member)

/-! ## Range arguments -/

theorem rangeReads_eq (tidy : Tidy arguments) :
    rangeReads arguments = match Range.expand arguments with
      | .ok ids => ids
      | .error _ => [] := by
  rw [rangeReads, rangeCells, Reference.map_toUpper_eq_self tidy.upper]
  cases Range.expand arguments <;> rfl

theorem isToken_trim_of_parse? (tidy : Tidy text) {address : Address}
    (parsed : Address.parse? (partId text) = some address) : IsToken (trim text) := by
  refine isToken_trim_of_partId tidy (Reference.isToken_of_parse? parsed fun c member => ?_)
  rw [toList_partId tidy] at member
  exact notLower_of_mem_dropDollars_trim tidy member

/-- The range of two trimmed corners is that of the whole text. -/
theorem ofText_trimmed_corners (tidyFirst : Tidy first) (tidySecond : Tidy second)
    {top bottom : Address} (isFirst : Address.parse? (partId first) = some top)
    (isSecond : Address.parse? (partId second) = some bottom) :
    Range.ofText (trim first ++ ':' :: trim second) = .rectangle top bottom := by
  have firstToken := isToken_trim_of_parse? tidyFirst isFirst
  have secondToken := isToken_trim_of_parse? tidySecond isSecond
  have noComma : ',' ∉ trim first ++ ':' :: trim second := by
    intro member
    rcases List.mem_append.mp member with earlier | later
    · cases firstToken.isTokenChar earlier
    · rcases List.mem_cons.mp later with colon | later
      · cases colon
      · cases secondToken.isTokenChar later
  have something : partId (trim second) ≠ "" := by
    intro nothing
    rw [partId_trim tidySecond] at nothing
    rw [nothing] at isSecond
    cases isSecond
  rw [Range.ofText_of_corners noComma (not_mem_colon_of_isToken firstToken)
    (Text.split_of_not_mem (not_mem_colon_of_isToken secondToken)) something,
    partId_trim tidyFirst, partId_trim tidySecond, isFirst, isSecond]

/-- What an argument with two corners looks up is found. -/
theorem mem_scannedIds_of_corners (tidy : Tidy (first ++ ':' :: rest)) {more : List (List Char)}
    (noComma : ',' ∉ first ++ ':' :: rest) (noColon : ':' ∉ first)
    (parts : Text.split ':' rest = second :: more) (something : partId second ≠ "")
    (member : id ∈ rangeReads (first ++ ':' :: rest)) : id ∈ scannedIds (first ++ ':' :: rest) := by
  have tidySecond : Tidy second :=
    tidy.after_colon.of_mem_split rfl (by rw [parts]; exact List.mem_cons_self)
  rw [rangeReads_eq tidy, Range.expand,
    Range.ofText_of_corners noComma noColon parts something] at member
  cases isFirst : Address.parse? (partId first) with
  | none =>
    rw [isFirst] at member
    cases member
  | some top =>
    cases isSecond : Address.parse? (partId second) with
    | none =>
      rw [isFirst, isSecond] at member
      cases member
    | some bottom =>
      rw [isFirst, isSecond] at member
      have same := ofText_trimmed_corners tidy.before_colon tidySecond isFirst isSecond
      apply rangeIds_corners_subset tidy parts
        (isToken_trim_of_parse? tidy.before_colon isFirst)
        (isToken_trim_of_parse? tidySecond isSecond)
      rw [rangeIds, Range.expand, same]
      cases cells : (Range.rectangle top bottom).cells with
      | error error =>
        simp only [cells] at member
        cases member
      | ok ids =>
        simp only [cells] at member
        exact member

theorem mem_scannedIds_of_rangeReads (tidy : Tidy arguments) (member : id ∈ rangeReads arguments)
    (named : IsToken id.toList) : id ∈ scannedIds arguments := by
  have expanded := member
  rw [rangeReads_eq tidy, Range.expand] at expanded
  by_cases comma : ',' ∈ arguments
  · rw [Range.ofText_of_comma comma] at expanded
    rcases List.mem_map.mp expanded with ⟨part, listed, rfl⟩
    apply scannedIds_subset_of_delimited
      ((Text.delimited_of_mem_split listed).mono fun c same => same ▸ ⟨rfl, by decide⟩)
    exact partId_mem_scannedIds (tidy.of_mem_split rfl listed) named
  rcases Text.split_cases ':' arguments with ⟨noColon, _⟩ | ⟨first, rest, rfl, noColon, _⟩
  · rw [Range.ofText_of_no_colon comma noColon] at expanded
    rcases List.mem_singleton.mp expanded
    exact partId_mem_scannedIds tidy named
  rcases parts : Text.split ':' rest with _ | ⟨second, more⟩
  · exact absurd parts (Text.split_ne_nil ':' rest)
  by_cases nothing : partId second = ""
  · rw [Range.ofText_of_blank_corner comma noColon parts nothing] at expanded
    rcases List.mem_singleton.mp expanded
    exact partId_mem_scannedIds_colon tidy (tokenMeasure_of_blank_corner tidy parts nothing) named
  · exact mem_scannedIds_of_corners tidy comma noColon parts nothing member

/-! ## Calls -/

/-- The part of the arguments of a call in which references stand. -/
def referencePart (function : SheetFunction) (arguments : List Char) : List Char :=
  match function with
  | .findAndReplace => (Text.split ',' arguments).headD []
  | _ => arguments

theorem operandId_mem_scannedIds (tidy : Tidy text) (named : IsToken (operandId text).toList) :
    operandId text ∈ scannedIds text := by
  rw [operandId_eq_partId tidy] at named ⊢
  exact partId_mem_scannedIds tidy named

theorem scannedIds_subset_of_mem_split (member : text ∈ Text.split ',' arguments) :
    scannedIds text ⊆ scannedIds arguments :=
  scannedIds_subset_of_delimited
    ((Text.delimited_of_mem_split member).mono fun _ same => same ▸ ⟨rfl, by decide⟩)

/-- What a call looks up is found in its arguments. -/
theorem mem_scannedIds_of_callReads {function : SheetFunction}
    (tidy : Tidy (referencePart function arguments)) (member : id ∈ callReads function arguments)
    (named : IsToken id.toList) : id ∈ scannedIds arguments := by
  cases function with
  | power | round =>
    rcases List.mem_map.mp member with ⟨operand, early, rfl⟩
    have listed := List.mem_of_mem_take early
    exact scannedIds_subset_of_mem_split listed
      (operandId_mem_scannedIds (tidy.of_mem_split rfl listed) named)
  | trim | upper | lower =>
    rcases List.mem_singleton.mp member
    exact operandId_mem_scannedIds tidy named
  | findAndReplace =>
    rcases List.mem_map.mp member with ⟨operand, early, rfl⟩
    have same : (operandId ∘ trim) operand = operandId operand := by
      simp [operandId]
    rw [same] at named ⊢
    cases pieces : Text.split ',' arguments with
    | nil => exact absurd pieces (Text.split_ne_nil ',' arguments)
    | cons first more =>
      rw [pieces] at early
      rcases List.mem_singleton.mp early
      have listed : operand ∈ Text.split ',' arguments := by
        rw [pieces]
        exact List.mem_cons_self
      rw [referencePart, pieces, List.headD_cons] at tidy
      exact scannedIds_subset_of_mem_split listed (operandId_mem_scannedIds tidy named)
  | sum | average | max | min | count | stdev | product | removeDuplicates | concatenate =>
    exact mem_scannedIds_of_rangeReads tidy member named

/-- The arguments of a call stand in the formula between two brackets. -/
theorem delimited_arguments {formula : String} {function : SheetFunction}
    (starts : isFormula formula = true)
    (call : readCall? (formula.toList.drop 1) = some (function, arguments)) :
    arguments = [] ∨ Delimited Outside arguments formula.toList := by
  rcases Option.bind_eq_some_iff.mp call with ⟨⟨name, rest⟩, cut, call⟩
  rcases Option.bind_eq_some_iff.mp call with ⟨_, _, result⟩
  cases result
  rcases Text.beforeLast_eq_nil_or ')' rest with empty | ⟨after, closed⟩
  · exact .inl empty
  right
  have inner : Delimited Outside (Text.beforeLast ')' rest)
      (Text.beforeLast ')' rest ++ ')' :: after) := .append_cons ⟨rfl, by decide⟩
  rw [← closed] at inner
  have opened : Delimited Outside rest (trim (formula.toList.drop 1)) := by
    rw [Text.eq_of_cutAtFirst? cut]
    exact .of_cons ⟨rfl, by decide⟩
  have trimmed := (Text.delimited_trim (formula.toList.drop 1)).mono fun c blank =>
    Reference.outside_of_isBlank blank
  have marked : Delimited Outside (formula.toList.drop 1) formula.toList := by
    rcases List.head?_eq_some_iff.mp (of_decide_eq_true starts) with ⟨body, whole⟩
    rw [whole]
    have body : Delimited Outside body ([] ++ '=' :: body) := .of_cons ⟨rfl, by decide⟩
    exact body
  exact ((inner.trans opened).trans trimmed).trans marked

/-- Whether the arguments of a formula are tidy as far as references stand in
them. -/
def TidyArguments (formula : String) : Prop :=
  ∀ function arguments, readCall? (formula.toList.drop 1) = some (function, arguments) →
    Tidy (referencePart function arguments)

/-- The precedents of a formula with tidy arguments are all the canonical
identifiers that its evaluation looks up. -/
theorem mem_precedents_of_mem_reads {formula : String} (tidy : TidyArguments formula)
    (member : id ∈ reads formula) (canonical : canonicalId id = id) : id ∈ precedents formula := by
  have named := Reference.isToken_of_canonical canonical
  unfold reads at member
  split at member
  · next starts =>
    rw [mem_precedents starts]
    cases call : readCall? (formula.toList.drop 1) with
    | none =>
      rw [call] at member
      cases member
    | some parts =>
      rcases parts with ⟨function, arguments⟩
      rw [call] at member
      have found := mem_scannedIds_of_callReads (tidy function arguments call) member named
      rcases delimited_arguments starts call with rfl | delimited
      · rw [scannedIds_nil] at found
        cases found
      · exact scannedIds_subset_of_delimited delimited found
  · cases member

/-- A formula with tidy arguments is covered on canonical identifiers. -/
theorem coveredOn_of_tidyArguments {formula : String} (tidy : TidyArguments formula) :
    CoveredOn (fun id => canonicalId id = id) formula := by
  intro first second missing agree
  refine evaluate_congr fun id member => ?_
  by_cases canonical : canonicalId id = id
  · exact agree id (mem_precedents_of_mem_reads tidy member canonical)
  · rw [(missing id canonical).1, (missing id canonical).2]

/-- A formula with tidy arguments has the same value over any two grids with
canonical identifiers that agree on its precedents. -/
theorem evaluate_eq_of_precedents {formula : String} (tidy : TidyArguments formula)
    {first second : Grid} (firstCanonical : ∀ id, first.Holds id → canonicalId id = id)
    (secondCanonical : ∀ id, second.Holds id → canonicalId id = id)
    (agree : ∀ id ∈ precedents formula, first.value? id = second.value? id) :
    evaluate formula first.value? = evaluate formula second.value? := by
  refine coveredOn_of_tidyArguments tidy _ _ (fun id strange => ⟨?_, ?_⟩) agree
  · exact Grid.value?_of_not_holds fun holds => strange (firstCanonical id holds)
  · exact Grid.value?_of_not_holds fun holds => strange (secondCanonical id holds)

theorem evaluate_sum_eq_of_precedents :
    let sheet (content : String) := Grid.ofList [("A1", .ofInput "1"), ("C1", .ofInput content)]
    TidyArguments "=SUM($A1:B$2)" ∧
      evaluate "=SUM($A1:B$2)" (sheet "2").value? =
        evaluate "=SUM($A1:B$2)" (sheet "3").value? := by
  intro sheet
  have tidy : TidyArguments "=SUM($A1:B$2)" := by
    intro function arguments call
    have cut : readCall? ("=SUM($A1:B$2)".toList.drop 1) = some (.sum, "$A1:B$2".toList) := by
      decide +kernel
    rw [cut] at call
    cases call
    have upper : ("$A1:B$2".toList.all fun c => !c.isLower) = true := by decide +kernel
    refine ⟨fun c member => ?_, by decide +kernel, by decide +kernel⟩
    exact Bool.not_eq_true' _ ▸ List.all_eq_true.mp upper c member
  have cells (content id : String) : (sheet content).get? id =
      if "C1" = id then some (.ofInput content)
      else if "A1" = id then some (.ofInput "1") else none := by
    simp [sheet, Grid.ofList, Grid.get?_insert]
  have canonical (content id : String) (holds : (sheet content).Holds id) :
      canonicalId id = id := by
    rw [Grid.Holds, cells] at holds
    split at holds
    · next same =>
      rw [← same]
      decide +kernel
    · split at holds
      · next same =>
        rw [← same]
        decide +kernel
      · cases holds
  refine ⟨tidy, evaluate_eq_of_precedents tidy (canonical "2") (canonical "3") ?_⟩
  intro id member
  have different : "C1" ≠ id := by
    rintro rfl
    rw [mem_precedents (by decide)] at member
    revert member
    decide +kernel
  rw [Grid.value?, Grid.value?, cells, cells, if_neg different, if_neg different]

end Formula
end Worksheet
