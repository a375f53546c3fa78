import Worksheet.Proofs.Formula.Literals
import Worksheet.Proofs.Formula.Reading
import Worksheet.Proofs.Recalculation.Typing

namespace Worksheet
namespace Grid

/-!
When the order of typing matters.  A formula that looks up a cell which it does
not name keeps its value when that cell is typed after it, and gets another one
when the cell is typed before it.  So sheets of one formula and literals can be
typed in any order exactly if the formula is covered.
-/

open DependencyGraph (ofGrid)
open Formula (Literal nowhere)

/-- Whether entries give the same grid in every order in which they can be
typed. -/
def OrderFree (entries : List (String × String)) : Prop :=
  ∀ other, entries.Perm other → empty.typeIn entries = empty.typeIn other

/-- Whether no cell of a grid has a formula. -/
def FormulaFree (grid : Grid) : Prop :=
  ∀ id, grid.formula? id = none

/-- The entries that put the values of a lookup into cells. -/
def entriesOf (lookup : Lookup) (ids : List String) : List (String × String) :=
  ids.filterMap fun id => (lookup id).map (id, ·)

variable {grid : Grid} {lookup : Lookup} {ids : List String} {id text formula read : String}
  {Cell : String → Prop}

/-! ## Sheets of literals -/

theorem formulaFree_empty : FormulaFree empty :=
  formula?_empty

theorem formula?_update_literal (literal : Literal text) (grid : Grid) (id : String) :
    (grid.update id (.input text)).formula? id = none := by
  cases found : (grid.update id (.input text)).formula? id with
  | none => rfl
  | some formula =>
    have starts := isFormula_of_formula? found
    rw [← formula?_update_input found, literal.2] at starts
    cases starts

theorem FormulaFree.update_literal (plain : grid.FormulaFree) (literal : Literal text)
    (id : String) : (grid.update id (.input text)).FormulaFree := by
  intro other
  by_cases here : id = other
  · rw [← here]
    exact formula?_update_literal literal grid id
  · rw [formula?_update_of_ne here]
    exact plain other

/-- An edit that leaves no formula is only written. -/
theorem edit_eq_update {target : String} {change : CellUpdate}
    (plain : (grid.update (canonicalId target) change).FormulaFree) :
    grid.edit .full target change = grid.update (canonicalId target) change := by
  apply ext_get?
  intro id
  refine (recalculated_edit grid target change).untouched id fun affected => ?_
  have cell := DependencyGraph.mem_cells_ofGrid.mp affected.mem_cells
  rw [plain id] at cell
  cases cell

theorem FormulaFree.edit_literal (plain : grid.FormulaFree) (canonical : canonicalId id = id)
    (literal : Literal text) :
    grid.edit .full id (.input text) = grid.update id (.input text) := by
  have written := plain.update_literal literal (canonicalId id)
  rw [edit_eq_update written, canonical]

theorem typeIn_eq_write {entries : List (String × String)} (plain : grid.FormulaFree)
    (literal : ∀ entry ∈ entries, Literal entry.2) :
    grid.typeIn entries = grid.write entries ∧ (grid.write entries).FormulaFree := by
  induction entries generalizing grid with
  | nil => exact ⟨rfl, plain⟩
  | cons entry entries ih =>
    have next := plain.update_literal (literal entry List.mem_cons_self) (canonicalId entry.1)
    rw [typeIn_cons, write_cons, edit_eq_update next]
    exact ih next fun other member => literal other (List.mem_cons_of_mem _ member)

theorem value?_update_literal (literal : Literal text) (grid : Grid) (id : String) :
    (grid.update id (.input text)).value? = Function.update grid.value? id (some text) := by
  funext other
  by_cases here : other = id
  · rw [here, value?_update_input, Function.update_self, present_eq_some literal.1]
  · rw [Function.update_of_ne here, value?_update_of_ne (Ne.symm here)]

theorem mem_entriesOf {entry : String × String} :
    entry ∈ entriesOf lookup ids ↔ entry.1 ∈ ids ∧ lookup entry.1 = some entry.2 := by
  rw [entriesOf, List.mem_filterMap]
  constructor
  · rintro ⟨id, listed, found⟩
    rcases Option.map_eq_some_iff.mp found with ⟨text, value, rfl⟩
    exact ⟨listed, value⟩
  · rintro ⟨listed, value⟩
    exact ⟨entry.1, listed, by rw [value]; rfl⟩

section

variable (literal : Formula.LiteralOn Cell lookup) (canonical : ∀ id, Cell id → canonicalId id = id)

include literal canonical

/-- A sheet of the values of a lookup holds them over what stood there. -/
theorem value?_write_entriesOf (ids : List String) (id : String) :
    (grid.write (entriesOf lookup ids)).value? id =
      (if id ∈ ids then lookup id else none).or (grid.value? id) := by
  induction ids generalizing grid with
  | nil => rfl
  | cons first ids ih =>
    cases value : lookup first with
    | none =>
      have skipped : entriesOf lookup (first :: ids) = entriesOf lookup ids := by
        rw [entriesOf, List.filterMap_cons, value]
        rfl
      rw [skipped, ih]
      by_cases same : id = first
      · rw [same, value, ite_self, ite_self]
      · simp only [List.mem_cons, same, false_or]
    | some text =>
      have written : entriesOf lookup (first :: ids) = (first, text) :: entriesOf lookup ids := by
        rw [entriesOf, List.filterMap_cons, value]
        rfl
      rcases literal first text value with ⟨cell, isLiteral⟩
      rw [written, write_cons, ih, canonical first cell, value?_update_literal isLiteral]
      by_cases same : id = first
      · rw [same, if_pos List.mem_cons_self, value, Function.update_self]
        split <;> rfl
      · rw [Function.update_of_ne same]
        simp only [List.mem_cons, same, false_or]

/-- On a sheet of all the values that a formula looks up, it has its value over
the lookup. -/
theorem value?_write_reads {read : String} (member : read ∈ Formula.reads formula) :
    (empty.write (entriesOf lookup (distinct (Formula.reads formula)))).value? read =
      lookup read := by
  rw [value?_write_entriesOf literal canonical, if_pos (mem_distinct.mpr member),
    value?_of_not_holds (not_holds_empty read), Option.or_none]

theorem distinctCells_entriesOf (nodup : ids.Nodup) : DistinctCells (entriesOf lookup ids) := by
  have part : ((entriesOf lookup ids).map fun entry => canonicalId entry.1).Sublist ids := by
    clear nodup
    induction ids with
    | nil => exact List.Sublist.slnil
    | cons first ids ih =>
      cases value : lookup first with
      | none =>
        rw [entriesOf, List.filterMap_cons, value]
        exact ih.cons first
      | some text =>
        rw [entriesOf, List.filterMap_cons, value]
        simp only [Option.map_some, List.map_cons, canonical first (literal first text value).1]
        exact ih.cons_cons first
  exact nodup.sublist part

end

/-! ## A single formula among literals -/

/-- A grid whose only formula stands in one cell and does not name that cell. -/
structure OnlyFormula (grid : Grid) (cell formula : String) : Prop where
  here : grid.formula? cell = some formula
  elsewhere : ∀ id, id ≠ cell → grid.formula? id = none
  apart : cell ∉ Formula.precedents formula

variable {cell : String}

theorem OnlyFormula.reads (only : grid.OnlyFormula cell formula)
    (reads : (ofGrid grid).Reads id read) : id = cell ∧ read ∈ Formula.precedents formula := by
  have here : id = cell := by
    by_contra different
    have isCell := DependencyGraph.mem_cells_ofGrid.mp
      (DependencyGraph.mem_cells_of_mem_precedents reads)
    rw [only.elsewhere id different] at isCell
    cases isCell
  rw [here] at reads
  refine ⟨here, ?_⟩
  rw [← DependencyGraph.precedents_of_formula? only.here]
  exact reads

/-- The one formula depends on the cells that it names, and nothing else
depends on anything. -/
theorem OnlyFormula.dependsOn (only : grid.OnlyFormula cell formula)
    (depends : (ofGrid grid).DependsOn id read) :
    id = cell ∧ read ∈ Formula.precedents formula := by
  induction depends using Relation.TransGen.head_induction_on with
  | single reads => exact only.reads reads
  | head reads _ ih =>
    rcases only.reads reads with ⟨_, named⟩
    rw [ih.1] at named
    exact absurd named only.apart

theorem OnlyFormula.eq_of_affected (only : grid.OnlyFormula cell formula) {target : String}
    (affected : grid.Affected target id) : id = cell ∧
      (target = cell ∨ target ∈ Formula.precedents formula) := by
  rcases affected with depends | ⟨rfl, isCell⟩
  · exact (only.dependsOn depends).imp_right .inr
  · have here : id = cell := by
      by_contra different
      rw [only.elsewhere id different] at isCell
      cases isCell
    exact ⟨here, .inl here⟩

theorem OnlyFormula.of_sameLayout {first second : Grid} (only : second.OnlyFormula cell formula)
    (layout : SameLayout first second) : first.OnlyFormula cell formula where
  here := (layout.formula?_eq cell).trans only.here
  elsewhere := fun id different => (layout.formula?_eq id).trans (only.elsewhere id different)
  apart := only.apart

theorem OnlyFormula.update_literal (only : grid.OnlyFormula cell formula) (literal : Literal text)
    (different : id ≠ cell) : (grid.update id (.input text)).OnlyFormula cell formula where
  here := by
    rw [formula?_update_of_ne different]
    exact only.here
  elsewhere := by
    intro other elsewhere
    by_cases here : id = other
    · rw [← here]
      exact formula?_update_literal literal grid id
    · rw [formula?_update_of_ne here]
      exact only.elsewhere other elsewhere
  apart := only.apart

theorem onlyFormula_update (plain : grid.FormulaFree) (starts : isFormula formula = true)
    (apart : cell ∉ Formula.precedents formula) :
    (grid.update cell (.input formula)).OnlyFormula cell formula where
  here := by
    have nonempty : formula ≠ "" := by
      rintro rfl
      cases starts
    rw [formula?, get?_update, if_pos rfl, Option.bind_some, Cell.activeFormula?]
    simp [Cell.apply, CellUpdate.input, starts, present_eq_some nonempty]
  elsewhere := by
    intro id different
    rw [formula?_update_of_ne different.symm]
    exact plain id
  apart := apart

/-- A formula typed after all others gets its value over the grid before. -/
theorem value?_edit_formula (plain : grid.FormulaFree) (canonical : canonicalId cell = cell)
    (starts : isFormula formula = true) (unread : cell ∉ Formula.reads formula)
    (apart : cell ∉ Formula.precedents formula) :
    (grid.edit .full cell (.input formula)).value? cell =
      some (Formula.evaluate formula grid.value?) := by
  have only := onlyFormula_update plain starts apart
  have recalculated := recalculated_edit grid cell (.input formula)
  rw [canonical] at recalculated
  have affected : (grid.update cell (.input formula)).Affected cell cell :=
    .inr ⟨rfl, by rw [only.here]; rfl⟩
  rcases recalculated.evaluated cell affected fun cycle => apart (only.dependsOn cycle).2 with
    ⟨same, stage, found, evaluated⟩
  rcases Option.some.inj (found.symm.trans only.here)
  rw [evaluated.value]
  refine congrArg some (Formula.evaluate_congr fun id member => ?_)
  have different : id ≠ cell := fun here => unread (here ▸ member)
  have merged : stage.get? id = (grid.update cell (.input formula)).get? id := by
    rcases evaluated.between id with before | after
    · exact before
    · rw [after]
      exact recalculated.untouched id fun touched => different (only.eq_of_affected touched).1
  rw [get?_update, if_neg different.symm] at merged
  exact value?_eq_of_get? merged

/-- A literal typed into a cell that the formula does not name leaves the value
of the formula as it is. -/
theorem value?_edit_literal (only : grid.OnlyFormula cell formula)
    (canonical : canonicalId id = id) (different : id ≠ cell)
    (unnamed : id ∉ Formula.precedents formula) (literal : Literal text) :
    (grid.edit .full id (.input text)).value? cell = grid.value? cell := by
  have recalculated := recalculated_edit grid id (.input text)
  rw [canonical] at recalculated
  have after := only.update_literal literal different
  have kept := recalculated.untouched cell fun affected =>
    (after.eq_of_affected affected).2.elim different unnamed
  rw [get?_update, if_neg different] at kept
  exact value?_eq_of_get? kept

theorem onlyFormula_edit (plain : grid.FormulaFree) (canonical : canonicalId cell = cell)
    (starts : isFormula formula = true) (apart : cell ∉ Formula.precedents formula) :
    (grid.edit .full cell (.input formula)).OnlyFormula cell formula := by
  have layout := (sameInputs_edit grid cell (.input formula)).layout
  rw [canonical] at layout
  exact (onlyFormula_update plain starts apart).of_sameLayout layout

/-- If a formula and a literal can be typed in either order, then the literal
does not change the value of the formula. -/
theorem evaluate_eq_of_edit_eq (plain : grid.FormulaFree) (canonical : canonicalId cell = cell)
    (starts : isFormula formula = true) (unread : cell ∉ Formula.reads formula)
    (apart : cell ∉ Formula.precedents formula) (canonicalOther : canonicalId id = id)
    (different : id ≠ cell) (unnamed : id ∉ Formula.precedents formula) (literal : Literal text)
    (same : (grid.edit .full cell (.input formula)).edit .full id (.input text) =
      (grid.edit .full id (.input text)).edit .full cell (.input formula)) :
    Formula.evaluate formula grid.value? =
      Formula.evaluate formula (Function.update grid.value? id (some text)) := by
  have early : ((grid.edit .full cell (.input formula)).edit .full id (.input text)).value? cell =
      some (Formula.evaluate formula grid.value?) := by
    rw [value?_edit_literal (onlyFormula_edit plain canonical starts apart) canonicalOther different
      unnamed literal]
    exact value?_edit_formula plain canonical starts unread apart
  have late : ((grid.edit .full id (.input text)).edit .full cell (.input formula)).value? cell =
      some (Formula.evaluate formula (Function.update grid.value? id (some text))) := by
    have written := plain.update_literal literal id
    rw [plain.edit_literal canonicalOther literal,
      value?_edit_formula written canonical starts unread apart, value?_update_literal literal]
  rw [same] at early
  exact Option.some.inj (early.symm.trans late)

/-! ## The condition -/

/-- Whether all entries lie in the given cells and the only formula among them
is one in one cell. -/
structure SingleFormula (Cell : String → Prop) (cell formula : String)
    (entries : List (String × String)) : Prop where
  distinct : DistinctCells entries
  within : ∀ entry ∈ entries, Cell (canonicalId entry.1)
  formulas : ∀ entry ∈ entries, isFormula entry.2 = true →
    canonicalId entry.1 = cell ∧ entry.2 = formula

section

variable (canonical : ∀ id, Cell id → canonicalId id = id) (isCell : Cell cell)
  (starts : isFormula formula = true) (unread : cell ∉ Formula.reads formula)
  (apart : cell ∉ Formula.precedents formula)

include canonical isCell

theorem distinctCells_append {lookup : Lookup} (literal : Formula.LiteralOn Cell lookup)
    (nodup : ids.Nodup) (unlisted : cell ∉ ids) (isOther : Cell id) (different : id ≠ cell)
    (missing : lookup id = none) :
    DistinctCells (entriesOf lookup ids ++ [(cell, formula), (id, text)]) := by
  have last : [(cell, formula), (id, text)].map (fun entry => canonicalId entry.1) =
      [cell, id] := by
    simp only [List.map_cons, List.map_nil, canonical cell isCell, canonical id isOther]
  have pair : [cell, id].Nodup := by simp [different.symm]
  rw [DistinctCells, List.map_append, last, List.nodup_append]
  refine ⟨distinctCells_entriesOf literal canonical nodup, pair, ?_⟩
  intro typed member later listed same
  rcases List.mem_map.mp member with ⟨entry, held, rfl⟩
  rcases mem_entriesOf.mp held with ⟨present, value⟩
  rw [canonical entry.1 (literal _ _ value).1] at same
  rcases List.mem_pair.mp listed with rfl | rfl
  · exact unlisted (same ▸ present)
  · rw [same, missing] at value
    cases value

theorem singleFormula_append {lookup : Lookup} (literal : Formula.LiteralOn Cell lookup)
    (nodup : ids.Nodup) (unlisted : cell ∉ ids) (isOther : Cell id) (different : id ≠ cell)
    (missing : lookup id = none) (isLiteral : Literal text) :
    SingleFormula Cell cell formula (entriesOf lookup ids ++ [(cell, formula), (id, text)]) where
  distinct :=
    distinctCells_append canonical isCell literal nodup unlisted isOther different missing
  within := by
    intro entry member
    rcases List.mem_append.mp member with earlier | later
    · have held := (literal _ _ (mem_entriesOf.mp earlier).2).1
      rw [canonical _ held]
      exact held
    · rcases List.mem_pair.mp later with rfl | rfl
      · rw [canonical _ isCell]
        exact isCell
      · rw [canonical _ isOther]
        exact isOther
  formulas := by
    intro entry member kind
    rcases List.mem_append.mp member with earlier | later
    · rw [(literal _ _ (mem_entriesOf.mp earlier).2).2.2] at kind
      cases kind
    · rcases List.mem_pair.mp later with rfl | rfl
      · exact ⟨canonical _ isCell, rfl⟩
      · rw [isLiteral.2] at kind
        cases kind

include starts unread apart

/-- A formula that can be typed before or after any literals is blind outside
its precedents. -/
theorem blind_of_orderFree
    (free : ∀ entries, SingleFormula Cell cell formula entries → OrderFree entries) :
    Formula.Blind Cell formula := by
  intro lookup id text literal isOther unnamed missing isLiteral
  by_cases here : id = cell
  · refine Formula.evaluate_congr fun read member => ?_
    rw [Function.update_of_ne]
    rintro rfl
    exact unread (here ▸ member)
  · have unlisted : cell ∉ distinct (Formula.reads formula) :=
      fun listed => unread (mem_distinct.mp listed)
    have single : SingleFormula Cell cell formula _ :=
      singleFormula_append canonical isCell literal (nodup_distinct _) unlisted isOther here missing
        isLiteral
    have same := free _ single _ (List.Perm.append_left _ (List.Perm.swap (id, text) _ []))
    rw [typeIn_append, typeIn_append] at same
    have literals : ∀ entry ∈ entriesOf lookup (distinct (Formula.reads formula)),
        Literal entry.2 :=
      fun entry member => (literal _ _ (mem_entriesOf.mp member).2).2
    rcases typeIn_eq_write formulaFree_empty literals with ⟨typed, plain⟩
    rw [typed] at same
    have held : ∀ read ∈ Formula.reads formula,
        (empty.write (entriesOf lookup (distinct (Formula.reads formula)))).value? read =
          lookup read :=
      fun read member => value?_write_reads literal canonical member
    have kept := evaluate_eq_of_edit_eq plain (canonical cell isCell) starts unread apart
      (canonical id isOther) here unnamed isLiteral same
    rw [Formula.evaluate_congr held] at kept
    refine kept.trans (Formula.evaluate_congr fun read member => ?_)
    by_cases changed : read = id
    · rw [changed, Function.update_self, Function.update_self]
    · rw [Function.update_of_ne changed, Function.update_of_ne changed]
      exact held read member

end

theorem Typed.canonical {entries : List (String × String)} (typed : Typed entries id) :
    canonicalId id = id := by
  rcases typed with ⟨entry, _, rfl⟩
  exact Reference.canonicalId_canonicalId entry.1

/-- The order in which a sheet is typed does not matter if its formulas are
covered on its cells.  The condition is exact: a formula of the sheet that
neither looks up nor names its own cell is covered as soon as the order does not
matter for the formula and any literals in the cells of the sheet. -/
theorem typing_order_irrelevant_iff_covered {entries : List (String × String)}
    (distinct : DistinctCells entries) :
    ((∀ entry ∈ entries, isFormula entry.2 = true →
        Formula.CoveredOn (Typed entries) entry.2) → OrderFree entries) ∧
    ∀ entry ∈ entries, isFormula entry.2 = true →
      canonicalId entry.1 ∉ Formula.reads entry.2 →
      canonicalId entry.1 ∉ Formula.precedents entry.2 →
        (Formula.CoveredOn (Typed entries) entry.2 ↔
          ∀ sheet, SingleFormula (Typed entries) (canonicalId entry.1) entry.2 sheet →
            OrderFree sheet) := by
  refine ⟨fun covered other permuted => typeIn_perm distinct permuted covered, ?_⟩
  intro entry member starts unread apart
  constructor
  · intro covered sheet single other permuted
    refine typeIn_perm single.distinct permuted fun typed listed isFormula => ?_
    rw [(single.formulas typed listed isFormula).2]
    refine covered.mono ?_
    rintro id ⟨typed, listed, rfl⟩
    exact single.within typed listed
  · intro free
    exact Formula.coveredOn_of_blind
      (blind_of_orderFree (fun _ typed => typed.canonical) ⟨entry, member, rfl⟩ starts unread apart
        free)

theorem typing_order_irrelevant_for_upper_case :
    let entries := [("b1", "=CONCATENATE(A1)"), ("a1", "5")]
    OrderFree entries ∧
      (Formula.CoveredOn (Typed entries) "=CONCATENATE(A1)" ↔
        ∀ sheet, SingleFormula (Typed entries) (canonicalId "b1") "=CONCATENATE(A1)" sheet →
          OrderFree sheet) := by
  intro entries
  have covered : Formula.Covered "=CONCATENATE(A1)" :=
    Formula.covered_of_scanned (by decide) (by decide +kernel)
  have unread : canonicalId "b1" ∉ Formula.reads "=CONCATENATE(A1)" := by decide +kernel
  have unnamed : canonicalId "b1" ∉ Formula.precedents "=CONCATENATE(A1)" := by
    rw [Formula.mem_precedents (by decide)]
    decide +kernel
  have distinct : DistinctCells entries := by decide +kernel
  rcases typing_order_irrelevant_iff_covered distinct with ⟨enough, necessary⟩
  constructor
  · refine enough fun entry member kind => ?_
    rcases List.mem_pair.mp member with rfl | rfl
    · exact covered.coveredOn _
    · cases kind
  · exact necessary ("b1", "=CONCATENATE(A1)") List.mem_cons_self (by decide) unread unnamed

/-- The search does not see a reference in lower case, which the evaluation
raises, so its formula is not evaluated again when the cell is typed later. -/
theorem typing_order_matters_for_lower_case :
    DistinctCells [("B1", "=CONCATENATE(a1)"), ("A1", "5")] ∧
      [("B1", "=CONCATENATE(a1)"), ("A1", "5")].Perm [("A1", "5"), ("B1", "=CONCATENATE(a1)")] ∧
      empty.typeIn [("B1", "=CONCATENATE(a1)"), ("A1", "5")] ≠
        empty.typeIn [("A1", "5"), ("B1", "=CONCATENATE(a1)")] := by
  refine ⟨by decide +kernel, List.Perm.swap _ _ _, fun same => ?_⟩
  have silent (id : String) : id ∉ Formula.precedents "=CONCATENATE(a1)" := by
    rw [Formula.mem_precedents (by decide)]
    have nothing : Formula.scannedIds "=CONCATENATE(a1)".toList = [] := by decide +kernel
    rw [nothing]
    exact List.not_mem_nil
  have blank : empty.value? = nowhere :=
    funext fun id => value?_of_not_holds (not_holds_empty id)
  have kept := evaluate_eq_of_edit_eq formulaFree_empty (by decide +kernel) (by decide) (by decide)
    (silent "B1") (by decide +kernel) (by decide) (silent "A1") (by decide) same
  rw [blank] at kept
  revert kept
  decide

end Grid
end Worksheet
