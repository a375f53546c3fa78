import Worksheet.Proofs.Formula.Reading
import Worksheet.Proofs.Recalculation.Settled

namespace Worksheet
namespace Grid

/-!
Following an edit against recalculating the whole grid.  A grid that full
recalculation leaves as it is has settled, and so has its successor after an
edit.  If the formulas of the successor are covered, there is no other grid
with the same inputs that has settled, so the edit and the recalculation
agree.
-/

/-- Whether every formula of a grid is covered. -/
def AllCovered (grid : Grid) : Prop :=
  ∀ id formula, grid.formula? id = some formula → Formula.Covered formula

theorem AllCovered.formulasCovered {grid : Grid} (covered : grid.AllCovered) :
    grid.FormulasCovered :=
  fun id formula found => (covered id formula found).coveredOn grid.Holds

/-- The grid after a run of edits in full mode. -/
def editAll (grid : Grid) (edits : List (String × CellUpdate)) : Grid :=
  edits.foldl (fun grid (target, change) => grid.edit .full target change) grid

/-- Whether all formulas are covered in each grid that an edit of a run
leaves to be evaluated. -/
def CoveredAlong (grid : Grid) : List (String × CellUpdate) → Prop
  | [] => True
  | (target, change) :: edits =>
    (grid.update (canonicalId target) change).AllCovered ∧
      CoveredAlong (grid.edit .full target change) edits

theorem settled_of_recalculate_eq {grid : Grid} (fixed : grid.recalculate .full = grid) :
    grid.Settled := by
  rw [← fixed]
  exact settled_recalculate grid

section

variable {grid : Grid} {target : String} {change : CellUpdate}

theorem edit_eq_recalculate (fixed : grid.recalculate .full = grid)
    (covered : (grid.update (canonicalId target) change).AllCovered) :
    grid.edit .full target change =
      (grid.update (canonicalId target) change).recalculate .full := by
  have edited := settled_edit (settled_of_recalculate_eq fixed) target change
  have inputs := sameInputs_edit grid target change
  exact edited.eq (settled_recalculate _)
    (inputs.trans (sameInputs_recalculate _).symm)
    (inputs.symm.formulasCovered covered.formulasCovered)

theorem recalculate_edit (fixed : grid.recalculate .full = grid)
    (covered : (grid.update (canonicalId target) change).AllCovered) :
    (grid.edit .full target change).recalculate .full = grid.edit .full target change := by
  have edited := settled_edit (settled_of_recalculate_eq fixed) target change
  exact edited.recalculate_eq
    ((sameInputs_edit grid target change).symm.formulasCovered covered.formulasCovered)

end

theorem recalculate_editAll {grid : Grid} {edits : List (String × CellUpdate)}
    (fixed : grid.recalculate .full = grid) (covered : grid.CoveredAlong edits) :
    (grid.editAll edits).recalculate .full = grid.editAll edits := by
  induction edits generalizing grid with
  | nil => exact fixed
  | cons edit edits ih =>
    rcases edit with ⟨target, change⟩
    exact ih (recalculate_edit fixed covered.1) covered.2

/-! ## Runs whose formulas are covered -/

theorem AllCovered.update {grid : Grid} {id : String} {change : CellUpdate}
    (covered : grid.AllCovered) (written : ∀ text ∈ change.formula, Formula.Covered text) :
    (grid.update id change).AllCovered := by
  intro other formula found
  rw [formula?, get?_update] at found
  by_cases same : id = other
  · rw [if_pos same, Option.bind_some, Cell.activeFormula?, Option.filter_eq_some_iff] at found
    rcases found with ⟨stored, starts⟩
    unfold Cell.apply at stored
    cases typed : change.formula with
    | some text =>
      simp only [typed, Cell.present] at stored
      split at stored
      · cases stored
      · cases stored
        exact written formula typed
    | none =>
      simp only [typed] at stored
      refine covered id formula ?_
      cases before : grid.get? id with
      | none =>
        rw [before] at stored
        cases stored
      | some cell =>
        rw [before] at stored
        rw [formula?, before]
        exact Option.filter_eq_some_iff.mpr ⟨stored, starts⟩
  · rw [if_neg same] at found
    exact covered other formula found

theorem AllCovered.of_sameLayout {first second : Grid} (layout : SameLayout first second)
    (covered : second.AllCovered) : first.AllCovered :=
  fun id formula found => covered id formula ((layout.formula?_eq id).symm.trans found)

/-- A run of edits is covered if it starts from covered formulas and writes no
others. -/
theorem coveredAlong_of_written {grid : Grid} {edits : List (String × CellUpdate)}
    (covered : grid.AllCovered)
    (written : ∀ edit ∈ edits, ∀ text ∈ edit.2.formula, Formula.Covered text) :
    grid.CoveredAlong edits := by
  induction edits generalizing grid with
  | nil => trivial
  | cons edit edits ih =>
    rcases edit with ⟨target, change⟩
    have merged : (grid.update (canonicalId target) change).AllCovered :=
      covered.update (written _ List.mem_cons_self)
    exact ⟨merged, ih (merged.of_sameLayout (sameInputs_edit grid target change).layout)
      fun edit member => written edit (List.mem_cons_of_mem _ member)⟩

theorem allCovered_editAll {grid : Grid} {edits : List (String × CellUpdate)}
    (covered : grid.AllCovered)
    (written : ∀ edit ∈ edits, ∀ text ∈ edit.2.formula, Formula.Covered text) :
    (grid.editAll edits).AllCovered := by
  induction edits generalizing grid with
  | nil => exact covered
  | cons edit edits ih =>
    rcases edit with ⟨target, change⟩
    refine ih (AllCovered.of_sameLayout (sameInputs_edit grid target change).layout ?_)
      fun edit member => written edit (List.mem_cons_of_mem _ member)
    exact covered.update (written _ List.mem_cons_self)

theorem formula?_empty (id : String) : empty.formula? id = none := by
  rw [formula?, get?_empty, Option.bind_none]

theorem allCovered_empty : empty.AllCovered := by
  intro id formula found
  rw [formula?_empty] at found
  cases found

theorem settled_empty : empty.Settled := by
  intro id formula found
  rw [formula?_empty] at found
  cases found

theorem recalculate_empty : empty.recalculate .full = empty :=
  settled_empty.recalculate_eq allCovered_empty.formulasCovered

/-! ## Incremental against complete recalculation -/

/-- On a fully recalculated grid an edit in full mode is a recalculation of
everything, if all formulas are covered; the grid stays fully recalculated, by
one edit and by any run of them. -/
theorem incremental_recalculation_agrees {grid : Grid}
    (fixed : grid.recalculate .full = grid) :
    (∀ target change, (grid.update (canonicalId target) change).AllCovered →
      grid.edit .full target change =
          (grid.update (canonicalId target) change).recalculate .full ∧
        (grid.edit .full target change).recalculate .full = grid.edit .full target change) ∧
    ∀ edits, grid.CoveredAlong edits →
      (grid.editAll edits).recalculate .full = grid.editAll edits :=
  ⟨fun _ _ covered => ⟨edit_eq_recalculate fixed covered, recalculate_edit fixed covered⟩,
    fun _ covered => recalculate_editAll fixed covered⟩

theorem incremental_recalculation_agrees_after_typing :
    let typed : List (String × CellUpdate) :=
      [("A1", .input "x"), ("b1", .input "=TRIM(A1)")]
    let grid := empty.editAll typed
    grid.recalculate .full = grid ∧
      grid.edit .full "a1" (.input " y ") =
        (grid.update "A1" (.input " y ")).recalculate .full ∧
      (grid.editAll [("a1", .input " y ")]).recalculate .full =
        grid.editAll [("a1", .input " y ")] := by
  intro typed grid
  have trim : Formula.Covered "=TRIM(A1)" :=
    Formula.covered_of_scanned (by decide) (by decide +kernel)
  have plain : ∀ written ∈ (CellUpdate.input " y ").formula, Formula.Covered written := by
    intro written member
    rcases member
    exact Formula.covered_of_not_isFormula rfl
  have writes : ∀ edit ∈ typed, ∀ text ∈ edit.2.formula, Formula.Covered text := by
    intro edit member text written
    rcases List.mem_pair.mp member with rfl | rfl
    · rcases written
      exact Formula.covered_of_not_isFormula rfl
    · rcases written
      exact trim
  have covered : grid.AllCovered := allCovered_editAll allCovered_empty writes
  have fixed : grid.recalculate .full = grid :=
    recalculate_editAll recalculate_empty (coveredAlong_of_written allCovered_empty writes)
  have along : grid.CoveredAlong [("a1", .input " y ")] :=
    coveredAlong_of_written covered fun edit member => by
      rw [List.mem_singleton.mp member]
      exact plain
  have canonical : canonicalId "a1" = "A1" := by decide +kernel
  rcases incremental_recalculation_agrees fixed with ⟨one, run⟩
  have agrees := one "a1" (.input " y ") along.1
  rw [canonical] at agrees
  exact ⟨fixed, agrees.1, run _ along⟩

end Grid
end Worksheet
