import Worksheet.Proofs.Recalculation.Incremental

namespace Worksheet
namespace Grid

/-!
What a full recalculation depends on.  It computes the one settled grid that
has the inputs of the given one, so the values that formula cells hold
beforehand have no part in it, and to recalculate again changes nothing.
-/

variable {first second : Grid}

/-- Grids that differ in the values of formula cells only have the same
recalculation. -/
theorem recalculate_eq_of_sameInputs (same : SameInputs first second)
    (covered : first.FormulasCovered) : first.recalculate .full = second.recalculate .full := by
  have inputs : SameInputs (first.recalculate .full) (second.recalculate .full) :=
    ((sameInputs_recalculate first).trans same).trans (sameInputs_recalculate second).symm
  exact (settled_recalculate first).eq (settled_recalculate second) inputs
    ((sameInputs_recalculate first).symm.formulasCovered covered)

/-- Full recalculation of covered formulas depends neither on the stale values
in the formula cells nor on how often it is done. -/
theorem recalculation_ignores_stale_values (same : SameInputs first second)
    (covered : first.AllCovered) :
    first.recalculate .full = second.recalculate .full ∧
      (first.recalculate .full).recalculate .full = first.recalculate .full := by
  refine ⟨recalculate_eq_of_sameInputs same covered.formulasCovered, ?_⟩
  exact (recalculate_eq_of_sameInputs (sameInputs_recalculate first).symm
    covered.formulasCovered).symm

theorem recalculation_ignores_stale_values_beside_cycle :
    let sheet (stale : String) := Grid.ofList [("A1", .ofInput " x "),
      ("B1", { value := some stale, formula := some "=TRIM(A1)" }),
      ("C1", { value := some stale, formula := some "=CONCATENATE(B1:C1)" })]
    SameInputs (sheet "old") (sheet "older") ∧ (sheet "old").AllCovered ∧
      (sheet "old").recalculate .full = (sheet "older").recalculate .full ∧
      ((sheet "old").recalculate .full).recalculate .full = (sheet "old").recalculate .full := by
  intro sheet
  have cells (stale id : String) : (sheet stale).get? id =
      if "C1" = id then some { value := some stale, formula := some "=CONCATENATE(B1:C1)" }
      else if "B1" = id then some { value := some stale, formula := some "=TRIM(A1)" }
      else if "A1" = id then some (.ofInput " x ") else none := by
    simp [sheet, Grid.ofList, Grid.get?_insert]
  have same : SameInputs (sheet "old") (sheet "older") := by
    refine ⟨fun id => ?_, fun id plain => ?_⟩
    · rw [cells, cells]
      split
      · rfl
      · split <;> rfl
    · rw [formula?, cells] at plain
      rw [value?, value?, cells, cells]
      split
      · next here =>
        rw [if_pos here] at plain
        cases plain
      · next elsewhere =>
        rw [if_neg elsewhere] at plain
        split
        · next here =>
          rw [if_pos here] at plain
          cases plain
        · rfl
  have covered : (sheet "old").AllCovered := by
    intro id formula found
    rw [formula?, cells] at found
    split at found
    · cases found
      exact Formula.covered_of_scanned (by decide) (by decide +kernel)
    · split at found
      · cases found
        exact Formula.covered_of_scanned (by decide) (by decide +kernel)
      · split at found
        · cases found
        · cases found
  exact ⟨same, covered, recalculation_ignores_stale_values same covered⟩

end Grid
end Worksheet
