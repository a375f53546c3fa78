import Worksheet.Proofs.Dependency.Depth
import Worksheet.Proofs.Recalculation.Incremental
import Worksheet.Proofs.Recalculation.Snapshot

namespace Worksheet
namespace Grid

/-!
Direct recalculation again and again.  Every pass reads the values that the
pass before has left, so after `n` passes the formulas of depth at most `n`
have the values they keep.  On a sheet without cycles these are the values of
one full recalculation, and there are no more passes to make than formulas.
-/

open DependencyGraph (ofGrid)

variable {grid goal : Grid} {id formula : String} {passes : Nat}

theorem sameInputs_recalculate_direct (grid : Grid) :
    SameInputs (grid.recalculate .direct) grid where
  layout := sameLayout_recalculate_direct grid
  values := fun id plain => value?_eq_of_get? (get?_recalculate_direct
    (((sameLayout_recalculate_direct grid).formula?_eq id).symm.trans plain))

theorem sameInputs_passes (grid : Grid) (passes : Nat) :
    SameInputs ((·.recalculate .direct)^[passes] grid) grid := by
  induction passes with
  | zero => exact .refl grid
  | succ passes ih =>
    rw [Function.iterate_succ_apply']
    exact (sameInputs_recalculate_direct _).trans ih

section

variable (settled : goal.Settled) (same : SameInputs grid goal) (covered : grid.FormulasCovered)
  (acyclic : ∀ id ∈ (ofGrid grid).cells, ¬(ofGrid grid).OnCycle id)

include settled same covered

/-- A pass gives a formula its settled value if all that the formula names has
settled. -/
theorem value?_recalculate_direct_of_precedents (found : grid.formula? id = some formula)
    (acyclic : ¬(ofGrid grid).OnCycle id)
    (agree : ∀ read ∈ Formula.precedents formula, grid.value? read = goal.value? read) :
    (grid.recalculate .direct).value? id = goal.value? id := by
  have found' := (same.layout.formula?_eq id).symm.trans found
  have covered' := same.formulasCovered covered id formula found'
  rw [value?_recalculate_direct found,
    (settled id formula found' covered').2 (mt same.onCycle_iff.mpr acyclic)]
  refine congrArg some (covered id formula found _ _ (fun other missing => ?_) agree)
  have missing' : ¬goal.Holds other := holds_congr same.layout ▸ missing
  exact ⟨value?_of_not_holds missing, value?_of_not_holds missing'⟩

include acyclic

/-- As many passes as a formula is deep settle it. -/
theorem value?_passes_of_depthAtMost (cell : id ∈ (ofGrid grid).cells)
    (shallow : (ofGrid grid).DepthAtMost passes id) :
    ((·.recalculate .direct)^[passes] grid).value? id = goal.value? id := by
  induction passes generalizing id with
  | zero => cases shallow
  | succ passes ih =>
    have inputs := sameInputs_passes grid passes
    rcases DependencyGraph.exists_formula?_of_mem_cells cell with ⟨formula, found⟩
    rw [Function.iterate_succ_apply']
    refine value?_recalculate_direct_of_precedents settled (inputs.trans same)
      (inputs.symm.formulasCovered covered) ((inputs.layout.formula?_eq id).trans found)
      (mt inputs.onCycle_iff.mp (acyclic id cell)) fun read reads => ?_
    by_cases plain : grid.formula? read = none
    · exact (inputs.trans same).values read ((inputs.layout.formula?_eq read).trans plain)
    · have inner := DependencyGraph.mem_cells_of_ne_none plain
      rw [← DependencyGraph.precedents_of_formula? found] at reads
      exact ih inner (shallow read reads inner)

theorem passes_eq_of_settled (enough : grid.formulas.length ≤ passes) :
    (·.recalculate .direct)^[passes] grid = goal := by
  have inputs := (sameInputs_passes grid passes).trans same
  have deep : (ofGrid grid).cells.length ≤ passes := by
    rwa [DependencyGraph.cells_ofGrid, List.length_map]
  refine inputs.layout.eq_of_value? fun id => ?_
  by_cases plain : grid.formula? id = none
  · exact inputs.values id (((sameInputs_passes grid passes).layout.formula?_eq id).trans plain)
  · have cell := DependencyGraph.mem_cells_of_ne_none plain
    exact value?_passes_of_depthAtMost settled same covered acyclic cell
      (DependencyGraph.depthAtMost_of_acyclic acyclic deep cell)

end

/-- Without cycles, direct passes reach the outcome of one full recalculation
of covered formulas, at the latest after as many passes as there are
formulas. -/
theorem repeated_passes_reach_full_recalculation
    (acyclic : ∀ id ∈ (ofGrid grid).cells, (ofGrid grid).cycleThrough? id = none)
    (covered : grid.AllCovered) (enough : grid.formulas.length ≤ passes) :
    (·.recalculate .direct)^[passes] grid = grid.recalculate .full := by
  refine passes_eq_of_settled (settled_recalculate grid) (sameInputs_recalculate grid).symm
    covered.formulasCovered (fun id cell cycle => ?_) enough
  have found := DependencyGraph.isCircular_ofGrid.mpr cycle
  rw [DependencyGraph.isCircular, acyclic id cell] at found
  cases found

theorem repeated_passes_reach_full_recalculation_of_chain :
    let grid := Grid.ofList [("A1", .ofInput " x "),
      ("B1", .ofInput "=TRIM(A1)"), ("C1", .ofInput "=UPPER(B1)")]
    grid.formulas.length = 2 ∧
      (∀ id ∈ (ofGrid grid).cells, (ofGrid grid).cycleThrough? id = none) ∧
      grid.AllCovered ∧ (·.recalculate .direct)^[2] grid = grid.recalculate .full := by
  intro grid
  have cells (id : String) : grid.get? id =
      if "C1" = id then some (.ofInput "=UPPER(B1)")
      else if "B1" = id then some (.ofInput "=TRIM(A1)")
      else if "A1" = id then some (.ofInput " x ") else none := by
    simp [grid, Grid.ofList, Grid.get?_insert]
  have formulas (id formula : String) (found : grid.formula? id = some formula) :
      id = "C1" ∧ formula = "=UPPER(B1)" ∨ id = "B1" ∧ formula = "=TRIM(A1)" := by
    rw [formula?, cells] at found
    split at found
    · next here => exact .inl ⟨here.symm, (Option.some.inj found).symm⟩
    · split at found
      · next here => exact .inr ⟨here.symm, (Option.some.inj found).symm⟩
      · split at found <;> cases found
  have size : grid.formulas.length = 2 := by decide +kernel
  have covered : grid.AllCovered := by
    intro id formula found
    rcases formulas id formula found with ⟨_, rfl⟩ | ⟨_, rfl⟩
    · exact Formula.covered_of_scanned (by decide) (by decide +kernel)
    · exact Formula.covered_of_scanned (by decide) (by decide +kernel)
  have reads (id read : String) (member : (ofGrid grid).Reads id read) : read < id := by
    rcases DependencyGraph.exists_formula?_of_mem_cells
      (DependencyGraph.mem_cells_of_mem_precedents member) with ⟨formula, found⟩
    rw [DependencyGraph.Reads, DependencyGraph.precedents_of_formula? found,
      Formula.mem_precedents (isFormula_of_formula? found)] at member
    rcases formulas id formula found with ⟨rfl, rfl⟩ | ⟨rfl, rfl⟩
    · have named : Formula.scannedIds "=UPPER(B1)".toList = ["B1"] := by decide +kernel
      rw [named, List.mem_singleton] at member
      rw [member]
      decide
    · have named : Formula.scannedIds "=TRIM(A1)".toList = ["A1"] := by decide +kernel
      rw [named, List.mem_singleton] at member
      rw [member]
      decide
  -- Each cell reads only cells whose identifiers are less than its own.
  have below (id read : String) (depends : (ofGrid grid).DependsOn id read) : read < id := by
    induction depends with
    | single member => exact reads _ _ member
    | tail _ member ih => exact String.lt_trans (reads _ _ member) ih
  have acyclic : ∀ id ∈ (ofGrid grid).cells, (ofGrid grid).cycleThrough? id = none := by
    intro id _
    refine Option.not_isSome_iff_eq_none.mp fun found => ?_
    exact String.lt_irrefl id (below id id (DependencyGraph.isCircular_ofGrid.mp found))
  exact ⟨size, acyclic, covered,
    repeated_passes_reach_full_recalculation acyclic covered size.le⟩

end Grid
end Worksheet
