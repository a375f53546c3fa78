import Worksheet.Proofs.Formula.Coverage
import Worksheet.Proofs.Recalculation.Full

namespace Worksheet
namespace Grid

/-!
Settled grids.  A covered formula has settled when its cell holds the token of
a cycle through the cell, or else the value of the formula over the grid
itself.  Full recalculation settles a grid, every edit in full mode keeps it
settled, and there is only one settled grid with given inputs if all formulas
are covered.
-/

open DependencyGraph (ofGrid)

/-- Whether a cell with a formula holds the value that a full recalculation
would give to it. -/
def SettledAt (grid : Grid) (id formula : String) : Prop :=
  ((ofGrid grid).OnCycle id → grid.value? id = some FormulaError.circular.token) ∧
    (¬(ofGrid grid).OnCycle id → grid.value? id = some (Formula.evaluate formula grid.value?))

/-- Whether every covered formula of a grid has settled. -/
def Settled (grid : Grid) : Prop :=
  ∀ id formula, grid.formula? id = some formula → Formula.CoveredOn grid.Holds formula →
    grid.SettledAt id formula

/-- Whether every formula of a grid is covered on its cells. -/
def FormulasCovered (grid : Grid) : Prop :=
  ∀ id formula, grid.formula? id = some formula → Formula.CoveredOn grid.Holds formula

/-- Whether two grids have the same layout and the same values in the cells
without formula. -/
structure SameInputs (first second : Grid) : Prop where
  layout : SameLayout first second
  values : ∀ id, first.formula? id = none → first.value? id = second.value? id

namespace SameInputs

variable {first second third : Grid}

theorem refl (grid : Grid) : SameInputs grid grid where
  layout := .refl grid
  values := fun _ _ => rfl

theorem symm (same : SameInputs first second) : SameInputs second first where
  layout := same.layout.symm
  values := fun id plain => (same.values id ((same.layout.formula?_eq id).trans plain)).symm

theorem trans (same : SameInputs first second) (next : SameInputs second third) :
    SameInputs first third where
  layout := same.layout.trans next.layout
  values := fun id plain => (same.values id plain).trans
    (next.values id ((same.layout.formula?_eq id).symm.trans plain))

theorem formulasCovered (same : SameInputs first second) (covered : first.FormulasCovered) :
    second.FormulasCovered := by
  intro id formula found
  rw [← holds_congr same.layout]
  exact covered id formula ((same.layout.formula?_eq id).trans found)

end SameInputs

/-! ## One settled grid for given inputs -/

section

variable {first second : Grid} {id formula : String} (settled : first.Settled)
  (settled' : second.Settled) (same : SameInputs first second) (covered : first.FormulasCovered)

theorem SameInputs.onCycle_iff (same : SameInputs first second) :
    (ofGrid first).OnCycle id ↔ (ofGrid second).OnCycle id :=
  DependencyGraph.dependsOn_ofGrid_congr same.layout id id

include settled settled' same covered

theorem Settled.value?_eq_of_onCycle (cycle : (ofGrid first).OnCycle id) :
    first.value? id = second.value? id := by
  rcases DependencyGraph.exists_formula?_of_mem_cells cycle.mem_cells with ⟨formula, found⟩
  have found' := (same.layout.formula?_eq id).symm.trans found
  rw [(settled id formula found (covered id formula found)).1 cycle,
    (settled' id formula found' (same.formulasCovered covered id formula found')).1
      (same.onCycle_iff.mp cycle)]

/-- Off the cycles a formula has the same value in both grids if its precedents
have. -/
theorem Settled.value?_eq_of_precedents (found : first.formula? id = some formula)
    (acyclic : ¬(ofGrid first).OnCycle id)
    (agree : ∀ read ∈ Formula.precedents formula, first.value? read = second.value? read) :
    first.value? id = second.value? id := by
  have found' := (same.layout.formula?_eq id).symm.trans found
  rw [(settled id formula found (covered id formula found)).2 acyclic,
    (settled' id formula found' (same.formulasCovered covered id formula found')).2
      (mt same.onCycle_iff.mpr acyclic)]
  refine congrArg some (covered id formula found _ _ (fun other missing => ?_) agree)
  have missing' : ¬second.Holds other := holds_congr same.layout ▸ missing
  exact ⟨value?_of_not_holds missing, value?_of_not_holds missing'⟩

/-- Settled grids with the same inputs are equal: along the precedents, the
value of each cell off the cycles is determined by those before it. -/
theorem Settled.eq : first = second := by
  have circular (id : String) (cycle : (ofGrid first).OnCycle id) :
      first.value? id = second.value? id :=
    settled.value?_eq_of_onCycle settled' same covered cycle
  have acyclic : ∀ id ∈ (ofGrid first).cells, ¬(ofGrid first).OnCycle id →
      first.value? id = second.value? id := by
    intro id cell acyclic
    refine DependencyGraph.induction_of_not_onCycle
      (fun id => first.value? id = second.value? id) (fun id cell acyclic ih => ?_) cell acyclic
    rcases DependencyGraph.exists_formula?_of_mem_cells cell with ⟨formula, found⟩
    refine settled.value?_eq_of_precedents settled' same covered found acyclic fun read reads => ?_
    rw [← DependencyGraph.precedents_of_formula? found] at reads
    by_cases plain : first.formula? read = none
    · exact same.values read plain
    · by_cases cycle : (ofGrid first).OnCycle read
      · exact circular read cycle
      · exact ih read reads (DependencyGraph.mem_cells_of_ne_none plain) cycle
  refine same.layout.eq_of_value? fun id => ?_
  by_cases plain : first.formula? id = none
  · exact same.values id plain
  · by_cases cycle : (ofGrid first).OnCycle id
    · exact circular id cycle
    · exact acyclic id (DependencyGraph.mem_cells_of_ne_none plain) cycle

end

/-! ## Recalculation settles -/

/-- A covered formula has settled in the outcome of a recalculation: its stage
and the outcome agree on all that it names. -/
theorem settledAt_of_recalculated {before after : Grid} {Affected : String → Prop}
    {id formula : String} (recalculated : Recalculated before after Affected)
    (affected : Affected id) (found : after.formula? id = some formula)
    (covered : Formula.CoveredOn after.Holds formula) : after.SettledAt id formula := by
  have cycles := DependencyGraph.dependsOn_ofGrid_congr recalculated.layout id id
  refine ⟨fun cycle => recalculated.circular id affected (cycles.mp cycle), fun acyclic => ?_⟩
  rcases recalculated.evaluated id affected (mt cycles.mpr acyclic) with
      ⟨same, stage, found', evaluated⟩
  obtain rfl : same = formula :=
    Option.some.inj (found'.symm.trans ((recalculated.layout.formula?_eq id).symm.trans found))
  refine evaluated.value.trans (congrArg some (covered _ _ (fun other missing => ?_) ?_))
  · have missing' : ¬before.Holds other := holds_congr recalculated.layout ▸ missing
    refine ⟨value?_of_not_holds ?_, value?_of_not_holds missing⟩
    unfold Holds
    rcases evaluated.between other with old | new
    · rwa [old]
    · rwa [new]
  · exact evaluated.precedents

theorem sameInputs_of_recalculated {before after : Grid} {Affected : String → Prop}
    (recalculated : Recalculated before after Affected)
    (formulas : ∀ id, Affected id → before.formula? id ≠ none) : SameInputs after before where
  layout := recalculated.layout
  values := fun id plain => value?_eq_of_get? (recalculated.untouched id fun affected =>
    formulas id affected ((recalculated.layout.formula?_eq id).symm.trans plain))

theorem settled_recalculate (grid : Grid) : (grid.recalculate .full).Settled := by
  intro id formula found covered
  have recalculated := recalculated_recalculate grid
  refine settledAt_of_recalculated recalculated ?_ found covered
  rw [← recalculated.layout.formula?_eq id, found]
  rfl

theorem sameInputs_recalculate (grid : Grid) : SameInputs (grid.recalculate .full) grid :=
  sameInputs_of_recalculated (recalculated_recalculate grid) fun _ formula =>
    Option.isSome_iff_ne_none.mp formula

/-- A settled grid of covered formulas is a fixed point of full
recalculation. -/
theorem Settled.recalculate_eq {grid : Grid} (settled : grid.Settled)
    (covered : grid.FormulasCovered) : grid.recalculate .full = grid :=
  (settled_recalculate grid).eq settled (sameInputs_recalculate grid)
    ((sameInputs_recalculate grid).symm.formulasCovered covered)

/-! ## Edits keep a grid settled -/

section Edits

variable {grid : Grid} {target : String} {change : CellUpdate} {id : String}

theorem formula?_update_of_ne (different : target ≠ id) :
    (grid.update target change).formula? id = grid.formula? id := by
  rw [formula?, formula?, get?_update, if_neg different]

theorem holds_update_of_holds (holds : grid.Holds id) : (grid.update target change).Holds id := by
  unfold Holds
  rw [get?_update]
  split
  · rfl
  · exact holds

theorem holds_edit_of_holds (target : String) (change : CellUpdate) (holds : grid.Holds id) :
    (grid.edit .full target change).Holds id := by
  rw [holds_congr (recalculated_edit grid target change).layout]
  exact holds_update_of_holds holds

/-- What an unaffected formula reaches is unaffected and not the edited
cell. -/
theorem not_affected_of_reaches {merged : Grid} {read : String}
    (outside : ¬merged.Affected target id) (formula : (merged.formula? id).isSome)
    (reaches : Relation.ReflTransGen (ofGrid merged).Reads id read) :
    ¬merged.Affected target read ∧ target ≠ read := by
  refine ⟨fun affected => outside (affected.of_reaches reaches), ?_⟩
  rintro rfl
  rcases Relation.reflTransGen_iff_eq_or_transGen.mp reaches with rfl | depends
  · exact outside (.inr ⟨rfl, formula⟩)
  · exact outside (.inl depends)

section Unaffected

variable (outside : ¬(grid.update (canonicalId target) change).Affected (canonicalId target) id)
  (formula : ((grid.update (canonicalId target) change).formula? id).isSome)

include outside formula

/-- What an unaffected formula reaches is as it was before the edit. -/
theorem get?_edit_of_reaches {read : String}
    (reaches : Relation.ReflTransGen (ofGrid (grid.update (canonicalId target) change)).Reads
      id read) :
    (grid.edit .full target change).get? read = grid.get? read := by
  rcases not_affected_of_reaches outside formula reaches with ⟨apart, different⟩
  rw [(recalculated_edit grid target change).untouched read apart, get?_update, if_neg different]

/-- An edit neither makes nor breaks a cycle through an unaffected formula: the
graphs before and after agree on all that it reaches. -/
theorem onCycle_edit_iff :
    (ofGrid (grid.edit .full target change)).OnCycle id ↔ (ofGrid grid).OnCycle id := by
  have layout := (recalculated_edit grid target change).layout
  refine (DependencyGraph.dependsOn_ofGrid_congr layout id id).trans
    (DependencyGraph.dependsOn_congr (fun read reaches => ?_) id)
  have different := (not_affected_of_reaches outside formula reaches).2
  rw [DependencyGraph.precedents_ofGrid, DependencyGraph.precedents_ofGrid,
    formula?_update_of_ne different]

end Unaffected

/-- A formula that an edit does not affect is settled after the edit if it was
before: what it reads and its cycles are the same. -/
theorem settledAt_edit_of_not_affected (settled : grid.Settled) {formula : String}
    (outside : ¬(grid.update (canonicalId target) change).Affected (canonicalId target) id)
    (found : (grid.update (canonicalId target) change).formula? id = some formula)
    (covered : Formula.CoveredOn (grid.edit .full target change).Holds formula) :
    (grid.edit .full target change).SettledAt id formula := by
  have isSome : ((grid.update (canonicalId target) change).formula? id).isSome := by
    rw [found]
    rfl
  have kept : ∀ read, Relation.ReflTransGen (ofGrid (grid.update (canonicalId target) change)).Reads
      id read → (grid.edit .full target change).value? read = grid.value? read :=
    fun read reaches => value?_eq_of_get? (get?_edit_of_reaches outside isSome reaches)
  have cycles : (ofGrid (grid.edit .full target change)).OnCycle id ↔ (ofGrid grid).OnCycle id :=
    onCycle_edit_iff outside isSome
  have foundBefore : grid.formula? id = some formula :=
    (formula?_update_of_ne (not_affected_of_reaches outside isSome .refl).2).symm.trans found
  have coveredBefore : Formula.CoveredOn grid.Holds formula :=
    covered.mono fun other holds => holds_edit_of_holds target change holds
  rcases settled id formula foundBefore coveredBefore with ⟨circular, evaluated⟩
  have here := kept id .refl
  refine ⟨fun cycle => here.trans (circular (cycles.mp cycle)), fun acyclic => ?_⟩
  refine here.trans ((evaluated (mt cycles.mpr acyclic)).trans (congrArg some ?_))
  refine covered _ _ (fun other missing => ⟨value?_of_not_holds fun holds => ?_,
    value?_of_not_holds missing⟩) fun read reads => ?_
  · exact missing (holds_edit_of_holds target change holds)
  · rw [← DependencyGraph.precedents_of_formula? found] at reads
    exact (kept read (.single reads)).symm

/-- An edit in full mode keeps a grid settled. -/
theorem settled_edit (settled : grid.Settled) (target : String) (change : CellUpdate) :
    (grid.edit .full target change).Settled := by
  intro id formula found covered
  have recalculated := recalculated_edit grid target change
  by_cases affected : (grid.update (canonicalId target) change).Affected (canonicalId target) id
  · exact settledAt_of_recalculated recalculated affected found covered
  · exact settledAt_edit_of_not_affected settled affected
      ((recalculated.layout.formula?_eq id).symm.trans found) covered

theorem sameInputs_edit (grid : Grid) (target : String) (change : CellUpdate) :
    SameInputs (grid.edit .full target change) (grid.update (canonicalId target) change) :=
  sameInputs_of_recalculated (recalculated_edit grid target change) fun _ affected =>
    Option.isSome_iff_ne_none.mp (DependencyGraph.mem_cells_ofGrid.mp affected.mem_cells)

end Edits

end Grid
end Worksheet
