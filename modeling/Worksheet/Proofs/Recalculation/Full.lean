import Worksheet.Proofs.Recalculation.EvaluationOrder
import Worksheet.Recalculation.Edit

namespace Worksheet
namespace Grid

/-!
Full recalculation is right with respect to the dependency graph.  The affected
cells of an edit are the formula cells that depend on the edited cell, with
that cell itself if it has a formula; a full recalculation affects every
formula cell.
-/

open DependencyGraph (ofGrid)

/-- Whether a cell is evaluated after an edit of another cell. -/
def Affected (merged : Grid) (target id : String) : Prop :=
  (ofGrid merged).DependsOn id target ∨ id = target ∧ (merged.formula? target).isSome

theorem Affected.mem_cells {merged : Grid} {target id : String}
    (affected : merged.Affected target id) : id ∈ (ofGrid merged).cells := by
  rcases affected with depends | ⟨rfl, formula⟩
  · exact depends.mem_cells
  · exact DependencyGraph.mem_cells_ofGrid.mpr formula

/-- What reads an affected cell is affected. -/
theorem Affected.of_reads {merged : Grid} {target id reader : String}
    (affected : merged.Affected target id) (reads : (ofGrid merged).Reads reader id) :
    merged.Affected target reader := by
  rcases affected with depends | ⟨rfl, _⟩
  · exact .inl (.head reads depends)
  · exact .inl (.single reads)

theorem Affected.of_reaches {merged : Grid} {target id reader : String}
    (affected : merged.Affected target id)
    (reaches : Relation.ReflTransGen (ofGrid merged).Reads reader id) :
    merged.Affected target reader := by
  induction reaches using Relation.ReflTransGen.head_induction_on with
  | refl => exact affected
  | head reads _ ih => exact ih.of_reads reads

theorem mem_affectedCells {merged : Grid} {target id : String} :
    id ∈ (ofGrid merged).cells.filter (fun cell =>
      cell ∈ Std.HashSet.ofList ((ofGrid merged).transitiveDependents target) ||
        cell = target) ↔ merged.Affected target id := by
  have reached : id ∈ Std.HashSet.ofList ((ofGrid merged).transitiveDependents target) ↔
      (ofGrid merged).DependsOn id target := by
    rw [Std.HashSet.mem_ofList, List.contains_iff_mem,
      DependencyGraph.mem_transitiveDependents_ofGrid]
  rw [List.mem_filter, Bool.or_eq_true, decide_eq_true_eq, decide_eq_true_eq, reached]
  constructor
  · rintro ⟨cell, depends | rfl⟩
    · exact .inl depends
    · exact .inr ⟨rfl, DependencyGraph.mem_cells_ofGrid.mp cell⟩
  · intro affected
    exact ⟨affected.mem_cells, affected.imp_right (·.1)⟩

theorem recalculated_followFully (merged : Grid) (target : String) :
    Recalculated merged (followFully merged target) (merged.Affected target) := by
  have schedulable : Schedule.Schedulable merged ((ofGrid merged).cells.filter fun cell =>
      cell ∈ Std.HashSet.ofList ((ofGrid merged).transitiveDependents target) ||
        cell = target) := by
    refine ⟨(DependencyGraph.nodup_cells_ofGrid merged).filter _,
      fun id member => (List.mem_filter.mp member).1, fun id member reader reads => ?_⟩
    rw [mem_affectedCells] at member ⊢
    exact member.of_reads reads
  have ordered := Schedule.recalculated_evaluateInOrder schedulable
  simp only [mem_affectedCells] at ordered
  exact ordered

theorem recalculated_edit (grid : Grid) (target : String) (change : CellUpdate) :
    Recalculated (grid.update (canonicalId target) change) (grid.edit .full target change)
      ((grid.update (canonicalId target) change).Affected (canonicalId target)) :=
  recalculated_followFully _ _

theorem recalculated_recalculate (grid : Grid) :
    Recalculated grid (grid.recalculate .full) (fun id => (grid.formula? id).isSome) := by
  have schedulable : Schedule.Schedulable grid (ofGrid grid).cells :=
    ⟨DependencyGraph.nodup_cells_ofGrid grid, fun _ member => member,
      fun _ _ _ reads => DependencyGraph.mem_cells_of_mem_precedents reads⟩
  have ordered := Schedule.recalculated_evaluateInOrder schedulable
  simp only [DependencyGraph.mem_cells_ofGrid] at ordered
  exact ordered

/-- Full recalculation, of a whole grid and after an edit, keeps the layout and
every cell that is not affected, marks exactly what it must on the cycles, and
gives every other affected cell the value of its formula over a stage in which
the precedents of the cell had their final values. -/
theorem full_recalculation_follows_dependencies :
    (∀ grid : Grid,
      Recalculated grid (grid.recalculate .full) fun id => (grid.formula? id).isSome) ∧
    ∀ (grid : Grid) (target : String) (change : CellUpdate),
      Recalculated (grid.update (canonicalId target) change) (grid.edit .full target change)
        ((grid.update (canonicalId target) change).Affected (canonicalId target)) :=
  ⟨recalculated_recalculate, recalculated_edit⟩

end Grid
end Worksheet
