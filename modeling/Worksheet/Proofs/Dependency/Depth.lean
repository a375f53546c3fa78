import Mathlib.Data.List.Chain
import Worksheet.Proofs.Dependency.Reachability

namespace Worksheet
namespace DependencyGraph

/-!
Depth along precedents.  The depth of a formula cell is the number of members
of the longest chain of formula cells that begins with it and in which each
reads the next.  Where no cell lies on a cycle, such a chain repeats no cell,
so no depth exceeds the number of formula cells.
-/

variable {graph : DependencyGraph} {id : String} {depth : Nat}

/-- Whether no chain of formula cells that begins with a cell has more members
than a number. -/
def DepthAtMost (graph : DependencyGraph) : Nat → String → Prop
  | 0, _ => False
  | depth + 1, id =>
    ∀ read, graph.Reads id read → read ∈ graph.cells → graph.DepthAtMost depth read

theorem exists_chain_of_not_depthAtMost (cell : id ∈ graph.cells)
    (deep : ¬graph.DepthAtMost depth id) :
    ∃ chain, (id :: chain).IsChain graph.Reads ∧ (∀ other ∈ id :: chain, other ∈ graph.cells) ∧
      chain.length = depth := by
  induction depth generalizing id with
  | zero => exact ⟨[], List.isChain_singleton id, by simpa using cell, rfl⟩
  | succ depth ih =>
    simp only [DepthAtMost, not_forall] at deep
    rcases deep with ⟨read, reads, inner, deep⟩
    rcases ih inner deep with ⟨chain, linked, within, size⟩
    refine ⟨read :: chain, List.isChain_cons_cons.mpr ⟨reads, linked⟩, ?_, ?_⟩
    · exact List.forall_mem_cons.mpr ⟨cell, within⟩
    · rw [List.length_cons, size]

/-- A chain of cells off the cycles repeats no cell. -/
theorem nodup_of_isChain {chain : List String} (linked : chain.IsChain graph.Reads)
    (acyclic : ∀ id ∈ chain, ¬graph.OnCycle id) : chain.Nodup := by
  have transitive : IsTrans String graph.DependsOn :=
    ⟨fun _ _ _ first second => first.trans second⟩
  have depends : chain.Pairwise graph.DependsOn :=
    List.isChain_iff_pairwise.mp (linked.imp fun _ _ reads => .single reads)
  refine depends.imp_of_mem fun member _ before same => ?_
  rw [← same] at before
  exact acyclic _ member before

/-- The number of formula cells bounds the depth of each of them. -/
theorem depthAtMost_of_acyclic (acyclic : ∀ id ∈ graph.cells, ¬graph.OnCycle id)
    (enough : graph.cells.length ≤ depth) (cell : id ∈ graph.cells) :
    graph.DepthAtMost depth id := by
  by_contra deep
  rcases exists_chain_of_not_depthAtMost cell deep with ⟨chain, linked, within, size⟩
  have nodup := nodup_of_isChain linked fun other member => acyclic other (within other member)
  have bound : (id :: chain).length ≤ graph.cells.length :=
    (List.subperm_of_subset nodup within).length_le
  rw [List.length_cons, size] at bound
  omega

end DependencyGraph
end Worksheet
