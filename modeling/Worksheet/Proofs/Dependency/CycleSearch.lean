import Mathlib.Data.List.Chain
import Worksheet.Proofs.Dependency.Reachability

namespace Worksheet
namespace DependencyGraph

/-!
What the search for a cycle returns.  The cells on the way were each visited when
they were put there, all but the start, and a visited cell is never put there
again; so the way repeats nothing, and closing it at the start gives a simple
cycle.  Together with the closure of the dependents this ties the two directions
of the graph and its two searches to one relation.
-/

/-- A way through precedents from a cell back to it on which no cell repeats
except for the start at its end. -/
structure IsCycle (graph : DependencyGraph) (start : String) (path : List String) : Prop where
  length : 2 ≤ path.length
  head : path.head? = some start
  last : path.getLast? = some start
  linked : path.IsChain graph.Reads
  nodup : path.dropLast.Nodup

/-- The cells that the search is on, the last one first: each is read by the next,
the start is at the far end, and none repeats, for all but the start were
visited. -/
structure Trail (graph : DependencyGraph) (start : String) (unvisited : Std.HashSet String)
    (ids : List String) : Prop where
  linked : ids.IsChain fun read reader => graph.Reads reader read
  origin : ids ≠ [] → ids.getLast? = some start
  visited : ∀ id ∈ ids, id = start ∨ id ∉ unvisited
  nodup : ids.Nodup

section Search

variable {graph : DependencyGraph} {start id next : String} {unvisited : Std.HashSet String}
  {ids path : List String} {way : List (String × List String)}

theorem trail_start (graph : DependencyGraph) (start : String) (unvisited : Std.HashSet String) :
    graph.Trail start unvisited [start] where
  linked := List.isChain_singleton start
  origin := fun _ => rfl
  visited := fun _ member => .inl (List.mem_singleton.mp member)
  nodup := List.nodup_singleton start

theorem Trail.back (trail : graph.Trail start unvisited (id :: ids)) :
    graph.Trail start unvisited ids where
  linked := trail.linked.tail
  origin := fun nonempty => by
    rcases List.exists_cons_of_ne_nil nonempty with ⟨before, rest, rfl⟩
    rw [← trail.origin (List.cons_ne_nil _ _), List.getLast?_cons_cons]
  visited := fun other member => trail.visited other (List.mem_cons_of_mem _ member)
  nodup := (List.nodup_cons.mp trail.nodup).2

/-- The trail goes on to a cell that was not visited yet. -/
theorem Trail.visit (trail : graph.Trail start unvisited (id :: ids))
    (reads : graph.Reads id next) (different : next ≠ start) (new : next ∈ unvisited) :
    graph.Trail start (unvisited.erase next) (next :: id :: ids) where
  linked := List.isChain_cons_cons.mpr ⟨reads, trail.linked⟩
  origin := fun _ => by
    rw [List.getLast?_cons_cons]
    exact trail.origin (List.cons_ne_nil _ _)
  visited := fun other member => by
    rcases List.mem_cons.mp member with rfl | before
    · exact .inr (by simp)
    · exact (trail.visited other before).imp_right (mt Std.HashSet.mem_of_mem_erase)
  nodup := by
    refine List.nodup_cons.mpr ⟨fun member => ?_, trail.nodup⟩
    rcases trail.visited next member with same | old
    · exact different same
    · exact old new

/-- A trail whose last cell reads the start closes to a cycle. -/
theorem Trail.isCycle (trail : graph.Trail start unvisited (id :: ids))
    (reads : graph.Reads id start) : graph.IsCycle start (start :: id :: ids).reverse where
  length := by
    rw [List.length_reverse]
    exact Nat.le_add_left 2 ids.length
  head := by
    rw [List.head?_reverse, List.getLast?_cons_cons]
    exact trail.origin (List.cons_ne_nil _ _)
  last := by
    rw [List.getLast?_reverse]
    rfl
  linked := List.isChain_reverse.mpr (List.isChain_cons_cons.mpr ⟨reads, trail.linked⟩)
  nodup := by
    rw [List.reverse_cons, List.dropLast_concat, List.nodup_reverse]
    exact trail.nodup

theorem isCycle_of_searchCycle (explored : graph.Explored start way)
    (trail : graph.Trail start unvisited (way.map Prod.fst))
    (found : graph.searchCycle start unvisited way = some path) : graph.IsCycle start path := by
  fun_induction searchCycle graph start unvisited way with
  | case1 => cases found
  | case2 unvisited id before ih => exact ih explored.back trail.back found
  | case3 unvisited id untried before =>
    rcases explored _ List.mem_cons_self with ⟨_, reads⟩
    rw [← Option.some.inj found]
    exact trail.isCycle (reads start List.mem_cons_self)
  | case4 unvisited id next untried before different new ih =>
    rcases explored _ List.mem_cons_self with ⟨_, reads⟩
    exact ih explored.visit (trail.visit (reads next List.mem_cons_self) different new) found
  | case5 unvisited id next untried before _ _ ih => exact ih explored.skip trail found

theorem isCycle_of_cycleThrough? (found : graph.cycleThrough? start = some path) :
    graph.IsCycle start path :=
  isCycle_of_searchCycle (explored_start graph start) (trail_start graph start _) found

end Search

/-- The search for a cycle through a cell finds one exactly if the cell reads
itself, directly or through others, and what it finds is a simple cycle. -/
theorem cycleThrough?_finds_simple_cycle (grid : Grid) (start : String) :
    ((∃ path, (ofGrid grid).cycleThrough? start = some path) ↔
        (ofGrid grid).DependsOn start start) ∧
      ∀ path, (ofGrid grid).cycleThrough? start = some path →
        (ofGrid grid).IsCycle start path := by
  refine ⟨?_, fun path found => isCycle_of_cycleThrough? found⟩
  rw [← Option.isSome_iff_exists]
  exact isCircular_ofGrid

/-! ## Both directions of the graph -/

/-- Whether a graph is an index of the formulas of a grid in both directions, with
exact closure: precedents are those of the formulas, each once, dependents are
their converse, and what depends on a cell through others is listed for it, the
cell itself just if a cycle through it is found. -/
structure Indexes (graph : DependencyGraph) (grid : Grid) : Prop where
  precedents : ∀ reader read, read ∈ graph.precedents reader ↔
    ∃ formula, grid.formula? reader = some formula ∧ read ∈ Formula.precedents formula
  nodup : ∀ id, (graph.precedents id).Nodup
  converse : ∀ read reader, read ∈ graph.precedents reader ↔ reader ∈ graph.dependents read
  closure : ∀ id reader, reader ∈ graph.transitiveDependents id ↔
    Relation.TransGen (fun reader read => read ∈ graph.precedents reader) reader id
  cycles : ∀ id, id ∈ graph.transitiveDependents id ↔ (graph.cycleThrough? id).isSome

/-- The graph of a grid is a faithful index of it, and its two searches agree. -/
theorem ofGrid_indexes_both_ways (grid : Grid) : (ofGrid grid).Indexes grid where
  precedents := fun _ _ => mem_precedents_ofGrid
  nodup := nodup_precedents_ofGrid grid
  converse := fun _ _ => mem_dependents_ofGrid.symm
  closure := fun _ _ => mem_transitiveDependents_ofGrid
  cycles := fun _ => mem_transitiveDependents_ofGrid.trans isCircular_ofGrid.symm

end DependencyGraph
end Worksheet
