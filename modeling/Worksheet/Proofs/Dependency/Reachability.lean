import Mathlib.Order.WellFoundedSet
import Worksheet.Proofs.Dependency.Graph

namespace Worksheet
namespace DependencyGraph

/-!
Reachability along precedents.  The two searches of the graph decide it: the
search for a cycle finds one exactly when a cell reaches itself, and the
transitive dependents of a cell are exactly the cells that reach it.  Where no
cell reaches itself, precedents can be followed only finitely often, which is
the induction that every statement about final values goes by.
-/

/-- Whether a cell reads another directly. -/
def Reads (graph : DependencyGraph) (reader read : String) : Prop :=
  read ∈ graph.precedents reader

/-- Whether a cell reads another directly or through others. -/
def DependsOn (graph : DependencyGraph) : String → String → Prop :=
  Relation.TransGen graph.Reads

/-- Whether a cell reads itself directly or through others. -/
def OnCycle (graph : DependencyGraph) (id : String) : Prop :=
  graph.DependsOn id id

/-- A cell that reads anything has a formula. -/
theorem DependsOn.mem_cells {grid : Grid} {reader read : String}
    (depends : (ofGrid grid).DependsOn reader read) : reader ∈ (ofGrid grid).cells := by
  cases Relation.TransGen.head'_iff.mp depends with
  | intro _ step => exact mem_cells_of_mem_precedents step.1

/-- Graphs that agree along every way from a cell agree on what it depends
on. -/
theorem dependsOn_congr {first second : DependencyGraph} {start : String}
    (same : ∀ id, Relation.ReflTransGen first.Reads start id →
      first.precedents id = second.precedents id) (read : String) :
    first.DependsOn start read ↔ second.DependsOn start read := by
  have step : ∀ id, Relation.ReflTransGen first.Reads start id → ∀ read,
      first.Reads id read ↔ second.Reads id read := fun id reached read => by
    rw [Reads, Reads, same id reached]
  constructor
  · intro depends
    induction depends with
    | single reads => exact .single ((step start .refl _).mp reads)
    | tail before reads ih => exact ih.tail ((step _ before.to_reflTransGen _).mp reads)
  · intro depends
    induction depends with
    | single reads => exact .single ((step start .refl _).mpr reads)
    | tail _ reads ih => exact ih.tail ((step _ ih.to_reflTransGen _).mpr reads)

theorem dependsOn_ofGrid_congr {first second : Grid} (layout : first.SameLayout second)
    (reader read : String) :
    (ofGrid first).DependsOn reader read ↔ (ofGrid second).DependsOn reader read := by
  refine dependsOn_congr (fun id _ => ?_) read
  rw [precedents_ofGrid, precedents_ofGrid, layout.formula?_eq]

/-! ## The search for a cycle -/

section Search

variable {graph : DependencyGraph} {start : String}

/-- A way that the search can be on: every cell is reached from the start,
and what is left to try is read. -/
def Explored (graph : DependencyGraph) (start : String) (way : List (String × List String)) :
    Prop :=
  ∀ step ∈ way, Relation.ReflTransGen graph.Reads start step.1 ∧
    ∀ next ∈ step.2, graph.Reads step.1 next

theorem explored_start (graph : DependencyGraph) (start : String) :
    graph.Explored start [(start, graph.precedents start)] := by
  intro step member
  rcases List.mem_singleton.mp member with rfl
  exact ⟨.refl, fun _ read => read⟩

section Steps

variable {unvisited : Std.HashSet String} {way before : List (String × List String)}
  {id next : String} {untried : List String}

theorem Explored.back (explored : graph.Explored start ((id, []) :: before)) :
    graph.Explored start before :=
  fun step member => explored step (List.mem_cons_of_mem _ member)

theorem Explored.skip (explored : graph.Explored start ((id, next :: untried) :: before)) :
    graph.Explored start ((id, untried) :: before) := by
  rcases explored _ List.mem_cons_self with ⟨reached, reads⟩
  intro step member
  rcases List.mem_cons.mp member with rfl | member
  · exact ⟨reached, fun other later => reads other (List.mem_cons_of_mem _ later)⟩
  · exact explored step (List.mem_cons_of_mem _ member)

theorem Explored.visit (explored : graph.Explored start ((id, next :: untried) :: before)) :
    graph.Explored start ((next, graph.precedents next) :: (id, untried) :: before) := by
  rcases explored _ List.mem_cons_self with ⟨reached, reads⟩
  intro step member
  rcases List.mem_cons.mp member with rfl | member
  · exact ⟨reached.tail (reads next List.mem_cons_self), fun _ read => read⟩
  · exact explored.skip step member

theorem onCycle_of_searchCycle (explored : graph.Explored start way)
    (found : (graph.searchCycle start unvisited way).isSome) : graph.OnCycle start := by
  fun_induction searchCycle graph start unvisited way with
  | case1 => cases found
  | case2 unvisited id before ih => exact ih explored.back found
  | case3 unvisited id untried before =>
    rcases explored _ List.mem_cons_self with ⟨reached, reads⟩
    exact Relation.TransGen.tail' reached (reads start List.mem_cons_self)
  | case4 unvisited id next untried before _ _ ih => exact ih explored.visit found
  | case5 unvisited id next untried before _ _ ih => exact ih explored.skip found

/-- Whether the search has nothing more to do for a cell that was read. -/
def Closed (graph : DependencyGraph) (start : String) (unvisited : Std.HashSet String)
    (read : String) : Prop :=
  read ≠ start ∧ (read ∈ graph.cells → read ∉ unvisited)

theorem Closed.erase {read : String} (closed : graph.Closed start unvisited read) (id : String) :
    graph.Closed start (unvisited.erase id) read :=
  ⟨closed.1, fun cell member => closed.2 cell (Std.HashSet.mem_of_mem_erase member)⟩

/-- The invariant of a search without success: what a visited cell reads is
closed or still to be tried on the way. -/
def Swept (graph : DependencyGraph) (start : String) (unvisited : Std.HashSet String)
    (way : List (String × List String)) : Prop :=
  ∀ id, id = start ∨ id ∈ graph.cells ∧ id ∉ unvisited → ∀ read, graph.Reads id read →
    graph.Closed start unvisited read ∨ ∃ step ∈ way, step.1 = id ∧ read ∈ step.2

theorem Swept.back (swept : graph.Swept start unvisited ((id, []) :: before)) :
    graph.Swept start unvisited before := by
  intro visited mark read reads
  rcases swept visited mark read reads with closed | ⟨step, member, same, untried⟩
  · exact .inl closed
  · rcases List.mem_cons.mp member with rfl | member
    · cases untried
    · exact .inr ⟨step, member, same, untried⟩

/-- A precedent that is closed need not be tried. -/
theorem Swept.skip (swept : graph.Swept start unvisited ((id, next :: untried) :: before))
    (closed : graph.Closed start unvisited next) :
    graph.Swept start unvisited ((id, untried) :: before) := by
  intro visited mark read reads
  rcases swept visited mark read reads with done | ⟨step, member, same, waits⟩
  · exact .inl done
  · rcases List.mem_cons.mp member with rfl | member
    · rcases List.mem_cons.mp waits with rfl | later
      · exact .inl closed
      · exact .inr ⟨_, List.mem_cons_self, same, later⟩
    · exact .inr ⟨step, List.mem_cons_of_mem _ member, same, waits⟩

/-- A cell that is visited puts what it reads on the way. -/
theorem Swept.visit (swept : graph.Swept start unvisited ((id, next :: untried) :: before))
    (different : next ≠ start) :
    graph.Swept start (unvisited.erase next)
      ((next, graph.precedents next) :: (id, untried) :: before) := by
  intro visited mark read reads
  by_cases new : visited = next
  · subst new
    exact .inr ⟨_, List.mem_cons_self, rfl, reads⟩
  have old : visited = start ∨ visited ∈ graph.cells ∧ visited ∉ unvisited := by
    refine mark.imp_right fun ⟨cell, absent⟩ => ⟨cell, fun member => absent ?_⟩
    exact Std.HashSet.mem_erase.mpr ⟨by simpa using Ne.symm new, member⟩
  rcases swept visited old read reads with closed | ⟨step, member, same, waits⟩
  · exact .inl (closed.erase next)
  · rcases List.mem_cons.mp member with rfl | member
    · rcases List.mem_cons.mp waits with rfl | later
      · exact .inl ⟨different, fun _ member => by simp at member⟩
      · exact .inr ⟨_, List.mem_cons_of_mem _ List.mem_cons_self, same, later⟩
    · exact .inr ⟨step, List.mem_cons_of_mem _ (List.mem_cons_of_mem _ member), same, waits⟩

theorem swept_of_searchCycle (swept : graph.Swept start unvisited way)
    (missed : graph.searchCycle start unvisited way = none) :
    ∃ rest, graph.Swept start rest [] := by
  fun_induction searchCycle graph start unvisited way with
  | case1 unvisited => exact ⟨unvisited, swept⟩
  | case2 unvisited id before ih => exact ih swept.back missed
  | case3 unvisited id untried before => cases missed
  | case4 unvisited id next untried before different _ ih => exact ih (swept.visit different) missed
  | case5 unvisited id next untried before different stale ih =>
    exact ih (swept.skip ⟨different, fun _ => stale⟩) missed

end Steps

end Search

variable {grid : Grid} {id start : String}

/-- The search for a cycle through a cell succeeds exactly when there is
one. -/
theorem isCircular_ofGrid : (ofGrid grid).isCircular id = true ↔ (ofGrid grid).OnCycle id := by
  constructor
  · exact onCycle_of_searchCycle (explored_start _ id)
  · intro cycle
    by_contra missed
    have none : (ofGrid grid).cycleThrough? id = none := by
      simpa [isCircular] using missed
    -- At the outset only the start is visited, and all it reads is to be tried.
    have outset : (ofGrid grid).Swept id (.ofList (ofGrid grid).cells)
        [(id, (ofGrid grid).precedents id)] := by
      intro visited mark read reads
      rcases mark with rfl | ⟨cell, absent⟩
      · exact .inr ⟨_, List.mem_singleton_self _, rfl, reads⟩
      · exact absurd (Std.HashSet.mem_ofList.mpr (List.contains_iff_mem.mpr cell)) absent
    rcases swept_of_searchCycle outset none with ⟨rest, swept⟩
    have closed : ∀ read, (ofGrid grid).DependsOn id read →
        (ofGrid grid).Closed id rest read := by
      intro read depends
      induction depends with
      | single reads => simpa using swept id (.inl rfl) _ reads
      | tail _ reads ih =>
        have cell := mem_cells_of_mem_precedents reads
        simpa using swept _ (.inr ⟨cell, ih.2 cell⟩) _ reads
    exact (closed id cycle).1 rfl

/-! ## Transitive dependents -/

section Spreading

variable {graph : DependencyGraph}

theorem mem_of_mem_withoutReached {unreached : Std.HashSet String} {work : List String}
    (member : id ∈ graph.withoutReached unreached work) : id ∈ unreached := by
  fun_induction withoutReached graph unreached work with
  | case1 => exact member
  | case2 unreached next rest _ ih => exact Std.HashSet.mem_of_mem_erase (ih member)
  | case3 unreached next rest _ ih => exact ih member

theorem reached_of_not_mem {unreached : Std.HashSet String} {work : List String}
    (Reached : String → Prop) (outset : ∀ next ∈ work, Reached next)
    (spreads : ∀ next, Reached next → ∀ reader ∈ graph.dependents next, Reached reader)
    (before : id ∈ unreached) (after : id ∉ graph.withoutReached unreached work) :
    Reached id := by
  fun_induction withoutReached graph unreached work with
  | case1 => exact absurd before after
  | case2 unreached next rest _ ih =>
    have now := outset next List.mem_cons_self
    by_cases same : next = id
    · exact same ▸ now
    · refine ih (fun other member => ?_) ?_ after
      · rcases List.mem_append.mp member with reads | later
        · exact spreads next now other reads
        · exact outset other (List.mem_cons_of_mem _ later)
      · exact Std.HashSet.mem_erase.mpr ⟨by simpa using same, before⟩
  | case3 unreached next rest _ ih =>
    exact ih (fun other member => outset other (List.mem_cons_of_mem _ member)) before after

/-- The invariant of the walk: what reads a reached cell is reached or waits
in the work list. -/
def Spread (graph : DependencyGraph) (unreached : Std.HashSet String) (work : List String) :
    Prop :=
  ∀ id ∈ graph.cells, id ∉ unreached →
    ∀ reader ∈ graph.dependents id, reader ∈ unreached → reader ∈ work

theorem Spread.reach {unreached : Std.HashSet String} {rest : List String} {next : String}
    (spread : graph.Spread unreached (next :: rest)) :
    graph.Spread (unreached.erase next) (graph.dependents next ++ rest) := by
  intro id cell absent reader reads present
  rcases Std.HashSet.mem_erase.mp present with ⟨different, present⟩
  by_cases same : next = id
  · exact List.mem_append_left _ (same ▸ reads)
  · have old : id ∉ unreached := fun member =>
      absent (Std.HashSet.mem_erase.mpr ⟨by simpa using same, member⟩)
    rcases List.mem_cons.mp (spread id cell old reader reads present) with rfl | later
    · simp at different
    · exact List.mem_append_right _ later

theorem Spread.skip {unreached : Std.HashSet String} {rest : List String} {next : String}
    (spread : graph.Spread unreached (next :: rest)) (gone : next ∉ unreached) :
    graph.Spread unreached rest := by
  intro id cell absent reader reads present
  rcases List.mem_cons.mp (spread id cell absent reader reads present) with rfl | later
  · exact absurd present gone
  · exact later

theorem spread_withoutReached {unreached : Std.HashSet String} {work : List String}
    (spread : graph.Spread unreached work) :
    graph.Spread (graph.withoutReached unreached work) [] ∧
      ∀ next ∈ work, next ∉ graph.withoutReached unreached work := by
  fun_induction withoutReached graph unreached work with
  | case1 => exact ⟨spread, fun _ member => absurd member List.not_mem_nil⟩
  | case2 unreached next rest _ ih =>
    rcases ih spread.reach with ⟨finished, avoids⟩
    refine ⟨finished, fun other member => ?_⟩
    rcases List.mem_cons.mp member with rfl | later
    · exact fun left => by simpa using mem_of_mem_withoutReached left
    · exact avoids other (List.mem_append_right _ later)
  | case3 unreached next rest gone ih =>
    rcases ih (spread.skip gone) with ⟨finished, avoids⟩
    refine ⟨finished, fun other member => ?_⟩
    rcases List.mem_cons.mp member with rfl | later
    · exact fun left => gone (mem_of_mem_withoutReached left)
    · exact avoids other later

end Spreading

/-- The transitive dependents of a cell are the cells that depend on it. -/
theorem mem_transitiveDependents_ofGrid {reader : String} :
    reader ∈ (ofGrid grid).transitiveDependents id ↔ (ofGrid grid).DependsOn reader id := by
  rw [transitiveDependents, List.mem_filter, decide_eq_true_eq]
  constructor
  · rintro ⟨cell, reached⟩
    refine reached_of_not_mem (fun other => (ofGrid grid).DependsOn other id)
      (fun next reads => ?_) (fun next depends other reads => ?_) ?_ reached
    · exact .single (mem_dependents_ofGrid.mp reads)
    · exact .head (mem_dependents_ofGrid.mp reads) depends
    · exact Std.HashSet.mem_ofList.mpr (List.contains_iff_mem.mpr cell)
  · intro depends
    have outset : (ofGrid grid).Spread (.ofList (ofGrid grid).cells)
        ((ofGrid grid).dependents id) := by
      intro other cell absent
      exact absurd (Std.HashSet.mem_ofList.mpr (List.contains_iff_mem.mpr cell)) absent
    rcases spread_withoutReached outset with ⟨finished, avoids⟩
    refine ⟨depends.mem_cells, ?_⟩
    induction depends using Relation.TransGen.head_induction_on with
    | single reads => exact avoids _ (mem_dependents_ofGrid.mpr reads)
    | head reads rest ih =>
      intro left
      have waits := finished _ (DependsOn.mem_cells rest) ih _
        (mem_dependents_ofGrid.mpr reads) left
      exact absurd waits List.not_mem_nil

/-! ## Induction along precedents -/

/-- A property holds of every formula cell off the cycles if it is inherited
from such cells by the cells that read them. -/
theorem induction_of_not_onCycle (Holds : String → Prop)
    (step : ∀ id ∈ (ofGrid grid).cells, ¬(ofGrid grid).OnCycle id →
      (∀ read, (ofGrid grid).Reads id read → read ∈ (ofGrid grid).cells →
        ¬(ofGrid grid).OnCycle read → Holds read) → Holds id)
    (cell : id ∈ (ofGrid grid).cells) (acyclic : ¬(ofGrid grid).OnCycle id) : Holds id := by
  let Cell := { id // id ∈ (ofGrid grid).cells ∧ ¬(ofGrid grid).OnCycle id }
  have finite : Finite Cell :=
    Set.Finite.subset (List.finite_toSet (ofGrid grid).cells) fun _ member => member.1
  let below (read reader : Cell) : Prop := (ofGrid grid).DependsOn reader.1 read.1
  have transitive : IsTrans Cell below := ⟨fun _ _ _ first second => second.trans first⟩
  have irreflexive : Std.Irrefl below := ⟨fun cell => cell.2.2⟩
  have wellFounded := Finite.wellFounded_of_trans_of_irrefl below
  have all : ∀ cell : Cell, Holds cell.1 := fun cell => by
    induction cell using wellFounded.induction with
    | _ cell ih =>
      exact step cell.1 cell.2.1 cell.2.2 fun read reads member acyclic =>
        ih ⟨read, member, acyclic⟩ (.single reads)
  exact all ⟨id, cell, acyclic⟩

/-- Formula cells that all read one another, so that none can come first,
hold a cycle. -/
theorem exists_onCycle (Stuck : String → Prop)
    (cells : ∀ id, Stuck id → id ∈ (ofGrid grid).cells)
    (stuck : ∀ id, Stuck id → ∃ read, (ofGrid grid).Reads id read ∧ Stuck read)
    (member : Stuck id) : ∃ id, Stuck id ∧ (ofGrid grid).OnCycle id := by
  by_contra none
  have acyclic : ∀ id, Stuck id → ¬(ofGrid grid).OnCycle id :=
    fun id member cycle => none ⟨id, member, cycle⟩
  refine induction_of_not_onCycle (fun id => ¬Stuck id) (fun id _ _ ih member => ?_)
    (cells id member) (acyclic id member) member
  rcases stuck id member with ⟨read, reads, next⟩
  exact ih read reads (cells read next) (acyclic read next) next

end DependencyGraph
end Worksheet
