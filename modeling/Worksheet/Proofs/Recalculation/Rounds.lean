import Mathlib.Logic.Relation
import Worksheet.Proofs.Recalculation.EvaluationOrder

namespace Worksheet

/-!
A run of the schedule step by step.  In a round the ready cells are evaluated one
by one; when none is left and cells still wait, those on cycles are marked one by
one, which opens the next round.  At every point between two steps each cell that
is left counts those of its precedents that are left.  From this it follows that
no count is lowered below zero, that a run is never stuck, and that the second
round is the last.
-/

open DependencyGraph (ofGrid)

namespace Schedule

/-! ## Points of a run -/

/-- How a cell was taken out of the schedule. -/
inductive Removal where
  | evaluated (id : String)
  | marked (id : String)
deriving DecidableEq

namespace Removal

/-- The cell that was taken out. -/
def cell : Removal → String
  | evaluated id => id
  | marked id => id

/-- What is written into a grid when a cell is taken out. -/
def write (grid : Grid) : Removal → Grid
  | evaluated id => grid.evaluateCell id
  | marked id => grid.setValue id FormulaError.circular.token

theorem count_cell (removals : List Removal) (id : String) :
    (removals.map cell).count id =
      removals.count (.evaluated id) + removals.count (.marked id) := by
  induction removals with
  | nil => rfl
  | cons removal removals ih =>
    rw [List.map_cons, List.count_cons, List.count_cons, List.count_cons, ih]
    cases removal with
    | evaluated other =>
      simp only [cell, beq_iff_eq, evaluated.injEq, reduceCtorEq, if_false]
      omega
    | marked other =>
      simp only [cell, beq_iff_eq, marked.injEq, reduceCtorEq, if_false]
      omega

end Removal

/-- A point of a run between two steps. -/
structure Point where
  schedule : Schedule
  /-- The cells on cycles that are still to be marked. -/
  marking : List String
  /-- Which round it is; every round but the first begins with marks. -/
  round : Nat
  /-- The cells taken out so far, in order. -/
  removals : List Removal

/-- What comes after a point. -/
inductive Next where
  | goesOn (later : Point)
  /-- No cell is left. -/
  | ends
  /-- Cells are left, but none is ready and none lies on a cycle. -/
  | stalls

/-- The next step of a run: a cell on a cycle is marked, the first ready cell is
evaluated or, if it was taken out before, dropped, or cells on cycles are looked
for among those that are left. -/
def Point.next (graph : DependencyGraph) : Point → Next
  | ⟨schedule, id :: marking, round, removals⟩ =>
    .goesOn ⟨mark graph schedule id, marking, round, removals ++ [.marked id]⟩
  | ⟨schedule, [], round, removals⟩ =>
    match schedule.ready with
    | id :: ready =>
      if id ∈ schedule.waiting then
        .goesOn
          ⟨evaluate graph { schedule with ready } id, [], round, removals ++ [.evaluated id]⟩
      else .goesOn ⟨{ schedule with ready }, [], round, removals⟩
    | [] =>
      let circular := schedule.waiting.keys.filter graph.isCircular
      if schedule.waiting.isEmpty then .ends
      else if circular = [] then .stalls
      else .goesOn ⟨schedule, circular, round + 1, removals⟩

/-- The point at which a run over some cells begins. -/
def Point.start (graph : DependencyGraph) (grid : Grid) (cells : List String) : Point where
  schedule := Schedule.start graph grid cells
  marking := []
  round := 1
  removals := []

/-- Whether a run comes from one point to another. -/
def Reaches (graph : DependencyGraph) : Point → Point → Prop :=
  Relation.ReflTransGen fun point later => point.next graph = .goesOn later

/-- What one step can do. -/
inductive Step (graph : DependencyGraph) : Point → Point → Prop where
  | mark (schedule : Schedule) (id : String) (marking : List String) (round : Nat)
      (removals : List Removal) :
      Step graph ⟨schedule, id :: marking, round, removals⟩
        ⟨schedule.mark graph id, marking, round, removals ++ [.marked id]⟩
  | evaluate {schedule : Schedule} {id : String} {ready : List String}
      (queue : schedule.ready = id :: ready) (waits : id ∈ schedule.waiting) (round : Nat)
      (removals : List Removal) :
      Step graph ⟨schedule, [], round, removals⟩
        ⟨.evaluate graph { schedule with ready } id, [], round, removals ++ [.evaluated id]⟩
  | drop {schedule : Schedule} {id : String} {ready : List String}
      (queue : schedule.ready = id :: ready) (gone : id ∉ schedule.waiting) (round : Nat)
      (removals : List Removal) :
      Step graph ⟨schedule, [], round, removals⟩ ⟨{ schedule with ready }, [], round, removals⟩
  | search {schedule : Schedule} (queue : schedule.ready = [])
      (found : schedule.waiting.keys.filter graph.isCircular ≠ []) (round : Nat)
      (removals : List Removal) :
      Step graph ⟨schedule, [], round, removals⟩
        ⟨schedule, schedule.waiting.keys.filter graph.isCircular, round + 1, removals⟩

theorem step_of_next {graph : DependencyGraph} {point later : Point}
    (goesOn : point.next graph = .goesOn later) : Step graph point later := by
  revert goesOn
  fun_cases Point.next graph point with
  | case1 schedule id marking round removals =>
    rintro ⟨⟩
    exact .mark schedule id marking round removals
  | case2 schedule round removals id ready queue waits =>
    rintro ⟨⟩
    exact .evaluate queue waits round removals
  | case3 schedule round removals id ready queue gone =>
    rintro ⟨⟩
    exact .drop queue gone round removals
  | case4 => rintro ⟨⟩
  | case5 => rintro ⟨⟩
  | case6 schedule round removals queue circular left found =>
    rintro ⟨⟩
    exact .search queue found round removals

/-! ## The steps and the run -/

/-- The grid in which a run ends from a point. -/
def Point.outcome (graph : DependencyGraph) (point : Point) : Grid :=
  run graph (point.marking.foldl (mark graph) point.schedule)

theorem outcome_next {graph : DependencyGraph} {point later : Point}
    (goesOn : point.next graph = .goesOn later) : later.outcome graph = point.outcome graph := by
  cases step_of_next goesOn with
  | mark schedule id marking round removals => rfl
  | evaluate queue waits round removals => exact (run_of_waiting _ queue waits).symm
  | drop queue gone round removals => exact (run_of_not_waiting _ queue gone).symm
  | search queue found round removals => exact ((run_of_nil _ queue).trans (if_neg found)).symm

theorem outcome_of_reaches {graph : DependencyGraph} {first last : Point}
    (reaches : Reaches graph first last) : last.outcome graph = first.outcome graph := by
  induction reaches with
  | refl => rfl
  | tail _ goesOn ih => exact (outcome_next goesOn).trans ih

/-- Where a run ends, nothing waits and the grid is done. -/
theorem outcome_of_ends {graph : DependencyGraph} {point : Point}
    (ends : point.next graph = .ends) :
    (∀ id, id ∉ point.schedule.waiting) ∧ point.outcome graph = point.schedule.grid := by
  revert ends
  fun_cases Point.next graph point with
  | case4 schedule round removals queue empty =>
    intro _
    have none : schedule.waiting = ∅ := Std.ExtTreeMap.isEmpty_iff.mp empty
    refine ⟨Std.ExtTreeMap.eq_empty_iff_forall_not_mem.mp none, ?_⟩
    have keys : schedule.waiting.keys = [] := by simp [none]
    change run graph schedule = schedule.grid
    rw [run_of_nil schedule queue, keys]
    rfl
  | _ => rintro ⟨⟩

/-! ## What every step keeps -/

/-- Taking a cell out lowers the counts of its readers one after the other, each
from a number that is not zero. -/
def ReleasesPositive (graph : DependencyGraph) (schedule : Schedule) (id : String) : Prop :=
  ∀ before reader after, graph.dependents id = before ++ reader :: after →
    (before.foldl release { schedule with waiting := schedule.waiting.erase id }).waiting[reader]? ≠
      some 0

variable {grid : Grid} {cells : List String} {point later : Point} {schedule after : Schedule}
  {id : String}

theorem Counted.releasesPositive (counted : Counted (ofGrid grid) schedule)
    (member : id ∈ schedule.waiting) : ReleasesPositive (ofGrid grid) schedule id := by
  intro before reader after shape zero
  have nodup := DependencyGraph.nodup_dependents_ofGrid grid id
  have listed : reader ∈ (ofGrid grid).dependents id := by simp [shape]
  rw [shape] at nodup
  have apart := List.nodup_append.mp nodup
  have fresh : reader ∉ before := fun early => apart.2.2 reader early reader List.mem_cons_self rfl
  rw [getElem?_foldl_release _ _ _ apart.1, if_neg fresh, Std.ExtTreeMap.getElem?_erase] at zero
  split at zero
  · cases zero
  · have waits : reader ∈ schedule.waiting := by
      apply Std.ExtTreeMap.mem_iff_isSome_getElem?.mpr
      exact Option.isSome_of_eq_some zero
    have reads := DependencyGraph.mem_dependents_ofGrid.mp listed
    exact counted.not_waiting_of_free waits (counted.queued reader zero) id reads member

/-- The invariant of the steps.  Before the search for cycles nothing is to be
marked; after it every cell on a cycle that is left is to be marked. -/
structure Sound (grid : Grid) (cells : List String) (point : Point) : Prop where
  counted : Counted (ofGrid grid) point.schedule
  accounted : (point.removals.map Removal.cell ++ point.schedule.waiting.keys).Perm cells
  written : point.schedule.grid = point.removals.foldl Removal.write grid
  nodup : point.marking.Nodup
  waits : ∀ id ∈ point.marking, id ∈ point.schedule.waiting
  searched : point.round = 1 ∧ point.marking = [] ∨ point.round = 2 ∧
    ∀ id ∈ point.schedule.waiting, (ofGrid grid).OnCycle id → id ∈ point.marking

theorem perm_keys_of_removed (member : id ∈ schedule.waiting)
    (waiting : ∀ other, other ∈ after.waiting ↔ other ≠ id ∧ other ∈ schedule.waiting) :
    (id :: after.waiting.keys).Perm schedule.waiting.keys := by
  have gone : id ∉ after.waiting.keys := by
    intro key
    exact ((waiting id).mp (Std.ExtTreeMap.mem_keys.mp key)).1 rfl
  apply (List.perm_ext_iff_of_nodup (List.nodup_cons.mpr ⟨gone, Std.ExtTreeMap.nodup_keys⟩)
    Std.ExtTreeMap.nodup_keys).mpr
  intro other
  rw [List.mem_cons, Std.ExtTreeMap.mem_keys, Std.ExtTreeMap.mem_keys, waiting other]
  by_cases same : other = id
  · exact iff_of_true (.inl same) (same ▸ member)
  · simp [same]

theorem sound_start (nodup : cells.Nodup) : Sound grid cells (.start (ofGrid grid) grid cells) where
  counted := counted_start nodup
  accounted := by
    change (Schedule.start (ofGrid grid) grid cells).waiting.keys.Perm cells
    apply (List.perm_ext_iff_of_nodup Std.ExtTreeMap.nodup_keys nodup).mpr
    intro id
    exact Std.ExtTreeMap.mem_keys.trans mem_waiting_start
  written := rfl
  nodup := List.nodup_nil
  waits := fun id member => absurd member List.not_mem_nil
  searched := .inl ⟨rfl, rfl⟩

/-- Taking a waiting cell out keeps the invariant; if it was to be marked, that
is done. -/
theorem Sound.take (sound : Sound grid cells point) (removal : Removal)
    (member : removal.cell ∈ point.schedule.waiting) (counted : Counted (ofGrid grid) after)
    (written : after.grid = removal.write point.schedule.grid)
    (waiting : ∀ other,
      other ∈ after.waiting ↔ other ≠ removal.cell ∧ other ∈ point.schedule.waiting) :
    Sound grid cells ⟨after, point.marking.erase removal.cell, point.round,
      point.removals ++ [removal]⟩ where
  counted := counted
  accounted := by
    have moved := (perm_keys_of_removed member waiting).append_left
      (point.removals.map Removal.cell)
    rw [List.map_append, List.append_assoc]
    exact moved.trans sound.accounted
  written := by rw [written, sound.written, List.foldl_append, List.foldl_cons, List.foldl_nil]
  nodup := sound.nodup.erase removal.cell
  waits := by
    intro other marked
    rcases sound.nodup.mem_erase_iff.mp marked with ⟨different, marked⟩
    exact (waiting other).mpr ⟨different, sound.waits other marked⟩
  searched := by
    apply sound.searched.imp
    · rintro ⟨first, none⟩
      exact ⟨first, by rw [none, List.erase_nil]⟩
    · rintro ⟨second, all⟩
      refine ⟨second, fun other left cycle => ?_⟩
      rcases (waiting other).mp left with ⟨different, waits⟩
      exact sound.nodup.mem_erase_iff.mpr ⟨different, all other waits cycle⟩

/-- The search for cycles keeps the invariant.  There is no second one: after the
first, no cell on a cycle is left when all marks are set. -/
theorem Sound.search {round : Nat} {removals : List Removal}
    (sound : Sound grid cells ⟨schedule, [], round, removals⟩)
    (found : schedule.waiting.keys.filter (ofGrid grid).isCircular ≠ []) :
    Sound grid cells ⟨schedule, schedule.waiting.keys.filter (ofGrid grid).isCircular, round + 1,
      removals⟩ where
  counted := sound.counted
  accounted := sound.accounted
  written := sound.written
  nodup := Std.ExtTreeMap.nodup_keys.filter _
  waits := fun id member => Std.ExtTreeMap.mem_keys.mp (List.mem_filter.mp member).1
  searched := by
    rcases sound.searched with ⟨first, _⟩ | ⟨_, all⟩
    · refine .inr ⟨congrArg (· + 1) first, fun id waits cycle => ?_⟩
      exact List.mem_filter.mpr ⟨Std.ExtTreeMap.mem_keys.mpr waits,
        DependencyGraph.isCircular_ofGrid.mpr cycle⟩
    · rcases List.exists_mem_of_ne_nil _ found with ⟨id, circular⟩
      rcases List.mem_filter.mp circular with ⟨key, cycle⟩
      have marked := all id (Std.ExtTreeMap.mem_keys.mp key)
        (DependencyGraph.isCircular_ofGrid.mp cycle)
      exact absurd marked List.not_mem_nil

theorem Sound.next (sound : Sound grid cells point)
    (goesOn : point.next (ofGrid grid) = .goesOn later) : Sound grid cells later := by
  cases step_of_next goesOn with
  | mark schedule id marking round removals =>
    have member := sound.waits id List.mem_cons_self
    have taken := sound.take (.marked id) member (sound.counted.mark member)
      (grid_complete _ _) (mem_waiting_mark grid schedule id)
    rwa [Removal.cell, List.erase_cons_head] at taken
  | @evaluate schedule id ready queue waits round removals =>
    exact sound.take (.evaluated id) waits (sound.counted.evaluate queue waits)
      (grid_complete _ _) (mem_waiting_evaluate grid schedule ready id)
  | drop queue gone round removals =>
    exact { sound with counted := sound.counted.drop queue gone }
  | search queue found round removals => exact sound.search found

theorem Sound.of_reaches {first last : Point} (sound : Sound grid cells first)
    (reaches : Reaches (ofGrid grid) first last) : Sound grid cells last := by
  induction reaches with
  | refl => exact sound
  | tail _ goesOn ih => exact ih.next goesOn

theorem Sound.round_le (sound : Sound grid cells point) : point.round ≤ 2 := by
  rcases sound.searched with ⟨first, _⟩ | ⟨second, _⟩
  · omega
  · omega

/-! ## The end of a run -/

/-- Where cells are left and none is ready, one of them lies on a cycle. -/
theorem Sound.next_ne_stalls (sound : Sound grid cells point)
    (formulas : ∀ id ∈ cells, id ∈ (ofGrid grid).cells) :
    point.next (ofGrid grid) ≠ .stalls := by
  revert sound
  fun_cases Point.next (ofGrid grid) point with
  | case5 schedule round removals queue circular left none =>
    intro sound
    have inside : ∀ id ∈ schedule.waiting, id ∈ (ofGrid grid).cells := by
      intro id waits
      apply formulas
      apply sound.accounted.subset
      exact List.mem_append_right _ (Std.ExtTreeMap.mem_keys.mpr waits)
    have nothing := sound.counted.not_waiting_of_stuck inside queue none
    have empty := Std.ExtTreeMap.eq_empty_iff_forall_not_mem.mpr nothing
    exact absurd (Std.ExtTreeMap.isEmpty_iff.mpr empty) left
  | _ => rintro _ ⟨⟩

/-- What is left to be done: first the cells that wait, then the entries of the
ready cells and the search for cycles. -/
def Point.size (point : Point) : Nat × Nat :=
  (point.schedule.waiting.size,
    point.schedule.ready.length + if point.marking = [] then 1 else 0)

theorem Sound.size_lt (sound : Sound grid cells point)
    (goesOn : point.next (ofGrid grid) = .goesOn later) :
    Prod.Lex (· < ·) (· < ·) later.size point.size := by
  cases step_of_next goesOn with
  | mark schedule id marking round removals =>
    apply Prod.Lex.left
    simp only [Schedule.mark, size_complete]
    exact size_erase_lt (sound.waits id List.mem_cons_self)
  | evaluate queue waits round removals =>
    apply Prod.Lex.left
    simp only [Schedule.evaluate, size_complete]
    exact size_erase_lt waits
  | drop queue gone round removals =>
    apply Prod.Lex.right
    simp [queue]
  | search queue found round removals =>
    apply Prod.Lex.right
    simp [queue, found]

theorem Sound.exists_end {point : Point} (sound : Sound grid cells point)
    (formulas : ∀ id ∈ cells, id ∈ (ofGrid grid).cells) :
    ∃ last, Reaches (ofGrid grid) point last ∧ last.next (ofGrid grid) = .ends := by
  cases step : point.next (ofGrid grid) with
  | goesOn later =>
    rcases (sound.next step).exists_end formulas with ⟨last, reaches, ends⟩
    exact ⟨last, .head step reaches, ends⟩
  | ends => exact ⟨point, .refl, step⟩
  | stalls => exact absurd step (sound.next_ne_stalls formulas)
termination_by point.size
decreasing_by exact sound.size_lt step

/-- What holds at every point of a run over some cells. -/
structure Regular (grid : Grid) (cells : List String) (point : Point) : Prop where
  count : ∀ id count, point.schedule.waiting[id]? = some count →
    count = ((ofGrid grid).precedents id).countP (· ∈ point.schedule.waiting)
  positive : ∀ id ∈ point.schedule.waiting, ReleasesPositive (ofGrid grid) point.schedule id
  marking : ∀ id ∈ point.marking, id ∈ point.schedule.waiting
  accounted : (point.removals.map Removal.cell ++ point.schedule.waiting.keys).Perm cells
  written : point.schedule.grid = point.removals.foldl Removal.write grid
  proceeds : point.next (ofGrid grid) ≠ .stalls
  round : point.round ≤ 2

theorem Sound.regular (sound : Sound grid cells point)
    (formulas : ∀ id ∈ cells, id ∈ (ofGrid grid).cells) : Regular grid cells point where
  count := sound.counted.count
  positive := fun _ member => sound.counted.releasesPositive member
  marking := sound.waits
  accounted := sound.accounted
  written := sound.written
  proceeds := sound.next_ne_stalls formulas
  round := sound.round_le

/-- A run over any formula cells of a grid ends, in the second round at the
latest, with no cell left and each one evaluated or marked just once.  At every
point on the way the counters are right, none is lowered below zero, the run is
not stuck, and what it goes on to is the evaluation of the cells in order. -/
theorem run_never_stalls (grid : Grid) (chosen : String → Bool) :
    let graph := ofGrid grid
    let cells := graph.cells.filter chosen
    let first := Point.start graph grid cells
    (∀ point, Reaches graph first point →
        Regular grid cells point ∧ point.outcome graph = grid.evaluateInOrder graph cells) ∧
      ∃ last, Reaches graph first last ∧ last.next graph = .ends ∧
        (∀ id, id ∉ last.schedule.waiting) ∧
        (∀ removal ∈ last.removals, removal.cell ∈ cells) ∧
        (∀ id ∈ cells,
          last.removals.count (.evaluated id) + last.removals.count (.marked id) = 1) ∧
        grid.evaluateInOrder graph cells = last.schedule.grid := by
  intro graph cells first
  have nodup : cells.Nodup := (DependencyGraph.nodup_cells_ofGrid grid).filter _
  have formulas : ∀ id ∈ cells, id ∈ graph.cells := fun id member => (List.mem_filter.mp member).1
  have start : Sound grid cells first := sound_start nodup
  refine ⟨fun point reaches => ⟨(start.of_reaches reaches).regular formulas,
    outcome_of_reaches reaches⟩, ?_⟩
  rcases start.exists_end formulas with ⟨last, reaches, ends⟩
  have sound := start.of_reaches reaches
  rcases outcome_of_ends ends with ⟨done, outcome⟩
  have keys : last.schedule.waiting.keys = [] := by
    apply List.eq_nil_iff_forall_not_mem.mpr
    intro id key
    exact done id (Std.ExtTreeMap.mem_keys.mp key)
  have all := sound.accounted
  rw [keys, List.append_nil] at all
  refine ⟨last, reaches, ends, done, ?_, ?_, ?_⟩
  · intro removal member
    exact all.subset (List.mem_map_of_mem member)
  · intro id member
    rw [← Removal.count_cell, all.count_eq id]
    exact List.count_eq_one_of_mem nodup member
  · exact (outcome_of_reaches reaches).symm.trans outcome

end Schedule
end Worksheet
