import Worksheet.Dependency.Cycle
import Worksheet.Formula.Evaluation

namespace Worksheet

/-!
Evaluation in the order of dependencies.  Every cell of the schedule waits
for those of its precedents that are in the schedule too.  Cells that wait
for none are evaluated in the order in which they became ready.  When none is
ready, the cells on cycles are marked as circular and taken out, and what
waited for them goes on.
-/

namespace Grid

/-- The value that a grid gives to the formula of a cell. -/
def evaluated? (grid : Grid) (id : String) : Option String :=
  ((grid.get? id).bind (·.activeFormula?)).map (Formula.evaluate · grid.value?)

/-- A grid with the formulas of some cells evaluated, all from the values
before. -/
def evaluateEach (grid : Grid) (ids : List String) : Grid :=
  let results := ids.filterMap fun id => (grid.evaluated? id).map (id, ·)
  results.foldl (fun grid (id, value) => grid.setValue id value) grid

/-- A grid with the formula of a cell evaluated. -/
def evaluateCell (grid : Grid) (id : String) : Grid :=
  match grid.evaluated? id with
  | some value => grid.setValue id value
  | none => grid

end Grid

/-- The state of an evaluation: the grid so far, for how many precedents each
cell that is left waits, and the cells that wait for none. -/
structure Schedule where
  grid : Grid
  waiting : Std.ExtTreeMap String Nat
  ready : List String

namespace Schedule

/-- The schedule for some cells, given in the order of their identifiers. -/
def start (graph : DependencyGraph) (grid : Grid) (cells : List String) : Schedule :=
  let scheduled : Std.HashSet String := .ofList cells
  let counts := cells.map fun id => (id, (graph.precedents id).countP (· ∈ scheduled))
  { grid
    waiting := .ofList counts
    ready := counts.filterMap fun (id, count) => if count = 0 then some id else none }

/-- Lets a cell wait for one precedent less, if it is still waiting. -/
def release (schedule : Schedule) (id : String) : Schedule :=
  match schedule.waiting[id]? with
  | none => schedule
  | some count =>
    { schedule with
      waiting := schedule.waiting.insert id (count - 1)
      ready := if count - 1 = 0 then schedule.ready ++ [id] else schedule.ready }

/-- Takes a cell out and releases its dependents. -/
def complete (graph : DependencyGraph) (schedule : Schedule) (id : String) : Schedule :=
  (graph.dependents id).foldl release { schedule with waiting := schedule.waiting.erase id }

/-- Evaluates a cell and takes it out. -/
def evaluate (graph : DependencyGraph) (schedule : Schedule) (id : String) : Schedule :=
  complete graph { schedule with grid := schedule.grid.evaluateCell id } id

/-- Marks a cell as circular and takes it out. -/
def mark (graph : DependencyGraph) (schedule : Schedule) (id : String) : Schedule :=
  complete graph
    { schedule with grid := schedule.grid.setValue id FormulaError.circular.token } id

theorem size_release (schedule : Schedule) (id : String) :
    (schedule.release id).waiting.size = schedule.waiting.size := by
  unfold release
  split
  · rfl
  · next count found =>
    have member : schedule.waiting.contains id = true := by
      rw [Std.ExtTreeMap.contains_eq_isSome_getElem?, found]; rfl
    simp [Std.ExtTreeMap.size_insert, member]

theorem size_foldl_release (ids : List String) (schedule : Schedule) :
    (ids.foldl release schedule).waiting.size = schedule.waiting.size := by
  induction ids generalizing schedule with
  | nil => rfl
  | cons id ids ih => rw [List.foldl_cons, ih, size_release]

theorem size_complete (graph : DependencyGraph) (schedule : Schedule) (id : String) :
    (complete graph schedule id).waiting.size = (schedule.waiting.erase id).size := by
  simp [complete, size_foldl_release]

theorem size_erase_lt {waiting : Std.ExtTreeMap String Nat} {id : String}
    (member : id ∈ waiting) : (waiting.erase id).size < waiting.size := by
  have nonempty : waiting.size ≠ 0 := by
    intro none
    rw [Std.ExtTreeMap.eq_empty_iff_size_eq_zero.mpr none] at member
    simp at member
  rw [Std.ExtTreeMap.size_erase, if_pos (by simpa using member)]
  omega

theorem size_foldl_mark_le (graph : DependencyGraph) (ids : List String) (schedule : Schedule) :
    (ids.foldl (mark graph) schedule).waiting.size ≤ schedule.waiting.size := by
  induction ids generalizing schedule with
  | nil => exact Nat.le_refl _
  | cons id ids ih =>
    refine Nat.le_trans (ih _) ?_
    simp only [mark, size_complete]
    exact Std.ExtTreeMap.size_erase_le

theorem size_foldl_mark_lt (graph : DependencyGraph) {ids : List String} (schedule : Schedule)
    (nonempty : ids ≠ []) (waiting : ∀ id ∈ ids, id ∈ schedule.waiting) :
    (ids.foldl (mark graph) schedule).waiting.size < schedule.waiting.size := by
  cases ids with
  | nil => exact absurd rfl nonempty
  | cons id ids =>
    refine Nat.lt_of_le_of_lt (size_foldl_mark_le graph ids _) ?_
    simp only [mark, size_complete]
    exact size_erase_lt (waiting id List.mem_cons_self)

/-- Runs a schedule to its end.  Every step takes a cell out or a stale entry
off the ready cells. -/
def run (graph : DependencyGraph) (schedule : Schedule) : Grid :=
  match _queue : schedule.ready with
  | id :: ready =>
    if id ∈ schedule.waiting then run graph (evaluate graph { schedule with ready } id)
    else run graph { schedule with ready }
  | [] =>
    let circular := schedule.waiting.keys.filter graph.isCircular
    if circular = [] then schedule.grid.evaluateEach schedule.waiting.keys
    else run graph (circular.foldl (mark graph) schedule)
termination_by (schedule.waiting.size, schedule.ready.length)
decreasing_by
  · next member =>
    apply Prod.Lex.left
    simp only [evaluate, size_complete]
    exact size_erase_lt member
  · apply Prod.Lex.right
    simp [_queue]
  · next nonempty =>
    apply Prod.Lex.left
    refine size_foldl_mark_lt graph schedule nonempty fun id member => ?_
    exact Std.ExtTreeMap.mem_keys.mp (List.mem_filter.mp member).1

/-! ## The next step of a run -/

section

variable {graph : DependencyGraph} {id : String} {ready : List String}

theorem run_of_waiting (schedule : Schedule) (queue : schedule.ready = id :: ready)
    (waits : id ∈ schedule.waiting) :
    run graph schedule = run graph (evaluate graph { schedule with ready } id) := by
  rw [run]
  split
  · next head rest found =>
    cases queue.symm.trans found
    rw [if_pos waits]
  · next found => cases queue.symm.trans found

theorem run_of_not_waiting (schedule : Schedule) (queue : schedule.ready = id :: ready)
    (gone : id ∉ schedule.waiting) :
    run graph schedule = run graph { schedule with ready } := by
  rw [run]
  split
  · next head rest found =>
    cases queue.symm.trans found
    rw [if_neg gone]
  · next found => cases queue.symm.trans found

theorem run_of_nil (schedule : Schedule) (queue : schedule.ready = []) :
    run graph schedule =
      if schedule.waiting.keys.filter graph.isCircular = [] then
        schedule.grid.evaluateEach schedule.waiting.keys
      else
        run graph ((schedule.waiting.keys.filter graph.isCircular).foldl (mark graph) schedule) := by
  rw [run]
  split
  · next found => cases queue.symm.trans found
  · rfl

end

end Schedule

/-- A grid with some cells evaluated in the order of their dependencies. -/
def Grid.evaluateInOrder (grid : Grid) (graph : DependencyGraph) (cells : List String) : Grid :=
  (Schedule.start graph grid cells).run graph

end Worksheet
