import Worksheet.Proofs.Dependency.Graph
import Worksheet.Recalculation.Edit

namespace Worksheet

/-!
Types and formats take no part in what a grid computes.  Evaluation looks at
formulas and values alone, so erasing types and formats commutes with every step
of it, whichever cells wait or lie on cycles.  An update infers a type where none
is declared; it is erased again afterwards, since nothing reads it.  Two grids
that differ in types and formats only therefore keep the same cells, formulas and
values however they are worked on.
-/

/-- A cell with its type and format taken out. -/
def Cell.erased (cell : Cell) : Cell :=
  { cell with type := none, format := none }

/-- An update that declares no type and brings no format. -/
def CellUpdate.erased (change : CellUpdate) : CellUpdate :=
  { change with type := none, format := none }

theorem Cell.erased_apply (cell : Cell) (change : CellUpdate) :
    (cell.apply change).erased = (cell.erased.apply change.erased).erased :=
  rfl

namespace Grid

/-- A grid with the types and formats of all cells taken out. -/
def erased (grid : Grid) : Grid :=
  ⟨grid.cells.map fun _ cell => cell.erased⟩

theorem get?_erased (grid : Grid) (id : String) :
    grid.erased.get? id = (grid.get? id).map Cell.erased := by
  simp [erased, get?]

theorem value?_erased (grid : Grid) : grid.erased.value? = grid.value? := by
  funext id
  rw [value?, value?, get?_erased]
  cases grid.get? id <;> rfl

theorem formula?_erased (grid : Grid) (id : String) :
    grid.erased.formula? id = grid.formula? id := by
  rw [formula?, formula?, get?_erased]
  cases grid.get? id <;> rfl

theorem formulas_erased (grid : Grid) : grid.erased.formulas = grid.formulas := by
  rw [formulas, formulas, toList, toList, erased, Std.ExtTreeMap.toList_map, List.filterMap_map]
  rfl

theorem ofGrid_erased (grid : Grid) :
    DependencyGraph.ofGrid grid.erased = DependencyGraph.ofGrid grid := by
  rw [DependencyGraph.ofGrid, formulas_erased, DependencyGraph.ofGrid]

/-! ## Writing -/

theorem erased_setValue (grid : Grid) (id value : String) :
    (grid.setValue id value).erased = grid.erased.setValue id value := by
  refine ext_get? fun other => ?_
  rw [get?_erased, get?_setValue, get?_setValue, get?_erased]
  split
  · cases grid.get? other <;> rfl
  · rfl

theorem erased_update (grid : Grid) (id : String) (change : CellUpdate) :
    (grid.update id change).erased = (grid.erased.update id change.erased).erased := by
  refine ext_get? fun other => ?_
  rw [get?_erased, get?_erased, get?_update, get?_update, get?_erased, get?_erased]
  split
  · cases grid.get? id with
    | none => exact congrArg some (Cell.erased_apply {} change)
    | some cell => exact congrArg some (Cell.erased_apply cell change)
  · cases grid.get? other <;> rfl

/-! ## Evaluation -/

theorem evaluated?_erased (grid : Grid) (id : String) :
    grid.erased.evaluated? id = grid.evaluated? id := by
  rw [evaluated?, ← formula?, formula?_erased, value?_erased]
  rfl

theorem erased_evaluateCell (grid : Grid) (id : String) :
    (grid.evaluateCell id).erased = grid.erased.evaluateCell id := by
  rw [evaluateCell, evaluateCell, evaluated?_erased]
  cases grid.evaluated? id with
  | none => rfl
  | some value => exact erased_setValue grid id value

theorem erased_evaluateEach (grid : Grid) (ids : List String) :
    (grid.evaluateEach ids).erased = grid.erased.evaluateEach ids := by
  rw [evaluateEach, evaluateEach]
  simp only [evaluated?_erased]
  generalize (ids.filterMap fun id => (grid.evaluated? id).map (id, ·)) = results
  induction results generalizing grid with
  | nil => rfl
  | cons result results ih => rw [List.foldl_cons, List.foldl_cons, ih, erased_setValue]

end Grid

/-! ## Schedules -/

namespace Schedule

/-- A schedule over the erased grid. -/
def erased (schedule : Schedule) : Schedule :=
  { schedule with grid := schedule.grid.erased }

variable {graph : DependencyGraph}

theorem erased_release (schedule : Schedule) (id : String) :
    (schedule.release id).erased = schedule.erased.release id := by
  have waiting : schedule.erased.waiting = schedule.waiting := rfl
  rw [release, release, waiting]
  cases schedule.waiting[id]? <;> rfl

theorem erased_foldl_release (ids : List String) (schedule : Schedule) :
    (ids.foldl release schedule).erased = ids.foldl release schedule.erased := by
  induction ids generalizing schedule with
  | nil => rfl
  | cons id ids ih => rw [List.foldl_cons, List.foldl_cons, ih, erased_release]

theorem erased_complete (graph : DependencyGraph) (schedule : Schedule) (id : String) :
    (complete graph schedule id).erased = complete graph schedule.erased id :=
  erased_foldl_release _ _

theorem erased_evaluate (graph : DependencyGraph) (schedule : Schedule) (id : String) :
    (evaluate graph schedule id).erased = evaluate graph schedule.erased id := by
  rw [evaluate, evaluate, erased_complete]
  congr 1
  simp only [erased, Grid.erased_evaluateCell]

theorem erased_mark (graph : DependencyGraph) (schedule : Schedule) (id : String) :
    (mark graph schedule id).erased = mark graph schedule.erased id := by
  rw [mark, mark, erased_complete]
  congr 1
  simp only [erased, Grid.erased_setValue]

theorem erased_foldl_mark (graph : DependencyGraph) (ids : List String) (schedule : Schedule) :
    (ids.foldl (mark graph) schedule).erased = ids.foldl (mark graph) schedule.erased := by
  induction ids generalizing schedule with
  | nil => rfl
  | cons id ids ih => rw [List.foldl_cons, List.foldl_cons, ih, erased_mark]

/-- A run takes the same way over the erased grid: which cells wait and which
are ready does not depend on the grid. -/
theorem erased_run (graph : DependencyGraph) (schedule : Schedule) :
    (run graph schedule).erased = run graph schedule.erased := by
  fun_induction run graph schedule with
  | case1 schedule id ready queue waits ih =>
    rw [ih, erased_evaluate]
    exact (run_of_waiting schedule.erased queue waits).symm
  | case2 schedule id ready queue gone ih =>
    rw [ih]
    exact (run_of_not_waiting schedule.erased queue gone).symm
  | case3 schedule queue circular none =>
    rw [run_of_nil schedule.erased queue]
    exact (Grid.erased_evaluateEach _ _).trans (if_pos none).symm
  | case4 schedule queue circular some ih =>
    rw [ih, erased_foldl_mark, run_of_nil schedule.erased queue]
    exact (if_neg some).symm

end Schedule

/-! ## Edits and recalculation -/

namespace Grid

open DependencyGraph (ofGrid)

variable {first second : Grid}

theorem erased_evaluateInOrder (grid : Grid) (graph : DependencyGraph) (cells : List String) :
    (grid.evaluateInOrder graph cells).erased = grid.erased.evaluateInOrder graph cells :=
  Schedule.erased_run graph _

theorem erased_followFully (merged : Grid) (id : String) :
    (followFully merged id).erased = followFully merged.erased id := by
  rw [followFully, followFully, ofGrid_erased]
  exact erased_evaluateInOrder merged _ _

theorem erased_evaluateEdited (before merged : Grid) (id : String) :
    (evaluateEdited before merged id).erased = evaluateEdited before.erased merged.erased id := by
  have lookup : editLookup before.erased merged.erased id = editLookup before merged id := by
    funext read
    rw [editLookup, editLookup, value?_erased, value?_erased]
  rw [evaluateEdited, evaluateEdited, ← formula?, ← formula?, formula?_erased, lookup]
  cases merged.formula? id with
  | none => rfl
  | some formula => exact erased_setValue merged id _

theorem erased_followDirectly (before merged : Grid) (id : String) :
    (followDirectly before merged id).erased = followDirectly before.erased merged.erased id := by
  have mentioning (grid : Grid) : grid.erased.mentioning id = grid.mentioning id := by
    rw [Grid.mentioning, Grid.mentioning, formulas_erased]
  rw [followDirectly, followDirectly, erased_evaluateEach, erased_evaluateEdited, ← mentioning,
    erased_evaluateEdited]

/-- What is done to a grid. -/
inductive Action where
  | edit (mode : RecalculationMode) (target : String) (change : CellUpdate)
  | recalculate (mode : RecalculationMode)

/-- An action whose update declares no type and brings no format. -/
def Action.erased : Action → Action
  | .edit mode target change => .edit mode target change.erased
  | .recalculate mode => .recalculate mode

/-- A grid after an action. -/
def perform (grid : Grid) : Action → Grid
  | .edit mode target change => grid.edit mode target change
  | .recalculate mode => grid.recalculate mode

/-- A grid after a run of actions. -/
def performAll (grid : Grid) (actions : List Action) : Grid :=
  actions.foldl perform grid

theorem performAll_cons (grid : Grid) (action : Action) (actions : List Action) :
    grid.performAll (action :: actions) = (grid.perform action).performAll actions :=
  rfl

theorem erased_recalculate (grid : Grid) (mode : RecalculationMode) :
    (grid.recalculate mode).erased = grid.erased.recalculate mode := by
  cases mode with
  | direct => rw [recalculate, recalculate, formulas_erased, erased_evaluateEach]
  | full =>
    rw [recalculate, recalculate, ofGrid_erased]
    exact erased_evaluateInOrder grid _ _

theorem erased_edit (same : first.erased = second.erased) (mode : RecalculationMode)
    (target : String) {change change' : CellUpdate} (same' : change.erased = change'.erased) :
    (first.edit mode target change).erased = (second.edit mode target change').erased := by
  have merged : (first.update (canonicalId target) change).erased =
      (second.update (canonicalId target) change').erased := by
    rw [erased_update, same, same', ← erased_update]
  cases mode with
  | direct =>
    rw [edit, edit, erased_followDirectly, erased_followDirectly, same, merged]
  | full => rw [edit, edit, erased_followFully, erased_followFully, merged]

/-- One action keeps grids equal up to types and formats. -/
theorem erased_perform (same : first.erased = second.erased) {action other : Action}
    (same' : action.erased = other.erased) :
    (first.perform action).erased = (second.perform other).erased := by
  cases action with
  | edit mode target change =>
    cases other with
    | edit mode' target' change' =>
      simp only [Action.erased, Action.edit.injEq] at same'
      rcases same' with ⟨rfl, rfl, changes⟩
      exact erased_edit same mode target changes
    | recalculate mode' => cases same'
  | recalculate mode =>
    cases other with
    | edit mode' target' change' => cases same'
    | recalculate mode' =>
      cases same'
      rw [perform, perform, erased_recalculate, erased_recalculate, same]

theorem erased_performAll {actions others : List Action} (same : first.erased = second.erased)
    (same' : actions.map Action.erased = others.map Action.erased) :
    (first.performAll actions).erased = (second.performAll others).erased := by
  induction actions generalizing first second others with
  | nil =>
    rw [List.map_nil, eq_comm, List.map_eq_nil_iff] at same'
    rw [same']
    exact same
  | cons action actions ih =>
    cases others with
    | nil => cases same'
    | cons other others =>
      rw [List.map_cons, List.map_cons, List.cons.injEq] at same'
      rw [performAll_cons, performAll_cons]
      exact ih (erased_perform same same'.1) same'.2

/-- Whatever is done to two grids that differ in types and formats only, with
updates that differ in these only, the outcomes hold the same cells with the
same formulas and values. -/
theorem content_ignores_types_and_formats {actions others : List Action}
    (grids : first.erased = second.erased)
    (runs : actions.map Action.erased = others.map Action.erased) :
    (first.performAll actions).erased = (second.performAll others).erased ∧
      ∀ id, ((first.performAll actions).get? id).map (fun cell => (cell.formula, cell.value)) =
        ((second.performAll others).get? id).map fun cell => (cell.formula, cell.value) := by
  have same := erased_performAll grids runs
  refine ⟨same, fun id => ?_⟩
  have parts (grid : Grid) : (grid.get? id).map (fun cell => (cell.formula, cell.value)) =
      (grid.erased.get? id).map fun cell => (cell.formula, cell.value) := by
    rw [get?_erased, Option.map_map]
    rfl
  rw [parts, same, ← parts]

/-- A text in bold that is overwritten as a date is read like a plain number,
also by a formula on a cycle. -/
theorem content_ignores_types_and_formats_of_bold_text :
    let first := Grid.ofList [("A1", { value := some "4", type := some .number }),
      ("B1", .ofInput "=POWER(A1, B1)")]
    let bold : CellFormat := { bold := some true }
    let second := Grid.ofList [
      ("A1", { value := some "4", type := some .text, format := some bold }),
      ("B1", .ofInput "=POWER(A1, B1)")]
    let actions := [Action.edit .direct "a1" (.input "2"), .recalculate .full]
    let dated : CellUpdate :=
      { CellUpdate.input "2" with type := some .date, format := some {} }
    let others := [Action.edit .direct "a1" dated, .recalculate .full]
    first.erased = second.erased ∧ actions.map Action.erased = others.map Action.erased ∧
      (first.performAll actions).erased = (second.performAll others).erased ∧
        ∀ id, ((first.performAll actions).get? id).map (fun cell => (cell.formula, cell.value)) =
          ((second.performAll others).get? id).map fun cell => (cell.formula, cell.value) := by
  intro first bold second actions dated others
  have grids : first.erased = second.erased := by
    refine ext_get? fun id => ?_
    simp only [first, second, get?_erased, Grid.ofList, List.foldl_cons, List.foldl_nil,
      get?_insert]
    split
    · rfl
    · split <;> rfl
  have runs : actions.map Action.erased = others.map Action.erased := rfl
  exact ⟨grids, runs, content_ignores_types_and_formats grids runs⟩

end Grid
end Worksheet
