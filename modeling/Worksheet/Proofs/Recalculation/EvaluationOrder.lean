import Worksheet.Proofs.Recalculation.Counting

namespace Worksheet

/-!
What a run of the schedule does to a grid.  The cells to be evaluated are
closed under dependents, so every cycle lies among them or has no cell among
them.  A run keeps this invariant: whatever still waits is as it was, and
whatever was taken out has its final value, either the token of a cycle or the
value of its formula over a stage of the run in which all its precedents were
final already.
-/

open DependencyGraph (ofGrid)

/-! ## Final values -/

/-- A stage of an evaluation at which a formula was evaluated for good: every
cell of it is as before or as after, the cell of the formula is as before, and
all that the formula names has its value of after. -/
structure EvaluationStage (before after : Grid) (id formula : String) (stage : Grid) : Prop where
  between : ∀ other, stage.get? other = before.get? other ∨ stage.get? other = after.get? other
  pending : stage.get? id = before.get? id
  precedents : ∀ read ∈ Formula.precedents formula, stage.value? read = after.value? read
  value : after.value? id = some (Formula.evaluate formula stage.value?)

/-- The outcome of evaluating the affected cells of a grid in the order of
their dependencies. -/
structure Recalculated (before after : Grid) (Affected : String → Prop) : Prop where
  layout : Grid.SameLayout after before
  untouched : ∀ id, ¬Affected id → after.get? id = before.get? id
  circular : ∀ id, Affected id → (ofGrid before).OnCycle id →
    after.value? id = some FormulaError.circular.token
  evaluated : ∀ id, Affected id → ¬(ofGrid before).OnCycle id →
    ∃ formula stage, before.formula? id = some formula ∧
      EvaluationStage before after id formula stage

namespace Schedule

/-- Cells that can be scheduled together: formula cells, each listed once, with
all that depends on them. -/
structure Schedulable (before : Grid) (cells : List String) : Prop where
  nodup : cells.Nodup
  formulas : ∀ id ∈ cells, id ∈ (ofGrid before).cells
  dependents : ∀ id ∈ cells, ∀ reader, (ofGrid before).Reads reader id → reader ∈ cells

theorem Schedulable.mem_of_dependsOn {before : Grid} {cells : List String} {id reader : String}
    (schedulable : Schedulable before cells) (member : id ∈ cells)
    (depends : (ofGrid before).DependsOn reader id) : reader ∈ cells := by
  induction depends using Relation.TransGen.head_induction_on with
  | single reads => exact schedulable.dependents id member _ reads
  | head reads _ ih => exact schedulable.dependents _ ih _ reads

variable {before : Grid} {cells : List String} {schedule next : Schedule} {id : String}

/-- Whether a cell that was taken out has the value that it keeps. -/
def Finished (before : Grid) (schedule : Schedule) (id : String) : Prop :=
  (ofGrid before).OnCycle id ∧ schedule.grid.value? id = some FormulaError.circular.token ∨
    ¬(ofGrid before).OnCycle id ∧ ∃ formula stage, before.formula? id = some formula ∧
      EvaluationStage before schedule.grid id formula stage ∧
      ∀ read ∈ Formula.precedents formula, read ∉ schedule.waiting

/-- The invariant of a run. -/
structure Progress (before : Grid) (cells : List String) (schedule : Schedule) : Prop where
  counted : Counted (ofGrid before) schedule
  scheduled : ∀ id ∈ schedule.waiting, id ∈ cells
  layout : Grid.SameLayout schedule.grid before
  untouched : ∀ id, id ∉ cells ∨ id ∈ schedule.waiting →
    schedule.grid.get? id = before.get? id
  finished : ∀ id ∈ cells, id ∉ schedule.waiting → Finished before schedule id

/-- The cells on cycles are taken out together, so at any time between two
rounds all of them wait or none does. -/
def CyclesTogether (before : Grid) (cells : List String) (schedule : Schedule) : Prop :=
  (∀ id ∈ cells, (ofGrid before).OnCycle id → id ∈ schedule.waiting) ∨
    ∀ id ∈ schedule.waiting, ¬(ofGrid before).OnCycle id

/-! ## One cell -/

theorem mem_waiting_mark (before : Grid) (schedule : Schedule) (id other : String) :
    other ∈ (mark (ofGrid before) schedule id).waiting ↔
      other ≠ id ∧ other ∈ schedule.waiting :=
  mem_waiting_complete _ _ _ (DependencyGraph.nodup_dependents_ofGrid before id)

theorem mem_waiting_evaluate (before : Grid) (schedule : Schedule) (rest : List String)
    (id other : String) :
    other ∈ (evaluate (ofGrid before) { schedule with ready := rest } id).waiting ↔
      other ≠ id ∧ other ∈ schedule.waiting :=
  mem_waiting_complete _ _ _ (DependencyGraph.nodup_dependents_ofGrid before id)

/-- A cell that was finished stays so when a waiting cell gets its value. -/
theorem Finished.preserved {other value : String} (progress : Progress before cells schedule)
    (member : other ∈ schedule.waiting) (finished : Finished before schedule id)
    (done : id ∉ schedule.waiting) (grid : next.grid = schedule.grid.setValue other value)
    (waiting : ∀ left, left ∈ next.waiting → left ∈ schedule.waiting) :
    Finished before next id := by
  have elsewhere : ∀ left, left ∉ schedule.waiting →
      next.grid.get? left = schedule.grid.get? left := by
    intro left gone
    rw [grid]
    refine Grid.get?_setValue_of_ne _ _ ?_
    rintro rfl
    exact gone member
  have here := Grid.value?_eq_of_get? (elsewhere id done)
  refine finished.imp (fun ⟨cycle, value⟩ => ⟨cycle, here.trans value⟩) ?_
  rintro ⟨acyclic, formula, stage, found, evaluated, final⟩
  refine ⟨acyclic, formula, stage, found, ⟨?_, evaluated.pending, ?_, here.trans evaluated.value⟩,
    fun read reads left => final read reads (waiting read left)⟩
  · intro left
    rcases evaluated.between left with old | new
    · exact .inl old
    · by_cases waits : left ∈ schedule.waiting
      · exact .inl (new.trans (progress.untouched left (.inr waits)))
      · exact .inr (new.trans (elsewhere left waits).symm)
  · intro read reads
    have same := Grid.value?_eq_of_get? (elsewhere read (final read reads))
    exact (evaluated.precedents read reads).trans same.symm

/-- Taking one waiting cell out with a final value keeps the invariant. -/
theorem Progress.take {value : String} (progress : Progress before cells schedule)
    (member : id ∈ schedule.waiting) (counted : Counted (ofGrid before) next)
    (grid : next.grid = schedule.grid.setValue id value)
    (waiting : ∀ other, other ∈ next.waiting ↔ other ≠ id ∧ other ∈ schedule.waiting)
    (finished : Finished before next id) : Progress before cells next where
  counted := counted
  scheduled := fun other left => progress.scheduled other ((waiting other).mp left).2
  layout := by
    rw [grid]
    exact (Grid.sameLayout_setValue _ _ _).trans progress.layout
  untouched := by
    intro other outside
    have different : id ≠ other := by
      rintro rfl
      rcases outside with absent | left
      · exact absent (progress.scheduled id member)
      · exact ((waiting id).mp left).1 rfl
    rw [grid, Grid.get?_setValue_of_ne _ _ different]
    exact progress.untouched other (outside.imp_right fun left => ((waiting other).mp left).2)
  finished := by
    intro other scheduled gone
    by_cases same : other = id
    · exact same ▸ finished
    · have done : other ∉ schedule.waiting := fun left => gone ((waiting other).mpr ⟨same, left⟩)
      exact (progress.finished other scheduled done).preserved progress member done grid
        fun left waits => ((waiting left).mp waits).2

/-- Marking a cell on a cycle keeps the invariant. -/
theorem Progress.mark (progress : Progress before cells schedule)
    (member : id ∈ schedule.waiting) (cycle : (ofGrid before).OnCycle id) :
    Progress before cells (Schedule.mark (ofGrid before) schedule id) := by
  have grid : (Schedule.mark (ofGrid before) schedule id).grid =
      schedule.grid.setValue id FormulaError.circular.token := grid_complete _ _
  refine progress.take member (progress.counted.mark member) grid
    (fun other => mem_waiting_mark before schedule id other) (.inl ⟨cycle, ?_⟩)
  rw [grid]
  refine Grid.value?_setValue_self _ ?_
  rw [progress.layout.isSome_get?]
  rcases DependencyGraph.exists_formula?_of_mem_cells cycle.mem_cells with ⟨formula, found⟩
  exact Grid.isSome_get?_of_formula? found

/-- Marking cells on cycles one after the other keeps the invariant and takes
out just these cells. -/
theorem Progress.foldl_mark (ids : List String) (nodup : ids.Nodup)
    (circular : ∀ id ∈ ids, id ∈ schedule.waiting ∧ (ofGrid before).OnCycle id)
    (progress : Progress before cells schedule) :
    Progress before cells (ids.foldl (Schedule.mark (ofGrid before)) schedule) ∧
      ∀ other, other ∈ (ids.foldl (Schedule.mark (ofGrid before)) schedule).waiting ↔
        other ∉ ids ∧ other ∈ schedule.waiting := by
  induction ids generalizing schedule with
  | nil => exact ⟨progress, fun other => by simp⟩
  | cons id ids ih =>
    rcases List.nodup_cons.mp nodup with ⟨absent, nodup⟩
    rcases circular id List.mem_cons_self with ⟨member, cycle⟩
    have rest : ∀ other ∈ ids,
        other ∈ (Schedule.mark (ofGrid before) schedule id).waiting ∧
          (ofGrid before).OnCycle other := by
      intro other later
      rcases circular other (List.mem_cons_of_mem _ later) with ⟨waits, cycle⟩
      have different : other ≠ id := fun same => absent (same ▸ later)
      exact ⟨(mem_waiting_mark before schedule id other).mpr ⟨different, waits⟩, cycle⟩
    rcases ih nodup rest (progress.mark member cycle) with ⟨progress, waiting⟩
    refine ⟨progress, fun other => ?_⟩
    rw [List.foldl_cons, waiting other, mem_waiting_mark, List.mem_cons, not_or]
    exact ⟨fun ⟨later, same, waits⟩ => ⟨⟨same, later⟩, waits⟩,
      fun ⟨⟨same, later⟩, waits⟩ => ⟨later, same, waits⟩⟩

/-- A ready cell lies on no cycle: its precedents are final, and a cell on a
cycle has one that is taken out only together with it. -/
theorem Progress.not_onCycle_of_ready (progress : Progress before cells schedule)
    (schedulable : Schedulable before cells) (together : CyclesTogether before cells schedule)
    (member : id ∈ schedule.waiting) (ready : id ∈ schedule.ready) :
    ¬(ofGrid before).OnCycle id := by
  intro cycle
  rcases together with all | none
  · rcases Relation.TransGen.head'_iff.mp cycle with ⟨read, reads, back⟩
    have depends : (ofGrid before).DependsOn read id := Relation.TransGen.trans_right back cycle
    have scheduled := schedulable.mem_of_dependsOn (progress.scheduled id member) depends
    have waits := all read scheduled (Relation.TransGen.tail' back reads)
    exact progress.counted.not_waiting_of_free member ready read reads waits
  · exact none id member cycle

/-- The grid so far is the stage of a value that is put into a waiting cell, if
nothing that its formula names waits any more. -/
theorem Progress.evaluationStage {formula : String} (progress : Progress before cells schedule)
    (member : id ∈ schedule.waiting) (found : schedule.grid.formula? id = some formula)
    (grid : next.grid = schedule.grid.setValue id (Formula.evaluate formula schedule.grid.value?))
    (final : ∀ read ∈ Formula.precedents formula, read ∉ schedule.waiting) :
    EvaluationStage before next.grid id formula schedule.grid where
  between := by
    intro other
    by_cases waits : other ∈ schedule.waiting
    · exact .inl (progress.untouched other (.inr waits))
    · have different : id ≠ other := by
        rintro rfl
        exact waits member
      exact .inr (by rw [grid, Grid.get?_setValue_of_ne _ _ different])
  pending := progress.untouched id (.inr member)
  precedents := by
    intro read reads
    have different : id ≠ read := by
      rintro rfl
      exact final id reads member
    rw [grid]
    exact (Grid.value?_eq_of_get? (Grid.get?_setValue_of_ne _ _ different)).symm
  value := by
    rw [grid]
    exact Grid.value?_setValue_self _ (Grid.isSome_get?_of_formula? found)

/-- Evaluating a ready cell keeps the invariant: what its formula names is
final, and the grid so far is the stage of its value. -/
theorem Progress.evaluate {rest : List String} (progress : Progress before cells schedule)
    (schedulable : Schedulable before cells) (acyclic : ¬(ofGrid before).OnCycle id)
    (queue : schedule.ready = id :: rest) (member : id ∈ schedule.waiting) :
    Progress before cells
      (Schedule.evaluate (ofGrid before) { schedule with ready := rest } id) := by
  have cell := schedulable.formulas id (progress.scheduled id member)
  rcases DependencyGraph.exists_formula?_of_mem_cells cell with ⟨formula, found⟩
  have foundNow : schedule.grid.formula? id = some formula :=
    (progress.layout.formula?_eq id).trans found
  have grid : (Schedule.evaluate (ofGrid before) { schedule with ready := rest } id).grid =
      schedule.grid.setValue id (Formula.evaluate formula schedule.grid.value?) :=
    (grid_complete _ _).trans (Grid.evaluateCell_eq foundNow)
  have waiting := mem_waiting_evaluate before schedule rest id
  have counted := progress.counted.evaluate queue member
  have final : ∀ read ∈ Formula.precedents formula, read ∉ schedule.waiting := by
    rw [← DependencyGraph.precedents_of_formula? found]
    exact progress.counted.not_waiting_of_free member (queue ▸ List.mem_cons_self)
  exact progress.take member counted grid waiting (.inr ⟨acyclic, formula, schedule.grid, found,
    progress.evaluationStage member foundNow grid final,
    fun read reads waits => final read reads ((waiting read).mp waits).2⟩)

/-- Dropping a stale entry off the ready cells keeps the invariant. -/
theorem Progress.drop {rest : List String} (progress : Progress before cells schedule)
    (queue : schedule.ready = id :: rest) (stale : id ∉ schedule.waiting) :
    Progress before cells { schedule with ready := rest } where
  counted := progress.counted.drop queue stale
  scheduled := progress.scheduled
  layout := progress.layout
  untouched := progress.untouched
  finished := progress.finished

/-! ## A whole run -/

/-- Where nothing is ready and no cycle waits, nothing waits at all. -/
theorem Progress.not_waiting_of_stuck (progress : Progress before cells schedule)
    (schedulable : Schedulable before cells) (stuck : schedule.ready = [])
    (acyclic : schedule.waiting.keys.filter (ofGrid before).isCircular = []) :
    ∀ id, id ∉ schedule.waiting :=
  progress.counted.not_waiting_of_stuck
    (fun id waits => schedulable.formulas id (progress.scheduled id waits)) stuck acyclic

/-- When nothing waits any more, every scheduled cell has its final value. -/
theorem Progress.recalculated (progress : Progress before cells schedule)
    (done : ∀ id, id ∉ schedule.waiting) : Recalculated before schedule.grid (· ∈ cells) where
  layout := progress.layout
  untouched := fun id outside => progress.untouched id (.inl outside)
  circular := fun id scheduled cycle =>
    (progress.finished id scheduled (done id)).elim (·.2) fun ⟨acyclic, _⟩ => absurd cycle acyclic
  evaluated := by
    intro id scheduled acyclic
    rcases progress.finished id scheduled (done id) with ⟨cycle, _⟩ | ⟨_, formula, stage, parts⟩
    · exact absurd cycle acyclic
    · exact ⟨formula, stage, parts.1, parts.2.1⟩

theorem recalculated_run (schedulable : Schedulable before cells)
    (progress : Progress before cells schedule)
    (together : CyclesTogether before cells schedule) :
    Recalculated before (run (ofGrid before) schedule) (· ∈ cells) := by
  fun_induction run (ofGrid before) schedule with
  | case1 schedule id rest queue member ih =>
    have ready : id ∈ schedule.ready := queue ▸ List.mem_cons_self
    have acyclic := progress.not_onCycle_of_ready schedulable together member ready
    have waiting := mem_waiting_evaluate before schedule rest id
    refine ih (progress.evaluate schedulable acyclic queue member) ?_
    refine together.imp (fun all other scheduled cycle => ?_) fun none other waits => ?_
    · refine (waiting other).mpr ⟨?_, all other scheduled cycle⟩
      rintro rfl
      exact acyclic cycle
    · exact none other ((waiting other).mp waits).2
  | case2 schedule id rest queue stale ih => exact ih (progress.drop queue stale) together
  | case3 schedule queue circular acyclic =>
    have done := progress.not_waiting_of_stuck schedulable queue acyclic
    have keys : schedule.waiting.keys = [] :=
      List.eq_nil_iff_forall_not_mem.mpr fun id listed =>
        done id (Std.ExtTreeMap.mem_keys.mp listed)
    rw [keys]
    exact progress.recalculated done
  | case4 schedule queue circular _ ih =>
    have cycles : ∀ id ∈ circular, id ∈ schedule.waiting ∧ (ofGrid before).OnCycle id := by
      intro id listed
      rcases List.mem_filter.mp listed with ⟨key, cycle⟩
      exact ⟨Std.ExtTreeMap.mem_keys.mp key, DependencyGraph.isCircular_ofGrid.mp cycle⟩
    have nodup : circular.Nodup := Std.ExtTreeMap.nodup_keys.filter _
    rcases progress.foldl_mark circular nodup cycles with ⟨progress, waiting⟩
    refine ih progress (.inr fun id waits cycle => ?_)
    rcases (waiting id).mp waits with ⟨unmarked, waits⟩
    exact unmarked (List.mem_filter.mpr ⟨Std.ExtTreeMap.mem_keys.mpr waits,
      DependencyGraph.isCircular_ofGrid.mpr cycle⟩)

/-! ## The outset -/

theorem mem_waiting_start {graph : DependencyGraph} {grid : Grid} :
    id ∈ (start graph grid cells).waiting ↔ id ∈ cells := by
  simp [start, Std.ExtTreeMap.mem_ofList, Function.comp_def]

theorem getElem?_waiting_start {graph : DependencyGraph} {grid : Grid} (nodup : cells.Nodup)
    (member : id ∈ cells) :
    (start graph grid cells).waiting[id]? = some ((graph.precedents id).countP (· ∈ cells)) := by
  have distinct : (cells.map fun id =>
      (id, (graph.precedents id).countP (· ∈ Std.HashSet.ofList cells))).Pairwise
        fun first second => ¬compare first.1 second.1 = .eq := by
    rw [List.pairwise_map]
    refine nodup.imp fun different => ?_
    rwa [Std.LawfulEqCmp.compare_eq_iff_eq]
  refine (Std.ExtTreeMap.getElem?_ofList_of_mem Std.ReflCmp.compare_self distinct
    (List.mem_map.mpr ⟨id, member, rfl⟩)).trans ?_
  simp [Std.HashSet.mem_ofList]

theorem counted_start {graph : DependencyGraph} {grid : Grid} (nodup : cells.Nodup) :
    Counted graph (start graph grid cells) := by
  have member : ∀ id count, (start graph grid cells).waiting[id]? = some count → id ∈ cells := by
    intro id count found
    have present := Option.isSome_of_eq_some found
    exact mem_waiting_start.mp (Std.ExtTreeMap.mem_iff_isSome_getElem?.mpr present)
  have queue : (start graph grid cells).ready = cells.filter fun id =>
      (graph.precedents id).countP (· ∈ cells) = 0 := by
    simp [start, List.filterMap_map, Std.HashSet.mem_ofList, ← List.filterMap_eq_filter,
      Option.guard]
  refine ⟨fun id count found => ?_, fun id found => ?_, fun id ready count found => ?_⟩
  · have scheduled := member id count found
    rw [getElem?_waiting_start nodup scheduled] at found
    simp only [mem_waiting_start]
    exact (Option.some.inj found).symm
  · have scheduled := member id 0 found
    rw [getElem?_waiting_start nodup scheduled] at found
    rw [queue]
    exact List.mem_filter.mpr ⟨scheduled, decide_eq_true (Option.some.inj found)⟩
  · rw [queue] at ready
    rcases List.mem_filter.mp ready with ⟨scheduled, none⟩
    rw [getElem?_waiting_start nodup scheduled] at found
    exact (Option.some.inj found).symm.trans (of_decide_eq_true none)

/-- Evaluating cells in the order of their dependencies gives all of them
their final values. -/
theorem recalculated_evaluateInOrder (schedulable : Schedulable before cells) :
    Recalculated before (before.evaluateInOrder (ofGrid before) cells) (· ∈ cells) := by
  refine recalculated_run schedulable ?_ (.inl fun id scheduled _ => mem_waiting_start.mpr scheduled)
  exact {
    counted := counted_start schedulable.nodup
    scheduled := fun id => mem_waiting_start.mp
    layout := .refl before
    untouched := fun _ _ => rfl
    finished := fun id scheduled gone => absurd (mem_waiting_start.mpr scheduled) gone }

end Schedule
end Worksheet
