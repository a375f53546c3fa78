import Worksheet.Proofs.Dependency.Reachability

namespace Worksheet
namespace Schedule

/-!
The counters of a schedule.  A waiting cell counts those of its precedents
that still wait, and the ready cells that wait are exactly those that count
none.  Taking any waiting cell out keeps this.
-/

section Steps

variable {graph : DependencyGraph} (schedule : Schedule) (id other : String)

@[simp] theorem grid_release : (schedule.release id).grid = schedule.grid := by
  unfold release
  split <;> rfl

theorem getElem?_release :
    (schedule.release id).waiting[other]? =
      if id = other then schedule.waiting[other]?.map (· - 1) else schedule.waiting[other]? := by
  unfold release
  split
  · next missing =>
    split
    · next same => rw [← same, missing, Option.map_none]
    · rfl
  · next count found =>
    rw [Std.ExtTreeMap.getElem?_insert]
    simp only [Std.LawfulEqCmp.compare_eq_iff_eq]
    split
    · next same => rw [← same, found, Option.map_some]
    · rfl

theorem mem_ready_release :
    other ∈ (schedule.release id).ready ↔ other ∈ schedule.ready ∨
      id = other ∧ schedule.waiting[other]?.map (· - 1) = some 0 := by
  unfold release
  split
  · next missing =>
    constructor
    · exact .inl
    · rintro (queued | ⟨rfl, released⟩)
      · exact queued
      · rw [missing, Option.map_none] at released
        cases released
  · next count found =>
    by_cases zero : count - 1 = 0
    · simp only [if_pos zero, List.mem_append, List.mem_singleton]
      refine or_congr_right ⟨?_, fun released => released.1.symm⟩
      rintro rfl
      exact ⟨rfl, by rw [found, Option.map_some, zero]⟩
    · simp only [if_neg zero]
      refine ⟨.inl, ?_⟩
      rintro (queued | ⟨rfl, released⟩)
      · exact queued
      · rw [found, Option.map_some] at released
        exact absurd (Option.some.inj released) zero

theorem grid_foldl_release (ids : List String) :
    (ids.foldl release schedule).grid = schedule.grid := by
  induction ids generalizing schedule with
  | nil => rfl
  | cons id ids ih => rw [List.foldl_cons, ih, grid_release]

theorem getElem?_foldl_release (ids : List String) (nodup : ids.Nodup) :
    (ids.foldl release schedule).waiting[other]? =
      if other ∈ ids then schedule.waiting[other]?.map (· - 1)
      else schedule.waiting[other]? := by
  induction ids generalizing schedule with
  | nil => rfl
  | cons id ids ih =>
    rcases List.nodup_cons.mp nodup with ⟨absent, nodup⟩
    rw [List.foldl_cons, ih _ nodup, getElem?_release]
    by_cases same : id = other
    · subst same
      rw [if_neg absent, if_pos rfl, if_pos List.mem_cons_self]
    · rw [if_neg same]
      simp only [List.mem_cons, Ne.symm same, false_or]

theorem mem_ready_foldl_release (ids : List String) (nodup : ids.Nodup) :
    other ∈ (ids.foldl release schedule).ready ↔ other ∈ schedule.ready ∨
      other ∈ ids ∧ schedule.waiting[other]?.map (· - 1) = some 0 := by
  induction ids generalizing schedule with
  | nil => simp
  | cons id ids ih =>
    rcases List.nodup_cons.mp nodup with ⟨absent, nodup⟩
    rw [List.foldl_cons, ih _ nodup, mem_ready_release, getElem?_release, or_assoc]
    refine or_congr_right ?_
    by_cases same : id = other
    · subst same
      simp [absent]
    · simp [same, Ne.symm same]

@[simp] theorem grid_complete : (complete graph schedule id).grid = schedule.grid := by
  rw [complete, grid_foldl_release]

variable (nodup : (graph.dependents id).Nodup)

include nodup in
theorem getElem?_complete :
    (complete graph schedule id).waiting[other]? =
      if id = other then none
      else if other ∈ graph.dependents id then schedule.waiting[other]?.map (· - 1)
      else schedule.waiting[other]? := by
  rw [complete, getElem?_foldl_release _ _ _ nodup, Std.ExtTreeMap.getElem?_erase]
  simp only [Std.LawfulEqCmp.compare_eq_iff_eq]
  by_cases same : id = other
  · simp [same]
  · simp [same]

include nodup in
theorem getElem?_complete_eq_some {count : Nat} :
    (complete graph schedule id).waiting[other]? = some count ↔ id ≠ other ∧
      (if other ∈ graph.dependents id then schedule.waiting[other]?.map (· - 1)
        else schedule.waiting[other]?) = some count := by
  rw [getElem?_complete schedule id other nodup]
  by_cases same : id = other
  · simp [same]
  · rw [if_neg same, and_iff_right same]

include nodup in
theorem mem_waiting_complete :
    other ∈ (complete graph schedule id).waiting ↔ other ≠ id ∧ other ∈ schedule.waiting := by
  rw [Std.ExtTreeMap.mem_iff_isSome_getElem?, Std.ExtTreeMap.mem_iff_isSome_getElem?,
    getElem?_complete schedule id other nodup]
  by_cases same : id = other
  · simp [same]
  · by_cases reads : other ∈ graph.dependents id
    · simp [same, reads, Ne.symm same]
    · simp [same, reads, Ne.symm same]

include nodup in
theorem mem_ready_complete :
    other ∈ (complete graph schedule id).ready ↔ other ∈ schedule.ready ∨
      id ≠ other ∧ other ∈ graph.dependents id ∧
        schedule.waiting[other]?.map (· - 1) = some 0 := by
  rw [complete, mem_ready_foldl_release _ _ _ nodup, Std.ExtTreeMap.getElem?_erase]
  simp only [Std.LawfulEqCmp.compare_eq_iff_eq]
  refine or_congr_right ?_
  by_cases same : id = other
  · simp [same]
  · simp [same]

end Steps

/-- One member less satisfies a condition when it is taken away from one
member that did. -/
theorem countP_eq_add_of_removed {ids : List String} (nodup : ids.Nodup)
    (before after : String → Bool) (id : String) (held : before id = true)
    (removed : ∀ other, after other = true ↔ other ≠ id ∧ before other = true) :
    ids.countP before = ids.countP after + if id ∈ ids then 1 else 0 := by
  induction ids with
  | nil => rfl
  | cons head ids ih =>
    rcases List.nodup_cons.mp nodup with ⟨absent, nodup⟩
    rw [List.countP_cons, List.countP_cons, ih nodup]
    by_cases same : head = id
    · subst same
      have gone : after head ≠ true := fun kept => ((removed head).mp kept).1 rfl
      rw [if_neg absent, if_pos held, if_neg gone, if_pos List.mem_cons_self]
    · have kept : after head = before head :=
        Bool.eq_iff_iff.mpr ((removed head).trans (and_iff_right same))
      rw [kept]
      simp only [List.mem_cons, Ne.symm same, false_or]
      omega

/-- The invariant of the counters. -/
structure Counted (graph : DependencyGraph) (schedule : Schedule) : Prop where
  count : ∀ id count, schedule.waiting[id]? = some count →
    count = (graph.precedents id).countP (· ∈ schedule.waiting)
  queued : ∀ id, schedule.waiting[id]? = some 0 → id ∈ schedule.ready
  free : ∀ id ∈ schedule.ready, ∀ count, schedule.waiting[id]? = some count → count = 0

namespace Counted

variable {grid : Grid} {before schedule : Schedule} {id : String}

theorem not_waiting_of_free {graph : DependencyGraph} (counted : Counted graph schedule)
    (member : id ∈ schedule.waiting) (ready : id ∈ schedule.ready) :
    ∀ read ∈ graph.precedents id, read ∉ schedule.waiting := by
  intro read reads waits
  have present := Std.ExtTreeMap.mem_iff_isSome_getElem?.mp member
  rcases Option.isSome_iff_exists.mp present with ⟨count, found⟩
  have none := (counted.count id count found).symm.trans (counted.free id ready count found)
  exact List.countP_eq_zero.mp none read reads (decide_eq_true waits)

/-- Where nothing is ready, every waiting cell reads a waiting cell. -/
theorem exists_waiting_of_stuck {graph : DependencyGraph} (counted : Counted graph schedule)
    (stuck : schedule.ready = []) (member : id ∈ schedule.waiting) :
    ∃ read, graph.Reads id read ∧ read ∈ schedule.waiting := by
  have present := Std.ExtTreeMap.mem_iff_isSome_getElem?.mp member
  rcases Option.isSome_iff_exists.mp present with ⟨count, found⟩
  have positive : 0 < count := by
    rw [Nat.pos_iff_ne_zero]
    rintro rfl
    have queued := counted.queued id found
    rw [stuck] at queued
    cases queued
  rw [counted.count id count found] at positive
  rcases List.countP_pos_iff.mp positive with ⟨read, reads, waits⟩
  exact ⟨read, reads, of_decide_eq_true waits⟩

section Completion

variable (counted : Counted (.ofGrid grid) before) (member : id ∈ before.waiting)
  (waiting : schedule.waiting = before.waiting)

include counted member waiting

/-- What still waits when a cell is taken out counts one precedent less if it
reads that cell, and as many as before if it does not. -/
theorem count_complete {other : String} {count : Nat}
    (found : (Schedule.complete (.ofGrid grid) schedule id).waiting[other]? = some count) :
    count = ((DependencyGraph.ofGrid grid).precedents other).countP
      (· ∈ (Schedule.complete (.ofGrid grid) schedule id).waiting) := by
  have nodup := DependencyGraph.nodup_dependents_ofGrid grid id
  have removed := countP_eq_add_of_removed
    (DependencyGraph.nodup_precedents_ofGrid grid other) (· ∈ before.waiting)
    (· ∈ (Schedule.complete (.ofGrid grid) schedule id).waiting) id (decide_eq_true member)
    fun read => by
      rw [decide_eq_true_eq, decide_eq_true_eq, mem_waiting_complete _ _ _ nodup, waiting]
  rcases (getElem?_complete_eq_some _ _ _ nodup).mp found with ⟨_, found⟩
  simp only [waiting, DependencyGraph.mem_dependents_ofGrid] at found
  by_cases reads : id ∈ (DependencyGraph.ofGrid grid).precedents other
  · rw [if_pos reads] at found removed
    rcases Option.map_eq_some_iff.mp found with ⟨old, held, rfl⟩
    rw [counted.count other old held]
    omega
  · rw [if_neg reads] at found removed
    rw [counted.count other count found]
    omega

/-- The counters stay right when a waiting cell is taken out, whether it came
off the ready cells or not. -/
theorem complete (kept : ∀ other ∈ before.ready, other = id ∨ other ∈ schedule.ready)
    (within : ∀ other ∈ schedule.ready, other ∈ before.ready) :
    Counted (.ofGrid grid) (complete (.ofGrid grid) schedule id) := by
  have nodup := DependencyGraph.nodup_dependents_ofGrid grid id
  refine ⟨fun other count found => counted.count_complete member waiting found,
    fun other found => ?_, fun other ready count found => ?_⟩
  · rcases (getElem?_complete_eq_some _ _ _ nodup).mp found with ⟨different, found⟩
    rw [mem_ready_complete _ _ _ nodup]
    by_cases reads : other ∈ (DependencyGraph.ofGrid grid).dependents id
    · rw [if_pos reads] at found
      exact .inr ⟨different, reads, found⟩
    · rw [if_neg reads, waiting] at found
      have queued := kept other (counted.queued other found)
      exact .inl (queued.resolve_left (Ne.symm different))
  · rcases (getElem?_complete_eq_some _ _ _ nodup).mp found with ⟨_, found⟩
    rcases (mem_ready_complete _ _ _ nodup).mp ready with old | ⟨_, reads, released⟩
    · have free := counted.free other (within other old)
      rw [waiting] at found
      by_cases reads : other ∈ (DependencyGraph.ofGrid grid).dependents id
      · rw [if_pos reads] at found
        rcases Option.map_eq_some_iff.mp found with ⟨old, held, rfl⟩
        rw [free old held]
      · rw [if_neg reads] at found
        exact free count found
    · rw [if_pos reads, released] at found
      exact (Option.some.inj found).symm

end Completion

/-! ## Single steps -/

/-- Evaluating the first of the ready cells keeps the counters right. -/
theorem evaluate {ready : List String} (counted : Counted (.ofGrid grid) schedule)
    (queue : schedule.ready = id :: ready) (member : id ∈ schedule.waiting) :
    Counted (.ofGrid grid) (Schedule.evaluate (.ofGrid grid) { schedule with ready } id) := by
  refine counted.complete member rfl ?_ ?_
  · intro other queued
    rw [queue] at queued
    exact List.mem_cons.mp queued
  · intro other queued
    rw [queue]
    exact List.mem_cons_of_mem id queued

/-- Marking a waiting cell keeps the counters right; if it was ready, its entry
becomes stale. -/
theorem mark (counted : Counted (.ofGrid grid) schedule) (member : id ∈ schedule.waiting) :
    Counted (.ofGrid grid) (Schedule.mark (.ofGrid grid) schedule id) :=
  counted.complete member rfl (fun _ => .inr) fun _ queued => queued

/-- Dropping a stale entry off the ready cells keeps the counters right. -/
theorem drop {graph : DependencyGraph} {ready : List String} (counted : Counted graph schedule)
    (queue : schedule.ready = id :: ready) (stale : id ∉ schedule.waiting) :
    Counted graph { schedule with ready } where
  count := counted.count
  queued := by
    intro other found
    have queued := counted.queued other found
    rw [queue] at queued
    rcases List.mem_cons.mp queued with rfl | later
    · apply absurd _ stale
      apply Std.ExtTreeMap.mem_iff_isSome_getElem?.mpr
      exact Option.isSome_iff_exists.mpr ⟨0, found⟩
    · exact later
  free := fun other queued => counted.free other (queue ▸ List.mem_cons_of_mem id queued)

/-- Where nothing is ready and no cycle waits, nothing waits at all. -/
theorem not_waiting_of_stuck (counted : Counted (.ofGrid grid) schedule)
    (cells : ∀ id ∈ schedule.waiting, id ∈ (DependencyGraph.ofGrid grid).cells)
    (stuck : schedule.ready = [])
    (acyclic : schedule.waiting.keys.filter (DependencyGraph.ofGrid grid).isCircular = []) :
    ∀ id, id ∉ schedule.waiting := by
  intro id member
  rcases DependencyGraph.exists_onCycle (· ∈ schedule.waiting) cells
      (fun id waits => counted.exists_waiting_of_stuck stuck waits) member with
    ⟨looped, waits, cycle⟩
  have listed : looped ∈ schedule.waiting.keys.filter (DependencyGraph.ofGrid grid).isCircular :=
    List.mem_filter.mpr ⟨Std.ExtTreeMap.mem_keys.mpr waits,
      DependencyGraph.isCircular_ofGrid.mpr cycle⟩
  rw [acyclic] at listed
  cases listed

end Counted
end Schedule
end Worksheet
