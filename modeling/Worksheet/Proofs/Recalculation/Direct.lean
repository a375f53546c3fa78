import Worksheet.Proofs.Recalculation.Snapshot

namespace Worksheet
namespace Grid

/-!
Edits in direct mode.  The formula of the edited cell is evaluated first, and
where it reads its own cell it sees the value from before the edit.  The grid so
far is the snapshot for every formula that mentions the edited cell, so none of
them sees the new value of another, and what mentions only these stays stale.
-/

/-- Whether the formula of another cell mentions a cell. -/
def Mentions (grid : Grid) (reader id : String) : Prop :=
  reader ≠ id ∧ ∃ formula, grid.formula? reader = some formula ∧
    id ∈ Formula.mentionedIds formula

/-- A grid after the formula of an edited cell was evaluated: it read the merged
grid, but for its own cell the value from before the edit. -/
structure EditedSnapshot (before merged snapshot : Grid) (id : String) : Prop where
  layout : SameLayout snapshot merged
  elsewhere : ∀ other, other ≠ id → snapshot.get? other = merged.get? other
  plain : merged.formula? id = none → snapshot.get? id = merged.get? id
  evaluated : ∀ formula, merged.formula? id = some formula →
    snapshot.value? id = some (Formula.evaluate formula fun read =>
      if read = id then before.value? id else merged.value? read)

/-- A grid after the formulas that mention a cell were evaluated, all of them
over one snapshot. -/
structure FollowedOnce (snapshot after : Grid) (id : String) : Prop where
  layout : SameLayout after snapshot
  others : ∀ other, ¬snapshot.Mentions other id → after.get? other = snapshot.get? other
  mentioning : ∀ reader formula, reader ≠ id → snapshot.formula? reader = some formula →
    id ∈ Formula.mentionedIds formula →
      after.value? reader = some (Formula.evaluate formula snapshot.value?)

variable {grid before merged snapshot after : Grid} {id reader : String}

/-! ## The formulas that mention a cell -/

theorem mentioning_eq (grid : Grid) (id : String) :
    grid.mentioning id = (grid.formulas.filter fun entry =>
      entry.1 ≠ id ∧ id ∈ Formula.mentionedIds entry.2).map Prod.fst := by
  unfold mentioning
  induction grid.formulas with
  | nil => rfl
  | cons entry rest ih =>
    rcases entry with ⟨reader, formula⟩
    rw [List.filterMap_cons, List.filter_cons, ih]
    by_cases mentions : reader ≠ id ∧ id ∈ Formula.mentionedIds formula
    · rw [if_pos (decide_eq_true mentions), List.map_cons]
      simp only [if_pos mentions]
    · rw [if_neg (by simpa using mentions)]
      simp only [if_neg mentions]

theorem mem_mentioning : reader ∈ grid.mentioning id ↔ grid.Mentions reader id := by
  rw [mentioning_eq, List.mem_map]
  constructor
  · rintro ⟨⟨_, formula⟩, member, rfl⟩
    rcases List.mem_filter.mp member with ⟨listed, mentions⟩
    rcases of_decide_eq_true mentions with ⟨different, named⟩
    exact ⟨different, formula, mem_formulas.mp listed, named⟩
  · rintro ⟨different, formula, found, named⟩
    exact ⟨(reader, formula), List.mem_filter.mpr ⟨mem_formulas.mpr found,
      decide_eq_true ⟨different, named⟩⟩, rfl⟩

theorem nodup_mentioning (grid : Grid) (id : String) : (grid.mentioning id).Nodup := by
  rw [mentioning_eq]
  exact grid.nodup_map_fst_formulas.sublist (List.filter_sublist.map Prod.fst)

theorem mentions_congr (layout : SameLayout snapshot merged) (reader id : String) :
    snapshot.Mentions reader id ↔ merged.Mentions reader id := by
  simp only [Mentions, layout.formula?_eq]

/-! ## The two steps -/

theorem editedSnapshot_evaluateEdited (before merged : Grid) (id : String) :
    EditedSnapshot before merged (evaluateEdited before merged id) id := by
  unfold evaluateEdited
  rw [← formula?]
  cases found : merged.formula? id with
  | none =>
    refine ⟨.refl merged, fun _ _ => rfl, fun _ => rfl, fun formula found' => ?_⟩
    rw [found] at found'
    cases found'
  | some formula =>
    refine ⟨sameLayout_setValue _ _ _,
      fun other different => get?_setValue_of_ne _ _ different.symm, fun plain => ?_,
      fun formula' found' => ?_⟩
    · rw [found] at plain
      cases plain
    · rw [found] at found'
      rw [← Option.some.inj found']
      exact value?_setValue_self _ (isSome_get?_of_formula? found)

theorem followedOnce_evaluateEach (snapshot : Grid) (id : String) :
    FollowedOnce snapshot (snapshot.evaluateEach (snapshot.mentioning id)) id where
  layout := sameLayout_evaluateEach snapshot _
  others := fun _ apart => get?_evaluateEach_of_not_mem (mt mem_mentioning.mp apart)
  mentioning := fun _ formula different found named =>
    value?_evaluateEach (nodup_mentioning snapshot id)
      (mem_mentioning.mpr ⟨different, formula, found, named⟩) found

/-- An edit in direct mode is one evaluation of the edited cell and then one of
the formulas that mention it. -/
theorem exists_snapshot_edit_direct (grid : Grid) (target : String) (change : CellUpdate) :
    ∃ snapshot,
      EditedSnapshot grid (grid.update (canonicalId target) change) snapshot
        (canonicalId target) ∧
      FollowedOnce snapshot (grid.edit .direct target change) (canonicalId target) :=
  ⟨_, editedSnapshot_evaluateEdited _ _ _, followedOnce_evaluateEach _ _⟩

theorem sameLayout_edit_direct (grid : Grid) (target : String) (change : CellUpdate) :
    SameLayout (grid.edit .direct target change) (grid.update (canonicalId target) change) := by
  rcases exists_snapshot_edit_direct grid target change with ⟨snapshot, edited, followed⟩
  exact followed.layout.trans edited.layout

/-! ## No other outcome -/

/-- There is only one snapshot. -/
theorem EditedSnapshot.eq {other : Grid} (edited : EditedSnapshot before merged snapshot id)
    (edited' : EditedSnapshot before merged other id) : snapshot = other := by
  refine (edited.layout.trans edited'.layout.symm).eq_of_value? fun read => ?_
  by_cases here : read = id
  · rw [here]
    cases found : merged.formula? id with
    | none => exact value?_eq_of_get? ((edited.plain found).trans (edited'.plain found).symm)
    | some formula => rw [edited.evaluated formula found, edited'.evaluated formula found]
  · exact value?_eq_of_get? ((edited.elsewhere read here).trans (edited'.elsewhere read here).symm)

/-- What follows from a snapshot is determined by it. -/
theorem FollowedOnce.eq {other : Grid} (followed : FollowedOnce snapshot after id)
    (followed' : FollowedOnce snapshot other id) : after = other := by
  refine (followed.layout.trans followed'.layout.symm).eq_of_value? fun read => ?_
  by_cases mentions : snapshot.Mentions read id
  · rcases mentions with ⟨different, formula, found, named⟩
    rw [followed.mentioning read formula different found named,
      followed'.mentioning read formula different found named]
  · exact value?_eq_of_get?
      ((followed.others read mentions).trans (followed'.others read mentions).symm)

/-- An edit in direct mode evaluates the edited cell and then, over the one
snapshot that this leaves, the formulas that mention it.  Nothing else has this
outcome; it has the cells of the merged grid, and apart from the edited cell no
formula, type or format changes. -/
theorem direct_edit_follows_one_level (grid : Grid) (target : String) (change : CellUpdate) :
    let id := canonicalId target
    let merged := grid.update id change
    (∀ after, after = grid.edit .direct target change ↔
      ∃ snapshot, EditedSnapshot grid merged snapshot id ∧ FollowedOnce snapshot after id) ∧
    ∀ other, ((grid.edit .direct target change).Holds other ↔ merged.Holds other) ∧
      (other ≠ id → ((grid.edit .direct target change).get? other).map Cell.withoutValue =
        (grid.get? other).map Cell.withoutValue) := by
  intro id merged
  have layout := sameLayout_edit_direct grid target change
  refine ⟨fun after => ⟨?_, ?_⟩, fun other => ⟨?_, fun different => ?_⟩⟩
  · rintro rfl
    exact exists_snapshot_edit_direct grid target change
  · rintro ⟨snapshot, edited, followed⟩
    rcases exists_snapshot_edit_direct grid target change with ⟨snapshot', edited', followed'⟩
    obtain rfl := edited.eq edited'
    exact followed.eq followed'
  · rw [holds_congr layout]
  · rw [layout other, get?_update, if_neg (Ne.symm different)]

end Grid
end Worksheet
