import Worksheet.Proofs.Recalculation.Direct
import Worksheet.Proofs.Recalculation.Incremental

namespace Worksheet
namespace Grid

/-!
Where direct mode is enough.  If nothing reads the cells that mention an edited
cell, every chain of dependencies that leads to the edited cell is one step
long, and the two modes evaluate the same formulas over the same values.
-/

open DependencyGraph (ofGrid)

/-- An edit of a cell that one level of following settles: the formulas are
covered, the cell does not name itself, mentioning the cell is naming it, and
nothing names a cell that mentions it. -/
structure OneLevel (merged : Grid) (id : String) : Prop where
  covered : merged.AllCovered
  unnamed : ∀ formula, merged.formula? id = some formula → id ∉ Formula.precedents formula
  named_iff : ∀ reader formula, reader ≠ id → merged.formula? reader = some formula →
    (id ∈ Formula.mentionedIds formula ↔ id ∈ Formula.precedents formula)
  unread : ∀ dependent, merged.Mentions dependent id → ∀ reader formula,
    merged.formula? reader = some formula → dependent ∉ Formula.precedents formula

variable {merged after full snapshot : Grid} {id reader read formula : String}

namespace OneLevel

variable (oneLevel : OneLevel merged id)

include oneLevel

/-! ## What depends on the edited cell -/

theorem reads_iff : (ofGrid merged).Reads reader id ↔ merged.Mentions reader id := by
  constructor
  · intro reads
    rcases DependencyGraph.mem_precedents_ofGrid.mp reads with ⟨formula, found, named⟩
    have different : reader ≠ id := by
      rintro rfl
      exact oneLevel.unnamed formula found named
    exact ⟨different, formula, found, (oneLevel.named_iff reader formula different found).mpr named⟩
  · rintro ⟨different, formula, found, mentioned⟩
    exact DependencyGraph.mem_precedents_ofGrid.mpr
      ⟨formula, found, (oneLevel.named_iff reader formula different found).mp mentioned⟩

theorem not_reads_of_mentions (mentions : merged.Mentions read id) :
    ¬(ofGrid merged).Reads reader read := by
  intro reads
  rcases DependencyGraph.mem_precedents_ofGrid.mp reads with ⟨formula, found, named⟩
  exact oneLevel.unread read mentions reader formula found named

/-- A chain that leads to the edited cell has one step: its last step starts at
a cell that mentions the edited one, and no step leads there. -/
theorem dependsOn_iff : (ofGrid merged).DependsOn reader id ↔ merged.Mentions reader id := by
  constructor
  · intro depends
    rcases Relation.TransGen.tail'_iff.mp depends with ⟨last, reaches, reads⟩
    have mentions := oneLevel.reads_iff.mp reads
    rcases Relation.ReflTransGen.cases_tail reaches with rfl | ⟨_, _, step⟩
    · exact mentions
    · exact absurd step (oneLevel.not_reads_of_mentions mentions)
  · intro mentions
    exact .single (oneLevel.reads_iff.mpr mentions)

theorem affected_iff : merged.Affected id reader ↔
    merged.Mentions reader id ∨ reader = id ∧ (merged.formula? id).isSome := by
  rw [Affected, oneLevel.dependsOn_iff]

theorem not_onCycle (affected : merged.Affected id reader) : ¬(ofGrid merged).OnCycle reader := by
  intro cycle
  rcases oneLevel.affected_iff.mp affected with mentions | ⟨rfl, _⟩
  · rcases Relation.TransGen.tail'_iff.mp cycle with ⟨_, _, step⟩
    exact oneLevel.not_reads_of_mentions mentions step
  · exact (oneLevel.dependsOn_iff.mp cycle).1 rfl

/-- What a formula names is out of the edit's reach, but for the edited cell. -/
theorem not_affected_of_precedent (found : merged.formula? reader = some formula)
    (named : read ∈ Formula.precedents formula) (different : read ≠ id) :
    ¬merged.Affected id read := by
  intro affected
  rcases oneLevel.affected_iff.mp affected with mentions | ⟨here, _⟩
  · exact oneLevel.unread read mentions reader formula found named
  · exact different here

/-! ## The two outcomes -/

section

variable (recalculated : Recalculated merged full (merged.Affected id))

include recalculated

/-- An affected formula has its value over any lookup that gives the final
values of what it names. -/
theorem value?_of_affected {lookup : Lookup} (affected : merged.Affected id reader)
    (found : merged.formula? reader = some formula)
    (agree : ∀ read ∈ Formula.precedents formula, full.value? read = lookup read) :
    full.value? reader = some (Formula.evaluate formula lookup) := by
  rcases recalculated.evaluated reader affected (oneLevel.not_onCycle affected) with
      ⟨same, stage, found', evaluated⟩
  obtain rfl : same = formula := Option.some.inj (found'.symm.trans found)
  refine evaluated.value.trans (congrArg some (oneLevel.covered reader same found _ _ ?_))
  exact fun read named => (evaluated.precedents read named).trans (agree read named)

theorem value?_of_precedent (found : merged.formula? reader = some formula)
    (named : read ∈ Formula.precedents formula) (different : read ≠ id) :
    full.value? read = merged.value? read :=
  value?_eq_of_get? (recalculated.untouched read
    (oneLevel.not_affected_of_precedent found named different))

variable {before : Grid} (edited : EditedSnapshot before merged snapshot id)

include edited

/-- The edited cell itself: it names neither itself nor a cell that is evaluated
after it, so its value from before the edit does not matter. -/
theorem value?_edited : full.value? id = snapshot.value? id := by
  cases found : merged.formula? id with
  | none =>
    rw [value?_eq_of_get? (edited.plain found)]
    refine value?_eq_of_get? (recalculated.untouched id fun affected => ?_)
    rcases oneLevel.affected_iff.mp affected with ⟨different, _⟩ | ⟨_, present⟩
    · exact different rfl
    · rw [found] at present
      cases present
  | some formula =>
    have affected : merged.Affected id id := .inr ⟨rfl, by rw [found]; rfl⟩
    rw [edited.evaluated formula found]
    refine oneLevel.value?_of_affected recalculated affected found fun read named => ?_
    have different : read ≠ id := by
      rintro rfl
      exact oneLevel.unnamed formula found named
    rw [if_neg different]
    exact oneLevel.value?_of_precedent recalculated found named different

theorem value?_of_mentions (mentions : merged.Mentions reader id)
    (found : merged.formula? reader = some formula) :
    full.value? reader = some (Formula.evaluate formula snapshot.value?) := by
  refine oneLevel.value?_of_affected recalculated (oneLevel.affected_iff.mpr (.inl mentions))
    found fun read named => ?_
  by_cases here : read = id
  · rw [here]
    exact oneLevel.value?_edited recalculated edited
  · rw [oneLevel.value?_of_precedent recalculated found named here,
      value?_eq_of_get? (edited.elsewhere read here)]

theorem eq_of_followedOnce (followed : FollowedOnce snapshot after id) : after = full := by
  have layout := followed.layout.trans (edited.layout.trans recalculated.layout.symm)
  refine layout.eq_of_value? fun reader => ?_
  by_cases mentions : merged.Mentions reader id
  · rcases mentions with ⟨different, formula, found, mentioned⟩
    rw [followed.mentioning reader formula different
      ((edited.layout.formula?_eq reader).trans found) mentioned]
    exact (oneLevel.value?_of_mentions recalculated edited
      ⟨different, formula, found, mentioned⟩ found).symm
  · rw [value?_eq_of_get? (followed.others reader
      (mt (mentions_congr edited.layout reader id).mp mentions))]
    by_cases here : reader = id
    · rw [here]
      exact (oneLevel.value?_edited recalculated edited).symm
    · have outside : ¬merged.Affected id reader := fun affected =>
        (oneLevel.affected_iff.mp affected).elim mentions fun edited => here edited.1
      rw [value?_eq_of_get? (edited.elsewhere reader here),
        value?_eq_of_get? (recalculated.untouched reader outside)]

end

end OneLevel

/-- The two modes agree on an edit that one level of following settles. -/
theorem direct_edit_eq_full_edit {grid : Grid} {target : String} {change : CellUpdate}
    (oneLevel : OneLevel (grid.update (canonicalId target) change) (canonicalId target)) :
    grid.edit .direct target change = grid.edit .full target change := by
  rcases exists_snapshot_edit_direct grid target change with ⟨snapshot, edited, followed⟩
  exact oneLevel.eq_of_followedOnce (recalculated_edit grid target change) edited followed

theorem direct_edit_eq_full_edit_of_formula :
    let grid := Grid.ofList [("B1", .ofInput "=UPPER(A1)"), ("Z1", .ofInput " x ")]
    let change := CellUpdate.input "=TRIM(Z1)"
    OneLevel (grid.update (canonicalId "a1") change) (canonicalId "a1") ∧
      grid.edit .direct "a1" change = grid.edit .full "a1" change := by
  intro grid change
  have canonical : canonicalId "a1" = "A1" := by decide +kernel
  have formulas (id formula : String)
      (found : (grid.update "A1" change).formula? id = some formula) :
      id = "A1" ∧ formula = "=TRIM(Z1)" ∨ id = "B1" ∧ formula = "=UPPER(A1)" := by
    by_cases here : "A1" = id
    · rw [formula?, get?_update, if_pos here] at found
      exact .inl ⟨here.symm, (Option.some.inj found).symm⟩
    · have cells : grid.get? id =
          if "Z1" = id then some (.ofInput " x ")
          else if "B1" = id then some (.ofInput "=UPPER(A1)") else none := by
        simp [grid, Grid.ofList, Grid.get?_insert]
      rw [formula?_update_of_ne here, formula?, cells] at found
      split at found
      · cases found
      · split at found
        · next there => exact .inr ⟨there.symm, (Option.some.inj found).symm⟩
        · cases found
  have trim (read : String) (named : read ∈ Formula.precedents "=TRIM(Z1)") : read = "Z1" := by
    rw [Formula.mem_precedents rfl] at named
    have ids : Formula.scannedIds "=TRIM(Z1)".toList = ["Z1"] := by decide +kernel
    rwa [ids, List.mem_singleton] at named
  have upper (read : String) : read ∈ Formula.precedents "=UPPER(A1)" ↔ read = "A1" := by
    rw [Formula.mem_precedents rfl]
    have ids : Formula.scannedIds "=UPPER(A1)".toList = ["A1"] := by decide +kernel
    rw [ids, List.mem_singleton]
  have mentioned : "A1" ∈ Formula.mentionedIds "=UPPER(A1)" :=
    (Formula.mem_mentionedIds rfl).mpr (by decide +kernel)
  have oneLevel : OneLevel (grid.update (canonicalId "a1") change) (canonicalId "a1") := by
    rw [canonical]
    refine ⟨fun id formula found => ?_, fun formula found named => ?_,
      fun reader formula different found => ?_, fun dependent mentions reader formula found => ?_⟩
    · rcases formulas id formula found with ⟨_, rfl⟩ | ⟨_, rfl⟩
      · exact Formula.covered_of_scanned (by decide) (by decide +kernel)
      · exact Formula.covered_of_scanned (by decide) (by decide +kernel)
    · rcases formulas "A1" formula found with ⟨_, rfl⟩ | ⟨here, _⟩
      · exact absurd (trim "A1" named) (by decide)
      · exact absurd here (by decide)
    · rcases formulas reader formula found with ⟨rfl, _⟩ | ⟨_, rfl⟩
      · exact absurd rfl different
      · exact iff_of_true mentioned ((upper "A1").mpr rfl)
    · rcases mentions with ⟨different, formula', found', _⟩
      obtain rfl : dependent = "B1" := by
        rcases formulas dependent formula' found' with ⟨here, _⟩ | ⟨there, _⟩
        · exact absurd here different
        · exact there
      intro named
      rcases formulas reader formula found with ⟨_, rfl⟩ | ⟨_, rfl⟩
      · exact absurd (trim "B1" named) (by decide)
      · exact absurd ((upper "B1").mp named) (by decide)
  exact ⟨oneLevel, direct_edit_eq_full_edit oneLevel⟩

end Grid
end Worksheet
