import Worksheet.Document.Editing
import Worksheet.Proofs.Formula.Shift
import Worksheet.Proofs.Recalculation.Direct
import Worksheet.Proofs.Recalculation.Typing
import Worksheet.Proofs.Reference.Identifier

namespace Worksheet

/-!
Documents in use.  What is typed, copied, filled or cleared replaces formula
and value of a cell together; a format leaves both alone, and evaluation writes
only values, and only beside formulas.  So the parts of every cell fit together
throughout a session: a formula always comes with a value, and a value without
formula with its own type.
-/

/-- A cell whose parts fit together. -/
structure Cell.Consistent (cell : Cell) : Prop where
  starts : ∀ formula ∈ cell.formula, isFormula formula = true
  evaluated : cell.formula.isSome → cell.value.isSome
  nonempty : cell.formula = none → cell.value ≠ some ""
  typed : cell.formula = none → cell.type = cell.value.map ContentType.infer

/-- A grid of consistent cells under canonical identifiers. -/
def Grid.Consistent (grid : Grid) : Prop :=
  ∀ id cell, grid.get? id = some cell → canonicalId id = id ∧ cell.Consistent

/-- An update that replaces formula and value together, by a formula or by a
text, of which no type is declared that is not its own. -/
inductive CellUpdate.Replacing : CellUpdate → Prop where
  | formula (text : String) (type : Option ContentType) (format : Option CellFormat)
      (starts : isFormula text = true) :
      Replacing { value := some text, formula := some text, type, format }
  | literal (text : String) (type : Option ContentType) (format : Option CellFormat)
      (own : ∀ declared ∈ type, text ≠ "" ∧ declared = .infer text) :
      Replacing { value := some text, formula := some "", type, format }

/-! ## Updates of one cell -/

namespace Cell

variable {cell : Cell} {change : CellUpdate}

theorem Consistent.activeFormula?_eq (consistent : cell.Consistent) :
    cell.activeFormula? = cell.formula := by
  rw [activeFormula?]
  cases found : cell.formula with
  | none => rfl
  | some formula => exact Option.filter_eq_some_iff.mpr ⟨rfl, consistent.starts formula found⟩

theorem consistent_default : ({} : Cell).Consistent where
  starts := fun _ member => by cases member
  evaluated := fun present => by cases present
  nonempty := fun _ empty => by cases empty
  typed := fun _ => rfl

theorem ne_empty_of_isFormula {text : String} (starts : isFormula text = true) : text ≠ "" := by
  rintro rfl
  exact absurd starts (by decide)

/-- Whatever a cell was, it is consistent once it was replaced. -/
theorem consistent_apply (replacing : change.Replacing) (cell : Cell) :
    (cell.apply change).Consistent := by
  cases replacing with
  | formula text type format starts =>
    have stored : present text = some text := Grid.present_eq_some (ne_empty_of_isFormula starts)
    have value : (cell.apply ⟨some text, some text, type, format⟩).value = some text := stored
    have formula : (cell.apply ⟨some text, some text, type, format⟩).formula = some text := stored
    refine ⟨fun written member => ?_, fun _ => ?_, fun absent => ?_, fun absent => ?_⟩
    · rw [formula] at member
      rw [← Option.some.inj member]
      exact starts
    · rw [value]
      rfl
    · rw [formula] at absent
      cases absent
    · rw [formula] at absent
      cases absent
  | literal text type format own =>
    have value : (cell.apply ⟨some text, some "", type, format⟩).value = present text := rfl
    refine ⟨fun _ member => (by cases member), fun present => (by cases present),
      fun _ empty => ?_, fun _ => ?_⟩
    · rw [value] at empty
      by_cases blank : text = ""
      · rw [blank] at empty
        cases empty
      · rw [Grid.present_eq_some blank] at empty
        exact blank (Option.some.inj empty)
    · rw [value]
      cases type with
      | none => rfl
      | some declared =>
        rcases own declared rfl with ⟨nonempty, rfl⟩
        rw [Grid.present_eq_some nonempty]
        rfl

theorem Consistent.apply_ofFormat (consistent : cell.Consistent) (format : CellFormat) :
    (cell.apply (.ofFormat format)).Consistent :=
  ⟨consistent.starts, consistent.evaluated, consistent.nonempty, consistent.typed⟩

end Cell

/-- A formula that is shifted stays a formula: the equals sign is no part of a
reference or a literal. -/
theorem Formula.isFormula_shift {formula : String} (starts : isFormula formula = true)
    (columns rows : Int) : isFormula (shift formula columns rows) = true := by
  by_cases still : columns = 0 ∧ rows = 0
  · rw [shift, if_pos still]
    exact starts
  · rcases List.head?_eq_some_iff.mp (of_decide_eq_true starts) with ⟨body, text⟩
    rw [shift_eq still, text, ← List.nil_append ('=' :: body),
      shiftChars_append_cons (fun _ member => by cases member) (by decide) (by decide),
      Reference.changed_nil, List.nil_append, isFormula, String.toList_ofList]
    rfl

theorem Formula.isFormula_move {formula : String} (starts : isFormula formula = true)
    (source target : String) : isFormula (move formula source target) = true := by
  rw [move, if_pos starts]
  exact isFormula_shift starts _ _

namespace CellUpdate

theorem replacing_input (raw : String) : (input raw).Replacing := by
  unfold input
  by_cases starts : isFormula raw = true
  · rw [if_pos starts]
    exact .formula raw none none starts
  · rw [if_neg starts]
    exact .literal raw none none fun _ declared => by cases declared

theorem replacing_clear : clear.Replacing :=
  .literal "" none none fun _ declared => by cases declared

/-- A copy of a consistent cell brings no type but that of its value. -/
theorem replacing_copyUpdate {source : Cell} (consistent : source.Consistent)
    (sourceId targetId : String) :
    (Document.copyUpdate source sourceId targetId).Replacing := by
  rw [Document.copyUpdate, consistent.activeFormula?_eq]
  cases found : source.formula with
  | some formula =>
    have starts := consistent.starts formula found
    exact .formula _ _ _ (Formula.isFormula_move starts _ _)
  | none =>
    refine .literal _ _ _ fun declared member => ?_
    rw [consistent.typed found] at member
    rcases Option.map_eq_some_iff.mp member with ⟨value, stored, rfl⟩
    rw [stored]
    exact ⟨fun empty => consistent.nonempty found (empty ▸ stored), rfl⟩

end CellUpdate

/-! ## Evaluation -/

namespace Grid

open DependencyGraph (ofGrid)

/-- Whether a grid is another after evaluation: a cell is as it was, or it has a
formula and now some value. -/
structure Reevaluated (before after : Grid) : Prop where
  layout : SameLayout after before
  cells : ∀ id, after.get? id = before.get? id ∨
    (before.formula? id).isSome ∧ (after.value? id).isSome

variable {grid before after : Grid} {change : CellUpdate} {id : String}

theorem reevaluated_of_recalculated {Affected : String → Prop}
    (recalculated : Recalculated before after Affected)
    (formulas : ∀ id, Affected id → (before.formula? id).isSome) : Reevaluated before after where
  layout := recalculated.layout
  cells := by
    intro id
    by_cases affected : Affected id
    · refine .inr ⟨formulas id affected, ?_⟩
      by_cases cycle : (ofGrid before).OnCycle id
      · rw [recalculated.circular id affected cycle]
        rfl
      · rcases recalculated.evaluated id affected cycle with ⟨formula, stage, _, evaluated⟩
        rw [evaluated.value]
        rfl
    · exact .inl (recalculated.untouched id affected)

theorem reevaluated_recalculate (grid : Grid) (mode : RecalculationMode) :
    Reevaluated grid (grid.recalculate mode) := by
  cases mode with
  | full =>
    exact reevaluated_of_recalculated (recalculated_recalculate grid) fun _ formula => formula
  | direct =>
    refine ⟨sameLayout_recalculate_direct grid, fun id => ?_⟩
    cases found : grid.formula? id with
    | none => exact .inl (get?_recalculate_direct found)
    | some formula =>
      rw [value?_recalculate_direct found]
      exact .inr ⟨rfl, rfl⟩

theorem reevaluated_edit_direct (grid : Grid) (target : String) (change : CellUpdate) :
    Reevaluated (grid.update (canonicalId target) change) (grid.edit .direct target change) := by
  rcases exists_snapshot_edit_direct grid target change with ⟨snapshot, edited, followed⟩
  refine ⟨followed.layout.trans edited.layout, fun id => ?_⟩
  by_cases mentions : snapshot.Mentions id (canonicalId target)
  · rcases mentions with ⟨different, formula, found, named⟩
    rw [followed.mentioning id formula different found named, ← edited.layout.formula?_eq, found]
    exact .inr ⟨rfl, rfl⟩
  · have kept := followed.others id mentions
    by_cases here : id = canonicalId target
    · subst here
      cases found : (grid.update (canonicalId target) change).formula? (canonicalId target) with
      | none => exact .inl (kept.trans (edited.plain found))
      | some formula =>
        rw [value?_eq_of_get? kept, edited.evaluated formula found]
        exact .inr ⟨rfl, rfl⟩
    · exact .inl (kept.trans (edited.elsewhere id here))

theorem reevaluated_edit (grid : Grid) (mode : RecalculationMode) (target : String)
    (change : CellUpdate) :
    Reevaluated (grid.update (canonicalId target) change) (grid.edit mode target change) := by
  cases mode with
  | direct => exact reevaluated_edit_direct grid target change
  | full =>
    exact reevaluated_of_recalculated (recalculated_edit grid target change) fun _ affected =>
      DependencyGraph.mem_cells_ofGrid.mp affected.mem_cells

/-! ## Consistent grids -/

theorem consistent_empty : empty.Consistent := by
  intro id cell found
  rw [get?_empty] at found
  cases found

theorem Consistent.getD (consistent : grid.Consistent) (id : String) :
    ((grid.get? id).getD {}).Consistent := by
  cases found : grid.get? id with
  | none => exact Cell.consistent_default
  | some cell => exact (consistent id cell found).2

theorem Consistent.update (consistent : grid.Consistent) (canonical : canonicalId id = id)
    (applied : (((grid.get? id).getD {}).apply change).Consistent) :
    (grid.update id change).Consistent := by
  intro other cell found
  rw [get?_update] at found
  by_cases here : id = other
  · rw [if_pos here] at found
    rw [← here, ← Option.some.inj found]
    exact ⟨canonical, applied⟩
  · rw [if_neg here] at found
    exact consistent other cell found

/-- Evaluation writes no formula or type, and its values stand beside
formulas. -/
theorem Consistent.of_reevaluated (consistent : before.Consistent)
    (reevaluated : Reevaluated before after) : after.Consistent := by
  intro id cell found
  rcases reevaluated.cells id with same | ⟨formula, value⟩
  · rw [same] at found
    exact consistent id cell found
  · have layout := reevaluated.layout id
    rw [found, Option.map_some] at layout
    rcases Option.map_eq_some_iff.mp layout.symm with ⟨old, present, parts⟩
    rcases consistent id old present with ⟨canonical, fits⟩
    have kept : cell.formula = old.formula := (congrArg Cell.formula parts).symm
    rw [value?, found, Option.bind_some] at value
    rw [formula?, present, Option.bind_some, fits.activeFormula?_eq, ← kept] at formula
    refine ⟨canonical, fun text member => ?_, fun _ => value, fun absent => ?_, fun absent => ?_⟩
    · rw [kept] at member
      exact fits.starts text member
    · rw [absent] at formula
      cases formula
    · rw [absent] at formula
      cases formula

theorem Consistent.edit (consistent : grid.Consistent) (mode : RecalculationMode)
    (target : String) (replacing : change.Replacing) :
    (grid.edit mode target change).Consistent :=
  (consistent.update (Reference.canonicalId_canonicalId target)
    (Cell.consistent_apply replacing _)).of_reevaluated (reevaluated_edit grid mode target change)

end Grid

/-! ## Sessions -/

namespace Document

/-- What is done to a document. -/
inductive Action where
  | input (mode : RecalculationMode) (id raw : String)
  | format (id : String) (format : CellFormat)
  | clear (mode : RecalculationMode) (id : String)
  | copy (mode : RecalculationMode) (source target : String)
  | fill (mode : RecalculationMode) (source range : String)
  | recalculate (mode : RecalculationMode)

/-- A document after an action. -/
def perform (document : Document) (now : Instant) : Action → Document
  | .input mode id raw => document.setInput mode now id raw
  | .format id format => document.setFormat now id format
  | .clear mode id => document.clear mode now id
  | .copy mode source target => document.copy mode now source target
  | .fill mode source range => (document.fill mode now source range).2
  | .recalculate mode => document.recalculate mode now

/-- A document after a session, a list of actions with their times. -/
def session (document : Document) (actions : List (Instant × Action)) : Document :=
  actions.foldl (fun document (now, action) => document.perform now action) document

variable {document : Document}

theorem consistent_copy (consistent : document.data.Consistent) (mode : RecalculationMode)
    (now : Instant) (source target : String) :
    (document.copy mode now source target).data.Consistent :=
  consistent.edit mode _ (CellUpdate.replacing_copyUpdate (consistent.getD _) _ _)

theorem consistent_foldl_copy (consistent : document.data.Consistent) (mode : RecalculationMode)
    (now : Instant) (source : String) (targets : List String) :
    (targets.foldl (fun document target => document.copy mode now source target)
      document).data.Consistent := by
  induction targets generalizing document with
  | nil => exact consistent
  | cons target targets ih => exact ih (consistent_copy consistent mode now source target)

theorem consistent_fill (consistent : document.data.Consistent) (mode : RecalculationMode)
    (now : Instant) (source range : String) :
    (document.fill mode now source range).2.data.Consistent := by
  unfold fill
  split
  · exact consistent
  · exact consistent_foldl_copy consistent mode now source _

/-- Every action keeps the cells of a document consistent. -/
theorem consistent_perform (consistent : document.data.Consistent) (now : Instant)
    (action : Action) : (document.perform now action).data.Consistent := by
  cases action with
  | input mode id raw => exact consistent.edit mode id (CellUpdate.replacing_input raw)
  | format id format =>
    exact consistent.update (Reference.canonicalId_canonicalId id)
      ((consistent.getD _).apply_ofFormat format)
  | clear mode id => exact consistent.edit mode id CellUpdate.replacing_clear
  | copy mode source target => exact consistent_copy consistent mode now source target
  | fill mode source range => exact consistent_fill consistent mode now source range
  | recalculate mode =>
    exact consistent.of_reevaluated (Grid.reevaluated_recalculate document.data mode)

theorem consistent_session (consistent : document.data.Consistent)
    (actions : List (Instant × Action)) : (document.session actions).data.Consistent := by
  induction actions generalizing document with
  | nil => exact consistent
  | cons entry actions ih => exact ih (consistent_perform consistent entry.1 entry.2)

/-- In whatever way a new document is worked on, its cells stay consistent. -/
theorem consistent_session_of_new (id : UInt64) (actions : List (Instant × Action)) :
    (({ id } : Document).session actions).data.Consistent :=
  consistent_session Grid.consistent_empty actions

end Document
end Worksheet
