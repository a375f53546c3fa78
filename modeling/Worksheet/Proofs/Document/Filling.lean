import Worksheet.Proofs.Document.Session

namespace Worksheet

/-!
Filling.  The copies are made one after the other and the sheet is evaluated
after each, so the value of the source may change on the way.  A copy takes the
formula of the source, or its value if it has none, and evaluation leaves both
alone, so it does not matter in which order the targets come, whether one comes
twice and which of them the source reads.
-/

theorem CellFormat.overlay_overlay (format upper : CellFormat) :
    (format.overlay upper).overlay upper = format.overlay upper := by
  have once {α : Type} (setting below : Option α) :
      (setting <|> (setting <|> below)) = (setting <|> below) := by
    cases setting <;> rfl
  simp only [overlay, once]

namespace Cell

variable {source before middle after old copy again : Cell} {sourceId targetId : String}

/-! ## Cells that are kept -/

/-- Whether a cell is as it was, apart from the value beside a formula. -/
structure Kept (before after : Cell) : Prop where
  formula : after.formula = before.formula
  type : after.type = before.type
  format : after.format = before.format
  value : before.activeFormula? = none → after.value = before.value

namespace Kept

theorem refl (cell : Cell) : cell.Kept cell :=
  ⟨rfl, rfl, rfl, fun _ => rfl⟩

theorem activeFormula?_eq (kept : before.Kept after) :
    after.activeFormula? = before.activeFormula? := by
  rw [activeFormula?, activeFormula?, kept.formula]

theorem hasFormula_eq (kept : before.Kept after) : after.hasFormula = before.hasFormula :=
  congrArg Option.isSome kept.activeFormula?_eq

theorem trans (first : before.Kept middle) (next : middle.Kept after) : before.Kept after where
  formula := next.formula.trans first.formula
  type := next.type.trans first.type
  format := next.format.trans first.format
  value := fun plain =>
    (next.value (first.activeFormula?_eq.trans plain)).trans (first.value plain)

theorem getD {before after : Option Cell} (kept : before.Rel Kept after) :
    (before.getD {}).Kept (after.getD {}) := by
  cases kept with
  | some kept => exact kept
  | none => exact .refl {}

theorem exists_of_rel {after : Option Cell} (kept : (some before).Rel Kept after) :
    ∃ cell, after = some cell ∧ before.Kept cell := by
  cases kept with
  | some kept => exact ⟨_, rfl, kept⟩

theorem rel_trans {first second third : Option Cell} (kept : first.Rel Kept second)
    (next : second.Rel Kept third) : first.Rel Kept third := by
  cases kept with
  | none => exact next
  | some kept =>
    cases next with
    | some next => exact .some (kept.trans next)

end Kept

/-! ## Copies -/

/-- What a cell is once another was copied over it.  The value beside a formula
is left to evaluation. -/
structure IsCopy (source : Cell) (sourceId targetId : String) (old copy : Cell) : Prop where
  formula : copy.formula = source.activeFormula?.map (Formula.move · sourceId targetId)
  value : source.activeFormula? = none → copy.value = source.value.bind present
  type : copy.type =
    (source.type <|> if source.hasFormula then old.type else copy.value.map .infer)
  format : copy.format = match source.format with
    | some upper => some ((old.format.getD {}).overlay upper)
    | none => old.format

theorem isCopy_apply (source : Cell) (sourceId targetId : String) (old : Cell) :
    source.IsCopy sourceId targetId old
      (old.apply (Document.copyUpdate source sourceId targetId)) := by
  rw [Document.copyUpdate]
  cases active : source.activeFormula? with
  | some formula =>
    have starts : isFormula formula = true := (Option.filter_eq_some_iff.mp active).2
    have moved := Formula.isFormula_move starts sourceId targetId
    -- The update stores the moved formula, since only an empty one would take the old one away.
    have stored := Grid.present_eq_some (ne_empty_of_isFormula moved)
    refine ⟨?_, fun plain => ?_, ?_, ?_⟩
    · rw [active]
      exact stored
    · rw [active] at plain
      cases plain
    · have computed : source.hasFormula = true := congrArg Option.isSome active
      rw [if_pos computed]
      cases source.type with
      | some type => rfl
      | none => simp [apply, stored, moved]
    · cases source.format <;> rfl
  | none =>
    refine ⟨?_, fun _ => ?_, ?_, ?_⟩
    · rw [active]
      rfl
    · cases source.value <;> rfl
    · have plain : source.hasFormula = false := congrArg Option.isSome active
      rw [plain]
      cases source.type with
      | some type => rfl
      | none => simp [apply, present]
    · cases source.format <;> rfl

namespace IsCopy

/-- A copy of what the source has become is a copy of the source. -/
theorem of_source (kept : before.Kept after) (isCopy : after.IsCopy sourceId targetId old copy) :
    before.IsCopy sourceId targetId old copy where
  formula := kept.activeFormula?_eq ▸ isCopy.formula
  value := fun plain => by
    rw [isCopy.value (kept.activeFormula?_eq.trans plain), kept.value plain]
  type := by
    rw [isCopy.type, kept.type, kept.hasFormula_eq]
  format := by
    rw [isCopy.format, kept.format]

/-- Of the old cell only type and format are seen. -/
theorem of_old (kept : before.Kept after) (isCopy : source.IsCopy sourceId targetId after copy) :
    source.IsCopy sourceId targetId before copy where
  formula := isCopy.formula
  value := isCopy.value
  type := kept.type ▸ isCopy.type
  format := kept.format ▸ isCopy.format

/-- A copy that is kept remains one. -/
theorem kept (isCopy : source.IsCopy sourceId targetId old before) (kept : before.Kept after) :
    source.IsCopy sourceId targetId old after := by
  -- A copy of a cell without formula has none either, so evaluation spares its value.
  have value (plain : source.activeFormula? = none) : after.value = before.value := by
    refine kept.value ?_
    rw [activeFormula?, isCopy.formula, plain]
    rfl
  refine ⟨kept.formula.trans isCopy.formula, fun plain => ?_, ?_, kept.format.trans isCopy.format⟩
  · rw [value plain]
    exact isCopy.value plain
  · rw [kept.type, isCopy.type]
    cases active : source.activeFormula? with
    | some formula => simp only [hasFormula, active]; rfl
    | none => rw [value active]

/-- Copying once more changes nothing. -/
theorem trans (first : source.IsCopy sourceId targetId old copy)
    (next : source.IsCopy sourceId targetId copy again) :
    source.IsCopy sourceId targetId old again where
  formula := next.formula
  value := next.value
  type := by
    rw [next.type]
    cases declared : source.type with
    | some type => rfl
    | none =>
      cases formula : source.hasFormula with
      | false => rfl
      | true =>
        rw [first.type, declared, formula]
        rfl
  format := by
    rw [next.format, first.format]
    cases source.format with
    | some upper => exact congrArg some (CellFormat.overlay_overlay _ _)
    | none => rfl

end IsCopy
end Cell

/-! ## Grids -/

namespace Grid

variable {source : String} {First Next : String → Prop} {before middle after : Grid}

/-- What a grid is once a cell was copied to all targets of a kind: these are
copies of what the source was over what they were, and the others are kept. -/
structure FilledFrom (source : String) (IsTarget : String → Prop) (before after : Grid) :
    Prop where
  targets : ∀ target, IsTarget target → ∃ copy, after.get? target = some copy ∧
    ((before.get? source).getD {}).IsCopy source target ((before.get? target).getD {}) copy
  others : ∀ id, ¬IsTarget id → (before.get? id).Rel Cell.Kept (after.get? id)

theorem Reevaluated.rel_kept (reevaluated : Reevaluated before after) (id : String) :
    (before.get? id).Rel Cell.Kept (after.get? id) := by
  have layout := reevaluated.layout id
  have cells := reevaluated.cells id
  cases found : before.get? id with
  | none =>
    rw [found, Option.map_none] at layout
    rw [Option.map_eq_none_iff.mp layout]
    exact .none
  | some cell =>
    rw [found, Option.map_some] at layout
    rcases Option.map_eq_some_iff.mp layout with ⟨other, written, parts⟩
    rw [written]
    have formula := congrArg Cell.formula parts
    have type := congrArg Cell.type parts
    have format := congrArg Cell.format parts
    refine .some ⟨formula, type, format, fun plain => ?_⟩
    rcases cells with same | ⟨formula, _⟩
    · rw [found, written] at same
      rw [Option.some.inj same]
    · rw [formula?, found, Option.bind_some, plain] at formula
      cases formula

namespace FilledFrom

theorem refl (source : String) (grid : Grid) : grid.FilledFrom source (fun _ => False) grid where
  targets := fun _ none => none.elim
  others := fun id _ => by
    cases grid.get? id with
    | none => exact .none
    | some cell => exact .some (.refl cell)

/-- What is filled in two parts is filled, as long as the first spares the
source. -/
theorem trans (first : before.FilledFrom source First middle)
    (next : middle.FilledFrom source Next after) (spared : ¬First source) :
    before.FilledFrom source (fun id => First id ∨ Next id) after where
  targets := by
    intro target isTarget
    by_cases later : Next target
    · rcases next.targets target later with ⟨copy, found, isCopy⟩
      have fromSource := isCopy.of_source (.getD (first.others source spared))
      refine ⟨copy, found, ?_⟩
      -- A target that comes twice was a copy already, any other is still as it was.
      by_cases sooner : First target
      · rcases first.targets target sooner with ⟨written, stored, wasCopy⟩
        rw [stored] at fromSource
        exact wasCopy.trans fromSource
      · exact fromSource.of_old (.getD (first.others target sooner))
    · rcases first.targets target (isTarget.resolve_right later) with ⟨written, stored, wasCopy⟩
      have kept := next.others target later
      rw [stored] at kept
      rcases Cell.Kept.exists_of_rel kept with ⟨copy, found, kept⟩
      exact ⟨copy, found, wasCopy.kept kept⟩
  others := fun id other =>
    Cell.Kept.rel_trans (first.others id fun sooner => other (.inl sooner))
      (next.others id fun later => other (.inr later))

end FilledFrom

theorem filledFrom_edit_copyUpdate (grid : Grid) (mode : RecalculationMode) (source target : String)
    (canonical : canonicalId target = target) :
    grid.FilledFrom source (· = target) (grid.edit mode target
      (Document.copyUpdate ((grid.get? source).getD {}) source target)) := by
  have reevaluated := reevaluated_edit grid mode target
    (Document.copyUpdate ((grid.get? source).getD {}) source target)
  rw [canonical] at reevaluated
  refine ⟨fun id here => ?_, fun id elsewhere => ?_⟩
  · subst here
    have kept := reevaluated.rel_kept id
    rw [get?_update, if_pos rfl] at kept
    rcases Cell.Kept.exists_of_rel kept with ⟨copy, found, kept⟩
    exact ⟨copy, found, (Cell.isCopy_apply _ _ _ _).kept kept⟩
  · have kept := reevaluated.rel_kept id
    rwa [get?_update, if_neg (Ne.symm elsewhere)] at kept

end Grid

/-! ## Documents -/

namespace Document

variable {document : Document} {source target : String}

/-- Whether a fill from a cell writes to an identifier of its range. -/
def Fillable (source id : String) : Prop :=
  (Address.parse? id).isSome ∧ canonicalId id ≠ canonicalId source

instance (source id : String) : Decidable (Fillable source id) :=
  inferInstanceAs (Decidable (_ ∧ _))

theorem fillTargets_eq (source : String) (ids : List String) :
    fillTargets source ids = (ids.filter (Fillable source ·)).map canonicalId := by
  rw [fillTargets, List.filter_map, List.filter_filter]
  congr 2
  funext id
  simp [Fillable, and_comm]

theorem length_fillTargets (source : String) (ids : List String) :
    (fillTargets source ids).length = ids.countP (Fillable source ·) := by
  rw [fillTargets_eq, List.length_map, List.countP_eq_length_filter]

theorem mem_fillTargets {ids : List String} :
    target ∈ fillTargets source ids ↔ ∃ id ∈ ids, Fillable source id ∧ canonicalId id = target := by
  rw [fillTargets_eq]
  simp only [List.mem_map, List.mem_filter, decide_eq_true_eq, and_assoc]

theorem fillTargets_ne_nil_iff {ids : List String} :
    fillTargets source ids ≠ [] ↔ ∃ id ∈ ids, Fillable source id := by
  rw [fillTargets_eq, ne_eq, List.map_eq_nil_iff, List.filter_eq_nil_iff]
  simp only [decide_eq_true_eq, not_forall, not_not, exists_prop]

theorem filledFrom_copy (document : Document) (mode : RecalculationMode) (now : Instant)
    (source : String) (canonical : canonicalId target = target) :
    document.data.FilledFrom (canonicalId source) (· = target)
      (document.copy mode now source target).data := by
  have filled := document.data.filledFrom_edit_copyUpdate mode (canonicalId source) target canonical
  rw [copy, canonical]
  exact filled

theorem filledFrom_foldl_copy (document : Document) (mode : RecalculationMode) (now : Instant)
    (source : String) {targets : List String}
    (canonical : ∀ target ∈ targets, canonicalId target = target)
    (spared : canonicalId source ∉ targets) :
    document.data.FilledFrom (canonicalId source) (· ∈ targets)
      (targets.foldl (fun document target => document.copy mode now source target)
        document).data := by
  induction targets generalizing document with
  | nil =>
    simp only [List.not_mem_nil, List.foldl_nil]
    exact .refl _ document.data
  | cons target targets ih =>
    rcases List.forall_mem_cons.mp canonical with ⟨here, rest⟩
    rcases not_or.mp (mt List.mem_cons.mpr spared) with ⟨different, others⟩
    have first := document.filledFrom_copy mode now source here
    have next := ih (document.copy mode now source target) rest others
    simp only [List.mem_cons, List.foldl_cons]
    exact first.trans next different

/-- Copying changes no part of a document but its cells and the time of the
last change. -/
theorem foldl_copy_eq (document : Document) (mode : RecalculationMode) (now : Instant)
    (source : String) (targets : List String) :
    targets.foldl (fun document target => document.copy mode now source target) document =
      { document with
        data := (targets.foldl (fun document target => document.copy mode now source target)
          document).data
        lastModified := if targets = [] then document.lastModified else some now } := by
  induction targets generalizing document with
  | nil => rfl
  | cons target targets ih =>
    have stamped : (document.copy mode now source target).lastModified = some now := rfl
    rw [List.foldl_cons, if_neg (List.cons_ne_nil _ _)]
    refine (ih (document.copy mode now source target)).trans ?_
    rw [stamped, ite_self]
    rfl

end Document
end Worksheet
