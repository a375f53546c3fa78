import Worksheet.Proofs.Recalculation.Incremental

namespace Worksheet
namespace Grid

/-!
Sheets that are typed in.  Texts are typed into cells one after the other, each
followed in full mode.  The outcome has the inputs of the sheet on which the
same texts are merely written, and that sheet does not depend on the order as
long as each cell is written once.
-/

/-- A grid into which texts were typed one after the other, each edit followed
in full mode. -/
def typeIn (grid : Grid) (entries : List (String × String)) : Grid :=
  entries.foldl (fun grid entry => grid.edit .full entry.1 (.input entry.2)) grid

/-- A grid on which texts were written without evaluation. -/
def write (grid : Grid) (entries : List (String × String)) : Grid :=
  entries.foldl (fun grid entry => grid.update (canonicalId entry.1) (.input entry.2)) grid

/-- Whether the entries of a sheet name pairwise different cells. -/
def DistinctCells (entries : List (String × String)) : Prop :=
  (entries.map fun entry => canonicalId entry.1).Nodup

instance (entries : List (String × String)) : Decidable (DistinctCells entries) :=
  inferInstanceAs (Decidable (List.Nodup _))

/-- Whether a cell is named by an entry. -/
def Typed (entries : List (String × String)) (id : String) : Prop :=
  ∃ entry ∈ entries, canonicalId entry.1 = id

variable {grid first second : Grid} {entries other : List (String × String)} {id text : String}

/-! ## Typing and writing -/

theorem typeIn_cons (grid : Grid) (entry : String × String) (entries : List (String × String)) :
    grid.typeIn (entry :: entries) =
      (grid.edit .full entry.1 (.input entry.2)).typeIn entries :=
  rfl

theorem typeIn_append (grid : Grid) (entries later : List (String × String)) :
    grid.typeIn (entries ++ later) = (grid.typeIn entries).typeIn later :=
  List.foldl_append

theorem write_cons (grid : Grid) (entry : String × String) (entries : List (String × String)) :
    grid.write (entry :: entries) =
      (grid.update (canonicalId entry.1) (.input entry.2)).write entries :=
  rfl

theorem settled_typeIn (settled : grid.Settled) (entries : List (String × String)) :
    (grid.typeIn entries).Settled := by
  induction entries generalizing grid with
  | nil => exact settled
  | cons entry entries ih => exact ih (settled_edit settled entry.1 (.input entry.2))

theorem withoutValue_apply_input (cell : Cell) (text : String) :
    (cell.apply (.input text)).withoutValue =
      (cell.withoutValue.apply (.input text)).withoutValue :=
  rfl

theorem present_eq_some (nonempty : text ≠ "") : Cell.present text = some text := by
  have filled : ¬text.isEmpty = true := mt String.isEmpty_iff.mp nonempty
  rw [Cell.present, if_neg filled]

theorem value?_update_input (grid : Grid) (id text : String) :
    (grid.update id (.input text)).value? id = Cell.present text := by
  rw [value?, get?_update, if_pos rfl]
  rfl

theorem value?_update_of_ne {change : CellUpdate} {read : String} (different : id ≠ read) :
    (grid.update id change).value? read = grid.value? read := by
  rw [value?, value?, get?_update, if_neg different]

/-- Grids with the same inputs still have them when the same text is written
into a cell of both. -/
theorem sameInputs_update_input (same : SameInputs first second) (id text : String) :
    SameInputs (first.update id (.input text)) (second.update id (.input text)) where
  layout := by
    intro read
    rw [get?_update, get?_update]
    by_cases here : id = read
    · have before : ((first.get? id).getD {}).withoutValue =
          ((second.get? id).getD {}).withoutValue := by
        have layout := same.layout id
        cases left : first.get? id with
        | none =>
          rw [left, Option.map_none] at layout
          rw [Option.map_eq_none_iff.mp layout.symm]
        | some cell =>
          rw [left, Option.map_some] at layout
          rcases Option.map_eq_some_iff.mp layout.symm with ⟨cell', right, parts⟩
          rw [right]
          exact parts.symm
      rw [if_pos here, if_pos here, Option.map_some, Option.map_some, withoutValue_apply_input,
        before, ← withoutValue_apply_input]
    · rw [if_neg here, if_neg here]
      exact same.layout read
  values := by
    intro read plain
    by_cases here : id = read
    · rw [← here, value?_update_input, value?_update_input]
    · rw [formula?_update_of_ne here] at plain
      rw [value?_update_of_ne here, value?_update_of_ne here]
      exact same.values read plain

theorem sameInputs_typeIn (same : SameInputs first second) (entries : List (String × String)) :
    SameInputs (first.typeIn entries) (second.write entries) := by
  induction entries generalizing first second with
  | nil => exact same
  | cons entry entries ih =>
    exact ih ((sameInputs_edit first entry.1 (.input entry.2)).trans
      (sameInputs_update_input same _ _))

/-! ## What stands on a written sheet -/

theorem formula?_update_input {formula : String}
    (found : (grid.update id (.input text)).formula? id = some formula) : text = formula := by
  rw [formula?, get?_update, if_pos rfl, Option.bind_some, Cell.activeFormula?,
    Option.filter_eq_some_iff] at found
  rcases found with ⟨stored, starts⟩
  by_cases kind : isFormula text = true
  · simp only [Cell.apply, CellUpdate.input, kind, if_true, Cell.present] at stored
    split at stored
    · cases stored
    · exact Option.some.inj stored
  · simp [Cell.apply, CellUpdate.input, kind, Cell.present] at stored

theorem formula?_write {formula : String} (found : (grid.write entries).formula? id = some formula) :
    grid.formula? id = some formula ∨ ∃ entry ∈ entries, entry.2 = formula := by
  induction entries generalizing grid with
  | nil => exact .inl found
  | cons entry entries ih =>
    rw [write_cons] at found
    rcases ih found with before | ⟨later, member, typed⟩
    · by_cases here : canonicalId entry.1 = id
      · rw [here] at before
        exact .inr ⟨entry, List.mem_cons_self, formula?_update_input before⟩
      · rw [formula?_update_of_ne here] at before
        exact .inl before
    · exact .inr ⟨later, List.mem_cons_of_mem _ member, typed⟩

theorem holds_write (holds : (grid.write entries).Holds id) :
    grid.Holds id ∨ Typed entries id := by
  induction entries generalizing grid with
  | nil => exact .inl holds
  | cons entry entries ih =>
    rw [write_cons] at holds
    rcases ih holds with before | ⟨later, member, typed⟩
    · by_cases here : canonicalId entry.1 = id
      · exact .inr ⟨entry, List.mem_cons_self, here⟩
      · rw [Holds, get?_update, if_neg here] at before
        exact .inl before
    · exact .inr ⟨later, List.mem_cons_of_mem _ member, typed⟩

theorem not_holds_empty (id : String) : ¬empty.Holds id := by
  rw [Holds, get?_empty]
  exact Bool.false_ne_true

/-- A sheet whose formulas are covered on its cells. -/
theorem formulasCovered_write
    (covered : ∀ entry ∈ entries, isFormula entry.2 = true →
      Formula.CoveredOn (Typed entries) entry.2) :
    (empty.write entries).FormulasCovered := by
  intro id formula found
  rcases formula?_write found with before | ⟨entry, member, rfl⟩
  · rw [formula?_empty] at before
    cases before
  · refine (covered entry member (isFormula_of_formula? found)).mono fun read holds => ?_
    rcases holds_write holds with before | typed
    · exact absurd before (not_holds_empty read)
    · exact typed

/-! ## The order of entries -/

theorem update_comm {change change' : CellUpdate} {id' : String} (different : id ≠ id') :
    (grid.update id change).update id' change' = (grid.update id' change').update id change := by
  apply ext_get?
  intro read
  simp only [get?_update]
  by_cases here : id = read
  · rw [if_pos here, if_neg (here ▸ different.symm), if_pos here, if_neg different.symm]
  · rw [if_neg here, if_neg here, if_neg different]

theorem write_perm (distinct : DistinctCells entries) (permuted : entries.Perm other) :
    grid.write entries = grid.write other := by
  refine permuted.foldl_eq' (fun entry member later member' between => ?_) grid
  by_cases same : canonicalId entry.1 = canonicalId later.1
  · rw [List.inj_on_of_nodup_map distinct member member' same]
  · exact update_comm same

/-- A sheet that is typed in is the full recalculation of the sheet that is
written, if its formulas are covered on its cells. -/
theorem typeIn_eq_recalculate
    (covered : ∀ entry ∈ entries, isFormula entry.2 = true →
      Formula.CoveredOn (Typed entries) entry.2) :
    empty.typeIn entries = (empty.write entries).recalculate .full := by
  have inputs := sameInputs_typeIn (SameInputs.refl empty) entries
  exact (settled_typeIn settled_empty entries).eq (settled_recalculate _)
    (inputs.trans (sameInputs_recalculate _).symm)
    (inputs.symm.formulasCovered (formulasCovered_write covered))

theorem typed_perm (permuted : entries.Perm other) : Typed entries = Typed other := by
  funext id
  simp only [Typed, permuted.mem_iff]

/-- The order in which a sheet is typed does not matter if its formulas are
covered on its cells. -/
theorem typeIn_perm (distinct : DistinctCells entries) (permuted : entries.Perm other)
    (covered : ∀ entry ∈ entries, isFormula entry.2 = true →
      Formula.CoveredOn (Typed entries) entry.2) :
    empty.typeIn entries = empty.typeIn other := by
  have coveredOther : ∀ entry ∈ other, isFormula entry.2 = true →
      Formula.CoveredOn (Typed other) entry.2 := by
    intro entry member starts
    rw [← typed_perm permuted]
    exact covered entry (permuted.mem_iff.mpr member) starts
  rw [typeIn_eq_recalculate covered, typeIn_eq_recalculate coveredOther,
    write_perm distinct permuted]

end Grid
end Worksheet
