import Mathlib.Data.List.Basic
import Worksheet.Recalculation.Schedule

namespace Worksheet

/-!
The layout of a grid is all that evaluation leaves alone: which cells there
are, and the formula, the type and the format of each.  Writing a value keeps
the layout, and two grids of one layout are equal as soon as their values
are.
-/

/-- A cell with its value taken out. -/
def Cell.withoutValue (cell : Cell) : Cell :=
  { cell with value := none }

namespace Grid

/-- The formula of a cell, if it has one. -/
def formula? (grid : Grid) (id : String) : Option String :=
  (grid.get? id).bind (·.activeFormula?)

/-- Whether a grid has a cell under an identifier. -/
def Holds (grid : Grid) (id : String) : Prop :=
  (grid.get? id).isSome

theorem value?_of_not_holds {grid : Grid} {id : String} (missing : ¬grid.Holds id) :
    grid.value? id = none := by
  rw [value?, Option.not_isSome_iff_eq_none.mp missing, Option.bind_none]

theorem isFormula_of_formula? {grid : Grid} {id formula : String}
    (found : grid.formula? id = some formula) : isFormula formula = true := by
  rcases Option.bind_eq_some_iff.mp found with ⟨cell, _, active⟩
  exact (Option.filter_eq_some_iff.mp active).2

theorem mem_formulas {grid : Grid} {id formula : String} :
    (id, formula) ∈ grid.formulas ↔ grid.formula? id = some formula := by
  rw [formulas, List.mem_filterMap, formula?, Option.bind_eq_some_iff]
  constructor
  · rintro ⟨⟨other, cell⟩, listed, active⟩
    rcases Option.map_eq_some_iff.mp active with ⟨_, found, same⟩
    cases same
    exact ⟨cell, Std.ExtTreeMap.mem_toList_iff_getElem?_eq_some.mp listed, found⟩
  · rintro ⟨cell, found, active⟩
    refine ⟨(id, cell), Std.ExtTreeMap.mem_toList_iff_getElem?_eq_some.mpr found, ?_⟩
    exact Option.map_eq_some_iff.mpr ⟨formula, active, rfl⟩

theorem mem_map_fst_formulas {grid : Grid} {id : String} :
    id ∈ grid.formulas.map Prod.fst ↔ (grid.formula? id).isSome := by
  rw [List.mem_map, Option.isSome_iff_exists]
  constructor
  · rintro ⟨⟨other, formula⟩, listed, rfl⟩
    exact ⟨formula, mem_formulas.mp listed⟩
  · rintro ⟨formula, found⟩
    exact ⟨(id, formula), mem_formulas.mpr found, rfl⟩

theorem nodup_map_fst_formulas (grid : Grid) : (grid.formulas.map Prod.fst).Nodup := by
  have keys : (grid.toList.map Prod.fst).Nodup := by
    rw [toList, Std.ExtTreeMap.map_fst_toList_eq_keys]
    exact Std.ExtTreeMap.nodup_keys
  have part : (grid.formulas.map Prod.fst).Sublist (grid.toList.map Prod.fst) := by
    unfold formulas
    induction grid.toList with
    | nil => exact List.Sublist.slnil
    | cons entry rest ih =>
      rcases entry with ⟨id, cell⟩
      cases active : cell.activeFormula? with
      | none =>
        simpa only [List.filterMap_cons, List.map_cons, active, Option.map_none] using ih.cons id
      | some formula =>
        simpa only [List.filterMap_cons, List.map_cons, active, Option.map_some] using
          ih.cons_cons id
  exact keys.sublist part

/-! ## Layouts -/

/-- Whether two grids have the same cells, each with the same formula, type
and format. -/
def SameLayout (first second : Grid) : Prop :=
  ∀ id, (first.get? id).map Cell.withoutValue = (second.get? id).map Cell.withoutValue

namespace SameLayout

variable {first second third : Grid}

theorem refl (grid : Grid) : SameLayout grid grid :=
  fun _ => rfl

theorem symm (same : SameLayout first second) : SameLayout second first :=
  fun id => (same id).symm

theorem trans (same : SameLayout first second) (next : SameLayout second third) :
    SameLayout first third :=
  fun id => (same id).trans (next id)

theorem isSome_get? (same : SameLayout first second) (id : String) :
    (first.get? id).isSome = (second.get? id).isSome := by
  have mapped := congrArg Option.isSome (same id)
  simpa only [Option.isSome_map] using mapped

theorem formula?_eq (same : SameLayout first second) (id : String) :
    first.formula? id = second.formula? id := by
  have through (grid : Grid) :
      grid.formula? id = ((grid.get? id).map Cell.withoutValue).bind (·.activeFormula?) := by
    unfold formula?
    cases grid.get? id <;> rfl
  rw [through first, through second, same id]

/-- The value is all that a layout leaves open. -/
theorem eq_of_value? (same : SameLayout first second)
    (values : ∀ id, first.value? id = second.value? id) : first = second := by
  apply ext_get?
  intro id
  have layout := same id
  have value := values id
  unfold value? at value
  cases left : first.get? id with
  | none =>
    rw [left, Option.map_none] at layout
    exact (Option.map_eq_none_iff.mp layout.symm).symm
  | some cell =>
    rw [left, Option.map_some] at layout
    rcases Option.map_eq_some_iff.mp layout.symm with ⟨other, right, parts⟩
    rw [left, right] at value
    rw [right]
    cases cell
    cases other
    simp only [Cell.withoutValue, Cell.mk.injEq] at parts
    simp only [Option.bind_some] at value
    simp [value, parts]

end SameLayout

theorem holds_congr {first second : Grid} (layout : SameLayout first second) :
    first.Holds = second.Holds :=
  funext fun id => congrArg (· = true) (layout.isSome_get? id)

/-! ## Writing values -/

theorem sameLayout_setValue (grid : Grid) (id value : String) :
    SameLayout (grid.setValue id value) grid := by
  intro other
  rw [get?_setValue]
  split
  · cases grid.get? other <;> rfl
  · rfl

theorem get?_setValue_of_ne (grid : Grid) {id other : String} (value : String)
    (different : id ≠ other) : (grid.setValue id value).get? other = grid.get? other := by
  rw [get?_setValue, if_neg different]

theorem value?_setValue_self {grid : Grid} {id : String} (value : String)
    (present : (grid.get? id).isSome) : (grid.setValue id value).value? id = some value := by
  rcases Option.isSome_iff_exists.mp present with ⟨cell, found⟩
  rw [value?, get?_setValue, if_pos rfl, found]
  rfl

theorem isSome_get?_of_formula? {grid : Grid} {id formula : String}
    (found : grid.formula? id = some formula) : (grid.get? id).isSome := by
  rcases Option.bind_eq_some_iff.mp found with ⟨cell, present, _⟩
  exact Option.isSome_iff_exists.mpr ⟨cell, present⟩

theorem value?_eq_of_get? {first second : Grid} {id : String}
    (same : first.get? id = second.get? id) : first.value? id = second.value? id := by
  rw [value?, value?, same]

theorem evaluateCell_eq {grid : Grid} {id formula : String}
    (found : grid.formula? id = some formula) :
    grid.evaluateCell id = grid.setValue id (Formula.evaluate formula grid.value?) := by
  have evaluated : grid.evaluated? id = some (Formula.evaluate formula grid.value?) := by
    rw [evaluated?, ← formula?, found, Option.map_some]
  rw [evaluateCell, evaluated]

end Grid
end Worksheet
