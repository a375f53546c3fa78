import Std.Data.ExtTreeMap
import Worksheet.Cell.Basic

namespace Worksheet

/-!
Grids: the cells of a sheet by identifier.  Only cells that were ever written
are kept, in the order of their identifiers, and two grids are equal when
they hold the same cells.
-/

/-- The cells of a sheet. -/
@[ext] structure Grid where
  cells : Std.ExtTreeMap String Cell

namespace Grid

/-- A grid without cells. -/
def empty : Grid := ⟨∅⟩

instance : Inhabited Grid := ⟨empty⟩

/-- The cell with an identifier. -/
def get? (grid : Grid) (id : String) : Option Cell :=
  grid.cells[id]?

/-- The value of a cell; nothing if the cell or its value is missing. -/
def value? (grid : Grid) (id : String) : Option String :=
  (grid.get? id).bind (·.value)

/-- A grid with a cell put in place of what was there. -/
def insert (grid : Grid) (id : String) (cell : Cell) : Grid :=
  ⟨grid.cells.insert id cell⟩

/-- The grid of a list of cells; of two with one identifier the later
counts. -/
def ofList (cells : List (String × Cell)) : Grid :=
  cells.foldl (fun grid (id, cell) => grid.insert id cell) empty

/-- The cells of a grid in the order of their identifiers. -/
def toList (grid : Grid) : List (String × Cell) :=
  grid.cells.toList

/-- A grid with an update merged into a cell, which is made if it is
missing. -/
def update (grid : Grid) (id : String) (update : CellUpdate) : Grid :=
  grid.insert id (((grid.get? id).getD {}).apply update)

/-- A grid with a new value in a cell; nothing changes if the cell is
missing. -/
def setValue (grid : Grid) (id : String) (value : String) : Grid :=
  match grid.get? id with
  | some cell => grid.insert id { cell with value := some value }
  | none => grid

/-- The formulas of a grid with the identifiers of their cells, in order. -/
def formulas (grid : Grid) : List (String × String) :=
  grid.toList.filterMap fun (id, cell) => cell.activeFormula?.map (id, ·)

@[simp] theorem get?_empty (id : String) : empty.get? id = none := by
  simp [empty, get?]

theorem get?_insert (grid : Grid) (id other : String) (cell : Cell) :
    (grid.insert id cell).get? other = if id = other then some cell else grid.get? other := by
  simp [insert, get?, Std.ExtTreeMap.getElem?_insert]

/-- Grids that hold the same cells are equal. -/
theorem ext_get? {first second : Grid} (same : ∀ id, first.get? id = second.get? id) :
    first = second := by
  apply Grid.ext
  exact Std.ExtTreeMap.ext_getElem? same

theorem get?_update (grid : Grid) (id other : String) (change : CellUpdate) :
    (grid.update id change).get? other =
      if id = other then some (((grid.get? id).getD {}).apply change) else grid.get? other := by
  simp [update, get?_insert]

theorem get?_setValue (grid : Grid) (id other value : String) :
    (grid.setValue id value).get? other =
      if id = other then (grid.get? other).map ({ · with value := some value })
      else grid.get? other := by
  unfold setValue
  split
  · next cell found =>
    rw [get?_insert]
    split
    · next same => subst same; simp [found]
    · rfl
  · next missing =>
    split
    · next same => subst same; simp [missing]
    · rfl

end Grid
end Worksheet
