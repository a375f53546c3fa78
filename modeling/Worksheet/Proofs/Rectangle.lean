import Worksheet.Proofs.Reference.Shift
import Worksheet.Range

namespace Worksheet

/-!
Rectangles as lists of addresses.  Every cell between the corners is listed
once, column by column.  A rectangle whose corners are moved together has the
same number of cells in the same order, each of them moved; that its columns
have longer names after the move makes no difference.
-/

/-- Whether one address stands before another column by column. -/
def Address.Before (first second : Address) : Prop :=
  first.column < second.column ∨ first.column = second.column ∧ first.row < second.row

namespace Range

/-- The addresses of a rectangle, column by column. -/
def addresses (first last : Address) : List Address :=
  (List.range' first.column (last.column - first.column + 1)).flatMap fun column =>
    (List.range' first.row (last.row - first.row + 1)).map fun row => ⟨column, row⟩

variable {first last address : Address} {columns rows : Int}

theorem columnIds_eq_map (column firstRow rows : Nat) :
    columnIds column firstRow rows =
      (List.range' firstRow rows).map fun row => (Address.mk column row).id :=
  rfl

theorem cells_rectangle (first last : Address) :
    (rectangle first last).cells =
      if last.column < first.column ∨ last.row < first.row then .ok []
      else if maxRangeCells < (last.column - first.column + 1) * (last.row - first.row + 1) then
        .error ⟨first, last, (last.column - first.column + 1) * (last.row - first.row + 1)⟩
      else .ok ((addresses first last).map Address.id) := by
  rw [cells, addresses, List.map_flatMap]
  simp only [columnIds_eq_map, List.map_map]
  rfl

theorem mem_addresses (columnsOrdered : first.column ≤ last.column)
    (rowsOrdered : first.row ≤ last.row) :
    address ∈ addresses first last ↔
      (first.column ≤ address.column ∧ address.column ≤ last.column) ∧
        first.row ≤ address.row ∧ address.row ≤ last.row := by
  simp only [addresses, List.mem_flatMap, List.mem_map, List.mem_range'_1]
  constructor
  · rintro ⟨column, columnBounds, row, rowBounds, rfl⟩
    simp only
    omega
  · rintro ⟨columnBounds, rowBounds⟩
    exact ⟨address.column, by omega, address.row, by omega, rfl⟩

theorem length_addresses (first last : Address) :
    (addresses first last).length =
      (last.column - first.column + 1) * (last.row - first.row + 1) := by
  simp [addresses, List.length_flatMap]

/-- The addresses of a rectangle are listed in strictly increasing order, by
column and then by row. -/
theorem pairwise_before_addresses (first last : Address) :
    (addresses first last).Pairwise Address.Before := by
  rw [addresses, List.pairwise_flatMap]
  constructor
  · intro column _
    rw [List.pairwise_map]
    exact (List.pairwise_lt_range' _).imp fun lower => .inr ⟨rfl, lower⟩
  · refine (List.pairwise_lt_range' _).imp fun lower address member later laterMember => ?_
    rcases List.mem_map.mp member with ⟨row, _, rfl⟩
    rcases List.mem_map.mp laterMember with ⟨laterRow, _, rfl⟩
    exact .inl lower

/-! ## Moved rectangles -/

theorem range'_shiftIndex {start count : Nat} {distance : Int}
    (bounds : ∀ index ∈ List.range' start count,
      0 < index + distance ∧ index + distance ≤ lastIndex) :
    List.range' (Address.shiftIndex start distance) count =
      (List.range' start count).map (Address.shiftIndex · distance) := by
  rw [List.range'_eq_map_range, List.range'_eq_map_range, List.map_map]
  refine List.map_congr_left fun place member => ?_
  have early := List.mem_range.mp member
  have firstBounds := bounds start (List.mem_range'_1.mpr ⟨le_rfl, by omega⟩)
  have ownBounds := bounds (start + place) (List.mem_range'_1.mpr ⟨by omega, by omega⟩)
  have firstMoved := Address.coe_shiftIndex firstBounds
  have ownMoved := Address.coe_shiftIndex ownBounds
  rw [Function.comp_apply]
  omega

theorem movable_of_mem_addresses (movableFirst : first.Movable columns rows)
    (movableLast : last.Movable columns rows)
    (columnsOrdered : first.column ≤ last.column) (rowsOrdered : first.row ≤ last.row)
    (member : address ∈ addresses first last) : address.Movable columns rows := by
  rcases (mem_addresses columnsOrdered rowsOrdered).mp member with ⟨columnBounds, rowBounds⟩
  have firstColumn := movableFirst.column
  have firstRow := movableFirst.row
  have lastColumn := movableLast.column
  have lastRow := movableLast.row
  exact ⟨by omega, by omega⟩

theorem onSheet_of_mem_addresses (onSheetFirst : first.OnSheet) (onSheetLast : last.OnSheet)
    (columnsOrdered : first.column ≤ last.column) (rowsOrdered : first.row ≤ last.row)
    (member : address ∈ addresses first last) : address.OnSheet := by
  rcases (mem_addresses columnsOrdered rowsOrdered).mp member with ⟨columnBounds, rowBounds⟩
  have firstColumn := onSheetFirst.column.1
  have firstRow := onSheetFirst.row.1
  have lastColumn := onSheetLast.column.2
  have lastRow := onSheetLast.row.2
  exact ⟨⟨by omega, by omega⟩, by omega, by omega⟩

/-- The addresses of a moved rectangle are the moved addresses, in the same
order. -/
theorem addresses_shift (movableFirst : first.Movable columns rows)
    (movableLast : last.Movable columns rows)
    (columnsOrdered : first.column ≤ last.column) (rowsOrdered : first.row ≤ last.row) :
    addresses (first.shift columns rows) (last.shift columns rows) =
      (addresses first last).map (·.shift columns rows) := by
  have firstColumn := movableFirst.coe_column
  have firstRow := movableFirst.coe_row
  have lastColumn := movableLast.coe_column
  have lastRow := movableLast.coe_row
  have sameColumns : (last.shift columns rows).column - (first.shift columns rows).column + 1 =
      last.column - first.column + 1 := by omega
  have sameRows : (last.shift columns rows).row - (first.shift columns rows).row + 1 =
      last.row - first.row + 1 := by omega
  have columnIndices : List.range' (first.shift columns rows).column
      (last.column - first.column + 1) =
        (List.range' first.column (last.column - first.column + 1)).map
          (Address.shiftIndex · columns) := by
    refine range'_shiftIndex fun index member => ?_
    rcases List.mem_range'_1.mp member with ⟨_, _⟩
    have firstBounds := movableFirst.column
    have lastBounds := movableLast.column
    omega
  have rowIndices : List.range' (first.shift columns rows).row (last.row - first.row + 1) =
      (List.range' first.row (last.row - first.row + 1)).map (Address.shiftIndex · rows) := by
    refine range'_shiftIndex fun index member => ?_
    rcases List.mem_range'_1.mp member with ⟨_, _⟩
    have firstBounds := movableFirst.row
    have lastBounds := movableLast.row
    omega
  simp only [addresses, sameColumns, sameRows, columnIndices, rowIndices, List.flatMap_map,
    List.map_flatMap, List.map_map]
  rfl

end Range
end Worksheet
