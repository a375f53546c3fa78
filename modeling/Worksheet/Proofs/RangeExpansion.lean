import Worksheet.Proofs.Range
import Worksheet.Proofs.Rectangle

namespace Worksheet
namespace Range

/-!
The expansion of two corners.  Once both are read, the number of cells alone
decides between a list and an error, and it is far from the end of a machine
word.  The list has the identifier of every cell between the corners, each once
and column by column; distinctness and order are those of the addresses, since
an address is read back from its identifier.
-/

open Reference (dropDollars)

variable {raw start finish : List Char} {more : List (List Char)} {first last : Address}

/-- Two corners are read from the first two parts between colons. -/
theorem ofText_of_read_corners (noComma : ',' ∉ dropDollars raw)
    (parts : Text.split ':' (dropDollars raw) = start :: finish :: more)
    (isFirst : Address.parse? (String.ofList (Text.trim start)) = some first)
    (isLast : Address.parse? (String.ofList (Text.trim finish)) = some last) :
    ofText raw = .rectangle first last := by
  have contained : (dropDollars raw).contains ',' = false := by
    rwa [← Bool.not_eq_true, List.contains_iff_mem]
  have something : String.ofList (Text.trim finish) ≠ "" := by
    intro empty
    rw [empty] at isLast
    cases isLast
  unfold ofText
  simp only [contained, Bool.false_eq_true, if_false, parts, List.map_cons, List.headD_cons,
    List.drop_succ_cons, List.drop_zero, something, isFirst, isLast]

/-- The number of cells between two corners on the sheet fits into sixty-four
bits. -/
theorem cells_lt (onSheetFirst : first.OnSheet) (onSheetLast : last.OnSheet) :
    (last.column - first.column + 1) * (last.row - first.row + 1) < UInt64.size := by
  have columns : last.column - first.column + 1 ≤ lastIndex := by
    have firstBounds := onSheetFirst.column
    have lastBounds := onSheetLast.column
    unfold IsIndex at firstBounds lastBounds
    omega
  have rows : last.row - first.row + 1 ≤ lastIndex := by
    have firstBounds := onSheetFirst.row
    have lastBounds := onSheetLast.row
    unfold IsIndex at firstBounds lastBounds
    omega
  calc
    (last.column - first.column + 1) * (last.row - first.row + 1) ≤ lastIndex * lastIndex :=
      Nat.mul_le_mul columns rows
    _ < UInt64.size := by decide

theorem mem_map_id {address : Address} {listed : List Address} :
    address.id ∈ listed.map Address.id ↔ address ∈ listed := by
  refine ⟨fun member => ?_, List.mem_map_of_mem⟩
  rcases List.mem_map.mp member with ⟨other, otherListed, same⟩
  rwa [← Reference.id_inj.mp same]

theorem nodup_map_id_addresses (first last : Address) :
    ((addresses first last).map Address.id).Nodup := by
  rw [List.Nodup, List.pairwise_map]
  refine (pairwise_before_addresses first last).imp fun {address other} before same => ?_
  rw [Reference.id_inj.mp same] at before
  rcases before with lower | ⟨_, lower⟩
  · exact Nat.lt_irrefl _ lower
  · exact Nat.lt_irrefl _ lower

/-- Two corners in the wrong order cover nothing, too many cells are an error
with their number, and otherwise the range is exactly the rectangle between the
corners. -/
theorem expand_eq_rectangle (noComma : ',' ∉ dropDollars raw)
    (parts : Text.split ':' (dropDollars raw) = start :: finish :: more)
    (isFirst : Address.parse? (String.ofList (Text.trim start)) = some first)
    (isLast : Address.parse? (String.ofList (Text.trim finish)) = some last) :
    (last.column < first.column ∨ last.row < first.row → expand raw = .ok []) ∧
    (first.column ≤ last.column → first.row ≤ last.row →
      let cells := (last.column - first.column + 1) * (last.row - first.row + 1)
      cells < UInt64.size ∧
      (maxRangeCells < cells → expand raw = .error ⟨first, last, cells⟩) ∧
      (cells ≤ maxRangeCells → ∃ ids, expand raw = .ok ids ∧ ids.length = cells ∧ ids.Nodup ∧
        (∃ addresses : List Address, ids.map Address.parse? = addresses.map some ∧
          addresses.Pairwise Address.Before) ∧
        ∀ address : Address, address.id ∈ ids ↔
          (first.column ≤ address.column ∧ address.column ≤ last.column) ∧
            first.row ≤ address.row ∧ address.row ≤ last.row)) := by
  have onSheetFirst := Reference.onSheet_of_parse? isFirst
  have onSheetLast := Reference.onSheet_of_parse? isLast
  rw [expand, ofText_of_read_corners noComma parts isFirst isLast, cells_rectangle]
  refine ⟨fun reversed => if_pos reversed, fun columnsOrdered rowsOrdered => ?_⟩
  have ordered : ¬(last.column < first.column ∨ last.row < first.row) := by omega
  rw [if_neg ordered]
  refine ⟨cells_lt onSheetFirst onSheetLast, fun large => if_pos large, fun small => ?_⟩
  refine ⟨(addresses first last).map Address.id, if_neg (Nat.not_lt.mpr small), ?_,
    nodup_map_id_addresses first last,
    ⟨addresses first last, ?_, pairwise_before_addresses first last⟩, fun address => ?_⟩
  · rw [List.length_map, length_addresses]
  · rw [List.map_map]
    exact List.map_congr_left fun address member => Reference.parse?_id
      (onSheet_of_mem_addresses onSheetFirst onSheetLast columnsOrdered rowsOrdered member)
  · rw [mem_map_id, mem_addresses columnsOrdered rowsOrdered]

theorem expand_eq_rectangle_past_last_letter :
    let raw := "$y1 : aB$2 :Q".toList
    ',' ∉ dropDollars raw ∧
      Text.split ':' (dropDollars raw) = ["y1 ".toList, " aB2 ".toList, "Q".toList] ∧
      Address.parse? (String.ofList (Text.trim "y1 ".toList)) = some ⟨25, 1⟩ ∧
      Address.parse? (String.ofList (Text.trim " aB2 ".toList)) = some ⟨28, 2⟩ ∧
      ∃ ids, expand raw = .ok ids ∧ ids.length = 8 ∧ ids.Nodup ∧
        (Address.mk 27 2).id ∈ ids ∧ (Address.mk 29 1).id ∉ ids := by
  intro raw
  have noComma : ',' ∉ dropDollars raw := by decide +kernel
  have parts : Text.split ':' (dropDollars raw) =
      ["y1 ".toList, " aB2 ".toList, "Q".toList] := by decide +kernel
  have isFirst : Address.parse? (String.ofList (Text.trim "y1 ".toList)) = some ⟨25, 1⟩ := by
    decide +kernel
  have isLast : Address.parse? (String.ofList (Text.trim " aB2 ".toList)) = some ⟨28, 2⟩ := by
    decide +kernel
  rcases (expand_eq_rectangle noComma parts isFirst isLast).2 (by decide) (by decide) with
    ⟨_, _, listed⟩
  rcases listed (by decide) with ⟨ids, expanded, length, nodup, _, members⟩
  exact ⟨noComma, parts, isFirst, isLast, ids, expanded, length, nodup,
    (members _).mpr (by decide), mt (members _).mp (by decide)⟩

end Range
end Worksheet
