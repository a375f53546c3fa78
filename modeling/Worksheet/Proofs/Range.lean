import Worksheet.Proofs.Text.Cutting
import Worksheet.Range

namespace Worksheet
namespace Range

/-!
The forms of a range text in terms of its own parts.  Dollar signs do not
separate, so they can be dropped from the parts instead of the whole text.
-/

open Reference (dropDollars)

variable {raw first second rest : List Char} {c : Char}

theorem mem_dropDollars (different : c ≠ '$') : c ∈ dropDollars raw ↔ c ∈ raw := by
  rw [dropDollars, List.mem_filter, decide_eq_true different, and_iff_left rfl]

theorem dropDollars_append (first second : List Char) :
    dropDollars (first ++ second) = dropDollars first ++ dropDollars second :=
  List.filter_append _ _

theorem dropDollars_cons_of_ne (different : c ≠ '$') (rest : List Char) :
    dropDollars (c :: rest) = c :: dropDollars rest :=
  List.filter_cons_of_pos (decide_eq_true different)

theorem dropDollars_of_not_mem (absent : '$' ∉ raw) : dropDollars raw = raw :=
  List.filter_eq_self.mpr fun _ member => decide_eq_true fun same => absent (same ▸ member)

theorem dropDollars_map {change : Char → Char} (keeps : ∀ c, change c = '$' ↔ c = '$')
    (raw : List Char) : dropDollars (raw.map change) = (dropDollars raw).map change := by
  have same : (fun c => decide (c ≠ '$')) ∘ change = fun c => decide (c ≠ '$') :=
    Text.decide_ne_mark_map keeps
  rw [dropDollars, List.filter_map, same, dropDollars]

theorem split_dropDollars {separator : Char} (different : separator ≠ '$') (text : List Char) :
    Text.split separator (dropDollars text) = (Text.split separator text).map dropDollars := by
  induction shape : Text.split separator text generalizing text with
  | nil => exact absurd shape (Text.split_ne_nil separator text)
  | cons first pieces ih =>
    rcases Text.split_cases separator text with ⟨absent, whole⟩ | ⟨piece, rest, rfl, absent, cut⟩
    · rw [whole] at shape
      cases shape
      exact Text.split_of_not_mem fun member => absent ((mem_dropDollars different).mp member)
    · rw [cut] at shape
      cases shape
      rw [dropDollars_append, dropDollars_cons_of_ne different, Text.split_append_cons
        fun member => absent ((mem_dropDollars different).mp member), ih rest rfl, List.map_cons]

/-- The identifier that a part of a range text names. -/
def partId (part : List Char) : String :=
  String.ofList (Text.trim (dropDollars part))

theorem ofText_of_comma (comma : ',' ∈ raw) :
    ofText raw = .list ((Text.split ',' raw).map partId) := by
  have contained : (dropDollars raw).contains ',' = true :=
    List.contains_iff_mem.mpr ((mem_dropDollars (by decide)).mpr comma)
  have mark : ',' ≠ '$' := by decide
  unfold ofText
  simp only [contained, if_true, split_dropDollars mark, List.map_map]
  rfl

theorem ofText_of_no_comma (noComma : ',' ∉ raw) :
    ofText raw =
      let parts := (Text.split ':' raw).map partId
      let first := parts.headD ""
      let last := (parts.drop 1).headD ""
      if last = "" then .single first
      else match Address.parse? first, Address.parse? last with
        | some first, some last => .rectangle first last
        | _, _ => .malformed (String.ofList (dropDollars raw)) := by
  have contained : ¬(dropDollars raw).contains ',' = true := by
    rw [List.contains_iff_mem, mem_dropDollars (by decide)]
    exact noComma
  have mark : ':' ≠ '$' := by decide
  unfold ofText
  simp only [contained, split_dropDollars mark, List.map_map]
  rfl

theorem ofText_of_no_colon (noComma : ',' ∉ raw) (noColon : ':' ∉ raw) :
    ofText raw = .single (partId raw) := by
  rw [ofText_of_no_comma noComma, Text.split_of_not_mem noColon]
  rfl

variable {more : List (List Char)}

/-- A colon with nothing behind it does not count. -/
theorem ofText_of_blank_corner (noComma : ',' ∉ first ++ ':' :: rest) (noColon : ':' ∉ first)
    (parts : Text.split ':' rest = second :: more) (nothing : partId second = "") :
    ofText (first ++ ':' :: rest) = .single (partId first) := by
  rw [ofText_of_no_comma noComma, Text.split_append_cons noColon, parts]
  simp [nothing]

theorem ofText_of_corners (noComma : ',' ∉ first ++ ':' :: rest) (noColon : ':' ∉ first)
    (parts : Text.split ':' rest = second :: more) (something : partId second ≠ "") :
    ofText (first ++ ':' :: rest) =
      match Address.parse? (partId first), Address.parse? (partId second) with
      | some first, some last => .rectangle first last
      | _, _ => .malformed (String.ofList (dropDollars (first ++ ':' :: rest))) := by
  rw [ofText_of_no_comma noComma, Text.split_append_cons noColon, parts]
  simp [something]

end Range
end Worksheet
