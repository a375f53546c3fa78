import Mathlib.Algebra.Group.Nat.Defs
import Mathlib.Data.List.Basic
import Worksheet.Proofs.Reference.Identifier

namespace Worksheet
namespace Numeral

/-!
Numerals of a fixed width.  A number below the power of ten fills exactly its
width, and zeros before a numeral do not count while zeros after it multiply.
-/

variable {number width : Nat} {c : Char}

theorem value_append (first second : List Char) :
    value (first ++ second) = value first * 10 ^ second.length + value second := by
  induction second using List.reverseRecOn with
  | nil => simp [value]
  | append_singleton earlier last ih =>
    rw [← List.append_assoc, value_append_singleton, ih, value_append_singleton,
      List.length_append, List.length_singleton, Nat.pow_succ, Nat.add_mul, Nat.mul_assoc,
      Nat.add_assoc]

theorem value_zeros (count : Nat) : value (List.replicate count '0') = 0 := by
  induction count with
  | zero => rfl
  | succ count ih =>
    rw [List.replicate_succ', value_append_singleton, ih]
    rfl

@[simp] theorem value_padded (width number : Nat) : value (padded width number) = number := by
  rw [padded, value_append, value_zeros, value_ofNat, Nat.zero_mul, Nat.zero_add]

theorem text_inj {first second : Nat} : text first = text second ↔ first = second := by
  refine ⟨fun same => ?_, congrArg text⟩
  have digits := congrArg (value ∘ String.toList) same
  simpa only [Function.comp_apply, text, String.toList_ofList, value_ofNat] using digits

theorem ofNat_of_lt (small : number < 10) : ofNat number = [digit number] := by
  rw [ofNat, if_pos small]

theorem ofNat_of_le (large : 10 ≤ number) :
    ofNat number = ofNat (number / 10) ++ [digit (number % 10)] := by
  rw [ofNat, if_neg (Nat.not_lt.mpr large)]

theorem padded_one (small : number < 10) : padded 1 number = [digit number] := by
  simp only [padded, ofNat_of_lt small, List.length_singleton, Nat.sub_self, List.replicate_zero,
    List.nil_append]

/-- The last digit of a padded numeral is the last digit of the number. -/
theorem padded_succ (positive : 0 < width) (number : Nat) :
    padded (width + 1) number = padded width (number / 10) ++ [digit (number % 10)] := by
  unfold padded
  rcases Nat.lt_or_ge number 10 with small | large
  · have zero : ofNat 0 = ['0'] := ofNat_of_lt (by decide)
    simp only [ofNat_of_lt small, Nat.div_eq_of_lt small, Nat.mod_eq_of_lt small, zero,
      List.length_singleton]
    rw [← List.replicate_succ', Nat.add_sub_cancel, Nat.sub_add_cancel positive]
  · simp only [ofNat_of_le large, List.length_append, List.length_singleton,
      Nat.add_sub_add_right, List.append_assoc]

theorem isDigit_of_mem_padded (member : c ∈ padded width number) : c.isDigit = true := by
  rcases List.mem_append.mp member with zero | digit
  · rw [List.eq_of_mem_replicate zero]
    rfl
  · exact Reference.isDigit_of_mem_ofNat digit

theorem length_ofNat_le (positive : 0 < width) (small : number < 10 ^ width) :
    (ofNat number).length ≤ width := by
  fun_induction ofNat number generalizing width with
  | case1 => exact positive
  | case2 number large ih =>
    have wide : 1 < width := by
      by_contra narrow
      have one : width = 1 := by omega
      rw [one] at small
      omega
    have smaller : number / 10 < 10 ^ (width - 1) := by
      rw [Nat.div_lt_iff_lt_mul (by decide), ← Nat.pow_succ, Nat.succ_eq_add_one,
        Nat.sub_add_cancel positive]
      exact small
    have shorter := ih (by omega) smaller
    rw [List.length_append, List.length_singleton]
    omega

theorem length_padded (positive : 0 < width) (small : number < 10 ^ width) :
    (padded width number).length = width := by
  have short := length_ofNat_le positive small
  rw [padded, List.length_append, List.length_replicate]
  omega

theorem value_eq_zero_iff {digits : List Char} (decimal : ∀ c ∈ digits, c.isDigit) :
    value digits = 0 ↔ ∀ c ∈ digits, c = '0' := by
  induction digits using List.reverseRecOn with
  | nil => exact iff_of_true rfl fun _ member => nomatch member
  | append_singleton earlier last ih =>
    have bounds := Reference.isDigit_iff.mp (decimal last List.mem_concat_self)
    have zero : digitValue last = 0 ↔ last = '0' := by
      rw [← Char.toNat_inj, digitValue]
      change _ ↔ last.toNat = 48
      omega
    have before := ih fun c member => decimal c (List.mem_append_left _ member)
    rw [value_append_singleton, List.forall_mem_append, List.forall_mem_singleton,
      ← before, ← zero]
    omega

end Numeral
end Worksheet
