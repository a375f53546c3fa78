import Worksheet.Reference

namespace Worksheet
namespace Reference

/-!
The characters of references.  Tokens are written in upper-case letters, digits
and dollar signs; a reference admits letters of either case.  None of these
characters is blank, and none is a mark that stands between references.
-/

variable {c : Char}

theorem isUpper_iff : c.isUpper = true ↔ 65 ≤ c.toNat ∧ c.toNat ≤ 90 := by
  change decide (c.val ≥ 65 ∧ c.val ≤ 90) = true ↔ _
  simp [UInt32.le_iff_toNat_le, ← Char.toNat_val]

theorem isLower_iff : c.isLower = true ↔ 97 ≤ c.toNat ∧ c.toNat ≤ 122 := by
  change (decide (c.val ≥ 97) && decide (c.val ≤ 122)) = true ↔ _
  simp [UInt32.le_iff_toNat_le, ← Char.toNat_val]

theorem isDigit_iff : c.isDigit = true ↔ 48 ≤ c.toNat ∧ c.toNat ≤ 57 :=
  Char.isDigit_iff_toNat

theorem eq_dollar_iff : c = '$' ↔ c.toNat = 36 :=
  ⟨fun same => congrArg Char.toNat same, fun same => Char.toNat_inj.mp same⟩

theorem not_isLower_of_isUpper (upper : c.isUpper = true) : c.isLower = false := by
  rw [isUpper_iff] at upper
  rw [Bool.eq_false_iff, ne_eq, isLower_iff]
  omega

theorem not_isUpper_of_isDigit (digit : c.isDigit = true) : c.isUpper = false := by
  rw [isDigit_iff] at digit
  rw [Bool.eq_false_iff, ne_eq, isUpper_iff]
  omega

theorem not_isDigit_of_isUpper (upper : c.isUpper = true) : c.isDigit = false := by
  rw [isUpper_iff] at upper
  rw [Bool.eq_false_iff, ne_eq, isDigit_iff]
  omega

theorem ne_dollar_of_isUpper (upper : c.isUpper = true) : c ≠ '$' := by
  rintro rfl
  cases upper

theorem ne_dollar_of_isDigit (digit : c.isDigit = true) : c ≠ '$' := by
  rintro rfl
  cases digit

theorem isAlpha_of_isUpper (upper : c.isUpper = true) : c.isAlpha = true :=
  Bool.or_eq_true_iff.mpr (.inl upper)

theorem isUpper_of_isAlpha (alpha : c.isAlpha = true) (notLower : c.isLower = false) :
    c.isUpper = true := by
  change (c.isUpper || c.isLower) = true at alpha
  rwa [notLower, Bool.or_false] at alpha

theorem toUpper_eq_self (notLower : c.isLower = false) : c.toUpper = c := by
  rw [Bool.eq_false_iff, ne_eq, isLower_iff] at notLower
  unfold Char.toUpper
  split
  · next lower =>
    have bounds : 97 ≤ c.toNat ∧ c.toNat ≤ 122 := by
      simpa [UInt32.le_iff_toNat_le, ← Char.toNat_val] using lower
    exact absurd bounds notLower
  · rfl

theorem isUpper_toUpper (alpha : c.isAlpha = true) : c.toUpper.isUpper = true := by
  cases lower : c.isLower with
  | false =>
    rw [toUpper_eq_self lower]
    exact isUpper_of_isAlpha alpha lower
  | true =>
    have bounds := isLower_iff.mp lower
    have all : ∀ rank : Fin 26, (Char.ofNat (97 + rank)).toUpper.isUpper = true := by decide
    have here := all ⟨c.toNat - 97, by omega⟩
    rwa [Nat.add_sub_cancel' bounds.1, Char.ofNat_toNat] at here

/-- Raising to upper case makes letters only. -/
theorem toUpper_eq_iff {mark : Char} (notUpper : mark.isUpper = false)
    (notLower : mark.isLower = false) : c.toUpper = mark ↔ c = mark := by
  cases lower : c.isLower with
  | false => rw [toUpper_eq_self lower]
  | true =>
    have raised : c.toUpper.isUpper = true :=
      isUpper_toUpper (Bool.or_eq_true_iff.mpr (.inr lower))
    constructor
    · rintro rfl
      rw [raised] at notUpper
      cases notUpper
    · rintro rfl
      rw [lower] at notLower
      cases notLower

/-- Raising a character changes small ASCII letters only. -/
theorem toUpper_cases (c : Char) : c.toUpper = c ∨ c.isLower = true ∧ c.toUpper.isUpper = true := by
  cases lower : c.isLower with
  | false => exact .inl (toUpper_eq_self lower)
  | true => exact .inr ⟨rfl, isUpper_toUpper (Bool.or_eq_true_iff.mpr (.inr lower))⟩

theorem toUpper_toUpper (c : Char) : c.toUpper.toUpper = c.toUpper := by
  rcases toUpper_cases c with same | ⟨_, upper⟩
  · exact congrArg Char.toUpper same
  · exact toUpper_eq_self (not_isLower_of_isUpper upper)

theorem map_toUpper_map_toUpper (text : List Char) :
    (text.map Char.toUpper).map Char.toUpper = text.map Char.toUpper := by
  rw [List.map_map]
  exact List.map_congr_left fun c _ => toUpper_toUpper c

theorem map_toUpper_eq_self {text : List Char} (upper : ∀ c ∈ text, c.isLower = false) :
    text.map Char.toUpper = text := by
  have same : text.map Char.toUpper = text.map fun c => c :=
    List.map_congr_left fun c member => toUpper_eq_self (upper c member)
  rw [same, List.map_id']

/-- Whether a character may stand in a token. -/
def isTokenChar (c : Char) : Bool :=
  c.isUpper || c.isDigit || c = '$'

/-- Whether a character may stand in a reference: an ASCII letter, a digit or a
dollar sign. -/
def isReferenceChar (c : Char) : Bool :=
  c.isAlphanum || c = '$'

theorem isReferenceChar_iff : isReferenceChar c = true ↔
    c.toNat = 36 ∨ 48 ≤ c.toNat ∧ c.toNat ≤ 57 ∨ 65 ≤ c.toNat ∧ c.toNat ≤ 90 ∨
      97 ≤ c.toNat ∧ c.toNat ≤ 122 := by
  change ((c.isUpper || c.isLower || c.isDigit) || decide (c = '$')) = true ↔ _
  simp only [Bool.or_eq_true, decide_eq_true_eq, isUpper_iff, isLower_iff, isDigit_iff,
    eq_dollar_iff]
  omega

theorem isReferenceChar_of_isTokenChar (token : isTokenChar c = true) :
    isReferenceChar c = true := by
  simp only [isTokenChar, Bool.or_eq_true, decide_eq_true_eq, isUpper_iff, isDigit_iff,
    eq_dollar_iff] at token
  rw [isReferenceChar_iff]
  omega

theorem notLower_of_isTokenChar (token : isTokenChar c = true) : c.isLower = false := by
  simp only [isTokenChar, Bool.or_eq_true, decide_eq_true_eq, isUpper_iff, isDigit_iff,
    eq_dollar_iff] at token
  rw [Bool.eq_false_iff, ne_eq, isLower_iff]
  omega

theorem isBlank_of_isReferenceChar (inside : isReferenceChar c = true) :
    Text.isBlank c = false := by
  rw [isReferenceChar_iff] at inside
  simp only [Text.isBlank, Bool.or_eq_false_iff, Bool.and_eq_false_iff, decide_eq_false_iff_not,
    beq_eq_false_iff_ne]
  omega

theorem isBlank_of_isDigit (digit : c.isDigit = true) : Text.isBlank c = false :=
  isBlank_of_isReferenceChar (isReferenceChar_of_isTokenChar (by simp [isTokenChar, digit]))

theorem isBlank_of_isAlpha (alpha : c.isAlpha = true) : Text.isBlank c = false := by
  apply isBlank_of_isReferenceChar
  have alphanumeric : c.isAlphanum = true := Bool.or_eq_true_iff.mpr (.inl alpha)
  simp [isReferenceChar, alphanumeric]

theorem isBlank_toUpper (c : Char) : Text.isBlank c.toUpper = Text.isBlank c := by
  rcases toUpper_cases c with same | ⟨lower, upper⟩
  · rw [same]
  · have raised := isBlank_of_isAlpha (isAlpha_of_isUpper upper)
    have small := isBlank_of_isAlpha (Bool.or_eq_true_iff.mpr (.inr lower))
    exact raised.trans small.symm

theorem isReferenceChar_of_isBlank (blank : Text.isBlank c = true) :
    isReferenceChar c = false := by
  rw [Bool.eq_false_iff]
  intro inside
  rw [isBlank_of_isReferenceChar inside] at blank
  cases blank

theorem isTokenChar_of_isBlank (blank : Text.isBlank c = true) : isTokenChar c = false := by
  rw [Bool.eq_false_iff]
  intro token
  rw [isBlank_of_isReferenceChar (isReferenceChar_of_isTokenChar token)] at blank
  cases blank

theorem isDigit_of_not_isTokenChar (outside : isTokenChar c = false) : c.isDigit = false := by
  simp only [isTokenChar, Bool.or_eq_false_iff] at outside
  exact outside.1.2

/-- Whether a character belongs to no token and no range of tokens. -/
def Outside (c : Char) : Prop :=
  isTokenChar c = false ∧ c ≠ ':'

theorem outside_of_isBlank (blank : Text.isBlank c = true) : Outside c := by
  refine ⟨isTokenChar_of_isBlank blank, ?_⟩
  rintro rfl
  cases blank

end Reference
end Worksheet
