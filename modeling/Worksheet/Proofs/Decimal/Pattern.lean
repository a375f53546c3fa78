import Mathlib.Tactic.Common
import Worksheet.Proofs.Decimal.Magnitude

namespace Worksheet
namespace Binary64

/-!
Doubles and their patterns.  A double is determined by its pattern, and one that
is finite or infinite by the sign and the magnitude that the pattern holds.  The
patterns beyond infinity are those that are no numbers.
-/

open Float.Model Float.Model.UnpackedFloat

variable {number : Float} {negative : Bool} {magnitude : Nat}
variable {bits : BitVec Format.binary64.numBits}

/-! ## Fields -/

theorem toBitVec_ofBitVec (field : BitVec 1) : (Sign.ofBitVec field).toBitVec = field := by
  rcases BitVec.eq_zero_or_eq_one field with rfl | rfl <;> rfl

theorem toNat_unpackMantissa (bits : BitVec Format.binary64.numBits) :
    (unpackMantissa bits).toNat = bits.toNat % 2 ^ 52 := by
  simp [unpackMantissa]

theorem toNat_unpackExponent (bits : BitVec Format.binary64.numBits) :
    (unpackExponent bits).toNat = bits.toNat / 2 ^ 52 % 2 ^ 11 := by
  simp [unpackExponent, Nat.shiftRight_eq_div_pow]

theorem toNat_infiniteExponent : (-1#11).toNat = 2047 := by
  decide

theorem packComponents_unpack {exponent : BitVec Format.binary64.exponentBits}
    {mantissa : BitVec Format.binary64.mantissaBitsWithoutImplicit}
    (exponentField : unpackExponent bits = exponent)
    (mantissaField : unpackMantissa bits = mantissa) :
    packComponents Format.binary64 (Sign.ofBitVec (unpackSign bits)) exponent mantissa = bits := by
  subst exponentField mantissaField
  have signField : unpackSign bits = (bits.extractLsb 63 63).cast rfl := rfl
  rw [signField]
  simp only [packComponents, toBitVec_ofBitVec, unpackExponent, unpackMantissa, BitVec.extractLsb]
  ext i bounded
  grind

/-! ## Packing -/

theorem exponentBias_binary64 : Format.binary64.exponentBias = 1023 := by
  decide

theorem mantissaBits_binary64 : Format.binary64.mantissaBits = 53 := by
  decide

/-- A finite number whose biased exponent is neither zero nor the infinite one
keeps the exponent, and its leading bit is left out. -/
theorem pack_normal {sign : Sign} {significand : Nat} {exponent : Int} {positive : 0 < significand}
    {field : BitVec 11} (biased : (field.toNat : Int) = exponent + 1075)
    (finite : field.toNat < 2047) (lower : 2 ^ 52 ≤ significand) (upper : significand < 2 ^ 53) :
    UnpackedFloat.pack Format.binary64 (.finite sign significand exponent positive) =
      packComponents Format.binary64 sign field (BitVec.ofNat 52 significand) := by
  have length : significand.log2 + 1 = 53 := by
    have atLeast := (Nat.le_log2 positive.ne').mpr lower
    have less := (Nat.log2_lt positive.ne').mpr upper
    omega
  have stored : (exponent + (1023 : Nat) + (52 : Nat)).toNat = field.toNat := by omega
  unfold UnpackedFloat.pack
  simp only [exponentBias_binary64, mantissaBits_binary64, stored]
  rw [if_neg (by omega), if_pos length]
  congr 1
  exact (BitVec.ofNat_toNat _ _).trans (BitVec.setWidth_eq _)

/-- A number with the least exponent and no leading bit is stored as it is. -/
theorem pack_subnormal {sign : Sign} {significand : Nat} {exponent : Int}
    {positive : 0 < significand} (least : exponent = -1074) (upper : significand < 2 ^ 52) :
    UnpackedFloat.pack Format.binary64 (.finite sign significand exponent positive) =
      packComponents Format.binary64 sign 0#11 (BitVec.ofNat 52 significand) := by
  have short : significand.log2 + 1 ≠ 53 := by
    have less := (Nat.log2_lt positive.ne').mpr upper
    omega
  subst least
  unfold UnpackedFloat.pack
  simp only [exponentBias_binary64, mantissaBits_binary64]
  rw [if_neg (by decide), if_neg short]

/-- What the fields of a pattern are unpacked to: infinity, no number, zero, a
number without the leading bit, or one with it. -/
theorem unpack_cases (bits : BitVec Format.binary64.numBits) :
    let sign := Sign.ofBitVec (unpackSign bits)
    let exponent : Int := (unpackExponent bits).toNat -
      (Format.binary64.exponentBias + (52 : Nat))
    let shape := UnpackedFloat.unpack Format.binary64 bits
    (unpackExponent bits = -1#_ ∧ unpackMantissa bits = 0#_ ∧ shape = .infinity sign) ∨
    (unpackExponent bits = -1#_ ∧ unpackMantissa bits ≠ 0#_ ∧ shape = .notANumber) ∨
    (unpackExponent bits = 0#_ ∧ unpackMantissa bits = 0#_ ∧ shape = .zero sign) ∨
    (unpackExponent bits = 0#_ ∧ ∃ positive,
      shape = .finite sign (unpackMantissa bits).toNat (exponent + 1) positive) ∨
    (unpackExponent bits ≠ -1#_ ∧ unpackExponent bits ≠ 0#_ ∧ ∃ positive,
      shape = .finite sign (1#1 ++ unpackMantissa bits).toNat exponent positive) := by
  unfold UnpackedFloat.unpack
  dsimp only
  by_cases infinite : unpackExponent bits = -1#_
  · rw [if_pos infinite]
    by_cases zero : unpackMantissa bits = 0#_
    · rw [if_pos zero]
      exact .inl ⟨infinite, zero, rfl⟩
    · rw [if_neg zero]
      exact .inr (.inl ⟨infinite, zero, rfl⟩)
  rw [if_neg infinite]
  by_cases first : unpackExponent bits = 0#_
  · rw [if_pos first]
    by_cases zero : unpackMantissa bits = 0#_
    · rw [dif_pos zero]
      exact .inr (.inr (.inl ⟨first, zero, rfl⟩))
    · rw [dif_neg zero]
      exact .inr (.inr (.inr (.inl ⟨first, _, rfl⟩)))
  · rw [if_neg first]
    exact .inr (.inr (.inr (.inr ⟨infinite, first, _, rfl⟩)))

/-- The leading bit that the pattern leaves out. -/
theorem toNat_leadingBit (bits : BitVec Format.binary64.numBits) :
    (1#1 ++ unpackMantissa bits).toNat = 2 ^ 52 + (unpackMantissa bits).toNat := by
  have small : (unpackMantissa bits).toNat < 2 ^ 52 := (unpackMantissa bits).isLt
  rw [BitVec.toNat_append, ← Nat.shiftLeft_add_eq_or_of_lt small]
  rfl

theorem pack_unpack (valid : Format.binary64.Valid bits) :
    UnpackedFloat.pack Format.binary64 (UnpackedFloat.unpack Format.binary64 bits) = bits := by
  have mantissaLt : (unpackMantissa bits).toNat < 2 ^ 52 := (unpackMantissa bits).isLt
  rcases unpack_cases bits with ⟨exponent, mantissa, shape⟩ | ⟨exponent, mantissa, shape⟩ |
    ⟨exponent, mantissa, shape⟩ | ⟨exponent, _, shape⟩ | ⟨finite, _, _, shape⟩
  · rw [shape]
    exact packComponents_unpack exponent mantissa
  · rw [shape]
    exact (valid.eq_packedNaN exponent mantissa).symm
  · rw [shape]
    exact packComponents_unpack exponent mantissa
  · have least : ((unpackExponent bits).toNat : Int) -
        (Format.binary64.exponentBias + (52 : Nat)) + 1 = -1074 := by
      rw [exponent, exponentBias_binary64]
      decide
    rw [shape]
    refine (pack_subnormal least mantissaLt).trans (packComponents_unpack exponent ?_)
    exact ((BitVec.ofNat_toNat _ _).trans (BitVec.setWidth_eq _)).symm
  · have implicit := toNat_leadingBit bits
    have exponentNe : (unpackExponent bits).toNat ≠ 2047 := fun same =>
      finite (BitVec.eq_of_toNat_eq same)
    have exponentLt : (unpackExponent bits).toNat < 2 ^ 11 := (unpackExponent bits).isLt
    have biased : ((unpackExponent bits).toNat : Int) = (unpackExponent bits).toNat -
        (Format.binary64.exponentBias + (52 : Nat)) + 1075 := by
      rw [exponentBias_binary64]
      omega
    rw [shape]
    refine (pack_normal biased (by omega) (by omega) (by omega)).trans
      (packComponents_unpack rfl ?_)
    apply BitVec.eq_of_toNat_eq
    rw [implicit, BitVec.toNat_ofNat]
    exact ((Nat.add_mod_left _ _).trans (Nat.mod_eq_of_lt mantissaLt)).symm

/-! ## Doubles -/

theorem toBits_ofBits {bits : UInt64} (valid : Format.binary64.Valid bits.toBitVec) :
    (Float.ofBits bits).toBits = bits :=
  congrArg UInt64.ofBitVec (pack_unpack valid)

theorem eq_of_toBits_eq {first second : Float} (same : first.toBits = second.toBits) :
    first = second := by
  rcases first with ⟨⟨firstBits, firstValid⟩⟩
  rcases second with ⟨⟨secondBits, secondValid⟩⟩
  change firstBits = secondBits at same
  subst same
  rfl

theorem ofBits_toBits (number : Float) : Float.ofBits number.toBits = number :=
  eq_of_toBits_eq (toBits_ofBits number.toModel.valid)

theorem ofMagnitude_fields (number : Float) :
    ofMagnitude (Nat.pow 2 63 ≤ number.toBits.toNat) (number.toBits.toNat % Nat.pow 2 63) =
      number := by
  have size := number.toBits.toNat_lt
  have code : (if decide (Nat.pow 2 63 ≤ number.toBits.toNat) then
      number.toBits.toNat % Nat.pow 2 63 + Nat.pow 2 63 else number.toBits.toNat % Nat.pow 2 63) =
      number.toBits.toNat := by
    simp only [decide_eq_true_eq, Nat.pow_eq]
    split <;> omega
  rw [ofMagnitude, code, UInt64.ofNat_toNat, ofBits_toBits]

theorem fields_of_finite (finite : kind number = .finite negative magnitude) :
    negative = decide (Nat.pow 2 63 ≤ number.toBits.toNat) ∧
      magnitude = number.toBits.toNat % Nat.pow 2 63 ∧ magnitude < infinity := by
  unfold kind at finite
  simp only at finite
  split at finite
  · next bounded =>
    cases finite
    exact ⟨rfl, rfl, bounded⟩
  · split at finite <;> cases finite

/-- A finite double is given by what it stands for. -/
theorem ofMagnitude_of_finite (finite : kind number = .finite negative magnitude) :
    ofMagnitude negative magnitude = number ∧ magnitude < infinity := by
  rcases fields_of_finite finite with ⟨rfl, rfl, bounded⟩
  exact ⟨ofMagnitude_fields number, bounded⟩

theorem ofMagnitude_of_infinite (infinite : kind number = .infinite negative) :
    ofMagnitude negative infinity = number := by
  unfold kind at infinite
  simp only at infinite
  split at infinite
  · cases infinite
  split at infinite
  · next exact =>
    cases infinite
    rw [← exact]
    exact ofMagnitude_fields number
  · cases infinite

/-- The patterns beyond infinity are those that are no numbers. -/
theorem isNaN_iff : number.isNaN = true ↔ kind number = .notANumber := by
  let bits : BitVec Format.binary64.numBits := number.toBits.toBitVec
  have pattern : infinity = 2047 * 2 ^ 52 := by decide
  have mantissaField : (unpackMantissa bits).toNat = number.toBits.toNat % 2 ^ 52 :=
    toNat_unpackMantissa bits
  have exponentField : (unpackExponent bits).toNat = number.toBits.toNat / 2 ^ 52 % 2 ^ 11 :=
    toNat_unpackExponent bits
  calc
    number.isNaN = true ↔ (unpackExponent bits).toNat = 2047 ∧ (unpackMantissa bits).toNat ≠ 0 := by
      change (UnpackedFloat.unpack Format.binary64 bits).isNaN = true ↔ _
      rw [← toNat_infiniteExponent, ← BitVec.toNat_zero, Ne, BitVec.toNat_inj, BitVec.toNat_inj]
      rcases unpack_cases bits with ⟨_, zero, shape⟩ | ⟨exponent, nonzero, shape⟩ |
        ⟨_, zero, shape⟩ | ⟨first, _, shape⟩ | ⟨finite, _, _, shape⟩
      all_goals rw [shape]
      · exact iff_of_false Bool.false_ne_true fun beyond => beyond.2 zero
      · exact iff_of_true rfl ⟨exponent, nonzero⟩
      · exact iff_of_false Bool.false_ne_true fun beyond => beyond.2 zero
      · refine iff_of_false Bool.false_ne_true fun beyond => ?_
        exact absurd (first.symm.trans beyond.1) (by decide)
      · exact iff_of_false Bool.false_ne_true fun beyond => finite beyond.1
    _ ↔ infinity < number.toBits.toNat % Nat.pow 2 63 := by
      rw [mantissaField, exponentField, Nat.pow_eq]
      omega
    _ ↔ kind number = .notANumber := by
      unfold kind
      grind

/-! ## Numbers -/

/-- The number that a finite double is. -/
def toRat? (number : Float) : Option ℚ :=
  match kind number with
  | .finite negative magnitude =>
    some (if negative then -value magnitude else value magnitude)
  | _ => none

theorem toRat?_eq_some_iff {exact : ℚ} : toRat? number = some exact ↔
    ∃ negative magnitude, kind number = .finite negative magnitude ∧
      exact = if negative then -value magnitude else value magnitude := by
  unfold toRat?
  cases kind number with
  | finite negative magnitude =>
    constructor
    · intro same
      exact ⟨negative, magnitude, rfl, (Option.some.inj same).symm⟩
    · rintro ⟨_, _, ⟨⟩, rfl⟩
      rfl
  | notANumber | infinite =>
    constructor
    · intro same
      cases same
    · rintro ⟨_, _, ⟨⟩, _⟩

theorem abs_signed (negative : Bool) (magnitude : Nat) :
    |if negative then -value magnitude else value magnitude| = value magnitude := by
  have nonneg := value_nonneg magnitude
  cases negative
  · exact abs_of_nonneg nonneg
  · exact (abs_neg _).trans (abs_of_nonneg nonneg)

theorem signed_neg_iff (negative : Bool) (magnitude : Nat) :
    (if negative then -value magnitude else value magnitude) < 0 ↔
      negative = true ∧ magnitude ≠ 0 := by
  have positive : 0 < value magnitude ↔ magnitude ≠ 0 := by
    rw [← value_zero, strictMono_value.lt_iff_lt, Nat.pos_iff_ne_zero]
  cases negative
  · have nonneg := value_nonneg magnitude
    exact ⟨fun less => absurd nonneg (not_le.mpr less), fun none => nomatch none.1⟩
  · exact neg_lt_zero.trans (positive.trans (and_iff_right rfl).symm)

end Binary64
end Worksheet
