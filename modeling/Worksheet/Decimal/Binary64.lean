namespace Worksheet

/-!
Doubles as exact numbers.  The magnitude of a finite double is its bit
pattern without the sign; magnitudes are ordered as the patterns are, and the
pattern after the last finite one stands for infinity.  Rounding a fraction
takes the nearest magnitude, a tie the one with the even pattern.
-/

namespace Binary64

/-- The magnitude pattern of infinity. -/
def infinity : Nat := 2047 * Nat.pow 2 52

/-- What a double stands for. -/
inductive Kind where
  | notANumber
  | infinite (negative : Bool)
  | finite (negative : Bool) (magnitude : Nat)
deriving DecidableEq, Repr

/-- What a double stands for. -/
def kind (number : Float) : Kind :=
  let bits := number.toBits.toNat
  let negative := decide (Nat.pow 2 63 ≤ bits)
  let magnitude := bits % Nat.pow 2 63
  if magnitude < infinity then .finite negative magnitude
  else if magnitude = infinity then .infinite negative
  else .notANumber

/-- The double with a sign and a magnitude pattern. -/
def ofMagnitude (negative : Bool) (magnitude : Nat) : Float :=
  Float.ofBits (UInt64.ofNat (if negative then magnitude + Nat.pow 2 63 else magnitude))

/-- A binary fraction: `significand * 2 ^ exponent`. -/
structure Dyadic where
  significand : Nat
  exponent : Int
deriving DecidableEq, Repr

/-- The exact value of a finite magnitude pattern. -/
def exact (magnitude : Nat) : Dyadic :=
  let field : Nat := magnitude / Nat.pow 2 52
  if field = 0 then ⟨magnitude, -1074⟩
  else ⟨magnitude % Nat.pow 2 52 + Nat.pow 2 52, (field : Int) - 1075⟩

/-- The numerator of a binary fraction over its least power of two. -/
def Dyadic.numerator (value : Dyadic) : Nat :=
  value.significand * Nat.pow 2 value.exponent.toNat

/-- The power of two under a binary fraction. -/
def Dyadic.denominator (value : Dyadic) : Nat :=
  Nat.pow 2 (-value.exponent).toNat

/-- A quotient rounded to the nearest integer, a tie to the even one. -/
def roundToEven (numerator denominator : Nat) : Nat :=
  let quotient := numerator / denominator
  let twice := 2 * (numerator % denominator)
  if twice < denominator then quotient
  else if denominator < twice then quotient + 1
  else quotient + quotient % 2

/-- The exponent of the greatest power of two that is not above a positive
fraction. -/
def floorLog2 (numerator denominator : Nat) : Int :=
  let guess : Int := (numerator.log2 : Int) - denominator.log2
  if denominator * Nat.pow 2 guess.toNat ≤ numerator * Nat.pow 2 (-guess).toNat then guess
  else guess - 1

/-- The magnitude pattern nearest to a fraction. -/
def nearest (numerator denominator : Nat) : Nat :=
  if numerator = 0 then 0
  else
    let exponent := max (floorLog2 numerator denominator - 52) (-1074)
    let significand :=
      roundToEven (numerator * Nat.pow 2 (-exponent).toNat)
        (denominator * Nat.pow 2 exponent.toNat)
    min ((exponent + 1074).toNat * Nat.pow 2 52 + significand) infinity

end Binary64

/-- An unsigned decimal: `significand * 10 ^ exponent`. -/
structure Decimal where
  significand : Nat
  exponent : Int
deriving DecidableEq, Repr

namespace Decimal

/-- The magnitude pattern nearest to a decimal.  A decimal of at least
10^400 is far above every double and one below 10^-400 far below, so powers
beyond these are never formed. -/
def magnitude (decimal : Decimal) : Nat :=
  let ⟨significand, exponent⟩ := decimal
  if significand = 0 then 0
  else if 400 < exponent then Binary64.infinity
  else if exponent + significand.log2 + 1 < -400 then 0
  else Binary64.nearest (significand * Nat.pow 10 exponent.toNat) (Nat.pow 10 (-exponent).toNat)

/-- The double nearest to a decimal with a sign. -/
def toFloat (negative : Bool) (decimal : Decimal) : Float :=
  Binary64.ofMagnitude negative decimal.magnitude

end Decimal
end Worksheet
