namespace Worksheet
namespace Numeral

/-!
Decimal numerals of natural numbers.  The written form has no leading zero,
zero itself excepted; reading admits leading zeros.
-/

/-- The character of a digit. -/
def digit (value : Nat) : Char :=
  Char.ofNat (48 + value)

/-- The value of a digit's character. -/
def digitValue (c : Char) : Nat :=
  c.toNat - 48

/-- The numeral of a number. -/
def ofNat (number : Nat) : List Char :=
  if number < 10 then [digit number]
  else ofNat (number / 10) ++ [digit (number % 10)]

/-- The numeral of a number as a text. -/
def text (number : Nat) : String :=
  String.ofList (ofNat number)

/-- The number that a sequence of digits stands for. -/
def value (digits : List Char) : Nat :=
  digits.foldl (fun total c => total * 10 + digitValue c) 0

/-- The numeral of an integer, with a minus sign if it is negative. -/
def ofInt (number : Int) : List Char :=
  if number < 0 then '-' :: ofNat number.natAbs else ofNat number.natAbs

/-- A numeral filled up with zeros on the left. -/
def padded (width number : Nat) : List Char :=
  let digits := ofNat number
  List.replicate (width - digits.length) '0' ++ digits

theorem value_append_singleton (digits : List Char) (c : Char) :
    value (digits ++ [c]) = value digits * 10 + digitValue c := by
  simp [value]

theorem digitValue_digit {number : Nat} (small : number < 10) :
    digitValue (digit number) = number := by
  have cases : ∀ n : Fin 10, digitValue (digit n) = n := by decide
  exact cases ⟨number, small⟩

/-- Reading a written numeral gives its number back. -/
@[simp] theorem value_ofNat (number : Nat) : value (ofNat number) = number := by
  fun_induction ofNat number with
  | case1 number small => simp [value, digitValue_digit small]
  | case2 number large ih =>
    rw [value_append_singleton, ih, digitValue_digit (Nat.mod_lt _ (by decide))]
    omega

end Numeral
end Worksheet
