import Mathlib.Data.Set.Finite.Lemmas
import Mathlib.Order.WithBot
import Worksheet.Number
import Worksheet.Proofs.Decimal.Literal

namespace Worksheet
namespace Number

/-!
Numbers that texts begin with.  A text counts as the number of the longest
literal that it begins with after its blanks, whatever follows, and as none if
it does not begin with a literal.  What the scanner hands on is always a
literal, and it goes on as far as any literal does.
-/

open Binary64
open Decimal hiding Literal
open Text (trimStart)

variable {text literal rest : List Char} {negative : Bool} {value : WithTop ℚ} {number : ℚ}
variable {exponent : Int}

/-! ## Literals -/

/-- A numeric literal, whether it has a minus, and its value without the sign. -/
inductive Literal : List Char → Bool → WithTop ℚ → Prop
  | infinity {sign : List Char} {negative : Bool} (isSign : Sign sign negative) :
    Literal (sign ++ infinityText) negative ⊤
  | decimal {text : List Char} {negative : Bool} {number : ℚ}
      (literal : Decimal.Literal text negative number) : Literal text negative number

def IsLiteral (text : List Char) : Prop :=
  ∃ negative value, Literal text negative value

/-- Whether a literal is the longest one that a text begins with. -/
structure IsLongest (text literal : List Char) : Prop where
  begins : literal <+: text
  isLiteral : IsLiteral literal
  longest : ∀ other, other <+: text → IsLiteral other → other.length ≤ literal.length

/-- A text that begins with a literal begins with a longest one. -/
theorem exists_isLongest (isLiteral : IsLiteral literal) (begins : literal <+: text) :
    ∃ longest, IsLongest text longest := by
  have finite : {other | other <+: text ∧ IsLiteral other}.Finite :=
    text.inits.finite_toSet.subset fun other found => (List.mem_inits other text).mpr found.1
  rcases Set.exists_max_image _ List.length finite ⟨literal, begins, isLiteral⟩ with
    ⟨longest, ⟨longestBegins, longestLiteral⟩, greatest⟩
  exact ⟨longest, longestBegins, longestLiteral, fun other found is => greatest other ⟨found, is⟩⟩

/-- The magnitude that the value of a literal is rounded to. -/
inductive Rounds : WithTop ℚ → Nat → Prop
  | infinity : Rounds ⊤ infinity
  | nearest {number : ℚ} {magnitude : Nat} (isNearest : IsNearest number magnitude) :
    Rounds number magnitude

/-! ## What the scanner takes -/

theorem unsigned_infinity (rest : List Char) :
    ∀ c ∈ (infinityText ++ rest).head?, c ≠ '+' ∧ c ≠ '-' := by
  rintro c ⟨⟩
  decide

theorem cutFraction_cases (text : List Char) :
    (∃ later, text = '.' :: later ∧ cutFraction text =
      ('.' :: later.takeWhile Char.isDigit, later.dropWhile Char.isDigit)) ∨
    cutFraction text = ([], text) := by
  unfold cutFraction
  split
  · exact .inl ⟨_, rfl, rfl⟩
  · exact .inr rfl

/-- The scanner takes a mantissa as soon as there is a digit in it. -/
theorem cutMantissa_parts (text : List Char) : ∃ whole pointed rest,
    cutMantissa text = (whole, pointed, rest) ∧ text = whole ++ (pointed ++ rest) ∧
      (whole ++ pointed.drop 1 ≠ [] → ∃ number, Mantissa (whole ++ pointed) number) := by
  have split : text = text.takeWhile Char.isDigit ++ text.dropWhile Char.isDigit :=
    List.takeWhile_append_dropWhile.symm
  have decimalWhole : ∀ c ∈ text.takeWhile Char.isDigit, c.isDigit :=
    fun _ => List.mem_takeWhile_imp
  rcases cutFraction_cases (text.dropWhile Char.isDigit) with ⟨later, after, cut⟩ | cut
  · have decimalFraction : ∀ c ∈ later.takeWhile Char.isDigit, c.isDigit :=
      fun _ => List.mem_takeWhile_imp
    refine ⟨_, _, _, congrArg (Prod.mk _) cut, ?_, fun nonempty => ?_⟩
    · rw [List.cons_append, List.takeWhile_append_dropWhile, ← after]
      exact split
    · exact ⟨_, .pointed decimalWhole decimalFraction nonempty⟩
  · refine ⟨_, _, _, congrArg (Prod.mk _) cut, split, fun nonempty => ?_⟩
    rw [List.drop_nil, List.append_nil] at nonempty
    rw [List.append_nil]
    exact ⟨_, .whole decimalWhole nonempty⟩

/-- The scanner goes on as far as any mantissa does. -/
theorem cutMantissa_longest {mantissa : List Char} (isMantissa : Mantissa mantissa number)
    (rest : List Char) : ∃ whole pointed after,
    cutMantissa (mantissa ++ rest) = (whole, pointed, after) ∧ mantissa <+: whole ++ pointed ∧
      whole ++ pointed.drop 1 ≠ [] := by
  cases isMantissa with
  | whole decimal nonempty =>
    refine ⟨_, _, _, rfl, ?_, ?_⟩
    · rw [List.takeWhile_append_of_pos decimal, List.append_assoc]
      exact List.prefix_append _ _
    · rw [List.takeWhile_append_of_pos decimal, List.append_assoc]
      exact List.append_ne_nil_of_left_ne_nil nonempty _
  | @pointed whole fraction decimalWhole decimalFraction nonempty =>
    rw [List.append_assoc, List.cons_append]
    refine ⟨_, _, _, cutMantissa_pointed decimalWhole decimalFraction rest, ?_, ?_⟩
    · rw [← List.cons_append, ← List.append_assoc]
      exact List.prefix_append _ _
    · rw [List.drop_succ_cons, List.drop_zero, ← List.append_assoc]
      exact List.append_ne_nil_of_left_ne_nil nonempty _

theorem cutExponent_parts (text : List Char) : ∃ exponentPart rest exponent,
    cutExponent text = (exponentPart, rest) ∧ text = exponentPart ++ rest ∧
      ExponentPart exponentPart exponent := by
  unfold cutExponent
  split
  · exact ⟨[], [], 0, rfl, rfl, .none⟩
  next marker later =>
  rcases exists_sign later with ⟨sign, unsigned, negative, cut, split, isSign⟩
  simp only [cut]
  split
  · next found =>
    refine ⟨_, _, _, rfl, ?_, .marked found.1 isSign (fun _ => List.mem_takeWhile_imp) found.2⟩
    rw [List.cons_append, List.append_assoc, List.takeWhile_append_dropWhile, split]
  · exact ⟨[], _, 0, rfl, rfl, .none⟩

theorem cutExponent_longest {exponentPart : List Char}
    (isExponent : ExponentPart exponentPart exponent) (rest : List Char) :
    exponentPart <+: (cutExponent (exponentPart ++ rest)).1 := by
  cases isExponent with
  | none => exact List.nil_prefix
  | @marked marker sign digits _ isMarker isSign decimal nonempty =>
    have unsigned : ∀ c ∈ (digits ++ rest).head?, c ≠ '+' ∧ c ≠ '-' := by
      rw [List.head?_append_of_ne_nil _ nonempty]
      exact fun c first => ne_sign_of_isDigit (decimal c (List.mem_of_mem_head? first))
    have some : digits ++ rest.takeWhile Char.isDigit ≠ [] :=
      List.append_ne_nil_of_left_ne_nil nonempty _
    rw [List.cons_append, List.append_assoc, cutExponent, isSign.cutSign_append unsigned]
    simp only [List.takeWhile_append_of_pos decimal, isMarker, some, ne_eq, not_false_eq_true,
      and_self, if_true]
    rw [← List.append_assoc, ← List.cons_append]
    exact List.prefix_append _ _

theorem cutLiteral?_parts (found : cutLiteral? text = some (literal, rest)) :
    text = literal ++ rest ∧ ∃ negative number, Decimal.Literal literal negative number := by
  rcases exists_sign text with ⟨sign, unsigned, negative, cut, rfl, isSign⟩
  rcases cutMantissa_parts unsigned with ⟨whole, pointed, after, cutUnsigned, rfl, mantissa⟩
  rcases cutExponent_parts after with ⟨exponentPart, later, exponent, cutAfter, rfl, isExponent⟩
  rw [cutLiteral?, cut] at found
  simp only [cutUnsigned, cutAfter] at found
  split at found
  · cases found
  · next nonempty =>
    cases found
    rcases mantissa nonempty with ⟨number, isMantissa⟩
    refine ⟨by simp only [List.append_assoc], negative, number * 10 ^ exponent, ?_⟩
    rw [← List.append_assoc whole]
    exact .parts isSign isMantissa isExponent

theorem cutLiteral?_eq {sign mantissa whole pointed after : List Char}
    (isSign : Sign sign negative) (isMantissa : Mantissa mantissa number)
    (cut : cutMantissa (mantissa ++ rest) = (whole, pointed, after))
    (nonempty : whole ++ pointed.drop 1 ≠ []) :
    cutLiteral? (sign ++ (mantissa ++ rest)) =
      some (sign ++ (whole ++ (pointed ++ (cutExponent after).1)), (cutExponent after).2) := by
  rw [cutLiteral?, isSign.cutSign_append isMantissa.unsigned]
  simp only [cut, nonempty, if_false]

/-- The scanner goes on as far as any decimal literal does.  A mantissa that an
exponent part follows ends before its marker. -/
theorem cutLiteral?_longest (isLiteral : Decimal.Literal literal negative number)
    (rest : List Char) : ∃ longest after,
    cutLiteral? (literal ++ rest) = some (longest, after) ∧ literal <+: longest := by
  rcases isLiteral with @⟨sign, mantissa, exponentPart, _, _, _, isSign, isMantissa, isExponent⟩
  rw [List.append_assoc, List.append_assoc]
  have stops := isExponent.head?
  cases exponentPart with
  | nil =>
    rcases cutMantissa_longest isMantissa rest with ⟨whole, pointed, after, cut, further, nonempty⟩
    refine ⟨_, _, cutLiteral?_eq isSign isMantissa cut nonempty, ?_⟩
    rw [List.append_nil, ← List.append_assoc whole]
    exact (List.prefix_append_right_inj sign).mpr (further.trans (List.prefix_append _ _))
  | cons marker later =>
    have ends : ∀ c ∈ (marker :: later ++ rest).head?, c.isDigit = false ∧ c ≠ '.' := stops
    rcases isMantissa.cutMantissa_append ends with ⟨whole, pointed, rfl, cut, nonempty, _⟩
    refine ⟨_, _, cutLiteral?_eq isSign isMantissa cut nonempty, ?_⟩
    rw [← List.append_assoc whole]
    refine (List.prefix_append_right_inj sign).mpr ((List.prefix_append_right_inj _).mpr ?_)
    exact cutExponent_longest isExponent rest

/-- What the scanner takes is the longest literal, unless infinity stands there. -/
theorem isLongest_of_scanned (scanned : cutLiteral? text = some (literal, rest))
    (finite : infinityText.isPrefixOf (cutSign text).2 = false) : IsLongest text literal := by
  rcases cutLiteral?_parts scanned with ⟨split, negative, number, isLiteral⟩
  refine ⟨⟨rest, split.symm⟩, ⟨negative, number, .decimal isLiteral⟩, ?_⟩
  rintro other ⟨later, rfl⟩ ⟨otherNegative, otherValue, isOther⟩
  cases isOther with
  | infinity isSign =>
    rw [List.append_assoc, isSign.cutSign_append (unsigned_infinity later)] at finite
    exact absurd (List.isPrefixOf_iff_prefix.mpr (List.prefix_append _ _))
      (Bool.eq_false_iff.mp finite)
  | decimal isDecimal =>
    rcases cutLiteral?_longest isDecimal later with ⟨longest, after, found, further⟩
    cases scanned.symm.trans found
    exact further.length_le

/-! ## Reading -/

/-- What is read is a literal after the blanks. -/
theorem read?_parts {result : Float × List Char} (found : read? text = some result) :
    ∃ literal, trimStart text = literal ++ result.2 ∧ IsLiteral literal := by
  rcases exists_sign (trimStart text) with ⟨sign, unsigned, negative, cut, parts, isSign⟩
  rw [read?] at found
  simp only [cut] at found
  split at found
  · next infinite =>
    rcases List.isPrefixOf_iff_prefix.mp infinite with ⟨after, rfl⟩
    cases found
    refine ⟨sign ++ infinityText, ?_, negative, ⊤, .infinity isSign⟩
    rw [parts, List.drop_left, List.append_assoc]
  · rcases Option.bind_eq_some_iff.mp found with ⟨⟨literal, rest⟩, scanned, reads⟩
    rcases Option.bind_eq_some_iff.mp reads with ⟨_, _, given⟩
    cases given
    rcases cutLiteral?_parts scanned with ⟨split, negative, number, isLiteral⟩
    exact ⟨literal, split, negative, number, .decimal isLiteral⟩

theorem isLiteral_of_read? {result : Float × List Char} (found : read? text = some result) :
    ∃ literal, literal <+: trimStart text ∧ IsLiteral literal := by
  rcases read?_parts found with ⟨literal, parts, isLiteral⟩
  exact ⟨literal, ⟨_, parts.symm⟩, isLiteral⟩

/-- After its sign a decimal literal begins with a digit or a point. -/
theorem not_infinity_of_decimal (isLiteral : Decimal.Literal literal negative number)
    (rest : List Char) : infinityText.isPrefixOf (cutSign (literal ++ rest)).2 = false := by
  rcases isLiteral with ⟨isSign, isMantissa, _⟩
  rw [List.append_assoc, List.append_assoc, isSign.cutSign_append isMantissa.unsigned]
  refine Bool.eq_false_iff.mpr fun infinite => ?_
  rcases List.isPrefixOf_iff_prefix.mp infinite with ⟨after, same⟩
  have first : 'I' ∈ (_ ++ _ : List Char).head? := congrArg List.head? same.symm
  rcases isMantissa.first 'I' first with digit | point
  · cases digit
  · cases point

/-- The longest literal that a text begins with is read, and what follows it is
left. -/
theorem read?_of_isLongest (isLongest : IsLongest (trimStart text) literal)
    (isLiteral : Literal literal negative value) : ∃ magnitude, Rounds value magnitude ∧
      read? text = some (ofMagnitude negative magnitude, (trimStart text).drop literal.length) := by
  rcases isLongest.begins with ⟨rest, parts⟩
  rw [read?, ← parts, List.drop_left]
  cases isLiteral with
  | @infinity sign _ isSign =>
    refine ⟨infinity, .infinity, ?_⟩
    rw [List.append_assoc, isSign.cutSign_append (unsigned_infinity rest)]
    simp only [List.isPrefixOf_iff_prefix.mpr (List.prefix_append _ _), if_true, isSign.eq_minus,
      List.drop_left]
  | @decimal _ _ number isDecimal =>
    rcases cutLiteral?_longest isDecimal rest with ⟨longest, after, scanned, further⟩
    rcases cutLiteral?_parts scanned with ⟨split, longestNegative, longestNumber, isLonger⟩
    have same : literal = longest := further.eq_of_length_le
      (isLongest.longest longest ⟨after, split.symm.trans parts⟩ ⟨_, _, .decimal isLonger⟩)
    subst same
    rcases isDecimal.ofLiteral?_eq with ⟨decimal, reads, rfl⟩
    have finite := not_infinity_of_decimal isDecimal rest
    cases List.append_cancel_left split
    refine ⟨decimal.magnitude, .nearest (isNearest_magnitude decimal), ?_⟩
    simp only [finite, Bool.false_eq_true, if_false, scanned, reads, Option.bind_eq_bind,
      Option.bind_some]
    rfl

/-! ## The number of a text -/

theorem Rounds.unique {first second : Nat} (rounds : Rounds value first)
    (other : Rounds value second) : first = second := by
  cases rounds with
  | infinity =>
    cases other with
    | infinity => rfl
  | nearest isNearest =>
    cases other with
    | nearest otherNearest => exact isNearest.unique otherNearest

/-- A text is read exactly if it begins with a literal after its blanks.  Then it
counts as the double nearest to the longest such literal, with the sign of this,
and as no other in another text with the same longest literal. -/
theorem parse?_longest_literal (text : String) :
    (parse? text = none ↔ ∀ literal, literal <+: trimStart text.toList → ¬IsLiteral literal) ∧
    ∀ literal, IsLongest (trimStart text.toList) literal →
      (∀ negative value, Literal literal negative value → ∃ magnitude, Rounds value magnitude ∧
        parse? text = some (ofMagnitude negative magnitude)) ∧
      ∀ other : String, IsLongest (trimStart other.toList) literal →
        parse? other = parse? text := by
  have reads {text : String} {literal : List Char} {negative : Bool} {value : WithTop ℚ}
      (isLongest : IsLongest (trimStart text.toList) literal)
      (isLiteral : Literal literal negative value) : ∃ magnitude, Rounds value magnitude ∧
        parse? text = some (ofMagnitude negative magnitude) := by
    rcases read?_of_isLongest isLongest isLiteral with ⟨magnitude, rounds, read⟩
    exact ⟨magnitude, rounds, by rw [parse?, read, Option.map_some]⟩
  refine ⟨⟨fun none literal begins isLiteral => ?_, fun none => ?_⟩, fun literal isLongest =>
    ⟨fun negative value => reads isLongest, fun other same => ?_⟩⟩
  · rcases exists_isLongest isLiteral begins with ⟨longest, isLongest⟩
    rcases isLongest.isLiteral with ⟨negative, value, longestLiteral⟩
    rcases reads isLongest longestLiteral with ⟨magnitude, _, found⟩
    rw [none] at found
    cases found
  · rw [parse?, Option.map_eq_none_iff, Option.eq_none_iff_forall_ne_some]
    intro result found
    rcases isLiteral_of_read? found with ⟨literal, begins, isLiteral⟩
    exact none literal begins isLiteral
  · rcases isLongest.isLiteral with ⟨negative, value, isLiteral⟩
    rcases reads isLongest isLiteral with ⟨magnitude, rounds, found⟩
    rcases reads same isLiteral with ⟨otherMagnitude, otherRounds, otherFound⟩
    rw [found, otherFound, rounds.unique otherRounds]

theorem parse?_longest_literal_before_text :
    IsLongest (trimStart "  -12.5e+3e€".toList) "-12.5e+3".toList ∧
      ∃ magnitude, Rounds (12500 : ℚ) magnitude ∧
        parse? "  -12.5e+3e€" = some (ofMagnitude true magnitude) := by
  have scanned : cutLiteral? (trimStart "  -12.5e+3e€".toList) =
      some ("-12.5e+3".toList, "e€".toList) := by decide +kernel
  have isLongest := isLongest_of_scanned scanned (by decide +kernel)
  have mantissa : Mantissa (['1', '2'] ++ '.' :: ['5'])
      ((12 : Nat) + (5 : Nat) / 10 ^ ['5'].length) :=
    .pointed (List.all_eq_true.mp rfl) (List.all_eq_true.mp rfl) (List.cons_ne_nil _ _)
  have exponentPart : ExponentPart ('e' :: (['+'] ++ ['3'])) (3 : Nat) :=
    .marked (.inl rfl) .plus (List.all_eq_true.mp rfl) (List.cons_ne_nil _ _)
  have isLiteral := Decimal.Literal.parts .minus mantissa exponentPart
  have number :
      ((12 : Nat) + (5 : Nat) / 10 ^ ['5'].length : ℚ) * 10 ^ ((3 : Nat) : Int) = 12500 := by
    norm_num
  rw [number] at isLiteral
  exact ⟨isLongest,
    ((parse?_longest_literal "  -12.5e+3e€").2 _ isLongest).1 true _ (.decimal isLiteral)⟩

end Number
end Worksheet
