import Worksheet.Calendar.Instant
import Worksheet.Proofs.Numeral
import Worksheet.Proofs.Text.Cutting

namespace Worksheet

/-!
Instants that are written and read.  In the years of four digits, and outside
leap seconds, every part of an instant is written with a fixed number of digits
and read back with as many.
-/

namespace CalendarDate

open Numeral (padded)

variable {width number : Nat} {rest : List Char}

theorem head?_padded (positive : 0 < width) (small : number < 10 ^ width) :
    ∃ c later, padded width number = c :: later ∧ c.isDigit = true := by
  have length := Numeral.length_padded positive small
  cases shape : padded width number with
  | nil =>
    rw [shape] at length
    exact absurd length (Nat.ne_of_lt positive)
  | cons c later =>
    have member : c ∈ padded width number := by
      rw [shape]
      exact List.mem_cons_self
    exact ⟨c, later, rfl, Numeral.isDigit_of_mem_padded member⟩

theorem trimStart_padded (positive : 0 < width) (small : number < 10 ^ width) (rest : List Char) :
    Text.trimStart (padded width number ++ rest) = padded width number ++ rest := by
  rcases head?_padded positive small with ⟨c, later, shape, digit⟩
  rw [shape]
  exact List.dropWhile_cons_of_neg
    (by rw [Reference.isBlank_of_isDigit digit]; exact Bool.false_ne_true)

/-- A padded number is read from a field of its width. -/
theorem takeNumber?_padded (positive : 0 < width) (small : number < 10 ^ width)
    (rest : List Char) : takeNumber? width (padded width number ++ rest) = some (number, rest) := by
  have decimal : ∀ c ∈ padded width number, c.isDigit :=
    fun _ member => Numeral.isDigit_of_mem_padded member
  have taken : (padded width number ++ rest).take width = padded width number :=
    List.take_left' (Numeral.length_padded positive small)
  rcases head?_padded positive small with ⟨c, later, shape, _⟩
  have nonempty : padded width number ≠ [] := by rw [shape]; exact List.cons_ne_nil _ _
  simp only [takeNumber?, trimStart_padded positive small, taken,
    List.takeWhile_eq_self_iff.mpr decimal, nonempty, if_false, Numeral.value_padded,
    List.drop_left]

theorem takeYear?_yearChars {year : Int} (bounds : 0 ≤ year ∧ year ≤ 9999) (rest : List Char) :
    takeYear? (yearChars year ++ rest) = some (year, rest) := by
  have small : year.natAbs < 10 ^ 4 := by omega
  have plain : yearChars year = padded 4 year.natAbs := by
    rw [yearChars, if_neg (by omega), if_neg (by omega)]
  have number := takeNumber?_padded (by decide) small rest
  rcases head?_padded (by decide) small with ⟨c, later, shape, digit⟩
  have trimmed := trimStart_padded (by decide) small rest
  rw [plain]
  unfold takeYear?
  rw [trimmed]
  rw [shape] at number ⊢
  split
  · next same =>
    rw [List.cons_append] at same
    rw [(List.cons.inj same).1] at digit
    cases digit
  · next same =>
    rw [List.cons_append] at same
    rw [(List.cons.inj same).1] at digit
    cases digit
  · have whole : (year.natAbs : Int) = year := Int.natAbs_of_nonneg bounds.1
    rw [number]
    exact congrArg (fun year => some (year, rest)) whole

end CalendarDate

/-- Whether an instant lies in the years of four digits and outside leap
seconds. -/
structure Instant.IsRegular (instant : Instant) : Prop where
  valid : instant.date.isValid = true
  year : 0 ≤ instant.date.year ∧ instant.date.year ≤ 9999
  second : instant.second < Instant.secondsPerDay
  nanosecond : instant.nanosecond < Instant.nanosPerSecond

namespace Instant

open CalendarDate (takeMark? takeNumber?_padded)
open Numeral (padded)

variable {nanos second : Nat} {rest : List Char}

theorem fractionNanos_padded {width scale : Nat} (positive : 0 < width) (short : width ≤ 9)
    (small : nanos < 10 ^ width) (scaled : scale = 10 ^ (9 - width)) :
    fractionNanos (padded width nanos) = nanos * scale := by
  have filled : (padded width nanos ++ List.replicate 9 '0').take 9 =
      padded width nanos ++ List.replicate (9 - width) '0' := by
    rw [List.take_append, Numeral.length_padded positive small, List.take_replicate,
      List.take_of_length_le (by rw [Numeral.length_padded positive small]; exact short)]
    rw [Nat.min_eq_left (by omega)]
  rw [fractionNanos, filled, Numeral.value_append, Numeral.value_zeros, Numeral.value_padded,
    List.length_replicate, scaled, Nat.add_zero]

/-- The fraction of a second is written with no digits if it is zero, and else
with digits that stand for it. -/
theorem fractionChars_cases (small : nanos < nanosPerSecond) :
    nanos = 0 ∧ fractionChars nanos = [] ∨
      ∃ width part, fractionChars nanos = '.' :: padded width part ∧ 0 < width ∧
        part < 10 ^ width ∧ fractionNanos (padded width part) = nanos := by
  have limit : nanos < 1000000000 := small
  unfold fractionChars
  split
  · next zero => exact .inl ⟨zero, rfl⟩
  right
  split
  · next millis =>
    have partSmall : nanos / 1000000 < 10 ^ 3 := by omega
    refine ⟨3, nanos / 1000000, rfl, by decide, partSmall, ?_⟩
    rw [fractionNanos_padded (by decide) (by decide) partSmall
      (by decide : 1000000 = 10 ^ (9 - 3))]
    omega
  split
  · next micros =>
    have partSmall : nanos / 1000 < 10 ^ 6 := by omega
    refine ⟨6, nanos / 1000, rfl, by decide, partSmall, ?_⟩
    rw [fractionNanos_padded (by decide) (by decide) partSmall (by decide : 1000 = 10 ^ (9 - 6))]
    omega
  · have partSmall : nanos < 10 ^ 9 := by omega
    refine ⟨9, nanos, rfl, by decide, partSmall, ?_⟩
    rw [fractionNanos_padded (by decide) (by decide) partSmall (by decide : 1 = 10 ^ (9 - 9))]
    omega

/-- The characters of a time of day in universal time. -/
def timeChars (second nanos : Nat) : List Char :=
  padded 2 (second / 3600) ++ ':' :: (padded 2 (second / 60 % 60) ++
    ':' :: (padded 2 (second % 60) ++ (fractionChars nanos ++ ['Z'])))

theorem takeMark?_trimStart (mark : Char) (filled : Text.isBlank mark = false)
    (rest : List Char) : takeMark? mark (Text.trimStart (mark :: rest)) = some rest := by
  have kept : Text.trimStart (mark :: rest) = mark :: rest :=
    List.dropWhile_cons_of_neg (by rw [filled]; exact Bool.false_ne_true)
  rw [kept]
  exact if_pos rfl

theorem takeTime?_timeChars (secondSmall : second < secondsPerDay)
    (small : nanos < nanosPerSecond) :
    takeTime? (timeChars second nanos) = some ((second, nanos), ['Z']) := by
  have limit : second < 86400 := secondSmall
  have hour : second / 3600 < 10 ^ 2 := by omega
  have minute : second / 60 % 60 < 10 ^ 2 := by omega
  have ofMinute : second % 60 < 10 ^ 2 := by omega
  have inRange : ¬(23 < second / 3600 ∨ 59 < second / 60 % 60 ∨ 60 < second % 60) := by omega
  have notLeap : second % 60 ≠ 60 := by omega
  have whole : second / 3600 * 3600 + second / 60 % 60 * 60 + min (second % 60) 59 = second := by
    omega
  unfold takeTime? timeChars
  rw [takeNumber?_padded (by decide) hour]
  simp only [Option.bind_eq_bind, Option.bind_some, takeMark?_trimStart ':' rfl]
  rw [takeNumber?_padded (by decide) minute]
  simp only [Option.bind_some, takeMark?_trimStart ':' rfl]
  rw [takeNumber?_padded (by decide) ofMinute]
  simp only [Option.bind_some]
  rcases fractionChars_cases small with
    ⟨zero, none⟩ | ⟨width, part, shape, positive, partSmall, read⟩
  · rw [none, zero]
    simp only [List.nil_append, if_neg inRange, if_neg notLeap, whole]
    rfl
  · have taken : (padded width part ++ ['Z']).takeWhile Char.isDigit = padded width part := by
      rw [List.takeWhile_append_of_pos fun _ member => Numeral.isDigit_of_mem_padded member]
      exact List.append_nil _
    have nonempty : padded width part ≠ [] := by
      rcases CalendarDate.head?_padded positive partSmall with ⟨c, later, shape, _⟩
      rw [shape]
      exact List.cons_ne_nil _ _
    rw [shape]
    simp only [List.cons_append, taken, if_neg nonempty, read, List.drop_left, if_neg inRange,
      if_neg notLeap, whole, Nat.add_zero]

theorem chars_eq {instant : Instant} (regular : instant.IsRegular) :
    instant.chars = CalendarDate.yearChars instant.date.year ++
      '-' :: (padded 2 instant.date.month ++ '-' :: (padded 2 instant.date.day ++
        'T' :: timeChars instant.second instant.nanosecond)) := by
  have limit : instant.nanosecond < 1000000000 := regular.nanosecond
  have noLeap : instant.nanosecond / nanosPerSecond = 0 := Nat.div_eq_of_lt limit
  have same : instant.nanosecond % nanosPerSecond = instant.nanosecond := Nat.mod_eq_of_lt limit
  rw [chars, CalendarDate.hyphenated, noLeap, same, timeChars]
  simp only [Nat.add_zero, List.append_assoc, List.cons_append]

/-- A regular instant is read back from its text. -/
theorem parse?_chars {instant : Instant} (regular : instant.IsRegular) :
    parse? instant.chars = some instant := by
  have valid := regular.valid
  simp only [CalendarDate.isValid, Bool.and_eq_true, decide_eq_true_eq] at valid
  have days : CalendarDate.daysIn instant.date.year instant.date.month ≤ 31 := by
    unfold CalendarDate.daysIn
    split
    · split <;> decide
    · split <;> decide
  have month : instant.date.month < 10 ^ 2 := by omega
  have day : instant.date.day < 10 ^ 2 := by omega
  have offset : takeOffset? (Text.trimStart ['Z']) = some (0, []) := by decide
  have still : ofLocal instant.date instant.second instant.nanosecond 0 = instant := by
    have inDay : (instant.second : Int) < secondsPerDay := Int.ofNat_lt.mpr regular.second
    simp only [ofLocal, Int.sub_zero, if_neg (Int.not_lt.mpr (Int.natCast_nonneg _)),
      if_neg (Int.not_le.mpr inDay), Int.toNat_natCast]
  rw [chars_eq regular]
  unfold parse?
  rw [CalendarDate.takeYear?_yearChars regular.year]
  simp only [Option.bind_eq_bind, Option.bind_some, takeMark?_trimStart '-' rfl]
  rw [takeNumber?_padded (by decide) month]
  simp only [Option.bind_some, takeMark?_trimStart '-' rfl]
  rw [takeNumber?_padded (by decide) day]
  simp only [Option.bind_some, true_or, if_true]
  rw [takeTime?_timeChars regular.second regular.nanosecond]
  simp only [Option.bind_some, offset, still, Text.trimStart_nil, regular.valid, and_self, if_true]

end Instant
end Worksheet
