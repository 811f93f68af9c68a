/-
Points in time and their text.

A moment is written as its date and its time of day with a `T` between them; fractions
of a second are written when there are any, and so is the offset from universal time,
whose seconds and their fractions are written when there are any.
-/
import ContractDrift.Text.Search

namespace ContractDrift.Drift

/-- By how much a clock is ahead of universal time. -/
structure Offset where
  microseconds : Int
  deriving Repr, DecidableEq, Inhabited

/-- An offset of whole seconds. -/
def Offset.ofSeconds (n : Int) : Offset := ⟨n * 1000000⟩

/-- A number stands for the offset of as many seconds. -/
instance : Coe Int Offset := ⟨Offset.ofSeconds⟩

instance (n : Nat) : OfNat Offset n := ⟨Offset.ofSeconds n⟩

/-- A point in time by calendar and clock. -/
structure Moment where
  year : Nat
  month : Nat
  day : Nat
  hour : Nat
  minute : Nat
  second : Nat
  microsecond : Nat
  /-- By how much the clock is ahead of universal time, if that is known. -/
  offset : Option Offset
  deriving Repr, DecidableEq, Inhabited

/-- The year, month and day that lie a number of days after the first of January 1970.

The days are counted from the first of March of the year 0 on, so that a leap day is the
last day of its year. -/
def calendar (days : Nat) : Nat × Nat × Nat :=
  let n := days + 719468
  let inEra := n % 146097
  let yearOfEra := (inEra - inEra / 1460 + inEra / 36524 - inEra / 146096) / 365
  let inYear := inEra - (365 * yearOfEra + yearOfEra / 4 - yearOfEra / 100)
  let fromMarch := (5 * inYear + 2) / 153
  let month := if fromMarch < 10 then fromMarch + 3 else fromMarch - 9
  let year := n / 146097 * 400 + yearOfEra + (if month ≤ 2 then 1 else 0)
  (year, month, inYear - (153 * fromMarch + 2) / 5 + 1)

/-- The moment of universal time that lies a number of microseconds after the start of the
year 1970. -/
def Moment.ofMicroseconds (n : Nat) : Moment :=
  let seconds := n / 1000000
  let (year, month, day) := calendar (seconds / 86400)
  ⟨year, month, day, seconds / 3600 % 24, seconds / 60 % 60, seconds % 60, n % 1000000, some 0⟩

/-- A number in decimal digits, with zeros in front up to a width. -/
def padded (width n : Nat) : String :=
  let digits := toString n
  Text.repeated "0" (width - digits.length) ++ digits

/-- The text of a fraction of a second, given in microseconds. -/
def fractionText (microseconds : Nat) : String :=
  if microseconds = 0 then "" else "." ++ padded 6 microseconds

/-- The text of an offset. -/
def Offset.text (o : Offset) : String :=
  let n := o.microseconds.natAbs
  let seconds := n / 1000000
  (if o.microseconds < 0 then "-" else "+") ++ padded 2 (seconds / 3600) ++ ":" ++
    padded 2 (seconds / 60 % 60) ++
    (if n % 60000000 = 0 then ""
      else ":" ++ padded 2 (seconds % 60) ++ fractionText (n % 1000000))

/-- The text of a moment. -/
def Moment.text (m : Moment) : String :=
  padded 4 m.year ++ "-" ++ padded 2 m.month ++ "-" ++ padded 2 m.day ++ "T" ++
    padded 2 m.hour ++ ":" ++ padded 2 m.minute ++ ":" ++ padded 2 m.second ++
    fractionText m.microsecond ++ ((m.offset.map Offset.text).getD "")

/-- The time of a moment as a log shows it, in thousandths of a second. -/
def Moment.logText (m : Moment) : String :=
  padded 4 m.year ++ "-" ++ padded 2 m.month ++ "-" ++ padded 2 m.day ++ " " ++
    padded 2 m.hour ++ ":" ++ padded 2 m.minute ++ ":" ++ padded 2 m.second ++ "," ++
    padded 3 (m.microsecond / 1000)

/-- Leap days of a year that four divides, and of one that four hundred divides. -/
example : calendar 789 = (1972, 2, 29) ∧ calendar 11016 = (2000, 2, 29) ∧
    calendar 0 = (1970, 1, 1) := by decide

/-- An offset behind universal time by a fraction of a minute. -/
example : Offset.text ⟨-3600000001⟩ = "-01:00:00.000001" := by decide +kernel

end ContractDrift.Drift
