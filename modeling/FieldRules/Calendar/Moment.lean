namespace FieldRules

def isLeapYear (year : Int) : Bool :=
  year % 4 == 0 && (year % 100 != 0 || year % 400 == 0)

/-- The days of the months of a year. -/
def monthLengths (year : Int) : List Nat :=
  [31, if isLeapYear year then 29 else 28, 31, 30, 31, 30, 31, 31, 30, 31, 30, 31]

structure Date where
  year : Int
  month : Nat
  day : Nat
deriving DecidableEq

namespace Date

-- The zero of the sums below is core's, whichever instances a wider import brings.
attribute [local instance (high)] Zero.ofOfNat0

/-- The dates of the calendar; years run from -262143 to 262142. -/
def isValid (d : Date) : Bool :=
  -262143 ≤ d.year && d.year ≤ 262142 && 1 ≤ d.month && 1 ≤ d.day &&
    (match (monthLengths d.year)[d.month - 1]? with
      | some length => d.day ≤ length
      | none => false)

/-- The days before the first of January of a year, counted from that of the year 1. -/
def daysBeforeYear (year : Int) : Int :=
  let y := year - 1
  365 * y + y / 4 - y / 100 + y / 400

def dayNumber (d : Date) : Int :=
  daysBeforeYear d.year + ((monthLengths d.year).take (d.month - 1)).sum + d.day

end Date

/-- Seconds, and nanoseconds within the second; a leap second is the second before it with more than
a second's nanoseconds. -/
structure Moment where
  second : Int
  nano : Nat
deriving DecidableEq

namespace Moment

def before (a b : Moment) : Bool :=
  a.second < b.second || (a.second == b.second && a.nano < b.nano)

theorem before_irrefl (a : Moment) : a.before a = false := by simp [before]

theorem before_trans {a b c : Moment} (hab : a.before b = true) (hbc : b.before c = true) :
    a.before c = true := by
  simp only [before, Bool.or_eq_true, Bool.and_eq_true, decide_eq_true_eq, beq_iff_eq] at *
  omega

end Moment

end FieldRules
