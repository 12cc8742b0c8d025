import FieldRules.Calendar.Moment
import Mathlib.Tactic.IntervalCases

namespace FieldRules

-- The zero of the sums below is core's, whichever instances a wider import brings.
attribute [local instance (high)] Zero.ofOfNat0

namespace Date

/-- How many days a month has; none if there is no such month. -/
def monthLength (year : Int) (month : Nat) : Nat := (monthLengths year).getD (month - 1) 0

/-- The month is one of the year, and the day one of the month. -/
structure Fits (d : Date) : Prop where
  month_pos : 1 ≤ d.month
  month_le : d.month ≤ 12
  day_pos : 1 ≤ d.day
  day_le : d.day ≤ monthLength d.year d.month

def next (d : Date) : Date :=
  if d.day < monthLength d.year d.month then { d with day := d.day + 1 }
  else if d.month < 12 then ⟨d.year, d.month + 1, 1⟩
  else ⟨d.year + 1, 1, 1⟩

def previous (d : Date) : Date :=
  if 1 < d.day then { d with day := d.day - 1 }
  else if 1 < d.month then ⟨d.year, d.month - 1, monthLength d.year (d.month - 1)⟩
  else ⟨d.year - 1, 12, 31⟩

/-- The order of the calendar. -/
def Before (d e : Date) : Prop :=
  d.year < e.year ∨ d.year = e.year ∧
    (d.month < e.month ∨ d.month = e.month ∧ d.day < e.day)

/-- The days of the months before a month. -/
def daysBeforeMonth (year : Int) (month : Nat) : Nat :=
  ((monthLengths year).take (month - 1)).sum

theorem dayNumber_eq (d : Date) :
    d.dayNumber = daysBeforeYear d.year + daysBeforeMonth d.year d.month + d.day := rfl

section Month

variable {year : Int} {month : Nat} (hpos : 1 ≤ month) (hle : month ≤ 12)
include hpos hle

theorem monthLength_bounds : 28 ≤ monthLength year month ∧ monthLength year month ≤ 31 := by
  unfold monthLength monthLengths
  interval_cases month <;> cases isLeapYear year <;> decide

theorem daysBeforeMonth_succ :
    daysBeforeMonth year (month + 1) = daysBeforeMonth year month + monthLength year month := by
  unfold daysBeforeMonth monthLength monthLengths
  interval_cases month <;> cases isLeapYear year <;> decide

end Month

theorem daysBeforeMonth_one (year : Int) : daysBeforeMonth year 1 = 0 := rfl

theorem daysBeforeMonth_mono (year : Int) {month later : Nat} (hpos : 1 ≤ month)
    (hlater : later ≤ 13) (hle : month ≤ later) :
    daysBeforeMonth year month ≤ daysBeforeMonth year later := by
  induction later, hle using Nat.le_induction with
  | base => exact Nat.le_refl _
  | succ later hle ih =>
    have hsucc := @daysBeforeMonth_succ year later (hpos.trans hle) (by omega)
    have hprevious := ih (by omega)
    omega

theorem daysBeforeYear_succ (year : Int) :
    daysBeforeYear (year + 1) = daysBeforeYear year + daysBeforeMonth year 13 := by
  have hmonths : daysBeforeMonth year 13 = if isLeapYear year then 366 else 365 := by
    unfold daysBeforeMonth monthLengths
    cases isLeapYear year <;> decide
  rw [hmonths]
  simp only [daysBeforeYear, isLeapYear, Bool.and_eq_true, Bool.or_eq_true, beq_iff_eq, bne_iff_ne]
  split <;> omega

theorem daysBeforeYear_mono {year later : Int} (h : year ≤ later) :
    daysBeforeYear year ≤ daysBeforeYear later := by
  simp only [daysBeforeYear]
  omega

theorem isValid_iff (d : Date) :
    d.isValid = true ↔ -262143 ≤ d.year ∧ d.year ≤ 262142 ∧ d.Fits := by
  have hcount : (monthLengths d.year).length = 12 := rfl
  cases hlength : (monthLengths d.year)[d.month - 1]? with
  | none =>
    have hmonth : 12 ≤ d.month - 1 := hcount ▸ List.getElem?_eq_none_iff.1 hlength
    simp only [isValid, hlength, Bool.and_false, Bool.false_eq_true, false_iff]
    rintro ⟨-, -, hfits⟩
    have hle := hfits.month_le
    omega
  | some length =>
    have hmonth : d.month - 1 < 12 := hcount ▸ (List.getElem?_eq_some_iff.1 hlength).1
    have hlast : monthLength d.year d.month = length := by
      rw [monthLength, List.getD_eq_getElem?_getD, hlength, Option.getD_some]
    simp only [isValid, hlength, Bool.and_eq_true, decide_eq_true_eq]
    constructor
    · rintro ⟨⟨⟨⟨hlow, hhigh⟩, hpos⟩, hday⟩, hle⟩
      exact ⟨hlow, hhigh, hpos, by omega, hday, hlast ▸ hle⟩
    · rintro ⟨hlow, hhigh, hpos, -, hday, hle⟩
      exact ⟨⟨⟨⟨hlow, hhigh⟩, hpos⟩, hday⟩, hlast ▸ hle⟩

section Fits

variable {d e : Date} (h : d.Fits)
include h

theorem Fits.next : d.next.Fits := by
  obtain ⟨hpos, hle, hday, hlast⟩ := h
  unfold Date.next
  split
  · next hmore => exact ⟨hpos, hle, by simp, hmore⟩
  · split
    · next hmonth =>
      have hlength := @monthLength_bounds d.year (d.month + 1) (by omega) (by omega)
      exact ⟨by simp, hmonth, by simp, by simp only; omega⟩
    · have hlength := @monthLength_bounds (d.year + 1) 1 (by decide) (by decide)
      exact ⟨Nat.le_refl 1, by simp, Nat.le_refl 1, by simp only; omega⟩

theorem Fits.previous : d.previous.Fits := by
  obtain ⟨hpos, hle, hday, hlast⟩ := h
  unfold Date.previous
  split
  · exact ⟨hpos, hle, by simp only; omega, by simp only; omega⟩
  · split
    · have hlength := @monthLength_bounds d.year (d.month - 1) (by omega) (by omega)
      exact ⟨by simp only; omega, by simp only; omega, by simp only; omega, Nat.le_refl _⟩
    · exact ⟨by simp, Nat.le_refl 12, by simp, by simp [monthLength, monthLengths]⟩

/-- The next day has the next number. -/
theorem dayNumber_next : d.next.dayNumber = d.dayNumber + 1 := by
  obtain ⟨hpos, hle, hday, hlast⟩ := h
  have hsucc := @daysBeforeMonth_succ d.year d.month hpos hle
  unfold next
  split
  · simp only [dayNumber_eq]
    omega
  · split
    · simp only [dayNumber_eq]
      omega
    · obtain ⟨year, month, day⟩ := d
      obtain rfl : month = 12 := by simp only at *; omega
      have hyear : daysBeforeYear (year + 1) = daysBeforeYear year + daysBeforeMonth year (12 + 1) :=
        daysBeforeYear_succ year
      simp only [dayNumber_eq, daysBeforeMonth_one] at *
      omega

/-- The day after the day before is the day itself. -/
theorem next_previous : d.previous.next = d := by
  obtain ⟨hpos, hle, hday, hlast⟩ := h
  obtain ⟨year, month, day⟩ := d
  dsimp only at hpos hle hday hlast
  unfold previous
  dsimp only
  split
  · simp only [next]
    rw [if_pos (by omega), Nat.sub_add_cancel hday]
  · split
    · simp only [next, Nat.lt_irrefl, if_false]
      rw [if_pos (by omega), Nat.sub_add_cancel hpos]
      simp only [mk.injEq, true_and]
      omega
    · have hlength : monthLength (year - 1) 12 = 31 := by simp [monthLength, monthLengths]
      simp only [next, hlength, Nat.lt_irrefl, if_false, mk.injEq]
      omega

theorem dayNumber_previous : d.previous.dayNumber = d.dayNumber - 1 := by
  have hnumber := dayNumber_next h.previous
  rw [next_previous h] at hnumber
  omega

/-- A year has the numbers from that of its first day up to the next year. -/
theorem dayNumber_bounds :
    daysBeforeYear d.year < d.dayNumber ∧ d.dayNumber ≤ daysBeforeYear (d.year + 1) := by
  have hsucc := @daysBeforeMonth_succ d.year d.month h.month_pos h.month_le
  have hmono := @daysBeforeMonth_mono d.year (d.month + 1) 13 (by simp) (by simp)
    (by have hle := h.month_le; omega)
  have hyear := daysBeforeYear_succ d.year
  have hday := h.day_pos
  have hlast := h.day_le
  rw [dayNumber_eq]
  omega

variable (he : e.Fits)
include he

theorem dayNumber_lt (hbefore : d.Before e) : d.dayNumber < e.dayNumber := by
  rcases hbefore with hyear | ⟨hyear, hmonth | ⟨hmonth, hday⟩⟩
  · calc
      d.dayNumber ≤ daysBeforeYear (d.year + 1) := (dayNumber_bounds h).2
      _ ≤ daysBeforeYear e.year := daysBeforeYear_mono hyear
      _ < e.dayNumber := (dayNumber_bounds he).1
  · have hsucc := @daysBeforeMonth_succ d.year d.month h.month_pos h.month_le
    have hlater := he.month_le
    have hmono := daysBeforeMonth_mono d.year (Nat.le_add_left 1 d.month) (by omega) hmonth
    have hlast := h.day_le
    have hfirst := he.day_pos
    rw [dayNumber_eq, dayNumber_eq, ← hyear]
    omega
  · rw [dayNumber_eq, dayNumber_eq, ← hyear, ← hmonth]
    omega

/-- Days have the order of their numbers. -/
theorem dayNumber_lt_iff : d.dayNumber < e.dayNumber ↔ d.Before e := by
  refine ⟨fun hlt => ?_, dayNumber_lt h he⟩
  by_contra hnot
  have hother : e.Before d ∨ e = d := by
    obtain ⟨year, month, day⟩ := d
    obtain ⟨year', month', day'⟩ := e
    simp only [Before, mk.injEq] at hnot ⊢
    omega
  rcases hother with hbefore | rfl
  · have hgt := dayNumber_lt he h hbefore
    omega
  · omega

theorem dayNumber_eq_iff : d.dayNumber = e.dayNumber ↔ d = e := by
  refine ⟨fun heq => ?_, congrArg _⟩
  have hnot : ¬d.Before e := fun hbefore => (dayNumber_lt h he hbefore).ne heq
  have hnot' : ¬e.Before d := fun hbefore => (dayNumber_lt he h hbefore).ne heq.symm
  obtain ⟨year, month, day⟩ := d
  obtain ⟨year', month', day'⟩ := e
  simp only [Before, mk.injEq] at hnot hnot' ⊢
  omega

end Fits

example : (Date.mk 2023 12 31).next = ⟨2024, 1, 1⟩ ∧ (Date.mk 2000 3 1).previous = ⟨2000, 2, 29⟩ := by
  decide

end Date

/-- A date and a time of day, in seconds after midnight and nanoseconds. -/
structure DateTime where
  date : Date
  second : Nat
  nano : Nat

namespace DateTime

structure Fits (t : DateTime) : Prop where
  date : t.date.Fits
  second_lt : t.second < 86400
  nano_lt : t.nano < 1000000000

def moment (t : DateTime) : Moment := ⟨86400 * t.date.dayNumber + t.second, t.nano⟩

/-- The order of dates, then of the times of a day. -/
def Before (s t : DateTime) : Prop :=
  s.date.Before t.date ∨ s.date = t.date ∧
    (s.second < t.second ∨ s.second = t.second ∧ s.nano < t.nano)

/-- The time some seconds earlier, or later if the number is negative, but no whole day away: it may
be on the day before or on the next one. -/
def earlier (t : DateTime) (seconds : Int) : DateTime :=
  let second := t.second - seconds
  if second < 0 then ⟨t.date.previous, (second + 86400).toNat, t.nano⟩
  else if second < 86400 then ⟨t.date, second.toNat, t.nano⟩
  else ⟨t.date.next, (second - 86400).toNat, t.nano⟩

section Earlier

variable {t : DateTime} (h : t.Fits) {seconds : Int} (hseconds : seconds.natAbs < 86400)
include h hseconds

theorem Fits.earlier : (t.earlier seconds).Fits := by
  have hlt := h.second_lt
  unfold DateTime.earlier
  simp only
  split
  · exact ⟨h.date.previous, by simp only; omega, h.nano_lt⟩
  · split
    · exact ⟨h.date, by simp only; omega, h.nano_lt⟩
    · exact ⟨h.date.next, by simp only; omega, h.nano_lt⟩

theorem moment_earlier :
    (t.earlier seconds).moment = ⟨t.moment.second - seconds, t.nano⟩ := by
  have hlt := h.second_lt
  have hnext := Date.dayNumber_next h.date
  have hprevious := Date.dayNumber_previous h.date
  unfold DateTime.earlier moment
  simp only
  split
  · simp only [hprevious, Moment.mk.injEq, and_true]
    omega
  · split
    · simp only [Moment.mk.injEq, and_true]
      omega
    · simp only [hnext, Moment.mk.injEq, and_true]
      omega

end Earlier

section Moment

variable {s t : DateTime} (hs : s.Fits) (ht : t.Fits)
include hs ht

/-- A moment has one date and one time. -/
theorem moment_eq_iff : s.moment = t.moment ↔ s = t := by
  refine ⟨fun heq => ?_, congrArg moment⟩
  have hday := Date.dayNumber_eq_iff hs.date ht.date
  have hsecond := hs.second_lt
  have hsecond' := ht.second_lt
  obtain ⟨date, second, nano⟩ := s
  obtain ⟨date', second', nano'⟩ := t
  simp only [moment, Moment.mk.injEq] at heq hday hsecond hsecond'
  have hnumber : date.dayNumber = date'.dayNumber := by omega
  rw [mk.injEq]
  exact ⟨hday.1 hnumber, by omega, heq.2⟩

/-- Dates with times have the order of their moments. -/
theorem moment_before_iff :
    s.moment.before t.moment = true ↔ s.Before t := by
  have hlt := Date.dayNumber_lt_iff hs.date ht.date
  have heq := Date.dayNumber_eq_iff hs.date ht.date
  have hsecond := hs.second_lt
  have hsecond' := ht.second_lt
  simp only [Moment.before, Bool.or_eq_true, Bool.and_eq_true, decide_eq_true_eq, beq_iff_eq]
  simp only [moment, Before, ← hlt, ← heq]
  omega

end Moment

end DateTime

end FieldRules
