import FieldRules.Proofs.Calendar.Day
import FieldRules.Proofs.Calendar.Shape

namespace FieldRules

open Decimal (isDigit padded)

-- The powers below are core's, whichever instances a wider import brings.
attribute [local instance (high)] instPowNat

namespace Date

/-- A date of a year with four digits. -/
structure IsWritable (d : Date) : Prop where
  valid : d.isValid = true
  year_nonneg : 0 ≤ d.year
  year_le : d.year ≤ 9999

def text (separator : Char) (d : Date) : List Char :=
  padded 4 d.year.toNat ++ separator :: (padded 2 d.month ++ separator :: padded 2 d.day)

def monthFirstText (d : Date) : List Char :=
  padded 2 d.month ++ '/' :: (padded 2 d.day ++ '/' :: padded 4 d.year.toNat)

end Date

/-- A time of day. Its seconds may have a fraction, which is written with some places. -/
structure Clock where
  hour : Nat
  minute : Nat
  second : Nat
  places : Nat
  fraction : Nat

namespace Clock

structure IsValid (c : Clock) : Prop where
  hour_lt : c.hour < 24
  minute_lt : c.minute < 60
  second_lt : c.second < 60
  places_le : c.places ≤ 9
  fraction_lt : c.fraction < 10 ^ c.places

/-- The seconds after midnight. -/
def seconds (c : Clock) : Nat := 3600 * c.hour + 60 * c.minute + c.second

/-- The fraction in nanoseconds. -/
def nano (c : Clock) : Nat := c.fraction * 10 ^ (9 - c.places)

/-- A fraction without places is not written. -/
def fractionText (c : Clock) : List Char :=
  if c.places = 0 then [] else '.' :: padded c.places c.fraction

/-- The hour and the minute. -/
def shortText (hour minute : Nat) : List Char := padded 2 hour ++ ':' :: padded 2 minute

def text (c : Clock) : List Char :=
  shortText c.hour c.minute ++ ':' :: (padded 2 c.second ++ c.fractionText)

/-- The time of day at the start of a minute. -/
def onMinute (hour minute : Nat) : Clock := ⟨hour, minute, 0, 0, 0⟩

theorem isValid_onMinute {hour minute : Nat} (hhour : hour < 24) (hminute : minute < 60) :
    (onMinute hour minute).IsValid :=
  ⟨hhour, hminute, Nat.zero_lt_succ 59, Nat.zero_le 9, Nat.zero_lt_one⟩

theorem nano_onMinute (hour minute : Nat) : (onMinute hour minute).nano = 0 := Nat.zero_mul _

theorem IsValid.seconds_lt {c : Clock} (h : c.IsValid) : c.seconds < 86400 := by
  obtain ⟨hhour, hminute, hsecond, -, -⟩ := h
  rw [seconds]
  omega

theorem IsValid.nano_lt {c : Clock} (h : c.IsValid) : c.nano < 1000000000 :=
  calc
    c.nano < 10 ^ c.places * 10 ^ (9 - c.places) :=
      Nat.mul_lt_mul_of_pos_right h.fraction_lt (Nat.pow_pos (by decide))
    _ = 1000000000 := by rw [← Nat.pow_add, Nat.add_sub_cancel' h.places_le]

end Clock

/-- How far a clock is ahead of that of the reference time, or behind it. -/
inductive Zone where
  | reference
  | ahead (hour minute : Nat)
  | behind (hour minute : Nat)

namespace Zone

def IsValid : Zone → Prop
  | reference => True
  | ahead hour minute | behind hour minute => hour < 24 ∧ minute < 60

/-- The seconds that the clock is ahead. -/
def offset : Zone → Int
  | reference => 0
  | ahead hour minute => 3600 * hour + 60 * minute
  | behind hour minute => -(3600 * hour + 60 * minute)

def text : Zone → List Char
  | reference => ['Z']
  | ahead hour minute => '+' :: Clock.shortText hour minute
  | behind hour minute => '-' :: Clock.shortText hour minute

theorem IsValid.natAbs_offset_lt {z : Zone} (h : z.IsValid) : z.offset.natAbs < 86400 := by
  cases z with
  | reference => decide
  | ahead hour minute | behind hour minute =>
    obtain ⟨hhour, hminute⟩ := h
    simp only [offset]
    omega

end Zone

/-- A way to write a date, perhaps with a time: with a zone; without one, after the letter or after a
space, with seconds or without; or the date alone. -/
inductive Writing where
  | zoned (date : Date) (clock : Clock) (zone : Zone)
  | seconds (spaced : Bool) (date : Date) (clock : Clock)
  | minutes (spaced : Bool) (date : Date) (hour minute : Nat)
  | dashed (date : Date)
  | slashed (date : Date)
  | monthFirst (date : Date)

namespace Writing

def IsValid : Writing → Prop
  | zoned date clock zone => date.IsWritable ∧ clock.IsValid ∧ zone.IsValid
  | seconds _ date clock => date.IsWritable ∧ clock.IsValid
  | minutes _ date hour minute => date.IsWritable ∧ hour < 24 ∧ minute < 60
  | dashed date | slashed date | monthFirst date => date.IsWritable

/-- What stands between a date and a time. -/
def separator (spaced : Bool) : Char := if spaced then ' ' else 'T'

/-- What reads the separator. -/
def between (spaced : Bool) : ShapeItem := if spaced then .gap else .mark 'T'

def text : Writing → List Char
  | zoned date clock zone => date.text '-' ++ 'T' :: (clock.text ++ zone.text)
  | seconds spaced date clock => date.text '-' ++ separator spaced :: clock.text
  | minutes spaced date hour minute =>
    date.text '-' ++ separator spaced :: Clock.shortText hour minute
  | dashed date => date.text '-'
  | slashed date => date.text '/'
  | monthFirst date => date.monthFirstText

/-- The date and the time that are written, in the reference time where there is a zone. What is not
written is zero. -/
def instant : Writing → DateTime
  | zoned date clock zone => (DateTime.mk date clock.seconds clock.nano).earlier zone.offset
  | seconds _ date clock => ⟨date, clock.seconds, clock.nano⟩
  | minutes _ date hour minute => ⟨date, 3600 * hour + 60 * minute, 0⟩
  | dashed date | slashed date | monthFirst date => ⟨date, 0, 0⟩

/-- The shape that reads it. -/
def shape : Writing → List ShapeItem
  | zoned .. => Moment.zonedShape
  | seconds spaced .. => Moment.ymd '-' ++ between spaced :: Moment.hms
  | minutes spaced .. => Moment.ymd '-' ++ between spaced :: Moment.hm
  | dashed _ => Moment.ymd '-'
  | slashed _ => Moment.ymd '/'
  | monthFirst _ => [.loose .month, .mark '/', .loose .day, .mark '/', .loose .year]

end Writing

open ShapeItem

/-- The items read numbers that are written with the width of their unit. -/
def ReadsNumbers (number : TimeUnit → ShapeItem) : Prop :=
  ∀ {unit : TimeUnit} {width n : Nat}, unit.width = width → n < 10 ^ width →
    ∀ (p : TimeParts) (items : List ShapeItem) (rest : List Char),
      readAll p (number unit :: items) (padded width n ++ rest) = readAll (p.set n unit) items rest

theorem readsNumbers_exact : ReadsNumbers exact :=
  fun hwidth hn p items => readAll_exact p items hwidth hn

theorem readsNumbers_loose : ReadsNumbers loose :=
  fun hwidth hn p items => readAll_loose p items hwidth hn

def dateItems (number : TimeUnit → ShapeItem) (separator : Char) : List ShapeItem :=
  [number .year, mark separator, number .month, mark separator, number .day]

def shortItems (number : TimeUnit → ShapeItem) : List ShapeItem :=
  [number .hour, mark ':', number .minute]

theorem zonedShape_eq : Moment.zonedShape = dateItems exact '-' ++
    divider :: (shortItems exact ++ [mark ':', exact .second, fraction, zone]) := rfl

theorem ymd_eq (separator : Char) : Moment.ymd separator = dateItems loose separator := rfl

theorem hm_eq : Moment.hm = shortItems loose ++ [] := rfl

theorem hms_eq : Moment.hms = shortItems loose ++ [mark ':', loose .second, fraction] := rfl

/-- The parts of a date. -/
def TimeParts.ofDate (d : Date) : TimeParts := { year := d.year, month := d.month, day := d.day }

/-- The parts of a date with a time, on a clock that is ahead. -/
def TimeParts.ofClock (d : Date) (c : Clock) (offset : Int) : TimeParts :=
  { year := d.year, month := d.month, day := d.day, hour := c.hour, minute := c.minute,
    second := c.second, nano := c.nano, offset }

theorem Date.IsWritable.fits {d : Date} (h : d.IsWritable) : d.Fits :=
  ((Date.isValid_iff d).1 h.valid).2.2

theorem Date.IsWritable.bounds {d : Date} (h : d.IsWritable) :
    d.year.toNat < 10 ^ 4 ∧ d.month < 10 ^ 2 ∧ d.day < 10 ^ 2 := by
  have hyear := h.year_le
  have hmonth := h.fits.month_le
  have hday := h.fits.day_le
  have hlength := @Date.monthLength_bounds d.year d.month h.fits.month_pos hmonth
  omega

namespace ReadsNumbers

variable {number : TimeUnit → ShapeItem} (h : ReadsNumbers number) (items : List ShapeItem)
include h

theorem date {d : Date} (hd : d.IsWritable) (separator : Char) (rest : List Char) :
    readAll {} (dateItems number separator ++ items) (d.text separator ++ rest) =
      readAll (.ofDate d) items rest := by
  obtain ⟨hyear, hmonth, hday⟩ := hd.bounds
  have hnonneg := Int.toNat_of_nonneg hd.year_nonneg
  simp only [dateItems, Date.text, List.cons_append, List.nil_append, List.append_assoc]
  rw [@h .year 4 _ rfl hyear, readAll_mark, @h .month 2 _ rfl hmonth, readAll_mark,
    @h .day 2 _ rfl hday]
  simp only [TimeParts.set, hnonneg]
  rfl

theorem date_end {d : Date} (hd : d.IsWritable) (separator : Char) :
    readAll {} (dateItems number separator ++ items) (d.text separator) =
      readAll (.ofDate d) items [] := by
  rw [← date h items hd separator [], List.append_nil]

/-- A date that is written with another separator is not read. -/
theorem date_ne {d : Date} (hd : d.IsWritable) {separator other : Char} (hne : other ≠ separator)
    (rest : List Char) :
    readAll {} (dateItems number separator ++ items) (d.text other ++ rest) = none := by
  simp only [dateItems, Date.text, List.cons_append, List.nil_append, List.append_assoc]
  rw [@h .year 4 _ rfl hd.bounds.1, readAll_mark_ne _ _ hne]

theorem short {hour minute : Nat} (hhour : hour < 24) (hminute : minute < 60) (d : Date)
    (rest : List Char) :
    readAll (.ofDate d) (shortItems number ++ items) (Clock.shortText hour minute ++ rest) =
      readAll (.ofClock d (.onMinute hour minute) 0) items rest := by
  have hhour' : hour < 10 ^ 2 := by omega
  have hminute' : minute < 10 ^ 2 := by omega
  simp only [shortItems, Clock.shortText, List.cons_append, List.nil_append, List.append_assoc]
  rw [@h .hour 2 _ rfl hhour', readAll_mark, @h .minute 2 _ rfl hminute', TimeParts.ofClock,
    Clock.nano_onMinute]
  rfl

theorem short_end {hour minute : Nat} (hhour : hour < 24) (hminute : minute < 60) (d : Date) :
    readAll (.ofDate d) (shortItems number ++ items) (Clock.shortText hour minute) =
      readAll (.ofClock d (.onMinute hour minute) 0) items [] := by
  rw [← short h items hhour hminute d [], List.append_nil]

theorem clock {c : Clock} (hc : c.IsValid) (d : Date) {rest : List Char}
    (stops : ∀ e, rest.head? = some e → isDigit e = false ∧ e ≠ '.') :
    readAll (.ofDate d) (shortItems number ++ mark ':' :: number .second :: fraction :: items)
        (c.text ++ rest) =
      readAll (.ofClock d c 0) items rest := by
  have hsecond : c.second < 10 ^ 2 := by have hlt := hc.second_lt; omega
  rw [Clock.text, List.append_assoc, short h _ hc.hour_lt hc.minute_lt, List.cons_append,
    readAll_mark, List.append_assoc, @h .second 2 _ rfl hsecond, Clock.fractionText]
  by_cases hplaces : c.places = 0
  · have hnano : c.nano = 0 := by
      have hlt := hc.fraction_lt
      rw [hplaces] at hlt
      rw [Clock.nano, Nat.lt_one_iff.1 hlt, Nat.zero_mul]
    rw [if_pos hplaces, List.nil_append, readAll_no_fraction _ _ fun e he => (stops e he).2,
      TimeParts.ofClock, TimeParts.ofClock, Clock.nano_onMinute, hnano]
    rfl
  · rw [if_neg hplaces, List.cons_append,
      readAll_fraction _ _ (Nat.pos_of_ne_zero hplaces) hc.places_le hc.fraction_lt
        fun e he => (stops e he).1]
    rfl

theorem clock_end {c : Clock} (hc : c.IsValid) (d : Date) :
    readAll (.ofDate d) (shortItems number ++ mark ':' :: number .second :: fraction :: items)
        c.text =
      readAll (.ofClock d c 0) items [] := by
  rw [← clock h items hc d (by simp), List.append_nil]

end ReadsNumbers

theorem readAll_divider_separator (p : TimeParts) (items : List ShapeItem) (spaced : Bool)
    (rest : List Char) :
    readAll p (divider :: items) (Writing.separator spaced :: rest) = readAll p items rest := by
  cases spaced <;> rfl

theorem readAll_between (p : TimeParts) (items : List ShapeItem) (spaced : Bool) {rest : List Char}
    (h : Text.StartsClear rest) :
    readAll p (Writing.between spaced :: items) (Writing.separator spaced :: rest) =
      readAll p items rest := by
  cases spaced with
  | false => exact readAll_mark p items 'T' rest
  | true => exact congrArg (readAll p items) (Text.dropBlanks_of_startsClear h)

theorem Zone.text_stops (z : Zone) :
    ∀ e, z.text.head? = some e → isDigit e = false ∧ e ≠ '.' := by
  intro e he
  cases z <;> cases he <;> decide

theorem readAll_zone_text {z : Zone} (hz : z.IsValid) (d : Date) (c : Clock) :
    readAll (.ofClock d c 0) [zone] z.text = some (.ofClock d c z.offset) := by
  cases z with
  | reference => rfl
  | ahead hour minute =>
    have hhour : hour < 100 := by have hlt := hz.1; omega
    have hread := readAll_zone (.ofClock d c 0) [] (.inl rfl) hhour hz.2 []
    rw [List.append_nil] at hread
    exact hread
  | behind hour minute =>
    have hhour : hour < 100 := by have hlt := hz.1; omega
    have hread := readAll_zone (.ofClock d c 0) [] (.inr rfl) hhour hz.2 []
    rw [List.append_nil] at hread
    exact hread

theorem Clock.startsClear_shortText (hour minute : Nat) (rest : List Char) :
    Text.StartsClear (shortText hour minute ++ rest) := by
  rw [shortText, List.append_assoc]
  exact Decimal.startsClear_padded 2 hour _

theorem Clock.startsClear_text (c : Clock) : Text.StartsClear c.text :=
  startsClear_shortText c.hour c.minute _

theorem Clock.endsClear_shortText (hour minute : Nat) (front : List Char) :
    Text.EndsClear (front ++ shortText hour minute) := by
  have hclear := Decimal.endsClear_padded 2 minute (front ++ (padded 2 hour ++ [':']))
  simpa only [shortText, List.append_assoc, List.singleton_append] using hclear

theorem Clock.endsClear_text (c : Clock) (front : List Char) : Text.EndsClear (front ++ c.text) := by
  by_cases hplaces : c.places = 0
  · have hclear := Decimal.endsClear_padded 2 c.second
      (front ++ (shortText c.hour c.minute ++ [':']))
    simpa only [text, fractionText, hplaces, if_true, List.append_nil, List.append_assoc,
      List.singleton_append] using hclear
  · have hclear := Decimal.endsClear_padded c.places c.fraction
      (front ++ (shortText c.hour c.minute ++ ':' :: (padded 2 c.second ++ ['.'])))
    simpa only [text, fractionText, hplaces, if_false, List.append_assoc, List.cons_append,
      List.nil_append] using hclear

theorem Zone.endsClear_text (z : Zone) (front : List Char) : Text.EndsClear (front ++ z.text) := by
  cases z with
  | reference => exact Text.EndsClear.append (by decide) (by decide) front
  | ahead hour minute =>
    have hclear := Clock.endsClear_shortText hour minute (front ++ ['+'])
    simpa only [text, List.append_assoc, List.singleton_append] using hclear
  | behind hour minute =>
    have hclear := Clock.endsClear_shortText hour minute (front ++ ['-'])
    simpa only [text, List.append_assoc, List.singleton_append] using hclear

theorem Date.startsClear_text (separator : Char) (d : Date) (rest : List Char) :
    Text.StartsClear (d.text separator ++ rest) := by
  rw [text, List.append_assoc]
  exact Decimal.startsClear_padded 4 _ _

theorem Date.endsClear_text (separator : Char) (d : Date) : Text.EndsClear (d.text separator) := by
  have hclear := Decimal.endsClear_padded 2 d.day
    (padded 4 d.year.toNat ++ separator :: (padded 2 d.month ++ [separator]))
  simpa only [text, List.append_assoc, List.cons_append, List.nil_append] using hclear

/-- No blank begins or ends it. -/
theorem Writing.isTrimmed_text (w : Writing) : Text.IsTrimmed w.text := by
  cases w with
  | zoned date clock zone =>
    have hends := zone.endsClear_text (date.text '-' ++ 'T' :: clock.text)
    refine ⟨date.startsClear_text '-' _, ?_⟩
    simpa only [text, List.append_assoc, List.cons_append] using hends
  | seconds spaced date clock =>
    have hends := clock.endsClear_text (date.text '-' ++ [separator spaced])
    refine ⟨date.startsClear_text '-' _, ?_⟩
    simpa only [text, List.append_assoc, List.singleton_append] using hends
  | minutes spaced date hour minute =>
    have hends := Clock.endsClear_shortText hour minute (date.text '-' ++ [separator spaced])
    refine ⟨date.startsClear_text '-' _, ?_⟩
    simpa only [text, List.append_assoc, List.singleton_append] using hends
  | dashed date =>
    have hstarts := date.startsClear_text '-' []
    rw [List.append_nil] at hstarts
    exact ⟨hstarts, date.endsClear_text '-'⟩
  | slashed date =>
    have hstarts := date.startsClear_text '/' []
    rw [List.append_nil] at hstarts
    exact ⟨hstarts, date.endsClear_text '/'⟩
  | monthFirst date =>
    have hends := Decimal.endsClear_padded 4 date.year.toNat
      (padded 2 date.month ++ '/' :: (padded 2 date.day ++ ['/']))
    refine ⟨Decimal.startsClear_padded 2 _ _, ?_⟩
    simpa only [text, Date.monthFirstText, List.append_assoc, List.cons_append, List.nil_append]
      using hends

end FieldRules
