import FieldRules.Builtin.Verdict
import FieldRules.Proofs.Calendar.Writing

namespace FieldRules

open Decimal (isDigit padded)
open ShapeItem

-- The powers below are core's, whichever instances a wider import brings.
attribute [local instance (high)] instPowNat

theorem TimeParts.moment?_ofClock {d : Date} (hd : d.isValid = true) {c : Clock} (hc : c.IsValid)
    {offset : Int} (hoffset : offset.natAbs < 86400) :
    (ofClock d c offset).moment? = some ⟨86400 * d.dayNumber + c.seconds - offset, c.nano⟩ := by
  obtain ⟨hhour, hminute, hsecond, -, -⟩ := hc
  have hvalid : (Date.mk d.year d.month d.day).isValid = true := hd
  have hle : c.second ≤ 60 := by omega
  have hmin : min c.second 59 = c.second := by omega
  have hleap : c.second ≠ 60 := by omega
  simp only [moment?, ofClock, hvalid, hhour, hminute, hle, hoffset, hmin, hleap, decide_true,
    Bool.and_self, if_true, if_false, Clock.seconds, Nat.add_zero]

theorem Clock.IsValid.fits {c : Clock} (hc : c.IsValid) {d : Date} (hd : d.IsWritable) :
    (DateTime.mk d c.seconds c.nano).Fits :=
  ⟨hd.fits, hc.seconds_lt, hc.nano_lt⟩

namespace Writing

/-- What its shape reads of it. -/
def parts : Writing → TimeParts
  | zoned date clock z => .ofClock date clock z.offset
  | seconds _ date clock => .ofClock date clock 0
  | minutes _ date hour minute => .ofClock date (.onMinute hour minute) 0
  | dashed date | slashed date | monthFirst date => .ofDate date

/-- The parts stand for the instant. -/
theorem moment?_parts {w : Writing} (h : w.IsValid) : w.parts.moment? = some w.instant.moment := by
  have zero_lt : (0 : Int).natAbs < 86400 := by decide
  cases w with
  | zoned date clock zone =>
    obtain ⟨hdate, hclock, hzone⟩ := h
    rw [parts, TimeParts.moment?_ofClock hdate.valid hclock hzone.natAbs_offset_lt, instant,
      DateTime.moment_earlier (hclock.fits hdate) hzone.natAbs_offset_lt]
    rfl
  | seconds spaced date clock =>
    obtain ⟨hdate, hclock⟩ := h
    rw [parts, TimeParts.moment?_ofClock hdate.valid hclock zero_lt, Int.sub_zero]
    rfl
  | minutes spaced date hour minute =>
    obtain ⟨hdate, hhour, hminute⟩ := h
    rw [parts, TimeParts.moment?_ofClock hdate.valid (Clock.isValid_onMinute hhour hminute) zero_lt,
      Int.sub_zero, Clock.nano_onMinute]
    rfl
  | dashed date | slashed date | monthFirst date =>
    have hmidnight : (Clock.onMinute 0 0).IsValid := Clock.isValid_onMinute (by decide) (by decide)
    have hmoment := TimeParts.moment?_ofClock (Date.IsWritable.valid h) hmidnight zero_lt
    rw [Int.sub_zero, Clock.nano_onMinute] at hmoment
    exact hmoment

theorem instant_fits {w : Writing} (h : w.IsValid) : w.instant.Fits := by
  cases w with
  | zoned date clock zone =>
    obtain ⟨hdate, hclock, hzone⟩ := h
    exact (hclock.fits hdate).earlier hzone.natAbs_offset_lt
  | seconds spaced date clock =>
    obtain ⟨hdate, hclock⟩ := h
    exact hclock.fits hdate
  | minutes spaced date hour minute =>
    obtain ⟨hdate, hhour, hminute⟩ := h
    exact ⟨hdate.fits, (Clock.isValid_onMinute hhour hminute).seconds_lt, Nat.zero_lt_succ _⟩
  | dashed date | slashed date | monthFirst date =>
    exact ⟨Date.IsWritable.fits h, Nat.zero_lt_succ _, Nat.zero_lt_succ _⟩

/-- Its own shape reads all of it. -/
theorem readAll_shape {w : Writing} (h : w.IsValid) : readAll {} w.shape w.text = some w.parts := by
  cases w with
  | zoned date clock zone =>
    obtain ⟨hdate, hclock, hzone⟩ := h
    rw [shape, text, zonedShape_eq, readsNumbers_exact.date _ hdate,
      ShapeItem.readAll_divider _ _ (.inl rfl), readsNumbers_exact.clock _ hclock _ zone.text_stops,
      readAll_zone_text hzone]
    rfl
  | seconds spaced date clock =>
    obtain ⟨hdate, hclock⟩ := h
    rw [shape, text, ymd_eq, hms_eq, readsNumbers_loose.date _ hdate,
      readAll_between _ _ _ clock.startsClear_text, readsNumbers_loose.clock_end [] hclock]
    rfl
  | minutes spaced date hour minute =>
    obtain ⟨hdate, hhour, hminute⟩ := h
    have hstarts := Clock.startsClear_shortText hour minute []
    rw [List.append_nil] at hstarts
    rw [shape, text, ymd_eq, hm_eq, readsNumbers_loose.date _ hdate,
      readAll_between _ _ _ hstarts, readsNumbers_loose.short_end [] hhour hminute]
    rfl
  | dashed date => exact readsNumbers_loose.date_end [] h '-'
  | slashed date => exact readsNumbers_loose.date_end [] h '/'
  | monthFirst date =>
    have hdate : date.IsWritable := h
    obtain ⟨hyear, hmonth, hday⟩ := hdate.bounds
    have hnonneg := Int.toNat_of_nonneg hdate.year_nonneg
    rw [shape, text, Date.monthFirstText, ← List.append_nil (padded 4 _),
      @readsNumbers_loose .month 2 _ rfl hmonth, readAll_mark,
      @readsNumbers_loose .day 2 _ rfl hday, readAll_mark,
      @readsNumbers_loose .year 4 _ rfl hyear]
    simp only [TimeParts.set, hnonneg]
    rfl

/-- A number of four digits is too long for a day. -/
theorem refused_fourDigits (p : TimeParts) {n : Nat} (hn : n < 10 ^ 4) :
    readAll p [loose .day] (padded 4 n) = none := by
  have hlength := Decimal.length_padded (by decide) hn
  have hfront : ((padded 4 n).take 2).length = 2 := by rw [List.length_take, hlength]; rfl
  have hback : ((padded 4 n).drop 2).length = 2 := by rw [List.length_drop, hlength]
  have hdigits : ∀ c ∈ (padded 4 n).take 2, isDigit c = true :=
    fun c hc => Decimal.isDigit_of_mem_padded 4 n c (List.mem_of_mem_take hc)
  have htaken : takeDigits TimeUnit.day.width ((padded 4 n).take 2 ++ (padded 4 n).drop 2) =
      ((padded 4 n).take 2, (padded 4 n).drop 2) :=
    takeDigits_append hdigits hfront.le (.inl hfront)
  have ne_nil : (padded 4 n).take 2 ≠ [] := List.ne_nil_of_length_eq_add_one hfront
  rw [← List.take_append_drop 2 (padded 4 n), readAll_loose_digits _ _ ne_nil hdigits htaken]
  cases hrest : (padded 4 n).drop 2 with
  | nil => simp [hrest] at hback
  | cons c rest => rfl

section Refused

variable {date : Date} (hdate : date.IsWritable)
include hdate

section Time

variable (spaced : Bool)

theorem refused_seconds {clock : Clock} (hclock : clock.IsValid) :
    readAll {} Moment.zonedShape (seconds spaced date clock).text = none := by
  rw [zonedShape_eq, text, readsNumbers_exact.date _ hdate, readAll_divider_separator,
    readsNumbers_exact.clock_end _ hclock, readAll_zone_nil]

variable {hour minute : Nat} (hhour : hour < 24) (hminute : minute < 60)
include hhour hminute

theorem refused_minutes :
    readAll {} Moment.zonedShape (minutes spaced date hour minute).text = none := by
  rw [zonedShape_eq, text, readsNumbers_exact.date _ hdate, readAll_divider_separator,
    readsNumbers_exact.short_end _ hhour hminute, readAll_mark_nil]

/-- A time without seconds is not read as one with seconds. -/
theorem refused_minutes_seconds :
    readAll {} (Moment.ymd '-' ++ between spaced :: Moment.hms)
      (minutes spaced date hour minute).text = none := by
  have hstarts := Clock.startsClear_shortText hour minute []
  rw [List.append_nil] at hstarts
  rw [ymd_eq, hms_eq, text, readsNumbers_loose.date _ hdate, readAll_between _ _ _ hstarts,
    readsNumbers_loose.short_end _ hhour hminute, readAll_mark_nil]

end Time

/-- What follows a date after a space is not read as what follows the letter. -/
theorem refused_spaced (items : List ShapeItem) (rest : List Char) :
    readAll {} (Moment.ymd '-' ++ between false :: items)
      (date.text '-' ++ separator true :: rest) = none := by
  rw [ymd_eq, readsNumbers_loose.date _ hdate]
  exact readAll_mark_ne _ _ (by decide) rest

/-- A date alone is not read where a time has to follow. -/
theorem refused_dashed :
    readAll {} Moment.zonedShape (dashed date).text = none ∧
      ∀ spaced,
        readAll {} (Moment.ymd '-' ++ between spaced :: Moment.hms) (dashed date).text = none ∧
        readAll {} (Moment.ymd '-' ++ between spaced :: Moment.hm) (dashed date).text = none := by
  rw [ymd_eq, text, zonedShape_eq, readsNumbers_exact.date_end _ hdate]
  refine ⟨readAll_divider_nil _ _, fun spaced => ?_⟩
  rw [readsNumbers_loose.date_end _ hdate, readsNumbers_loose.date_end _ hdate]
  cases spaced with
  | false => exact ⟨readAll_mark_nil _ _ 'T', readAll_mark_nil _ _ 'T'⟩
  | true => exact ⟨rfl, rfl⟩

/-- Slashes are not read as dashes. -/
theorem refused_slashed :
    readAll {} Moment.zonedShape (slashed date).text = none ∧
      ∀ items, readAll {} (Moment.ymd '-' ++ items) (slashed date).text = none := by
  have hne : '/' ≠ '-' := by decide
  rw [text, ← List.append_nil (date.text '/'), zonedShape_eq]
  exact ⟨readsNumbers_exact.date_ne _ hdate hne [],
    fun items => readsNumbers_loose.date_ne items hdate hne []⟩

/-- A month in front is taken for a year of two digits; the day is then taken for a month, and two
digits of the year for a day, where slashes are read at all. -/
theorem refused_monthFirst :
    readAll {} Moment.zonedShape (monthFirst date).text = none ∧
      (∀ items, readAll {} (Moment.ymd '-' ++ items) (monthFirst date).text = none) ∧
      readAll {} (Moment.ymd '/') (monthFirst date).text = none := by
  obtain ⟨hyear, hmonth, hday⟩ := hdate.bounds
  have hdigits := Decimal.isDigit_of_mem_padded 2 date.month
  have ne_nil := Decimal.padded_ne_nil 2 date.month
  have hlength := Decimal.length_padded (by decide) hmonth
  have htaken : ∀ rest, takeDigits TimeUnit.year.width (padded 2 date.month ++ '/' :: rest) =
      (padded 2 date.month, '/' :: rest) :=
    fun rest => takeDigits_append hdigits (by rw [hlength]; decide) (.inr (by simp; decide))
  rw [text, Date.monthFirstText]
  refine ⟨?_, fun items => ?_, ?_⟩
  -- A year of exactly four digits, a year and a dash, and a year and a slash.
  · rw [Moment.zonedShape, readAll_exact_digits _ _ (htaken _), hlength, if_neg (by decide)]
  · rw [Moment.ymd, List.cons_append, readAll_loose_digits _ _ ne_nil hdigits (htaken _)]
    exact readAll_mark_ne _ _ (by decide) _
  · rw [Moment.ymd, readAll_loose_digits _ _ ne_nil hdigits (htaken _), readAll_mark,
      @readsNumbers_loose .month 2 _ rfl hday, readAll_mark]
    exact refused_fourDigits _ hyear

end Refused

/-- How many shapes are tried before its own. -/
def place : Writing → Nat
  | zoned .. => 0
  | seconds spaced .. => if spaced then 3 else 1
  | minutes spaced .. => if spaced then 4 else 2
  | dashed _ => 5
  | slashed _ => 6
  | monthFirst _ => 7

theorem shapes_eq (w : Writing) :
    Moment.shapes =
      Moment.shapes.take w.place ++ w.shape :: Moment.shapes.drop (w.place + 1) := by
  cases w with
  | seconds spaced | minutes spaced => cases spaced <;> rfl
  | zoned | dashed | slashed | monthFirst => rfl

/-- The shapes that are tried before its own do not fit it. -/
theorem refused_before {w : Writing} (h : w.IsValid) :
    ∀ shape ∈ Moment.shapes.take w.place, readAll {} shape w.text = none := by
  cases w with
  | zoned => simp [place]
  | seconds spaced date clock =>
    obtain ⟨hdate, hclock⟩ := h
    have hzoned := refused_seconds hdate spaced hclock
    cases spaced with
    | false => simpa [Moment.shapes, place] using hzoned
    | true =>
      have hletter := fun items => refused_spaced hdate items clock.text
      simpa [Moment.shapes, place] using ⟨hzoned, hletter _, hletter _⟩
  | minutes spaced date hour minute =>
    obtain ⟨hdate, hhour, hminute⟩ := h
    have hzoned := refused_minutes hdate spaced hhour hminute
    have hseconds := refused_minutes_seconds hdate spaced hhour hminute
    cases spaced with
    | false => simpa [Moment.shapes, place] using ⟨hzoned, hseconds⟩
    | true =>
      have hletter := fun items => refused_spaced hdate items (Clock.shortText hour minute)
      simpa [Moment.shapes, place] using ⟨hzoned, hletter _, hletter _, hseconds⟩
  | dashed date =>
    obtain ⟨hzoned, htimes⟩ := refused_dashed h
    obtain ⟨hseconds, hminutes⟩ := htimes false
    simpa [Moment.shapes, place] using ⟨hzoned, hseconds, hminutes, htimes true⟩
  | slashed date =>
    obtain ⟨hzoned, hdashes⟩ := refused_slashed h
    simpa [Moment.shapes, place] using
      ⟨hzoned, hdashes _, hdashes _, hdashes _, hdashes _, hdashes []⟩
  | monthFirst date =>
    obtain ⟨hzoned, hdashes, hslashes⟩ := refused_monthFirst h
    simpa [Moment.shapes, place] using
      ⟨hzoned, hdashes _, hdashes _, hdashes _, hdashes _, hdashes [], hslashes⟩

/-- The text is this writing of a date, perhaps between blanks. -/
structure Writes (w : Writing) (text : String) : Prop where
  valid : w.IsValid
  between : Text.IsBetweenBlanks w.text text.toList

theorem readShape_shape {w : Writing} (h : w.IsValid) :
    Moment.readShape w.text w.shape = some w.instant.moment := by
  rw [Moment.readShape, readAll_shape h, Option.bind_some, moment?_parts h]

theorem readShape_before {w : Writing} (h : w.IsValid) :
    ∀ shape ∈ Moment.shapes.take w.place, Moment.readShape w.text shape = none := by
  intro shape hshape
  rw [Moment.readShape, refused_before h shape hshape, Option.bind_none]

theorem Writes.parse?_eq {w : Writing} {text : String} (h : w.Writes text) :
    Moment.parse? text = some w.instant.moment := by
  rw [Moment.parse?, Text.trimChars_of_isBetweenBlanks h.between w.isTrimmed_text,
    List.findSome?_eq_some_iff]
  exact ⟨_, w.shape, _, w.shapes_eq, readShape_shape h.valid, readShape_before h.valid⟩

end Writing

/-- The date that the value is compared with is written so, in the field which the argument names or
in the argument itself. -/
def Subject.ComparesWith (s : Subject) (w : Writing) : Prop :=
  ∃ argument, s.argument = some argument ∧
    ((∃ text, s.input.lookup argument = some (.string text) ∧ w.Writes text) ∨
      s.input.lookup argument = none ∧ w.Writes argument)

theorem Subject.ComparesWith.isValid {s : Subject} {w : Writing} (h : s.ComparesWith w) :
    w.IsValid := by
  obtain ⟨argument, -, ⟨text, -, hwrites⟩ | ⟨-, hwrites⟩⟩ := h
  · exact hwrites.valid
  · exact hwrites.valid

theorem Subject.ComparesWith.reference?_eq {s : Subject} {w : Writing} (h : s.ComparesWith w) :
    s.reference? = some w.instant.moment := by
  obtain ⟨argument, hargument, ⟨text, hlookup, hwrites⟩ | ⟨hlookup, hwrites⟩⟩ := h
  · simpa only [reference?, hargument, hlookup, Option.bind_eq_bind, Option.bind_some, date?,
      Json.string?] using hwrites.parse?_eq
  · simpa only [reference?, hargument, hlookup, Option.bind_eq_bind, Option.bind_some]
      using hwrites.parse?_eq

/-- A written date is read by its own shape and as no other date, and the rules `after` and `before`
put written dates in the order of the calendar and the clock, in whichever two ways they are
written. -/
theorem Writing.read_in_order :
    (∀ {w : Writing} {text : String}, w.Writes text →
      (w.instant.Fits ∧
        ∀ t : DateTime, t.Fits → (Moment.parse? text = some t.moment ↔ t = w.instant)) ∧
      Moment.readShape w.text w.shape = some w.instant.moment ∧
      ∃ before after, Moment.shapes = before ++ w.shape :: after ∧
        ∀ shape ∈ before, Moment.readShape w.text shape = none) ∧
    ∀ {own reference : Writing} {s : Subject} {text : String}, s.value = .string text →
      own.Writes text → s.ComparesWith reference →
        (Builtin.after.holds s = true ↔ reference.instant.Before own.instant) ∧
        (Builtin.before.holds s = true ↔ own.instant.Before reference.instant) := by
  refine ⟨fun {w text} hwrites => ?_, fun {own reference s text} hvalue hown hreference => ?_⟩
  · have hfits := instant_fits hwrites.valid
    refine ⟨⟨hfits, fun t ht => ?_⟩, readShape_shape hwrites.valid, _, _, w.shapes_eq,
      readShape_before hwrites.valid⟩
    rw [hwrites.parse?_eq, Option.some.injEq, DateTime.moment_eq_iff hfits ht, eq_comm]
  · have hdate : Subject.date? s.value = some own.instant.moment := by
      rw [hvalue]
      exact hown.parse?_eq
    have hfits := instant_fits hown.valid
    have hfits' := instant_fits hreference.isValid
    simp only [Builtin.holds, hdate, hreference.reference?_eq]
    exact ⟨DateTime.moment_before_iff hfits' hfits, DateTime.moment_before_iff hfits hfits'⟩

/-- An hour behind, the last half hour of a year is in the first of the next one. -/
theorem Writing.read_in_order_new_year :
    let own : Writing := .zoned ⟨2019, 12, 31⟩ ⟨23, 30, 0, 1, 5⟩ (.behind 1 0)
    let reference : Writing := .monthFirst ⟨2020, 1, 1⟩
    let s : Subject := ⟨"end", .string " 2019-12-31T23:30:00.5-01:00", some "start",
      [("start", .string "01/01/2020\n")], false, true⟩
    own.instant = ⟨⟨2020, 1, 1⟩, 1800, 500000000⟩ ∧
      own.Writes " 2019-12-31T23:30:00.5-01:00" ∧ s.ComparesWith reference ∧
      Moment.parse? " 2019-12-31T23:30:00.5-01:00" = some own.instant.moment ∧
      Builtin.after.holds s = true ∧ Builtin.before.holds s = false := by
  intro own reference s
  have hinstant : own.instant = ⟨⟨2020, 1, 1⟩, 1800, 500000000⟩ := rfl
  have hwritable : (Date.mk 2019 12 31).IsWritable ∧ (Date.mk 2020 1 1).IsWritable :=
    ⟨⟨by decide, by decide, by decide⟩, ⟨by decide, by decide, by decide⟩⟩
  have hclock : (Clock.mk 23 30 0 1 5).IsValid :=
    ⟨by decide, by decide, by decide, by decide, by decide⟩
  have hown : own.Writes " 2019-12-31T23:30:00.5-01:00" :=
    ⟨⟨hwritable.1, hclock, by decide, by decide⟩, [' '], [], by decide +kernel, rfl, rfl⟩
  have hreference : s.ComparesWith reference :=
    ⟨"start", rfl, .inl ⟨"01/01/2020\n", rfl, hwritable.2, [], ['\n'], by decide +kernel, rfl, rfl⟩⟩
  obtain ⟨hread, horder⟩ := read_in_order
  obtain ⟨hafter, hbefore⟩ := horder rfl hown hreference
  have hlater : reference.instant.Before own.instant := by
    rw [hinstant]
    exact .inr ⟨rfl, .inl (by decide)⟩
  have hnot : ¬own.instant.Before reference.instant := by
    rw [hinstant]
    simp [DateTime.Before, Date.Before, reference, instant]
  obtain ⟨⟨hfits, honly⟩, -⟩ := hread hown
  refine ⟨hinstant, hown, hreference, (honly _ hfits).2 rfl, hafter.2 hlater, ?_⟩
  rw [← Bool.not_eq_true, hbefore]
  exact hnot

end FieldRules
