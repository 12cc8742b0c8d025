import FieldRules.Calendar.Shape
import FieldRules.Proofs.Decimal.Digits
import FieldRules.Proofs.Text.Trimmed

namespace FieldRules

open Decimal (isDigit digitsValue padded)

-- The powers below are core's, whichever instances a wider import brings.
attribute [local instance (high)] instPowNat

namespace Decimal

theorem isBlank_of_isDigit {c : Char} (h : isDigit c = true) : Text.isBlank c = false := by
  rw [← Bool.not_eq_true]
  intro hblank
  simp only [isDigit, Bool.and_eq_true, decide_eq_true_eq, Char.le_def, UInt32.le_iff_toNat_le] at h
  change 48 ≤ c.toNat ∧ c.toNat ≤ 57 at h
  simp only [Text.isBlank, Bool.or_eq_true, Bool.and_eq_true, decide_eq_true_eq, beq_iff_eq]
    at hblank
  omega

section Digits

variable {ds : List Char} (ne_nil : ds ≠ []) (digits : ∀ c ∈ ds, isDigit c = true)
include ne_nil digits

theorem startsClear_digits (rest : List Char) : Text.StartsClear (ds ++ rest) := by
  intro c hc
  rw [List.head?_append_of_ne_nil ds ne_nil] at hc
  exact isBlank_of_isDigit (digits c (List.mem_of_head? hc))

theorem endsClear_digits (front : List Char) : Text.EndsClear (front ++ ds) := by
  intro c hc
  rw [List.getLast?_append_of_ne_nil front ne_nil] at hc
  exact isBlank_of_isDigit (digits c (List.mem_of_getLast? hc))

end Digits

theorem startsClear_padded (width n : Nat) (rest : List Char) :
    Text.StartsClear (padded width n ++ rest) :=
  startsClear_digits (padded_ne_nil width n) (isDigit_of_mem_padded width n) rest

theorem endsClear_padded (width n : Nat) (front : List Char) :
    Text.EndsClear (front ++ padded width n) :=
  endsClear_digits (padded_ne_nil width n) (isDigit_of_mem_padded width n) front

end Decimal

namespace ShapeItem

variable (p : TimeParts) (items : List ShapeItem)

theorem readAll_cons (item : ShapeItem) (cs : List Char) :
    readAll p (item :: items) cs = (item.read p cs).bind fun (p, rest) => readAll p items rest := by
  rw [readAll]

theorem readAll_mark (c : Char) (rest : List Char) :
    readAll p (mark c :: items) (c :: rest) = readAll p items rest := by
  simp [readAll_cons, read]

theorem readAll_mark_ne {c d : Char} (h : d ≠ c) (rest : List Char) :
    readAll p (mark c :: items) (d :: rest) = none := by
  simp [readAll_cons, read, h]

theorem readAll_mark_nil (c : Char) : readAll p (mark c :: items) [] = none := rfl

theorem readAll_divider {c : Char} (h : c = 'T' ∨ c = ' ') (rest : List Char) :
    readAll p (divider :: items) (c :: rest) = readAll p items rest := by
  rcases h with rfl | rfl <;> rfl

theorem readAll_divider_nil : readAll p (divider :: items) [] = none := rfl

theorem takeDigits_append {width : Nat} {ds rest : List Char} (digits : ∀ c ∈ ds, isDigit c = true)
    (hle : ds.length ≤ width)
    (stops : ds.length = width ∨ ∀ c, rest.head? = some c → isDigit c = false) :
    takeDigits width (ds ++ rest) = (ds, rest) := by
  have hstretch : Text.IsStretch isDigit ds (rest.take (width - ds.length)) := by
    refine ⟨digits, fun c hc => ?_⟩
    rw [List.head?_take] at hc
    split at hc
    · simp at hc
    · exact stops.resolve_left (by omega) c hc
  have hall : ((ds ++ rest).take width).takeWhile isDigit = ds := by
    rw [List.take_append, List.take_of_length_le hle, hstretch.takeWhile_eq]
  simp only [takeDigits, hall, List.drop_left]

section Digits

variable {unit : TimeUnit} {ds rest : List Char} (ne_nil : ds ≠ [])
  (digits : ∀ c ∈ ds, isDigit c = true)

theorem readAll_exact_digits (taken : takeDigits unit.width (ds ++ rest) = (ds, rest)) :
    readAll p (exact unit :: items) (ds ++ rest) =
      if ds.length = unit.width then readAll (p.set (digitsValue ds) unit) items rest else none := by
  rw [readAll_cons, read]
  simp only [taken]
  split <;> rfl

include ne_nil digits

theorem readAll_loose_digits (taken : takeDigits unit.width (ds ++ rest) = (ds, rest)) :
    readAll p (loose unit :: items) (ds ++ rest) =
      readAll (p.set (digitsValue ds) unit) items rest := by
  have hdrop := Text.dropBlanks_of_startsClear (Decimal.startsClear_digits ne_nil digits rest)
  cases ds with
  | nil => exact absurd rfl ne_nil
  | cons c more =>
    -- Years may have a sign, and the sign is no digit.
    have hc := digits c List.mem_cons_self
    have hminus : c ≠ '-' := by rintro rfl; exact absurd hc (by decide)
    have hplus : c ≠ '+' := by rintro rfl; exact absurd hc (by decide)
    rw [List.cons_append] at taken hdrop ⊢
    rw [readAll_cons, read.eq_def]
    simp only [hdrop]
    cases unit <;> simp [taken, hminus, hplus]

end Digits

section Padded

variable {unit : TimeUnit} {width n : Nat} (hwidth : unit.width = width) (hn : n < 10 ^ width)
include hwidth hn

theorem length_padded_width : (padded width n).length = unit.width := by
  have hpos : 0 < width := by rw [← hwidth]; cases unit <;> decide
  rw [Decimal.length_padded hpos hn, hwidth]

theorem takeDigits_padded (rest : List Char) :
    takeDigits unit.width (padded width n ++ rest) = (padded width n, rest) := by
  have hlength := length_padded_width hwidth hn
  exact takeDigits_append (Decimal.isDigit_of_mem_padded width n) hlength.le (.inl hlength)

theorem readAll_exact (rest : List Char) :
    readAll p (exact unit :: items) (padded width n ++ rest) = readAll (p.set n unit) items rest := by
  rw [readAll_exact_digits p items (takeDigits_padded hwidth hn rest),
    if_pos (length_padded_width hwidth hn), Decimal.digitsValue_padded]

theorem readAll_loose (rest : List Char) :
    readAll p (loose unit :: items) (padded width n ++ rest) = readAll (p.set n unit) items rest := by
  rw [readAll_loose_digits p items (Decimal.padded_ne_nil width n)
    (Decimal.isDigit_of_mem_padded width n) (takeDigits_padded hwidth hn rest),
    Decimal.digitsValue_padded]

end Padded

theorem readAll_no_fraction {rest : List Char} (h : ∀ c, rest.head? = some c → c ≠ '.') :
    readAll p (fraction :: items) rest = readAll p items rest := by
  cases rest with
  | nil => rfl
  | cons c cs =>
    have hc : c ≠ '.' := h c rfl
    rw [readAll_cons, read.eq_def]
    simp [hc]

theorem readAll_fraction {places n : Nat} (hpos : 0 < places) (hle : places ≤ 9)
    (hn : n < 10 ^ places) {rest : List Char}
    (stops : ∀ c, rest.head? = some c → isDigit c = false) :
    readAll p (fraction :: items) ('.' :: (padded places n ++ rest)) =
      readAll { p with nano := n * 10 ^ (9 - places) } items rest := by
  have hlength := Decimal.length_padded hpos hn
  have ne_nil := Decimal.padded_ne_nil places n
  have hstretch : Text.IsStretch isDigit (padded places n) rest :=
    ⟨Decimal.isDigit_of_mem_padded places n, stops⟩
  have hnano : nanoseconds (padded places n) = n * 10 ^ (9 - places) := by
    rw [nanoseconds, List.take_of_length_le (hlength.trans_le hle), Decimal.digitsValue_padded,
      hlength]
  rw [readAll_cons, read.eq_def]
  simp only [hstretch.takeWhile_eq, hstretch.dropWhile_eq]
  cases hpadded : padded places n with
  | nil => exact absurd hpadded ne_nil
  | cons c cs =>
    rw [hpadded] at hnano
    simp only [hnano, Option.bind_some]

theorem readAll_zone_nil : readAll p (zone :: items) [] = none := rfl

theorem readAll_zone {sign : Char} (hsign : sign = '+' ∨ sign = '-') {hour minute : Nat}
    (hhour : hour < 100) (hminute : minute < 60) (rest : List Char) :
    readAll p (zone :: items) (sign :: (padded 2 hour ++ ':' :: (padded 2 minute ++ rest))) =
      readAll { p with offset := if sign = '+' then (3600 * hour + 60 * minute : Int)
        else -(3600 * hour + 60 * minute) } items rest := by
  have hdigits := Decimal.isDigit_of_mem_padded 2 hour
  have hdigits' := Decimal.isDigit_of_mem_padded 2 minute
  have hvalue := Decimal.digitsValue_padded 2 hour
  have hvalue' := Decimal.digitsValue_padded 2 minute
  obtain ⟨h₁, h₂, hpair⟩ := List.length_eq_two.1 (Decimal.length_padded (by decide) hhour)
  have hbound : minute < 10 ^ 2 := by omega
  obtain ⟨m₁, m₂, hpair'⟩ := List.length_eq_two.1 (Decimal.length_padded (by decide) hbound)
  rw [hpair] at hdigits hvalue ⊢
  rw [hpair'] at hdigits' hvalue' ⊢
  simp only [List.forall_mem_cons] at hdigits hdigits'
  rw [readAll_cons, read]
  rcases hsign with rfl | rfl <;>
    simp [readZone, hdigits, hdigits', hvalue, hvalue', hminute]

end ShapeItem

end FieldRules
