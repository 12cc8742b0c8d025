import FieldRules.Decimal.Numeral

namespace FieldRules.Decimal

-- The powers below are core's, whichever instances a wider import brings.
attribute [local instance (high)] instPowNat

theorem digitsValue_eq (ds : List Char) : digitsValue ds = Nat.ofDigitChars 10 ds 0 := rfl

theorem isDigit_of_mem_toDigits {n : Nat} {c : Char} (h : c ∈ Nat.toDigits 10 n) :
    isDigit c = true :=
  Nat.isDigit_of_mem_toDigits (by decide) (by decide) h

theorem digitsValue_toString (n : Nat) : digitsValue (toString n).toList = n := by
  rw [digitsValue_eq, Nat.toString_eq_ofList_toDigits, String.toList_ofList,
    Nat.ofDigitChars_ten_toDigits]

theorem all_isDigit_toString (n : Nat) : (toString n).toList.all isDigit = true := by
  rw [Nat.toString_eq_ofList_toDigits, String.toList_ofList, List.all_eq_true]
  exact fun c => isDigit_of_mem_toDigits

/-- The digits of a number after as many zeros as there are places left. -/
def padded (width n : Nat) : List Char := (Nat.toDigits 10 n).leftpad width '0'

section Padded

variable (width n : Nat)

theorem padded_ne_nil : padded width n ≠ [] := by
  intro hnil
  exact absurd (List.append_eq_nil_iff.1 hnil).2 Nat.toDigits_ne_nil

theorem isDigit_of_mem_padded : ∀ c ∈ padded width n, isDigit c = true := by
  intro c hc
  rcases List.mem_append.1 hc with hzero | hdigit
  · rw [List.eq_of_mem_replicate hzero]
    decide
  · exact isDigit_of_mem_toDigits hdigit

theorem digitsValue_padded : digitsValue (padded width n) = n := by
  rw [digitsValue_eq, padded, List.leftpad, Nat.ofDigitChars_append,
    Nat.ofDigitChars_replicate_zero, Nat.mul_zero, Nat.ofDigitChars_ten_toDigits]

variable {width n}

theorem length_padded (hwidth : 0 < width) (hn : n < 10 ^ width) :
    (padded width n).length = width := by
  rw [padded, List.length_leftpad]
  exact Nat.max_eq_left ((Nat.length_toDigits_le_iff (by decide) hwidth).2 hn)

end Padded

example : padded 4 37 = ['0', '0', '3', '7'] := by decide

end FieldRules.Decimal
