import FieldRules.Proofs.Decimal.Finite
import FieldRules.Proofs.Pattern.Language
import FieldRules.Proofs.Reference

namespace FieldRules

namespace Unicode

variable {c : Char} (h : isDecimalDigit c = true)
include h

/-- A decimal digit is an ASCII digit, or it comes long after ASCII. -/
theorem isDigit_or_le_of_isDecimalDigit : Decimal.isDigit c = true ∨ 0x660 ≤ c.toNat := by
  obtain ⟨first, hmem, hrange⟩ := List.any_eq_true.1 h
  simp only [Bool.and_eq_true, decide_eq_true_eq] at hrange
  have hfirst : ∀ first ∈ digitZeros, first = 0x30 ∨ 0x660 ≤ first := by decide
  obtain rfl | hlarge := hfirst first hmem
  · left
    simp only [Decimal.isDigit, Bool.and_eq_true, decide_eq_true_eq, Char.le_def,
      UInt32.le_iff_toNat_le]
    exact hrange
  · exact .inr (hlarge.trans hrange.1)

theorem ne_of_isDecimalDigit {d : Char} (hd : isDecimalDigit d = false) : c ≠ d := by
  rintro rfl
  simp [hd] at h

theorem toLower_of_isDecimalDigit : c.toLower = c := by
  have hrange : ¬(65 ≤ c.toNat ∧ c.toNat ≤ 90) := by
    obtain hdigit | hlarge := isDigit_or_le_of_isDecimalDigit h
    · simp only [Decimal.isDigit, Bool.and_eq_true, decide_eq_true_eq, Char.le_def,
        UInt32.le_iff_toNat_le] at hdigit
      have hupper : c.toNat ≤ 57 := hdigit.2
      omega
    · omega
  unfold Char.toLower
  rw [dif_neg]
  rintro ⟨hlower, hupper⟩
  exact hrange ⟨UInt32.le_iff_toNat_le.1 hlower, UInt32.le_iff_toNat_le.1 hupper⟩

end Unicode

namespace Decimal

/-- An integer as it is written: perhaps a minus, then digits. -/
def integerText (negative : Bool) (digits : List Char) : List Char :=
  if negative then '-' :: digits else digits

/-- The digits are read as a number: they are ASCII digits, and the number is not rounded to
infinity. -/
def IsReadable (digits : List Char) : Prop :=
  digits.all isDigit = true ∧ digitsValue digits < 2 ^ 1024 - 2 ^ 970

instance (digits : List Char) : Decidable (IsReadable digits) :=
  inferInstanceAs (Decidable (_ ∧ _))

section Reading

variable {digits : List Char} (hne : digits ≠ [])
  (hdigits : ∀ c ∈ digits, Unicode.isDecimalDigit c = true)
include hne hdigits

theorem takeSign_integerText (negative : Bool) :
    takeSign (integerText negative digits) = (negative, digits) := by
  cases negative with
  | true => rfl
  | false =>
    cases digits with
    | nil => exact absurd rfl hne
    | cons c cs =>
      have hc := hdigits c List.mem_cons_self
      have hminus := Unicode.ne_of_isDecimalDigit hc (d := '-') (by decide)
      have hplus := Unicode.ne_of_isDecimalDigit hc (d := '+') (by decide)
      simp [integerText, takeSign, hminus, hplus]

/-- Digits are none of the words that stand for infinity or for no number. -/
theorem lower_ne_of_digits {d : Char} (hd : Unicode.isDecimalDigit d = false) (word : List Char) :
    lower digits ≠ d :: word := by
  cases digits with
  | nil => exact absurd rfl hne
  | cons c cs =>
    have hc := hdigits c List.mem_cons_self
    have hdiff := Unicode.ne_of_isDecimalDigit hc hd
    simp [lower, Unicode.toLower_of_isDecimalDigit hc, hdiff]

omit hdigits in
theorem readUnsigned_of_ascii (negative : Bool) (h : digits.all isDigit = true) :
    readUnsigned negative digits = some ⟨negative, digits, [], 0⟩ := by
  rw [List.all_eq_true] at h
  have htake : digits.takeWhile isDigit = digits := List.takeWhile_eq_self_iff.2 h
  have hdrop : digits.dropWhile isDigit = [] := List.dropWhile_eq_nil_iff.2 h
  simp [readUnsigned, htake, hdrop, hne, readExponent]

omit hne in
theorem readUnsigned_of_not_ascii (negative : Bool) (h : ¬digits.all isDigit = true) :
    readUnsigned negative digits = none := by
  cases hdrop : digits.dropWhile isDigit with
  | nil => exact absurd (List.all_eq_true.2 (List.dropWhile_eq_nil_iff.1 hdrop)) h
  | cons c rest =>
    have hmem : c ∈ digits := by
      have hsuffix : (c :: rest).IsSuffix digits := hdrop ▸ List.dropWhile_suffix isDigit
      exact hsuffix.subset List.mem_cons_self
    have hc := hdigits c hmem
    have hpoint := Unicode.ne_of_isDecimalDigit hc (d := '.') (by decide)
    have hexponent : readExponent (c :: rest) = none := by
      have he := Unicode.ne_of_isDecimalDigit hc (d := 'e') (by decide)
      have hE := Unicode.ne_of_isDecimalDigit hc (d := 'E') (by decide)
      simp [readExponent, he, hE]
    unfold readUnsigned
    rw [hdrop]
    simp [hpoint, hexponent]

/-- The number that an integer text writes, if its digits are ASCII digits. -/
theorem readReal_integerText (negative : Bool) :
    readReal (integerText negative digits) =
      if digits.all isDigit then some (toFloat negative (digitsValue digits) 0) else none := by
  have hi : Unicode.isDecimalDigit 'i' = false := by decide
  have hn : Unicode.isDecimalDigit 'n' = false := by decide
  have hinf : lower digits ≠ "inf".toList := lower_ne_of_digits hne hdigits hi ['n', 'f']
  have hinfinity : lower digits ≠ "infinity".toList :=
    lower_ne_of_digits hne hdigits hi ['n', 'f', 'i', 'n', 'i', 't', 'y']
  have hnan : lower digits ≠ "nan".toList := lower_ne_of_digits hne hdigits hn ['a', 'n']
  have hread : readReal (integerText negative digits) =
      (readUnsigned negative digits).map Numeral.toFloat := by
    unfold readReal
    rw [takeSign_integerText hne hdigits]
    dsimp only
    rw [decide_eq_false hinf, decide_eq_false hinfinity, Bool.or_self, if_neg Bool.false_ne_true,
      if_neg hnan]
  rw [hread]
  split
  · next hall =>
    rw [readUnsigned_of_ascii hne negative hall]
    simp [Numeral.toFloat]
  · next hall => rw [readUnsigned_of_not_ascii hdigits negative hall]; rfl

end Reading

end Decimal

/-- A text between blanks that writes an integer is read as its number if the digits are readable,
and else not as a number. -/
theorem Json.asNumber_integerText {text : String} {negative : Bool} {digits : List Char}
    (htext : Text.trimChars text.toList = Decimal.integerText negative digits)
    (hne : digits ≠ []) (hdigits : ∀ c ∈ digits, Unicode.isDecimalDigit c = true) :
    (Json.string text).asNumber =
      if Decimal.IsReadable digits then
        some (Decimal.toFloat negative (Decimal.digitsValue digits) 0)
      else none := by
  have hfinite := Decimal.isFinite_toFloat_iff negative (Decimal.digitsValue digits)
  rw [asNumber, htext, Decimal.readReal_integerText hne hdigits]
  by_cases hascii : digits.all Decimal.isDigit = true
  · rw [if_pos hascii]
    by_cases hbound : Decimal.digitsValue digits < 2 ^ 1024 - 2 ^ 970
    · rw [if_pos ⟨hascii, hbound⟩, Option.filter_some, if_pos (hfinite.2 hbound)]
    · rw [if_neg fun hread => hbound hread.2, Option.filter_some, if_neg (mt hfinite.1 hbound)]
  · rw [if_neg hascii, if_neg fun hread => hascii hread.1]
    rfl

namespace Builtin

/-- The texts of the integer form: perhaps a minus, then decimal digits of any script. -/
theorem occursIn_integerForm_iff (text : String) :
    integerForm.occursIn text = true ↔
      ∃ negative digits, text.toList = Decimal.integerText negative digits ∧ digits ≠ [] ∧
        ∀ c ∈ digits, Unicode.isDecimalDigit c = true := by
  rw [integerForm, Pattern.occursIn_whole_iff (by decide)]
  simp only [Pattern.mem_language_sequence_cons, Pattern.mem_language_sequence_nil,
    Pattern.mem_language_optional, Pattern.mem_language_char, Pattern.mem_language_plus_one]
  constructor
  · rintro ⟨sign, hsign, rest, ⟨digits, ⟨hne, hdigits⟩, last, rfl, rfl⟩, htext⟩
    rw [List.append_nil] at htext
    rcases hsign with rfl | rfl
    · exact ⟨false, digits, htext.symm, hne, hdigits⟩
    · exact ⟨true, digits, htext.symm, hne, hdigits⟩
  · rintro ⟨negative, digits, htext, hne, hdigits⟩
    have hrest : digits ++ [] = digits := List.append_nil _
    cases negative with
    | false => exact ⟨[], .inl rfl, digits, ⟨digits, ⟨hne, hdigits⟩, [], rfl, hrest⟩, htext.symm⟩
    | true => exact ⟨['-'], .inr rfl, digits, ⟨digits, ⟨hne, hdigits⟩, [], rfl, hrest⟩, htext.symm⟩

/-- A rule that measures its value sees nothing else of it. -/
theorem holds_of_size {rule : Builtin} (hrule : rule.isSizeAware = true) {s s' : Subject}
    (hsize : s.size? = s'.size?) (hargument : s.argument = s'.argument) :
    rule.holds s = rule.holds s' := by
  have hbound (index : Nat) : s.numericArg? index = s'.numericArg? index := by
    rw [Subject.numericArg?, Subject.numericArg?, Subject.arg?, Subject.arg?, Subject.args,
      Subject.args, hargument]
  cases rule with
  | min | max | between | size => simp only [holds, hsize, hbound]
  | _ => simp [isSizeAware] at hrule

/-- A rule that measures a value compares it as the number of its measure. -/
theorem holds_of_measure {rule : Builtin} (hrule : rule.isSizeAware = true) {s : Subject}
    {x : Float} (hsize : s.size? = some x) :
    rule.holds s = rule.holds { s with value := .number (.real x) } :=
  holds_of_size hrule hsize rfl

end Builtin

theorem SizeKind.of_string (text : String) :
    SizeKind.of true (.string text) =
      if (Json.string text).asNumber.isSome then .numeric else .string := by
  simp [SizeKind.of]

theorem Json.size?_string (text : String) :
    (Json.string text).size? true =
      some ((Json.string text).asNumber.getD (Decimal.ofInt text.length)) := by
  unfold Json.size?
  rw [SizeKind.of_string]
  cases (Json.string text).asNumber <;> rfl

namespace Subject

variable {s : Subject} {text : String} {negative : Bool} {digits : List Char}
  (hvalue : s.value = .string text) (hnumeric : s.numeric = true)
  (htext : Text.trimChars text.toList = Decimal.integerText negative digits)
  (hne : digits ≠ []) (hdigits : ∀ c ∈ digits, Unicode.isDecimalDigit c = true)
include hvalue htext hne hdigits

theorem numeric_holds_iff_isReadable :
    Builtin.numeric.holds s = true ↔ Decimal.IsReadable digits := by
  rw [Builtin.holds, hvalue, Json.asNumber_integerText htext hne hdigits]
  split <;> simp [*]

include hnumeric

theorem kind_eq_numeric_iff_isReadable :
    SizeKind.of s.numeric s.value = .numeric ↔ Decimal.IsReadable digits := by
  rw [hnumeric, hvalue, SizeKind.of_string, Json.asNumber_integerText htext hne hdigits]
  split <;> simp [*]

theorem size?_integerText :
    s.size? = some (if Decimal.IsReadable digits then
        Decimal.toFloat negative (Decimal.digitsValue digits) 0
      else Decimal.ofInt text.length) := by
  rw [size?, hvalue, hnumeric, Json.size?_string, Json.asNumber_integerText htext hne hdigits]
  split <;> rfl

end Subject

namespace Validator

/-- A text that is accepted as an integer is measured by the number that it writes exactly if its
digits are ASCII digits and the number is finite; any other is measured by its characters. The rules
on sizes see nothing but this measure. -/
theorem integer_measured_by_value_iff (v : Validator) (context : Context)
    {entry : String × Directive} (carried : v.rules.hasRule entry.1 "integer" = true)
    (accepted : Builtin.integer.holds (v.subjectOf context entry) = true) :
    let s := v.subjectOf context entry
    ∃ x, s.size? = some x ∧
      (∀ rule : Builtin, rule.isSizeAware = true →
        rule.holds s = rule.holds { s with value := .number (.real x) }) ∧
      ((∃ n, s.value = .number n ∧ Builtin.numeric.holds s = true ∧
        SizeKind.of s.numeric s.value = .numeric ∧ s.value.asNumber = some x ∧ x = n.toFloat) ∨
      ∃ text negative digits, s.value = .string text ∧
        Text.trimChars text.toList = Decimal.integerText negative digits ∧ digits ≠ [] ∧
        (∀ c ∈ digits, Unicode.isDecimalDigit c = true) ∧
        (Builtin.numeric.holds s = true ↔ Decimal.IsReadable digits) ∧
        (SizeKind.of s.numeric s.value = .numeric ↔ Decimal.IsReadable digits) ∧
        (Decimal.IsReadable digits → s.value.asNumber = some x) ∧
        x = if Decimal.IsReadable digits then
            Decimal.toFloat negative (Decimal.digitsValue digits) 0
          else Decimal.ofInt text.length) := by
  intro s
  have hnumeric : s.numeric = true := by
    show v.rules.isNumeric entry.1 = true
    rw [RuleSet.isNumeric, carried, Bool.or_true]
  cases hvalue : s.value with
  | number n =>
    have hsize : s.size? = some n.toFloat := by
      rw [Subject.size?, hvalue]
      rfl
    refine ⟨n.toFloat, hsize, fun rule hrule => Builtin.holds_of_measure hrule hsize, .inl ?_⟩
    refine ⟨n, rfl, ?_, rfl, rfl, rfl⟩
    rw [Builtin.holds, hvalue]
    rfl
  | string text =>
    have hform : Builtin.integerForm.occursIn (Text.trim text) = true := by
      have hholds : Builtin.isInteger s.value = true := accepted
      rwa [hvalue] at hholds
    obtain ⟨negative, digits, htext, hne, hdigits⟩ :=
      (Builtin.occursIn_integerForm_iff _).1 hform
    rw [Text.trim_toList] at htext
    have hsize := Subject.size?_integerText hvalue hnumeric htext hne hdigits
    have hkind := Subject.kind_eq_numeric_iff_isReadable hvalue hnumeric htext hne hdigits
    rw [hvalue] at hkind
    refine ⟨_, hsize, fun rule hrule => Builtin.holds_of_measure hrule hsize, .inr ?_⟩
    refine ⟨text, negative, digits, rfl, htext, hne, hdigits,
      Subject.numeric_holds_iff_isReadable hvalue htext hne hdigits, hkind, ?_, rfl⟩
    intro hreadable
    rw [Json.asNumber_integerText htext hne hdigits, if_pos hreadable, if_pos hreadable]
  | _ =>
    have hholds : Builtin.isInteger s.value = true := accepted
    simp [hvalue, Builtin.isInteger] at hholds

/-- An integer of four characters and a blank, that should be at least minus seven. -/
def paddedInteger : Validator where
  input := [("n", .string "-007 ")]
  rules := Dict.ofList [("n", [⟨"min", some "-7"⟩, ⟨"integer", none⟩])]
  wording := {}
  bag := MessageBag.empty

theorem integer_measured_by_value_padded :
    let s := paddedInteger.subjectOf Context.initial ("n", ⟨"min", some "-7"⟩)
    let x := Decimal.toFloat true 7 0
    paddedInteger.rules.hasRule "n" "integer" = true ∧ Builtin.integer.holds s = true ∧
      Builtin.numeric.holds s = true ∧ SizeKind.of s.numeric s.value = .numeric ∧
      s.size? = some x ∧ Builtin.min.holds s = Builtin.min.holds { s with value := .number (.real x) }
    := by
  intro s x
  have carried : paddedInteger.rules.hasRule "n" "integer" = true := by decide +kernel
  have accepted : Builtin.integer.holds s = true := by decide +kernel
  have hs : s.value = .string "-007 " := rfl
  have hchars : Text.trimChars "-007 ".toList = ['-', '0', '0', '7'] := by decide +kernel
  obtain ⟨y, hsize, hrules, ⟨n, hvalue, -⟩ |
      ⟨text, negative, digits, hvalue, htext, -, hdigits, hnumeric, hkind, -, hy⟩⟩ :=
    @integer_measured_by_value_iff paddedInteger Context.initial ("n", ⟨"min", some "-7"⟩)
      carried accepted
  · exact absurd (hs.symm.trans hvalue) (by simp)
  · obtain rfl := Json.string.inj (hs.symm.trans hvalue)
    rw [hchars] at htext
    cases negative with
    | false =>
      have hfirst : digits = ['-', '0', '0', '7'] := htext.symm
      have hminus := hdigits '-' (hfirst ▸ List.mem_cons_self)
      exact absurd hminus (by decide)
    | true =>
      obtain rfl := (List.cons.inj htext).2
      have hread : Decimal.IsReadable ['0', '0', '7'] :=
        ⟨by decide +kernel, (Decimal.isFinite_toFloat_iff true _).1 (by decide +kernel)⟩
      rw [if_pos hread] at hy
      subst hy
      exact ⟨carried, accepted, hnumeric.2 hread, hkind.2 hread, hsize, hrules .min rfl⟩

/-- An integer that should be at most two, written with the digit three of another script. -/
def foreignDigit : Validator where
  input := [("n", .string "٣")]
  rules := Dict.ofList [("n", [⟨"integer", none⟩, ⟨"max", some "2"⟩])]
  wording := {}
  bag := MessageBag.empty

/-- It is accepted as an integer and as one character, while the ASCII digit is too large. -/
theorem foreign_digit_passes_max :
    let s := foreignDigit.subjectOf Context.initial ("n", ⟨"max", some "2"⟩)
    Builtin.integer.holds s = true ∧ Builtin.numeric.holds s = false ∧
      SizeKind.of s.numeric s.value = .string ∧
      foreignDigit.outcome Context.initial = some (true, []) ∧
      { foreignDigit with input := [("n", .string "3")] }.outcome Context.initial =
        some (false, [("n", ["The n may not be greater than 2."])]) := by
  decide +kernel

end Validator

end FieldRules
