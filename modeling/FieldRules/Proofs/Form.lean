import FieldRules.Proofs.Integer
import FieldRules.Proofs.Text.Trimmed

namespace FieldRules

namespace Form

/-- An ASCII letter. -/
def IsLetter (c : Char) : Prop := ('a' ≤ c ∧ c ≤ 'z') ∨ ('A' ≤ c ∧ c ≤ 'Z')

/-- An ASCII digit. -/
def IsDigit (c : Char) : Prop := '0' ≤ c ∧ c ≤ '9'

/-- There are no blanks and one at sign, with something before it and after it a point that neither
begins nor ends what is there. -/
structure IsMail (cs : List Char) : Prop where
  clear : ∀ c ∈ cs, Text.isBlank c = false
  one_at : cs.count '@' = 1
  parts : ∃ user host, cs = user ++ '@' :: host ∧ user ≠ [] ∧
    ∃ front back, host = front ++ '.' :: back ∧ front ≠ [] ∧ back ≠ []

theorem isAlpha_iff {c : Char} : c.isAlpha = true ↔ IsLetter c := by
  simp only [Char.isAlpha, Char.isUpper, Char.isLower, Bool.or_eq_true, Bool.and_eq_true,
    decide_eq_true_eq, IsLetter, Char.le_def]
  exact or_comm

theorem isAlphanum_iff {c : Char} : c.isAlphanum = true ↔ IsLetter c ∨ IsDigit c := by
  rw [Char.isAlphanum, Bool.or_eq_true, isAlpha_iff]
  simp only [Char.isDigit, Bool.and_eq_true, decide_eq_true_eq, IsDigit, Char.le_def]

/-- A form of one or more characters of a kind. -/
theorem occursIn_whole_plus_one_iff (accepts : Char → Bool) (text : String) :
    (Pattern.whole (.plus (.one accepts))).occursIn text = true ↔
      text ≠ "" ∧ ∀ c ∈ text.toList, accepts c = true := by
  rw [Pattern.occursIn_whole_iff rfl, Pattern.mem_language_plus_one, ne_eq, ne_eq,
    String.toList_eq_nil_iff]

theorem isMailChar_iff {c : Char} :
    Builtin.isMailChar c = true ↔ Text.isBlank c = false ∧ c ≠ '@' := by
  simp [Builtin.isMailChar]

/-- The at sign of such a text stands between parts without one. -/
theorem isMail_iff {cs : List Char} :
    IsMail cs ↔ ∃ user front back, cs = user ++ '@' :: (front ++ '.' :: back) ∧
      (user ≠ [] ∧ ∀ c ∈ user, Text.isBlank c = false ∧ c ≠ '@') ∧
      (front ≠ [] ∧ ∀ c ∈ front, Text.isBlank c = false ∧ c ≠ '@') ∧
      (back ≠ [] ∧ ∀ c ∈ back, Text.isBlank c = false ∧ c ≠ '@') := by
  constructor
  · rintro ⟨hclear, hone, user, _, rfl, huser, front, back, rfl, hfront, hback⟩
    simp only [List.count_append, List.count_cons, beq_self_eq_true, if_true] at hone
    have hpoint : ('.' == '@') = false := by decide
    simp only [hpoint, Bool.false_eq_true, if_false] at hone
    have hpart {part : List Char} (hin : ∀ c ∈ part, Text.isBlank c = false)
        (hcount : part.count '@' = 0) : ∀ c ∈ part, Text.isBlank c = false ∧ c ≠ '@' := by
      rintro c hc
      exact ⟨hin c hc, fun he => List.count_eq_zero.1 hcount (he ▸ hc)⟩
    refine ⟨user, front, back, rfl, ⟨huser, hpart ?_ (by omega)⟩, ⟨hfront, hpart ?_ (by omega)⟩,
      ⟨hback, hpart ?_ (by omega)⟩⟩
    · exact fun c hc => hclear c (by simp [hc])
    · exact fun c hc => hclear c (by simp [hc])
    · exact fun c hc => hclear c (by simp [hc])
  · rintro ⟨user, front, back, rfl, ⟨huser, huserChars⟩, ⟨hfront, hfrontChars⟩, hback, hbackChars⟩
    have hnone {part : List Char} (h : ∀ c ∈ part, Text.isBlank c = false ∧ c ≠ '@') :
        part.count '@' = 0 := List.count_eq_zero.2 fun hm => (h '@' hm).2 rfl
    constructor
    · intro c hc
      simp only [List.mem_append, List.mem_cons] at hc
      obtain hc | rfl | hc | rfl | hc := hc
      · exact (huserChars c hc).1
      · decide
      · exact (hfrontChars c hc).1
      · decide
      · exact (hbackChars c hc).1
    · simp [hnone huserChars, hnone hfrontChars, hnone hbackChars]
    · exact ⟨user, _, rfl, huser, front, back, rfl, hfront, hback⟩

theorem occursIn_emailForm_iff (text : String) :
    Builtin.emailForm.occursIn text = true ↔ IsMail text.toList := by
  rw [Builtin.emailForm, Pattern.occursIn_whole_iff (by decide), isMail_iff]
  simp only [Pattern.mem_language_sequence_cons, Pattern.mem_language_sequence_nil,
    Pattern.mem_language_char, Pattern.mem_language_plus_one, isMailChar_iff]
  constructor
  · rintro ⟨user, huser, _, ⟨_, rfl, _, ⟨front, hfront, _, ⟨_, rfl, _, ⟨back, hback, _, rfl, rfl⟩,
      rfl⟩, rfl⟩, rfl⟩, htext⟩
    exact ⟨user, front, back, by simp [← htext], huser, hfront, hback⟩
  · rintro ⟨user, front, back, htext, huser, hfront, hback⟩
    exact ⟨user, huser, _, ⟨_, rfl, _, ⟨front, hfront, _, ⟨_, rfl, _, ⟨back, hback, _, rfl, rfl⟩,
      rfl⟩, rfl⟩, rfl⟩, by simp [htext]⟩

/-- No text with a line feed at the end has a form of characters that a line feed is not among. -/
theorem not_forall_mem_line {p : Char → Prop} (h : ¬p '\n') (text : String) :
    ¬∀ c ∈ (text ++ "\n").toList, p c :=
  fun hall => h (hall '\n' (by simp))

end Form

namespace Builtin

/-- The rules that ask for texts of certain characters, whatever the value is otherwise. -/
def formRules : List Builtin := [alpha, alphaNum, alphaDash, email]

variable (s : Subject)

theorem holds_of_form_iff {rule : Builtin} {form : Pattern} {p : String → Prop}
    (hrule : rule.holds s = s.hasForm form)
    (hform : ∀ text, form.occursIn text = true ↔ p text) :
    rule.holds s = true ↔ ∃ text, s.value.asText = some text ∧ p text := by
  rw [hrule, Subject.hasForm]
  cases s.value.asText with
  | none => simp
  | some text => simp [hform]

theorem alpha_holds_iff : alpha.holds s = true ↔
    ∃ text, s.value.asText = some text ∧ text ≠ "" ∧ ∀ c ∈ text.toList, Form.IsLetter c := by
  refine holds_of_form_iff s rfl fun text => ?_
  rw [alphaForm, Form.occursIn_whole_plus_one_iff]
  simp only [Form.isAlpha_iff]

theorem alphaNum_holds_iff : alphaNum.holds s = true ↔
    ∃ text, s.value.asText = some text ∧ text ≠ "" ∧
      ∀ c ∈ text.toList, Form.IsLetter c ∨ Form.IsDigit c := by
  refine holds_of_form_iff s rfl fun text => ?_
  rw [alphaNumForm, Form.occursIn_whole_plus_one_iff]
  simp only [Form.isAlphanum_iff]

theorem alphaDash_holds_iff : alphaDash.holds s = true ↔
    ∃ text, s.value.asText = some text ∧ text ≠ "" ∧
      ∀ c ∈ text.toList, Form.IsLetter c ∨ Form.IsDigit c ∨ c = '_' ∨ c = '-' := by
  refine holds_of_form_iff s rfl fun text => ?_
  rw [alphaDashForm, Form.occursIn_whole_plus_one_iff]
  simp only [Bool.or_eq_true, Form.isAlphanum_iff, beq_iff_eq, or_assoc]

theorem email_holds_iff : email.holds s = true ↔
    ∃ text, s.value.asText = some text ∧ Form.IsMail text.toList :=
  holds_of_form_iff s rfl Form.occursIn_emailForm_iff

/-- Of a text, the rule for integers sees what is left when it is trimmed. -/
theorem integer_holds_iff {text : String} (hvalue : s.value = .string text) :
    integer.holds s = true ↔
      ∃ negative digits, Text.trimChars text.toList = Decimal.integerText negative digits ∧
        digits ≠ [] ∧ ∀ c ∈ digits, Unicode.isDecimalDigit c = true := by
  rw [holds, hvalue, isInteger, occursIn_integerForm_iff, Text.trim_toList]

/-- A value without a text has no form. -/
theorem fails_of_no_text {rule : Builtin} (hrule : rule ∈ formRules)
    (hnone : s.value.asText = none) : rule.holds s = false := by
  have hform (form : Pattern) : s.hasForm form = false := by rw [Subject.hasForm, hnone]
  simp only [formRules, List.mem_cons, List.not_mem_nil, or_false] at hrule
  obtain rfl | rfl | rfl | rfl := hrule <;> exact hform _

/-- No form covers a line feed at the end. -/
theorem fails_of_line {rule : Builtin} (hrule : rule ∈ formRules)
    {text : String} (htext : s.value.asText = some (text ++ "\n")) : rule.holds s = false := by
  have hline {line : String} (h : s.value.asText = some line) : line = text ++ "\n" :=
    (Option.some.inj (htext.symm.trans h)).symm
  rw [← Bool.not_eq_true]
  simp only [formRules, List.mem_cons, List.not_mem_nil, or_false] at hrule
  obtain rfl | rfl | rfl | rfl := hrule
  · rw [alpha_holds_iff]
    rintro ⟨line, h, -, hall⟩
    exact Form.not_forall_mem_line (by simp [Form.IsLetter]) text (hline h ▸ hall)
  · rw [alphaNum_holds_iff]
    rintro ⟨line, h, -, hall⟩
    exact Form.not_forall_mem_line (by simp [Form.IsLetter, Form.IsDigit]) text (hline h ▸ hall)
  · rw [alphaDash_holds_iff]
    rintro ⟨line, h, -, hall⟩
    exact Form.not_forall_mem_line (by simp [Form.IsLetter, Form.IsDigit]) text (hline h ▸ hall)
  · rw [email_holds_iff]
    rintro ⟨line, h, hmail⟩
    have hall := hmail.clear
    rw [hline h] at hall
    exact Form.not_forall_mem_line (by decide) text hall

theorem not_occursIn_integerForm_of_line (text : String) :
    integerForm.occursIn (text ++ "\n") = false := by
  rw [← Bool.not_eq_true, occursIn_integerForm_iff]
  rintro ⟨negative, digits, hcut, hne, hdigits⟩
  have hlast : digits.getLast? = some '\n' := by
    have hend : (Decimal.integerText negative digits).getLast? = some '\n' := by
      rw [← hcut, String.toList_append]
      exact List.getLast?_concat
    obtain ⟨first, rest, rfl⟩ := List.exists_cons_of_ne_nil hne
    cases negative <;> simpa [Decimal.integerText] using hend
  have hline := hdigits '\n' (List.mem_of_getLast? hlast)
  revert hline
  decide

/-- A line feed at the end is trimmed away. -/
theorem integer_holds_line {s : Subject} {text : String} (hvalue : s.value = .string text) :
    integer.holds { s with value := .string (text ++ "\n") } = integer.holds s := by
  rw [Bool.eq_iff_iff, integer_holds_iff s hvalue, integer_holds_iff _ rfl, String.toList_append]
  have hline : Text.trimChars (text.toList ++ "\n".toList) = Text.trimChars text.toList :=
    Text.trimChars_concat (by decide) text.toList
  rw [hline]

/-- The rules with a fixed form accept the texts of their characters and no others. A line feed at
the end counts as any other character, except for integers, where all blanks are trimmed first. -/
theorem forms_by_characters (s : Subject) :
    (alpha.holds s = true ↔
      ∃ text, s.value.asText = some text ∧ text ≠ "" ∧ ∀ c ∈ text.toList, Form.IsLetter c) ∧
    (alphaNum.holds s = true ↔
      ∃ text, s.value.asText = some text ∧ text ≠ "" ∧
        ∀ c ∈ text.toList, Form.IsLetter c ∨ Form.IsDigit c) ∧
    (alphaDash.holds s = true ↔
      ∃ text, s.value.asText = some text ∧ text ≠ "" ∧
        ∀ c ∈ text.toList, Form.IsLetter c ∨ Form.IsDigit c ∨ c = '_' ∨ c = '-') ∧
    (email.holds s = true ↔ ∃ text, s.value.asText = some text ∧ Form.IsMail text.toList) ∧
    (∀ rule ∈ formRules,
      ((∀ text, s.value ≠ .string text) ∧ (∀ n, s.value ≠ .number n) ∧ (∀ b, s.value ≠ .bool b) →
        rule.holds s = false) ∧
      ∀ text, s.value.asText = some (text ++ "\n") → rule.holds s = false) ∧
    (∀ text, s.value = .string text →
      (integer.holds s = true ↔
        ∃ negative digits, Text.trimChars text.toList = Decimal.integerText negative digits ∧
          digits ≠ [] ∧ ∀ c ∈ digits, Unicode.isDecimalDigit c = true) ∧
      integer.holds { s with value := .string (text ++ "\n") } = integer.holds s) ∧
    ∀ text, integerForm.occursIn (text ++ "\n") = false := by
  refine ⟨alpha_holds_iff s, alphaNum_holds_iff s, alphaDash_holds_iff s, email_holds_iff s,
    fun rule hrule => ⟨?_, fun text => fails_of_line s hrule⟩,
    fun text hvalue => ⟨integer_holds_iff s hvalue, integer_holds_line hvalue⟩,
    not_occursIn_integerForm_of_line⟩
  rintro ⟨hstring, hnumber, hbool⟩
  refine fails_of_no_text s hrule ?_
  cases hvalue : s.value with
  | string text => exact absurd hvalue (hstring text)
  | number n => exact absurd hvalue (hnumber n)
  | bool b => exact absurd hvalue (hbool b)
  | _ => rfl

/-- A field with a value. -/
def formSubject (value : Json) : Subject := Subject.ofField [("field", value)] "field" true

/-- A mail address with two points in its host, the same with a line feed, an array, and an integer
with a line feed. -/
theorem forms_by_characters_mail :
    email.holds (formSubject (.string "a@b.c.d")) = true ∧ Form.IsMail "a@b.c.d".toList ∧
      email.holds (formSubject (.string "a@b.c.d\n")) = false ∧
      alpha.holds (formSubject (.array [.string "a"])) = false ∧
      integer.holds (formSubject (.string "-٣")) = true ∧
      integer.holds (formSubject (.string "-٣\n")) = true ∧
      integerForm.occursIn "-٣\n" = false := by
  have hemail : email ∈ formRules := by simp [formRules]
  have halpha : alpha ∈ formRules := by simp [formRules]
  obtain ⟨-, -, -, hmail, -⟩ := forms_by_characters (formSubject (.string "a@b.c.d"))
  obtain ⟨-, -, -, -, hlines, -⟩ := forms_by_characters (formSubject (.string "a@b.c.d\n"))
  obtain ⟨-, -, -, -, harrays, -⟩ := forms_by_characters (formSubject (.array [.string "a"]))
  obtain ⟨-, -, -, -, -, hinteger, hform⟩ := forms_by_characters (formSubject (.string "-٣"))
  have haccepts : email.holds (formSubject (.string "a@b.c.d")) = true := by decide +kernel
  obtain ⟨text, htext, hparts⟩ := hmail.1 haccepts
  obtain rfl : "a@b.c.d" = text := Option.some.inj htext
  have hthree : integer.holds (formSubject (.string "-٣")) = true := by decide +kernel
  exact ⟨haccepts, hparts, (hlines email hemail).2 "a@b.c.d" rfl,
    (harrays alpha halpha).1 ⟨fun _ => nofun, fun _ => nofun, fun _ => nofun⟩, hthree,
    (hinteger "-٣" rfl).2.trans hthree, hform "-٣"⟩

end Builtin

end FieldRules
