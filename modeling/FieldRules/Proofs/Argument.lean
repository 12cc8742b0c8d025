import FieldRules.Engine.Validator
import FieldRules.Proofs.Decimal.Digits
import FieldRules.Proofs.Directive

namespace FieldRules

/-- The placeholders of a rule have different names, and none of them is that of the field or of a
position. -/
theorem Builtin.find?_placeholder {rule : Builtin} {placeholder : Placeholder}
    (h : placeholder ∈ rule.placeholders) :
    placeholder.name ≠ "attribute" ∧ placeholder.name.toList.all Decimal.isDigit = false ∧
      rule.placeholders.find? (·.name == placeholder.name) = some placeholder := by
  have hall : ∀ p ∈ rule.placeholders, p.name ≠ "attribute" ∧
      p.name.toList.all Decimal.isDigit = false ∧
      rule.placeholders.find? (·.name == p.name) = some p := by
    cases rule <;> decide
  exact hall placeholder h

namespace Wording

variable (w : Wording) (d : Directive) (field : String)

/-- A position is filled with the argument that stands there. -/
theorem resolve_position (index : Nat) : w.resolve d field (toString index) = d.args[index]? := by
  have hdigits := Decimal.all_isDigit_toString index
  have hname : toString index ≠ "attribute" := by
    intro hsame
    rw [hsame] at hdigits
    revert hdigits
    decide
  rw [resolve, if_neg hname, if_pos hdigits, Decimal.digitsValue_toString]

/-- A placeholder of a built-in rule is filled as the catalog says. -/
theorem resolve_placeholder {rule : Builtin} {placeholder : Placeholder}
    (hrule : Builtin.ofName? d.name = some rule) (h : placeholder ∈ rule.placeholders) :
    w.resolve d field placeholder.name = w.fillPlaceholder d.args placeholder := by
  obtain ⟨hname, hdigits, hfind⟩ := Builtin.find?_placeholder h
  rw [resolve, if_neg hname, if_neg (by simp [hdigits]), hrule, Option.bind_eq_bind,
    Option.bind_some, hfind]
  rfl

end Wording

namespace Directive

/-- A directive is read back from its text if and only if its name is trimmed and has no colon and
no blank ends its argument, as with all that is parsed. The arguments that its rule sees are those
that its message shows. -/
theorem read_back_iff (d : Directive) :
    (parse d.text = d ↔ ':' ∉ d.name.toList ∧ Text.IsTrimmed d.name.toList ∧
      ∀ argument, d.argument = some argument → Text.EndsClear argument.toList) ∧
    (∀ token, (parse token).IsLegible ∧ parse (parse token).text = parse token) ∧
    (∀ argument, d.argument = some argument →
      d.args ≠ [] ∧ ",".intercalate d.args = argument ∧ ∀ part ∈ d.args, ',' ∉ part.toList) ∧
    ∀ (plan : Plan) (v : Validator) (step : Step), step.directive = d →
      let s := plan.subject v.input step
      let f := v.failureOf step
      s.args = d.args ∧
      (∀ index, v.wording.resolve f.directive f.field (toString index) = s.arg? index) ∧
      ∀ rule placeholder, Builtin.ofName? d.name = some rule → placeholder ∈ rule.placeholders →
        v.wording.resolve f.directive f.field placeholder.name =
          v.wording.fillPlaceholder s.args placeholder := by
  refine ⟨?_, fun token => ⟨isLegible_parse token, parse_text_parse token⟩, ?_, ?_⟩
  · rw [parse_text_iff]
    exact ⟨fun h => ⟨h.no_colon, h.name_trimmed, h.argument_ends⟩, fun h => ⟨h.1, h.2.1, h.2.2⟩⟩
  · intro argument hargument
    have hargs : d.args = Text.splitAll ',' argument := by rw [args, hargument, splitArgument]
    have hcut := Text.isCut_splitAll ',' argument
    rw [hargs]
    exact ⟨hcut.ne_nil, hcut.joined, hcut.clear⟩
  · intro plan v step hstep s f
    have hdirective : f.directive = d := hstep
    have hargs : s.args = d.args := by rw [← hstep]; rfl
    refine ⟨hargs, fun index => ?_, fun rule placeholder hrule h => ?_⟩
    · rw [hdirective, Subject.arg?, hargs]
      exact v.wording.resolve_position d f.field index
    · rw [hdirective, hargs]
      exact v.wording.resolve_placeholder d f.field hrule h

/-- A code that should have a length between two bounds; there is a blank before the first, and one
too many between them. -/
def codeStep : Step where
  field := "code"
  directive := ⟨"between", some " 3,,10"⟩
  predicate := .builtin .between
  implicit := false
  numeric := false

/-- The directive is parsed from a token with blanks around the name, and read back from its text;
the second bound that the message shows is the empty one that the rule sees. -/
theorem read_back_iff_between :
    let d := codeStep.directive
    let v : Validator := ⟨[("code", .string "x")], Dict.empty, {}, MessageBag.empty⟩
    let s := Plan.subject ⟨[codeStep], Builtin.required.judge, true⟩ v.input codeStep
    d = parse "\u2003between : 3,,10\n" ∧ d.text = "between: 3,,10" ∧ parse d.text = d ∧
    d.argument = some " 3,,10" ∧ d.args = [" 3", "", "10"] ∧ ",".intercalate d.args = " 3,,10" ∧
    s.args = d.args ∧ v.wording.resolve d "code" "2" = s.arg? 2 ∧
    (Builtin.ofName? d.name = some .between ∧ Placeholder.arg "max" 1 ∈ Builtin.between.placeholders ∧
      v.wording.resolve d "code" "max" = v.wording.fillPlaceholder s.args (.arg "max" 1)) ∧
    v.wording.resolve d "code" "max" = some "" := by
  intro d v s
  obtain ⟨hread, -, hargs, hstep⟩ := read_back_iff d
  obtain ⟨hsame, hposition, hplaceholder⟩ :=
    hstep ⟨[codeStep], Builtin.required.judge, true⟩ v codeStep rfl
  have hlegible : d = parse "\u2003between : 3,,10\n" := by decide +kernel
  have hin : Placeholder.arg "max" 1 ∈ Builtin.between.placeholders := by decide
  have hmax := hplaceholder .between (.arg "max" 1) rfl hin
  refine ⟨hlegible, by decide, hread.2 ⟨by decide, by decide, ?_⟩, rfl, by decide, (hargs _ rfl).2.1,
    hsame, hposition 2, ⟨rfl, hin, hmax⟩, hmax.trans (by decide)⟩
  rintro argument ⟨⟩
  decide

end Directive

end FieldRules
