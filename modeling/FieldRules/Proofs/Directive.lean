import FieldRules.Directive
import FieldRules.Proofs.Text.Trimmed

namespace FieldRules.Directive

/-- The text of the directive says what it is: no colon in the name takes a part of it for the
argument, and there is nothing to be trimmed off. -/
structure IsLegible (d : Directive) : Prop where
  no_colon : ':' ∉ d.name.toList
  name_trimmed : Text.IsTrimmed d.name.toList
  argument_ends : ∀ argument, d.argument = some argument → Text.EndsClear argument.toList

theorem toList_text_argument (name argument : String) :
    (text ⟨name, some argument⟩).toList = name.toList ++ ':' :: argument.toList := by
  simp [text]

/-- The text of a legible directive is trimmed. -/
theorem IsLegible.text_trimmed {d : Directive} (h : d.IsLegible) :
    Text.IsTrimmed d.text.toList := by
  obtain ⟨name, argument⟩ := d
  cases argument with
  | none => exact h.name_trimmed
  | some argument =>
    rw [toList_text_argument]
    constructor
    · intro c hc
      cases hname : name.toList with
      | nil =>
        obtain rfl : ':' = c := by simpa [hname] using hc
        rfl
      | cons first rest =>
        have hstarts := h.name_trimmed.starts
        exact hstarts c (by simpa [hname] using hc)
    · intro c hc
      have hends := h.argument_ends argument rfl
      cases hlast : argument.toList.getLast? with
      | none =>
        obtain rfl : ':' = c := by
          have hempty := List.getLast?_eq_none_iff.1 hlast
          simpa [hempty] using hc
        rfl
      | some last =>
        have heq : last = c := by simpa [List.getLast?_append, List.getLast?_cons, hlast] using hc
        exact hends c (heq ▸ hlast)

/-- A legible directive is read back from its text. -/
theorem parse_text {d : Directive} (h : d.IsLegible) : parse d.text = d := by
  have htrim := Text.trimChars_of_isTrimmed h.text_trimmed
  obtain ⟨name, argument⟩ := d
  rw [parse]
  simp only [htrim]
  cases argument with
  | none =>
    have hcut : Text.cutFirst ':' name.toList = none :=
      (Text.cutFirst_eq_none_iff ':' name.toList).2 h.no_colon
    simp [text, hcut]
  | some argument =>
    have hcut : Text.cutFirst ':' (name.toList ++ ':' :: argument.toList) =
        some (name.toList, argument.toList) :=
      (Text.cutFirst_eq_some_iff ':' _ _ _).2 ⟨rfl, h.no_colon⟩
    have hname : Text.trimChars name.toList = name.toList :=
      Text.trimChars_of_isTrimmed h.name_trimmed
    simp [toList_text_argument, hcut, hname]

/-- What is parsed from a token is legible, whatever the token is. -/
theorem isLegible_parse (token : String) : (parse token).IsLegible := by
  have htrimmed := Text.isTrimmed_trimChars token.toList
  rw [parse]
  cases hcut : Text.cutFirst ':' (Text.trimChars token.toList) with
  | none =>
    have hclear := (Text.cutFirst_eq_none_iff ':' _).1 hcut
    constructor
    · simpa [hcut] using hclear
    · simpa [hcut] using htrimmed
    · simp
  | some parts =>
    obtain ⟨before, after⟩ := parts
    obtain ⟨heq, hclear⟩ := (Text.cutFirst_eq_some_iff ':' _ before after).1 hcut
    have hsuffix : after <:+ Text.trimChars token.toList := ⟨before ++ [':'], by simp [heq]⟩
    constructor
    · simpa [hcut] using fun hm => hclear (Text.mem_of_mem_trimChars hm)
    · simpa [hcut] using Text.isTrimmed_trimChars before
    · simpa [hcut] using htrimmed.ends.of_isSuffix hsuffix

/-- The directives that are read back from their texts are the legible ones. -/
theorem parse_text_iff (d : Directive) : parse d.text = d ↔ d.IsLegible :=
  ⟨fun h => h ▸ isLegible_parse d.text, parse_text⟩

/-- Writing a parsed directive and parsing it again changes nothing. -/
theorem parse_text_parse (token : String) : parse (parse token).text = parse token :=
  parse_text (isLegible_parse token)

/-- The text of a directive is blank only if it was parsed from a blank token. -/
theorem isAllBlank_text_parse (token : String) :
    Text.isAllBlank (parse token).text = Text.isAllBlank token := by
  have htrimmed := Text.trimChars_of_isTrimmed (isLegible_parse token).text_trimmed
  rw [Bool.eq_iff_iff, Text.isAllBlank, Text.isAllBlank, ← Text.trimChars_eq_nil_iff,
    ← Text.trimChars_eq_nil_iff, htrimmed, parse]
  cases hcut : Text.cutFirst ':' (Text.trimChars token.toList) with
  | none => simp [text]
  | some parts =>
    obtain ⟨heq, -⟩ := (Text.cutFirst_eq_some_iff ':' _ parts.1 parts.2).1 hcut
    simp [text, heq]

end FieldRules.Directive
