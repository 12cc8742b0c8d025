import FieldRules.Proofs.Message.Precedence

namespace FieldRules

/-- A text that goes on after a separator begins with another one and a separator only if the first
part does, or is that other text. -/
theorem isPrefix_of_append_separator {α : Type} {a : α} {front part tail : List α}
    (clear : a ∉ tail) (h : front ++ [a] <+: part ++ a :: tail) :
    front = part ∨ front ++ [a] <+: part := by
  obtain ⟨rest, hrest⟩ := h
  rw [List.append_assoc, List.append_eq_append_iff] at hrest
  rcases hrest with ⟨more, rfl, hmore⟩ | ⟨more, rfl, hmore⟩
  · cases more with
    | nil => exact .inl (List.append_nil front).symm
    | cons b bs =>
      obtain rfl : a = b := (List.cons.inj hmore).1
      exact .inr ⟨bs, by simp⟩
  · cases more with
    | nil => exact .inl (List.append_nil part)
    | cons b bs =>
      obtain ⟨rfl, rfl⟩ := List.cons.inj hmore
      exact absurd (by simp) clear

namespace Phrasebook

theorem mem_of_mem_reached {book : Phrasebook} {places : List (String × String)}
    {place : String × String} (h : place ∈ book.reached places) : place ∈ places := by
  induction places with
  | nil => exact h
  | cons first rest ih =>
    rw [reached] at h
    rcases List.mem_cons.1 h with rfl | hrest
    · exact List.mem_cons_self
    · split at hrest
      · simp at hrest
      · exact List.mem_cons_of_mem first (ih hrest)

theorem isVariant_iff (rule key : String) :
    isVariant rule key = true ↔ (rule ++ ".").toList <+: key.toList := by
  rw [isVariant, List.isPrefixOf_iff_prefix, String.toList_append]
  rfl

/-- The languages other than the default one are the same as before. -/
theorem languages_setRuleMessage (book : Phrasebook) (rule message : String) {language : String}
    (h : language ≠ book.defaultLanguage) :
    (book.setRuleMessage rule message).languages.get? language = book.languages.get? language := by
  rw [setRuleMessage, update, Dict.get?_insert, if_neg h]

end Phrasebook

namespace Wording

theorem key_of_sizedKey {rule key : String} {kind : SizeKind} (h : sizedKey? rule kind = some key) :
    ∃ variant ∈ ["numeric", "string", "array"], key = rule ++ "." ++ variant := by
  unfold sizedKey? at h
  split at h
  · obtain ⟨variant, hvariant, rfl⟩ := Option.map_eq_some_iff.1 h
    refine ⟨variant, ?_, rfl⟩
    cases kind <;> simp_all [SizeKind.key?]
  · simp at h

/-- A template is looked for under the name of the rule, under one of its kinds of values, and under
the key for rules without a message. -/
theorem key_of_mem_places {w : Wording} {book : Phrasebook} {rule : String} {kind : SizeKind}
    {place : String × String} (h : place ∈ w.places book rule kind) :
    place.2 = rule ∨ place.2 = "def" ∨ sizedKey? rule kind = some place.2 := by
  rcases List.mem_append.1 h with hrule | hfallback
  · obtain ⟨language, -, hin⟩ := List.mem_flatMap.1 hrule
    rcases List.mem_append.1 hin with hsized | hname
    · obtain ⟨key, hkey, rfl⟩ := List.mem_map.1 hsized
      exact .inr (.inr (Option.mem_toList.1 hkey))
    · exact .inl (congrArg Prod.snd (List.mem_singleton.1 hname))
  · obtain ⟨language, -, rfl⟩ := List.mem_map.1 hfallback
    exact .inr (.inl rfl)

/-- The keys under which the template of a rule is looked for are not touched by the message of
another rule, unless one of the names runs into them. -/
theorem not_isOwnKey {rule other : String} (different : other ≠ rule)
    (outside : ¬(rule ++ ".").toList <+: other.toList)
    (no_kind : ∀ variant ∈ ["numeric", "string", "array"], rule ≠ other ++ "." ++ variant)
    (no_fallback : rule ≠ "def") {w : Wording} {book : Phrasebook} {kind : SizeKind}
    {place : String × String} (h : place ∈ w.places book other kind) :
    ¬Phrasebook.isOwnKey rule place.2 := by
  rcases key_of_mem_places h with hname | hfallback | hsized
  · rw [hname, Phrasebook.isOwnKey, Phrasebook.isVariant_iff]
    exact not_or.2 ⟨different, outside⟩
  · have hclear : Phrasebook.isVariant rule "def" = false := Phrasebook.isVariant_fallbackKey rule
    rw [hfallback, Phrasebook.isOwnKey, hclear]
    exact not_or.2 ⟨no_fallback.symm, Bool.false_ne_true⟩
  · obtain ⟨variant, hvariant, hkey⟩ := key_of_sizedKey hsized
    rw [hkey, Phrasebook.isOwnKey, Phrasebook.isVariant_iff]
    refine not_or.2 ⟨(no_kind variant hvariant).symm, fun hprefix => ?_⟩
    have hpoints : ∀ variant ∈ ["numeric", "string", "array"], '.' ∉ variant.toList := by decide
    have hlist : rule.toList ++ ['.'] <+: other.toList ++ '.' :: variant.toList := by
      simpa using hprefix
    rcases isPrefix_of_append_separator (hpoints variant hvariant) hlist with heq | hshort
    · exact different (String.toList_inj.1 heq).symm
    · exact outside (by simpa using hshort)

/-- Where its language is the default one and there is no custom template, the message that comes
with a rule is the template of the rule for every field and kind of value. Other languages and other
rules keep theirs, unless their keys are the same. -/
theorem registered_message_stands_alone (book : Phrasebook) (rule message : String) :
    let after := book.setRuleMessage rule message
    after.defaultLanguage = book.defaultLanguage ∧
    (∀ (w : Wording) (field : String) (kind : SizeKind),
      w.custom.get? rule = none → w.custom.get? (rule ++ "." ++ field) = none →
      w.language.getD after.defaultLanguage = after.defaultLanguage →
      w.template after rule field kind = message) ∧
    (∀ language, language ≠ book.defaultLanguage →
      after.languages.get? language = book.languages.get? language) ∧
    ∀ other, other ≠ rule → ¬(rule ++ ".").toList <+: other.toList →
      (∀ variant ∈ ["numeric", "string", "array"], rule ≠ other ++ "." ++ variant) →
      rule ≠ "def" →
      ∀ (w : Wording) (field : String) (kind : SizeKind),
        w.template after other field kind = w.template book other field kind := by
  intro after
  refine ⟨rfl, ?_, fun _ => book.languages_setRuleMessage rule message, ?_⟩
  · intro w field kind hrule hfield hlanguage
    have hplain : w.customTemplate? rule field = none := by simp [customTemplate?, hrule, hfield]
    exact w.template_setRuleMessage book hplain hlanguage kind
  · intro other different outside no_kind no_fallback w field kind
    refine w.template_agreeOff (book.agreeOff_setRuleMessage rule message) fun place hplace => ?_
    have hin : place ∈ w.places book other kind := by
      rw [reaches] at hplace
      split at hplace
      · simp at hplace
      · exact Phrasebook.mem_of_mem_reached hplace
    exact fun htouched => not_isOwnKey different outside no_kind no_fallback hin htouched.2

/-- The rule `min` comes with a message of its own. A wording with a custom template for another rule
shows it for numbers and for strings; `minute` and `max` are as before, and so is Russian. -/
theorem registered_message_stands_alone_min :
    let book := Phrasebook.initial.insert "ru" "min.string" "Мало."
    let after := book.setRuleMessage "min" "Too short."
    let w : Wording := { custom := Dict.ofList [("max", "Too long.")] }
    book.template? "en" "min.string" = some "The :attribute must be at least :min characters." ∧
    w.custom.get? "min" = none ∧ w.custom.get? ("min" ++ "." ++ "code") = none ∧
    w.language.getD after.defaultLanguage = after.defaultLanguage ∧
    w.template after "min" "code" .string = "Too short." ∧
    w.template after "min" "code" .numeric = "Too short." ∧
    ("ru" ≠ book.defaultLanguage ∧ after.languages.get? "ru" = book.languages.get? "ru") ∧
    ("minute" ≠ "min" ∧ ¬("min" ++ ".").toList <+: "minute".toList ∧
      (∀ variant ∈ ["numeric", "string", "array"], "min" ≠ "minute" ++ "." ++ variant) ∧
      "min" ≠ "def" ∧
      w.template after "minute" "code" .string = w.template book "minute" "code" .string) ∧
    { w with language := some "ru" }.template after "max" "code" .array = "Too long." := by
  intro book after w
  obtain ⟨-, hown, hlanguages, hother⟩ := registered_message_stands_alone book "min" "Too short."
  have hrule : w.custom.get? "min" = none := by decide
  have hfield : w.custom.get? ("min" ++ "." ++ "code") = none := by decide
  have hkinds : ∀ variant ∈ ["numeric", "string", "array"],
      "min" ≠ "minute" ++ "." ++ variant := by decide
  have hprefix : ¬("min" ++ ".").toList <+: "minute".toList := by decide
  have hmax := hother "max" (by decide) (by decide) (by decide) (by decide)
    { w with language := some "ru" } "code" .array
  exact ⟨by decide +kernel, hrule, hfield, rfl, hown w "code" .string hrule hfield rfl,
    hown w "code" .numeric hrule hfield rfl, ⟨by decide, hlanguages "ru" (by decide)⟩,
    ⟨by decide, hprefix, hkinds, by decide,
      hother "minute" (by decide) hprefix hkinds (by decide) w "code" .string⟩,
    hmax.trans (by decide +kernel)⟩

end Wording

end FieldRules
