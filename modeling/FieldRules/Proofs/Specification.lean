import FieldRules.Proofs.Dict
import FieldRules.Proofs.Directive
import FieldRules.Specification

namespace FieldRules

namespace Spec

theorem directives_list (tokens : List String) :
    (list tokens).directives =
      (tokens.filter fun token => !Text.isAllBlank token).map Directive.parse := rfl

/-- Bars say the same as a list of what stands between them. -/
theorem directives_piped_of_isCut {text : String} {tokens : List String}
    (h : Text.IsCut '|' text tokens) : (piped text).directives = (list tokens).directives := by
  rw [h.eq_splitAll]
  rfl

/-- Tokens without bars may be joined with bars. No token at all is the same as a blank one. -/
theorem directives_joined {tokens : List String} (clear : ∀ token ∈ tokens, '|' ∉ token.toList) :
    (piped ("|".intercalate tokens)).directives = (list tokens).directives := by
  cases tokens with
  | nil => decide
  | cons first rest =>
    have hcut : Text.IsCut '|' ("|".intercalate (first :: rest)) (first :: rest) :=
      ⟨List.cons_ne_nil first rest, clear, rfl⟩
    exact directives_piped_of_isCut hcut

theorem exists_token {spec : Spec} {d : Directive} (h : d ∈ spec.directives) :
    ∃ token, Text.isAllBlank token = false ∧ Directive.parse token = d := by
  obtain ⟨token, htoken, heq⟩ := List.mem_map.1 h
  exact ⟨token, by simpa using (List.mem_filter.1 htoken).2, heq⟩

/-- Parsed directives are read back from the tokens that write them: none of these is blank. -/
theorem directives_texts {ds : List Directive}
    (h : ∀ d ∈ ds, ∃ token, Text.isAllBlank token = false ∧ Directive.parse token = d) :
    (list (ds.map Directive.text)).directives = ds := by
  rw [directives_list]
  induction ds with
  | nil => rfl
  | cons d rest ih =>
    obtain ⟨⟨token, hblank, rfl⟩, hrest⟩ := List.forall_mem_cons.1 h
    have hkept : Text.isAllBlank (Directive.parse token).text = false := by
      rw [Directive.isAllBlank_text_parse, hblank]
    rw [List.map_cons, List.filter_cons_of_pos (by simp [hkept]), List.map_cons, ih hrest,
      Directive.parse_text_parse]

end Spec

namespace RuleSet

/-- A specification of rules is read back from the tokens that write its directives. -/
theorem parse_texts (raw : RawRules) :
    parse ((parse raw).map fun ds => Spec.list (ds.map Directive.text)) = parse raw := by
  refine Dict.map_map_of_forall fun ds hds => Spec.directives_texts fun d hd => ?_
  obtain ⟨entry, hentry, rfl⟩ := List.mem_map.1 hds
  obtain ⟨⟨field, spec⟩, -, rfl⟩ := List.mem_map.1 hentry
  exact Spec.exists_token hd

/-- The fields are in the order in which they first came, each with the directives of the
specification that it was given last. A text with bars says the same as the list of its tokens, and
what was parsed is read back from its directives. -/
theorem parse_pairs (pairs : List (String × Spec)) :
    let raw : RawRules := Dict.ofList pairs
    raw = pairs.foldl (fun raw (field, spec) => raw.insert field spec) Dict.empty ∧
    (parse raw).keys = (pairs.map Prod.fst).eraseDups ∧
    (∀ field, (parse raw).get? field =
      ((pairs.filter (·.1 = field)).getLast?.map Prod.snd).map Spec.directives) ∧
    (∀ tokens, (Spec.list tokens).directives =
      (tokens.filter fun token => !Text.isAllBlank token).map Directive.parse) ∧
    (∀ text, ∃! tokens, Text.IsCut '|' text tokens) ∧
    (∀ text tokens, Text.IsCut '|' text tokens →
      (Spec.piped text).directives = (Spec.list tokens).directives) ∧
    (∀ tokens, (∀ token ∈ tokens, '|' ∉ token.toList) →
      (Spec.piped ("|".intercalate tokens)).directives = (Spec.list tokens).directives) ∧
    parse ((parse raw).map fun ds => Spec.list (ds.map Directive.text)) = parse raw := by
  intro raw
  have hkeys : (parse raw).keys = (pairs.map Prod.fst).eraseDups := by
    rw [parse, Dict.keys_map, Dict.keys_ofList]
  have hlast (field : String) : (parse raw).get? field =
      (Dict.lastValue? pairs field).map Spec.directives := by
    rw [parse, Dict.get?_map, Dict.get?_ofList]
  have hcut (text : String) : ∃! tokens, Text.IsCut '|' text tokens :=
    ⟨_, Text.isCut_splitAll '|' text, fun _ h => h.eq_splitAll⟩
  exact ⟨rfl, hkeys, hlast, Spec.directives_list, hcut, fun _ _ => Spec.directives_piped_of_isCut,
    fun _ => Spec.directives_joined, parse_texts raw⟩

/-- A code is given rules twice, with blanks and empty places in the second text, and a name is
given rules with a bar in an argument. -/
def codePairs : List (String × Spec) :=
  [("code", .piped "required|min:3"), ("name", .list ["in:x|y", "\u3000", " size : 2 "]),
   ("code", .piped " max:4 || regex:^a:b$|")]

theorem parse_pairs_code :
    let rules := parse (Dict.ofList codePairs)
    rules.keys = ["code", "name"] ∧
    rules.get? "code" = some [⟨"max", some "4"⟩, ⟨"regex", some "^a:b$"⟩] ∧
    rules.get? "name" = some [⟨"in", some "x|y"⟩, ⟨"size", some " 2"⟩] ∧
    Text.IsCut '|' " max:4 || regex:^a:b$|" [" max:4 ", "", " regex:^a:b$", ""] ∧
    (Spec.piped " max:4 || regex:^a:b$|").directives =
      (Spec.list [" max:4 ", "", " regex:^a:b$", ""]).directives ∧
    (∀ token ∈ ["size", " max:4"], '|' ∉ token.toList) ∧
    (Spec.piped "size| max:4").directives = (Spec.list ["size", " max:4"]).directives ∧
    parse (rules.map fun ds => Spec.list (ds.map Directive.text)) = rules := by
  intro rules
  obtain ⟨-, hkeys, hlast, -, -, hcut, hjoined, hround⟩ := parse_pairs codePairs
  have hpieces : Text.IsCut '|' " max:4 || regex:^a:b$|" [" max:4 ", "", " regex:^a:b$", ""] :=
    ⟨by decide, by decide, by decide⟩
  have hclear : ∀ token ∈ ["size", " max:4"], '|' ∉ token.toList := by decide
  refine ⟨hkeys.trans (by decide), (hlast "code").trans ?_, (hlast "name").trans ?_, hpieces,
    hcut _ _ hpieces, hclear, hjoined _ hclear, hround⟩
  · decide +kernel
  · decide +kernel

end RuleSet

end FieldRules
