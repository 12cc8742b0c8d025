import FieldRules.Engine.Stock
import FieldRules.Proofs.Session.Moments
import FieldRules.Proofs.Session.Settings

namespace FieldRules

/-- An entry under a new key goes without a trace. -/
theorem Dict.erase_insert {α : Type} {d : Dict α} {key : String} (h : d.contains key = false)
    (value : α) : (d.insert key value).erase key = d := by
  have hnew : key ∉ d.entries.map Prod.fst := by
    intro hm
    obtain ⟨⟨_, old⟩, hentry, rfl⟩ := List.mem_map.1 hm
    simp [contains, (d.get?_eq_some_iff _ old).2 hentry] at h
  have hkept : d.entries.filter (fun e => e.1 != key) = d.entries := by
    refine List.filter_eq_self.2 fun e he => ?_
    simpa using fun heq => hnew (List.mem_map.2 ⟨e, he, heq⟩)
  apply Dict.ext
  simp only [erase, filterKeys, insert, put_of_notMem hnew, List.filter_append, hkept]
  simp

/-- The place is one that the message of a rule goes to, or is cleared for it. -/
def Phrasebook.isOwnPlace (book : Phrasebook) (rule language key : String) : Prop :=
  language = book.defaultLanguage ∧ isOwnKey rule key

namespace Context

theorem unregister_register {c : Context} {name : String} (free : c.registry.contains name = false)
    (rule : CustomRule) (implicit : Bool) (message : String) :
    (c.register name rule implicit message).unregister name =
      { c with phrasebook := c.phrasebook.setRuleMessage name message } := by
  simp only [unregister, register, Registry.unregister, Registry.register, Dict.erase_insert free]

/-- A message may stand in a phrasebook for a rule that is not there. -/
theorem setRuleMessage_akin (c : Context) (name message : String) :
    Context.Akin (.templates (c.phrasebook.isOwnPlace name)) c
      { c with phrasebook := c.phrasebook.setRuleMessage name message } :=
  ⟨.refl _, c.phrasebook.agreeOff_setRuleMessage name message, .refl _, rfl, rfl⟩

end Context

namespace Session

/-- Registers a rule and takes it out again. -/
def withdrawn (s : Session) (name : String) (rule : CustomRule) (implicit : Bool)
    (message : String) : Session :=
  (s.steps [.register name rule implicit message, .unregister name]).1

section Withdrawn

variable {s : Session} {name : String} (free : s.context.registry.contains name = false)
  (rule : CustomRule) (implicit : Bool) (message : String)
include free

theorem withdrawn_eq : s.withdrawn name rule implicit message =
    { s with context := { s.context with
        phrasebook := s.context.phrasebook.setRuleMessage name message } } := by
  rw [← Context.unregister_register free rule implicit message]
  rfl

theorem withdrawn_akin : s.Akin (.templates (s.context.phrasebook.isOwnPlace name))
    (s.withdrawn name rule implicit message) := by
  rw [withdrawn_eq free]
  exact (Akin.refl s).withContext (s.context.setRuleMessage_akin name message)

end Withdrawn

/-- Bags follow what happens, so with the same messages validators are the same. -/
theorem Akin.validators_eq {touched : String → String → Prop} {s s' : Session}
    (h : s.Akin (.templates touched) s') (hbags : ∀ index, s'.bagOf index = s.bagOf index)
    {deeds : List Deed} (hsame : (s'.acts deeds).2 = (s.acts deeds).2) :
    (s'.acts deeds).1.validators = (s.acts deeds).1.validators := by
  have hdeeds : List.Forall₂ (Deed.Akin (.templates touched)) deeds deeds :=
    List.forall₂_same.2 fun deed _ => .refl deed
  have hakin := (h.acts hdeeds).akin
  apply List.ext_getElem?
  intro index
  have hbag : (s'.acts deeds).1.bagOf index = (s.acts deeds).1.bagOf index := by
    have hfollows (t : Session) : BagFollows index t (t.acts deeds).1 (t.acts deeds).2 :=
      Trail.bag (fun _ _ _ hmove => hmove.bag index) (acts_moves t deeds)
    rw [hfollows s, hfollows s', hsame, hbags]
  obtain ⟨hnone, hnone'⟩ | ⟨v, v', hv, hv', hboth⟩ := forall₂_getElem? hakin.validators index
  · rw [hnone, hnone']
  · simp only [Session.bagOf, hv, hv'] at hbag
    obtain ⟨hinput, hrules, hwording, -⟩ := hboth
    have hsaid : v'.wording = v.wording := hwording
    rw [hv, hv']
    cases v; cases v'
    simp_all

/-- After a rule was registered under a free name and taken out again everything goes as it would
have gone, but for messages whose template is looked for under that name in the language that was
the default. There the message that came with the rule has stayed. -/
theorem withdrawn_rule_leaves_message {s : Session} {name : String}
    (free : s.context.registry.contains name = false) (rule : CustomRule) (implicit : Bool)
    (message : String) :
    let s' := s.withdrawn name rule implicit message
    let own := s.context.phrasebook.isOwnPlace name
    s'.context.registry = s.context.registry ∧
    (∀ deeds op,
      let before := (s.acts deeds).1
      let done := before.step op
      let done' := (s'.acts deeds).1.step op
      done'.2.1 = done.2.1 ∧
      List.Forall₂ (Event.Reworded fun i f => ∃ moment ∈ before.moments op, moment.looksAt own i f)
        done.2.2 done'.2.2 ∧
      told done'.2.2 = told done.2.2 ∧
      ∀ index, (done'.1.bagOf index).shape = (done.1.bagOf index).shape) ∧
    (∀ deeds, (s'.acts deeds).2 = (s.acts deeds).2 →
      (s'.acts deeds).1.validators = (s.acts deeds).1.validators) ∧
    ∀ (v : Validator) (f : Failure), f.directive.name = name → f.message = none →
      v.wording.customTemplate? name f.field = none →
      v.wording.language.getD s.context.phrasebook.defaultLanguage =
        s.context.phrasebook.defaultLanguage →
      v.word s'.context f =
        Template.substitute (v.wording.resolve f.directive f.field) message := by
  intro s' own
  have hleft : s' = { s with context := { s.context with
      phrasebook := s.context.phrasebook.setRuleMessage name message } } :=
    withdrawn_eq free rule implicit message
  have hakin : s.Akin (.templates own) s' := withdrawn_akin free rule implicit message
  refine ⟨by rw [hleft], ?_, ?_, ?_⟩
  · intro deeds op before done done'
    have hdeeds : List.Forall₂ (Deed.Akin (.templates own)) deeds deeds :=
      List.forall₂_same.2 fun deed _ => .refl deed
    have hbefore := (hakin.acts hdeeds).akin
    obtain ⟨hanswer, hdone⟩ := hbefore.step (Operation.Akin.refl op)
    exact ⟨hanswer, hbefore.step_reworded op, told_akin hdone.events, hdone.akin.bagOf⟩
  · intro deeds hsame
    refine hakin.validators_eq (fun index => ?_) hsame
    rw [hleft]
    rfl
  · intro v f hname hown hplain hlanguage
    rw [hleft, Validator.word, Wording.render, hown, hname]
    exact congrArg (Template.substitute _)
      (v.wording.template_setRuleMessage _ hplain hlanguage f.kind)

/-- A code that is asked to have three characters, and a name that has to be there. -/
def codeDeeds : List Deed :=
  [.operation (.create (.object [("code", .string "x")])
    (Dict.ofList [("code", .piped "min:3"), ("name", .piped "required")]) [])]

/-- The rule that hid the built-in one is gone. The run finds the same two failures, but the code is
told with the message that came with the rule. -/
theorem withdrawn_rule_leaves_message_code :
    let s : Session := { context := Context.initial }
    let s' := s.withdrawn "min" (Stock.sync "pass") false "Too short."
    let done := (s.acts codeDeeds).1.step (.check 0)
    let done' := (s'.acts codeDeeds).1.step (.check 0)
    s.context.registry.contains "min" = false ∧ s'.context.registry = s.context.registry ∧
    done.2.1 = .bool false ∧ done'.2.1 = .bool false ∧
    (done.1.bagOf 0).shape = [("code", 1), ("name", 1)] ∧
    (done'.1.bagOf 0).entries =
      [("code", ["Too short."]), ("name", ["The name field is required."])] ∧
    (done'.1.bagOf 0).shape = (done.1.bagOf 0).shape := by
  intro s s' done done'
  have free : s.context.registry.contains "min" = false := by decide
  obtain ⟨hregistry, hlater, -, -⟩ :=
    @withdrawn_rule_leaves_message s "min" free (Stock.sync "pass") false "Too short."
  obtain ⟨hanswer, -, -, hshape⟩ := hlater codeDeeds (.check 0)
  have hfailed : done.2.1 = .bool false := by decide +kernel
  refine ⟨free, hregistry, hfailed, hanswer.trans hfailed, ?_, ?_, hshape 0⟩
  · decide +kernel
  · decide +kernel

/-- Before a rule hid the built-in one, and was taken out again, the code was told otherwise. -/
theorem withdrawn_rule_still_words :
    let s : Session := { context := Context.initial }
    let s' := s.withdrawn "min" (Stock.sync "pass") false "Too short."
    s.context.registry.contains "min" = false ∧
    (((s.acts codeDeeds).1.step (.check 0)).1.bagOf 0).get "code" =
      ["The code must be at least 3 characters."] ∧
    (((s'.acts codeDeeds).1.step (.check 0)).1.bagOf 0).get "code" = ["Too short."] := by
  decide +kernel

end Session

end FieldRules
