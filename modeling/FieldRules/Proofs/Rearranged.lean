import FieldRules.Proofs.Reference
import FieldRules.Proofs.Session.Refused
import Mathlib.Data.List.Flatten
import Mathlib.Data.List.Perm.Basic

namespace FieldRules

namespace RuleSet

/-- The fields are put in another order, and so are the directives of each field. -/
def Rearranged (rules others : RuleSet) : Prop :=
  ∃ middle, rules.entries.Perm middle ∧
    List.Forall₂ (fun e e' => e.1 = e'.1 ∧ e.2.Perm e'.2) middle others.entries

theorem mem_directives (rules : RuleSet) (field : String) (d : Directive) :
    (field, d) ∈ rules.directives ↔ ∃ ds, rules.get? field = some ds ∧ d ∈ ds := by
  simp only [directives, List.mem_flatMap, List.mem_map, Prod.mk.injEq, Dict.get?_eq_some_iff]
  constructor
  · rintro ⟨entry, hm, other, hd, rfl, rfl⟩
    exact ⟨entry.2, hm, hd⟩
  · rintro ⟨ds, hm, hd⟩
    exact ⟨(field, ds), hm, d, hd, rfl, rfl⟩

theorem hasRule_iff (rules : RuleSet) (field name : String) :
    rules.hasRule field name = true ↔ ∃ d, (field, d) ∈ rules.directives ∧ d.name = name := by
  simp only [mem_directives, hasRule]
  cases rules.get? field <;> simp

section Order

variable {rules others : RuleSet}

theorem Rearranged.directives (h : rules.Rearranged others) :
    rules.directives.Perm others.directives := by
  obtain ⟨middle, hfields, hdirectives⟩ := h
  apply (hfields.flatMap_right _).trans
  unfold RuleSet.directives
  generalize others.entries = entries at hdirectives
  clear hfields
  induction hdirectives with
  | nil => exact .nil
  | @cons e e' _ _ hfirst _ ih =>
    have hfield : (e.2.map (e.1, ·)).Perm (e'.2.map (e'.1, ·)) := by
      rw [hfirst.1]
      exact hfirst.2.map _
    exact hfield.append ih

theorem Rearranged.isNumeric (h : rules.Rearranged others) (field : String) :
    others.isNumeric field = rules.isNumeric field := by
  have hrule (name : String) : others.hasRule field name = rules.hasRule field name := by
    rw [Bool.eq_iff_iff, hasRule_iff, hasRule_iff]
    simp only [h.directives.mem_iff]
  rw [RuleSet.isNumeric, RuleSet.isNumeric, hrule, hrule]

theorem Rearranged.hasAsync (h : rules.Rearranged others) (r : Registry) :
    others.hasAsync r = rules.hasAsync r := by
  rw [Bool.eq_iff_iff, RuleSet.hasAsync, RuleSet.hasAsync, List.any_eq_true, List.any_eq_true]
  simp only [h.directives.mem_iff]

/-- Either order has a directive without a rule if the other has one. -/
theorem Rearranged.firstUnknown?_eq_none_iff (h : rules.Rearranged others) (r : Registry) :
    others.firstUnknown? r = none ↔ rules.firstUnknown? r = none := by
  rw [RuleSet.firstUnknown?_eq_none_iff, RuleSet.firstUnknown?_eq_none_iff]
  simp only [h.directives.mem_iff]

theorem exists_unknown {r : Registry} {name : String} (h : rules.firstUnknown? r = some name) :
    ∃ entry ∈ rules.directives, entry.2.name = name ∧ r.knows name = false := by
  obtain ⟨entry, hfind, rfl⟩ := Option.map_eq_some_iff.1 h
  have hunknown := List.find?_some hfind
  exact ⟨entry, List.mem_of_find?_eq_some hfind, rfl, by simpa using hunknown⟩

end Order

end RuleSet

namespace Validator

variable {v : Validator} {rules : RuleSet} (h : v.rules.Rearranged rules) (bag : MessageBag)
  (context : Context)

include h

theorem isFailing_rearranged (entry : String × Directive) :
    { v with rules, bag }.isFailing context entry = v.isFailing context entry := by
  simp only [isFailing, isApplicable, subjectOf, h.isNumeric]

theorem failureEntry_rearranged (entry : String × Directive) :
    { v with rules, bag }.failureEntry context entry = v.failureEntry context entry := by
  simp only [failureEntry, word, h.isNumeric]

/-- Both orders have the same failures, with the same messages. -/
theorem failures_rearranged :
    (v.failures context).Perm ({ v with rules, bag }.failures context) := by
  have hfailing : { v with rules, bag }.isFailing context = v.isFailing context :=
    funext (isFailing_rearranged h bag context)
  have hentry : { v with rules, bag }.failureEntry context = v.failureEntry context :=
    funext (failureEntry_rearranged h bag context)
  rw [failures, failures, hfailing, hentry]
  exact (h.directives.filter _).map _

end Validator

namespace MessageBag

/-- The bags have the same fields, and for each field the same messages, in some order. -/
def Rearranged (bag other : MessageBag) : Prop :=
  bag.messages.keys.Perm other.messages.keys ∧
    ∀ field, (bag.get field).Perm (other.get field)

theorem rearranged_ofLog {log other : List (Failure × String)} (h : log.Perm other) :
    (ofLog log).Rearranged (ofLog other) := by
  rw [Rearranged, ofLog_eq_ofPairs, ofLog_eq_ofPairs, keys_ofPairs, keys_ofPairs]
  constructor
  · apply (List.perm_ext_iff_of_nodup (nodup_eraseDups _) (nodup_eraseDups _)).2
    intro field
    rw [List.mem_eraseDups, List.mem_eraseDups]
    exact ((h.map _).map Prod.fst).mem_iff
  · intro field
    rw [get_ofPairs, get_ofPairs]
    exact ((h.map _).filter _).map _

end MessageBag

namespace Session

/-- With pure registered rules, two orders of the same directives give the same answer and for each
field the same messages in some order. Where directives have no rule both are refused, each for the
first of them in its own order. -/
theorem order_tells_only_in_refusal {s s' : Session} {index other time : Nat} {v : Validator}
    {rules : RuleSet} {bag : MessageBag}
    (there : s.validators[index]? = some v)
    (there' : s'.validators[other]? = some { v with rules, bag })
    (clock : s'.context = s.context.atTime time)
    (same : v.rules.Rearranged rules)
    (pure : s.context.registry.IsPure)
    (sync : v.rules.hasAsync s.context.registry = false) :
    let r := s.context.registry
    let one := s.step (.check index)
    let two := s'.step (.check other)
    (v.rules.firstUnknown? r = none ∧ rules.firstUnknown? r = none ∧
      (∃ passed, one.2.1 = .bool passed ∧ two.2.1 = .bool passed) ∧
      (one.1.bagOf index).Rearranged (two.1.bagOf other) ∧
      (one.1.bagOf index).count = (two.1.bagOf other).count) ∨
    ∃ name name', v.rules.firstUnknown? r = some name ∧ rules.firstUnknown? r = some name' ∧
      one = (s, .refused (.unknownRule name), []) ∧
      two = (s', .refused (.unknownRule name'), []) ∧
      ((∀ e ∈ v.rules.directives, ∀ e' ∈ v.rules.directives, r.knows e.2.name = false →
        r.knows e'.2.name = false → e.2.name = e'.2.name) → name = name') := by
  intro r one two
  have hregistry : s'.context.registry = r := by rw [clock]; rfl
  have hnone := same.firstUnknown?_eq_none_iff r
  cases hname : v.rules.firstUnknown? r with
  | none =>
    left
    have hname' : rules.firstUnknown? r = none := hnone.2 hname
    have hready {w : Validator} {c : Context} (hc : c.registry = r)
        (hknown : w.rules.firstUnknown? r = none) (hsync : w.rules.hasAsync r = false) :
        w.IsReady c := by
      obtain ⟨plan, hplan⟩ := (Plan.exists_make_iff c w.rules).2
        (hc ▸ (w.rules.firstUnknown?_eq_none_iff r).1 hknown)
      apply Validator.isReady_of_plan hplan
      rw [hc]
      simpa [RuleSet.hasAsync] using hsync
    have ready := hready rfl hname sync
    have ready' : { v with rules, bag }.IsReady s'.context :=
      hready hregistry hname' ((same.hasAsync r).trans sync)
    obtain ⟨hanswer, hbag, -⟩ := check_finds_failures there pure ready
    obtain ⟨hanswer', hbag', -⟩ := check_finds_failures there' (hregistry ▸ pure) ready'
    have hperm : (v.failures s.context).Perm ({ v with rules, bag }.failures s'.context) := by
      rw [clock]
      exact Validator.failures_rearranged same bag s.context
    refine ⟨rfl, hname', ⟨_, hanswer, ?_⟩, ?_, ?_⟩
    · rw [hanswer', hperm.isEmpty_eq]
    · rw [hbag, hbag']
      exact MessageBag.rearranged_ofLog hperm
    · rw [hbag, hbag', MessageBag.count_ofLog, MessageBag.count_ofLog, hperm.length_eq]
  | some name =>
    right
    obtain ⟨name', hname'⟩ : ∃ name', rules.firstUnknown? r = some name' := by
      apply Option.ne_none_iff_exists'.1
      intro h
      simp [hnone.1 h] at hname
    have hrefused : v.refusal? s.context true = some (.unknownRule name) := by
      rw [Validator.refusal?, hname]
    have hrefused' : { v with rules, bag }.refusal? s'.context true = some (.unknownRule name') := by
      rw [Validator.refusal?, hregistry, hname']
    refine ⟨name, name', rfl, hname', step_refused there rfl hrefused,
      step_refused there' rfl hrefused', ?_⟩
    intro hone
    obtain ⟨entry, hm, rfl, hunknown⟩ := RuleSet.exists_unknown hname
    obtain ⟨entry', hm', rfl, hunknown'⟩ := RuleSet.exists_unknown hname'
    exact hone entry hm entry' (same.directives.mem_iff.2 hm') hunknown hunknown'

/-- A text that has to be a number, and a field that has to be there. -/
def numberValidator : Validator :=
  { input := [("a", .string "3")]
    rules := Dict.ofList [("a", [⟨"numeric", none⟩, ⟨"min", some "5"⟩, ⟨"max", some "2"⟩]),
      ("b", [⟨"required", none⟩])]
    wording := {}
    bag := MessageBag.empty }

/-- The rules of `numberValidator`, backwards. -/
def numberRules : RuleSet :=
  Dict.ofList [("b", [⟨"required", none⟩]),
    ("a", [⟨"max", some "2"⟩, ⟨"min", some "5"⟩, ⟨"numeric", none⟩])]

theorem order_of_number_rules :
    let s : Session :=
      { context := Context.initial
        validators := [numberValidator, { numberValidator with rules := numberRules }] }
    numberValidator.rules.Rearranged numberRules ∧
      (s.step (.check 0)).2.1 = .bool false ∧ (s.step (.check 1)).2.1 = .bool false ∧
      ((s.step (.check 0)).1.bagOf 0).get "a" =
        ["The a must be at least 5.", "The a may not be greater than 2."] ∧
      (((s.step (.check 0)).1.bagOf 0).get "a").Perm (((s.step (.check 1)).1.bagOf 1).get "a") := by
  intro s
  have same : numberValidator.rules.Rearranged numberRules := by
    refine ⟨_, List.Perm.swap _ _ _, .cons ⟨rfl, .rfl⟩ (.cons ⟨rfl, ?_⟩ .nil)⟩
    exact (List.reverse_perm _).symm
  have sync : numberValidator.rules.hasAsync s.context.registry = false := by decide +kernel
  have hanswer : (s.step (.check 0)).2.1 = .bool false := by decide +kernel
  have hmessages : ((s.step (.check 0)).1.bagOf 0).get "a" =
      ["The a must be at least 5.", "The a may not be greater than 2."] := by decide +kernel
  obtain ⟨-, -, ⟨passed, hone, htwo⟩, ⟨-, hperm⟩, -⟩ | ⟨_, _, -, -, hrefused, -⟩ :=
    @order_tells_only_in_refusal s s 0 1 0 numberValidator numberRules MessageBag.empty rfl rfl rfl
      same (Registry.judges_initial _) sync
  · obtain rfl : passed = false := Answer.bool.inj (hone.symm.trans hanswer)
    exact ⟨same, hanswer, htwo, hmessages, hperm "a"⟩
  · rw [hrefused] at hanswer
    simp at hanswer

/-- Two validators are made while two rules are registered that are withdrawn after that. They name
these rules in different orders. -/
def withdrawnPair : List Operation :=
  [.register "one" (.pure fun _ => true) false "One.",
    .register "two" (.pure fun _ => true) false "Two.",
    .create (.object []) (Dict.ofList [("a", .piped "one|two")]) [],
    .create (.object []) (Dict.ofList [("a", .piped "two|one")]) [],
    .unregister "one",
    .unregister "two"]

/-- Each of the two runs is refused for the rule that comes first in its own order. -/
theorem order_decides_refusal :
    let s := (steps { context := Context.initial } withdrawnPair).1
    ∃ v w, s.validators = [v, w] ∧ w = { v with rules := w.rules } ∧
      v.rules.Rearranged w.rules ∧ s.context.registry.IsPure ∧
      v.rules.hasAsync s.context.registry = false ∧
      (s.step (.check 0)).2.1 = .refused (.unknownRule "one") ∧
      (s.step (.check 1)).2.1 = .refused (.unknownRule "two") := by
  intro s
  let v (text : String) : Validator :=
    ⟨[], RuleSet.parse (Dict.ofList [("a", .piped text)]), {}, MessageBag.empty⟩
  have hvalidators : s.validators = [v "one|two", v "two|one"] := rfl
  have hcontext : s.context.registry.IsPure :=
    ((Registry.IsPure.register (Registry.IsPure.register (Registry.judges_initial _) "one" _ false)
      "two" _ false).unregister "one").unregister "two"
  have hentries : (v "one|two").rules.entries = [("a", [⟨"one", none⟩, ⟨"two", none⟩])] := by
    decide +kernel
  have hentries' : (v "two|one").rules.entries = [("a", [⟨"two", none⟩, ⟨"one", none⟩])] := by
    decide +kernel
  have same : (v "one|two").rules.Rearranged (v "two|one").rules := by
    refine ⟨_, .rfl, ?_⟩
    rw [hentries, hentries']
    exact .cons ⟨rfl, List.Perm.swap _ _ _⟩ .nil
  have sync : (v "one|two").rules.hasAsync s.context.registry = false := by decide +kernel
  have hone : (s.step (.check 0)).2.1 = .refused (.unknownRule "one") := by decide +kernel
  have htwo : (s.step (.check 1)).2.1 = .refused (.unknownRule "two") := by decide +kernel
  exact ⟨_, _, hvalidators, rfl, same, hcontext, sync, hone, htwo⟩

end Session

end FieldRules
