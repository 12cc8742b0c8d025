import FieldRules.Proofs.Rearranged
import FieldRules.Proofs.Timeless

namespace FieldRules

namespace RuleSet

/-- The other rule set has these directives of a field where the first one has `d`. -/
def Replaced (rules others : RuleSet) (field : String) (d : Directive) (ds : List Directive) :
    Prop :=
  ∃ front back, rules.directives = front ++ (field, d) :: back ∧
    others.directives = front ++ (ds.map (field, ·) ++ back)

theorem replaced_insert {rules : RuleSet} {field : String} {before after : List Directive}
    {d : Directive} (h : rules.get? field = some (before ++ d :: after)) (ds : List Directive) :
    rules.Replaced (rules.insert field (before ++ (ds ++ after))) field d ds := by
  obtain ⟨front, back, hold, hnew⟩ := Dict.entries_insert h (before ++ (ds ++ after))
  let flatten (entries : List (String × List Directive)) : List (String × Directive) :=
    entries.flatMap fun e => e.2.map (e.1, ·)
  refine ⟨flatten front ++ before.map (field, ·), after.map (field, ·) ++ flatten back, ?_, ?_⟩
  · rw [directives, hold]
    simp [flatten]
  · rw [directives, hnew]
    simp [flatten]

namespace Replaced

variable {rules others : RuleSet} {field : String} {d : Directive} {ds : List Directive}
  (h : rules.Replaced others field d ds)
include h

theorem hasRule {name : String} (hd : d.name ≠ name) (hds : ∀ d' ∈ ds, d'.name ≠ name)
    (other : String) : others.hasRule other name = rules.hasRule other name := by
  obtain ⟨front, back, hrules, hothers⟩ := h
  rw [Bool.eq_iff_iff, hasRule_iff, hasRule_iff, hrules, hothers]
  simp only [List.mem_append, List.mem_cons, List.mem_map, Prod.mk.injEq]
  constructor
  · rintro ⟨d', hm | ⟨d'', hm, -, rfl⟩ | hm, hname⟩
    · exact ⟨d', .inl hm, hname⟩
    · exact absurd hname (hds d'' hm)
    · exact ⟨d', .inr (.inr hm), hname⟩
  · rintro ⟨d', hm | ⟨-, rfl⟩ | hm, hname⟩
    · exact ⟨d', .inl hm, hname⟩
    · exact absurd hname hd
    · exact ⟨d', .inr (.inr hm), hname⟩

/-- Whatever is found in the directives that went out is found in those that came in. -/
theorem any_eq {p q : String × Directive → Bool} (hp : ∀ entry, p entry = q entry)
    (hds : (ds.any fun d' => p (field, d')) = q (field, d)) :
    others.directives.any p = rules.directives.any q := by
  obtain ⟨front, back, hrules, hothers⟩ := h
  obtain rfl : p = q := funext hp
  simp only [hrules, hothers, List.any_append, List.any_cons, List.any_map]
  rw [← hds]
  rfl

theorem firstUnknown? {r : Registry} (hd : r.knows d.name = true)
    (hds : ∀ d' ∈ ds, r.knows d'.name = true) :
    others.firstUnknown? r = rules.firstUnknown? r := by
  obtain ⟨front, back, hrules, hothers⟩ := h
  have hnone : (ds.map (field, ·)).find? (fun entry => !r.knows entry.2.name) = none := by
    rw [List.find?_eq_none]
    simpa using hds
  rw [RuleSet.firstUnknown?, RuleSet.firstUnknown?, hrules, hothers]
  simp only [List.find?_append, hnone, Option.none_or, List.find?_cons, hd, Bool.not_true]

end Replaced

end RuleSet

namespace Validator

/-- Directives that fail just where the one fails that they replace leave the verdict as it is. -/
theorem verdict_of_replaced {v : Validator} {context : Context}
    (timeless : context.registry.IsTimeless) {others : RuleSet} {field : String} {d : Directive}
    {ds : List Directive} (h : v.rules.Replaced others field d ds)
    (hready : ∀ d' ∈ d :: ds,
      context.registry.knows d'.name = true ∧ context.registry.isAsync d'.name = false)
    (hnumeric : ∀ other, others.isNumeric other = v.rules.isNumeric other)
    (hfailing : (ds.any fun d' => v.isFailing context (field, d')) =
      v.isFailing context (field, d)) :
    ({ v with rules := others }.check context).map Prod.fst = (v.check context).map Prod.fst := by
  obtain ⟨⟨hknown, hsync⟩, hrest⟩ := List.forall_mem_cons.1 hready
  have hisFailing (entry : String × Directive) :
      { v with rules := others }.isFailing context entry = v.isFailing context entry := by
    simp only [isFailing, isApplicable, subjectOf, hnumeric]
  have hunknown : others.firstUnknown? context.registry = v.rules.firstUnknown? context.registry :=
    h.firstUnknown? hknown fun d' hd' => (hrest d' hd').1
  have hasync : others.hasAsync context.registry = v.rules.hasAsync context.registry := by
    refine h.any_eq (fun _ => rfl) ?_
    rw [hsync, List.any_eq_false]
    exact fun d' hd' => by simp [(hrest d' hd').2]
  have hrefusal : { v with rules := others }.refusal? context true = v.refusal? context true := by
    simp only [refusal?, hunknown, hasync]
  have hany : others.directives.any ({ v with rules := others }.isFailing context) =
      v.rules.directives.any (v.isFailing context) := by
    refine h.any_eq hisFailing ?_
    simpa only [hisFailing] using hfailing
  rw [verdict_of_timeless timeless, verdict_of_timeless timeless, hrefusal, hany]

end Validator

end FieldRules
