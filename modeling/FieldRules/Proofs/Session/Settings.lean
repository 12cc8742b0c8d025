import FieldRules.Engine.Stock
import FieldRules.Proofs.Session.Lockstep

namespace FieldRules

/-- What an event tells besides messages is told by events that are akin. -/
theorem Event.Akin.filterMap {way : Leeway} {α : Type} {f : Event → Option α}
    (hf : ∀ e e', e.Akin way e' → f e' = f e) {events events' : List Event}
    (h : List.Forall₂ (Event.Akin way) events events') :
    events'.filterMap f = events.filterMap f := by
  induction h with
  | nil => rfl
  | cons hfirst _ ih => rw [List.filterMap_cons, List.filterMap_cons, hf _ _ hfirst, ih]

namespace Session

section Akin

variable {way : Leeway} {s s' : Session}

theorem told_akin {events events' : List Event} (h : List.Forall₂ (Event.Akin way) events events') :
    told events' = told events := by
  refine Event.Akin.filterMap (fun e e' he => ?_) h
  cases he <;> rfl

theorem verdicts_akin {events events' : List Event}
    (h : List.Forall₂ (Event.Akin way) events events') (run : Nat) :
    verdicts run events' = verdicts run events := by
  refine Event.Akin.filterMap (fun e e' he => ?_) h
  cases he <;> rfl

theorem Akin.bagOf (h : s.Akin way s') (index : Nat) :
    (s'.bagOf index).shape = (s.bagOf index).shape := by
  unfold Session.bagOf
  obtain ⟨hnone, hnone'⟩ | ⟨v, v', hv, hv', hakin⟩ := forall₂_getElem? h.validators index
  · rw [hnone, hnone']
  · rw [hv, hv']
    exact hakin.shape

end Akin

/-- If two sessions stand alike but for what messages are made of, and the same is done in both but
for such things, they get the same answers, tell the same verdicts to the same callbacks, and leave
bags of the same shape. -/
theorem messages_never_decide {s s' : Session} (alike : s.Akin .texts s') {deeds deeds' : List Deed}
    (same : List.Forall₂ (Deed.Akin .texts) deeds deeds') {op op' : Operation}
    (next : op.Akin .texts op') :
    let done := (s.acts deeds).1.step op
    let done' := (s'.acts deeds').1.step op'
    done'.2.1 = done.2.1 ∧
    told done'.2.2 = told done.2.2 ∧
    (∀ run, verdicts run done'.2.2 = verdicts run done.2.2) ∧
    List.Forall₂ (Event.Akin .texts) done.2.2 done'.2.2 ∧
    ∀ index, (done'.1.bagOf index).shape = (done.1.bagOf index).shape := by
  intro done done'
  obtain ⟨hanswer, hdone⟩ := (alike.acts same).akin.step next
  exact ⟨hanswer, told_akin hdone.events, verdicts_akin hdone.events, hdone.events,
    hdone.akin.bagOf⟩

/-- A name has to be a slug that is free, which is known later. The messages are as they come. -/
def nameDeeds (language message : String) (custom : List (String × String)) : List Deed :=
  [.operation (.setLanguage language),
    .operation (.register "slug" (Stock.sync "slug") false message),
    .operation (.register "free" (Stock.async "defer") false message),
    .operation (.create (.object [("name", .string "A b")])
      (Dict.ofList [("name", .piped "slug|free|min:9")]) custom),
    .operation (.checkAsync 0 true true)]

theorem nameDeeds_akin (language language' message message' : String)
    (custom custom' : List (String × String)) :
    List.Forall₂ (Deed.Akin .texts) (nameDeeds language message custom)
      (nameDeeds language' message' custom') := by
  refine .cons (.operation (.setLanguage trivial)) (.cons (.operation ?_) (.cons (.operation ?_)
    (.cons (.operation (.create _ _ trivial)) (.cons (.refl _) .nil))))
  · exact .register "slug" (.refl _) false trivial
  · exact .register "free" (.refl _) false trivial

/-- The name turns out to be taken, which is put in two ways: the run fails in both histories, and
each bag has three messages for the name, which differ. -/
theorem messages_never_decide_name :
    let deeds := nameDeeds english "" []
    let deeds' := nameDeeds "xx" "Not that :attribute." [("min", "")]
    let op : Operation := .complete 0 .fail
    let op' : Operation := .complete 0 (.failWith "Taken.")
    let done := (acts { context := Context.initial } deeds).1.step op
    let done' := (acts { context := Context.initial } deeds').1.step op'
    List.Forall₂ (Deed.Akin .texts) deeds deeds' ∧
    told done.2.2 = [(0, false)] ∧ told done'.2.2 = [(0, false)] ∧
    (done.1.bagOf 0).entries =
      [("name", ["", "The name must be at least 9 characters.", ""])] ∧
    (done'.1.bagOf 0).entries = [("name", ["Not that name.", "", "Taken."])] ∧
    (done'.1.bagOf 0).shape = (done.1.bagOf 0).shape := by
  intro deeds deeds' op op' done done'
  have hdeeds : List.Forall₂ (Deed.Akin .texts) deeds deeds' := nameDeeds_akin _ _ _ _ _ _
  have hop : op.Akin .texts op' := .complete 0 ⟨rfl, trivial⟩
  obtain ⟨-, htold, -, -, hshape⟩ :=
    @messages_never_decide { context := Context.initial } { context := Context.initial } (.refl _)
      deeds deeds' hdeeds op op' hop
  have htold' : told done.2.2 = [(0, false)] := by decide +kernel
  refine ⟨hdeeds, htold', htold.trans htold', ?_, ?_, hshape 0⟩
  · decide +kernel
  · decide +kernel

end Session

end FieldRules
