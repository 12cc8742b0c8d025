import FieldRules.Proofs.Check
import FieldRules.Proofs.Run.Failure
import FieldRules.Proofs.Session.Faithful

namespace FieldRules

/-- What an event does to the bag of a validator. -/
def Event.onBag (index : Nat) (bag : MessageBag) : Event → MessageBag
  | began i _ => if i = index then MessageBag.empty else bag
  | recorded i _ f message => if i = index then bag.add f.field message else bag
  | _ => bag

namespace Session

/-- The bag of a validator, empty if there is none. -/
def bagOf (s : Session) (index : Nat) : MessageBag :=
  match s.validators[index]? with
  | some v => v.bag
  | none => MessageBag.empty

theorem bagOf_congr {s s' : Session} (h : s'.validators = s.validators) (index : Nat) :
    s'.bagOf index = s.bagOf index := by
  rw [bagOf, bagOf, h]

theorem bagOf_modifyValidator {s : Session} {i : Nat} {v : Validator}
    (there : s.validators[i]? = some v) (f : Validator → Validator) (index : Nat) :
    (s.modifyValidator i f).bagOf index = if i = index then (f v).bag else s.bagOf index := by
  simp only [bagOf, modifyValidator, List.getElem?_modify]
  by_cases h : i = index
  · subst h
    rw [there]
    simp
  · cases s.validators[index]? <;> simp [h]

/-- The bag after events is the bag before with what they do to it. -/
def BagFollows (index : Nat) (s s' : Session) (events : List Event) : Prop :=
  s'.bagOf index = events.foldl (Event.onBag index) (s.bagOf index)

theorem hear_bag (s : Session) (run : Nat) (started : StartedRun) (report : Run.Report)
    (index : Nat) :
    BagFollows index s (s.hear run started report).1 (s.hear run started report).2 := by
  cases report with
  | failed f =>
    simp only [BagFollows, hear]
    cases there : s.validators[started.validator]? with
    | none => rfl
    | some v =>
      simp only [bagOf_modifyValidator there, List.foldl_cons, List.foldl_nil, Event.onBag]
      by_cases h : started.validator = index
      · subst h
        simp [bagOf, there, Validator.addMessage]
      · simp [h]
  | verdict passed =>
    have hquiet : ∀ bag, (announce started.listener passed).foldl (Event.onBag index) bag = bag := by
      intro bag
      cases started.listener with
      | callbacks call onPass onFail =>
        by_cases h : (if passed then onPass else onFail) = true <;> simp [announce, h, Event.onBag]
      | future => rfl
    simp only [BagFollows, hear, List.foldl_cons, Event.onBag, hquiet]
    exact bagOf_congr rfl index

theorem hearAll_bag (s : Session) (run : Nat) (started : StartedRun) (told : List Run.Report)
    (index : Nat) :
    BagFollows index s (s.hearAll run started told).1 (s.hearAll run started told).2 := by
  refine inTurn_rel (fun _ => rfl) (fun h h' => ?_) fun s report _ =>
    hear_bag s run started report index
  rw [BagFollows, h', h, List.foldl_append]

theorem operate_bag (s : Session) (run : Nat) (operation : Run.Operation) (index : Nat) :
    BagFollows index s (s.operate run operation).1 (s.operate run operation).2 := by
  cases hs : s.runs[run]? with
  | none =>
    rw [operate_missing s run operation hs]
    rfl
  | some started =>
    rw [operate_eq s run operation hs]
    have hheard := hearAll_bag (s.strike run operation started) run started
      (started.run.step operation).2 index
    have hsame : (s.strike run operation started).bagOf index = s.bagOf index :=
      bagOf_congr rfl index
    simp only [BagFollows, List.foldl_cons, Event.onBag] at hheard ⊢
    rw [hheard, hsame]

theorem Stroke.bag {s s' : Session} {events : List Event} (h : Stroke s s' events)
    (index : Nat) : BagFollows index s s' events := by
  cases h with
  | turned | handed => exact bagOf_congr rfl index
  | noted e note => cases e <;> simp_all [Event.isNote, BagFollows, Event.onBag]
  | operated run operation => exact operate_bag s run operation index

theorem Trail.bag {R : Session → Session → List Event → Prop} {index : Nat}
    (hstep : ∀ s s' events, R s s' events → BagFollows index s s' events)
    {s s' : Session} {events : List Event} (h : Trail R s s' events) :
    BagFollows index s s' events := by
  induction h with
  | none => rfl
  | snoc _ last ih =>
    have hlast := hstep _ _ _ last
    rw [BagFollows] at ih hlast ⊢
    rw [List.foldl_append, hlast, ih]

theorem Strokes.bag {s s' : Session} {events : List Event} (h : Strokes s s' events)
    (index : Nat) : BagFollows index s s' events :=
  Trail.bag (fun _ _ _ hstroke => hstroke.bag index) h

theorem foldl_onBag_recorded (i index : Nat) (log : List (Failure × String)) (bag : MessageBag) :
    (log.map fun (f, message) => Event.recorded i none f message).foldl (Event.onBag index) bag =
      if i = index then log.foldl (fun bag (f, message) => bag.add f.field message) bag
      else bag := by
  induction log generalizing bag with
  | nil => simp
  | cons entry rest ih =>
    rw [List.map_cons, List.foldl_cons, ih]
    by_cases h : i = index <;> simp [Event.onBag, h]

/-- The messages of a synchronous run are those of its log. -/
theorem check_bag (s : Session) {i : Nat} {v : Validator} (there : s.validators[i]? = some v)
    (index : Nat) : BagFollows index s (s.check i v).1 (s.check i v).2.2 := by
  unfold Session.check
  split
  · next passed scene hcheck =>
    have hbag := Validator.check_bag hcheck
    simp only [BagFollows, List.foldl_cons, foldl_onBag_recorded]
    rw [bagOf_modifyValidator (s := { s with context := scene.context }) there]
    by_cases h : i = index
    · simp only [if_pos h, hbag, Event.onBag, MessageBag.ofLog]
    · simp only [if_neg h, Event.onBag]
      exact bagOf_congr rfl index
  · rfl

theorem Move.bag {s s' : Session} {events : List Event} (h : Move s s' events) (index : Nat) :
    BagFollows index s s' events := by
  cases h with
  | aside _ validators _ => exact bagOf_congr validators index
  | reworded i f =>
    simp only [BagFollows, List.foldl_nil, bagOf, modifyWording, modifyValidator,
      List.getElem?_modify]
    cases s.validators[index]? with
    | none => rfl
    | some v => by_cases h : i = index <;> simp [h]
  | created v empty =>
    simp only [BagFollows, List.foldl_nil, bagOf, List.getElem?_append]
    by_cases hlt : index < s.validators.length
    · rw [if_pos hlt]
    · rw [if_neg hlt, List.getElem?_eq_none (l := s.validators) (by omega)]
      cases index - s.validators.length with
      | zero => exact empty
      | succ => rfl
  | checked i v there => exact check_bag s there index
  | opened i v listener _ _ there accepted =>
    obtain ⟨plan, -, rfl, -, hvalidators⟩ := openRun_ok accepted
    rw [BagFollows, bagOf_congr hvalidators, bagOf_modifyValidator there]
    by_cases h : i = index <;> simp [h, Event.onBag, Validator.clear]
  | asked run => exact (ask_strokes s run).bag index
  | closed run => exact (close_strokes s run).bag index
  | completed run slot outcome => exact operate_bag s run _ index

theorem steps_bag (s : Session) (ops : List Operation) (index : Nat) :
    BagFollows index s (s.steps ops).1 (s.steps ops).2 :=
  Trail.bag (fun _ _ _ hmove => hmove.bag index) (steps_moves s ops)

end Session

end FieldRules
