import FieldRules.Proofs.Plan
import FieldRules.Proofs.Session.Alone

namespace FieldRules

namespace Event

/-- The directive that a run considered, with its field. -/
def considered? (run : Nat) : Event → Option (String × Directive)
  | skipped r field directive => if r = run then some (field, directive) else none
  | operated r (.add f) => if r = run then some (f.field, f.directive) else none
  | _ => none

/-- Whether the event is no matter of the plan of an asynchronous run. -/
def isInert : Event → Bool
  | began _ none | recorded _ _ _ _ | verdict _ _ | finished _ _ => true
  | _ => false

theorem isInert_of_isReport {e : Event} (h : e.isReport = true) : e.isInert = true := by
  cases e <;> simp_all [isReport, isInert]

/-- Whether the event tells what became of a slot. -/
def isOfSlot : Event → Bool
  | operated _ _ | judged _ _ _ | called _ _ _ _ => true
  | _ => false

theorem isOfSlot_of_isInert {e : Event} (h : e.isInert = true) : e.isOfSlot = false := by
  cases e <;> simp_all [isInert, isOfSlot]

end Event

namespace Session

/-- The directives that a run considered, in order. -/
def considered (run : Nat) (events : List Event) : List (String × Directive) :=
  events.filterMap (Event.considered? run)

@[simp]
theorem considered_append (run : Nat) (first others : List Event) :
    considered run (first ++ others) = considered run first ++ considered run others :=
  List.filterMap_append

/-- How many slots a run has got. -/
def slotCount (run : Nat) (events : List Event) : Nat :=
  (Run.completions (operations run events)).length

/-- The rule of every slot was asked. -/
def Asked (run : Nat) (events : List Event) : Prop :=
  ∀ slot < slotCount run events, (∃ accepted, .judged run slot accepted ∈ events) ∨
    ∃ rule field, .called run slot rule field ∈ events

/-- All directives of the validator were considered, and the rule of every slot was asked. -/
def Scheduled (specs : List RuleSet) (run : Nat) (past : List Event) : Prop :=
  Asked run past ∧ ∃ index rules, .began index (some run) ∈ past ∧ specs[index]? = some rules ∧
    considered run past = rules.directives

/-- The operation closes the run to questions or adds a slot. -/
def IsScheduling : Run.Operation → Prop
  | .add _ | .arm => True
  | .complete _ _ => False

/-- The rule of every slot is asked right away and what it answers at once is the first completion of
the slot; a run is closed to questions when it is scheduled, and gets no slot after that. -/
structure Prompted (specs : List RuleSet) (events : List Event) : Prop where
  asked : ∀ run, Asked run events
  judged : ∀ run slot accepted, .judged run slot accepted ∈ events →
    Run.firstCompletion (operations run events) slot = some (.ofBool accepted)
  called : ∀ run slot rule field, .called run slot rule field ∈ events →
    slot < slotCount run events
  scheduled : Always (fun past e => ∀ run, e = .operated run .arm → Scheduled specs run past) events
  final : Always (fun past e => ∀ run operation, e = .operated run operation →
    IsScheduling operation → .arm ∉ operations run past) events

/-- Every run goes through its plan in order; `outlines` says what is left. -/
structure Orderly (outlines : List (Nat × List Step)) (specs : List RuleSet)
    (events : List Event) : Prop extends Prompted specs events where
  unopened : ∀ run, outlines.length ≤ run →
    operations run events = [] ∧ considered run events = []
  began : ∀ run index, .began index (some run) ∈ events ↔
    ∃ pending, outlines[run]? = some (index, pending)
  considered : ∀ run index pending, outlines[run]? = some (index, pending) →
    ∃ rules, specs[index]? = some rules ∧
      considered run events ++ pending.map Step.entry = rules.directives
  closed : ∀ run index pending, outlines[run]? = some (index, pending) →
    .arm ∈ operations run events → pending = []

theorem orderly_initial (specs : List RuleSet) : Orderly [] specs [] where
  asked run slot hslot := by simp [slotCount, operations, Run.completions] at hslot
  judged := by simp
  called := by simp
  scheduled := always_nil
  final := always_nil
  unopened _ _ := ⟨rfl, rfl⟩
  began := by simp
  considered := by simp
  closed := by simp

theorem slotCount_append_le (run : Nat) (events others : List Event) :
    slotCount run events ≤ slotCount run (events ++ others) := by
  rw [slotCount, slotCount, operations_append]
  induction operations run others using List.reverseRecOn with
  | nil => simp
  | append_singleton ops op ih =>
    rw [← List.append_assoc, Run.length_completions_snoc]
    omega

/-- A slot whose rule was asked stays asked, whatever else happens. -/
theorem Asked.append {run : Nat} {events : List Event} (h : Asked run events)
    (others : List Event) {slot : Nat} (hslot : slot < slotCount run events) :
    (∃ accepted, .judged run slot accepted ∈ events ++ others) ∨
      ∃ rule field, .called run slot rule field ∈ events ++ others := by
  rcases h slot hslot with ⟨accepted, hj⟩ | ⟨rule, field, hc⟩
  · exact .inl ⟨accepted, List.mem_append_left _ hj⟩
  · exact .inr ⟨rule, field, List.mem_append_left _ hc⟩

theorem operations_of_notOfSlot {others : List Event} (h : ∀ e ∈ others, e.isOfSlot = false)
    (run : Nat) : operations run others = [] := by
  rw [operations, List.filterMap_eq_nil_iff]
  intro e he
  have hquiet := h e he
  cases e <;> simp_all [Event.isOfSlot, Event.operation?]

theorem considered_of_isInert {others : List Event} (h : ∀ e ∈ others, e.isInert = true)
    (run : Nat) : considered run others = [] := by
  rw [considered, List.filterMap_eq_nil_iff]
  intro e he
  have hinert := h e he
  cases e <;> simp_all [Event.isInert, Event.considered?]

theorem getElem?_concat_cases {α : Type} {l : List α} {a b : α} {i : Nat}
    (h : (l ++ [a])[i]? = some b) : l[i]? = some b ∨ i = l.length ∧ b = a := by
  rw [List.getElem?_append] at h
  split at h
  · exact .inl h
  · next hge =>
    have hlt := (List.getElem?_eq_some_iff.1 h).1
    rw [List.length_singleton] at hlt
    obtain rfl : i = l.length := by omega
    rw [Nat.sub_self] at h
    exact .inr ⟨rfl, (Option.some.inj h).symm⟩

theorem getElem?_set_cases {α : Type} {l : List α} {a b : α} {i j : Nat}
    (h : (l.set i a)[j]? = some b) : j = i ∧ b = a ∨ j ≠ i ∧ l[j]? = some b := by
  by_cases hj : j = i
  · subst hj
    have hlt : j < l.length := by simpa using (List.getElem?_eq_some_iff.1 h).1
    rw [List.getElem?_set_self hlt] at h
    exact .inl ⟨rfl, (Option.some.inj h).symm⟩
  · rw [List.getElem?_set_ne (Ne.symm hj)] at h
    exact .inr ⟨hj, h⟩

section Orderly

variable {outlines : List (Nat × List Step)} {specs : List RuleSet} {events : List Event}

/-- What tells nothing of slots may happen, and validators may be made. -/
theorem Prompted.aside (h : Prompted specs events) (more : List RuleSet) {others : List Event}
    (hquiet : ∀ e ∈ others, e.isOfSlot = false) :
    Prompted (specs ++ more) (events ++ others) := by
  have hops (run : Nat) : operations run (events ++ others) = operations run events := by
    rw [operations_append, operations_of_notOfSlot hquiet, List.append_nil]
  have hcount (run : Nat) : slotCount run (events ++ others) = slotCount run events := by
    rw [slotCount, slotCount, hops]
  have hnot {e : Event} (he : e.isOfSlot = true) : e ∉ others := by
    intro hm
    simp [hquiet e hm] at he
  refine {
    asked := fun run slot hslot => ?asked
    judged := fun run slot accepted hj => ?judged
    called := fun run slot rule field hc => ?called
    scheduled := ?scheduled
    final := ?final }
  case asked =>
    rw [hcount] at hslot
    exact (h.asked run).append _ hslot
  case judged =>
    rw [hops]
    exact h.judged run slot accepted ((List.mem_append.1 hj).resolve_right (hnot rfl))
  case called =>
    rw [hcount]
    exact h.called run slot rule field ((List.mem_append.1 hc).resolve_right (hnot rfl))
  case scheduled =>
    apply Always.append
    · intro past e hp run he
      obtain ⟨hasked, index, rules, hb, hs, heq⟩ := h.scheduled past e hp run he
      have hstill : (specs ++ more)[index]? = some rules := by
        rw [List.getElem?_append_left (List.getElem?_eq_some_iff.1 hs).1, hs]
      exact ⟨hasked, index, rules, hb, hstill, heq⟩
    · intro past e rest hsplit run he
      exact absurd (by simp [hsplit, he]) (hnot (e := .operated run .arm) rfl)
  case final =>
    apply h.final.append
    intro past e rest hsplit run operation he
    exact absurd (by simp [hsplit, he]) (hnot (e := .operated run operation) rfl)

/-- What is no matter of a plan may happen, and validators may be made. -/
theorem Orderly.inert (h : Orderly outlines specs events) (more : List RuleSet)
    {others : List Event} (hinert : ∀ e ∈ others, e.isInert = true) :
    Orderly outlines (specs ++ more) (events ++ others) := by
  have hquiet : ∀ e ∈ others, e.isOfSlot = false := by
    intro e he
    exact Event.isOfSlot_of_isInert (hinert e he)
  have hops (run : Nat) : operations run (events ++ others) = operations run events := by
    rw [operations_append, operations_of_notOfSlot hquiet, List.append_nil]
  have hcons (run : Nat) : Session.considered run (events ++ others) =
      Session.considered run events := by
    rw [considered_append, considered_of_isInert hinert, List.append_nil]
  refine {
    toPrompted := h.toPrompted.aside more hquiet
    unopened := fun run hrun => ?unopened
    began := fun run index => ?began
    considered := fun run index pending ho => ?considered
    closed := fun run index pending ho => ?closed }
  case unopened =>
    rw [hops, hcons]
    exact h.unopened run hrun
  case began =>
    have hnot : .began index (some run) ∉ others := by
      intro hm
      simpa [Event.isInert] using hinert _ hm
    rw [List.mem_append, or_iff_left hnot]
    exact h.began run index
  case considered =>
    obtain ⟨rules, hs, heq⟩ := h.considered run index pending ho
    rw [hcons, List.getElem?_append_left (List.getElem?_eq_some_iff.1 hs).1]
    exact ⟨rules, hs, heq⟩
  case closed =>
    rw [hops]
    exact h.closed run index pending ho

theorem operations_operated (index run : Nat) (operation : Run.Operation) :
    operations run [.operated index operation] = if index = run then [operation] else [] := by
  by_cases h : index = run <;> simp [operations, Event.operation?, h]

theorem considered_operated {index : Nat} {operation : Run.Operation}
    (ho : ∀ failure, operation ≠ .add failure) (run : Nat) :
    considered run [.operated index operation] = [] := by
  cases operation with
  | add failure => exact absurd rfl (ho failure)
  | arm | complete => rfl

theorem slotCount_operated {index : Nat} {operation : Run.Operation}
    (ho : ∀ failure, operation ≠ .add failure) (events : List Event) (run : Nat) :
    slotCount run (events ++ [.operated index operation]) = slotCount run events := by
  rw [slotCount, slotCount, operations_append, operations_operated]
  by_cases hr : index = run
  · rw [if_pos hr, Run.length_completions_snoc]
    cases operation <;> simp_all
  · rw [if_neg hr, List.append_nil]

/-- Doing something with a run that adds no slot keeps what was asked, judged and called. -/
theorem Prompted.operated (h : Prompted specs events) {index : Nat} {operation : Run.Operation}
    (hadd : ∀ failure, operation ≠ .add failure)
    (harm : operation = .arm → .arm ∉ operations index events ∧ Scheduled specs index events) :
    Prompted specs (events ++ [.operated index operation]) := by
  refine {
    asked := fun run slot hslot => ?asked
    judged := fun run slot accepted hj => ?judged
    called := fun run slot rule field hc => ?called
    scheduled := always_snoc.2 ⟨h.scheduled, fun run he => ?scheduled⟩
    final := always_snoc.2 ⟨h.final, fun run other he hscheduling => ?final⟩ }
  case asked =>
    rw [slotCount_operated hadd] at hslot
    exact (h.asked run).append _ hslot
  case judged =>
    rw [operations_append]
    exact Run.firstCompletion_append (h.judged run slot accepted (by simpa using hj)) _
  case called =>
    rw [slotCount_operated hadd]
    exact h.called run slot rule field (by simpa using hc)
  case scheduled =>
    obtain ⟨rfl, rfl⟩ := Event.operated.inj he
    exact (harm rfl).2
  case final =>
    obtain ⟨rfl, rfl⟩ := Event.operated.inj he
    cases operation with
    | add failure => exact absurd rfl (hadd failure)
    | arm => exact (harm rfl).1
    | complete slot outcome => exact hscheduling.elim

theorem Orderly.operated (h : Orderly outlines specs events) {index : Nat}
    {operation : Run.Operation} (hlt : index < outlines.length)
    (hadd : ∀ failure, operation ≠ .add failure)
    (harm : operation = .arm → .arm ∉ operations index events ∧ Scheduled specs index events)
    (hdone : operation = .arm → ∀ validator pending,
      outlines[index]? = some (validator, pending) → pending = []) :
    Orderly outlines specs (events ++ [.operated index operation]) := by
  have hcons (run : Nat) : Session.considered run (events ++ [.operated index operation]) =
      Session.considered run events := by
    rw [considered_append, considered_operated hadd, List.append_nil]
  refine {
    toPrompted := h.toPrompted.operated hadd harm
    unopened := fun run hrun => ?unopened
    began := fun run validator => by simpa using h.began run validator
    considered := fun run validator pending ho => ?considered
    closed := fun run validator pending ho hm => ?closed }
  case unopened =>
    have hne : index ≠ run := by omega
    rw [operations_append, operations_operated, if_neg hne, List.append_nil, hcons]
    exact h.unopened run hrun
  case considered =>
    rw [hcons]
    exact h.considered run validator pending ho
  case closed =>
    rw [operations_append, operations_operated, List.mem_append] at hm
    rcases hm with hm | hm
    · exact h.closed run validator pending ho hm
    · by_cases hr : index = run
      · subst hr
        rw [if_pos rfl, List.mem_singleton] at hm
        exact hdone hm.symm validator pending ho
      · simp [hr] at hm

/-- Nothing is left of the plan: the run may be closed to questions. -/
theorem Orderly.arm (h : Orderly outlines specs events) {index validator : Nat}
    (ho : outlines[index]? = some (validator, [])) (hnew : .arm ∉ operations index events) :
    Orderly outlines specs (events ++ [.operated index .arm]) := by
  obtain ⟨rules, hs, heq⟩ := h.considered index validator [] ho
  rw [List.map_nil, List.append_nil] at heq
  have hscheduled : Scheduled specs index events :=
    ⟨h.asked index, validator, rules, (h.began index validator).2 ⟨[], ho⟩, hs, heq⟩
  refine h.operated (List.getElem?_eq_some_iff.1 ho).1 (by simp) (fun _ => ⟨hnew, hscheduled⟩) ?_
  intro _ other pending hother
  rw [ho] at hother
  exact (Prod.mk.inj (Option.some.inj hother)).2.symm

theorem Orderly.complete (h : Orderly outlines specs events) {index : Nat}
    (hlt : index < outlines.length) (slot : Nat) (outcome : Outcome) :
    Orderly outlines specs (events ++ [.operated index (.complete slot outcome)]) :=
  h.operated hlt (by simp) (by simp) (by simp)

/-- A run of a validator is opened with the whole plan before it. -/
theorem Orderly.open (h : Orderly outlines specs events) {validator : Nat} {rules : RuleSet}
    (hs : specs[validator]? = some rules) {steps : List Step}
    (hsteps : steps.map Step.entry = rules.directives) :
    Orderly (outlines ++ [(validator, steps)]) specs
      (events ++ [.began validator (some outlines.length)]) := by
  have hops (run : Nat) : operations run (events ++ [.began validator (some outlines.length)]) =
      operations run events := by
    simp [Event.operation?]
  have hcons (run : Nat) :
      Session.considered run (events ++ [.began validator (some outlines.length)]) =
        Session.considered run events := by
    simp [Session.considered, Event.considered?]
  obtain ⟨hnoops, hnocons⟩ := h.unopened outlines.length le_rfl
  refine {
    toPrompted := by simpa using h.toPrompted.aside [] (by simp [Event.isOfSlot])
    unopened := fun run hrun => ?unopened
    began := fun run index => ?began
    considered := fun run index pending ho => ?considered
    closed := fun run index pending ho hm => ?closed }
  case unopened =>
    rw [List.length_append] at hrun
    rw [hops, hcons]
    exact h.unopened run (by omega)
  case began =>
    rw [List.mem_append, h.began run index, List.mem_singleton]
    constructor
    · intro hin
      rcases hin with ⟨pending, ho⟩ | he
      · exact ⟨pending, by rw [List.getElem?_append_left (List.getElem?_eq_some_iff.1 ho).1, ho]⟩
      · obtain ⟨rfl, hr⟩ := Event.began.inj he
        obtain rfl := Option.some.inj hr
        exact ⟨steps, by simp⟩
    · intro hin
      obtain ⟨pending, ho⟩ := hin
      rcases getElem?_concat_cases ho with ho | ⟨rfl, hnew⟩
      · exact .inl ⟨pending, ho⟩
      · rw [(Prod.mk.inj hnew).1]
        exact .inr rfl
  case considered =>
    rw [hcons]
    rcases getElem?_concat_cases ho with ho | ⟨rfl, hnew⟩
    · exact h.considered run index pending ho
    · obtain ⟨rfl, rfl⟩ := Prod.mk.inj hnew
      exact ⟨rules, hs, by rw [hnocons, List.nil_append, hsteps]⟩
  case closed =>
    rw [hops] at hm
    rcases getElem?_concat_cases ho with ho | ⟨rfl, -⟩
    · exact h.closed run index pending ho hm
    · simp [hnoops] at hm

theorem mem_operations {run : Nat} {operation : Run.Operation} {events : List Event} :
    operation ∈ operations run events ↔ .operated run operation ∈ events := by
  simp only [operations, List.mem_filterMap]
  constructor
  · intro hin
    obtain ⟨e, he, ho⟩ := hin
    cases e with
    | operated r other =>
      by_cases hr : r = run <;> simp [Event.operation?, hr] at ho
      rwa [← hr, ← ho]
    | _ => simp [Event.operation?] at ho
  · intro h
    exact ⟨_, h, by simp [Event.operation?]⟩

section Ask

variable {index : Nat} {asked : List Event}
  (hops : ∀ run operation, .operated run operation ∈ asked → run = index ∧ operation ≠ .arm)
include hops

theorem operations_asked_of_ne {run : Nat} (hr : run ≠ index) : operations run asked = [] := by
  rw [List.eq_nil_iff_forall_not_mem]
  intro operation hm
  exact hr (hops run operation (mem_operations.1 hm)).1

theorem arm_not_mem_asked (run : Nat) : .arm ∉ operations run asked := by
  intro hm
  exact (hops run .arm (mem_operations.1 hm)).2 rfl

/-- The rule of a new slot is asked. -/
theorem Prompted.ask (h : Prompted specs events) (hopen : .arm ∉ operations index events)
    (hasked : Asked index (events ++ asked))
    (hjudged : ∀ run slot accepted, .judged run slot accepted ∈ asked →
      Run.firstCompletion (operations run (events ++ asked)) slot = some (.ofBool accepted))
    (hcalled : ∀ run slot rule field, .called run slot rule field ∈ asked →
      slot < slotCount run (events ++ asked)) :
    Prompted specs (events ++ asked) := by
  refine {
    asked := fun run => ?asked
    judged := fun run slot accepted hj => ?judged
    called := fun run slot rule field hc => ?called
    scheduled := h.scheduled.append fun past e others hsplit run he => ?scheduled
    final := h.final.append fun past e others hsplit run operation he _ => ?final }
  case asked =>
    by_cases hr : run = index
    · rwa [hr]
    · intro slot hslot
      rw [slotCount, operations_append, operations_asked_of_ne hops hr, List.append_nil] at hslot
      exact (h.asked run).append _ hslot
  case judged =>
    rcases List.mem_append.1 hj with hj | hj
    · rw [operations_append]
      exact Run.firstCompletion_append (h.judged run slot accepted hj) _
    · exact hjudged run slot accepted hj
  case called =>
    rcases List.mem_append.1 hc with hc | hc
    · exact (h.called run slot rule field hc).trans_le (slotCount_append_le run events asked)
    · exact hcalled run slot rule field hc
  case scheduled =>
    subst he
    exact absurd rfl (hops run .arm (by simp [hsplit])).2
  case final =>
    subst he
    obtain ⟨rfl, -⟩ := hops run operation (by simp [hsplit])
    rw [operations_append, List.mem_append, not_or]
    refine ⟨hopen, fun hm => arm_not_mem_asked hops run ?_⟩
    rw [hsplit, operations_append]
    exact List.mem_append_left _ hm

/-- The next step of an open run is considered. -/
theorem Orderly.ask (h : Orderly outlines specs events) {validator : Nat} {step : Step}
    {rest : List Step} (ho : outlines[index]? = some (validator, step :: rest))
    (hcons : ∀ run, Session.considered run asked = if index = run then [step.entry] else [])
    (hbegan : ∀ v run, .began v (some run) ∉ asked)
    (hasked : Asked index (events ++ asked))
    (hjudged : ∀ run slot accepted, .judged run slot accepted ∈ asked →
      Run.firstCompletion (operations run (events ++ asked)) slot = some (.ofBool accepted))
    (hcalled : ∀ run slot rule field, .called run slot rule field ∈ asked →
      slot < slotCount run (events ++ asked)) :
    Orderly (outlines.set index (validator, rest)) specs (events ++ asked) := by
  have hlt : index < outlines.length := (List.getElem?_eq_some_iff.1 ho).1
  have hopen : .arm ∉ operations index events := fun hm => by
    simpa using h.closed index validator (step :: rest) ho hm
  refine {
    toPrompted := h.toPrompted.ask hops hopen hasked hjudged hcalled
    unopened := fun run hrun => ?unopened
    began := fun run v => ?began
    considered := fun run v pending hp => ?considered
    closed := fun run v pending hp hm => ?closed }
  case unopened =>
    rw [List.length_set] at hrun
    have hne : run ≠ index := by omega
    rw [operations_append, considered_append, operations_asked_of_ne hops hne, hcons,
      if_neg hne.symm, List.append_nil, List.append_nil]
    exact h.unopened run hrun
  case began =>
    rw [List.mem_append, or_iff_left (hbegan v run), h.began run v]
    constructor
    · intro hin
      obtain ⟨pending, hp⟩ := hin
      by_cases hr : run = index
      · subst hr
        rw [ho] at hp
        obtain ⟨rfl, -⟩ := Prod.mk.inj (Option.some.inj hp)
        exact ⟨rest, List.getElem?_set_self hlt⟩
      · exact ⟨pending, by rw [List.getElem?_set_ne (Ne.symm hr), hp]⟩
    · intro hin
      obtain ⟨pending, hp⟩ := hin
      rcases getElem?_set_cases hp with ⟨rfl, hnew⟩ | ⟨-, hp⟩
      · rw [(Prod.mk.inj hnew).1]
        exact ⟨_, ho⟩
      · exact ⟨pending, hp⟩
  case considered =>
    rw [considered_append, hcons]
    rcases getElem?_set_cases hp with ⟨rfl, hnew⟩ | ⟨hr, hp⟩
    · obtain ⟨rfl, rfl⟩ := Prod.mk.inj hnew
      obtain ⟨rules, hs, heq⟩ := h.considered run v _ ho
      exact ⟨rules, hs, by simpa using heq⟩
    · rw [if_neg (Ne.symm hr), List.append_nil]
      exact h.considered run v pending hp
  case closed =>
    rw [operations_append, List.mem_append, or_iff_left (arm_not_mem_asked hops run)] at hm
    rcases getElem?_set_cases hp with ⟨rfl, -⟩ | ⟨-, hp⟩
    · exact absurd hm hopen
    · exact h.closed run v pending hp hm

end Ask

/-- The directive does not count. -/
theorem Orderly.skip (h : Orderly outlines specs events) {index validator : Nat} {step : Step}
    {rest : List Step} (ho : outlines[index]? = some (validator, step :: rest)) :
    Orderly (outlines.set index (validator, rest)) specs
      (events ++ [.skipped index step.field step.directive]) := by
  refine h.ask (by simp) ho ?_ (by simp) ?_ (by simp) (by simp)
  · intro run
    by_cases hr : index = run <;> simp [Session.considered, Event.considered?, Step.entry, hr]
  · intro slot hslot
    rw [slotCount, operations_append] at hslot
    exact (h.asked index).append _ (by simpa [slotCount, Event.operation?] using hslot)

theorem slotCount_add (events : List Event) (index : Nat) (failure : Failure) (e : Event)
    (he : e.operation? index = none) :
    slotCount index (events ++ [.operated index (.add failure), e]) = slotCount index events + 1 := by
  have hops : operations index [.operated index (.add failure), e] = [.add failure] := by
    rw [operations_cons, operations_cons, he]
    simp [Event.operation?]
  rw [slotCount, operations_append, hops, Run.length_completions_snoc, slotCount]

/-- The directive gets a slot, and an asynchronous rule its handle. -/
theorem Orderly.call (h : Orderly outlines specs events) {index validator : Nat} {step : Step}
    {rest : List Step} (ho : outlines[index]? = some (validator, step :: rest))
    {failure : Failure} (hf : (failure.field, failure.directive) = step.entry)
    (rule field : String) :
    Orderly (outlines.set index (validator, rest)) specs
      (events ++ [.operated index (.add failure),
        .called index (slotCount index events) rule field]) := by
  have hcount := slotCount_add events index failure
    (.called index (slotCount index events) rule field) rfl
  refine h.ask (by simp) ho ?_ (by simp) ?_ (by simp) ?_
  · intro run
    by_cases hr : index = run <;> simp [Session.considered, Event.considered?, hf, hr]
  · intro slot hslot
    rw [hcount] at hslot
    by_cases hnew : slot = slotCount index events
    · exact .inr ⟨rule, field, by simp [hnew]⟩
    · exact (h.asked index).append _ (by omega)
  · intro run slot other place hc
    simp only [List.mem_cons, reduceCtorEq, Event.called.injEq, List.not_mem_nil, or_false,
      false_or] at hc
    obtain ⟨rfl, rfl, -, -⟩ := hc
    omega

/-- The directive gets a slot, and a synchronous rule completes it. -/
theorem Orderly.judge (h : Orderly outlines specs events) {index validator : Nat} {step : Step}
    {rest : List Step} (ho : outlines[index]? = some (validator, step :: rest))
    {failure : Failure} (hf : (failure.field, failure.directive) = step.entry)
    (accepted : Bool) :
    Orderly (outlines.set index (validator, rest)) specs
      (events ++ [.operated index (.add failure),
        .judged index (slotCount index events) accepted,
        .operated index (.complete (slotCount index events) (.ofBool accepted))]) := by
  have hops : operations index [.operated index (.add failure),
      .judged index (slotCount index events) accepted,
      .operated index (.complete (slotCount index events) (.ofBool accepted))] =
      [.add failure, .complete (slotCount index events) (.ofBool accepted)] := by
    simp [Event.operation?]
  refine h.ask ?_ ho ?_ (by simp) ?_ ?_ (by simp)
  · simp only [List.mem_cons, reduceCtorEq, Event.operated.injEq, List.not_mem_nil, or_false,
      false_or]
    intro run operation hin
    rcases hin with ⟨rfl, rfl⟩ | ⟨rfl, rfl⟩ <;> simp
  · intro run
    by_cases hr : index = run <;> simp [Session.considered, Event.considered?, hf, hr]
  · intro slot hslot
    have heq : operations index events ++
        [.add failure, .complete (slotCount index events) (.ofBool accepted)] =
        (operations index events ++ [.add failure]) ++
          [.complete (slotCount index events) (.ofBool accepted)] := by simp
    rw [slotCount, operations_append, hops, heq, Run.length_completions_snoc,
      Run.length_completions_snoc] at hslot
    simp only at hslot
    by_cases hnew : slot = slotCount index events
    · exact .inl ⟨accepted, by simp [hnew]⟩
    · exact (h.asked index).append _ (by rw [slotCount] at hnew ⊢; omega)
  · intro run slot answer hj
    simp only [List.mem_cons, reduceCtorEq, Event.judged.injEq, List.not_mem_nil, or_false,
      false_or] at hj
    obtain ⟨rfl, rfl, rfl⟩ := hj
    rw [operations_append, hops]
    exact Run.firstCompletion_new _ failure _

end Orderly

end Session

end FieldRules
