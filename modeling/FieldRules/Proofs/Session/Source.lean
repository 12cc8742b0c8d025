import FieldRules.Proofs.Session.Schedule
import FieldRules.Proofs.Session.Voice

namespace FieldRules

/-- What is told of a directive of a validator if it fails. -/
def Validator.failureFor (v : Validator) (entry : String × Directive) : Failure :=
  ⟨entry.1, entry.2, SizeKind.of (v.rules.isNumeric entry.1) (v.input.value entry.1), none⟩

namespace Session

/-- The validator is still there, with the same input and the same rules. -/
def Keeps (s s' : Session) : Prop :=
  ∀ (index : Nat) (v : Validator), s.validators[index]? = some v →
    ∃ v' : Validator, s'.validators[index]? = some v' ∧ v'.input = v.input ∧ v'.rules = v.rules

theorem keeps_of_bare {s s' : Session} (h : s'.bare = s.bare) : Keeps s s' := by
  intro index v there
  have hat : s'.bare[index]? = some v.clear := by
    rw [h, bare, List.getElem?_map, there]
    rfl
  rw [bare, List.getElem?_map] at hat
  obtain ⟨v', there', hclear⟩ := Option.map_eq_some_iff.1 hat
  exact ⟨v', there', congrArg (·.input) hclear, congrArg (·.rules) hclear⟩

theorem keeps_modifyValidator (s : Session) (i : Nat) {f : Validator → Validator}
    (hinput : ∀ v, (f v).input = v.input) (hrules : ∀ v, (f v).rules = v.rules) :
    Keeps s (s.modifyValidator i f) := by
  intro index v there
  by_cases h : i = index
  · exact ⟨f v, by simp [modifyValidator, there, h], hinput v, hrules v⟩
  · exact ⟨v, by simp [modifyValidator, there, h], rfl, rfl⟩

theorem Stroke.bare {s s' : Session} {events : List Event} (h : Stroke s s' events) :
    s'.bare = s.bare := by
  cases h with
  | turned | handed | noted => rfl
  | operated index operation => exact unoperated_bare.operate s index operation

theorem Strokes.bare {s s' : Session} {events : List Event} (h : Strokes s s' events) :
    s'.bare = s.bare := by
  induction h with
  | none => rfl
  | snoc _ last ih => rw [last.bare, ih]

theorem Move.keeps {s s' : Session} {events : List Event} (h : Move s s' events) :
    Keeps s s' := by
  cases h with
  | aside _ validators _ =>
    intro index v there
    exact ⟨v, by rw [validators, there], rfl, rfl⟩
  | reworded i f => exact keeps_modifyValidator s i (fun _ => rfl) fun _ => rfl
  | created v _ =>
    intro index w there
    have hlt := (List.getElem?_eq_some_iff.1 there).1
    exact ⟨w, by rw [List.getElem?_append_left hlt, there], rfl, rfl⟩
  | checked i v _ =>
    unfold Session.check
    split
    · next passed scene _ =>
      exact keeps_modifyValidator { s with context := scene.context } i (fun _ => rfl) fun _ => rfl
    · exact keeps_of_bare rfl
  | opened i v listener _ _ there accepted =>
    obtain ⟨plan, -, -, -, hvalidators⟩ := openRun_ok accepted
    intro index w thereIndex
    obtain ⟨w', hw', hsame⟩ := keeps_modifyValidator s i (f := Validator.clear) (fun _ => rfl)
      (fun _ => rfl) index w thereIndex
    exact ⟨w', by rw [hvalidators, hw'], hsame⟩
  | asked run => exact keeps_of_bare (ask_strokes s run).bare
  | closed run => exact keeps_of_bare (close_strokes s run).bare
  | completed run slot outcome => exact keeps_of_bare (unoperated_bare.operate s run _)

theorem Moves.keeps {s s' : Session} {events : List Event} (h : Moves s s' events) :
    Keeps s s' := by
  induction h with
  | none => exact fun _ v there => ⟨v, there, rfl, rfl⟩
  | snoc _ last ih =>
    intro index v there
    obtain ⟨v', there', hinput, hrules⟩ := ih index v there
    obtain ⟨v'', there'', hinput', hrules'⟩ := last.keeps index v' there'
    exact ⟨v'', there'', hinput'.trans hinput, hrules'.trans hrules⟩

/-- The steps that are left of plans, and the slots so far, are right about their fields. -/
structure Sourced (s : Session) (events : List Event) : Prop where
  pending : ∀ host pending, (host, pending) ∈ s.outlines → ∀ step ∈ pending,
    ∃ v, s.validators[host]? = some v ∧ step.numeric = v.rules.isNumeric step.field
  slots : ∀ run f, .operated run (.add f) ∈ events → ∃ host v, s.hosts[run]? = some host ∧
    s.validators[host]? = some v ∧ f = v.failureFor (f.field, f.directive)

/-- A move that adds no slot, after which less may be left of plans. -/
theorem Sourced.quiet {s s' : Session} {events others : List Event} (h : Sourced s events)
    (hkeeps : Keeps s s') (hhosts : s.hosts <+: s'.hosts)
    (hpending : ∀ host pending, (host, pending) ∈ s'.outlines → ∀ step ∈ pending,
      (∃ more, (host, more) ∈ s.outlines ∧ step ∈ more) ∨
        ∃ v, s'.validators[host]? = some v ∧ step.numeric = v.rules.isNumeric step.field)
    (hslots : ∀ run f, .operated run (.add f) ∈ others → ∃ host v, s.hosts[run]? = some host ∧
      s.validators[host]? = some v ∧ f = v.failureFor (f.field, f.directive)) :
    Sourced s' (events ++ others) := by
  constructor
  · intro host pending ho step hstep
    rcases hpending host pending ho step hstep with ⟨more, hmore, hm⟩ | hnew
    · obtain ⟨v, there, hnumeric⟩ := h.pending host more hmore step hm
      obtain ⟨v', there', -, hrules⟩ := hkeeps host v there
      exact ⟨v', there', by rw [hnumeric, hrules]⟩
    · exact hnew
  · intro run f hm
    have hold : ∃ host v, s.hosts[run]? = some host ∧ s.validators[host]? = some v ∧
        f = v.failureFor (f.field, f.directive) :=
      (List.mem_append.1 hm).elim (h.slots run f) (hslots run f)
    obtain ⟨host, v, hhost, there, hf⟩ := hold
    obtain ⟨v', there', hinput, hrules⟩ := hkeeps host v there
    refine ⟨host, v', ?_, there', ?_⟩
    · obtain ⟨more, hmore⟩ := hhosts
      rw [← hmore, List.getElem?_append_left (List.getElem?_eq_some_iff.1 hhost).1, hhost]
    · rw [Validator.failureFor, hinput, hrules]
      exact hf

/-- Asking leaves less of a plan. -/
theorem mem_outlines_ask {s : Session} {index host : Nat} {pending : List Step}
    (h : (host, pending) ∈ (s.ask index).1.outlines) :
    ∃ more, (host, more) ∈ s.outlines ∧ pending <:+ more := by
  rcases ask_cases s index with ⟨heq, -⟩ | ⟨started, step, rest, v, context, hs, hp, -, hcase⟩
  · rw [heq] at h
    exact ⟨pending, h, List.suffix_rfl⟩
  · have hout : (s.ask index).1.outlines = s.outlines.modify index fun o => (o.1, rest) := by
      rw [← outlines_advance s index rest context]
      rcases hcase with ⟨-, heq⟩ | ⟨-, heq⟩
      · rw [heq]
      · rw [heq]
        simp only [outlines_question, outlines_operate]
    have ho : s.outlines[index]? = some (started.validator, step :: rest) := by
      rw [getElem?_outlines, hs, ← hp]
      rfl
    rw [hout, List.modify_eq_set, ho] at h
    rcases List.mem_or_eq_of_mem_set h with hm | he
    · exact ⟨pending, hm, List.suffix_rfl⟩
    · obtain ⟨rfl, rfl⟩ := Prod.mk.inj he
      exact ⟨step :: pending, List.mem_of_getElem? ho, List.suffix_cons _ _⟩

/-- A run that is opened has the whole plan of its validator left. -/
theorem Sourced.opened {s opened : Session} {events others : List Event} (h : Sourced s events)
    (hkeeps : Keeps s opened) {index : Nat} {v : Validator} {listener : Listener}
    (there : s.validators[index]? = some v)
    (accepted : s.openRun index v listener = .ok (opened, others)) :
    Sourced opened (events ++ others) := by
  obtain ⟨plan, hplan, rfl, hruns, -⟩ := openRun_ok accepted
  have ho : opened.outlines = s.outlines ++ [(index, plan.steps)] := by simp [outlines, hruns]
  refine h.quiet hkeeps ⟨[index], by simp [hosts, ho]⟩ ?_ (by simp)
  intro host pending hm step hstep
  rw [ho, List.mem_append, List.mem_singleton] at hm
  rcases hm with hm | he
  · exact .inl ⟨pending, hm, hstep⟩
  · obtain ⟨rfl, rfl⟩ := Prod.mk.inj he
    obtain ⟨w, hw, -, hrules⟩ := hkeeps host v there
    exact .inr ⟨w, hw, by rw [Plan.numeric_of_make hplan hstep, hrules]⟩

/-- A slot that is added by a question is that of the next step of its plan. -/
theorem Sourced.asked {s : Session} {events : List Event} (h : Sourced s events) (run : Nat)
    (hkeeps : Keeps s (s.ask run).1) : Sourced (s.ask run).1 (events ++ (s.ask run).2) := by
  refine h.quiet hkeeps (by rw [(ask_strokes s run).hosts]) ?_ ?_
  · intro host pending hm step hstep
    obtain ⟨more, hmore, hsuffix⟩ := mem_outlines_ask hm
    exact .inl ⟨more, hmore, hsuffix.subset hstep⟩
  · intro index f hm
    obtain ⟨rfl, hcase⟩ := operated_mem_ask hm
    rcases hcase with ⟨slot, outcome, he⟩ | ⟨started, step, rest, v, hs, hp, hv, he⟩
    · simp at he
    · have ho : (started.validator, step :: rest) ∈ s.outlines := by
        rw [← hp]
        exact List.mem_map_of_mem (List.mem_of_getElem? hs)
      obtain ⟨w, hw, hnumeric⟩ := h.pending _ _ ho step List.mem_cons_self
      obtain rfl : v = w := by simpa [hv] using hw
      refine ⟨started.validator, v, by rw [getElem?_hosts, hs]; rfl, hv, ?_⟩
      rw [Run.Operation.add.inj he, Validator.failureOf, hnumeric]
      rfl

theorem Sourced.move {s s' : Session} {events others : List Event} (hmove : Move s s' others)
    (h : Sourced s events) : Sourced s' (events ++ others) := by
  have hkeeps := hmove.keeps
  have hsame {s' : Session} (ho : s'.outlines = s.outlines) (host : Nat) (pending : List Step)
      (hm : (host, pending) ∈ s'.outlines) (step : Step) (hstep : step ∈ pending) :
      (∃ more, (host, more) ∈ s.outlines ∧ step ∈ more) ∨
        ∃ v, s'.validators[host]? = some v ∧ step.numeric = v.rules.isNumeric step.field :=
    .inl ⟨pending, ho ▸ hm, hstep⟩
  have hoperated {run : Nat} (operation : Run.Operation)
      (hkeeps : Keeps s (s.operate run operation).1) (hadd : ∀ f, operation ≠ .add f) :
      Sourced (s.operate run operation).1 (events ++ (s.operate run operation).2) := by
    have hhosts : (s.operate run operation).1.hosts = s.hosts := by
      rw [hosts, hosts, outlines_operate]
    refine h.quiet hkeeps (by rw [hhosts]) (hsame (outlines_operate s run operation)) ?_
    intro other f hm
    exact absurd (operated_mem_operate hm).2.symm (hadd f)
  cases hmove with
  | aside _ _ runs =>
    have ho : s'.outlines = s.outlines := by rw [outlines, outlines, runs]
    have hhosts : s'.hosts = s.hosts := by rw [hosts, hosts, ho]
    exact h.quiet hkeeps (by rw [hhosts]) (hsame ho) (by simp)
  | reworded | created => exact h.quiet hkeeps List.prefix_rfl (hsame rfl) (by simp)
  | checked index v _ =>
    unfold Session.check at hkeeps ⊢
    split at hkeeps
    · exact h.quiet hkeeps List.prefix_rfl (hsame rfl) (by simp)
    · exact h.quiet hkeeps List.prefix_rfl (hsame rfl) (by simp)
  | opened index v listener _ _ there accepted => exact h.opened hkeeps there accepted
  | asked run => exact h.asked run hkeeps
  | closed run =>
    rcases close_cases s run with heq | heq
    · rw [heq] at hkeeps ⊢
      exact h.quiet hkeeps List.prefix_rfl (hsame rfl) (by simp)
    · rw [heq] at hkeeps ⊢
      exact hoperated _ hkeeps (by simp)
  | completed run slot outcome => exact hoperated _ hkeeps (by simp)

/-- After any history, slots are right about their fields. -/
theorem steps_sourced (context : Context) (validators : List Validator) (ops : List Operation) :
    Sourced (steps { context, validators } ops).1 (steps { context, validators } ops).2 := by
  have hinitial : Sourced { context, validators } [] := ⟨by simp [outlines], by simp⟩
  have hmoves := steps_moves { context, validators } ops
  simpa using hmoves.keep (fun _ _ _ _ hmove h => h.move hmove) hinitial

end Session

end FieldRules
