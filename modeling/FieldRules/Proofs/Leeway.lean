import FieldRules.Engine.Validator
import FieldRules.Proofs.Message.Lookup
import Mathlib.Data.List.Forall2

namespace FieldRules

/-- What may differ between two histories that otherwise go the same way. -/
inductive Leeway where
  /-- All that messages are made of. -/
  | texts
  /-- The templates of the phrasebooks, for the languages and keys that were touched. -/
  | templates (touched : String → String → Prop)

namespace Leeway

variable {way : Leeway} {α β γ : Type}

/-- One of the things that messages are made of, in the place of another. -/
def Same : Leeway → α → α → Prop
  | texts, _, _ => True
  | templates _, a, a' => a' = a

/-- One phrasebook in the place of another. -/
def Books : Leeway → Phrasebook → Phrasebook → Prop
  | texts, _, _ => True
  | templates touched, book, book' => book.AgreeOff touched book'

theorem Same.refl (a : α) : way.Same a a := by
  cases way with
  | texts => trivial
  | templates => rfl

theorem Same.congr₂ {a a' : α} {b b' : β} (h : way.Same a a') (h' : way.Same b b')
    (f : α → β → γ) : way.Same (f a b) (f a' b') := by
  cases way with
  | texts => trivial
  | templates => exact congrArg₂ f h h'

theorem Books.refl (book : Phrasebook) : way.Books book book := by
  cases way with
  | texts => trivial
  | templates => exact .refl book

section Books

variable {book book' : Phrasebook} (h : way.Books book book')
include h

theorem Books.setDefault {language language' : String} (same : way.Same language language') :
    way.Books (book.setDefault language) (book'.setDefault language') := by
  cases way with
  | texts => trivial
  | templates =>
    obtain rfl : language' = language := same
    exact Phrasebook.AgreeOff.setDefault h language'

theorem Books.load {language language' : String} {pairs pairs' : List (String × String)}
    (same : way.Same language language') (same' : way.Same pairs pairs') :
    way.Books (book.load language pairs) (book'.load language' pairs') := by
  cases way with
  | texts => trivial
  | templates =>
    obtain rfl : language' = language := same
    obtain rfl : pairs' = pairs := same'
    exact Phrasebook.AgreeOff.load h language' pairs'

theorem Books.setRuleMessage (rule : String) {message message' : String}
    (same : way.Same message message') :
    way.Books (book.setRuleMessage rule message) (book'.setRuleMessage rule message') := by
  cases way with
  | texts => trivial
  | templates =>
    obtain rfl : message' = message := same
    exact Phrasebook.AgreeOff.setRuleMessage h rule message'

end Books

end Leeway

/-- Completions that pass or fail alike. -/
structure Outcome.Akin (way : Leeway) (outcome outcome' : Outcome) : Prop where
  passed : outcome'.passed = outcome.passed
  message : way.Same outcome.message? outcome'.message?

theorem Outcome.Akin.refl {way : Leeway} (outcome : Outcome) : outcome.Akin way outcome :=
  ⟨rfl, .refl _⟩

mutual

/-- Rules that answer alike. -/
inductive CustomRule.Akin (way : Leeway) : CustomRule → CustomRule → Prop where
  | refl (rule : CustomRule) : CustomRule.Akin way rule rule
  | sync {judge judge' : Nat → Subject → Bool × List Amendment}
      (accepted : ∀ time s, (judge' time s).1 = (judge time s).1)
      (wishes : ∀ time s,
        List.Forall₂ (Amendment.Akin way) (judge time s).2 (judge' time s).2) :
      CustomRule.Akin way (.sync judge) (.sync judge')
  | async {attend attend' : Nat → Subject → Conduct}
      (kept : ∀ time s, (attend' time s).kept = (attend time s).kept)
      (outcomes : ∀ time s,
        List.Forall₂ (Outcome.Akin way) (attend time s).outcomes (attend' time s).outcomes) :
      CustomRule.Akin way (.async attend) (.async attend')

/-- Changes of the context that make it say other things at most. -/
inductive Amendment.Akin (way : Leeway) : Amendment → Amendment → Prop where
  | refl (amendment : Amendment) : Amendment.Akin way amendment amendment
  | setLanguage {language language' : String} (same : way.Same language language') :
      Amendment.Akin way (.setLanguage language) (.setLanguage language')
  | register (name : String) {rule rule' : CustomRule} (akin : CustomRule.Akin way rule rule')
      (implicit : Bool) {message message' : String} (same : way.Same message message') :
      Amendment.Akin way (.register name rule implicit message)
        (.register name rule' implicit message')

end

/-- Judges that accept alike. -/
structure JudgesAkin (way : Leeway) (judge judge' : Judge) : Prop where
  accepted : ∀ time s, (judge' time s).1 = (judge time s).1
  wishes : ∀ time s, List.Forall₂ (Amendment.Akin way) (judge time s).2 (judge' time s).2

theorem JudgesAkin.refl {way : Leeway} (judge : Judge) : JudgesAkin way judge judge :=
  ⟨fun _ _ => rfl, fun _ _ => List.forall₂_same.2 fun a _ => .refl a⟩

/-- Asynchronous rules that do the same with their handles. -/
structure AttendantsAkin (way : Leeway) (attend attend' : Nat → Subject → Conduct) : Prop where
  kept : ∀ time s, (attend' time s).kept = (attend time s).kept
  outcomes : ∀ time s,
    List.Forall₂ (Outcome.Akin way) (attend time s).outcomes (attend' time s).outcomes

/-- Rules as the registry knows them that answer alike. -/
inductive Predicate.Akin (way : Leeway) : Predicate → Predicate → Prop where
  | builtin (rule : Builtin) : Predicate.Akin way (.builtin rule) (.builtin rule)
  | custom {rule rule' : CustomRule} (akin : rule.Akin way rule') :
      Predicate.Akin way (.custom rule) (.custom rule')

theorem Predicate.Akin.refl {way : Leeway} (predicate : Predicate) :
    predicate.Akin way predicate := by
  cases predicate with
  | builtin rule => exact .builtin rule
  | custom rule => exact .custom (.refl rule)

/-- Either both rules answer at once, or both get handles. -/
theorem Predicate.Akin.cases {way : Leeway} {predicate predicate' : Predicate}
    (h : predicate.Akin way predicate') :
    (∃ judge judge', predicate.judge? = some judge ∧ predicate'.judge? = some judge' ∧
      JudgesAkin way judge judge') ∨
    ∃ attend attend', predicate = .custom (.async attend) ∧
      predicate' = .custom (.async attend') ∧ AttendantsAkin way attend attend' := by
  cases h with
  | builtin rule => exact .inl ⟨_, _, rfl, rfl, .refl _⟩
  | @custom rule _ akin =>
    cases akin with
    | refl =>
      cases rule with
      | sync judge => exact .inl ⟨_, _, rfl, rfl, .refl _⟩
      | async attend =>
        exact .inr ⟨_, _, rfl, rfl, fun _ _ => rfl, fun _ _ => List.forall₂_same.2 fun a _ => .refl a⟩
    | sync accepted wishes => exact .inl ⟨_, _, rfl, rfl, accepted, wishes⟩
    | async kept outcomes => exact .inr ⟨_, _, rfl, rfl, kept, outcomes⟩

theorem Predicate.Akin.isAsync {way : Leeway} {predicate predicate' : Predicate}
    (h : predicate.Akin way predicate') : predicate'.isAsync = predicate.isAsync := by
  cases h with
  | builtin => rfl
  | custom akin => cases akin <;> rfl

/-- Both are refused with the same error, or both come to results that correspond. -/
inductive Agreed {α : Type} (R : α → α → Prop) : Except RuleError α → Except RuleError α → Prop where
  | error (e : RuleError) : Agreed R (.error e) (.error e)
  | ok {a a' : α} (h : R a a') : Agreed R (.ok a) (.ok a')

namespace Agreed

variable {α β : Type} {R : α → α → Prop} {S : β → β → Prop}

theorem bind {x x' : Except RuleError α} (h : Agreed R x x') {f f' : α → Except RuleError β}
    (hf : ∀ a a', R a a' → Agreed S (f a) (f' a')) : Agreed S (x >>= f) (x' >>= f') := by
  cases h with
  | error e => exact .error e
  | ok h => exact hf _ _ h

theorem mapM {γ : Type} {f f' : γ → Except RuleError α} (l : List γ)
    (hf : ∀ c, Agreed R (f c) (f' c)) : Agreed (List.Forall₂ R) (l.mapM f) (l.mapM f') := by
  induction l with
  | nil => exact .ok .nil
  | cons c rest ih =>
    rw [List.mapM_cons, List.mapM_cons]
    exact (hf c).bind fun _ _ hfirst => ih.bind fun _ _ hrest => .ok (.cons hfirst hrest)

end Agreed

/-- Registered rules that answer alike. -/
structure RegistryEntry.Akin (way : Leeway) (entry entry' : RegistryEntry) : Prop where
  rule : entry.rule.Akin way entry'.rule
  implicit : entry'.implicit = entry.implicit

/-- Registries with akin rules under the same names. -/
def Registry.Akin (way : Leeway) (r r' : Registry) : Prop :=
  ∀ name, Option.Rel (RegistryEntry.Akin way) (r.get? name) (r'.get? name)

namespace Registry.Akin

variable {way : Leeway} {r r' : Registry}

theorem refl (r : Registry) : Registry.Akin way r r := by
  intro name
  cases r.get? name with
  | none => exact .none
  | some entry => exact .some ⟨.refl _, rfl⟩

section Lookup

variable (h : Registry.Akin way r r') (name : String)
include h

theorem cases : (r.get? name = none ∧ r'.get? name = none) ∨
    ∃ entry entry', r.get? name = some entry ∧ r'.get? name = some entry' ∧
      entry.Akin way entry' := by
  have hname := h name
  generalize r.get? name = found, r'.get? name = found' at hname ⊢
  cases hname with
  | none => exact .inl ⟨rfl, rfl⟩
  | some hakin => exact .inr ⟨_, _, rfl, rfl, hakin⟩

theorem contains : r'.contains name = r.contains name := by
  obtain ⟨hnone, hnone'⟩ | ⟨_, _, hsome, hsome', -⟩ := h.cases name
  · rw [Dict.contains, Dict.contains, hnone, hnone']
  · rw [Dict.contains, Dict.contains, hsome, hsome']
    rfl

theorem isImplicit : r'.isImplicit name = r.isImplicit name := by
  obtain ⟨hnone, hnone'⟩ | ⟨_, _, hsome, hsome', hakin⟩ := h.cases name
  · rw [Registry.isImplicit, Registry.isImplicit, hnone, hnone']
  · rw [Registry.isImplicit, Registry.isImplicit, hsome, hsome']
    exact hakin.implicit

theorem make : Agreed (Predicate.Akin way) (r.make name) (r'.make name) := by
  obtain ⟨hnone, hnone'⟩ | ⟨_, _, hsome, hsome', hakin⟩ := h.cases name
  · rw [Registry.make, Registry.make, hnone, hnone']
    cases Builtin.ofName? name with
    | none => exact .error _
    | some rule => exact .ok (.builtin rule)
  · rw [Registry.make, Registry.make, hsome, hsome']
    exact .ok (.custom hakin.rule)

theorem presence : JudgesAkin way r.presence r'.presence := by
  obtain ⟨hnone, hnone'⟩ | ⟨⟨rule, implicit⟩, ⟨rule', implicit'⟩, hsome, hsome', hakin⟩ :=
    h.cases Builtin.required.name
  · rw [Registry.presence, Registry.presence, hnone, hnone']
    exact .refl _
  · rw [Registry.presence, Registry.presence, hsome, hsome']
    cases hakin.rule with
    | refl => cases rule <;> exact .refl _
    | sync accepted wishes => exact ⟨accepted, wishes⟩
    | async => exact .refl _

theorem register {rule rule' : CustomRule} (akin : rule.Akin way rule') (implicit : Bool) :
    Registry.Akin way (r.register name rule implicit) (r'.register name rule' implicit) := by
  intro other
  rw [Registry.register, Registry.register, Dict.get?_insert, Dict.get?_insert]
  split
  · exact .some ⟨akin, rfl⟩
  · exact h other

theorem unregister : Registry.Akin way (r.unregister name) (r'.unregister name) := by
  intro other
  rw [Registry.unregister, Registry.unregister, Dict.get?_erase, Dict.get?_erase]
  split
  · exact .none
  · exact h other

end Lookup

end Registry.Akin

/-- Contexts that differ in what messages are made of. -/
structure Context.Akin (way : Leeway) (c c' : Context) : Prop where
  registry : Registry.Akin way c.registry c'.registry
  books : way.Books c.phrasebook c'.phrasebook
  language : way.Same c.config.language c'.config.language
  trim : c'.config.trim = c.config.trim
  clock : c'.clock = c.clock

namespace Context.Akin

variable {way : Leeway} {c c' : Context}

theorem refl (c : Context) : Context.Akin way c c :=
  ⟨.refl _, .refl _, .refl _, rfl, rfl⟩

variable (h : Context.Akin way c c')
include h

theorem register (name : String) {rule rule' : CustomRule} (akin : rule.Akin way rule')
    (implicit : Bool) {message message' : String} (same : way.Same message message') :
    Context.Akin way (c.register name rule implicit message)
      (c'.register name rule' implicit message') :=
  ⟨h.registry.register name akin implicit, h.books.setRuleMessage name same, h.language, h.trim,
    h.clock⟩

theorem unregister (name : String) : Context.Akin way (c.unregister name) (c'.unregister name) :=
  ⟨h.registry.unregister name, h.books, h.language, h.trim, h.clock⟩

theorem setLanguage {language language' : String} (same : way.Same language language') :
    Context.Akin way (c.setLanguage language) (c'.setLanguage language') :=
  ⟨h.registry, h.books.setDefault same, same, h.trim, h.clock⟩

theorem setConfig {config config' : Config} (same : way.Same config.language config'.language)
    (trim : config'.trim = config.trim) :
    Context.Akin way (c.setConfig config) (c'.setConfig config') :=
  ⟨h.registry, h.books.setDefault same, same, trim, h.clock⟩

theorem addLanguage {language language' : String} {templates templates' : List (String × String)}
    (same : way.Same language language') (same' : way.Same templates templates') :
    Context.Akin way (c.addLanguage language templates) (c'.addLanguage language' templates') :=
  ⟨h.registry, h.books.load same same', h.language, h.trim, h.clock⟩

theorem tick : Context.Akin way c.tick c'.tick :=
  ⟨h.registry, h.books, h.language, h.trim, congrArg (· + 1) h.clock⟩

theorem reset : Context.Akin way c.reset c'.reset :=
  ⟨.refl _, .refl _, .refl _, rfl, h.clock⟩

theorem amend {amendment amendment' : Amendment} (akin : amendment.Akin way amendment') :
    Context.Akin way (c.amend amendment) (c'.amend amendment') := by
  cases akin with
  | refl =>
    cases amendment with
    | setLanguage language => exact h.setLanguage (.refl _)
    | register name rule implicit message => exact h.register name (.refl _) implicit (.refl _)
  | setLanguage same => exact h.setLanguage same
  | register name akin implicit same => exact h.register name akin implicit same

theorem amendAll {amendments amendments' : List Amendment}
    (akin : List.Forall₂ (Amendment.Akin way) amendments amendments') :
    Context.Akin way (c.amendAll amendments) (c'.amendAll amendments') := by
  induction akin generalizing c c' with
  | nil => exact h
  | cons hfirst _ ih => exact ih (h.amend hfirst)

/-- Rules that are akin answer alike, and leave contexts that are akin. -/
theorem consult {judge judge' : Judge} (judges : JudgesAkin way judge judge') (s : Subject) :
    (c'.consult judge' s).1 = (c.consult judge s).1 ∧
      Context.Akin way (c.consult judge s).2 (c'.consult judge' s).2 := by
  unfold Context.consult
  rw [h.clock]
  exact ⟨judges.accepted c.clock s, h.tick.amendAll (judges.wishes c.clock s)⟩

end Context.Akin

end FieldRules
