import FieldRules.Engine.Context
import FieldRules.Proofs.Message.Precedence

namespace FieldRules

theorem filterMap_concat {α β : Type} (f : α → Option β) (l : List α) (a : α) :
    (l ++ [a]).filterMap f = l.filterMap f ++ (f a).toList := by
  rw [List.filterMap_append]
  cases h : f a <;> simp [h]

namespace Phrasebook

theorem hasLanguage_update (book : Phrasebook) (changed language : String)
    (change : Dict String → Dict String) :
    (book.update changed change).hasLanguage language = true ↔
      language = changed ∨ book.hasLanguage language = true := by
  rw [hasLanguage, update, Dict.contains, Dict.get?_insert]
  by_cases h : language = changed
  · simp [h]
  · simp [h, hasLanguage, Dict.contains]

theorem hasLanguage_of_template {book : Phrasebook} {language key : String}
    (h : (book.template? language key).isSome = true) : book.hasLanguage language = true := by
  rw [template?, templates] at h
  rw [hasLanguage, Dict.contains]
  cases hlanguage : book.languages.get? language with
  | none => simp [hlanguage] at h
  | some templates => rfl

/-- The default language is one that is there. -/
def HasDefault (book : Phrasebook) : Prop := book.hasLanguage book.defaultLanguage = true

theorem initial_hasDefault : initial.HasDefault := hasLanguage_of_template initial_hasFallback

theorem HasDefault.step {book : Phrasebook} (h : book.HasDefault) (op : Operation) :
    (book.step op).HasDefault := by
  cases op with
  | setDefault language => exact (book.hasLanguage_update language language id).2 (.inl rfl)
  | insert | load | setRuleMessage => exact (book.hasLanguage_update _ _ _).2 (.inr h)

end Phrasebook

namespace Context

/-- What can be done with a context. Of its registry anything can be made. -/
inductive Operation where
  | register (name : String) (rule : CustomRule) (implicit : Bool) (message : String)
  | setLanguage (language : String)
  | addLanguage (language : String) (templates : List (String × String))
  | setConfig (config : Config)
  | reset
  | changeRegistry (change : Registry → Registry)
  | tick

namespace Operation

/-- The configuration that the operation gives. -/
def config? : Operation → Option Config
  | setConfig config => some config
  | reset => some {}
  | _ => none

/-- The language that the operation gives, by itself or with a configuration. -/
def language? : Operation → Option String
  | setLanguage language => some language
  | op => op.config?.map Config.language

end Operation

def step (c : Context) : Operation → Context
  | .register name rule implicit message => c.register name rule implicit message
  | .setLanguage language => c.setLanguage language
  | .addLanguage language templates => c.addLanguage language templates
  | .setConfig config => c.setConfig config
  | .reset => c.reset
  | .changeRegistry change => { c with registry := change c.registry }
  | .tick => c.tick

def run (c : Context) (ops : List Operation) : Context := ops.foldl step c

theorem run_append (c : Context) (first others : List Operation) :
    c.run (first ++ others) = (c.run first).run others := List.foldl_append

/-- A context that was just made, with a configuration if one was given. -/
def made (given : Option Config) : Context := given.elim initial ofConfig

def after (given : Option Config) (ops : List Operation) : Context := (made given).run ops

/-- The language that was given last: with the making of the context, by itself, or with a
configuration. -/
def lastLanguage (given : Option Config) (ops : List Operation) : String :=
  ((given.map Config.language).toList ++ ops.filterMap Operation.language?).getLast?.getD english

/-- The configuration that was given last. A reset gives the default one. -/
def lastConfig (given : Option Config) (ops : List Operation) : Config :=
  (given.toList ++ ops.filterMap Operation.config?).getLast?.getD {}

/-- The language is the same in the configuration and in the phrasebook, which has it, and there is
an English template for rules without one. -/
structure Agrees (c : Context) : Prop where
  language : c.config.language = c.phrasebook.defaultLanguage
  loaded : c.phrasebook.HasDefault
  fallback : c.phrasebook.HasFallback

theorem initial_agrees : initial.Agrees :=
  ⟨rfl, Phrasebook.initial_hasDefault, Phrasebook.initial_hasFallback⟩

theorem made_agrees (given : Option Config) : (made given).Agrees := by
  cases given with
  | none => exact initial_agrees
  | some config =>
    have hloaded := Phrasebook.initial_hasDefault.step (.setDefault config.language)
    have hfallback := Phrasebook.initial_hasFallback.step (.setDefault config.language)
    exact ⟨rfl, hloaded, hfallback⟩

namespace Agrees

variable {c : Context} (h : c.Agrees)
include h

theorem hasEnglish : c.phrasebook.hasLanguage english = true :=
  Phrasebook.hasLanguage_of_template h.fallback

/-- What an operation does to the phrasebook is one of the operations of phrasebooks; only the
default language goes with the configuration. -/
theorem step (op : Operation) : (c.step op).Agrees := by
  cases op with
  | register name rule implicit message =>
    exact ⟨h.language, h.loaded.step (.setRuleMessage name message),
      h.fallback.step (.setRuleMessage name message)⟩
  | setLanguage language =>
    exact ⟨rfl, h.loaded.step (.setDefault language), h.fallback.step (.setDefault language)⟩
  | addLanguage language templates =>
    exact ⟨h.language, h.loaded.step (.load language templates),
      h.fallback.step (.load language templates)⟩
  | setConfig config =>
    exact ⟨rfl, h.loaded.step (.setDefault config.language),
      h.fallback.step (.setDefault config.language)⟩
  | reset =>
    exact ⟨initial_agrees.language, initial_agrees.loaded, initial_agrees.fallback⟩
  | changeRegistry | tick => exact ⟨h.language, h.loaded, h.fallback⟩

theorem run (ops : List Operation) : (c.run ops).Agrees := by
  induction ops generalizing c with
  | nil => exact h
  | cons op rest ih => exact ih (h.step op)

end Agrees

theorem config_step (c : Context) (op : Operation) :
    (c.step op).config =
      ⟨op.language?.getD c.config.language, (op.config?.getD c.config).trim⟩ := by
  cases op <;> rfl

theorem after_snoc (given : Option Config) (ops : List Operation) (op : Operation) :
    after given (ops ++ [op]) = (after given ops).step op := run_append _ ops [op]

/-- What is given at the end of a history is what was given last. -/
theorem getLast?_filterMap_snoc {α β : Type} (f : α → Option β) (first : List β) (l : List α)
    (a : α) (b : β) :
    (first ++ (l ++ [a]).filterMap f).getLast?.getD b =
      (f a).getD ((first ++ l.filterMap f).getLast?.getD b) := by
  rw [filterMap_concat, ← List.append_assoc]
  cases f a with
  | none => simp
  | some last => simp

/-- The configuration is the one that was given last, but for a language that was given after it. -/
theorem config_after (given : Option Config) (ops : List Operation) :
    (after given ops).config = ⟨lastLanguage given ops, (lastConfig given ops).trim⟩ := by
  induction ops using List.reverseRecOn with
  | nil => cases given <;> rfl
  | append_singleton ops op ih =>
    have hlanguage : lastLanguage given (ops ++ [op]) =
        op.language?.getD (lastLanguage given ops) := getLast?_filterMap_snoc _ _ _ _ _
    have hconfig : lastConfig given (ops ++ [op]) = op.config?.getD (lastConfig given ops) :=
      getLast?_filterMap_snoc _ _ _ _ _
    rw [after_snoc, config_step, ih, hlanguage, hconfig]
    cases op.config? <;> rfl

example : (after (some ⟨"de", false⟩) [.reset, .setLanguage "fr", .setConfig ⟨"es", false⟩,
    .setLanguage "ru", .changeRegistry (·.unregister "min")]).config = ⟨"ru", false⟩ := by
  decide

end Context

end FieldRules
