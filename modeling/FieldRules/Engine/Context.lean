import FieldRules.Engine.Registry
import FieldRules.Message.Phrasebook

namespace FieldRules

/-- The language of the configuration and the default language of the phrasebook are always the
same. -/
structure Context where
  registry : Registry
  phrasebook : Phrasebook
  config : Config
  /-- How many questions rules were asked in it. -/
  clock : Nat := 0

namespace Context

/-- The built-in rules, the English messages and the given configuration. -/
def ofConfig (config : Config) : Context :=
  { registry := Registry.initial
    phrasebook := Phrasebook.initial.setDefault config.language
    config }

def initial : Context :=
  { registry := Registry.initial, phrasebook := Phrasebook.initial, config := {} }

instance : Inhabited Context := ⟨initial⟩

/-- Registers a rule, and its message in the default language. -/
def register (c : Context) (name : String) (rule : CustomRule) (implicit : Bool)
    (message : String) : Context :=
  { c with
    phrasebook := c.phrasebook.setRuleMessage name message
    registry := c.registry.register name rule implicit }

def unregister (c : Context) (name : String) : Context :=
  { c with registry := c.registry.unregister name }

def setLanguage (c : Context) (language : String) : Context :=
  { c with
    phrasebook := c.phrasebook.setDefault language
    config := { c.config with language } }

def setConfig (c : Context) (config : Config) : Context :=
  { c with phrasebook := c.phrasebook.setDefault config.language, config }

/-- Adds templates of a language. -/
def addLanguage (c : Context) (language : String) (templates : List (String × String)) : Context :=
  { c with phrasebook := c.phrasebook.load language templates }

def amend (c : Context) : Amendment → Context
  | .setLanguage language => c.setLanguage language
  | .register name rule implicit message => c.register name rule implicit message

def amendAll (c : Context) (amendments : List Amendment) : Context := amendments.foldl amend c

def tick (c : Context) : Context := { c with clock := c.clock + 1 }

/-- Everything is as it was at first, but for the time. -/
def reset (c : Context) : Context := { initial with clock := c.clock }

/-- Asks a rule that answers at once, and makes the changes that it asks for. -/
def consult (c : Context) (judge : Judge) (s : Subject) : Bool × Context :=
  let (accepted, amendments) := judge c.clock s
  (accepted, c.tick.amendAll amendments)

end Context

end FieldRules
