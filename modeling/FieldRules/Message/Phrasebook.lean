import FieldRules.Config
import FieldRules.Dict
import FieldRules.Message.English

namespace FieldRules

/-- Message templates by language and key. English is always there, with a template for rules that
have none. -/
structure Phrasebook where
  languages : Dict (Dict String)
  defaultLanguage : String

namespace Phrasebook

/-- The key of the template for rules that have none. -/
def fallbackKey : String := "def"

def initial : Phrasebook :=
  ⟨Dict.empty.insert english (Dict.ofList englishTemplates), english⟩

instance : Inhabited Phrasebook := ⟨initial⟩

/-- The templates of a language, none where it is not known. -/
def templates (book : Phrasebook) (language : String) : Dict String :=
  (book.languages.get? language).getD Dict.empty

def hasLanguage (book : Phrasebook) (language : String) : Bool := book.languages.contains language

def template? (book : Phrasebook) (language key : String) : Option String :=
  (book.templates language).get? key

/-- Changes the templates of a language, which is there afterwards. -/
def update (book : Phrasebook) (language : String) (change : Dict String → Dict String) :
    Phrasebook :=
  { book with languages := book.languages.insert language (change (book.templates language)) }

def setDefault (book : Phrasebook) (language : String) : Phrasebook :=
  { book.update language id with defaultLanguage := language }

def insert (book : Phrasebook) (language key template : String) : Phrasebook :=
  book.update language fun templates => templates.insert key template

def load (book : Phrasebook) (language : String) (pairs : List (String × String)) : Phrasebook :=
  book.update language fun templates => templates.insertAll pairs

/-- Whether a key is the name of the rule, a point and more. -/
def isVariant (rule key : String) : Bool := (rule.toList ++ ['.']).isPrefixOf key.toList

def setRuleMessage (book : Phrasebook) (rule message : String) : Phrasebook :=
  book.update book.defaultLanguage fun templates =>
    (templates.filterKeys fun key => !isVariant rule key).insert rule message

end Phrasebook

end FieldRules
