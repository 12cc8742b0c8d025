namespace FieldRules

inductive RuleError where
  /-- A directive names a rule that is neither registered nor built in. -/
  | unknownRule (name : String)
  /-- A run that has to answer at once met a rule that may answer later. -/
  | asyncRules
  /-- The input to validate is of the given type and no object. -/
  | inputNotObject (found : String)
  /-- The rules are of the given type and no object. -/
  | rulesNotObject (found : String)
  /-- Some field has neither a text nor a list of texts for its rules. -/
  | malformedSpec
  /-- The text of a configuration cannot be read. -/
  | malformedConfig
  /-- A run can no longer reach its verdict. -/
  | abandoned
deriving DecidableEq

namespace RuleError

def code : RuleError → String
  | unknownRule _ => "RULES_UNKNOWN_RULE"
  | asyncRules => "RULES_INVALID_USAGE"
  | inputNotObject _ | rulesNotObject _ | malformedSpec | malformedConfig => "RULES_INVALID_INPUT"
  | abandoned => "RULES_ABANDONED"

def message : RuleError → String
  | unknownRule name => "unknown validation rule \x60" ++ name ++ "\x60"
  | asyncRules =>
    "invalid usage: rules include asynchronous rules; " ++
      "use check_async, passes_with or passes_async"
  | inputNotObject found => "invalid input: input must be a JSON object, got " ++ found
  | rulesNotObject found => "invalid input: rules must be a JSON object, got " ++ found
  | malformedSpec =>
    "invalid input: rules must map attributes to a string or an array of strings: " ++
      "data did not match any variant of untagged enum RuleSpec"
  | malformedConfig => "invalid input: invalid rules config"
  | abandoned => "asynchronous validation run was abandoned before completion"

end RuleError

end FieldRules
