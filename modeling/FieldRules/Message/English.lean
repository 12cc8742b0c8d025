namespace FieldRules.Phrasebook

def englishTemplates : List (String × String) :=
  [("accepted", "The :attribute must be accepted."),
   ("after", "The :attribute must be after :date."),
   ("alpha", "The :attribute field must contain only alphabetic characters."),
   ("alpha_dash",
    "The :attribute field may only contain alpha-numeric characters, as " ++
      "well as dashes and underscores."),
   ("alpha_num", "The :attribute field must be alphanumeric."),
   ("array", "The :attribute must be an array."),
   ("before", "The :attribute must be before :date."),
   ("between.numeric", "The :attribute field must be between :min and :max."),
   ("between.string", "The :attribute field must be between :min and :max characters."),
   ("between.array", "The :attribute must have between :min and :max items."),
   ("boolean", "The :attribute attribute must be true or false."),
   ("confirmed", "The :attribute confirmation does not match."),
   ("date", "The :attribute is not a valid date format."),
   ("def", "The :attribute attribute has errors."),
   ("different", "The :attribute and :other must be different."),
   ("digits", "The :attribute must be :digits digits."),
   ("digits_between", "The :attribute field must be between :min and :max digits."),
   ("email", "The :attribute format is invalid."),
   ("in", "The selected :attribute is invalid."),
   ("integer", "The :attribute must be an integer."),
   ("ip", "The :attribute must be a valid IP address."),
   ("max.numeric", "The :attribute may not be greater than :max."),
   ("max.string", "The :attribute may not be greater than :max characters."),
   ("max.array", "The :attribute may not have more than :max items."),
   ("min.numeric", "The :attribute must be at least :min."),
   ("min.string", "The :attribute must be at least :min characters."),
   ("min.array", "The :attribute must have at least :min items."),
   ("not_in", "The selected :attribute is invalid."),
   ("numeric", "The :attribute must be a number."),
   ("regex", "The :attribute format is invalid."),
   ("required", "The :attribute field is required."),
   ("required_if", "The :attribute field is required when :other is :value."),
   ("required_unless", "The :attribute field is required when :other is not :value."),
   ("required_with", "The :attribute field is required when :values is present."),
   ("required_without", "The :attribute field is required when :values is not present."),
   ("same", "The :attribute and :other fields must match."),
   ("size.numeric", "The :attribute must be :size."),
   ("size.string", "The :attribute must be :size characters."),
   ("size.array", "The :attribute must contain :size items."),
   ("string", "The :attribute must be a string."),
   ("url", "The :attribute format is invalid.")]

end FieldRules.Phrasebook
