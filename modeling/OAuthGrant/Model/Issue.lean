import OAuthGrant.Time.UnixTime

/-!
# Issues found in data

When data is read as a model, everything wrong with it is reported: each issue says where it is
and what was expected there. `Fault.code` is the short name of a fault and `Fault.text` its wording.
-/

namespace OAuthGrant

/-- What is wrong at one place of the data. -/
inductive Fault where
  | missing
  | notText
  | notUnicode
  | tooShort
  | notOneOf (allowed : List String)
  | notLiteral (expected : String)
  | notSet
  | notTuple
  | notDictionary
  | notTimestamp
  | noPointInTime (fault : Time.UnixTime.Fault)
  | notModel (name : String)
  | noFields
  | fractional
  | notFinite
  | tooLarge
  | unreadableInteger
  | notInteger
  | below (bound : Int)
  | unreadableTruth
  | notTruth
  | rule (text : String)
  | noTag (key : String)
  | unknownTag (tag key : String) (expected : List String)
  | frozen
  deriving DecidableEq, Repr

namespace Fault

/-- Choices in a sentence: the last two are joined by "or". -/
def choices : List String → String
  | [] => ""
  | [a] => "'" ++ a ++ "'"
  | [a, b] => "'" ++ a ++ "' or '" ++ b ++ "'"
  | a :: rest => "'" ++ a ++ "', " ++ choices rest

def code : Fault → String
  | missing => "missing"
  | notText => "string_type"
  | notUnicode => "string_unicode"
  | tooShort => "string_too_short"
  | notOneOf _ => "enum"
  | notLiteral _ => "literal_error"
  | notSet => "frozen_set_type"
  | notTuple => "tuple_type"
  | notDictionary => "dict_type"
  | notTimestamp => "datetime_type"
  | noPointInTime _ => "datetime_parsing"
  | notModel _ => "model_type"
  | noFields => "model_attributes_type"
  | fractional => "int_from_float"
  | notFinite => "finite_number"
  | tooLarge => "int_parsing_size"
  | unreadableInteger => "int_parsing"
  | notInteger => "int_type"
  | below _ => "greater_than_equal"
  | unreadableTruth => "bool_parsing"
  | notTruth => "bool_type"
  | rule _ => "value_error"
  | noTag _ => "union_tag_not_found"
  | unknownTag .. => "union_tag_invalid"
  | frozen => "frozen_instance"

def text : Fault → String
  | missing => "Field required"
  | notText => "Input should be a valid string"
  | notUnicode =>
    "Input should be a valid string, unable to parse raw data as a unicode string"
  | tooShort => "String should have at least 1 character"
  | notOneOf allowed => "Input should be " ++ choices allowed
  | notLiteral expected => "Input should be " ++ expected
  | notSet => "Input should be a valid frozenset"
  | notTuple => "Input should be a valid tuple"
  | notDictionary => "Input should be a valid dictionary"
  | notTimestamp => "Input should be a valid datetime"
  | noPointInTime fault => "Input should be a valid datetime, " ++ fault.text
  | notModel name => "Input should be a valid dictionary or instance of " ++ name
  | noFields => "Input should be a valid dictionary or object to extract fields from"
  | fractional => "Input should be a valid integer, got a number with a fractional part"
  | notFinite => "Input should be a finite number"
  | tooLarge => "Unable to parse input string as an integer, exceeded maximum size"
  | unreadableInteger => "Input should be a valid integer, unable to parse string as an integer"
  | notInteger => "Input should be a valid integer"
  | below bound => "Input should be greater than or equal to " ++ toString bound
  | unreadableTruth => "Input should be a valid boolean, unable to interpret input"
  | notTruth => "Input should be a valid boolean"
  | rule text => "Value error, " ++ text
  | noTag key => "Unable to extract tag using discriminator '" ++ key ++ "'"
  | unknownTag tag key expected =>
    "Input tag '" ++ tag ++ "' found using '" ++ key ++
      "' does not match any of the expected tags: " ++ ", ".intercalate expected
  | frozen => "Instance is frozen"

end Fault

/-- A fault and the names and positions that lead to it from the outside in. -/
structure Issue where
  path : List String
  fault : Fault
  deriving DecidableEq, Repr

def Issue.text (i : Issue) : String :=
  ".".intercalate i.path ++ ": " ++ i.fault.code ++ ": " ++ i.fault.text

def Issue.textAll (issues : List Issue) : String := "; ".intercalate (issues.map Issue.text)

end OAuthGrant
