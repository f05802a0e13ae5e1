import EndpointUpgrade.Value.Display

/-!
# Issues found while reading a record

Reading a record out of a value reports every fault with its place: the path of field names and
list positions that leads to it.
-/

namespace EndpointUpgrade.Reading

open Text

/-- One step of the path to a part of a value. -/
inductive Step where
  | field (name : String)
  | index (n : Int)
deriving DecidableEq, Repr

/-- What is wrong with a part of a value. -/
inductive Fault where
  /-- A field that has to be given is not. -/
  | missing
  /-- A key that names no field, or names one that is given under its other name. -/
  | extra
  /-- A key that is no text. -/
  | invalidKey
  | noText
  /-- Bytes that spell no text. -/
  | noUnicode
  | noList
  | noMapping
  /-- A value that is no mapping where the record of the given name is read. -/
  | noRecord (name : String)
  | noInteger
  | integerSyntax
  | integerSize
  | fraction
  | notFinite
  | below (bound : Int)
  | above (bound : Int)
  | noAddress
  | noNetwork
  /-- A rule of the field is broken; the wording is that of the rule. -/
  | rule (message : String)
  /-- An attempt to change a record. -/
  | frozen
deriving DecidableEq, Repr

def Fault.code : Fault → String
  | .missing => "missing"
  | .extra => "extra_forbidden"
  | .invalidKey => "invalid_key"
  | .noText => "string_type"
  | .noUnicode => "string_unicode"
  | .noList => "list_type"
  | .noMapping => "dict_type"
  | .noRecord _ => "model_type"
  | .noInteger => "int_type"
  | .integerSyntax => "int_parsing"
  | .integerSize => "int_parsing_size"
  | .fraction => "int_from_float"
  | .notFinite => "finite_number"
  | .below _ => "greater_than_equal"
  | .above _ => "less_than_equal"
  | .noAddress => "ip_any_address"
  | .noNetwork => "ip_any_interface"
  | .rule _ => "value_error"
  | .frozen => "frozen_instance"

def Fault.message : Fault → String
  | .missing => "Field required"
  | .extra => "Extra inputs are not permitted"
  | .invalidKey => "Keys should be strings"
  | .noText => "Input should be a valid string"
  | .noUnicode => "Input should be a valid string, unable to parse raw data as a unicode string"
  | .noList => "Input should be a valid list"
  | .noMapping => "Input should be a valid dictionary"
  | .noRecord name => "Input should be a valid dictionary or instance of " ++ name
  | .noInteger => "Input should be a valid integer"
  | .integerSyntax =>
    "Input should be a valid integer, unable to parse string as an integer"
  | .integerSize => "Unable to parse input string as an integer, exceeded maximum size"
  | .fraction => "Input should be a valid integer, got a number with a fractional part"
  | .notFinite => "Input should be a finite number"
  | .below bound => "Input should be greater than or equal to " ++ integerText bound
  | .above bound => "Input should be less than or equal to " ++ integerText bound
  | .noAddress => "value is not a valid IPv4 or IPv6 address"
  | .noNetwork => "value is not a valid IPv4 or IPv6 interface"
  | .rule message => "Value error, " ++ message
  | .frozen => "Instance is frozen"

/-- A fault and the path to the part that has it. -/
structure Issue where
  path : List Step
  fault : Fault
deriving DecidableEq, Repr

/-- All issues found while reading a record, with the name of the record. -/
structure Rejection where
  record : String
  issues : List Issue
deriving DecidableEq, Repr

/-- The step that leads to the entry of a key. Keys of other kinds than texts and integers of 64
bits are shown as messages show them. -/
def Step.ofKey : Value → Step
  | .text s => .field s
  | .bool b => .index (if b then 1 else 0)
  | .int n =>
    if -0x8000000000000000 ≤ n ∧ n < 0x8000000000000000 then .index n else .field (integerText n)
  | v => .field v.inner

end EndpointUpgrade.Reading
