import EndpointUpgrade.Value.Display

/-!
# Faults of YAML texts

A text that is no YAML, or whose parts do not fit together, is ill-formed. A text can also be
well-formed and hold a scalar that denotes no value of its kind, such as a day that does not exist.
-/

namespace EndpointUpgrade.Yaml

open Text

/-- Reasons why a YAML text has no value. -/
inductive Fault where
  | illFormed
  /-- A date or time that does not exist. -/
  | calendar (fault : CalendarFault)
  /-- An integer with more digits than the limit for conversions. -/
  | tooManyDigits (count : Nat)
  /-- A text of the kind integer that is no numeral of the base. -/
  | noInteger (base : Nat) (text : String)
  /-- A text of the kind number that is no numeral. -/
  | noFloat (text : String)
  /-- A text of the kind truth value that names none. -/
  | noTruth (text : String)
  /-- A numeral without any character. -/
  | emptyNumeral
  /-- An escape beyond the last code point. -/
  | codePoint
  /-- A key that holds a value which is no key. -/
  | unkeyable (part : Value.Unkeyable)
  /-- A key that occurs twice in an ordered mapping. -/
  | repeatedKey
deriving DecidableEq, Repr

def Fault.message : Fault → String
  | .illFormed => "not a well-formed text"
  | .calendar fault => fault.message
  | .tooManyDigits count =>
    "Exceeds the limit (4300 digits) for integer string conversion: value has " ++
      decimalText count ++ " digits; use sys.set_int_max_str_digits() to increase the limit"
  | .noInteger base text =>
    "invalid literal for int() with base " ++ decimalText base ++ ": " ++
      String.ofList ((quoted text).toList.take 200)
  | .noFloat text => "could not convert string to float: " ++ quoted text
  | .noTruth text => quoted text
  | .emptyNumeral => "string index out of range"
  | .codePoint => "chr() arg not in range(0x110000)"
  | .unkeyable part => (Value.Misuse.key part).message
  | .repeatedKey => ""

end EndpointUpgrade.Yaml
