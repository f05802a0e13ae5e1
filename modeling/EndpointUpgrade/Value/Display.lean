import EndpointUpgrade.Value.Basic
import EndpointUpgrade.Decimal.Shortest
import EndpointUpgrade.Text.Quoted

/-!
# Display of values

How messages show a value. A text on its own is shown bare; inside a sequence or a mapping it is
quoted, and dates are shown by their fields. A half of a character is escaped where a text is quoted
and left blank elsewhere. A value with an integer of too many digits cannot be shown at all.
-/

namespace EndpointUpgrade

open Text

namespace Value

def commaSeparated (parts : List String) : String :=
  ", ".intercalate parts

def dateFields (d : Date) : String :=
  "datetime.date(" ++ commaSeparated [decimalText d.year, decimalText d.month, decimalText d.day]
    ++ ")"

def offsetFields (m : Int) : String :=
  if m = 0 then "datetime.timezone.utc"
  else
    let days := Int.fdiv m 1440
    let seconds := (m - days * 1440) * 60
    let parts :=
      (if days = 0 then [] else ["days=" ++ integerText days]) ++
        (if seconds = 0 then [] else ["seconds=" ++ integerText seconds])
    "datetime.timezone(datetime.timedelta(" ++ commaSeparated parts ++ "))"

def timestampFields (t : Timestamp) : String :=
  let time :=
    [t.hour, t.minute] ++
      (if t.second = 0 ∧ t.microsecond = 0 then [] else [t.second]) ++
      (if t.microsecond = 0 then [] else [t.microsecond])
  let numbers := ([t.date.year, t.date.month, t.date.day] ++ time).map decimalText
  let zone :=
    match t.offset with
    | some m => ["tzinfo=" ++ offsetFields m]
    | none => []
  "datetime.datetime(" ++ commaSeparated (numbers ++ zone) ++ ")"

mutual

/-- How a value is shown inside another one. -/
def inner : Value → String
  | .null => "None"
  | .bool b => if b then "True" else "False"
  | .int n => integerText n
  | .float x => x.text
  | .text s => quoted s
  | .tornText points => quotedPoints points
  | .bytes bs => quotedBytes bs
  | .date d => dateFields d
  | .timestamp t => timestampFields t
  | .list items => "[" ++ commaSeparated (inners items) ++ "]"
  | .tuple [x] => "(" ++ inner x ++ ",)"
  | .tuple items => "(" ++ commaSeparated (inners items) ++ ")"
  | .set [] => "set()"
  | .set members => "\x7b" ++ commaSeparated (inners members) ++ "\x7d"
  | .map entries => "\x7b" ++ commaSeparated (innerEntries entries) ++ "\x7d"

/-- How several values are shown inside another one. -/
def inners : List Value → List String
  | [] => []
  | v :: rest => inner v :: inners rest

/-- How the entries of a mapping are shown. -/
def innerEntries : List (Value × Value) → List String
  | [] => []
  | (k, v) :: rest => (inner k ++ ": " ++ inner v) :: innerEntries rest

end

/-- How a value is shown on its own. -/
def display : Value → String
  | .text s => s
  | .tornText points => String.ofList (points.map Char.ofNat)
  | .date d => d.text
  | .timestamp t => t.text " "
  | v => v.inner

mutual

/-- A value can be shown if no integer in it is too long to be written. -/
def isShowable : Value → Bool
  | .int n => isWritable n
  | .list items => areShowable items
  | .tuple items => areShowable items
  | .set members => areShowable members
  | .map entries => haveShowable entries
  | _ => true

def areShowable : List Value → Bool
  | [] => true
  | v :: rest => isShowable v && areShowable rest

def haveShowable : List (Value × Value) → Bool
  | [] => true
  | (k, v) :: rest => isShowable k && isShowable v && haveShowable rest

end

end Value

end EndpointUpgrade
