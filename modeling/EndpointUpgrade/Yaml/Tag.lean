import EndpointUpgrade.Text.Fields
import EndpointUpgrade.Text.Numeral
import EndpointUpgrade.Yaml.Token

/-!
# Tags

A tag says what a node stands for. Plain scalars without a tag get one by their form: numbers,
truth values, dates and the like are told from texts by a few patterns, which differ somewhat
between the versions of YAML.
-/

namespace EndpointUpgrade.Yaml

open Text

/-- What a node stands for. -/
inductive Tag where
  | null
  | bool
  | int
  | float
  | text
  | bytes
  | timestamp
  | list
  | map
  | set
  /-- A list of single entries that makes an ordered mapping. -/
  | orderedMap
  /-- A list of single entries that makes a list of pairs. -/
  | pairs
  /-- The key under which other mappings are merged into one. -/
  | merge
  /-- The key of the default value of a mapping. -/
  | defaultValue
  /-- A tag without a meaning here. -/
  | unknown
deriving DecidableEq, Repr

def commonTag : String := "tag:yaml.org,2002:"

def commonTags : List (String × Tag) :=
  [("null", .null), ("bool", .bool), ("int", .int), ("float", .float), ("str", .text),
    ("binary", .bytes), ("timestamp", .timestamp), ("seq", .list), ("map", .map), ("set", .set),
    ("omap", .orderedMap), ("pairs", .pairs), ("merge", .merge), ("value", .defaultValue)]

def Tag.ofText (s : String) : Tag :=
  match commonTags.find? fun t => s = commonTag ++ t.1 with
  | some t => t.2
  | none => .unknown

def isDigitPlace (c : Char) : Bool := isDigit c || c = '_'

/-- The text behind a sign, if there is one. -/
def unsigned : List Char → List Char
  | [] => []
  | c :: rest => if c = '-' ∨ c = '+' then rest else c :: rest

/-- A run of at least one character of a kind, and nothing else. -/
def isRun (kind : Char → Bool) (cs : List Char) : Bool := !cs.isEmpty && cs.all kind

def isExponent (needsSign : Bool) : List Char → Bool
  | c :: rest =>
    (c = 'e' || c = 'E') &&
      match rest with
      | '-' :: ds => isRun isDigit ds
      | '+' :: ds => isRun isDigit ds
      | ds => !needsSign && isRun isDigit ds
  | [] => false

/-- A whole part with a point or an exponent or both. -/
def isDecimalForm (cs : List Char) : Bool :=
  (cs.head?.any isDigit) &&
    match cs.dropWhile isDigitPlace with
    | '.' :: rest =>
      let rest := rest.dropWhile isDigitPlace
      rest.isEmpty || isExponent false rest
    | rest => isExponent false rest

/-- A fraction without a whole part. An exponent behind it has a sign. -/
def isPointForm : List Char → Bool
  | '.' :: rest =>
    let behind := rest.dropWhile isDigitPlace
    rest.head?.any isDigitPlace && (behind.isEmpty || isExponent true behind)
  | _ => false

def isSixtyPart (cs : List Char) : Bool :=
  match cs with
  | [a] => isDigit a
  | [a, b] => '0' ≤ a && a ≤ '5' && isDigit b
  | _ => false

def isSixtyFloat (cs : List Char) : Bool :=
  cs.head?.any isDigit &&
    match cs.span (· ≠ '.') with
    | (whole, '.' :: decimals) =>
      decimals.all isDigitPlace &&
        match fields ':' whole with
        | first :: part :: rest => first.all isDigitPlace && (part :: rest).all isSixtyPart
        | _ => false
    | _ => false

def isFloatForm (version : Version) (cs : List Char) : Bool :=
  let body := unsigned cs
  isDecimalForm body ||
    (match version with
      | .v1_2 => isPointForm body
      | .v1_1 => isPointForm cs || isSixtyFloat body) ||
    [".inf", ".Inf", ".INF"].contains (String.ofList body) ||
    [".nan", ".NaN", ".NAN"].contains (String.ofList cs)

def isBinaryPlace (c : Char) : Bool := c = '0' || c = '1' || c = '_'

def isOctalPlace (c : Char) : Bool := ('0' ≤ c && c ≤ '7') || c = '_'

def isHexPlace (c : Char) : Bool := isHexDigit c || c = '_'

/-- The form of an integer: binary, octal, decimal or hexadecimal, and in version 1.1 also to the
base sixty. It begins with a sign or a digit. -/
def isIntForm (version : Version) (cs : List Char) : Bool :=
  cs.head?.any (fun c => c = '-' || c = '+' || isDigit c) &&
    match unsigned cs, version with
    | '0' :: 'b' :: rest, _ => isRun isBinaryPlace rest
    | '0' :: 'x' :: rest, _ => isRun isHexPlace rest
    | '0' :: 'o' :: rest, .v1_2 => isRun isOctalPlace rest
    | body, .v1_2 => isRun isDigitPlace body
    | body, .v1_1 =>
      isRun isOctalPlace body ||
        (body.head?.any (fun c => '1' ≤ c && c ≤ '9') &&
          match fields ':' body with
          | first :: rest => first.all isDigitPlace && rest.all isSixtyPart
          | [] => false)

def boolTexts : Version → List String
  | .v1_2 => ["true", "True", "TRUE", "false", "False", "FALSE"]
  | .v1_1 =>
    ["y", "Y", "yes", "Yes", "YES", "n", "N", "no", "No", "NO", "true", "True", "TRUE", "false",
      "False", "FALSE", "on", "On", "ON", "off", "Off", "OFF"]

def nullTexts : List String := ["", "~", "null", "Null", "NULL"]

/-! ## Dates and times -/

/-- Reads between `least` and `most` digits, as many as there are. -/
def digitsBetween? (least most : Nat) (cs : List Char) : Option (List Char × List Char) :=
  let ds := (cs.take most).takeWhile isDigit
  if ds.length < least then none else some (ds, cs.drop ds.length)

def sign? (c : Char) : List Char → Option (List Char)
  | d :: rest => if d = c then some rest else none
  | [] => none

/-- The distance from universal time: a sign with hours and minutes. -/
structure ZoneText where
  west : Bool
  hours : List Char
  minutes : List Char
deriving DecidableEq, Repr

/-- The parts of the text of a time of day. -/
structure TimeText where
  hour : List Char
  minute : List Char
  second : List Char
  fraction : List Char
  /-- Missing, universal time, or a distance from it. -/
  zone : Option (Option ZoneText)
deriving DecidableEq, Repr

/-- The parts of the text of a date with an optional time of day. -/
structure DateText where
  year : List Char
  month : List Char
  day : List Char
  time : Option TimeText
deriving DecidableEq, Repr

def isBlank (c : Char) : Bool := c = ' ' || c = '\t'

def zoneText? (cs : List Char) : Option (Option (Option ZoneText)) :=
  match cs with
  | [] => some none
  | _ =>
    match cs.dropWhile isBlank with
    | ['Z'] => some (some none)
    | c :: rest =>
      if c = '-' ∨ c = '+' then do
        let (hours, rest) ← digitsBetween? 1 2 rest
        match rest with
        | [] => return some (some ⟨c = '-', hours, []⟩)
        | ':' :: rest =>
          let (minutes, rest) ← digitsBetween? 2 2 rest
          if rest.isEmpty then return some (some ⟨c = '-', hours, minutes⟩) else none
        | _ => none
      else none
    | [] => none

def timeText? (cs : List Char) : Option TimeText := do
  let (hour, cs) ← digitsBetween? 1 2 cs
  let (minute, cs) ← digitsBetween? 2 2 (← sign? ':' cs)
  let (second, cs) ← digitsBetween? 2 2 (← sign? ':' cs)
  let (fraction, cs) :=
    match cs with
    | '.' :: rest => (rest.takeWhile isDigit, rest.dropWhile isDigit)
    | _ => ([], cs)
  return ⟨hour, minute, second, fraction, ← zoneText? cs⟩

/-- Reads a date with an optional time of day behind a letter `t` or space. -/
def dateText? (cs : List Char) : Option DateText := do
  let (year, cs) ← digitsBetween? 4 4 cs
  let (month, cs) ← digitsBetween? 1 2 (← sign? '-' cs)
  let (day, cs) ← digitsBetween? 1 2 (← sign? '-' cs)
  match cs with
  | [] => return ⟨year, month, day, none⟩
  | c :: rest =>
    if c = 'T' ∨ c = 't' then return ⟨year, month, day, some (← timeText? rest)⟩
    else if isBlank c then return ⟨year, month, day, some (← timeText? (rest.dropWhile isBlank))⟩
    else none

/-- The form of a date or a time. A date on its own has two digits for month and day. -/
def isTimestampForm (cs : List Char) : Bool :=
  match dateText? cs with
  | some d => d.time.isSome || (d.month.length = 2 && d.day.length = 2)
  | none => false

def Tag.ofPlain (version : Version) (s : String) : Tag :=
  let cs := s.toList
  if (boolTexts version).contains s then .bool
  else if isFloatForm version cs then .float
  else if isIntForm version cs then .int
  else if s = "<<" then .merge
  else if nullTexts.contains s then .null
  else if isTimestampForm cs then .timestamp
  else if s = "=" then .defaultValue
  else .text

end EndpointUpgrade.Yaml
