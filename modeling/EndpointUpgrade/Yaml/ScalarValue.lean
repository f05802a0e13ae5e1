import EndpointUpgrade.Text.LowerCase
import EndpointUpgrade.Text.Space
import EndpointUpgrade.Yaml.Tag

/-!
# Values of YAML scalars

What a scalar with a tag denotes. Underscores in numbers are ignored. A text that has the tag of
another kind of value and does not denote one is a fault.
-/

namespace EndpointUpgrade.Yaml

open Text Decimal

def truthNames : List (String × Bool) :=
  [("yes", true), ("no", false), ("y", true), ("n", false), ("true", true), ("false", false),
    ("on", true), ("off", false)]

/-- The truth value of a name in any letter case. -/
def boolValue (s : String) : Except Fault Bool :=
  match truthNames.lookup (lower s) with
  | some b => .ok b
  | none => .error (.noTruth (lower s))

/-! ## Integers -/

/-- The integer of a numeral of a base, which may have space around it and a sign. -/
def numeralValue (base : Nat) (cs : List Char) : Except Fault Int :=
  let body := trimmed cs
  let ds := unsigned body
  if base = 10 ∧ ds.all isDigit ∧ 4300 < ds.length then .error (.tooManyDigits ds.length)
  else
    match readDigits base ds with
    | some n => .ok (if body.head? = some '-' then -(n : Int) else n)
    | none => .error (.noInteger base (String.ofList cs))

/-- The integer whose digits to the base sixty are given, most significant first. -/
def sixtyValue (ds : List Int) : Int := ds.foldl (fun n d => n * 60 + d) 0

/-- The integer of the text of an integer behind its sign. -/
def magnitudeValue (version : Version) (cs : List Char) : Except Fault Int :=
  match cs with
  | ['0'] => .ok 0
  | '0' :: 'b' :: rest => numeralValue 2 rest
  | '0' :: 'x' :: rest => numeralValue 16 rest
  | '0' :: 'o' :: rest => numeralValue 8 rest
  | _ =>
    if version = .v1_2 then numeralValue 10 cs
    else
      match cs with
      | [] => .error .emptyNumeral
      | c :: _ =>
        if c = '0' then numeralValue 8 cs
        else if cs.contains ':' then do return sixtyValue (← (fields ':' cs).mapM (numeralValue 10))
        else numeralValue 10 cs

def intValue (version : Version) (s : String) : Except Fault Int :=
  match s.toList.filter (· ≠ '_') with
  | [] => .error .emptyNumeral
  | c :: rest => do
    let n ← magnitudeValue version (unsigned (c :: rest))
    return if c = '-' then -n else n

/-! ## Floating-point numbers -/

/-- The parts of a decimal numeral: its digits and the power of ten that they are multiplied by. -/
def decimalParts? (cs : List Char) : Option (Nat × Int) := do
  let whole := cs.takeWhile isDigit
  let rest := cs.dropWhile isDigit
  let (decimals, rest) :=
    match rest with
    | '.' :: rest => (rest.takeWhile isDigit, rest.dropWhile isDigit)
    | _ => ([], rest)
  let digits ← readDigits 10 (whole ++ decimals)
  match rest with
  | [] => return (digits, -(decimals.length : Int))
  | c :: rest =>
    if c = 'e' ∨ c = 'E' then
      let exponent ← readDigits 10 (unsigned rest)
      return (digits, (if rest.head? = some '-' then -(exponent : Int) else exponent) - decimals.length)
    else none

/-- The number of a decimal numeral or of the name of a number without value or bound. -/
def floatNumeral? (negative : Bool) (cs : List Char) : Option Binary64 :=
  if ["inf", "infinity"].contains (String.ofList cs) then some (.infinite negative)
  else if String.ofList cs = "nan" then some .nan
  else (decimalParts? cs).map fun p => .ofDecimal negative p.1 p.2

/-- The number of a numeral, which may have space around it and a sign. -/
def floatNumeral (cs : List Char) : Except Fault Binary64 :=
  let body := trimmed cs
  match floatNumeral? (body.head? = some '-') (unsigned body) with
  | some x => .ok x
  | none => .error (.noFloat (String.ofList cs))

/-- The number whose parts to the base sixty are given; the last one may have a fraction. -/
def sixtyFloat (cs : List Char) : Except Fault Binary64 :=
  let parts := (fields ':' cs).map decimalParts?
  match parts.mapM id with
  | none => .error (.noFloat (String.ofList cs))
  | some ps =>
    let decimals := ps.foldl (fun n p => max n (-p.2).toNat) 0
    let total := ps.foldl (fun n p => n * 60 + p.1 * Nat.pow 10 ((decimals : Int) + p.2).toNat) 0
    .ok (.ofDecimal false total (-(decimals : Int)))

/-- The floating-point number that a text denotes. -/
def floatValue (version : Version) (s : String) : Except Fault Binary64 :=
  match (lower (String.ofList (s.toList.filter (· ≠ '_')))).toList with
  | [] => .error .emptyNumeral
  | c :: rest => do
    let body := unsigned (c :: rest)
    let x ←
      if String.ofList body = ".inf" then pure (Binary64.infinite false)
      else if String.ofList body = ".nan" then pure Binary64.nan
      else if version = .v1_1 && body.contains ':' then sixtyFloat body
      else floatNumeral body
    return if c = '-' then x.negate else x

/-! ## Bytes -/

def base64Digit? (c : Char) : Option Nat :=
  if 'A' ≤ c ∧ c ≤ 'Z' then some (c.toNat - 65)
  else if 'a' ≤ c ∧ c ≤ 'z' then some (c.toNat - 71)
  else if '0' ≤ c ∧ c ≤ '9' then some (c.toNat + 4)
  else if c = '+' then some 62
  else if c = '/' then some 63
  else none

/-- Reads bytes written to the base sixty-four, in groups of four digits. `pending` has the digits
of an open group, the last one first, and `pads` counts the signs that fill it up. Other characters
are skipped. -/
def base64 (pending : List Nat) (pads : Nat) (read : List UInt8) :
    List Char → Option (List UInt8)
  | [] => if pending.isEmpty then some read.reverse else none
  | c :: rest =>
    if c = '=' then
      if 2 ≤ pending.length then
        if 4 ≤ pending.length + pads + 1 then some read.reverse
        else base64 pending (pads + 1) read rest
      else base64 pending pads read rest
    else
      match base64Digit? c with
      | none => base64 pending pads read rest
      | some d =>
        match pending with
        | [] => base64 [d] 0 read rest
        | [a] => base64 [d, a] 0 (UInt8.ofNat (a * 4 + d / 16) :: read) rest
        | [b, a] => base64 [d, b, a] 0 (UInt8.ofNat (b * 16 + d / 4) :: read) rest
        | b :: _ => base64 [] 0 (UInt8.ofNat (b * 64 + d) :: read) rest

def bytesValue (s : String) : Except Fault (List UInt8) :=
  if s.toList.all fun c => c.toNat < 0x80 then
    match base64 [] 0 [] s.toList with
    | some bs => .ok bs
    | none => .error .illFormed
  else .error .illFormed

/-! ## Dates and times -/

def digitsValue (ds : List Char) : Nat := (readDigits 10 ds).getD 0

/-- The microseconds of a fraction of a second, rounded by the seventh digit. -/
def microseconds (fraction : List Char) : Nat :=
  let whole := digitsValue (fraction.take 6 ++ List.replicate (6 - fraction.length) '0')
  match (fraction.drop 6).head? with
  | some d => if '4' < d then whole + 1 else whole
  | none => whole

/-- The minutes east of universal time. -/
def zoneMinutes : Option ZoneText → Int
  | none => 0
  | some z =>
    let m : Int := (digitsValue z.hours * 60 + digitsValue z.minutes : Nat)
    if z.west then -m else m

/-- Turns a fault of the calendar into a fault of the text. -/
def ofCalendar {α : Type} (x : Except CalendarFault α) : Except Fault α := x.mapError .calendar

/-- The distance from universal time, less than a day. -/
def checkOffset (offset : Option Int) : Except Fault Unit :=
  match offset with
  | some m => if m ≤ -1440 ∨ 1440 ≤ m then .error (.calendar (.offset m)) else .ok ()
  | none => .ok ()

/-- The date or the moment that a text denotes. -/
def timestampValue (s : String) : Except Fault Value :=
  match dateText? s.toList with
  | none => .error .illFormed
  | some d =>
    let date :=
      ofCalendar (Date.ofFields (digitsValue d.year) (digitsValue d.month) (digitsValue d.day))
    match d.time with
    | none => do return .date (← date)
    | some t => do
      let offset := t.zone.map zoneMinutes
      checkOffset offset
      let μs := microseconds t.fraction
      let moment ← ofCalendar (Timestamp.ofFields (← date) (digitsValue t.hour) (digitsValue t.minute)
        (digitsValue t.second) (if 999999 < μs then 0 else μs) offset)
      return .timestamp (← if 999999 < μs then ofCalendar moment.nextSecond else pure moment)

end EndpointUpgrade.Yaml
