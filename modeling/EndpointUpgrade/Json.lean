import EndpointUpgrade.Text.Halves
import EndpointUpgrade.Text.Numeral
import EndpointUpgrade.Value.Basic

/-!
# JSON texts

Reading a JSON text as a value. Objects keep the order of their members; a member whose name
occurs twice stays in its first place with its last value. Beside the standard the names `NaN`,
`Infinity` and `-Infinity` are numbers, and a text must not begin with a byte order mark.
-/

namespace EndpointUpgrade.Json

open Text Decimal

/-- Reasons why a text is no JSON. -/
inductive Fault where
  | malformed
  /-- An integer with more digits than the limit for conversions. -/
  | tooManyDigits (count : Nat)
  /-- More arrays and objects within each other than there is room for; the inmost one's kind. -/
  | tooDeep (kind : String)
deriving DecidableEq, Repr

def isSpace (c : Char) : Bool := c = ' ' || c = '\t' || c = '\n' || c = '\r'

/-- A text without the white space at its front. -/
def skipSpace (cs : List Char) : List Char := cs.dropWhile isSpace

/-- What follows the given characters. -/
def after? : List Char → List Char → Option (List Char)
  | [], cs => some cs
  | _ :: _, [] => none
  | w :: ws, c :: cs => if w = c then after? ws cs else none

/-- The character that a letter after a backslash stands for. -/
def escapeChar? : Char → Option Char
  | '"' => some '"'
  | '\\' => some '\\'
  | '/' => some '/'
  | 'b' => some '\x08'
  | 'f' => some '\x0C'
  | 'n' => some '\n'
  | 'r' => some '\r'
  | 't' => some '\t'
  | _ => none

/-- Reads the rest of a string after its opening quote: its code points, and what follows the closing
quote. Those read before stand in `read`, the last one first. -/
def stringPoints (read : List Nat) : List Char → Option (List Nat × List Char)
  | [] => none
  | '"' :: rest => some (read.reverse, rest)
  | '\\' :: 'u' :: a :: b :: c :: d :: rest =>
    match readDigits 16 [a, b, c, d] with
    | some n => stringPoints (pushPoint n read) rest
    | none => none
  | '\\' :: c :: rest =>
    match escapeChar? c with
    | some d => stringPoints (d.toNat :: read) rest
    | none => none
  | c :: rest => if c.toNat < 0x20 then none else stringPoints (c.toNat :: read) rest

/-- Reads a string after its opening quote. -/
def string (cs : List Char) : Except Fault (Value × List Char) :=
  match stringPoints [] cs with
  | some (points, rest) => .ok (.ofPoints points, rest)
  | none => .error .malformed

/-- The digits at the front of a text, and the text after them. -/
def digitRun (cs : List Char) : List Char × List Char :=
  (cs.takeWhile isDigit, cs.dropWhile isDigit)

/-- The digits of the whole part of a number: a zero, or digits that do not begin with one. -/
def wholePart? : List Char → Option (List Char × List Char)
  | '0' :: rest => some (['0'], rest)
  | cs => if (digitRun cs).1.isEmpty then none else some (digitRun cs)

def fractionPart? : List Char → Option (List Char × List Char)
  | '.' :: cs => if (digitRun cs).1.isEmpty then none else some (digitRun cs)
  | _ => none

def exponentDigits? (negative : Bool) (cs : List Char) : Option (Int × List Char) :=
  match readDigits 10 (digitRun cs).1 with
  | some n => some (if negative then -(n : Int) else n, (digitRun cs).2)
  | none => none

def exponentPart? : List Char → Option (Int × List Char)
  | c :: cs =>
    if c = 'e' ∨ c = 'E' then
      match cs with
      | '-' :: rest => exponentDigits? true rest
      | '+' :: rest => exponentDigits? false rest
      | rest => exponentDigits? false rest
    else none
  | [] => none

/-- The integer of a sign and digits; there is a limit on their number. -/
def integerOf (negative : Bool) (ds : List Char) : Except Fault Value :=
  if 4300 < ds.length then .error (.tooManyDigits ds.length)
  else
    let n := (readDigits 10 ds).getD 0
    .ok (.int (if negative then -(n : Int) else n))

def number (negative : Bool) (cs : List Char) : Except Fault (Value × List Char) :=
  match wholePart? cs with
  | none => .error .malformed
  | some (whole, rest) =>
    let fraction := fractionPart? rest
    let rest' := (fraction.map (·.2)).getD rest
    let exponent := exponentPart? rest'
    let rest'' := (exponent.map (·.2)).getD rest'
    match fraction, exponent with
    | none, none => do return (← integerOf negative whole, rest)
    | _, _ =>
      let decimals := (fraction.map (·.1)).getD []
      let scale := (exponent.map (·.1)).getD 0
      .ok
        (.float
          (Binary64.ofDecimal negative ((readDigits 10 (whole ++ decimals)).getD 0)
            (scale - decimals.length)), rest'')

/-- Reads a name or a number. -/
def atom (cs : List Char) : Except Fault (Value × List Char) :=
  match cs with
  | 'n' :: _ => named "null" .null
  | 't' :: _ => named "true" (.bool true)
  | 'f' :: _ => named "false" (.bool false)
  | 'N' :: _ => named "NaN" (.float .nan)
  | 'I' :: _ => named "Infinity" (.float (.infinite false))
  | '-' :: 'I' :: _ => named "-Infinity" (.float (.infinite true))
  | '-' :: rest => number true rest
  | _ => number false cs
where
  /-- The value of a name. -/
  named (name : String) (v : Value) : Except Fault (Value × List Char) :=
    match after? name.toList cs with
    | some rest => .ok (v, rest)
    | none => .error .malformed

mutual

/-- Reads a value. The fuel bounds the number of nested and consecutive parts, and there is room for
a number of levels. -/
def value (fuel levels : Nat) (cs : List Char) : Except Fault (Value × List Char) :=
  match fuel with
  | 0 => .error .malformed
  | fuel + 1 =>
    match cs with
    | '"' :: rest => string rest
    | '[' :: rest =>
      if levels = 0 then .error (.tooDeep "array")
      else
        match skipSpace rest with
        | ']' :: rest => .ok (.list [], rest)
        | rest => do
          let (items, rest) ← items fuel (levels - 1) rest
          return (.list items, rest)
    | '{' :: rest =>
      if levels = 0 then .error (.tooDeep "object")
      else
        match skipSpace rest with
        | '}' :: rest => .ok (.map [], rest)
        | rest => do
          let (entries, rest) ← members fuel (levels - 1) [] rest
          return (.map entries, rest)
    | _ => atom cs

def items (fuel levels : Nat) (cs : List Char) : Except Fault (List Value × List Char) :=
  match fuel with
  | 0 => .error .malformed
  | fuel + 1 => do
    let (v, rest) ← value fuel levels cs
    match skipSpace rest with
    | ']' :: rest => return ([v], rest)
    | ',' :: rest =>
      let (vs, rest) ← items fuel levels (skipSpace rest)
      return (v :: vs, rest)
    | _ => throw .malformed

/-- Reads the members of an object up to its end and puts them to those read before. -/
def members (fuel levels : Nat) (before : List (Value × Value)) (cs : List Char) :
    Except Fault (List (Value × Value) × List Char) :=
  match fuel with
  | 0 => .error .malformed
  | fuel + 1 =>
    match cs with
    | '"' :: rest => do
      let (name, rest) ← string rest
      match skipSpace rest with
      | ':' :: rest =>
        let (v, rest) ← value fuel levels (skipSpace rest)
        let entries := Value.put name v before
        match skipSpace rest with
        | '}' :: rest => return (entries, rest)
        | ',' :: rest => members fuel levels entries (skipSpace rest)
        | _ => throw .malformed
      | _ => throw .malformed
    | _ => .error .malformed

end

/-- The value that a text denotes, where there is room for a number of levels. -/
def read (levels : Nat) (text : String) : Except Fault Value :=
  let cs := text.toList
  match cs with
  | '\uFEFF' :: _ => .error .malformed
  | _ => do
    let (v, rest) ← value (2 * cs.length + 2) levels (skipSpace cs)
    if (skipSpace rest).isEmpty then return v else throw .malformed

end EndpointUpgrade.Json
