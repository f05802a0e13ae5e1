import EndpointUpgrade.Reading.Checked
import EndpointUpgrade.Net.FromValue
import EndpointUpgrade.Text.Space
import EndpointUpgrade.Threaded

/-!
# Reading scalars and lists

Texts are taken as they are. Integers are read leniently: truth values, numbers without a fraction
and numerals in a text are integers too. Numerals may have space around them, a sign, leading zeros,
single underscores between digits, and a fraction of zeros. Among leading zeros underscores may
stand together.
-/

namespace EndpointUpgrade.Reading

open Text Decimal Net

def utf8Text? (bs : List UInt8) : Option String :=
  String.fromUTF8? ⟨bs.toArray⟩

def text : Value → Checked String
  | .text s => .ok s
  | .tornText _ => .fault .noUnicode
  | .bytes bs =>
    match utf8Text? bs with
    | some s => .ok s
    | none => .fault .noUnicode
  | _ => .fault .noText

/-- Reads a text as it is, also if halves of characters stand alone in it. -/
def rawText : Value → Checked RawText
  | .tornText points => .ok (.torn points)
  | v => RawText.whole <$> text v

def optionalText : Value → Checked (Option String)
  | .null => .ok none
  | v => some <$> text v

/-- A character that may stand between the first zero of a numeral and its other digits. -/
def isPadding (c : Char) : Bool := c = '0' || c = '_'

/-- A numeral without its leading zeros and the underscores among them. If no other digit follows,
the last one of these characters stays. -/
def withoutPadding : List Char → List Char
  | '0' :: rest =>
    let last := (rest.takeWhile isPadding).getLast?.getD '0'
    match rest.dropWhile isPadding with
    | [] => [last]
    | c :: more => if isDigit c then c :: more else last :: c :: more
  | cs => cs

/-- The digits of a numeral that may hold single underscores between digits. -/
def ungrouped? (cs : List Char) : Option (List Char) :=
  let groups := fields '_' cs
  if groups.all fun g => !g.isEmpty && g.all isDigit then some groups.flatten else none

/-- The digits of a numeral without the fraction of zeros that may follow them. -/
def wholeDigits? (cs : List Char) : Option (List Char) :=
  match cutAt '.' (withoutPadding cs) with
  | (whole, none) => ungrouped? whole
  | (whole, some zeros) =>
    if !zeros.isEmpty && zeros.all (· = '0') then ungrouped? whole else none

/-- The integer of a sign and digits. Numerals of more than 4300 digits are too long. -/
def signedInteger (negative : Bool) (digits? : Option (List Char)) : Checked Int :=
  match digits? with
  | none => .fault .integerSyntax
  | some ds =>
    if 4300 < ds.length then .fault .integerSize
    else
      match readDigits 10 ds with
      | some n => .ok (if negative then -(n : Int) else n)
      | none => .fault .integerSyntax

def numeral (cs : List Char) : Checked Int :=
  match trimmed cs with
  | '-' :: rest => signedInteger true (wholeDigits? rest)
  | '+' :: rest => signedInteger false (wholeDigits? rest)
  | rest => signedInteger false (wholeDigits? rest)

/-- The integer that a floating-point number is equal to, within 64 bits. -/
def wholeFloat (x : Binary64) : Checked Int :=
  if x.isFinite then
    match x.toInt? with
    | some n => if -0x8000000000000000 < n ∧ n < 0x8000000000000000 then .ok n
      else .fault .integerSize
    | none => .fault .fraction
  else .fault .notFinite

def integer : Value → Checked Int
  | .int n => .ok n
  | .bool b => .ok (if b then 1 else 0)
  | .float x => wholeFloat x
  | .text s => numeral s.toList
  | .tornText _ => .fault .noUnicode
  | .bytes bs =>
    match utf8Text? bs with
    | some s => numeral s.toList
    | none => .fault .integerSyntax
  | _ => .fault .noInteger

def integerWithin (least greatest : Int) (v : Value) :
    Checked { n : Int // least ≤ n ∧ n ≤ greatest } :=
  match integer v with
  | .ok n =>
    if low : n < least then .fault (.below least)
    else if high : greatest < n then .fault (.above greatest)
    else .ok ⟨n, by omega, by omega⟩
  | .faulty is => .faulty is
  | .broken m => .broken m

def address (v : Value) : Checked Address :=
  match Address.ofValue? v with
  | some a => .ok a
  | none => .fault .noAddress

def optionalAddress : Value → Checked (Option Address)
  | .null => .ok none
  | v => some <$> address v

/-- Reads a network where some masks are known. -/
def network (known : Masks) (v : Value) : Checked Interface :=
  match Interface.ofValue known v with
  | .ok i => .ok i
  | .error .refused => .fault .noNetwork
  | .error (.misused how) => .broken how

def elements {α β : Type} (read : α → Checked β) (position : Int) : List α → Checked (List β)
  | [] => .ok []
  | a :: rest =>
    List.cons <$> (read a).under (.index position) <*> elements read (position + 1) rest

/-- The items of a list. Tuples and sets are lists as well. -/
def items? : Value → Option (List Value)
  | .list items => some items
  | .tuple items => some items
  | .set items => some items
  | _ => none

def listOf {α : Type} (read : Value → Checked α) (v : Value) : Checked (List α) :=
  match items? v with
  | some items => elements read 0 items
  | none => .fault .noList

/-- Reads a list of networks, each of which may make further masks known to the next ones. -/
def networkList (known : Masks) (v : Value) : Checked (List Interface) :=
  match items? v with
  | some items => elements (fun p => network p.1 p.2) 0 (threaded Masks.after known items)
  | none => .fault .noList

/-- The masks that are known after a list of networks was read. -/
def masksAfterList (known : Masks) (v : Value) : Masks :=
  ((items? v).getD []).foldl Masks.after known

end EndpointUpgrade.Reading
