import EndpointUpgrade.Yaml.Tag

/-!
# Styles of written scalars

A text is written plain where it reads back as the same text, else between single quotes, and
between double quotes with escapes where nothing else will do: for line feeds, for single quotes,
for characters that are not written as they are, and for spaces beside line ends.
-/

namespace EndpointUpgrade.Yaml

/-- How a text is written. -/
inductive Style where
  | plain
  | single
  | double
deriving DecidableEq, Repr

def endsLine (c : Char) : Bool := c = '\n' || c = '\x85' || c = '\u2028' || c = '\u2029'

/-- White space as far as signs within a plain text are concerned. -/
def isGap (c : Char) : Bool := c = '\x00' || c = ' ' || c = '\t' || c = '\r' || endsLine c

def isGapOrEnd : Option Char → Bool
  | none => true
  | some c => isGap c

/-- A character that is only written with an escape. -/
def isSpecial (c : Char) : Bool :=
  !(c = '\n' || ('\x20' ≤ c && c ≤ '\x7E') || c = '\x85' ||
    ('\xA0' ≤ c && c ≤ '\uFFFD' && c ≠ '\uFEFF') || 0x10000 ≤ c.toNat)

/-- Two neighbours of the given kinds, in this order. -/
def hasNeighbours (first second : Char → Bool) (cs : List Char) : Bool :=
  (cs.zip cs.tail).any fun p => first p.1 && second p.2

/-- A colon in front of white space or at the end. -/
def hasValueSign : List Char → Bool
  | [] => false
  | c :: rest => (c = ':' && isGapOrEnd rest.head?) || hasValueSign rest

/-- The text begins like something else than a plain text. -/
def beginsOtherwise (cs : List Char) : Bool :=
  cs.take 3 = ['-', '-', '-'] || cs.take 3 = ['.', '.', '.'] ||
    match cs with
    | [] => false
    | c :: rest =>
      ['#', ',', '[', ']', '\x7b', '\x7d', '&', '*', '!', '|', '>', '\'', '"', '%', '@',
          '\x60'].contains c ||
        ((c = '?' || c = ':' || c = '-') && isGapOrEnd rest.head?)

def isSpaceOrLineEnd (c : Char) : Bool := c = ' ' || endsLine c

/-- The text could be written plain, whatever it would be taken for. -/
def fitsPlain (cs : List Char) : Bool :=
  !(cs.isEmpty || cs.head?.any isSpaceOrLineEnd || cs.getLast?.any isSpaceOrLineEnd ||
    cs.any isSpecial || cs.any endsLine || beginsOtherwise cs || hasValueSign cs.tail ||
    hasNeighbours isGap (· = '#') cs)

/-- The text could be written between single quotes. -/
def fitsSingle (cs : List Char) : Bool :=
  !(cs.any isSpecial || hasNeighbours endsLine (· = ' ') cs || hasNeighbours (· = ' ') endsLine cs)

/-- The style of a text. A key within one line has no line ends. -/
def style (inKey : Bool) (s : String) : Style :=
  let cs := s.toList
  if Tag.ofPlain .v1_2 s = .text && fitsPlain cs then .plain
  else if cs.contains '\'' || cs.contains '\n' then .double
  else if fitsSingle cs && !(inKey && cs.any endsLine) then .single
  else .double

end EndpointUpgrade.Yaml
