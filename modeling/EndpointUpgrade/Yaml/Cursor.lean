/-!
# Positions in a YAML text

What is left of a text together with the number of characters read, the line and the column. A
line ends at a line feed, at a carriage return and at the line separators of Unicode; a byte order
mark takes no column.
-/

namespace EndpointUpgrade.Yaml

def isLineEnd (c : Char) : Bool := c = '\n' || c = '\r' || c = '\x85'

/-- Line ends of any kind. The separators of Unicode stand for themselves. -/
def isBreak (c : Char) : Bool := isLineEnd c || c = '\u2028' || c = '\u2029'

/-- The end of the text, or a line end that is read as a line feed. -/
def isStop : Option Char → Bool
  | none => true
  | some c => isLineEnd c

/-- The end of the text, or a line end of any kind. -/
def isBreakOrEnd : Option Char → Bool
  | none => true
  | some c => isBreak c

/-- The end of the text, a space, a tab, or a line end that is read as a line feed. -/
def isBlankOrEnd : Option Char → Bool
  | none => true
  | some c => c = ' ' || c = '\t' || isLineEnd c

/-- A position in a text. -/
structure Cursor where
  rest : List Char
  index : Nat
  line : Nat
  column : Nat
  /-- The number of characters of the whole text. -/
  size : Nat
  size_eq : index + rest.length = size
deriving Repr

namespace Cursor

def start (cs : List Char) : Cursor := ⟨cs, 0, 0, 0, cs.length, by simp⟩

/-- A bound on the number of steps that read at least one character each, and one more. -/
def fuel (cur : Cursor) : Nat := cur.size - cur.index + 1

theorem fuel_eq (cur : Cursor) : cur.fuel = cur.rest.length + 1 := by
  have := cur.size_eq
  simp only [fuel]
  omega

def next (cur : Cursor) : Cursor :=
  match h : cur.rest with
  | [] => cur
  | c :: rest =>
    have size_eq : cur.index + 1 + rest.length = cur.size := by
      have := cur.size_eq
      simp only [h, List.length_cons] at this
      omega
    if isBreak c && !(c = '\r' && rest.head? = some '\n') then
      ⟨rest, cur.index + 1, cur.line + 1, 0, cur.size, size_eq⟩
    else if c = '\uFEFF' then ⟨rest, cur.index + 1, cur.line, cur.column, cur.size, size_eq⟩
    else ⟨rest, cur.index + 1, cur.line, cur.column + 1, cur.size, size_eq⟩

/-- The position after some more characters. -/
def skip : Nat → Cursor → Cursor
  | 0, cur => cur
  | n + 1, cur => skip n cur.next

def peek (cur : Cursor) : Option Char := cur.rest.head?

/-- The character a number of places ahead. -/
def peekAt (cur : Cursor) (n : Nat) : Option Char := (cur.rest.drop n).head?

/-- The run of characters of a kind at the front, and the position after it. -/
def span (cur : Cursor) (kind : Char → Bool) : List Char × Cursor :=
  let run := cur.rest.takeWhile kind
  (run, cur.skip run.length)

/-- The position after the run of characters of a kind. -/
def skipWhile (cur : Cursor) (kind : Char → Bool) : Cursor := (cur.span kind).2

/-- The position after the spaces at the front. -/
def skipSpaces (cur : Cursor) : Cursor := cur.skipWhile (· = ' ')

/-- The position after the rest of the line, in front of its end. -/
def skipLine (cur : Cursor) : Cursor := cur.skipWhile fun c => !isLineEnd c

/-- Reads a line end: the character that it stands for, and the position after it. -/
def lineBreak? (cur : Cursor) : Option (Char × Cursor) :=
  match cur.rest with
  | '\r' :: '\n' :: _ => some ('\n', cur.skip 2)
  | c :: _ =>
    if isLineEnd c then some ('\n', cur.next)
    else if isBreak c then some (c, cur.next)
    else none
  | [] => none

/-- Three equal characters, `mark`, with nothing that belongs to them behind. -/
def hasMark (cur : Cursor) (mark : Char) : Bool :=
  cur.rest.take 3 = [mark, mark, mark] && isBlankOrEnd (cur.peekAt 3)

/-- A sign of the start or the end of a document. -/
def hasDocumentMark (cur : Cursor) : Bool := cur.hasMark '-' || cur.hasMark '.'

end Cursor

end EndpointUpgrade.Yaml
