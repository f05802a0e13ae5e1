import EndpointUpgrade.Document
import EndpointUpgrade.Yaml.Style

/-!
# Writing YAML

Documents are written one after the other, each behind a start sign, with collections in block
style. The items of a sequence are indented within their mapping. A long scalar is folded: past a
certain column, a line ends at the next single space.
-/

namespace EndpointUpgrade.Yaml

open Text

/-- The column past which a scalar is folded. -/
def width : Nat := 4096

/-- The longest key that is written in front of its colon; longer ones get a sign and a line of
their own. -/
def longestKey : Nat := 122

def margin (column : Nat) : List Char := List.replicate column ' '

def newLine (column : Nat) : List Char := '\n' :: margin column

/-! ## Scalars -/

def escapeSign? : Char → Option Char
  | '\x00' => some '0'
  | '\x07' => some 'a'
  | '\x08' => some 'b'
  | '\t' => some 't'
  | '\n' => some 'n'
  | '\x0B' => some 'v'
  | '\x0C' => some 'f'
  | '\r' => some 'r'
  | '\x1B' => some 'e'
  | '"' => some '"'
  | '\\' => some '\\'
  | '\x85' => some 'N'
  | '\xA0' => some '_'
  | '\u2028' => some 'L'
  | '\u2029' => some 'P'
  | _ => none

/-- A character that stands for itself between double quotes. -/
def isPlainInDouble (c : Char) : Bool :=
  !(c = '"' || c = '\\' || c = '\u2028' || c = '\u2029' || c = '\uFEFF') &&
    (('\x20' ≤ c && c ≤ '\x7E') || ('\xA0' ≤ c && c ≤ '\uFFFD'))

/-- Hexadecimal digits with capital letters, padded with zeros. -/
def upperHex (digits n : Nat) : List Char :=
  (padLeft digits '0' (hexadecimal n)).map Char.toUpper

def escapeOf (c : Char) : List Char :=
  match escapeSign? c with
  | some sign => ['\\', sign]
  | none =>
    if c.toNat ≤ 0xFF then '\\' :: 'x' :: upperHex 2 c.toNat
    else if c.toNat ≤ 0xFFFF then '\\' :: 'u' :: upperHex 4 c.toNat
    else '\\' :: 'U' :: upperHex 8 c.toNat

/-- Whether and where a scalar may be folded: not at all, or with lines that begin at a column. -/
abbrev Folding := Option Nat

/-- Writes the rest of a plain scalar from a column on. A word that is longer than a line begins on
a line of its own. -/
def plainRest (folding : Folding) (column : Nat) (before : Option Char) : List Char → List Char
  | [] => []
  | c :: rest =>
    match folding with
    | none => c :: plainRest folding (column + 1) (some c) rest
    | some indent =>
      if c = ' ' then
        if before ≠ some ' ' && rest.head? ≠ some ' ' && width < column then
          newLine indent ++ plainRest folding indent (some c) rest
        else c :: plainRest folding (column + 1) (some c) rest
      else
        let beginsWord := before.isNone || before = some ' '
        if beginsWord && width < (c :: rest.takeWhile (· ≠ ' ')).length && indent < column then
          newLine indent ++ c :: plainRest folding (indent + 1) (some c) rest
        else c :: plainRest folding (column + 1) (some c) rest

/-- Writes the rest of a scalar in single quotes from a column on. A line end of the text stands for
itself, with the margin of the next line behind it; a line feed needs an empty line. -/
def singleRest (folding : Folding) (column : Nat) (before : Option Char) : List Char → List Char
  | [] => []
  | c :: rest =>
    let indent := folding.getD 0
    if c = '\'' then c :: c :: singleRest folding (column + 2) (some c) rest
    else if endsLine c then
      let feed := if c = '\n' && !before.any endsLine then ['\n'] else []
      let (space, column) :=
        if rest.head?.any endsLine then ([], 0) else (margin indent, indent)
      feed ++ c :: space ++ singleRest folding column (some c) rest
    else if c = ' ' && folding.isSome && before.isSome && before ≠ some ' ' && !rest.isEmpty &&
        rest.head? ≠ some ' ' && width < column then
      newLine indent ++ singleRest folding indent (some c) rest
    else c :: singleRest folding (column + 1) (some c) rest

/-- A fold in double quotes needs no backslash if a single space is near: the text up to the next
space has no quotes, and there is one space only. -/
def foldsAtSpace (before : Option Char) (c : Char) (rest : List Char) : Bool :=
  let part := (c :: rest).takeWhile (· ≠ ' ')
  (c :: rest).contains ' ' && !part.contains '"' && !part.contains '\'' &&
    rest.head? ≠ some ' ' && !(before = some ' ' && c = ' ')

/-- Writes the rest of a scalar in double quotes from a column on. A line may be folded at a space,
and beside an escape; `besideEscape` says that an escape or a fold has just been written. -/
def doubleRest (folding : Folding) (column : Nat) (before : Option Char) (besideEscape : Bool) :
    List Char → List Char
  | [] => []
  | c :: rest =>
    let inside := folding.isSome && before.isSome && !rest.isEmpty
    let indent := folding.getD 0
    let atSpace := foldsAtSpace before c rest
    let sign := if atSpace then [] else ['\\']
    if isPlainInDouble c then
      if inside && (c = ' ' || besideEscape) && width < column then
        sign ++ newLine indent ++
          (if c = ' ' then
            if atSpace then doubleRest folding indent (some c) true rest
            else '\\' :: c :: doubleRest folding (indent + 2) (some c) false rest
          else c :: doubleRest folding (indent + 1) (some c) false rest)
      else c :: doubleRest folding (column + 1) (some c) false rest
    else
      let written := escapeOf c
      let column := column + written.length
      if inside && width < column - 1 then
        written ++ sign ++ newLine indent ++
          (if !atSpace && rest.head? = some ' ' then
            '\\' :: doubleRest folding (indent + 1) (some c) true rest
          else doubleRest folding indent (some c) true rest)
      else written ++ doubleRest folding column (some c) true rest

/-- Writes a text in its style from a column on. -/
def scalarChars (folding : Folding) (inKey : Bool) (column : Nat) (s : String) : List Char :=
  match style inKey s with
  | .plain => plainRest folding column none s.toList
  | .single => '\'' :: singleRest folding (column + 1) none s.toList ++ ['\'']
  | .double => '"' :: doubleRest folding (column + 1) none true s.toList ++ ['"']

def numberChars (folding : Folding) (column : Nat) (n : Int) : List Char :=
  plainRest folding column none (integer n)

/-! ## Collections -/

/-- A key can be written in front of its colon on one line. -/
def isSimpleKey (key : String) : Bool := key.length ≤ longestKey && !key.toList.any endsLine

/-- Writes a key with its colon, at the margin of its mapping. A long key stands behind a sign, and
its colon on the next line. -/
def keyChars (indent : Nat) (key : String) : List Char :=
  if isSimpleKey key then scalarChars none true indent key ++ [':']
  else
    '?' :: ' ' :: scalarChars (some (indent + 2)) false (indent + 2) key ++ newLine indent ++ [':']

def columnAfterKey (indent : Nat) (key : String) : Nat :=
  if isSimpleKey key then indent + (keyChars indent key).length else indent + 1

mutual

/-- Writes what stands behind the colon of a key, up to the end of the line of its last part. -/
def valueChars (indent column : Nat) : Document → List Char
  | .text s => ' ' :: scalarChars (some (indent + 2)) false (column + 1) s ++ ['\n']
  | .number n => ' ' :: numberChars (some (indent + 2)) (column + 1) n ++ ['\n']
  | .list [] => [' ', '[', ']', '\n']
  | .list items => '\n' :: itemsChars indent false items
  | .mapping [] => [' ', '\x7b', '\x7d', '\n']
  | .mapping entries => '\n' :: entriesChars (indent + 2) false entries

/-- Writes an item of a sequence behind its sign, at its column. -/
def itemChars (column : Nat) : Document → List Char
  | .text s => scalarChars (some column) false column s ++ ['\n']
  | .number n => numberChars (some column) column n ++ ['\n']
  | .list [] => ['[', ']', '\n']
  | .list items => itemsChars column true items
  | .mapping [] => ['\x7b', '\x7d', '\n']
  | .mapping entries => entriesChars column true entries

/-- Writes the items of a sequence. The first one may stand on a line that has begun. -/
def itemsChars (indent : Nat) (begun : Bool) : List Document → List Char
  | [] => []
  | d :: rest =>
    (if begun then margin 2 else margin (indent + 2)) ++ '-' :: ' ' :: itemChars (indent + 4) d ++
      itemsChars indent false rest

/-- Writes the entries of a mapping. The first one may stand on a line that has begun. -/
def entriesChars (indent : Nat) (begun : Bool) : List (String × Document) → List Char
  | [] => []
  | (key, d) :: rest =>
    (if begun then [] else margin indent) ++ keyChars indent key ++
      valueChars indent (columnAfterKey indent key) d ++ entriesChars indent false rest

end

/-- Writes a document behind its start sign. -/
def documentChars : Document → List Char
  | .mapping [] => ['-', '-', '-', ' ', '\x7b', '\x7d', '\n']
  | .mapping entries => '-' :: '-' :: '-' :: '\n' :: entriesChars 0 false entries
  | d => '-' :: '-' :: '-' :: ' ' :: itemChars 0 d

/-- The text of several documents. -/
def write (documents : List Document) : String :=
  String.ofList (documents.flatMap documentChars)

end EndpointUpgrade.Yaml
