import EndpointUpgrade.Yaml.Cursor
import EndpointUpgrade.Yaml.Token

/-!
# Texts of YAML scalars

Reading the text of a scalar in each of the four styles. Line breaks inside plain and quoted
scalars fold: a single one is read as a space, further ones stand for themselves. A block scalar
keeps its line breaks or folds those between lines that are not indented further; its header says
what becomes of the last ones.
-/

namespace EndpointUpgrade.Yaml

open Text

/-- What is read for line breaks in a row: a lone line feed is a space, and the first of several is
dropped. -/
def foldedBreaks (first : Char) (more : List Char) : List Char :=
  if first ≠ '\n' then first :: more
  else if more.isEmpty then [' ']
  else more

/-! ## Plain scalars -/

/-- The run of characters that belongs to a plain scalar. A colon belongs to it unless it ends a
word; within brackets, further characters end it. -/
def plainWord (inFlow : Bool) (version : Version) : List Char → List Char
  | [] => []
  | c :: rest =>
    if c = ':' && !isBlankOrEnd rest.head? then c :: plainWord inFlow version rest
    else if c = '?' && version = .v1_2 then c :: plainWord inFlow version rest
    else if isBlankOrEnd (some c) then []
    else if c = ':' && !inFlow then []
    else if inFlow && [',', ':', '?', '[', ']', '\x7b', '\x7d'].contains c then []
    else c :: plainWord inFlow version rest

/-- The space after a word of a plain scalar: what it is read as, the position after it, and
whether a line ended. -/
structure PlainSpace where
  chars : List Char
  after : Cursor
  brokeLine : Bool

/-- Reads the empty lines behind a line end in a plain scalar. Nothing is read if a sign of a
document follows. -/
def plainBreaks (fuel : Nat) (read : List Char) (cur : Cursor) : Option (List Char) × Cursor :=
  match fuel with
  | 0 => (none, cur)
  | fuel + 1 =>
    if cur.peek = some ' ' then plainBreaks fuel read cur.next
    else
      match cur.lineBreak? with
      | some (c, cur) =>
        if cur.hasDocumentMark then (none, cur) else plainBreaks fuel (c :: read) cur
      | none => (some read.reverse, cur)

def plainSpace (cur : Cursor) : PlainSpace :=
  let (blank, cur) := cur.span (· = ' ')
  match cur.lineBreak? with
  | none => ⟨blank, cur, false⟩
  | some (first, cur) =>
    if cur.hasDocumentMark then ⟨[], cur, true⟩
    else
      match plainBreaks cur.fuel [] cur with
      | (some more, cur) => ⟨foldedBreaks first more, cur, true⟩
      | (none, cur) => ⟨[], cur, true⟩

/-- What has been read of a plain scalar, the last character first. -/
structure PlainText where
  reversed : List Char
  after : Cursor
  brokeLine : Bool

def plainWords (fuel : Nat) (inFlow : Bool) (version : Version) (indent : Int)
    (read : PlainText) (space : List Char) : PlainText :=
  match fuel with
  | 0 => read
  | fuel + 1 =>
    let cur := read.after
    let word := if cur.peek = some '#' then [] else plainWord inFlow version cur.rest
    if word.isEmpty then read
    else
      let s := plainSpace (cur.skip word.length)
      let read := ⟨word.reverse ++ space.reverse ++ read.reversed, s.after, s.brokeLine⟩
      if s.chars.isEmpty || s.after.peek = some '#' || (!inFlow && (s.after.column : Int) < indent)
      then read
      else plainWords fuel inFlow version indent read s.chars

/-- Reads a plain scalar. Outside brackets its further lines are indented by at least `indent`. -/
def plainText (inFlow : Bool) (version : Version) (indent : Int) (cur : Cursor) : PlainText :=
  plainWords cur.fuel inFlow version indent ⟨[], cur, false⟩ []

/-! ## Quoted scalars -/

/-- The character that a letter after a backslash stands for. -/
def escapeLetter? : Char → Option Char
  | '0' => some '\x00'
  | 'a' => some '\x07'
  | 'b' => some '\x08'
  | 't' => some '\t'
  | '\t' => some '\t'
  | 'n' => some '\n'
  | 'v' => some '\x0B'
  | 'f' => some '\x0C'
  | 'r' => some '\r'
  | 'e' => some '\x1B'
  | ' ' => some ' '
  | '"' => some '"'
  | '/' => some '/'
  | '\\' => some '\\'
  | 'N' => some '\x85'
  | '_' => some '\xA0'
  | 'L' => some '\u2028'
  | 'P' => some '\u2029'
  | _ => none

/-- The number of hexadecimal digits after a letter that announces a code point. -/
def escapeWidth? : Char → Option Nat
  | 'x' => some 2
  | 'u' => some 4
  | 'U' => some 8
  | _ => none

/-- Reads a code point of the given number of hexadecimal digits. -/
def codePoint (width : Nat) (cur : Cursor) : Except Fault (Nat × Cursor) :=
  let ds := cur.rest.take width
  if ds.length < width then .error .illFormed
  else
    match readDigits 16 ds with
    | none => .error .illFormed
    | some n =>
      if 0x10FFFF < n then .error .codePoint
      else .ok (n, cur.skip width)

/-- The second half of a character that is written as two code points. -/
def lowHalf? (cur : Cursor) : Option (Nat × Cursor) :=
  match cur.rest with
  | '\\' :: 'u' :: _ =>
    match codePoint 4 (cur.skip 2) with
    | .ok (n, after) => if 0xDC00 ≤ n ∧ n < 0xE000 then some (n, after) else none
    | .error _ => none
  | _ => none

/-- The character of a code point. Halves of characters are joined if they belong together, and
replaced otherwise. -/
def codePointChar (n : Nat) (cur : Cursor) : Char × Cursor :=
  if 0xD800 ≤ n ∧ n < 0xDC00 then
    match lowHalf? cur with
    | some (low, after) =>
      (Char.ofNat (0x10000 + (n - 0xD800) * 0x400 + (low - 0xDC00)), after)
    | none => ('\uFFFD', cur)
  else if 0xDC00 ≤ n ∧ n < 0xE000 then ('\uFFFD', cur)
  else (Char.ofNat n, cur)

/-- Reads the empty lines behind a line end in a quoted scalar, and the space in front of the next
word. A sign of a document must not follow. -/
def quotedBreaks (fuel : Nat) (read : List Char) (cur : Cursor) :
    Except Fault (List Char × Cursor) :=
  match fuel with
  | 0 => .error .illFormed
  | fuel + 1 =>
    if cur.hasDocumentMark then .error .illFormed
    else
      let cur := cur.skipWhile fun c => c = ' ' || c = '\t'
      match cur.lineBreak? with
      | some (c, cur) => quotedBreaks fuel (c :: read) cur
      | none => .ok (read.reverse, cur)

/-- Reads spaces, tabs and line ends in a quoted scalar. -/
def quotedSpace (cur : Cursor) : Except Fault (List Char × Cursor) :=
  let (blank, cur) := cur.span fun c => c = ' ' || c = '\t'
  match cur.lineBreak? with
  | some (first, cur) => do
    let (more, cur) ← quotedBreaks cur.fuel [] cur
    return (foldedBreaks first more, cur)
  | none => if cur.rest.isEmpty then .error .illFormed else .ok (blank, cur)

/-- Reads what a backslash in front of the cursor stands for. A line end that is escaped stands for
nothing, and neither does the space at the front of the next line. -/
def escaped (cur : Cursor) : Except Fault (List Char × Cursor) :=
  match cur.peek with
  | none => .error .illFormed
  | some c =>
    match escapeLetter? c, escapeWidth? c, cur.lineBreak? with
    | some d, _, _ => .ok ([d], cur.next)
    | none, some width, _ => do
      let (n, cur) ← codePoint width cur.next
      let (d, cur) := codePointChar n cur
      return ([d], cur)
    | none, none, some (_, cur) => quotedBreaks cur.fuel [] cur
    | none, none, none => .error .illFormed

/-- Reads the rest of a quoted scalar, its closing quote included. In single quotes a doubled quote
stands for one; in double quotes a backslash begins an escape. -/
def quotedRest (fuel : Nat) (double : Bool) (read : List Char) (cur : Cursor) :
    Except Fault (List Char × Cursor) :=
  match fuel with
  | 0 => .error .illFormed
  | fuel + 1 =>
    match cur.rest with
    | [] => .error .illFormed
    | c :: rest =>
      if c = '\'' && !double then
        if rest.head? = some '\'' then quotedRest fuel double ('\'' :: read) (cur.skip 2)
        else .ok (read.reverse, cur.next)
      else if c = '"' && double then .ok (read.reverse, cur.next)
      else if c = '\\' && double then do
        let (cs, cur) ← escaped cur.next
        quotedRest fuel double (cs.reverse ++ read) cur
      else if c = ' ' || c = '\t' || isBreak c then do
        let (cs, cur) ← quotedSpace cur
        quotedRest fuel double (cs.reverse ++ read) cur
      else quotedRest fuel double (c :: read) cur.next

def quotedText (double : Bool) (cur : Cursor) : Except Fault (List Char × Cursor) :=
  quotedRest cur.fuel double [] cur

/-! ## Block scalars -/

/-- What becomes of the line breaks at the end of a block scalar. -/
inductive Chomping where
  /-- All are dropped. -/
  | strip
  /-- The first one is kept. -/
  | clip
  /-- All are kept. -/
  | keep
deriving DecidableEq, Repr

structure BlockHeader where
  chomping : Chomping
  indentation : Option Nat

def chomping? : Option Char → Option Chomping
  | some '+' => some .keep
  | some '-' => some .strip
  | _ => none

/-- The indentation that a digit asks for; zero is none. -/
def indentation? : Option Char → Option Nat
  | some c => if isDigit c then some (c.toNat - 48) else none
  | none => none

/-- Reads the signs of a header, which may stand in either order. -/
def blockSigns (cur : Cursor) : BlockHeader × Cursor :=
  match chomping? cur.peek with
  | some chomping =>
    match indentation? (cur.peekAt 1) with
    | some n => (⟨chomping, some n⟩, cur.skip 2)
    | none => (⟨chomping, none⟩, cur.next)
  | none =>
    match indentation? cur.peek with
    | some n =>
      match chomping? (cur.peekAt 1) with
      | some chomping => (⟨chomping, some n⟩, cur.skip 2)
      | none => (⟨.clip, some n⟩, cur.next)
    | none => (⟨.clip, none⟩, cur)

/-- Reads spaces and a comment up to the end of the line. -/
def ignoredLine (cur : Cursor) : Except Fault Cursor :=
  let cur := cur.skipSpaces
  let cur := if cur.peek = some '#' then cur.skipLine else cur
  if isStop cur.peek then
    .ok ((cur.lineBreak?.map (·.2)).getD cur)
  else .error .illFormed

def blockHeader (cur : Cursor) : Except Fault (BlockHeader × Cursor) :=
  let (header, cur) := blockSigns cur
  if header.indentation = some 0 then .error .illFormed
  else if cur.peek = some ' ' || isBreakOrEnd cur.peek then do
    return (header, ← ignoredLine cur)
  else .error .illFormed

/-- The empty lines in front of a block scalar and the indentation that they show. -/
structure Lead where
  breaks : List Char
  /-- The column at which the first empty line ends. -/
  first : Option Nat
  /-- The greatest column reached. -/
  deepest : Nat
  after : Cursor

/-- Reads the empty lines in front of a block scalar whose indentation is not stated. -/
def blockLead (fuel : Nat) (lead : Lead) : Lead :=
  match fuel with
  | 0 => lead
  | fuel + 1 =>
    let cur := lead.after
    if cur.peek = some ' ' then
      blockLead fuel { lead with deepest := max lead.deepest cur.next.column, after := cur.next }
    else
      match cur.lineBreak? with
      | some (c, after) =>
        blockLead fuel
          { lead with
            breaks := lead.breaks ++ [c]
            first := lead.first.or (some cur.column)
            after := after }
      | none => lead

/-- Reads spaces up to a column. -/
def indentTo (fuel : Nat) (column : Int) (cur : Cursor) : Cursor :=
  match fuel with
  | 0 => cur
  | fuel + 1 =>
    if (cur.column : Int) < column && cur.peek = some ' ' then indentTo fuel column cur.next
    else cur

/-- Reads empty lines within a block scalar, and the indentation of the line behind them. -/
def blockBreaks (fuel : Nat) (column : Int) (read : List Char) (cur : Cursor) :
    List Char × Cursor :=
  match fuel with
  | 0 => (read, cur)
  | fuel + 1 =>
    let cur := indentTo cur.fuel column cur
    match cur.lineBreak? with
    | some (c, cur) => blockBreaks fuel column (read ++ [c]) cur
    | none => (read, cur)

/-- A block scalar up to the end of a line: its text, the last character first, the break that ends
the line, and the breaks of the empty lines behind it. -/
structure BlockText where
  reversed : List Char
  lineBreak : List Char
  breaks : List Char
  after : Cursor

/-- What stands between two lines of a block scalar. -/
def betweenLines (folded : Bool) (lineBreak : List Char) (more : List Char) (straight : Bool) :
    List Char :=
  if folded && lineBreak = ['\n'] && straight then (if more.isEmpty then [' '] else [])
  else lineBreak

/-- A character that does not indent a line further. -/
def isStraight (c : Option Char) : Bool := c ≠ some ' ' && c ≠ some '\t'

def blockLines (fuel : Nat) (folded atMargin : Bool) (column : Int) (read : BlockText) :
    BlockText :=
  match fuel with
  | 0 => read
  | fuel + 1 =>
    let cur := read.after
    if (cur.column : Int) ≠ column || cur.peek.isNone then read
    else
      let (line, after) := cur.span fun c => !isLineEnd c
      let (lineBreak, after) :=
        match after.lineBreak? with
        | some (c, after) => ([c], after)
        | none => ([], after)
      let (breaks, after) := blockBreaks after.fuel column [] after
      let reversed := line.reverse ++ read.breaks.reverse ++ read.reversed
      let ended :=
        (atMargin && after.column = 0 && after.hasDocumentMark) ||
          (after.column : Int) ≠ column || after.peek.isNone
      if ended then ⟨reversed, lineBreak, breaks, after⟩
      else
        let straight := isStraight cur.peek && isStraight after.peek
        blockLines fuel folded atMargin column
          ⟨(betweenLines folded lineBreak breaks straight).reverse ++ reversed, lineBreak, breaks,
            after⟩

/-- The text of a block scalar with its last breaks as the header asks. -/
def BlockText.chomped (t : BlockText) : Chomping → List Char
  | .strip => t.reversed.reverse
  | .clip => t.reversed.reverse ++ t.lineBreak
  | .keep => t.reversed.reverse ++ t.lineBreak ++ t.breaks

/-- Reads a block scalar after its first character. The lines are indented by more than the
collection around them, as far as the first line or as the header says. -/
def blockText (folded : Bool) (indent : Int) (cur : Cursor) :
    Except Fault (List Char × Cursor) := do
  let (header, cur) ← blockHeader cur
  let fuel := cur.fuel
  match header.indentation with
  | none =>
    let lead := blockLead fuel ⟨[], none, 0, cur⟩
    if lead.first.any fun n => 0 < n && n < lead.deepest then throw .illFormed
    else
      let t := blockLines fuel folded (indent + 1 = 0) (max (indent + 1) lead.deepest)
        ⟨[], [], lead.breaks, lead.after⟩
      return (t.chomped header.chomping, t.after)
  | some n =>
    let least := max (indent + 1) 1
    let (breaks, after) := blockBreaks fuel (least + n - 1) [] cur
    let t := blockLines fuel folded false (least + n - 1) ⟨[], [], breaks, after⟩
    return (t.chomped header.chomping, t.after)

end EndpointUpgrade.Yaml
