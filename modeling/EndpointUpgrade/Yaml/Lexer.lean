import EndpointUpgrade.Yaml.Directive

/-!
# From YAML text to tokens

The text is read token by token. A collection in block style begins where the indentation grows and
ends where it shrinks. Whether a node is a key shows only at the colon behind it; until then its
place is remembered, and the colon puts the sign of a key in front of it. Such a key ends on the
line it begins on and is no longer than 1024 characters.

Reading goes on to the end of the text or to the first fault. Tokens that might still have turned
out to be keys when the fault was met are dropped: nothing follows the fault.
-/

namespace EndpointUpgrade.Yaml

/-- The two brackets of flow collections. -/
inductive Bracket where
  | square
  | curly
deriving DecidableEq, Repr

/-- A node that may turn out to be a key. -/
structure Candidate where
  /-- The number of open brackets around it. -/
  level : Nat
  /-- The number of tokens in front of it that are held back. -/
  number : Nat
  /-- Nothing but a key can begin at its place. -/
  required : Bool
  index : Nat
  line : Nat
  column : Nat
deriving DecidableEq, Repr

/-- The state between two tokens. -/
structure Lexer where
  cursor : Cursor
  /-- The tokens that are held back, the last one first: all from that of the first candidate on. -/
  tokens : List Token
  /-- The open brackets, the innermost first. -/
  brackets : List Bracket
  /-- The column of the innermost block collection, and those of the ones around it. -/
  indent : Int
  indents : List Int
  /-- A key may begin here. -/
  keyAllowed : Bool
  candidates : List Candidate
  version : Version
deriving Repr

namespace Lexer

def start (cs : List Char) : Lexer :=
  ⟨.start cs, [], [], -1, [], true, [], .v1_2⟩

/-- The number of open brackets. -/
def level (s : Lexer) : Nat := s.brackets.length

def inBlock (s : Lexer) : Bool := s.brackets.isEmpty

def peek (s : Lexer) : Option Char := s.cursor.peek

/-- Adds a token that begins at the cursor. -/
def emit (s : Lexer) (kind : TokenKind) : Lexer :=
  { s with tokens := ⟨kind, s.cursor.line⟩ :: s.tokens }

/-- Adds a token in front of the token of the given number among those that are held back. -/
def insertAt (s : Lexer) (number line : Nat) (kind : TokenKind) : Lexer :=
  let (later, earlier) := s.tokens.splitAt (s.tokens.length - number)
  { s with tokens := later ++ ⟨kind, line⟩ :: earlier }

def moveTo (s : Lexer) (cur : Cursor) : Lexer := { s with cursor := cur }

/-- Says whether a key may begin here. -/
def allowKey (s : Lexer) (allowed : Bool) : Lexer := { s with keyAllowed := allowed }

/-- A candidate whose line has ended or that is too long is no key. -/
def isStale (s : Lexer) (k : Candidate) : Bool :=
  k.line ≠ s.cursor.line || 1024 < s.cursor.index - k.index

def dropStale (s : Lexer) : Except Fault Lexer :=
  if s.candidates.any fun k => s.isStale k && k.required then .error .illFormed
  else .ok { s with candidates := s.candidates.filter fun k => !s.isStale k }

/-- Drops the candidate within the innermost brackets. -/
def dropCandidate (s : Lexer) : Except Fault Lexer :=
  if s.candidates.any fun k => k.level = s.level && k.required then .error .illFormed
  else .ok { s with candidates := s.candidates.filter fun k => k.level ≠ s.level }

/-- Remembers the place of the next token as that of a candidate. -/
def addCandidate (s : Lexer) : Except Fault Lexer :=
  if s.keyAllowed then do
    let required := s.inBlock && s.indent = s.cursor.column
    let s ← s.dropCandidate
    return { s with
      candidates :=
        ⟨s.level, s.tokens.length, required, s.cursor.index, s.cursor.line, s.cursor.column⟩ ::
          s.candidates }
  else .ok s

/-- Ends the block collections that are indented further than a column. -/
def unwindFrom (column : Int) : List Int → Lexer → Lexer
  | [], s => s
  | outer :: rest, s =>
    if s.indent ≤ column then s
    else unwindFrom column rest ({ s with indent := outer, indents := rest }.emit .blockEnd)

/-- Ends the block collections that are indented further than a column. Within brackets there are
none. -/
def unwind (s : Lexer) (column : Int) : Lexer :=
  if s.inBlock then unwindFrom column s.indents s else s

/-- A block collection at a column begins here, if it is indented further than the one around. -/
def deepens (s : Lexer) (column : Nat) : Bool := s.indent < column

/-- Begins a block collection at a column. -/
def deepen (s : Lexer) (column : Nat) : Lexer :=
  { s with indent := column, indents := s.indent :: s.indents }

/-- Begins a block collection at the cursor unless one has begun at its column. -/
def openBlock (s : Lexer) (kind : TokenKind) : Lexer :=
  if s.deepens s.cursor.column then (s.deepen s.cursor.column).emit kind else s

/-- Skips space, comments and line ends. Outside brackets, a tab is no space, and a key may begin
on the next line. -/
def skipToToken (fuel : Nat) (s : Lexer) : Lexer :=
  match fuel with
  | 0 => s
  | fuel + 1 =>
    let cur := s.cursor.skipWhile fun c => c = ' ' || (c = '\t' && !s.inBlock)
    let cur := if cur.peek = some '#' then cur.skipLine else cur
    match cur.lineBreak? with
    | some (_, cur) => skipToToken fuel ((s.moveTo cur).allowKey (s.keyAllowed || s.inBlock))
    | none => s.moveTo cur

/-- Skips a byte order mark in front of the text. -/
def skipMark (s : Lexer) : Lexer :=
  if s.cursor.index = 0 && s.peek = some '\uFEFF' then s.moveTo s.cursor.next else s

/-! ## One token -/

def fetchEnd (s : Lexer) : Except Fault Lexer := do
  let s ← (s.unwind (-1)).dropCandidate
  return { s.emit .streamEnd with keyAllowed := false, candidates := [] }

/-- A directive. A directive of the version changes how the rest is read. -/
def fetchDirective (s : Lexer) : Except Fault Lexer := do
  let s ← (s.unwind (-1)).dropCandidate
  let (kind, cur) ← directive s.version s.cursor
  let version :=
    match kind with
    | .versionDirective 1 1 => Version.v1_1
    | .versionDirective _ _ => Version.v1_2
    | _ => s.version
  return { ((s.allowKey false).emit kind).moveTo cur with version := version }

def fetchDocumentMark (s : Lexer) (kind : TokenKind) : Except Fault Lexer := do
  let s ← (s.unwind (-1)).dropCandidate
  return ((s.allowKey false).emit kind).moveTo (s.cursor.skip 3)

def fetchOpening (s : Lexer) (bracket : Bracket) (kind : TokenKind) : Except Fault Lexer := do
  let s ← s.addCandidate
  return ((({ s with brackets := bracket :: s.brackets }).allowKey true).emit kind).moveTo
    s.cursor.next

def fetchClosing (s : Lexer) (kind : TokenKind) : Except Fault Lexer := do
  let s ← s.dropCandidate
  return ((({ s with brackets := s.brackets.tail }).allowKey false).emit kind).moveTo s.cursor.next

/-- A comma within brackets. -/
def fetchFlowEntry (s : Lexer) : Except Fault Lexer := do
  let s ← s.dropCandidate
  return ((s.allowKey true).emit .flowEntry).moveTo s.cursor.next

def fetchBlockEntry (s : Lexer) : Except Fault Lexer := do
  if s.inBlock && !s.keyAllowed then throw .illFormed
  else
    let s := if s.inBlock then s.openBlock .blockSequenceStart else s
    let s ← s.dropCandidate
    return ((s.allowKey true).emit .blockEntry).moveTo s.cursor.next

def fetchKey (s : Lexer) : Except Fault Lexer := do
  if s.inBlock && !s.keyAllowed then throw .illFormed
  else
    let s := if s.inBlock then s.openBlock .blockMappingStart else s
    let s ← s.dropCandidate
    return ((s.allowKey s.inBlock).emit .key).moveTo s.cursor.next

/-- The sign of a value: behind a candidate, which it makes a key, or on its own. -/
def fetchValue (s : Lexer) : Except Fault Lexer := do
  match s.candidates.find? fun k => k.level = s.level with
  | some k =>
    let s := { s with candidates := s.candidates.filter fun k => k.level ≠ s.level }
    let s := s.insertAt k.number k.line .key
    let s :=
      if s.inBlock && s.deepens k.column then
        (s.deepen k.column).insertAt k.number k.line .blockMappingStart
      else s
    return ((s.allowKey false).emit .value).moveTo s.cursor.next
  | none =>
    if s.inBlock && !s.keyAllowed then throw .illFormed
    else
      let s := if s.inBlock then s.openBlock .blockMappingStart else s
      let s ← s.dropCandidate
      return ((s.allowKey s.inBlock).emit .value).moveTo s.cursor.next

/-- A token that may be, or begin, a key. -/
def fetchKeyPart (s : Lexer) (read : Cursor → Except Fault (TokenKind × Cursor)) :
    Except Fault Lexer := do
  let s ← s.addCandidate
  let (kind, cur) ← read s.cursor
  return ((s.allowKey false).emit kind).moveTo cur

def readAnchor (cur : Cursor) : Except Fault (TokenKind × Cursor) := do
  let (name, cur) ← anchorName cur.next
  return (.anchor name, cur)

def readAlias (cur : Cursor) : Except Fault (TokenKind × Cursor) := do
  let (name, cur) ← anchorName cur.next
  return (.alias name, cur)

def readQuoted (double : Bool) (cur : Cursor) : Except Fault (TokenKind × Cursor) := do
  let (cs, cur) ← quotedText double cur.next
  return (.scalar (String.ofList cs) false, cur)

def fetchBlockScalar (s : Lexer) (folded : Bool) : Except Fault Lexer := do
  let s ← s.dropCandidate
  let (cs, cur) ← blockText folded s.indent s.cursor.next
  return ((s.allowKey true).emit (.scalar (String.ofList cs) false)).moveTo cur

/-- A plain scalar. A key may begin behind it if it ended together with its line. -/
def fetchPlain (s : Lexer) : Except Fault Lexer := do
  let s ← s.addCandidate
  let t := plainText (!s.inBlock) s.version (s.indent + 1) s.cursor
  return ((s.allowKey t.brokeLine).emit (.scalar (String.ofList t.reversed.reverse) true)).moveTo t.after

/-! ## Which token -/

/-- A colon is the sign of a value in front of space. Within brackets it may also stand close to
the value, except in front of a word in a sequence or after another sign of a value that waits
behind a candidate. -/
def isValueSign (s : Lexer) (waiting : Bool) : Bool :=
  let spaced := isBlankOrEnd (s.cursor.peekAt 1)
  match s.brackets with
  | [] => spaced
  | bracket :: _ =>
    if s.version = .v1_1 then true
    else
      match bracket with
      | .square => spaced
      | .curly =>
        if waiting && (s.tokens.head?.map (·.kind)) = some .value then spaced else true

/-- Characters that no plain scalar begins with, unless what follows allows it. -/
def isIndicator (c : Char) : Bool :=
  isBreak c ||
    [' ', '\t', '-', '?', ':', ',', '[', ']', '\x7b', '\x7d', '#', '&', '*', '!', '|', '>', '\'', '"',
      '%', '@', '\x60'].contains c

/-- A plain scalar begins here. -/
def startsPlain (s : Lexer) (c : Char) : Bool :=
  let next := s.cursor.peekAt 1
  !isIndicator c ||
    (!isBlankOrEnd next && (c = '-' || (s.inBlock && (c = '?' || c = ':')))) ||
    (s.version = .v1_2 && c = ':' && !s.inBlock && next ≠ some ' ' && next ≠ some '\t')

/-- Reads the token at the cursor. -/
def fetch (s : Lexer) (waiting : Bool) : Except Fault Lexer :=
  let cur := s.cursor
  let spaced := isBlankOrEnd (cur.peekAt 1)
  match cur.peek with
  | none => s.fetchEnd
  | some c =>
    if c = '%' && cur.column = 0 then s.fetchDirective
    else if cur.column = 0 && cur.hasMark '-' then s.fetchDocumentMark .documentStart
    else if cur.column = 0 && cur.hasMark '.' then s.fetchDocumentMark .documentEnd
    else if c = '[' then s.fetchOpening .square .flowSequenceStart
    else if c = '\x7b' then s.fetchOpening .curly .flowMappingStart
    else if c = ']' then s.fetchClosing .flowSequenceEnd
    else if c = '\x7d' then s.fetchClosing .flowMappingEnd
    else if c = ',' then s.fetchFlowEntry
    else if c = '-' && spaced then s.fetchBlockEntry
    else if c = '?' && (spaced || !s.inBlock) then s.fetchKey
    else if c = ':' && s.isValueSign waiting then s.fetchValue
    else if c = '*' then s.fetchKeyPart readAlias
    else if c = '&' then s.fetchKeyPart readAnchor
    else if c = '!' then s.fetchKeyPart (tagToken s.version)
    else if c = '|' && s.inBlock then s.fetchBlockScalar false
    else if c = '>' && s.inBlock then s.fetchBlockScalar true
    else if c = '\'' then s.fetchKeyPart (readQuoted false)
    else if c = '"' then s.fetchKeyPart (readQuoted true)
    else if s.startsPlain c then s.fetchPlain
    else .error .illFormed

/-- Skips to the next token and reads it. -/
def advance (s : Lexer) : Except Fault Lexer := do
  let waiting := !s.candidates.isEmpty
  let s := skipToToken s.cursor.fuel s.skipMark
  let s ← s.dropStale
  (s.unwind s.cursor.column).fetch waiting

/-- The tokens held back that are certain, and a fault in place of those that might have been
keys. -/
def failed (s : Lexer) (fault : Fault) : List Token :=
  let certain := s.candidates.foldl (fun n k => min n k.number) s.tokens.length
  s.tokens.reverse.take certain ++ [⟨.fault fault, s.cursor.line⟩]

/-- Hands over the tokens that are held back, unless there are candidates. -/
def handOver (done : List Token) (s : Lexer) : List Token × Lexer :=
  if s.candidates.isEmpty then (s.tokens ++ done, { s with tokens := [] }) else (done, s)

/-- Reads tokens up to the end or to the first fault. Those handed over stand in `done`, the last one
first. -/
def run (fuel : Nat) (done : List Token) (s : Lexer) : List Token :=
  match fuel with
  | 0 => done.reverse ++ s.failed .illFormed
  | fuel + 1 =>
    match s.dropStale with
    | .error fault => done.reverse ++ s.failed fault
    | .ok s =>
      let (done, s) := handOver done s
      match s.advance with
      | .error fault => done.reverse ++ s.failed fault
      | .ok s =>
        if (s.tokens.head?.map (·.kind)) = some .streamEnd then (s.tokens ++ done).reverse
        else run fuel done s

end Lexer

def tokens (cs : List Char) : List Token := Lexer.run (cs.length + 2) [] (.start cs)

end EndpointUpgrade.Yaml
