import EndpointUpgrade.Yaml.ScalarText

/-!
# Names in YAML texts

Anchors and aliases, tags, and directives: the tokens that are made of names.
-/

namespace EndpointUpgrade.Yaml

open Text

def isAlphanumeric (c : Char) : Bool :=
  isDigit c || ('a' ≤ c && c ≤ 'z') || ('A' ≤ c && c ≤ 'Z')

/-- A character of the name of an anchor: any visible one but the signs of flow collections. -/
def isAnchorChar (c : Char) : Bool :=
  if [',', '[', ']', '\x7b', '\x7d'].contains c then false
  else
    ('\x21' ≤ c && c ≤ '\x7E') || ('\xA0' ≤ c && c ≤ '\uD7FF') ||
      ('\uE000' ≤ c && c ≤ '\uFFFD' && c ≠ '\uFEFF') || 0x10000 ≤ c.toNat

def endsAnchor : Option Char → Bool
  | none => true
  | some c =>
    isBreak c || [' ', '\t', '?', ':', ',', '[', ']', '\x7b', '\x7d', '%', '@', '\x60'].contains c

/-- Reads the name behind the sign of an anchor or an alias. -/
def anchorName (cur : Cursor) : Except Fault (String × Cursor) :=
  let (name, after) := cur.span isAnchorChar
  if name.isEmpty || !endsAnchor after.peek then .error .illFormed
  else .ok (String.ofList name, after)

def isTagChar (version : Version) (c : Char) : Bool :=
  isAlphanumeric c ||
    ['-', ';', '/', '?', ':', '@', '&', '=', '+', '$', ',', '_', '.', '!', '~', '*', '\'', '(', ')',
      '[', ']'].contains c ||
    (c = '#' && version = .v1_2)

/-- Reads escaped bytes, each a percent sign and two hexadecimal digits. -/
def escapedBytes (fuel : Nat) (read : List UInt8) (cur : Cursor) :
    Except Fault (List UInt8 × Cursor) :=
  match fuel with
  | 0 => .error .illFormed
  | fuel + 1 =>
    if cur.peek ≠ some '%' then .ok (read.reverse, cur)
    else
      match codePoint 2 cur.next with
      | .ok (n, cur) => escapedBytes fuel (UInt8.ofNat n :: read) cur
      | .error fault => .error fault

def tagChars (fuel : Nat) (version : Version) (read : List Char) (cur : Cursor) :
    Except Fault (List Char × Cursor) :=
  match fuel with
  | 0 => .error .illFormed
  | fuel + 1 =>
    let (run, cur) := cur.span (isTagChar version)
    if cur.peek ≠ some '%' then .ok (read ++ run, cur)
    else
      match escapedBytes cur.fuel [] cur with
      | .ok (bytes, cur) =>
        match String.fromUTF8? ⟨bytes.toArray⟩ with
        | some s => tagChars fuel version (read ++ run ++ s.toList) cur
        | none => .error .illFormed
      | .error fault => .error fault

def tagText (version : Version) (cur : Cursor) : Except Fault (String × Cursor) := do
  let (cs, after) ← tagChars cur.fuel version [] cur
  if after.index = cur.index then throw .illFormed
  else return (String.ofList cs, after)

/-- Reads the handle of a tag: an exclamation mark, or a name between two of them. -/
def tagHandle (cur : Cursor) : Except Fault (String × Cursor) :=
  if cur.peek ≠ some '!' then .error .illFormed
  else if cur.peekAt 1 = some ' ' then .ok ("!", cur.next)
  else
    let (name, after) := cur.next.span fun c => isAlphanumeric c || c = '-' || c = '_'
    if after.peek ≠ some '!' then .error .illFormed
    else .ok (String.ofList ('!' :: name ++ ['!']), after.next)

/-- A tag has a handle with a second exclamation mark if one stands in front of the next space or
line end. -/
def hasNamedHandle (cur : Cursor) : Bool :=
  (cur.rest.takeWhile fun c => c ≠ ' ' && !isBreak c).contains '!'

/-- Reads a tag at its exclamation mark: its handle, if it has one, and the rest of it. -/
def tagToken (version : Version) (cur : Cursor) : Except Fault (TokenKind × Cursor) := do
  let (tag, after) ←
    match cur.peekAt 1 with
    | some '<' => do
      let (suffix, after) ← tagText version (cur.skip 2)
      if after.peek ≠ some '>' then throw .illFormed
      else pure (TokenKind.tag none suffix, after.next)
    | c =>
      if isBlankOrEnd c then pure (TokenKind.tag none "!", cur.next)
      else do
        let (handle, after) ← if hasNamedHandle cur.next then tagHandle cur else pure ("!", cur.next)
        let (suffix, after) ← tagText version after
        pure (TokenKind.tag (some handle) suffix, after)
  if after.peek = some ' ' || isBreakOrEnd after.peek then return (tag, after)
  else throw .illFormed

def versionNumber (cur : Cursor) : Except Fault (Nat × Cursor) :=
  let (ds, after) := cur.span isDigit
  match readDigits 10 ds with
  | some n => if 4300 < ds.length then .error (.tooManyDigits ds.length) else .ok (n, after)
  | none => .error .illFormed

/-- Reads what a directive of the given name says. -/
def directiveBody (version : Version) (name : String) (cur : Cursor) :
    Except Fault (TokenKind × Cursor) :=
  if name = "YAML" then do
    let (major, cur) ← versionNumber cur.skipSpaces
    if cur.peek ≠ some '.' then throw .illFormed
    else
      let (minor, cur) ← versionNumber cur.next
      if cur.peek = some ' ' || isBreakOrEnd cur.peek then
        return (.versionDirective major minor, cur)
      else throw .illFormed
  else if name = "TAG" then do
    let (handle, cur) ← tagHandle cur.skipSpaces
    if cur.peek ≠ some ' ' then throw .illFormed
    else
      let (expansion, cur) ← tagText version cur.skipSpaces
      if cur.peek = some ' ' || isBreakOrEnd cur.peek then
        return (.tagDirective handle expansion, cur)
      else throw .illFormed
  else .ok (.otherDirective, cur.skipLine)

/-- Reads a directive at its percent sign, with the rest of its line. -/
def directive (version : Version) (cur : Cursor) : Except Fault (TokenKind × Cursor) := do
  let (name, cur) := cur.next.span fun c =>
    isAlphanumeric c || c = '-' || c = '_' || c = ':' || c = '.'
  if name.isEmpty || !(cur.peek = some ' ' || isBreakOrEnd cur.peek) then throw .illFormed
  else
    let (token, cur) ← directiveBody version (String.ofList name) cur
    return (token, ← ignoredLine cur)

end EndpointUpgrade.Yaml
