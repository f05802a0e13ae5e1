import EndpointUpgrade.Yaml.Meaning
import EndpointUpgrade.Yaml.Stream

/-!
# YAML texts

Reading a YAML text as the values of its documents, one after the other: a document is read, given
its value, and only then the next one is looked at. Documents without a value are left out. A text
with a character that is neither visible nor white space is ill-formed as a whole. How deeply the
collections of a text are nested can be seen from its tokens, unless there are aliases.
-/

namespace EndpointUpgrade.Yaml

def isAllowed (c : Char) : Bool :=
  c = '\t' || c = '\n' || c = '\r' || ('\x20' ≤ c && c ≤ '\x7E') || c = '\x85' ||
    ('\xA0' ≤ c && c ≤ '\uFFFD') || 0x10000 ≤ c.toNat

def Stream.values (fuel : Nat) (s : Stream) : Except Fault (List Value) :=
  match fuel with
  | 0 => .error .illFormed
  | fuel + 1 => do
    match ← s.next with
    | (none, _) => return []
    | (some (node, version), s) =>
      let value ← node.toValue version
      let rest ← s.values fuel
      match value with
      | .null => return rest
      | value => return value :: rest

def read (text : String) : Except Fault (List Value) :=
  let cs := text.toList
  if cs.all isAllowed then
    let ts := tokens cs
    (Stream.start ts).values (ts.length + 1)
  else .error .illFormed

/-! ## Nesting -/

def TokenKind.opens : TokenKind → Bool
  | .blockSequenceStart | .blockMappingStart | .flowSequenceStart | .flowMappingStart => true
  | _ => false

def TokenKind.closes : TokenKind → Bool
  | .blockEnd | .flowSequenceEnd | .flowMappingEnd => true
  | _ => false

def TokenKind.isAlias : TokenKind → Bool
  | .alias _ => true
  | _ => false

/-- The greatest number of collections that are open at once, some being open at the start. -/
def openAtOnce (opened : Nat) : List TokenKind → Nat
  | [] => opened
  | k :: rest =>
    max opened (openAtOnce
      (if k.opens then opened + 1 else if k.closes then opened - 1 else opened) rest)

/-- Without aliases, and with at most sixteen collections within each other. -/
def isShallow (text : String) : Bool :=
  let kinds := (tokens text.toList).map (·.kind)
  openAtOnce 0 kinds ≤ 16 && kinds.all (!·.isAlias)

end EndpointUpgrade.Yaml
