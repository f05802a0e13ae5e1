import EndpointUpgrade.Yaml.Node

/-!
# From YAML tokens to documents

A text holds documents one after the other. A document begins with directives and a start sign; the
first one, and any after an end sign, may also begin with its content. A document without content
is an empty scalar.
-/

namespace EndpointUpgrade.Yaml

/-- The state between two documents. -/
structure Stream where
  tokens : List Token
  /-- The next document may begin with its content. -/
  bareAllowed : Bool
  version : Version

/-- The state in front of the first document. -/
def Stream.start (tokens : List Token) : Stream := ⟨tokens, true, .v1_2⟩

/-- Tokens that a document cannot begin with when it has no start sign. -/
def needsStartSign : TokenKind → Bool
  | .versionDirective .. => true
  | .tagDirective .. => true
  | .otherDirective => true
  | .documentStart => true
  | .streamEnd => true
  | _ => false

/-- Tokens that follow a document, so that one in front of them has no content. -/
def endsDocument (kind : TokenKind) : Bool := kind = .documentEnd || needsStartSign kind

/-- The directives of a document. -/
structure Directives where
  version : Option Version
  handles : List (String × String)

/-- Reads directives. Each handle is declared once and the version at most once, with one as its
first number. -/
def readDirectives (fuel : Nat) (read : Directives) : Read Directives :=
  match fuel with
  | 0 => throw .illFormed
  | fuel + 1 => do
    match ← peekKind with
    | .versionDirective major minor =>
      dropToken
      if read.version.isSome || major ≠ 1 then throw .illFormed
      else
        readDirectives fuel { read with version := some (if minor = 1 then .v1_1 else .v1_2) }
    | .tagDirective handle expansion =>
      dropToken
      if (read.handles.lookup handle).isSome then throw .illFormed
      else readDirectives fuel { read with handles := (handle, expansion) :: read.handles }
    | .otherDirective => dropToken; readDirectives fuel read
    | _ => return read

def dropDocumentEnds (fuel : Nat) : Read Unit :=
  match fuel with
  | 0 => throw .illFormed
  | fuel + 1 => do
    if (← peekKind) = .documentEnd then
      dropToken
      dropDocumentEnds fuel

/-- Reads an end sign, if there is one. Nothing but a comment may follow it on its line. -/
def readDocumentEnd : Read Bool := do
  let t ← peekToken
  if t.kind ≠ .documentEnd then return false
  else
    dropToken
    let follower ← peekToken
    if follower.kind ≠ .streamEnd && follower.line = t.line then throw .illFormed
    else return true

/-- A document and what holds for it, or the end of the text. -/
abbrev DocumentNode := Option (Node × Version)

def readDocument (fuel : Nat) (bareAllowed : Bool) (version : Version) :
    Read (DocumentNode × Bool) := do
  if bareAllowed && !needsStartSign (← peekKind) then
    let node ← readNode fuel ⟨version, defaultHandles⟩ .block
    return (some (node, version), ← readDocumentEnd)
  else
    dropDocumentEnds fuel
    if (← peekKind) = .streamEnd then return (none, false)
    else
      let directives ← readDirectives fuel ⟨none, []⟩
      expect .documentStart
      let setting : Setting :=
        ⟨directives.version.getD version, directives.handles ++ defaultHandles⟩
      let node ←
        if endsDocument (← peekKind) then pure emptyNode else readNode fuel setting .block
      return (some (node, setting.version), ← readDocumentEnd)

/-- Reads the next document, and the state behind it. -/
def Stream.next (s : Stream) : Except Fault (DocumentNode × Stream) := do
  let fuel := 4 * s.tokens.length + 8
  let ((document, ended), r) ← (readDocument fuel s.bareAllowed s.version).run ⟨s.tokens, []⟩
  let version := (document.map (·.2)).getD s.version
  return (document, ⟨r.tokens, ended && version = .v1_2, version⟩)

end EndpointUpgrade.Yaml
