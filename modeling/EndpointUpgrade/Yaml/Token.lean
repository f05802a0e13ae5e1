import EndpointUpgrade.Yaml.Fault

/-!
# YAML tokens

The tokens between text and nodes. Block collections have a start token where a deeper indentation
begins and an end token where it ends; a key is announced in front of the node that it consists of.
-/

namespace EndpointUpgrade.Yaml

/-- The two versions of YAML that differ in how texts are read. -/
inductive Version where
  | v1_1
  | v1_2
deriving DecidableEq, Repr, Inhabited

inductive TokenKind where
  | versionDirective (major minor : Nat)
  | tagDirective (handle expansion : String)
  | otherDirective
  | documentStart
  | documentEnd
  | streamEnd
  | blockSequenceStart
  | blockMappingStart
  | blockEnd
  | flowSequenceStart
  | flowSequenceEnd
  | flowMappingStart
  | flowMappingEnd
  | blockEntry
  | flowEntry
  | key
  | value
  | anchor (name : String)
  | alias (name : String)
  | tag (handle : Option String) (suffix : String)
  | scalar (text : String) (plain : Bool)
  /-- The place from which on there are no tokens. -/
  | fault (fault : Fault)
deriving DecidableEq, Repr

/-- A token and the line on which it begins. -/
structure Token where
  kind : TokenKind
  line : Nat
deriving DecidableEq, Repr

end EndpointUpgrade.Yaml
