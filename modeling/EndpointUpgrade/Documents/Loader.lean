import EndpointUpgrade.Documents.Reader
import EndpointUpgrade.Text.LowerCase
import EndpointUpgrade.Yaml.Text

/-!
# Documents from files

A file is read as YAML or JSON by its suffix, in any letter case. A YAML file holds documents one
after the other; a JSON file holds one document or a list of them. Every document is a mapping. How
deeply a file may be nested depends on what the stack of the process has room for, and the order in
which the members of a set are gone through depends on the process as well.
-/

namespace EndpointUpgrade.Documents

open Files Text

inductive FileFormat where
  | yaml
  | json
deriving DecidableEq, Repr

def FileFormat.ofSuffix? (suffix : String) : Option FileFormat :=
  let small := lower suffix
  if small = ".yaml" ∨ small = ".yml" then some .yaml
  else if small = ".json" then some .json
  else none

/-- What a run finds in its process. -/
structure Process where
  /-- The masks of networks that are known. -/
  masks : Net.Masks
  /-- How many levels of arrays and objects the stack has room for. -/
  jsonLevels : Nat
  /-- The YAML texts whose nesting the stack has no room for. -/
  exhausts : String → Bool
  roomy : ∀ text, Yaml.isShallow text = true → exhausts text = false
  /-- The order of the members of a set. -/
  order : List Value → List Value
  perm_order : ∀ members, (order members).Perm members

/-- A process that has read nothing yet, with a stack of the usual size. -/
def Process.fresh : Process where
  masks := .empty
  jsonLevels := 991
  exhausts text := 480 < Yaml.openAtOnce 0 ((Yaml.tokens text.toList).map (·.kind))
  roomy text h := by
    rw [Yaml.isShallow, Bool.and_eq_true, decide_eq_true_iff] at h
    exact decide_eq_false (by omega)
  order := id
  perm_order := .refl

/-- A text with every line end as a line feed. -/
def unixLines : List Char → List Char
  | [] => []
  | '\r' :: '\n' :: rest => '\n' :: unixLines rest
  | c :: rest => (if c = '\r' then '\n' else c) :: unixLines rest

def decode (content : List UInt8) : Option String :=
  (String.fromUTF8? ⟨content.toArray⟩).map fun s => String.ofList (unixLines s.toList)

/-- The failure of reading a JSON text that is nested too deeply. -/
def tooDeepJson (kind : String) : Failure :=
  .tooDeep (" while decoding a JSON " ++ kind ++ " from a unicode string")

def jsonDocuments (process : Process) (path : Path) (text : String) :
    Except Failure (List Value) :=
  match Json.read process.jsonLevels text with
  | .ok (.list items) => .ok items
  | .ok v => .ok [v]
  | .error .malformed => .error (.unparsable path .json)
  | .error (.tooManyDigits count) => .error (.jsonDigits count)
  | .error (.tooDeep kind) => .error (tooDeepJson kind)

def yamlDocuments (process : Process) (path : Path) (text : String) :
    Except Failure (List Value) :=
  if process.exhausts text then .error (.tooDeep "")
  else
    match Yaml.read text with
    | .ok vs => .ok (Value.allArranged process.order vs)
    | .error .illFormed => .error (.unparsable path .yaml)
    | .error fault => .error (.yamlValue fault)

def parse (process : Process) (path : Path) (format : FileFormat) (content : List UInt8) :
    Except Failure (List Value) :=
  match decode content with
  | none => .error (.unparsable path .encoding)
  | some text =>
    match format with
    | .yaml => yamlDocuments process path text
    | .json => jsonDocuments process path text

/-- The entries of documents from a position on, each of which is a mapping. -/
def mappings (path : Path) (position : Nat) : List Value → Except Failure (List Entries)
  | [] => .ok []
  | .map entries :: rest => do return entries :: (← mappings path (position + 1) rest)
  | _ => .error (.noMapping path position)

def fileDocuments (process : Process) (tree : Tree) (path : Path) :
    Except Failure (List Entries) :=
  match FileFormat.ofSuffix? path.suffix with
  | none => .error (.unknownSuffix path)
  | some format =>
    match tree.contentAt path with
    | .error fault => .error (.system fault)
    | .ok content => do mappings path 0 (← parse process path format content)

/-- Loads the documents of a file, and notes how many they are or that there is no file. -/
def load (process : Process) (tree : Tree) (path : Path) :
    Logged (Except Failure (List Entries)) :=
  match tree.entry? path with
  | .error fault => Logged.failure (.system fault)
  | .ok none =>
    ⟨.error (.fileMissing path), [⟨.error, .loader, "File not found: " ++ path.text⟩]⟩
  | .ok (some _) =>
    match fileDocuments process tree path with
    | .error failure => Logged.failure failure
    | .ok documents =>
      Logged.noted
        ⟨.debug, .loader,
          "Loaded " ++ decimalText documents.length ++ " document(s) from " ++ path.text⟩
        documents

end EndpointUpgrade.Documents
