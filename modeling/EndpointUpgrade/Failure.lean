import EndpointUpgrade.Endpoint.Stored
import EndpointUpgrade.Endpoint.V1
import EndpointUpgrade.Files.Tree
import EndpointUpgrade.Json
import EndpointUpgrade.Report
import EndpointUpgrade.Yaml.Fault

/-!
# Failures

Everything that can stop a run, by its cause. Most failures have a report; the others are refusals
of the file system, values without meaning in an otherwise well-formed file, a file that is nested
too deeply, a kind of document that is no key, a misuse of a value, and an integer that is too long
to be written.
-/

namespace EndpointUpgrade

open Files Text

/-- Why the text of a file could not be read. -/
inductive Unparsable where
  | encoding
  | json
  | yaml
deriving DecidableEq, Repr

def Unparsable.wording : Unparsable → String
  | .encoding => "the text is not UTF-8"
  | .json => "the text is not JSON"
  | .yaml => "the text is not YAML"

/-- A cause for which a run stops. -/
inductive Failure where
  /-- An identifier that cannot be decoded. -/
  | malformed (reason : Identity.Malformed)
  /-- A file that does not exist. -/
  | fileMissing (path : Path)
  /-- A file that is neither YAML nor JSON by its suffix. -/
  | unknownSuffix (path : Path)
  | unparsable (path : Path) (reason : Unparsable)
  /-- A document that is no mapping, and its position in the file. -/
  | noMapping (path : Path) (position : Nat)
  /-- A document of a kind that is not converted. -/
  | unsupportedKind (kind : Value)
  /-- A document of another version than its kind asks for. -/
  | unsupportedVersion (version : Value) (kind : String)
  /-- A document whose body is no record of its kind. -/
  | invalidBody (kind : String) (rejection : Reading.Rejection)
  /-- A source that does not exist. -/
  | sourceMissing (path : Path)
  /-- A source that is no file. -/
  | sourceNoFile (path : Path)
  /-- An output that is not YAML by its suffix. -/
  | outputSuffix (path : Path)
  | system (fault : SystemFault)
  /-- A scalar of a YAML file without a value. -/
  | yamlValue (fault : Yaml.Fault)
  /-- An integer of a JSON file with more digits than the limit for conversions. -/
  | jsonDigits (count : Nat)
  /-- A file whose nesting is too deep for the stack of its parser, and what it was at. -/
  | tooDeep (during : String)
  /-- A kind of document that cannot be looked up. -/
  | unkeyableKind (part : Value.Unkeyable)
  /-- A value in a body that was used as what it is not. -/
  | misused (how : Value.Misuse)
  /-- An integer that has too many digits to be written. -/
  | longInteger
deriving Repr

namespace Failure

/-- The kinds of document that are converted, in the order of messages. -/
def supportedKinds : List String := [Endpoint.Stored.kind, Endpoint.V1.kind]

/-- The suffixes of files that are read, in the order of messages. -/
def supportedSuffixes : List String := [".json", ".yaml", ".yml"]

def issueText (i : Reading.Issue) : String :=
  ".".intercalate (i.path.map stepText) ++ ": " ++ i.fault.message
where
  /-- One step of a path. -/
  stepText : Reading.Step → String
    | .field name => name
    | .index n => integerText n

def report? : Failure → Option Report
  | .malformed reason => some (.ofMalformed reason)
  | .fileMissing path => some (.documentLoad ("File not found: " ++ path.text) (some path.text))
  | .unknownSuffix path =>
    some (.documentLoad
      ("Unsupported extension '" ++ path.suffix ++ "'. Supported: " ++
        ", ".intercalate supportedSuffixes) (some path.text))
  | .unparsable path reason =>
    some (.documentLoad ("Cannot parse " ++ path.name ++ ": " ++ reason.wording) (some path.text))
  | .noMapping path position =>
    some (.documentLoad
      ("Document #" ++ decimalText position ++ " of " ++ path.name ++ " must be a mapping")
      (some path.text))
  | .unsupportedKind kind =>
    some (.unsupportedDocument
      ("Unsupported document kind '" ++ kind.display ++ "'. Supported: " ++
        ", ".intercalate supportedKinds) none)
  | .unsupportedVersion version kind =>
    some (.unsupportedDocument
      ("Unsupported apiVersion '" ++ version.display ++ "' for kind '" ++ kind ++
        "'. Expected: " ++ Endpoint.V1.apiVersion) none)
  | .invalidBody kind rejection =>
    some (.documentLoad
      ("Invalid " ++ kind ++ " document: " ++
        "; ".intercalate (rejection.issues.map issueText)) none)
  | .sourceMissing path =>
    some (.validation ("Source file does not exist: " ++ path.text) (some "source") none)
  | .sourceNoFile path =>
    some (.validation ("Source path is not a file: " ++ path.text) (some "source") none)
  | .outputSuffix path =>
    some (.validation
      ("Output file must have .yaml or .yml extension, got: " ++ path.suffix)
      (some "output_file") (some path.text))
  | .system _ => none
  | .yamlValue _ => none
  | .jsonDigits _ => none
  | .tooDeep _ => none
  | .unkeyableKind _ => none
  | .misused _ => none
  | .longInteger => none

def text (f : Failure) : String :=
  match f.report?, f with
  | some report, _ => report.text
  | none, .system fault => fault.message
  | none, .yamlValue fault => fault.message
  | none, .jsonDigits count => (Yaml.Fault.tooManyDigits count).message
  | none, .tooDeep during => "maximum recursion depth exceeded" ++ during
  | none, .unkeyableKind part => (Value.Misuse.key part).message
  | none, .misused how => how.message
  | none, .longInteger =>
    "Exceeds the limit (" ++ decimalText longestDecimal ++ " digits) for integer string " ++
      "conversion; use sys.set_int_max_str_digits() to increase the limit"
  | none, _ => ""

end Failure

end EndpointUpgrade
