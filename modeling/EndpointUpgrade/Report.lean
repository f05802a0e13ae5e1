import EndpointUpgrade.Identity.Name

/-!
# Reports

What the program says when it gives up for a reason of its own: a message with a code and with
context, and for some kinds of report a hint on what to do.
-/

namespace EndpointUpgrade

/-- The kinds of report. An unsupported document is a special case of a document that cannot be
loaded. -/
inductive ReportKind where
  | conversion
  | malformedIdentifier
  | documentLoad
  | unsupportedDocument
  | validation
deriving DecidableEq, Repr

namespace ReportKind

def name : ReportKind → String
  | conversion => "ConversionError"
  | malformedIdentifier => "MalformedIdentifierError"
  | documentLoad => "DocumentLoadError"
  | unsupportedDocument => "UnsupportedDocumentError"
  | validation => "ValidationError"

/-- Reports on documents that cannot be loaded. -/
def isDocumentLoad : ReportKind → Bool
  | documentLoad => true
  | unsupportedDocument => true
  | _ => false

end ReportKind

/-- A report: its bare message, its code, and what it is about. -/
structure Report where
  kind : ReportKind
  message : String
  code : Option String
  context : List (String × String)
deriving DecidableEq, Repr

namespace Report

/-- A pair of context, left out if its value is missing or empty. -/
def given (key : String) (value : Option String) : List (String × String) :=
  match value with
  | some v => if v = "" then [] else [(key, v)]
  | none => []

def malformedIdentifier (message identifier : String) : Report :=
  ⟨.malformedIdentifier, message, some "MALFORMED_IDENTIFIER", [("identifier", identifier)]⟩

/-- A report on a document that cannot be loaded, and the file it comes from. -/
def documentLoad (message : String) (source : Option String) : Report :=
  ⟨.documentLoad, message, some "DOCUMENT_LOAD_ERROR", given "source" source⟩

def unsupportedDocument (message : String) (source : Option String) : Report :=
  { documentLoad message source with kind := .unsupportedDocument }

/-- A report on an argument of the command line, with the argument's name and value. -/
def validation (message : String) (field value : Option String) : Report :=
  ⟨.validation, message, some "VALIDATION_ERROR",
    given "field_name" field ++ (value.map fun v => ("actual_value", v)).toList⟩

def contextText (context : List (String × String)) : String :=
  ", ".intercalate (context.map fun e => e.1 ++ "=" ++ e.2)

/-- The text of a report. That of a malformed identifier is the bare message. -/
def text (r : Report) : String :=
  if r.kind = .malformedIdentifier then r.message
  else
    let marked :=
      match r.code with
      | some code => if code = "" then r.message else "[" ++ code ++ "] " ++ r.message
      | none => r.message
    if r.context.isEmpty then marked
    else marked ++ " (Context: " ++ contextText r.context ++ ")"

/-- What to do about the reason of a report. -/
def hint? (r : Report) : Option String :=
  match r.kind with
  | .malformedIdentifier =>
    some ("Recreate the workload behind '" ++ (r.context.lookup "identifier").getD "" ++
      "' through the orchestrator integration, or skip this record")
  | .validation =>
    match r.context.lookup "field_name" with
    | some field => some ("Check the value given for '" ++ field ++ "'")
    | none => some "Check the command line arguments"
  | _ => none

/-- The report on an identifier or a name that cannot be decoded. -/
def ofMalformed (reason : Identity.Malformed) : Report :=
  malformedIdentifier reason.message reason.identifier

end Report

end EndpointUpgrade
