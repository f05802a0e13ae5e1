import EndpointUpgrade.CommandLine.Arguments
import EndpointUpgrade.Yaml.Printer

/-!
# Running the program

A run upgrades the documents of a file and writes them as YAML, to the standard output or to a file.
Nothing is written before every document has been converted. Writing itself goes record by record,
and ends at a record with an integer that is too long. The exit code says what went wrong, and the
log, on the standard error, says why.
-/

namespace EndpointUpgrade.CommandLine

open Documents Files Text

def yamlText (upgraded : List Upgraded) : String := Yaml.write (upgraded.map Upgraded.document)

/-- Checks the paths of a run. The source is a file, and the output has the suffix of YAML. -/
def checkPaths (tree : Tree) (source : Path) (output : Option Path) : Except Failure Unit :=
  match tree.entry? source with
  | .error fault => .error (.system fault)
  | .ok none => .error (.sourceMissing source)
  | .ok (some .directory) => .error (.sourceNoFile source)
  | .ok (some (.file _)) =>
    match output with
    | none => .ok ()
    | some path =>
      if FileFormat.ofSuffix? path.suffix = some .yaml then .ok () else .error (.outputSuffix path)

/-- What a run leaves behind. -/
structure Result where
  exitCode : Nat
  stdout : String
  log : List LogRecord
  tree : Tree

/-- A log record of the command line itself. -/
def say (level : Level) (message : String) : LogRecord := ⟨level, .commandLine, message⟩

/-- How a failure is announced, and the exit code that stands for it. -/
def verdict : Failure → String × Nat
  | .sourceMissing _ => ("Input validation failed: ", 1)
  | .sourceNoFile _ => ("Input validation failed: ", 1)
  | .outputSuffix _ => ("Input validation failed: ", 1)
  | .malformed _ => ("Malformed identifier: ", 3)
  | .system _ => ("File system error: ", 8)
  | .yamlValue _ => ("Unexpected error: ", 9)
  | .jsonDigits _ => ("Unexpected error: ", 9)
  | .tooDeep _ => ("Unexpected error: ", 9)
  | .unkeyableKind _ => ("Unexpected error: ", 9)
  | .misused _ => ("Unexpected error: ", 9)
  | .longInteger => ("Unexpected error: ", 9)
  | .fileMissing _ => ("Document load error: ", 2)
  | .unknownSuffix _ => ("Document load error: ", 2)
  | .unparsable .. => ("Document load error: ", 2)
  | .noMapping .. => ("Document load error: ", 2)
  | .unsupportedKind _ => ("Document load error: ", 2)
  | .unsupportedVersion .. => ("Document load error: ", 2)
  | .invalidBody .. => ("Document load error: ", 2)

/-- What is said about a failure: the failure itself, and a hint if its report has one. After an
unexpected one, a run for debugging announces a trace. -/
def failureRecords (debug : Bool) (failure : Failure) : List LogRecord :=
  say .error ((verdict failure).1 ++ failure.text) ::
    match failure.report?.bind Report.hint? with
    | some hint => [say .info ("Suggestion: " ++ hint)]
    | none =>
      if debug && (verdict failure).2 = 9 then [say .error "Full traceback:"] else []

/-- The records that are written: those in front of the first one that cannot be written. -/
def writtenPart (upgraded : List Upgraded) : List Upgraded :=
  upgraded.takeWhile fun u => u.document.isWritable

/-- Writing ends with a failure if not all records can be written. -/
def checkWritten (upgraded : List Upgraded) : Except Failure Unit :=
  if upgraded.all fun u => u.document.isWritable then .ok () else .error .longInteger

/-- What writing leaves behind: a file tree, a text on the standard output, and a failure if there
was one. -/
structure Delivery where
  tree : Tree
  stdout : String
  outcome : Except Failure Unit

/-- Writes converted records to their place, one after the other. The place is made first, and what
has been written before a failure stays. -/
def deliver (tree : Tree) (output : Option Path) (upgraded : List Upgraded) : Delivery :=
  let text := yamlText (writtenPart upgraded)
  match output with
  | none => ⟨tree, text, checkWritten upgraded⟩
  | some path =>
    match tree.saveFile path text.toUTF8.toList with
    | (tree, .ok ()) => ⟨tree, "", checkWritten upgraded⟩
    | (tree, .error fault) => ⟨tree, "", .error (.system fault)⟩

def failed (a : Arguments) (tree : Tree) (log : List LogRecord) (failure : Failure) :
    Result :=
  ⟨(verdict failure).2, "", log ++ failureRecords a.debug failure, tree⟩

/-- Upgrades the documents of a file. -/
def upgrade (process : Process) (a : Arguments) (tree : Tree) : Result :=
  match checkPaths tree a.source a.output with
  | .error failure => failed a tree [] failure
  | .ok () =>
    let upgraded := upgradeFile process tree a.source a.target
    match upgraded.result with
    | .error failure => failed a tree upgraded.log failure
    | .ok records =>
      let d := deliver tree a.output records
      match d.outcome with
      | .error failure => { failed a d.tree upgraded.log failure with stdout := d.stdout }
      | .ok () =>
        let saved :=
          match a.output with
          | some path => [say .info ("Upgraded documents saved to: " ++ path.text)]
          | none => []
        ⟨0, d.stdout, upgraded.log ++ saved, d.tree⟩

/-! ## Logs -/

/-- The records that are shown: all of them for debugging, none for debugging otherwise; without a
wish for more, only warnings and what the command line itself has to say. -/
def isShown (a : Arguments) (r : LogRecord) : Bool :=
  if a.debug then true
  else if a.verbose || r.speaker = .commandLine then Level.info.rank ≤ r.level.rank
  else Level.warning.rank ≤ r.level.rank

/-- A record as a line, with time and speaker in a run for debugging or with a wish for more. -/
def recordLine (a : Arguments) (time : String) (r : LogRecord) : String :=
  if a.debug || a.verbose then
    " - ".intercalate [time, r.speaker.name, r.level.name, r.message] ++ "\n"
  else r.level.name ++ ": " ++ r.message ++ "\n"

def logText (a : Arguments) (time : String) (log : List LogRecord) : String :=
  String.join ((log.filter (isShown a)).map (recordLine a time))

/-! ## The program -/

/-- What is seen of a run from outside. -/
structure Effect where
  exitCode : Nat
  stdout : String
  stderr : String
  tree : Tree

/-- Runs the program on a command line and a file tree. Log lines state the given time. -/
def run (process : Process) (time : String) (argv : List String) (tree : Tree) : Effect :=
  match parse argv with
  | .error fault => ⟨2, "", fault.text, tree⟩
  | .ok none => ⟨0, help, "", tree⟩
  | .ok (some a) =>
    let r := upgrade process a tree
    ⟨r.exitCode, r.stdout, logText a time r.log, r.tree⟩

end EndpointUpgrade.CommandLine
