import EndpointUpgrade.Documents.Upgrade

/-!
# Arguments of the command line

The words of a command line are options and positional arguments. An option may be shortened as
long as it stays clear which one is meant, one-letter options may share a hyphen, and the argument
of an option follows it as the next word, behind an equals sign, or directly behind its letter. Two
hyphens end the options. Words that look like negative numbers or hold a space are no options.
-/

namespace EndpointUpgrade.CommandLine

open Documents Files Text

def programName : String := "wep-upgrade"

/-- What the program is asked to do. -/
structure Arguments where
  source : Path
  output : Option Path
  target : Target
  debug : Bool
  verbose : Bool
deriving DecidableEq, Repr

inductive Opt where
  | help
  | output
  | target
  | debug
  | verbose
deriving DecidableEq, Repr

def spellings : List (String × Opt) :=
  [("-h", .help), ("--help", .help), ("-o", .output), ("--output", .output), ("--to", .target),
    ("--debug", .debug), ("--verbose", .verbose), ("-v", .verbose)]

def Opt.takesArgument : Opt → Bool
  | .output => true
  | .target => true
  | _ => false

/-- How messages call an option. -/
def Opt.title (o : Opt) : String :=
  "/".intercalate ((spellings.filter fun s => s.2 = o).map (·.1))

def targetNames : List (String × Target) := [("v3", .v3), ("backend", .backend)]

/-- Why a command line is refused. -/
inductive Fault where
  | ambiguous (word : String) (matching : List String)
  | needsArgument (option : Opt)
  | noArgument (option : Opt) (argument : String)
  | unknownTarget (name : String)
  | needsSource
  | unrecognized (words : List String)
deriving DecidableEq, Repr

def Fault.message : Fault → String
  | .ambiguous word matching =>
    "ambiguous option: " ++ word ++ " could match " ++ ", ".intercalate matching
  | .needsArgument o => "argument " ++ o.title ++ ": expected one argument"
  | .noArgument o argument =>
    "argument " ++ o.title ++ ": ignored explicit argument " ++ quoted argument
  | .unknownTarget name =>
    "argument " ++ Opt.target.title ++ ": invalid choice: " ++ quoted name ++ " (choose from " ++
      ", ".intercalate (targetNames.map fun t => quoted t.1) ++ ")"
  | .needsSource => "the following arguments are required: source"
  | .unrecognized words => "unrecognized arguments: " ++ " ".intercalate words

/-! ## Words -/

/-- An argument within the word of its option. -/
structure Attached where
  text : String
  /-- It stands behind an equals sign. -/
  behindSign : Bool
deriving DecidableEq, Repr

inductive Word where
  | positional (s : String)
  /-- The sign that no options follow. -/
  | endOfOptions
  /-- An option, whether it is spelled with one hyphen, and the argument given with it. -/
  | option (o : Opt) (short : Bool) (argument : Option Attached)
  /-- A word that looks like an option and is none. -/
  | unknown (s : String)
deriving DecidableEq, Repr

def beginsWith (start s : String) : Bool := start.toList.isPrefixOf s.toList

def isShort (spelling : String) : Bool := !beginsWith "--" spelling

/-- A text split at its first equals sign. -/
def splitArgument (s : String) : String × Option Attached :=
  let (name, argument) := cutAt '=' s.toList
  (String.ofList name, argument.map fun cs => ⟨String.ofList cs, true⟩)

/-- An option with its spelling and an argument given with it. -/
structure Reading where
  spelling : String
  option : Opt
  argument : Option Attached

/-- The options that a word that spells none in full may mean. -/
def readings (s : String) : List Reading :=
  if beginsWith "--" s then
    let (start, argument) := splitArgument s
    (spellings.filter fun p => beginsWith start p.1).map fun p => ⟨p.1, p.2, argument⟩
  else
    let letter := String.ofList (s.toList.take 2)
    let rest := String.ofList (s.toList.drop 2)
    spellings.filterMap fun p =>
      if p.1 = letter then some ⟨p.1, p.2, some ⟨rest, false⟩⟩
      else if beginsWith s p.1 then some ⟨p.1, p.2, none⟩
      else none

def isNegativeNumber (cs : List Char) : Bool :=
  match cs with
  | '-' :: rest =>
    match cutAt '.' rest with
    | (whole, none) => !whole.isEmpty && whole.all isDigit
    | (whole, some decimals) => whole.all isDigit && !decimals.isEmpty && decimals.all isDigit
  | _ => false

/-- An option that a word spells in full, with or without an argument behind an equals sign. -/
def exactOption? (s : String) : Option Word :=
  match spellings.lookup s with
  | some o => some (.option o (isShort s) none)
  | none =>
    match splitArgument s with
    | (name, some argument) =>
      (spellings.lookup name).map fun o => .option o (isShort name) (some argument)
    | (_, none) => none

/-- What a word in front of the end of the options is. -/
def classify (s : String) : Except Fault Word :=
  if !beginsWith "-" s || s = "-" then .ok (.positional s)
  else
    match exactOption? s with
    | some word => .ok word
    | none =>
      match readings s with
      | [r] => .ok (.option r.option (isShort r.spelling) r.argument)
      | [] =>
        if isNegativeNumber s.toList || s.toList.contains ' ' then .ok (.positional s)
        else .ok (.unknown s)
      | rs => .error (.ambiguous s (rs.map (·.spelling)))

def words : List String → Except Fault (List Word)
  | [] => .ok []
  | s :: rest =>
    if s = "--" then .ok (.endOfOptions :: rest.map .positional)
    else do
      let word ← classify s
      return word :: (← words rest)

/-! ## Options -/

/-- What has been read of a command line. -/
structure State where
  source : Option String
  output : Option String
  target : Target
  debug : Bool
  verbose : Bool
  /-- The words that have no use. -/
  extras : List String

def State.start : State := ⟨none, none, .v3, false, false, []⟩

/-- An option with its argument. -/
structure Action where
  option : Opt
  argument : String

/-- What an option word asks for: options without argument at its front, an action behind them, or an
option that waits for the next word. Letters that are no options have no use. -/
structure Expanded where
  flags : List Opt
  action : Option Action
  waiting : Option Opt
  unused : Option String

namespace Expanded

def bare (o : Opt) : Expanded :=
  if o.takesArgument then ⟨[], none, some o, none⟩ else ⟨[o], none, none, none⟩

/-- One more option without argument in front. -/
def behind (o : Opt) (e : Expanded) : Expanded := { e with flags := o :: e.flags }

end Expanded

/-- Expands an option that is given with an argument. One-letter options without an argument may be
followed by further letters, of which the last one may have its argument behind an equals sign. -/
def expand (o : Opt) (short behindSign : Bool) (argument : List Char) : Except Fault Expanded :=
  if o.takesArgument then .ok ⟨[], some ⟨o, String.ofList argument⟩, none, none⟩
  else
    match argument with
    | [] => .error (.noArgument o "")
    | c :: rest =>
      if !short || behindSign || c = '-' then
        .error (.noArgument o (String.ofList (c :: rest)))
      else
        match spellings.lookup (String.ofList ['-', c]), rest with
        | none, _ => .ok ⟨[o], none, none, some (String.ofList ('-' :: c :: rest))⟩
        | some next, [] => .ok (.behind o (.bare next))
        | some next, '=' :: argument => (expand next true true argument).map (.behind o)
        | some next, rest => (expand next true false rest).map (.behind o)

/-- The outcome of a step: a state, or a request for help, which ends the reading. -/
inductive Outcome where
  | go (s : State)
  | help

def State.set (s : State) : Opt → Outcome
  | .help => .help
  | .debug => .go { s with debug := true }
  | .verbose => .go { s with verbose := true }
  | _ => .go s

def State.setAll (s : State) : List Opt → Outcome
  | [] => .go s
  | o :: rest =>
    match s.set o with
    | .go s => s.setAll rest
    | .help => .help

def State.act (s : State) (a : Action) : Except Fault State :=
  match a.option with
  | .output => .ok { s with output := some a.argument }
  | .target =>
    match targetNames.lookup a.argument with
    | some target => .ok { s with target := target }
    | none => .error (.unknownTarget a.argument)
  | _ => .ok s

def expandWord (o : Opt) (short : Bool) : Option Attached → Except Fault Expanded
  | none => .ok (.bare o)
  | some argument => expand o short argument.behindSign argument.text.toList

/-- Gives a positional word its use. -/
def State.place (s : State) (word : String) : State :=
  match s.source with
  | none => { s with source := some word }
  | some _ => { s with extras := s.extras ++ [word] }

def readWords (s : State) : List Word → Except Fault Outcome
  | [] => .ok (.go s)
  | .positional word :: .endOfOptions :: rest =>
    match s.source with
    | none => readWords (s.place word) rest
    | some _ => readWords { s with extras := s.extras ++ [word, "--"] } rest
  | .positional word :: rest => readWords (s.place word) rest
  | .endOfOptions :: .positional word :: rest =>
    match s.source with
    | none => readWords (s.place word) rest
    | some _ => readWords { s with extras := s.extras ++ ["--", word] } rest
  | .endOfOptions :: rest => readWords { s with extras := s.extras ++ ["--"] } rest
  | .unknown word :: rest => readWords { s with extras := s.extras ++ [word] } rest
  | .option o short argument :: rest => do
    let e ← expandWord o short argument
    let s := { s with extras := s.extras ++ e.unused.toList }
    match e.waiting, rest with
    | none, rest =>
      match s.setAll e.flags with
      | .help => return .help
      | .go s =>
        match e.action with
        | some action => readWords (← s.act action) rest
        | none => readWords s rest
    | some o, .positional word :: rest =>
      match s.setAll e.flags with
      | .help => return .help
      | .go s => readWords (← s.act ⟨o, word⟩) rest
    | some o, _ => throw (.needsArgument o)

/-- The arguments that a command line states, or a request for help. -/
def parse (argv : List String) : Except Fault (Option Arguments) := do
  match ← readWords .start (← words argv) with
  | .help => return none
  | .go s =>
    match s.source, s.extras with
    | none, _ => throw .needsSource
    | some source, [] =>
      return some
        ⟨.ofText source, s.output.map .ofText, s.target, s.debug, s.verbose⟩
    | some _, extras => throw (.unrecognized extras)

/-! ## Texts -/

def usage : String :=
  "usage: " ++ programName ++ " [-h] [-o OUTPUT] [--to \x7bv3,backend\x7d] [--debug] [--verbose]\n" ++
    "                   source\n"

def help : String :=
  usage ++
    "\nUpgrade v1 WorkloadEndpoint documents to the v3 data model.\n" ++
    "\npositional arguments:\n" ++
    "  source                YAML or JSON file holding v1 API or v1 backend\n" ++
    "                        WorkloadEndpoints\n" ++
    "\noptions:\n" ++
    "  -h, --help            show this help message and exit\n" ++
    "  -o OUTPUT, --output OUTPUT\n" ++
    "                        Output YAML file (default: standard output)\n" ++
    "  --to \x7bv3,backend\x7d     Target representation (default: v3)\n" ++
    "  --debug               Enable debug logging\n" ++
    "  --verbose, -v         Enable verbose logging\n" ++
    "\nExamples:\n" ++
    "  " ++ programName ++ " endpoints.yaml\n" ++
    "  " ++ programName ++ " endpoints.yaml -o upgraded.yaml\n" ++
    "  " ++ programName ++ " endpoints.json --to backend --verbose\n" ++
    "        \n"

/-- What the program says about a refused command line. -/
def Fault.text (f : Fault) : String := usage ++ programName ++ ": error: " ++ f.message ++ "\n"

end EndpointUpgrade.CommandLine
