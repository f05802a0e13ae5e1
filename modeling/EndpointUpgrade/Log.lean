/-!
# Log records

What a run notes down while it works: records of a level, the part of the program that speaks, and
a message, in order.
-/

namespace EndpointUpgrade

/-- How much a log record matters. -/
inductive Level where
  | debug
  | info
  | warning
  | error
deriving DecidableEq, Repr

def Level.name : Level → String
  | .debug => "DEBUG"
  | .info => "INFO"
  | .warning => "WARNING"
  | .error => "ERROR"

/-- Levels by how much they matter. -/
def Level.rank : Level → Nat
  | .debug => 10
  | .info => 20
  | .warning => 30
  | .error => 40

/-- The parts of the program that write log records. -/
inductive Speaker where
  | converter
  | loader
  | reader
  | commandLine
deriving DecidableEq, Repr

def Speaker.name : Speaker → String
  | .converter => "src.conversion.base_converter.WorkloadEndpointConverter"
  | .loader => "src.documents.file_loader"
  | .reader => "src.documents.reader"
  | .commandLine => "src.main"

structure LogRecord where
  level : Level
  speaker : Speaker
  message : String
deriving DecidableEq, Repr

/-- A result together with the log records written on the way to it, oldest first. -/
structure Logged (α : Type) where
  result : α
  log : List LogRecord
deriving Repr

namespace Logged

variable {ε α β : Type}

/-- A result without log records. -/
def silent (result : α) : Logged α := ⟨result, []⟩

/-- A success that leaves one log record. -/
def noted (record : LogRecord) (value : α) : Logged (Except ε α) := ⟨.ok value, [record]⟩

/-- A failure that leaves no log record. -/
def failure (error : ε) : Logged (Except ε α) := ⟨.error error, []⟩

def mapError {ε' : Type} (f : ε → ε') (x : Logged (Except ε α)) : Logged (Except ε' α) :=
  ⟨x.result.mapError f, x.log⟩

/-- Goes on after a success; the log records of both parts are kept. A failure ends the run. -/
def andThen (x : Logged (Except ε α)) (next : α → Logged (Except ε β)) : Logged (Except ε β) :=
  match x.result with
  | .ok a => ⟨(next a).result, x.log ++ (next a).log⟩
  | .error e => ⟨.error e, x.log⟩

/-- Runs a step on every item of a list, first to last, until one fails. -/
def forEach (step : α → Logged (Except ε β)) : List α → Logged (Except ε (List β))
  | [] => silent (.ok [])
  | a :: rest =>
    (step a).andThen fun b => (forEach step rest).andThen fun bs => silent (.ok (b :: bs))

end Logged

end EndpointUpgrade
