import EndpointUpgrade.Reading.Issue

/-!
# Checked results

A checked result is a value or the list of all issues that stand in its way. Results are combined
so that the issues of all parts are kept, in the order of the parts. A misuse of a value breaks the
reading off at once: whatever has been found before it is lost.
-/

namespace EndpointUpgrade.Reading

/-- A value, the issues found instead, or the misuse that ended the reading. -/
inductive Checked (α : Type) where
  | ok (value : α)
  | faulty (issues : List Issue)
  | broken (misuse : Value.Misuse)
deriving DecidableEq, Repr

namespace Checked

variable {α β : Type}

/-- Applies a function to the value. -/
def map (f : α → β) : Checked α → Checked β
  | ok a => ok (f a)
  | faulty is => faulty is
  | broken m => broken m

/-- Applies a checked function to a checked value; the issues of both are kept. -/
def seq (f : Checked (α → β)) (x : Unit → Checked α) : Checked β :=
  match f with
  | ok f => map f (x ())
  | faulty is =>
    match x () with
    | ok _ => faulty is
    | faulty js => faulty (is ++ js)
    | broken m => broken m
  | broken m => broken m

instance : Applicative Checked where
  pure := ok
  map := map
  seq := seq

/-- A single fault at the part itself. -/
def fault (f : Fault) : Checked α := faulty [⟨[], f⟩]

/-- The same result seen from outside: every path gains a first step. -/
def under (step : Step) : Checked α → Checked α
  | ok a => ok a
  | faulty is => faulty (is.map fun i => { i with path := step :: i.path })
  | broken m => broken m

/-- Continues with a rule that looks at the value; a broken rule is a fault of the part. -/
def thenRule (x : Checked α) (rule : α → Except String β) : Checked β :=
  match x with
  | ok a =>
    match rule a with
    | .ok b => ok b
    | .error message => fault (.rule message)
  | faulty is => faulty is
  | broken m => broken m

/-- A single fault in place of everything that was found. -/
def refusedFor (f : Fault) : Checked α → Checked β
  | broken m => broken m
  | _ => fault f

def issues : Checked α → List Issue
  | faulty is => is
  | _ => []

/-- The result of a reading, with the issues or the misuse as a failure. -/
def orFail {ε : Type} (refuse : List Issue → ε) (misused : Value.Misuse → ε) :
    Checked α → Except ε α
  | ok a => .ok a
  | faulty is => .error (refuse is)
  | broken m => .error (misused m)

/-- Nothing but the given issues; no issues are no obstacle. -/
def report : List Issue → Checked Unit
  | [] => ok ()
  | is => faulty is

@[simp] theorem map_ok (f : α → β) (a : α) : f <$> ok a = ok (f a) := rfl

@[simp] theorem ok_seq_ok (f : α → β) (a : α) : (ok f <*> ok a : Checked β) = ok (f a) := rfl

@[simp] theorem under_ok (step : Step) (a : α) : (ok a).under step = ok a := rfl

@[simp] theorem report_nil : report [] = ok () := rfl

end Checked

end EndpointUpgrade.Reading
