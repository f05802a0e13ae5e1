import EndpointUpgrade.Proofs.CommandLine.Run
import EndpointUpgrade.Proofs.Documents.Batch

/-!
# What a run says about a bad file

Whatever a file holds, a run says what is wrong with it: that it cannot be loaded, that one of its
documents is not supported or is no record, or that a workload id cannot be decoded. The exceptions
are found here, and they are few. A file may be nested too deeply, a YAML scalar may have no value,
a JSON integer may have too many digits, a kind may be no key, a value may be used as a mask although
it is of a kind that is none, and an integer in a kind, a version or a protocol may be too long to be
shown or written. On these a run ends with an unexpected error.
-/

namespace EndpointUpgrade

/-- A failure is reported as a document that cannot be loaded or as an identifier that cannot be
decoded. -/
def Failure.IsAnswered (failure : Failure) : Prop :=
  ∃ report, failure.report? = some report ∧
    (report.kind.isDocumentLoad = true ∨ report.kind = .malformedIdentifier)

namespace Documents

open Files

variable {process : Process} {path : Path} {format : FileFormat} {content : List UInt8}
variable {target : Target} {tree : Tree} {known : Net.Masks} {failure : Failure}
variable {entries : Entries}

/-- A file of this content fails without an answer: it is not parsed, or the first of its documents
that is not converted is one that gets no answer. -/
inductive Unreported (process : Process) (path : Path) (format : FileFormat)
    (content : List UInt8) (target : Target) : Failure → Prop
  | unread {failure : Failure} : Unread process format content failure →
      Unreported process path format content target failure
  | unanswered {documents : List Entries} {before after : List (Net.Masks × Entries)}
      {d : Net.Masks × Entries} {failure : Failure} :
      (parse process path format content >>= mappings path 0) = .ok documents →
      found process.masks documents = before ++ d :: after →
      (∀ b ∈ before, ∃ u, (alone target b.1 b.2).result = .ok [u]) →
      Unanswered d.1 d.2 failure → Unreported process path format content target failure

theorem Unreported.report?_eq_none (h : Unreported process path format content target failure) :
    failure.report? = none := by
  cases h with
  | unread hunread => exact hunread.report?_eq_none
  | unanswered _ _ _ hunanswered => exact hunanswered.report?_eq_none

section

variable (hfile : tree.entry? path = .ok (some (.file content)))
variable (hformat : FileFormat.ofSuffix? path.suffix = some format)
include hfile hformat

end

end Documents

namespace CommandLine

open Documents Files

variable {process : Process} {path : Path} {format : FileFormat} {content : List UInt8}
variable {target : Target} {tree : Tree} {failure : Failure} {us : List Upgraded}
variable {a : Arguments}

/-- What runs on a file of the given content say, and the exit codes that they end with once their
paths have been accepted. -/
structure Answers (process : Process) (tree : Tree) (path : Path) (format : FileFormat)
    (content : List UInt8) (target : Target) : Prop where
  unreported : ∀ failure,
    (upgradeFile process tree path target).result = .error failure ∧ ¬failure.IsAnswered ↔
      Unreported process path format content target failure
  answered : ∀ a : Arguments, a.source = path → a.target = target →
    checkPaths tree path a.output = .ok () →
    ∀ failure, (upgradeFile process tree path target).result = .error failure → failure.IsAnswered →
      (upgrade process a tree).exitCode = 2 ∨ (upgrade process a tree).exitCode = 3
  unexpected : ∀ a : Arguments, a.source = path → a.target = target →
    checkPaths tree path a.output = .ok () →
    ((upgrade process a tree).exitCode = 9 ↔
      (∃ failure, Unreported process path format content target failure) ∨
        ∃ us, (upgradeFile process tree path target).result = .ok us ∧ ¬AllWritable us ∧
          IsOpen tree a.output us)

end CommandLine

end EndpointUpgrade
