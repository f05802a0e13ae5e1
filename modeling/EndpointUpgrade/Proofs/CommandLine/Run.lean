import EndpointUpgrade.CommandLine.Run
import EndpointUpgrade.Proofs.Documents.Writable
import EndpointUpgrade.Proofs.Files.Tree
import Mathlib.Data.List.TakeWhile

/-!
# What a run leaves behind

A run comes to an end in one of four ways: its paths are refused, its documents are not converted,
its records are not written, or all is well. Nothing is written in the first two. In the third one
the place of the records may be refused, which leaves all files as they were, or a record may have
an integer that is too long, and then the records in front of it have been written already.
-/

namespace EndpointUpgrade.CommandLine

open Documents Files Text

variable {process : Process} {a : Arguments} {tree : Tree} {failure : Failure}
variable {us : List Upgraded}

/-! ## Texts of records -/

def joinedText (us : List Upgraded) : String := String.join (us.map fun u => yamlText [u])

theorem yamlText_cons (u : Upgraded) (us : List Upgraded) :
    yamlText (u :: us) = yamlText [u] ++ yamlText us := by
  unfold yamlText Yaml.write
  rw [← String.ofList_append, List.map_cons, List.map_cons, List.map_nil, List.flatMap_cons,
    List.flatMap_cons, List.flatMap_nil, List.append_nil]

theorem yamlText_eq_joinedText (us : List Upgraded) : yamlText us = joinedText us := by
  unfold joinedText
  induction us with
  | nil => rfl
  | cons u us ih => rw [yamlText_cons, ih, List.map_cons, String.join_cons]

/-! ## Writing -/

/-- A text stands on the standard output, or it is the whole content of the output file. Nothing else
has changed, but directories may have been made on the way to that file. -/
def Delivers (tree : Tree) (output : Option Path) (text stdout : String) (after : Tree) : Prop :=
  match output with
  | none => stdout = text ∧ after = tree
  | some path => stdout = "" ∧ Tree.Saves tree after path text.toUTF8.toList

/-- Every record can be written: no port has a protocol number with too many digits. -/
def AllWritable (us : List Upgraded) : Prop := ∀ u ∈ us, ∀ p ∈ u.ports, p.protocol.IsShort

theorem all_isWritable_iff :
    (us.all fun u => u.document.isWritable) = true ↔ AllWritable us := by
  rw [List.all_eq_true]
  simp only [Upgraded.isWritable_document]
  rfl

theorem checkWritten_of_allWritable (h : AllWritable us) : checkWritten us = .ok () := by
  rw [checkWritten, if_pos (all_isWritable_iff.mpr h)]

theorem checkWritten_of_not_allWritable (h : ¬AllWritable us) :
    checkWritten us = .error .longInteger := by
  rw [checkWritten, if_neg fun hall => h (all_isWritable_iff.mp hall)]

theorem writtenPart_of_allWritable (h : AllWritable us) : writtenPart us = us := by
  rw [writtenPart, List.takeWhile_eq_self_iff]
  exact List.all_eq_true.mp (all_isWritable_iff.mpr h)

/-- The place that records are written to is not refused. -/
def IsOpen (tree : Tree) (output : Option Path) (us : List Upgraded) : Prop :=
  ∀ path, output = some path →
    (tree.saveFile path (joinedText (writtenPart us)).toUTF8.toList).2 = .ok ()

/-- In an open place there stand the records that can be written, and it is only a record with a long
integer that can make the run fail. -/
theorem deliver_of_isOpen {output : Option Path} (h : IsOpen tree output us) :
    (deliver tree output us).outcome = checkWritten us ∧
      Delivers tree output (joinedText (writtenPart us)) (deliver tree output us).stdout
        (deliver tree output us).tree := by
  unfold deliver Delivers
  rw [yamlText_eq_joinedText]
  cases output with
  | none => exact ⟨rfl, rfl, rfl⟩
  | some path =>
    have hopen := h path rfl
    dsimp only
    split
    · next after hsave => exact ⟨rfl, rfl, Tree.saveFile_of_ok hsave⟩
    · next after fault hsave =>
      rw [hsave] at hopen
      contradiction

theorem deliver_of_not_isOpen {output : Option Path} (h : ¬IsOpen tree output us) :
    (∃ fault, (deliver tree output us).outcome = .error (.system fault)) ∧
      (deliver tree output us).stdout = "" ∧
      Tree.GainsDirectories tree (deliver tree output us).tree := by
  unfold deliver
  unfold IsOpen at h
  rw [yamlText_eq_joinedText]
  cases output with
  | none => exact absurd nofun h
  | some path =>
    dsimp only
    split
    · next after hsave =>
      refine absurd ?_ h
      intro path' eq
      rw [← Option.some.inj eq, hsave]
    · next after fault hsave => exact ⟨⟨fault, rfl⟩, rfl, Tree.saveFile_of_error hsave⟩

/-! ## Whole runs -/

theorem upgrade_of_refused (h : checkPaths tree a.source a.output = .error failure) :
    upgrade process a tree = failed a tree [] failure := by
  rw [upgrade, h]

theorem upgrade_of_unconverted (hpaths : checkPaths tree a.source a.output = .ok ())
    (h : (upgradeFile process tree a.source a.target).result = .error failure) :
    upgrade process a tree =
      failed a tree (upgradeFile process tree a.source a.target).log failure := by
  rw [upgrade, hpaths]
  dsimp only
  rw [h]

theorem upgrade_of_unwritten (hpaths : checkPaths tree a.source a.output = .ok ())
    (hconverted : (upgradeFile process tree a.source a.target).result = .ok us)
    (h : (deliver tree a.output us).outcome = .error failure) :
    upgrade process a tree =
      { failed a (deliver tree a.output us).tree (upgradeFile process tree a.source a.target).log
          failure with
        stdout := (deliver tree a.output us).stdout } := by
  rw [upgrade, hpaths]
  dsimp only
  rw [hconverted]
  dsimp only
  rw [h]

theorem upgrade_of_written (hpaths : checkPaths tree a.source a.output = .ok ())
    (hconverted : (upgradeFile process tree a.source a.target).result = .ok us)
    (h : (deliver tree a.output us).outcome = .ok ()) :
    (upgrade process a tree).exitCode = 0 ∧
      (upgrade process a tree).stdout = (deliver tree a.output us).stdout ∧
      (upgrade process a tree).tree = (deliver tree a.output us).tree := by
  rw [upgrade, hpaths]
  dsimp only
  rw [hconverted]
  dsimp only
  rw [h]
  exact ⟨rfl, rfl, rfl⟩

theorem verdict_ne_zero (failure : Failure) : (verdict failure).2 ≠ 0 := by
  cases failure <;> exact nofun

/-- Records behind one that cannot be written are not delivered, but those in front of it are. -/
theorem upgrade_of_interrupted (hpaths : checkPaths tree a.source a.output = .ok ())
    (hconverted : (upgradeFile process tree a.source a.target).result = .ok us)
    (hlong : ¬AllWritable us)
    (hopen : IsOpen tree a.output us) :
    (upgrade process a tree).exitCode = 9 ∧
      Delivers tree a.output (joinedText (writtenPart us)) (upgrade process a tree).stdout
        (upgrade process a tree).tree := by
  obtain ⟨houtcome, hdelivers⟩ := deliver_of_isOpen hopen
  rw [checkWritten_of_not_allWritable hlong] at houtcome
  rw [upgrade_of_unwritten hpaths hconverted houtcome]
  exact ⟨rfl, hdelivers⟩

/-- What a run can leave behind that was asked for by the given arguments. -/
inductive Ends (process : Process) (a : Arguments) (tree : Tree) (r : Result) : Prop
  | failed : r.exitCode ≠ 0 → r.stdout = "" → Tree.GainsDirectories tree r.tree →
      Ends process a tree r
  | interrupted {us : List Upgraded} :
      (upgradeFile process tree a.source a.target).result = .ok us → ¬AllWritable us →
      r.exitCode = 9 →
      Delivers tree a.output (joinedText (writtenPart us)) r.stdout r.tree → Ends process a tree r
  | succeeded {us : List Upgraded} :
      (upgradeFile process tree a.source a.target).result = .ok us → AllWritable us →
      r.exitCode = 0 →
      Delivers tree a.output (joinedText us) r.stdout r.tree → Ends process a tree r

theorem ends_upgrade (process : Process) (a : Arguments) (tree : Tree) :
    Ends process a tree (upgrade process a tree) := by
  cases hpaths : checkPaths tree a.source a.output with
  | error failure =>
    rw [upgrade_of_refused hpaths]
    exact .failed (verdict_ne_zero failure) rfl (.refl tree)
  | ok =>
    cases hconverted : (upgradeFile process tree a.source a.target).result with
    | error failure =>
      rw [upgrade_of_unconverted hpaths hconverted]
      exact .failed (verdict_ne_zero failure) rfl (.refl tree)
    | ok us =>
      by_cases hopen : IsOpen tree a.output us
      · by_cases hwritable : AllWritable us
        · obtain ⟨houtcome, hdelivers⟩ := deliver_of_isOpen hopen
          rw [checkWritten_of_allWritable hwritable] at houtcome
          rw [writtenPart_of_allWritable hwritable] at hdelivers
          obtain ⟨hexit, hstdout, htree⟩ := upgrade_of_written hpaths hconverted houtcome
          rw [← hstdout, ← htree] at hdelivers
          exact .succeeded hconverted hwritable hexit hdelivers
        · obtain ⟨hexit, hdelivers⟩ := upgrade_of_interrupted hpaths hconverted hwritable hopen
          exact .interrupted hconverted hwritable hexit hdelivers
      · obtain ⟨⟨fault, houtcome⟩, hstdout, hgains⟩ := deliver_of_not_isOpen hopen
        rw [upgrade_of_unwritten hpaths hconverted houtcome]
        exact .failed (verdict_ne_zero _) hstdout hgains

/-- A run that fails leaves nothing on the standard output and all files as they were, unless it is
interrupted at a record with a long integer, as every run with such a record is whose output can be
opened. One that succeeds has given help, or has delivered the texts of all records. -/
structure IsAllOrNothing (process : Process) (argv : List String) (tree : Tree) (e : Effect) :
    Prop where
  fails : e.exitCode ≠ 0 →
    (e.stdout = "" ∧ Tree.GainsDirectories tree e.tree) ∨
      ∃ a us, parse argv = .ok (some a) ∧
        (upgradeFile process tree a.source a.target).result = .ok us ∧ ¬AllWritable us ∧
        e.exitCode = 9 ∧ Delivers tree a.output (joinedText (writtenPart us)) e.stdout e.tree
  interrupts : ∀ a us, parse argv = .ok (some a) →
    checkPaths tree a.source a.output = .ok () →
    (upgradeFile process tree a.source a.target).result = .ok us → ¬AllWritable us →
    IsOpen tree a.output us →
    e.exitCode = 9 ∧ Delivers tree a.output (joinedText (writtenPart us)) e.stdout e.tree
  succeeds : e.exitCode = 0 →
    (parse argv = .ok none ∧ e.stdout = help ∧ e.tree = tree) ∨
      ∃ a us, parse argv = .ok (some a) ∧
        (upgradeFile process tree a.source a.target).result = .ok us ∧ AllWritable us ∧
        Delivers tree a.output (joinedText us) e.stdout e.tree

theorem run_isAllOrNothing (process : Process) (time : String) (argv : List String)
    (tree : Tree) : IsAllOrNothing process argv tree (run process time argv tree) := by
  unfold run
  cases hparse : parse argv with
  | error fault =>
    refine ⟨fun _ => .inl ⟨rfl, .refl tree⟩, ?_, nofun⟩
    intro a us h
    rw [hparse] at h
    contradiction
  | ok request =>
    cases request with
    | none =>
      refine ⟨fun h => absurd rfl h, ?_, fun _ => .inl ⟨hparse, rfl, rfl⟩⟩
      intro a us h
      have hnone : none = some a := Except.ok.inj (hparse.symm.trans h)
      contradiction
    | some a =>
      dsimp only
      have hinterrupts : ∀ b us, parse argv = .ok (some b) →
          checkPaths tree b.source b.output = .ok () →
          (upgradeFile process tree b.source b.target).result = .ok us → ¬AllWritable us →
          IsOpen tree b.output us → (upgrade process a tree).exitCode = 9 ∧
            Delivers tree b.output (joinedText (writtenPart us)) (upgrade process a tree).stdout
              (upgrade process a tree).tree := by
        intro b us hb hpaths hconverted hlong hopen
        obtain rfl : a = b := Option.some.inj (Except.ok.inj (hparse.symm.trans hb))
        exact upgrade_of_interrupted hpaths hconverted hlong hopen
      cases ends_upgrade process a tree with
      | failed hexit hstdout hgains =>
        exact ⟨fun _ => .inl ⟨hstdout, hgains⟩, hinterrupts, fun h => absurd h hexit⟩
      | interrupted hconverted hlong hexit hdelivers =>
        refine ⟨fun _ => .inr ⟨a, _, hparse, hconverted, hlong, hexit, hdelivers⟩, hinterrupts, ?_⟩
        intro h
        dsimp only at h
        rw [hexit] at h
        contradiction
      | succeeded hconverted hwritable hexit hdelivers =>
        exact ⟨fun h => absurd hexit h, hinterrupts, fun _ => .inr ⟨a, _, hparse, hconverted,
          hwritable, hdelivers⟩⟩

end EndpointUpgrade.CommandLine
