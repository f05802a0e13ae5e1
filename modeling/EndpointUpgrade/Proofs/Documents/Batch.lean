import EndpointUpgrade.Proofs.Documents.Failures
import EndpointUpgrade.Proofs.Documents.Independence
import EndpointUpgrade.Proofs.Documents.Staging

/-!
# Batches of documents

The documents of a file are converted one by one. Each one gives what it gives on its own where the
masks are known that it finds, with the same log, whatever comes after it, and the first failure is
the failure of the run. The masks that a document finds matter only if a truth value or a
floating-point number is used as a mask; otherwise nothing before it matters either.
-/

namespace EndpointUpgrade

namespace Logged

variable {ε α β : Type} {step : α → Logged (Except ε β)} {as : List α} {bs : List β}

theorem andThen_of_ok {x : Logged (Except ε α)} {next : α → Logged (Except ε β)} {a : α}
    (h : x.result = .ok a) : x.andThen next = ⟨(next a).result, x.log ++ (next a).log⟩ := by
  rw [andThen, h]

theorem andThen_of_error {x : Logged (Except ε α)} {next : α → Logged (Except ε β)} {e : ε}
    (h : x.result = .error e) : x.andThen next = ⟨.error e, x.log⟩ := by
  rw [andThen, h]

/-- An item succeeds on its own. -/
def Succeeds (step : α → Logged (Except ε β)) (a : α) : Prop := ∃ b, (step a).result = .ok b

theorem forEach_of_ok (h : List.Forall₂ (fun a b => (step a).result = .ok b) as bs) :
    forEach step as = ⟨.ok bs, as.flatMap fun a => (step a).log⟩ := by
  induction h with
  | nil => rfl
  | cons hb _ ih =>
    rw [forEach, andThen_of_ok hb, ih, List.flatMap_cons]
    dsimp only [andThen, silent]
    rw [List.append_nil]

/-- The first item that fails ends the run, with its own failure and log. -/
theorem forEach_of_error {before after : List α} {a : α} {e : ε}
    (hbefore : ∀ b ∈ before, Succeeds step b) (ha : (step a).result = .error e) :
    forEach step (before ++ a :: after) =
      ⟨.error e, (before.flatMap fun b => (step b).log) ++ (step a).log⟩ := by
  induction before with
  | nil => rw [List.nil_append, forEach, andThen_of_error ha, List.flatMap_nil, List.nil_append]
  | cons b before ih =>
    obtain ⟨c, hc⟩ := hbefore b List.mem_cons_self
    rw [List.cons_append, forEach, andThen_of_ok hc,
      ih fun x hx => hbefore x (List.mem_cons_of_mem _ hx), List.flatMap_cons]
    dsimp only [andThen]
    rw [List.append_assoc]

/-- Either all items succeed, or there is a first one that fails. -/
theorem all_succeed_or_first_fails (step : α → Logged (Except ε β)) (as : List α) :
    (∃ bs, List.Forall₂ (fun a b => (step a).result = .ok b) as bs) ∨
      ∃ before a after e, as = before ++ a :: after ∧ (∀ b ∈ before, Succeeds step b) ∧
        (step a).result = .error e := by
  induction as with
  | nil => exact .inl ⟨[], .nil⟩
  | cons a as ih =>
    cases ha : (step a).result with
    | error e => exact .inr ⟨[], a, as, e, rfl, nofun, ha⟩
    | ok b =>
      cases ih with
      | inl hall =>
        obtain ⟨bs, hbs⟩ := hall
        exact .inl ⟨b :: bs, .cons ha hbs⟩
      | inr hfirst =>
        obtain ⟨before, x, after, e, rfl, hbefore, hx⟩ := hfirst
        refine .inr ⟨a :: before, x, after, e, rfl, ?_, hx⟩
        intro y hy
        cases List.mem_cons.mp hy with
        | inl eq => exact ⟨b, eq ▸ ha⟩
        | inr hmem => exact hbefore y hmem

theorem forEach_eq_ok_iff :
    (forEach step as).result = .ok bs ↔
      List.Forall₂ (fun a b => (step a).result = .ok b) as bs := by
  rw [forEach_result]
  exact Documents.mapM_eq_ok_iff

theorem forEach_eq_error_iff {e : ε} :
    (forEach step as).result = .error e ↔
      ∃ before a after, as = before ++ a :: after ∧ (∀ b ∈ before, Succeeds step b) ∧
        (step a).result = .error e := by
  constructor
  · intro h
    cases all_succeed_or_first_fails step as with
    | inl hall =>
      obtain ⟨cs, hcs⟩ := hall
      rw [forEach_of_ok hcs] at h
      exact absurd h nofun
    | inr hfirst =>
      obtain ⟨before, a, after, e', rfl, hbefore, ha⟩ := hfirst
      rw [forEach_of_error hbefore ha] at h
      obtain rfl : e' = e := Except.error.inj h
      exact ⟨before, a, after, rfl, hbefore, ha⟩
  · intro ⟨before, a, after, has, hbefore, ha⟩
    rw [has, forEach_of_error hbefore ha]

end Logged

namespace Documents

open Endpoint Files Text Logged

variable {target : Target} {known : Net.Masks} {entries : Entries}
variable {process : Process} {tree : Tree} {path : Path}

/-! ## One document -/

def readNote (r : Record) : LogRecord := ⟨.debug, .reader, "Read " ++ r.kind ++ " document"⟩

/-- The notes on taking a record to the backend form, where a stored endpoint is already. -/
def storedNotes : Record → List LogRecord
  | .v1 e =>
    [Upgrade.conversionRecord "v1 API -> backend" (Upgrade.identityText e.metadata.identity)
      (Upgrade.identityText e.metadata.identity)]
  | .stored _ => []

/-- The notes on taking a stored endpoint to a target, which only a resource needs. -/
def targetNotes (e : Stored) : Upgraded → List LogRecord
  | .stored _ => []
  | .v3 r =>
    [Upgrade.conversionRecord "backend -> v3 API" (Upgrade.identityText e.key) r.metadata.name]

theorem toStored_log (r : Record) : (toStored r).log = storedNotes r := by
  cases r <;> rfl

theorem readRecord_of_ok {r : Record} (h : record known entries = .ok r) :
    readRecord known entries = ⟨.ok r, [readNote r]⟩ := by
  rw [readRecord, h]
  rfl

theorem readRecord_of_error {failure : Failure} (h : record known entries = .error failure) :
    readRecord known entries = ⟨.error failure, []⟩ := by
  rw [readRecord, h]
  rfl

theorem toTarget_log_of_ok {e : Stored} {u : Upgraded} (h : (toTarget target e).result = .ok u) :
    (toTarget target e).log = targetNotes e u := by
  cases target with
  | backend =>
    obtain rfl := Except.ok.inj h
    rfl
  | v3 =>
    unfold toTarget at h ⊢
    unfold Upgrade.toResource at h ⊢
    cases hresource : Upgrade.resource e with
    | error reason =>
      rw [hresource] at h
      exact absurd h nofun
    | ok r =>
      rw [hresource] at h
      obtain rfl := Except.ok.inj h
      rfl

theorem toTarget_of_error {e : Stored} {failure : Failure}
    (h : (toTarget target e).result = .error failure) :
    target = .v3 ∧ (toTarget target e).log = [] ∧
      ∃ reason, failure = .malformed reason ∧
        (Upgrade.toResource e).result = .error reason := by
  cases target with
  | backend => exact absurd h nofun
  | v3 =>
    unfold toTarget at h ⊢
    unfold Upgrade.toResource at h ⊢
    cases hresource : Upgrade.resource e with
    | error reason =>
      rw [hresource] at h
      exact ⟨rfl, rfl, reason, (Except.error.inj h).symm, rfl⟩
    | ok r =>
      rw [hresource] at h
      exact absurd h nofun

theorem upgradeDocument_of_ok {r : Record} (h : record known entries = .ok r) :
    upgradeDocument target known entries =
      ⟨(toTarget target (toStored r).result).result,
        readNote r :: (storedNotes r ++ (toTarget target (toStored r).result).log)⟩ := by
  rw [upgradeDocument, readRecord_of_ok h, andThen_of_ok rfl, ← toStored_log]
  rfl

theorem upgradeDocument_of_error {failure : Failure} (h : record known entries = .error failure) :
    upgradeDocument target known entries = ⟨.error failure, []⟩ := by
  rw [upgradeDocument, readRecord_of_error h, andThen_of_error rfl]

/-- The log of a document that is converted has a record of every step. -/
def IsComplete (target : Target) (known : Net.Masks) (entries : Entries) (u : Upgraded)
    (log : List LogRecord) : Prop :=
  ∃ r, record known entries = .ok r ∧ (toTarget target (toStored r).result).result = .ok u ∧
    log = readNote r :: (storedNotes r ++ targetNotes (toStored r).result u)

/-- The log of a document that fails has the records of the steps before the one that failed:
either the document is not read, or a workload id cannot be decoded on the way to a resource. -/
def IsBroken (target : Target) (known : Net.Masks) (entries : Entries) (failure : Failure)
    (log : List LogRecord) : Prop :=
  (record known entries = .error failure ∧ log = []) ∨
    ∃ r reason, target = .v3 ∧ record known entries = .ok r ∧
      (Upgrade.toResource (toStored r).result).result = .error reason ∧
      failure = .malformed reason ∧ log = readNote r :: storedNotes r

theorem isComplete_of_ok {u : Upgraded}
    (h : (upgradeDocument target known entries).result = .ok u) :
    IsComplete target known entries u (upgradeDocument target known entries).log := by
  cases hrecord : record known entries with
  | error failure =>
    rw [upgradeDocument_of_error hrecord] at h
    exact absurd h nofun
  | ok r =>
    rw [upgradeDocument_of_ok hrecord] at h ⊢
    exact ⟨r, hrecord, h, by rw [toTarget_log_of_ok h]⟩

theorem isBroken_of_error {failure : Failure}
    (h : (upgradeDocument target known entries).result = .error failure) :
    IsBroken target known entries failure (upgradeDocument target known entries).log := by
  cases hrecord : record known entries with
  | error f =>
    rw [upgradeDocument_of_error hrecord] at h ⊢
    obtain rfl : f = failure := Except.error.inj h
    exact .inl ⟨hrecord, rfl⟩
  | ok r =>
    rw [upgradeDocument_of_ok hrecord] at h ⊢
    obtain ⟨htarget, hlog, reason, hfailure, hreason⟩ := toTarget_of_error h
    dsimp only
    rw [hlog, List.append_nil]
    exact .inr ⟨r, reason, htarget, hrecord, hreason, hfailure, rfl⟩

theorem upgradeDocument_backend_ne_malformed (reason : Identity.Malformed) :
    (upgradeDocument .backend known entries).result ≠ .error (.malformed reason) := by
  intro h
  obtain ⟨hrecord, -⟩ | ⟨r, reason, htarget, -⟩ := isBroken_of_error h
  · exact (isOfDocuments_of_record hrecord).ne_malformed _ rfl
  · exact absurd htarget nofun

theorem level_of_mem_storedNotes {r : Record} {note : LogRecord} (h : note ∈ storedNotes r) :
    note.level = .debug := by
  cases r with
  | v1 e =>
    obtain rfl := List.mem_singleton.mp h
    rfl
  | stored e => exact absurd h List.not_mem_nil

theorem level_of_mem_targetNotes {e : Stored} {u : Upgraded} {note : LogRecord}
    (h : note ∈ targetNotes e u) : note.level = .debug := by
  cases u with
  | stored e => exact absurd h List.not_mem_nil
  | v3 r =>
    obtain rfl := List.mem_singleton.mp h
    rfl

theorem level_of_mem_log {note : LogRecord}
    (h : note ∈ (upgradeDocument target known entries).log) : note.level = .debug := by
  cases hresult : (upgradeDocument target known entries).result with
  | ok u =>
    obtain ⟨r, -, -, hlog⟩ := isComplete_of_ok hresult
    rw [hlog, List.mem_cons, List.mem_append] at h
    obtain rfl | h | h := h
    · rfl
    · exact level_of_mem_storedNotes h
    · exact level_of_mem_targetNotes h
  | error failure =>
    obtain ⟨-, hlog⟩ | ⟨r, reason, -, -, -, -, hlog⟩ := isBroken_of_error hresult
    · rw [hlog] at h
      exact absurd h List.not_mem_nil
    · rw [hlog, List.mem_cons] at h
      obtain rfl | h := h
      · rfl
      · exact level_of_mem_storedNotes h

/-! ## Files -/

/-- The run on a file that has a single document, where some masks are known. -/
def alone (target : Target) (known : Net.Masks) (entries : Entries) :
    Logged (Except Failure (List Upgraded)) :=
  upgradeAll target known [entries]

theorem alone_eq (target : Target) (known : Net.Masks) (entries : Entries) :
    alone target known entries =
      ⟨(upgradeDocument target known entries).result.map fun u => [u],
        (upgradeDocument target known entries).log⟩ := by
  change forEach (fun p => upgradeDocument target p.1 p.2) [(known, entries)] = _
  rw [forEach]
  cases h : (upgradeDocument target known entries).result with
  | ok u =>
    rw [andThen_of_ok h]
    simp [forEach, andThen, silent, Except.map]
  | error failure =>
    rw [andThen_of_error h]
    rfl

theorem alone_result_eq_ok_iff {u : Upgraded} :
    (alone target known entries).result = .ok [u] ↔
      (upgradeDocument target known entries).result = .ok u := by
  rw [alone_eq]
  cases (upgradeDocument target known entries).result with
  | ok v => simp [Except.map]
  | error failure => simp [Except.map]

theorem alone_result_eq_error_iff {failure : Failure} :
    (alone target known entries).result = .error failure ↔
      (upgradeDocument target known entries).result = .error failure := by
  rw [alone_eq]
  cases (upgradeDocument target known entries).result with
  | ok v => simp [Except.map]
  | error f => simp [Except.map]

def loadedNote (path : Path) (count : Nat) : LogRecord :=
  ⟨.debug, .loader, "Loaded " ++ decimalText count ++ " document(s) from " ++ path.text⟩

/-- The note on how many documents were converted. -/
def summary (path : Path) (count : Nat) : LogRecord :=
  ⟨.info, .commandLine,
    "Converted " ++ decimalText count ++ " WorkloadEndpoint(s) from " ++ path.text⟩

theorem load_log_of_ok {documents : List Entries}
    (h : (load process tree path).result = .ok documents) :
    (load process tree path).log = [loadedNote path documents.length] := by
  unfold load at h ⊢
  split at h
  · exact absurd h nofun
  · exact absurd h nofun
  · split at h
    · exact absurd h nofun
    · next loaded hloaded =>
      obtain rfl : loaded = documents := Except.ok.inj h
      rfl

/-- Documents, each with the masks that it finds. -/
def found (known : Net.Masks) (documents : List Entries) : List (Net.Masks × Entries) :=
  threaded masksAfter known documents

theorem length_found (known : Net.Masks) (documents : List Entries) :
    (found known documents).length = documents.length := by
  induction documents generalizing known with
  | nil => rfl
  | cons d documents ih => exact congrArg (· + 1) (ih _)

/-- What the run on a file comes to that loads as documents which find the given masks. -/
structure IsBatch (process : Process) (tree : Tree) (path : Path) (target : Target)
    (documents : List (Net.Masks × Entries)) : Prop where
  /-- The run succeeds with the records of the documents, in order, if all have one. -/
  succeeds : ∀ us, (upgradeFile process tree path target).result = .ok us ↔
    List.Forall₂ (fun d u => (alone target d.1 d.2).result = .ok [u]) documents us
  /-- Otherwise it fails as the first document does that has none, whatever follows. -/
  fails : ∀ failure, (upgradeFile process tree path target).result = .error failure ↔
    ∃ before d after, documents = before ++ d :: after ∧
      (∀ b ∈ before, ∃ u, (alone target b.1 b.2).result = .ok [u]) ∧
      (alone target d.1 d.2).result = .error failure
  complete : ∀ us, (upgradeFile process tree path target).result = .ok us →
    (upgradeFile process tree path target).log =
        loadedNote path documents.length ::
          ((documents.flatMap fun d => (alone target d.1 d.2).log) ++
            [summary path documents.length]) ∧
      us.length = documents.length
  broken : ∀ before d after failure, documents = before ++ d :: after →
    (∀ b ∈ before, ∃ u, (alone target b.1 b.2).result = .ok [u]) →
    (alone target d.1 d.2).result = .error failure →
    (upgradeFile process tree path target).log =
      loadedNote path documents.length ::
        ((before.flatMap fun b => (alone target b.1 b.2).log) ++ (alone target d.1 d.2).log)
  /-- The records of a document are those of the steps that succeeded. -/
  logs : ∀ known d,
    (∀ u, (alone target known d).result = .ok [u] →
      IsComplete target known d u (alone target known d).log) ∧
    ∀ failure, (alone target known d).result = .error failure →
      IsBroken target known d failure (alone target known d).log
  /-- The summary is the only record above the level of details. -/
  summaries : (∀ us, (upgradeFile process tree path target).result = .ok us →
      (upgradeFile process tree path target).log.filter (fun note => note.level ≠ .debug) =
        [summary path documents.length]) ∧
    ∀ failure, (upgradeFile process tree path target).result = .error failure →
      (upgradeFile process tree path target).log.filter (fun note => note.level ≠ .debug) = []

section Run

variable {documents : List Entries} {us : List Upgraded} {failure : Failure}

theorem upgradeFile_of_ok (hload : (load process tree path).result = .ok documents)
    (h : (upgradeAll target process.masks documents).result = .ok us) :
    upgradeFile process tree path target =
      ⟨.ok us, loadedNote path documents.length ::
        ((upgradeAll target process.masks documents).log ++ [summary path us.length])⟩ := by
  rw [upgradeFile, andThen_of_ok hload, andThen_of_ok h, load_log_of_ok hload]
  rfl

theorem upgradeFile_of_error (hload : (load process tree path).result = .ok documents)
    (h : (upgradeAll target process.masks documents).result = .error failure) :
    upgradeFile process tree path target =
      ⟨.error failure,
        loadedNote path documents.length :: (upgradeAll target process.masks documents).log⟩ := by
  rw [upgradeFile, andThen_of_ok hload, andThen_of_error h, load_log_of_ok hload]
  rfl

theorem upgradeFile_result_of_load (hload : (load process tree path).result = .ok documents) :
    (upgradeFile process tree path target).result =
      (upgradeAll target process.masks documents).result := by
  cases h : (upgradeAll target process.masks documents).result with
  | ok us => rw [upgradeFile_of_ok hload h]
  | error failure => rw [upgradeFile_of_error hload h]

theorem succeeds_iff_alone {d : Net.Masks × Entries} :
    Succeeds (fun p => upgradeDocument target p.1 p.2) d ↔
      ∃ u, (alone target d.1 d.2).result = .ok [u] := by
  constructor
  · intro ⟨u, hu⟩
    exact ⟨u, alone_result_eq_ok_iff.mpr hu⟩
  · intro ⟨u, hu⟩
    exact ⟨u, alone_result_eq_ok_iff.mp hu⟩

theorem alone_log (known : Net.Masks) (d : Entries) :
    (alone target known d).log = (upgradeDocument target known d).log := by
  rw [alone_eq]

theorem upgradeAll_result_eq_ok_iff :
    (upgradeAll target known documents).result = .ok us ↔
      List.Forall₂ (fun d u => (alone target d.1 d.2).result = .ok [u]) (found known documents)
        us := by
  simp only [alone_result_eq_ok_iff]
  exact forEach_eq_ok_iff

theorem upgradeAll_result_eq_error_iff :
    (upgradeAll target known documents).result = .error failure ↔
      ∃ before d after, found known documents = before ++ d :: after ∧
        (∀ b ∈ before, ∃ u, (alone target b.1 b.2).result = .ok [u]) ∧
        (alone target d.1 d.2).result = .error failure := by
  simp only [alone_result_eq_error_iff, ← succeeds_iff_alone]
  exact forEach_eq_error_iff

theorem upgradeAll_log_of_ok (h : (upgradeAll target known documents).result = .ok us) :
    (upgradeAll target known documents).log =
      (found known documents).flatMap fun d => (alone target d.1 d.2).log := by
  simp only [alone_log]
  rw [upgradeAll, forEach_of_ok (forEach_eq_ok_iff.mp h)]
  rfl

theorem upgradeAll_log_of_error {before after : List (Net.Masks × Entries)}
    {d : Net.Masks × Entries} (hfound : found known documents = before ++ d :: after)
    (hbefore : ∀ b ∈ before, ∃ u, (alone target b.1 b.2).result = .ok [u])
    (hd : (alone target d.1 d.2).result = .error failure) :
    (upgradeAll target known documents).log =
      (before.flatMap fun b => (alone target b.1 b.2).log) ++ (alone target d.1 d.2).log := by
  have hsucceed : ∀ b ∈ before, Succeeds (fun p => upgradeDocument target p.1 p.2) b := by
    intro b hb
    exact succeeds_iff_alone.mpr (hbefore b hb)
  have hall : upgradeAll target known documents =
      forEach (fun p => upgradeDocument target p.1 p.2) (before ++ d :: after) := by
    rw [← hfound]
    rfl
  simp only [alone_log]
  rw [hall, forEach_of_error hsucceed (alone_result_eq_error_iff.mp hd)]

/-- The records of all documents are details. -/
theorem filter_flatMap_log (target : Target) (documents : List (Net.Masks × Entries)) :
    (documents.flatMap fun d => (alone target d.1 d.2).log).filter
      (fun note => note.level ≠ .debug) = [] := by
  rw [List.filter_eq_nil_iff]
  intro note hnote
  obtain ⟨d, -, hd⟩ := List.mem_flatMap.mp hnote
  rw [alone_log] at hd
  simp [level_of_mem_log hd]

theorem isBatch_of_load (hload : (load process tree path).result = .ok documents) :
    IsBatch process tree path target (found process.masks documents) where
  succeeds := by
    intro us
    rw [upgradeFile_result_of_load hload]
    exact upgradeAll_result_eq_ok_iff
  fails := by
    intro failure
    rw [upgradeFile_result_of_load hload]
    exact upgradeAll_result_eq_error_iff
  complete := by
    intro us h
    rw [upgradeFile_result_of_load hload] at h
    have hlength := (upgradeAll_result_eq_ok_iff.mp h).length_eq
    rw [upgradeFile_of_ok hload h, upgradeAll_log_of_ok h, ← hlength, length_found]
    exact ⟨rfl, rfl⟩
  broken := by
    intro before d after failure hfound hbefore hd
    have herror := upgradeAll_result_eq_error_iff.mpr ⟨before, d, after, hfound, hbefore, hd⟩
    rw [upgradeFile_of_error hload herror, upgradeAll_log_of_error hfound hbefore hd,
      length_found]
  logs := by
    intro known d
    rw [alone_log]
    constructor
    · intro u h
      exact isComplete_of_ok (alone_result_eq_ok_iff.mp h)
    · intro failure h
      exact isBroken_of_error (alone_result_eq_error_iff.mp h)
  summaries := by
    constructor
    · intro us h
      rw [upgradeFile_result_of_load hload] at h
      have hlength := (upgradeAll_result_eq_ok_iff.mp h).length_eq
      rw [upgradeFile_of_ok hload h, upgradeAll_log_of_ok h, ← hlength]
      dsimp only
      rw [List.filter_cons_of_neg (by simp [loadedNote]), List.filter_append, filter_flatMap_log]
      rfl
    · intro failure h
      rw [upgradeFile_result_of_load hload] at h
      obtain ⟨before, d, after, hfound, hbefore, hd⟩ := upgradeAll_result_eq_error_iff.mp h
      have hlast : (alone target d.1 d.2).log.filter (fun note => note.level ≠ .debug) = [] := by
        simpa using filter_flatMap_log target [d]
      rw [upgradeFile_of_error hload h, upgradeAll_log_of_error hfound hbefore hd]
      dsimp only
      rw [List.filter_cons_of_neg (by simp [loadedNote]), List.filter_append, filter_flatMap_log,
        hlast]
      rfl

theorem upgradeFile_backend_ne_malformed (reason : Identity.Malformed) :
    (upgradeFile process tree path .backend).result ≠ .error (.malformed reason) := by
  intro h
  cases hload : (load process tree path).result with
  | error failure =>
    rw [upgradeFile, andThen_of_error hload] at h
    exact (isOfDocuments_of_load hload).ne_malformed reason (Except.error.inj h)
  | ok documents =>
    rw [upgradeFile_result_of_load hload] at h
    obtain ⟨-, d, -, -, -, hd⟩ := upgradeAll_result_eq_error_iff.mp h
    exact upgradeDocument_backend_ne_malformed reason (alone_result_eq_error_iff.mp hd)

/-- Without truth values and floating-point numbers as masks, a document gives what it gives where
no masks are known. -/
theorem alone_eq_empty_of_mem (hknown : known.OnlyNumbers) (h : ∀ d ∈ documents, IsSteady d) :
    ∀ d ∈ found known documents, alone target d.1 d.2 = alone target .empty d.2 := by
  intro d hd
  rw [alone_eq, alone_eq, upgradeDocument_eq_empty_of_mem target hknown h d hd]

end Run

/-- The documents of a file that loads are converted each on its own, in their order, up to the
first that fails, and on the way to the backend form no identifier is found to be malformed. What a
document finds of those before it are the masks that they made known, and these do not matter if
neither they nor the masks of the file are given as truth values or floating-point numbers. -/
theorem upgradeFile_batch (process : Process) (tree : Tree) (path : Path) (target : Target) :
    (∀ documents, (load process tree path).result = .ok documents →
        IsBatch process tree path target (found process.masks documents) ∧
          (process.masks.OnlyNumbers → (∀ d ∈ documents, IsSteady d) →
            ∀ d ∈ found process.masks documents,
              alone target d.1 d.2 = alone target .empty d.2)) ∧
      (target = .backend → ∀ reason,
        (upgradeFile process tree path target).result ≠ .error (.malformed reason)) := by
  constructor
  · intro documents hload
    exact ⟨isBatch_of_load hload, alone_eq_empty_of_mem⟩
  · intro htarget reason
    rw [htarget]
    exact upgradeFile_backend_ne_malformed reason

/-- Two stored endpoints of `k8s`, the second without a namespace in its workload id. -/
def namedAndNameless : List Stored :=
  [Upgrade.storedUnder ⟨"node", "k8s", "ns.web", "eth0"⟩,
    Upgrade.storedUnder ⟨"node", "k8s", "web", "eth0"⟩]

def treeWithEndpoints : Tree :=
  ⟨[], [(["resources.yaml"],
    .file (Yaml.write (namedAndNameless.map Stored.document)).toUTF8.toList)]⟩

theorem upgradeFile_batch_namedAndNameless :
    (load .fresh treeWithEndpoints resourcesPath).result =
        .ok (namedAndNameless.map fun e => e.document.entries) ∧
      IsBatch .fresh treeWithEndpoints resourcesPath .v3
        (found .empty (namedAndNameless.map fun e => e.document.entries)) ∧
      (∀ d ∈ namedAndNameless.map fun e => e.document.entries, IsSteady d) ∧
      ∀ d ∈ found .empty (namedAndNameless.map fun e => e.document.entries),
        alone .v3 d.1 d.2 = alone .v3 .empty d.2 := by
  have hkept : ∀ r ∈ namedAndNameless.map AnyRecord.stored, Yaml.Keeps r.document := by
    intro r hr
    obtain ⟨e, he, rfl⟩ := List.mem_map.mp hr
    cases List.mem_pair.mp he with
    | inl eq => exact eq ▸ Yaml.keeps_mapping_of_isShort (by decide)
    | inr eq => exact eq ▸ Yaml.keeps_mapping_of_isShort (by decide)
  have hload := load_write .fresh treeWithEndpoints resourcesPath
    (namedAndNameless.map AnyRecord.stored) (Or.inl lower_suffix_resourcesPath) rfl hkept
  have hsteady : ∀ d ∈ namedAndNameless.map fun e => e.document.entries, IsSteady d := by
    intro d hd
    obtain ⟨e, he, rfl⟩ := List.mem_map.mp hd
    cases List.mem_pair.mp he with
    | inl eq => exact eq ▸ by decide
    | inr eq => exact eq ▸ by decide
  obtain ⟨hbatch, halone⟩ :=
    (upgradeFile_batch .fresh treeWithEndpoints resourcesPath .v3).1 _ hload
  exact ⟨hload, hbatch, hsteady, halone Net.Masks.onlyNumbers_empty hsteady⟩

/-- A truth value as a mask is taken for the number that an earlier document made known. -/
theorem alone_maskedDocument_truth :
    ∃ d ∈ found .empty [maskedDocument (.int 1), maskedDocument (.bool true)],
      (alone .v3 d.1 d.2).result ≠ (alone .v3 .empty d.2).result := by
  have halone {known : Net.Masks} (length : Net.PrefixLength 32)
      (h : Stored.read known (.map (body (maskedDocument (.bool true)))) =
        .ok (maskedStored length)) :
      (alone .v3 known (maskedDocument (.bool true))).result =
        .ok [.v3 (Upgrade.resourceOf (maskedStored length) ⟨some "ns", "web-1"⟩)] := by
    rw [alone_result_eq_ok_iff, upgradeDocument_result, readStored_maskedDocument h]
    have hw : Identity.decodeWorkloadId Identity.k8s "ns.web-1" =
        .ok ⟨some "ns", "web-1"⟩ := rfl
    exact finish_eq_ok_iff.mpr
      ⟨_, Upgrade.toResource_result_eq_ok_iff.mpr ⟨_, hw, rfl⟩, rfl⟩
  have hfound : found .empty [maskedDocument (.int 1), maskedDocument (.bool true)] =
      [(.empty, maskedDocument (.int 1)),
        (⟨[.ofNumber 1], []⟩, maskedDocument (.bool true))] := rfl
  refine ⟨_, hfound ▸ List.mem_cons_of_mem _ List.mem_cons_self, fun h => ?_⟩
  rw [halone (.ofNumber 1) (by decide +kernel), halone Upgrade.truthLength (by decide +kernel)] at h
  have hresource := Upgraded.v3.inj (List.cons.inj (Except.ok.inj h)).1
  exact absurd (congrArg (fun r => r.spec.networks) hresource) (by decide +kernel)

end Documents

end EndpointUpgrade
