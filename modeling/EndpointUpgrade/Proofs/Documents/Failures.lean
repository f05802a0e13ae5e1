import EndpointUpgrade.Documents.Upgrade
import EndpointUpgrade.Proofs.Documents.Loading

/-!
# Failures of single documents and of loading

A document that is not read as a record, and a file that is not loaded, is reported in all cases but
a few: a kind that is no key, a kind or version that has an integer too long to be shown, a misuse
of a value in the body, a file that is nested too deeply, a YAML scalar without a value, and a JSON
integer with too many digits.
-/

namespace EndpointUpgrade

def Failure.isDocumentLoad (f : Failure) : Bool :=
  f.report?.any fun report => report.kind.isDocumentLoad

namespace Documents

open Endpoint Files Text

variable {known : Net.Masks} {entries : Entries} {failure : Failure}
variable {process : Process} {tree : Tree} {path : Path}

/-! ## Documents -/

def kindOf (entries : Entries) : Value := (Value.lookup? kindKey entries).getD .null

def versionOf (entries : Entries) : Value := (Value.lookup? versionKey entries).getD .null

/-- The body of a document is not read to its end, because a value is misused. -/
inductive Breaks (known : Net.Masks) (entries : Entries) (m : Value.Misuse) : Prop
  | v1 : kindOf entries = .text V1.kind → versionOf entries = .text V1.apiVersion →
      V1.read known (.map (body entries)) = .broken m → Breaks known entries m
  | stored : kindOf entries = .text Stored.kind →
      Stored.read known (.map (body entries)) = .broken m → Breaks known entries m

/-- A document is refused without a report: its kind cannot be looked up, the message would show an
integer that is too long, or a value is misused. -/
inductive Unanswered (known : Net.Masks) (entries : Entries) : Failure → Prop
  | kind {part : Value.Unkeyable} : (kindOf entries).unkeyable? = some part →
      Unanswered known entries (.unkeyableKind part)
  | longKind : (kindOf entries).unkeyable? = none → (kindOf entries).isShowable = false →
      Unanswered known entries .longInteger
  | longVersion : kindOf entries = .text V1.kind → (versionOf entries).isShowable = false →
      Unanswered known entries .longInteger
  | misused {m : Value.Misuse} : Breaks known entries m → Unanswered known entries (.misused m)

theorem refused_of_isShowable {shown : Value} (h : shown.isShowable = true) :
    refused shown failure = failure := by
  rw [refused, if_pos h]

theorem refused_of_not_isShowable {shown : Value} (h : shown.isShowable = false) :
    refused shown failure = .longInteger := by
  rw [refused, h]
  rfl

/-- A refusal whose message can be shown is reported; the others are unanswered. -/
theorem unanswered_or_documentLoad_refused {shown : Value} (hload : failure.isDocumentLoad = true)
    (hlong : shown.isShowable = false → Unanswered known entries .longInteger) :
    Unanswered known entries (refused shown failure) ∨
      (refused shown failure).isDocumentLoad = true := by
  cases hshown : shown.isShowable with
  | true =>
    rw [refused_of_isShowable hshown]
    exact .inr hload
  | false =>
    rw [refused_of_not_isShowable hshown]
    exact .inl (hlong hshown)

/-- A body that is not read as a record is rejected, or a value in it is misused. -/
theorem broken_or_documentLoad_of_rejected {α β : Type} {kind name : String}
    {x : Reading.Checked α} {f : α → β} (h : (rejected kind x name).map f = .error failure) :
    (∃ m, x = .broken m ∧ failure = .misused m) ∨ failure.isDocumentLoad = true := by
  unfold rejected at h
  cases x with
  | ok a =>
    change Except.ok (f a) = Except.error failure at h
    cases h
  | faulty issues =>
    obtain rfl := Except.error.inj h
    exact .inr rfl
  | broken m => exact .inl ⟨m, rfl, (Except.error.inj h).symm⟩

theorem record_of_unkeyable {part : Value.Unkeyable} (h : (kindOf entries).unkeyable? = some part) :
    record known entries = .error (.unkeyableKind part) := by
  unfold kindOf at h
  unfold record
  dsimp only
  rw [h]

theorem record_of_v1 (hkind : kindOf entries = .text V1.kind)
    (hversion : versionOf entries = .text V1.apiVersion) :
    record known entries =
      (rejected V1.kind (V1.read known (.map (body entries))) V1.recordName).map .v1 := by
  unfold kindOf at hkind
  unfold versionOf at hversion
  unfold record
  rw [hkind, hversion]
  dsimp only [Value.unkeyable?]
  rw [if_pos rfl, if_pos rfl]
  rfl

theorem record_of_version (hkind : kindOf entries = .text V1.kind)
    (hversion : versionOf entries ≠ .text V1.apiVersion) :
    record known entries =
      .error (refused (versionOf entries) (.unsupportedVersion (versionOf entries) V1.kind)) := by
  unfold kindOf at hkind
  unfold versionOf at hversion ⊢
  unfold record
  rw [hkind]
  dsimp only [Value.unkeyable?]
  rw [if_pos rfl]
  split
  · next v hv =>
    rw [hv] at hversion
    rw [if_neg fun eq => hversion (congrArg Value.text eq)]
    rfl
  · rfl

theorem record_of_stored (hkind : kindOf entries = .text Stored.kind) :
    record known entries =
      (rejected Stored.kind (Stored.read known (.map (body entries))) Stored.recordName).map
        .stored := by
  unfold kindOf at hkind
  unfold record
  rw [hkind]
  dsimp only [Value.unkeyable?]
  rw [if_neg (by decide), if_pos rfl]
  rfl

theorem record_of_kind (hkey : (kindOf entries).unkeyable? = none)
    (hv1 : kindOf entries ≠ .text V1.kind) (hstored : kindOf entries ≠ .text Stored.kind) :
    record known entries =
      .error (refused (kindOf entries) (.unsupportedKind (kindOf entries))) := by
  unfold kindOf at hkey hv1 hstored ⊢
  unfold record
  dsimp only
  rw [hkey]
  dsimp only
  split
  · next name hname =>
    rw [hname] at hv1 hstored
    rw [if_neg fun eq => hv1 (congrArg Value.text eq),
      if_neg fun eq => hstored (congrArg Value.text eq)]
    rfl
  · rfl

/-- What can become of reading a document: it is a record, a reported failure, or unanswered. -/
theorem unanswered_or_documentLoad (h : record known entries = .error failure) :
    Unanswered known entries failure ∨ failure.isDocumentLoad = true := by
  cases hkey : (kindOf entries).unkeyable? with
  | some part =>
    rw [record_of_unkeyable hkey] at h
    obtain rfl := Except.error.inj h
    exact .inl (.kind hkey)
  | none =>
    by_cases hv1 : kindOf entries = .text V1.kind
    · by_cases hversion : versionOf entries = .text V1.apiVersion
      · rw [record_of_v1 hv1 hversion] at h
        obtain ⟨m, hbroken, rfl⟩ | hload := broken_or_documentLoad_of_rejected h
        · exact .inl (.misused (.v1 hv1 hversion hbroken))
        · exact .inr hload
      · rw [record_of_version hv1 hversion] at h
        obtain rfl := Except.error.inj h
        exact unanswered_or_documentLoad_refused rfl (.longVersion hv1)
    · by_cases hstored : kindOf entries = .text Stored.kind
      · rw [record_of_stored hstored] at h
        obtain ⟨m, hbroken, rfl⟩ | hload := broken_or_documentLoad_of_rejected h
        · exact .inl (.misused (.stored hstored hbroken))
        · exact .inr hload
      · rw [record_of_kind hkey hv1 hstored] at h
        obtain rfl := Except.error.inj h
        exact unanswered_or_documentLoad_refused rfl (.longKind hkey)

theorem readRecord_result (known : Net.Masks) (entries : Entries) :
    (readRecord known entries).result = record known entries := by
  unfold readRecord
  cases record known entries with
  | ok r => rfl
  | error failure => rfl

theorem Unanswered.report?_eq_none (h : Unanswered known entries failure) :
    failure.report? = none := by
  cases h with
  | kind => rfl
  | longKind => rfl
  | longVersion => rfl
  | misused => rfl

/-! ## Loading -/

variable {format : FileFormat} {content : List UInt8} {values : List Value}

/-- A content has no documents, and there is no report on it: it is nested too deeply, a YAML scalar
has no value, or a JSON integer has too many digits. -/
inductive Unread (process : Process) (format : FileFormat) (content : List UInt8) : Failure → Prop
  | deepYaml {text : String} : format = .yaml → decode content = some text →
      process.exhausts text = true → Unread process format content (.tooDeep "")
  | yaml {text : String} {fault : Yaml.Fault} : format = .yaml → decode content = some text →
      process.exhausts text = false → Yaml.read text = .error fault → fault ≠ .illFormed →
      Unread process format content (.yamlValue fault)
  | json {text : String} {count : Nat} : format = .json → decode content = some text →
      Json.read process.jsonLevels text = .error (.tooManyDigits count) →
      Unread process format content (.jsonDigits count)
  | deepJson {text kind : String} : format = .json → decode content = some text →
      Json.read process.jsonLevels text = .error (.tooDeep kind) →
      Unread process format content (tooDeepJson kind)

section

variable {text : String} (hdecode : decode content = some text)
include hdecode

theorem unread_or_documentLoad_yaml (h : yamlDocuments process path text = .error failure) :
    Unread process .yaml content failure ∨ failure.isDocumentLoad = true := by
  unfold yamlDocuments at h
  split at h
  · next hdeep =>
    obtain rfl := Except.error.inj h
    exact .inl (.deepYaml rfl hdecode hdeep)
  · next hshallow =>
    split at h
    · contradiction
    · obtain rfl := Except.error.inj h
      exact .inr rfl
    · next fault hill hread =>
      obtain rfl := Except.error.inj h
      exact .inl (.yaml rfl hdecode (eq_false_of_ne_true hshallow) hread hill)

theorem unread_or_documentLoad_json (h : jsonDocuments process path text = .error failure) :
    Unread process .json content failure ∨ failure.isDocumentLoad = true := by
  unfold jsonDocuments at h
  split at h
  · contradiction
  · contradiction
  · obtain rfl := Except.error.inj h
    exact .inr rfl
  · next count hread =>
    obtain rfl := Except.error.inj h
    exact .inl (.json rfl hdecode hread)
  · next kind hread =>
    obtain rfl := Except.error.inj h
    exact .inl (.deepJson rfl hdecode hread)

end

theorem unread_or_documentLoad (h : parse process path format content = .error failure) :
    Unread process format content failure ∨ failure.isDocumentLoad = true := by
  unfold parse at h
  split at h
  · obtain rfl := Except.error.inj h
    exact .inr rfl
  · next text hdecode =>
    cases format with
    | yaml => exact unread_or_documentLoad_yaml hdecode h
    | json => exact unread_or_documentLoad_json hdecode h

theorem Unread.report?_eq_none (h : Unread process format content failure) :
    failure.report? = none := by
  cases h <;> rfl

theorem mappings_eq_error {position : Nat} (h : mappings path position values = .error failure) :
    ∃ n, failure = .noMapping path n := by
  induction values generalizing position with
  | nil => contradiction
  | cons v values ih =>
    unfold mappings at h
    split at h
    · contradiction
    · next entries rest heq =>
      obtain ⟨rfl, rfl⟩ := List.cons.inj heq
      cases hrest : mappings path (position + 1) values with
      | ok rest =>
        rw [hrest] at h
        contradiction
      | error f =>
        rw [hrest] at h
        obtain rfl : f = failure := Except.error.inj h
        exact ih hrest
    · exact ⟨position, (Except.error.inj h).symm⟩

theorem unread_or_documentLoad_documents
    (h : parse process path format content >>= mappings path 0 = .error failure) :
    Unread process format content failure ∨ failure.isDocumentLoad = true := by
  cases hparse : parse process path format content with
  | error f =>
    rw [hparse] at h
    obtain rfl : f = failure := Except.error.inj h
    exact unread_or_documentLoad hparse
  | ok values =>
    rw [hparse] at h
    obtain ⟨n, rfl⟩ := mappings_eq_error h
    exact .inr rfl

section File

variable (hfile : tree.entry? path = .ok (some (.file content)))
variable (hformat : FileFormat.ofSuffix? path.suffix = some format)
include hfile hformat

end File

/-! ## Identifiers -/

/-- A failure that has no report, or is reported as a document that cannot be loaded. -/
def IsOfDocuments (failure : Failure) : Prop :=
  failure.report? = none ∨ failure.isDocumentLoad = true

theorem IsOfDocuments.ne_malformed (h : IsOfDocuments failure) (reason : Identity.Malformed) :
    failure ≠ .malformed reason := by
  intro eq
  rw [eq] at h
  cases h with
  | inl hnone => contradiction
  | inr hload => contradiction

theorem isOfDocuments_of_record (h : record known entries = .error failure) :
    IsOfDocuments failure :=
  (unanswered_or_documentLoad h).imp_left Unanswered.report?_eq_none

theorem isOfDocuments_of_fileDocuments (h : fileDocuments process tree path = .error failure) :
    IsOfDocuments failure := by
  unfold fileDocuments at h
  split at h
  · obtain rfl := Except.error.inj h
    exact .inr rfl
  · split at h
    · obtain rfl := Except.error.inj h
      exact .inl rfl
    · exact (unread_or_documentLoad_documents h).imp_left Unread.report?_eq_none

/-- Loading has nothing to do with identifiers. -/
theorem isOfDocuments_of_load (h : (load process tree path).result = .error failure) :
    IsOfDocuments failure := by
  cases hentry : tree.entry? path with
  | error fault =>
    rw [load, hentry] at h
    obtain rfl := Except.error.inj h
    exact .inl rfl
  | ok found =>
    cases found with
    | none =>
      rw [load, hentry] at h
      obtain rfl := Except.error.inj h
      exact .inr rfl
    | some entry =>
      rw [load_result hentry] at h
      exact isOfDocuments_of_fileDocuments h

end Documents

end EndpointUpgrade
