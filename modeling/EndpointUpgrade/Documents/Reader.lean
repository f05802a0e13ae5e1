import EndpointUpgrade.Failure
import EndpointUpgrade.Log

/-!
# Records from documents

A document says by its kind which record it holds, and documents of the v1 API also state their
version. What is left when kind and version are taken away is the body, which is read as the record.
-/

namespace EndpointUpgrade.Documents

open Endpoint

/-- A record that documents hold. -/
inductive Record where
  | v1 (e : V1)
  | stored (e : Stored)

def kindKey : String := "kind"

def versionKey : String := "apiVersion"

abbrev Entries := List (Value × Value)

/-- The body of a document: everything but its kind and version. -/
def body (entries : Entries) : Entries := Value.without versionKey (Value.without kindKey entries)

def rejected {α : Type} (kind : String) (x : Reading.Checked α) (name : String) :
    Except Failure α :=
  x.orFail (fun issues => .invalidBody kind ⟨name, issues⟩) .misused

def refused (shown : Value) (failure : Failure) : Failure :=
  if shown.isShowable then failure else .longInteger

/-- The record that a document holds, where some masks are known. -/
def record (known : Net.Masks) (entries : Entries) : Except Failure Record :=
  let kind := (Value.lookup? kindKey entries).getD .null
  let version := (Value.lookup? versionKey entries).getD .null
  match kind.unkeyable? with
  | some part => .error (.unkeyableKind part)
  | none =>
    match kind with
    | .text name =>
      if name = V1.kind then
        match version with
        | .text v =>
          if v = V1.apiVersion then
            return .v1 (← rejected name (V1.read known (.map (body entries))) V1.recordName)
          else throw (refused version (.unsupportedVersion version name))
        | _ => throw (refused version (.unsupportedVersion version name))
      else if name = Stored.kind then
        return .stored (← rejected name (Stored.read known (.map (body entries))) Stored.recordName)
      else throw (refused kind (.unsupportedKind kind))
    | _ => throw (refused kind (.unsupportedKind kind))

def Record.kind : Record → String
  | .v1 _ => V1.kind
  | .stored _ => Stored.kind

def Record.document : Record → Document
  | .v1 e => e.document
  | .stored e => e.document

def masksAfter (known : Net.Masks) (entries : Entries) : Net.Masks :=
  match Value.lookup? kindKey entries with
  | some (.text name) =>
    if name = V1.kind then V1.masksAfter known (.map (body entries))
    else if name = Stored.kind then Stored.masksAfter known (.map (body entries))
    else known
  | _ => known

def readRecord (known : Net.Masks) (entries : Entries) : Logged (Except Failure Record) :=
  match record known entries with
  | .ok r => Logged.noted ⟨.debug, .reader, "Read " ++ r.kind ++ " document"⟩ r
  | .error failure => Logged.failure failure

end EndpointUpgrade.Documents
