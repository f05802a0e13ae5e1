import EndpointUpgrade.Labels

/-!
# Names that changed from v1 to v3

The label that holds the namespace has a new key, and the profile ids of namespaces have a shorter
beginning. All other labels and profile ids stay as they are.
-/

namespace EndpointUpgrade.Upgrade

open Text

def namespaceKeyV1 : RawText := .whole "calico/k8s_ns"

def namespaceKeyV3 : RawText := .whole "projectcalico.org/namespace"

/-- How profile ids of namespaces begin in v1. -/
def profileStartV1 : String := "k8s_ns."

/-- How profile ids of namespaces begin in v3. -/
def profileStartV3 : String := "kns."

def labelKey (key : RawText) : RawText :=
  if key = namespaceKeyV1 then namespaceKeyV3 else key

/-- The v3 labels. Where two keys become one, the later value stands in the place of the earlier
key. -/
def labels (ls : Labels) : Labels :=
  .ofPairs (ls.entries.map fun e => (labelKey e.1, e.2))

/-- What follows a given beginning of a list. -/
def dropStart? {α : Type} [DecidableEq α] : List α → List α → Option (List α)
  | [], cs => some cs
  | _ :: _, [] => none
  | s :: start, c :: cs => if s = c then dropStart? start cs else none

def profileId (id : String) : String :=
  match dropStart? profileStartV1.toList id.toList with
  | some rest => String.ofList (profileStartV3.toList ++ rest)
  | none => id

end EndpointUpgrade.Upgrade
