import EndpointUpgrade.Reading.Scalar

/-!
# Labels

A map from texts to texts whose entries keep the order in which their keys were first put in. A
key that is put in again keeps its place and takes the new value. A key may have halves of
characters that stand alone; a document shows it without them.
-/

namespace EndpointUpgrade

open Text

/-- Puts a pair into a list of pairs: in the place of the pair with the same key, or at the end. -/
def putPair (key : RawText) (value : String) : List (RawText × String) → List (RawText × String)
  | [] => [(key, value)]
  | e :: rest => if e.1 = key then (key, value) :: rest else e :: putPair key value rest

theorem keys_putPair (key : RawText) (value : String) (es : List (RawText × String)) :
    (putPair key value es).map Prod.fst =
      if key ∈ es.map Prod.fst then es.map Prod.fst else es.map Prod.fst ++ [key] := by
  induction es with
  | nil => simp [putPair]
  | cons e rest ih =>
    by_cases h : e.1 = key
    · simp [putPair, h]
    · have h' : ¬key = e.1 := fun eq => h eq.symm
      simp only [putPair, h, if_false, List.map_cons, ih, List.mem_cons, h', false_or]
      split <;> simp

theorem nodup_putPair (key : RawText) (value : String) {es : List (RawText × String)}
    (nodup : (es.map Prod.fst).Nodup) : ((putPair key value es).map Prod.fst).Nodup := by
  rw [keys_putPair]
  split
  · exact nodup
  · rename_i absent
    rw [List.nodup_append]
    refine ⟨nodup, by simp, ?_⟩
    intro a ha b hb
    have : b = key := by simpa using hb
    subst this
    intro eq
    exact absent (eq ▸ ha)

/-- Pairs of texts in order, every key once. -/
structure Labels where
  entries : List (RawText × String)
  nodup : (entries.map Prod.fst).Nodup
deriving DecidableEq

namespace Labels

def empty : Labels := ⟨[], by simp⟩

instance : Inhabited Labels := ⟨empty⟩

instance : EmptyCollection Labels := ⟨empty⟩

/-- Gives a key a value; a key that is there already keeps its place. -/
def insert (ls : Labels) (key : RawText) (value : String) : Labels :=
  ⟨putPair key value ls.entries, nodup_putPair key value ls.nodup⟩

def ofPairs (pairs : List (RawText × String)) : Labels :=
  pairs.foldl (fun ls p => ls.insert p.1 p.2) empty

/-- The value of the first pair with a key. -/
def lookup? (key : RawText) : List (RawText × String) → Option String
  | [] => none
  | e :: rest => if e.1 = key then some e.2 else lookup? key rest

def get? (ls : Labels) (key : RawText) : Option String := lookup? key ls.entries

/-- Labels with the same keys and values, in whatever order. -/
def Same (ls ms : Labels) : Prop :=
  ls.entries.length = ms.entries.length ∧ ∀ e ∈ ls.entries, ms.get? e.1 = some e.2

instance (ls ms : Labels) : Decidable (ls.Same ms) := by
  unfold Same; infer_instance

/-- The labels that a document shows. Keys that are shown alike become one. -/
def shown (ls : Labels) : Labels := ofPairs (ls.entries.map fun e => (.whole e.1.lossy, e.2))

def pairs (ls : Labels) : List (String × String) :=
  ls.shown.entries.map fun e => (e.1.lossy, e.2)

/-- Reads one pair. A key that is no text is reported below the place of its value. -/
def readPair (key value : Value) : Reading.Checked (RawText × String) :=
  Prod.mk
    <$> ((Reading.rawText key).under (.field "[key]")).under (.ofKey key)
    <*> (Reading.text value).under (.ofKey key)

def readPairs : List (Value × Value) → Reading.Checked (List (RawText × String))
  | [] => .ok []
  | (key, value) :: rest => List.cons <$> readPair key value <*> readPairs rest

def read : Value → Reading.Checked Labels
  | .map entries => ofPairs <$> readPairs entries
  | _ => .fault .noMapping

end Labels

end EndpointUpgrade
