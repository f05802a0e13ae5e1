/-!
# Separated fields

Splitting a text at every occurrence of a separator, and joining fields back.
-/

namespace EndpointUpgrade.Text

/-- The fields between the occurrences of a separator; a text without it is its only field. -/
def fields (separator : Char) : List Char → List (List Char)
  | [] => [[]]
  | c :: rest =>
    if c = separator then [] :: fields separator rest
    else
      match fields separator rest with
      | [] => [[c]]
      | f :: fs => (c :: f) :: fs

/-- Fields written one after the other with a separator between them. -/
def joined (separator : Char) : List (List Char) → List Char
  | [] => []
  | [f] => f
  | f :: fs => f ++ separator :: joined separator fs

/-- The text before the first occurrence of a separator, and the text after it, if it occurs. -/
def cutAt (separator : Char) : List Char → List Char × Option (List Char)
  | [] => ([], none)
  | c :: rest =>
    if c = separator then ([], some rest)
    else
      let (before, after) := cutAt separator rest
      (c :: before, after)

theorem fields_ne_nil (separator : Char) (cs : List Char) : fields separator cs ≠ [] := by
  cases cs with
  | nil => simp [fields]
  | cons c rest =>
    simp only [fields]
    split
    · simp
    · split <;> simp

end EndpointUpgrade.Text
