import EndpointUpgrade.Proofs.Yaml.Kept

/-!
# Short texts

No line is folded for a short text, whatever it consists of, and a short key has room in front of
its colon. So a document of short texts without the next-line character keeps what it says, if it is
not nested deeply.
-/

namespace EndpointUpgrade.Yaml

open Text

variable {cs : List Char}

theorem length_escapeOf_le (c : Char) : (escapeOf c).length ≤ 10 := by
  rw [escapeOf]
  cases escapeSign? c with
  | some sign => exact (by decide : 2 ≤ 10)
  | none =>
    dsimp only
    split
    · have hlength := length_upperHex (k := 1) (n := c.toNat) (by omega)
      rw [List.length_cons, List.length_cons, hlength]
      decide
    · split
      · have hlength := length_upperHex (k := 3) (n := c.toNat) (by omega)
        rw [List.length_cons, List.length_cons, hlength]
        decide
      · have hcode := toNat_le c
        have hlength := length_upperHex (k := 7) (n := c.toNat) (by omega)
        exact Nat.le_of_eq (congrArg (· + 2) hlength)

theorem gainsSpace_of_length {folding : Folding} {column : Nat} {before : Option Char}
    {besideEscape : Bool} (h : column + 10 * cs.length ≤ width) :
    gainsSpace folding column before besideEscape cs = false := by
  induction cs generalizing column before besideEscape with
  | nil => rfl
  | cons c cs ih =>
    rw [List.length_cons] at h
    have hescape := length_escapeOf_le c
    have hplain : ¬width < column := by omega
    have hescaped : ¬width < column + (escapeOf c).length - 1 := by omega
    rw [gainsSpace]
    simp only [hplain, hescaped, decide_false, Bool.and_false, Bool.false_eq_true, if_false]
    split
    · exact ih (by omega)
    · exact ih (by omega)

theorem length_doubleRest_le (cs : List Char) (column : Nat) (before : Option Char)
    (besideEscape : Bool) :
    (doubleRest none column before besideEscape cs).length ≤ 10 * cs.length := by
  induction cs generalizing column before besideEscape with
  | nil => exact Nat.zero_le _
  | cons c cs ih =>
    have hescape := length_escapeOf_le c
    rw [doubleRest]
    simp only [Option.isSome_none, Bool.false_and, Bool.false_eq_true, if_false]
    split
    · have := ih (column + 1) (some c) false
      simp only [List.length_cons]
      omega
    · have := ih (column + (escapeOf c).length) (some c) true
      simp only [List.length_append, List.length_cons]
      omega

theorem length_key_le (key : String) (indent : Nat) :
    (scalarChars none true indent key).length ≤ 10 * key.length + 2 := by
  rw [scalarChars, ← String.length_toList]
  cases hstyle : style true key with
  | plain =>
    dsimp only
    rw [plainRest_none]
    omega
  | single =>
    obtain ⟨hquote, -, -, hline⟩ := styledSingle_of_style hstyle
    have hplain : ∀ c ∈ key.toList, c ≠ '\'' ∧ endsLine c = false := by
      refine fun c hc => ⟨?_, hline rfl c hc⟩
      rintro rfl
      exact hquote hc
    dsimp only
    rw [singleRest_none _ _ hplain]
    simp only [List.length_append, List.length_cons, List.length_nil]
    omega
  | double =>
    have := length_doubleRest_le key.toList (indent + 1) none true
    simp only [List.length_append, List.length_cons, List.length_nil]
    omega

/-- A text of some length at most without the next-line character. -/
structure IsShort (most : Nat) (s : String) : Prop where
  length : s.length ≤ most
  nextLine : '\x85' ∉ s.toList

instance (most : Nat) (s : String) : Decidable (IsShort most s) :=
  decidable_of_iff (s.length ≤ most ∧ '\x85' ∉ s.toList)
    ⟨fun h => ⟨h.1, h.2⟩, fun h => ⟨h.length, h.nextLine⟩⟩

theorem IsShort.keepsText {indent column most : Nat} {s : String} (h : IsShort most s)
    (hindent : indent < width)
    (hroom : column + 1 + 10 * most ≤ width) : KeepsText indent column s := by
  have hlength := h.length
  rw [← String.length_toList] at hlength
  rw [KeepsText]
  cases style false s with
  | plain => exact keepsSpaces_of_length (by omega)
  | single => exact h.nextLine
  | double => exact ⟨hindent, gainsSpace_of_length (by omega)⟩

theorem IsShort.keepsKey {indent : Nat} {key : String} (h : IsShort 100 key)
    (hindent : indent ≤ 80) : KeepsKey indent key := by
  rw [KeepsKey]
  split
  · have := length_key_le key indent
    have := h.length
    omega
  · exact h.keepsText (by rw [width]; omega) (by rw [width]; omega)

theorem columnAfterKey_le {key : String} (h : IsShort 100 key) (indent : Nat) :
    columnAfterKey indent key ≤ indent + 1003 := by
  rw [columnAfterKey]
  split
  · rename_i hsimple
    have := length_key_le key indent
    have := h.length
    rw [keyChars, if_pos hsimple, List.length_append, List.length_cons, List.length_nil]
    omega
  · omega

/-- A document that is nested to some depth at most, with texts of up to 300 characters, keys of up
to 100, and integers that can be converted. -/
def isShort : Nat → Document → Bool
  | _, .text s => IsShort 300 s
  | _, .number n => FitsConversion n
  | 0, .list _ => false
  | 0, .mapping _ => false
  | depth + 1, .list items => items.all (isShort depth)
  | depth + 1, .mapping entries => entries.all fun e => IsShort 100 e.1 && isShort depth e.2

theorem keepsItems_of {indent : Nat} {items : List Document}
    (h : ∀ d ∈ items, KeepsItem (indent + 4) d) : KeepsItems indent items := by
  induction items with
  | nil => rw [KeepsItems]; trivial
  | cons d rest ih =>
    rw [KeepsItems]
    exact ⟨h d List.mem_cons_self, ih fun x hx => h x (List.mem_cons_of_mem _ hx)⟩

theorem keepsEntries_of {indent : Nat} {entries : List (String × Document)}
    (h : ∀ e ∈ entries,
      KeepsKey indent e.1 ∧ KeepsValue indent (columnAfterKey indent e.1) e.2) :
    KeepsEntries indent entries := by
  induction entries with
  | nil => rw [KeepsEntries]; trivial
  | cons e rest ih =>
    obtain ⟨key, d⟩ := e
    have hfirst := h (key, d) List.mem_cons_self
    rw [KeepsEntries]
    exact ⟨hfirst.1, hfirst.2, ih fun x hx => h x (List.mem_cons_of_mem _ hx)⟩

theorem keepsText_of_isShort {depth indent : Nat} {s : String}
    (h : isShort depth (.text s) = true) (hindent : indent ≤ 80) :
    (∀ column ≤ indent + 1003, KeepsValue indent column (.text s)) ∧ KeepsItem indent (.text s) := by
  rw [isShort, decide_eq_true_eq] at h
  refine ⟨fun column hcolumn => ?_, ?_⟩
  · rw [KeepsValue]
    exact h.keepsText (by rw [width]; omega) (by rw [width]; omega)
  · rw [KeepsItem]
    exact h.keepsText (by rw [width]; omega) (by rw [width]; omega)

theorem keepsNumber_of_isShort {depth indent : Nat} {n : Int}
    (h : isShort depth (.number n) = true) :
    (∀ column ≤ indent + 1003, KeepsValue indent column (.number n)) ∧
      KeepsItem indent (.number n) := by
  rw [isShort, decide_eq_true_eq] at h
  refine ⟨fun column _ => ?_, ?_⟩
  · rw [KeepsValue]
    exact h
  · rw [KeepsItem]
    exact h

/-- Every level of a document takes up to four columns more. -/
theorem keeps_of_isShort {depth indent : Nat} {d : Document} (h : isShort depth d = true)
    (hindent : indent + 4 * depth ≤ 80) :
    (∀ column ≤ indent + 1003, KeepsValue indent column d) ∧ KeepsItem indent d := by
  induction depth generalizing indent d with
  | zero =>
    cases d with
    | text s => exact keepsText_of_isShort h hindent
    | number n => exact keepsNumber_of_isShort h
    | list items => exact absurd h (by simp [isShort])
    | mapping entries => exact absurd h (by simp [isShort])
  | succ depth ih =>
    cases d with
    | text s => exact keepsText_of_isShort h (by omega)
    | number n => exact keepsNumber_of_isShort h
    | list items =>
      rw [isShort, List.all_eq_true] at h
      have hitems : KeepsItems indent items :=
        keepsItems_of fun d hd => (ih (h d hd) (by omega)).2
      refine ⟨fun column _ => ?_, ?_⟩
      · rw [KeepsValue]
        exact hitems
      · rw [KeepsItem]
        exact hitems
    | mapping entries =>
      simp only [isShort, List.all_eq_true, Bool.and_eq_true, decide_eq_true_eq] at h
      have hentries {indent : Nat} (hindent : indent + 4 * depth ≤ 80) :
          KeepsEntries indent entries :=
        keepsEntries_of fun e he =>
          ⟨(h e he).1.keepsKey (by omega),
            (ih (h e he).2 hindent).1 _ (columnAfterKey_le (h e he).1 indent)⟩
      refine ⟨fun column _ => ?_, ?_⟩
      · rw [KeepsValue]
        exact hentries (by omega)
      · rw [KeepsItem]
        exact hentries (by omega)

/-- A short document of a file keeps what it says. -/
theorem keeps_mapping_of_isShort {entries : List (String × Document)}
    (h : isShort 20 (.mapping entries) = true) : Keeps (.mapping entries) := by
  have hitem : KeepsItem 0 (.mapping entries) := (keeps_of_isShort h (by decide)).2
  rw [KeepsItem] at hitem
  exact hitem

end EndpointUpgrade.Yaml
