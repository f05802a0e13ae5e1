import EndpointUpgrade.Proofs.Yaml.Characters
import EndpointUpgrade.Proofs.Yaml.Integer

/-!
# Which texts keep what they say

A text is written in one of three styles, and each of them loses some texts when it is read back.
What a text, a key or a document has to be like so that nothing gets lost is stated here, with the
columns at which its parts are written.
-/

namespace EndpointUpgrade

/-- Induction over the parts of a document. -/
@[elab_as_elim]
theorem Document.induct {P : Document → Prop} (text : ∀ s, P (.text s)) (number : ∀ n, P (.number n))
    (list : ∀ items, (∀ d ∈ items, P d) → P (.list items))
    (mapping : ∀ entries, (∀ e ∈ entries, P e.2) → P (.mapping entries)) : ∀ d, P d
  | .text s => text s
  | .number n => number n
  | .list items => list items fun d _ => Document.induct text number list mapping d
  | .mapping entries => mapping entries fun e _ => Document.induct text number list mapping e.2
termination_by d => sizeOf d
decreasing_by
  · simp_wf
    have := List.sizeOf_lt_of_mem ‹_›
    omega
  · simp_wf
    have := List.sizeOf_lt_of_mem ‹_›
    obtain ⟨k, d⟩ := e
    simp only [Prod.mk.sizeOf_spec] at *
    omega

namespace Yaml

open Text

variable {cs : List Char} {s : String} {inKey : Bool}

theorem fitsSingle_tail {c : Char} (h : fitsSingle (c :: cs) = true) : fitsSingle cs = true := by
  simp only [fitsSingle, hasNeighbours_cons, List.any_cons, Bool.not_eq_true',
    Bool.or_eq_false_iff] at h ⊢
  exact ⟨⟨h.1.1.2, h.1.2.2⟩, h.2.2⟩

/-- Without the next-line character, a text that is written between single quotes is read back. -/
theorem fitsSingle_kept (h : fitsSingle cs = true) (hfeed : '\n' ∉ cs) (hnext : '\x85' ∉ cs) :
    FitsSingle cs := by
  induction cs with
  | nil => trivial
  | cons c cs ih =>
    have hparts := h
    simp only [fitsSingle, hasNeighbours_cons, List.any_cons, Bool.not_eq_true',
      Bool.or_eq_false_iff, Bool.and_eq_false_iff] at hparts
    obtain ⟨⟨⟨hspecial, -⟩, hbehind, -⟩, hfront, -⟩ := hparts
    have hne : c ≠ '\n' ∧ c ≠ '\x85' := by
      constructor
      · rintro rfl
        exact hfeed List.mem_cons_self
      · rintro rfl
        exact hnext List.mem_cons_self
    have hends : endsLine c = isSeparator c := by simp [endsLine, isSeparator, hne]
    refine ⟨?_, ?_, ?_, ih (fitsSingle_tail h) (fun hc => hfeed (List.mem_cons_of_mem _ hc))
      fun hc => hnext (List.mem_cons_of_mem _ hc)⟩
    · by_cases hspace : c = ' '
      · exact Or.inl hspace
      · cases hsep : isSeparator c with
        | true => exact Or.inr (Or.inl rfl)
        | false => exact Or.inr (Or.inr (isSolid_of_plain hspecial (hends.trans hsep) hspace))
    · intro hsep hhead
      rw [hends, hsep, hhead] at hbehind
      simp at hbehind
    · rintro rfl d hd
      obtain ⟨more, rfl⟩ := List.head?_eq_some_iff.mp hd
      have hd' : endsLine d = false := by simpa using hfront
      cases hsep : isSeparator d with
      | false => rfl
      | true =>
        rw [(endsLine_of_isSeparator hsep).1] at hd'
        contradiction

/-! ## Scalars -/

/-- What is written of a scalar from a column on, and the token that it is read as. -/
inductive ReadsScalar (folding : Folding) (column : Nat) : List Char → TokenKind → Prop where
  | plain {cs : List Char} (hcs : ReadsPlain cs) :
    ReadsScalar folding column (plainRest folding column none cs) (.scalar (String.ofList cs) true)
  | quoted {written cs : List Char} (double : Bool) (h : ReadsQuoted double written cs) :
    ReadsScalar folding column (quotedChars double written) (.scalar (String.ofList cs) false)

def textKind (inKey : Bool) (s : String) : TokenKind := .scalar s (style inKey s = .plain)

def numberKind (n : Int) : TokenKind := .scalar (integerText n) true

theorem readsScalar_number (folding : Folding) (column : Nat) (n : Int) :
    ReadsScalar folding column (numberChars folding column n) (numberKind n) :=
  .plain (readsPlain_integer n)

/-- A text keeps what it says when it is written from a column on, with the lines behind its folds
at an indentation. -/
def KeepsText (indent column : Nat) (s : String) : Prop :=
  match style false s with
  | .plain => KeepsSpaces s.toList
  | .single => '\x85' ∉ s.toList
  | .double => indent < width ∧ gainsSpace (some indent) (column + 1) none true s.toList = false

theorem readsScalar_text {indent column : Nat} (hindent : 0 < indent)
    (h : KeepsText indent column s) :
    ReadsScalar (some indent) column (scalarChars (some indent) false column s)
      (textKind false s) := by
  rw [KeepsText] at h
  rw [scalarChars, textKind]
  cases hstyle : style false s with
  | plain =>
    rw [hstyle] at h
    have hreads : ReadsScalar (some indent) column _ _ :=
      .plain ((fitsPlain_of_style hstyle).2.readsPlain h)
    rw [String.ofList_toList] at hreads
    exact hreads
  | single =>
    rw [hstyle] at h
    obtain ⟨-, hfeed, hfits, -⟩ := styledSingle_of_style hstyle
    have hread := readsQuoted_singleRest (some indent) (column + 1) none
      (fitsSingle_kept hfits hfeed h) (by simpa using hindent) (by simp)
    have hreads : ReadsScalar (some indent) column _ _ := .quoted false hread
    rw [String.ofList_toList] at hreads
    exact hreads
  | double =>
    rw [hstyle] at h
    have hread := readsQuoted_doubleRest (column + 1) none
      (by simpa using ⟨hindent, h.1⟩) true h.2
    have hreads : ReadsScalar (some indent) column _ _ := .quoted true hread
    rw [String.ofList_toList] at hreads
    exact hreads

/-! ## Keys -/

theorem keepsSpaces_of_length (h : cs.length ≤ width) : KeepsSpaces cs := by
  rintro before after rfl
  have hprefix := (List.takeWhile_prefix (fun c => decide (c ≠ ' ')) (l := after)).length_le
  simp only [List.length_append, List.length_cons] at h
  rw [FitsLine]
  omega

theorem isInline_of_isSolid {c : Char} (h : isSolid c = true) : isInline c = true :=
  (LineStart.of_isSolid h).inLine

theorem isInline_of_plain {c : Char} (hspecial : isSpecial c = false) (hends : endsLine c = false) :
    isInline c = true := by
  by_cases hspace : c = ' '
  · rw [hspace]
    decide
  · exact isInline_of_isSolid (isSolid_of_plain hspecial hends hspace)

theorem isInline_of_isPlainInDouble {c : Char} (h : isPlainInDouble c = true) :
    isInline c = true := by
  by_cases hspace : c = ' '
  · rw [hspace]
    decide
  · have hraw := isRaw_of_isPlainInDouble h hspace
    have hmark : c ≠ '\uFEFF' := by
      rintro rfl
      exact absurd h (by decide)
    simp only [isRaw, Bool.and_eq_true, Bool.not_eq_true'] at hraw
    simp [isInline, hraw.1.1.2, hmark]

/-- A key in front of its colon stands on one line. -/
theorem readsScalar_key {key : String} (column : Nat) (h : isSimpleKey key = true) :
    ReadsScalar none column (scalarChars none true column key) (textKind true key) ∧
      ∀ c ∈ scalarChars none true column key, isInline c = true := by
  simp only [isSimpleKey, Bool.and_eq_true, decide_eq_true_eq, Bool.not_eq_true',
    List.any_eq_false, Bool.not_eq_true] at h
  obtain ⟨hlength, hends⟩ := h
  rw [scalarChars, textKind]
  cases hstyle : style true key with
  | plain =>
    have hfits := (fitsPlain_of_style hstyle).2
    have hshort : key.toList.length ≤ width := by
      rw [String.length_toList]
      exact Nat.le_trans hlength (by decide)
    have hreads : ReadsScalar none column _ _ :=
      .plain (hfits.readsPlain (keepsSpaces_of_length hshort))
    rw [String.ofList_toList] at hreads
    refine ⟨hreads, fun c hc => ?_⟩
    dsimp only at hc
    rw [plainRest_none] at hc
    exact isInline_of_plain (hfits.special c hc) (hfits.ends c hc)
  | single =>
    obtain ⟨hquote, hfeed, hfits, -⟩ := styledSingle_of_style hstyle
    have hnext : '\x85' ∉ key.toList := fun hc => absurd (hends _ hc) (by decide)
    have hread := readsQuoted_singleRest none (column + 1) none (fitsSingle_kept hfits hfeed hnext)
      (by simp) (fun _ c hc => by
        cases hsep : isSeparator c with
        | false => rfl
        | true => rw [← hends c hc, (endsLine_of_isSeparator hsep).1])
    have hreads : ReadsScalar none column _ _ := .quoted false hread
    rw [String.ofList_toList] at hreads
    refine ⟨hreads, fun c hc => ?_⟩
    have hplain : ∀ c ∈ key.toList, c ≠ '\'' ∧ endsLine c = false := by
      refine fun c hc => ⟨?_, hends c hc⟩
      rintro rfl
      exact hquote hc
    rw [singleRest_none _ _ hplain] at hc
    rcases (mem_quotedChars hc : c = quoteOf false ∨ _) with rfl | hc
    · decide
    · exact isInline_of_plain (special_of_fitsSingle hfits hc) (hends c hc)
  | double =>
    have hread := readsQuoted_doubleRest (column + 1) none (by simp) true
      (gainsSpace_none (column + 1) none true key.toList)
    have hreads : ReadsScalar none column _ _ := .quoted true hread
    rw [String.ofList_toList] at hreads
    refine ⟨hreads, fun c hc => ?_⟩
    rcases (mem_quotedChars hc : c = quoteOf true ∨ _) with rfl | hc
    · decide
    · rcases mem_doubleRest_none _ _ _ hc with hplain | hsign
      · exact isInline_of_isPlainInDouble hplain
      · exact isInline_of_isSolid hsign.isSolid

/-- A key is read back at the column of its mapping: in front of its colon it takes up no more
characters than a key may, and behind a sign it is kept as any text is. -/
def KeepsKey (indent : Nat) (key : String) : Prop :=
  if isSimpleKey key then (scalarChars none true indent key).length ≤ 1024
  else KeepsText (indent + 2) (indent + 2) key

/-! ## Documents -/

mutual

/-- What stands behind the colon of a key keeps what it says. -/
def KeepsValue (indent column : Nat) : Document → Prop
  | .text s => KeepsText (indent + 2) (column + 1) s
  | .number n => FitsConversion n
  | .list items => KeepsItems indent items
  | .mapping entries => KeepsEntries (indent + 2) entries

def KeepsItem (column : Nat) : Document → Prop
  | .text s => KeepsText column column s
  | .number n => FitsConversion n
  | .list items => KeepsItems column items
  | .mapping entries => KeepsEntries column entries

def KeepsItems (indent : Nat) : List Document → Prop
  | [] => True
  | d :: rest => KeepsItem (indent + 4) d ∧ KeepsItems indent rest

def KeepsEntries (indent : Nat) : List (String × Document) → Prop
  | [] => True
  | (key, d) :: rest =>
    KeepsKey indent key ∧ KeepsValue indent (columnAfterKey indent key) d ∧
      KeepsEntries indent rest

end

/-- A document of a file, which is a mapping, keeps what it says. -/
def Keeps : Document → Prop
  | .mapping entries => KeepsEntries 0 entries
  | _ => False

theorem KeepsItems.item {indent : Nat} {items : List Document} (h : KeepsItems indent items)
    {d : Document} (hd : d ∈ items) : KeepsItem (indent + 4) d := by
  induction items with
  | nil => simp at hd
  | cons x rest ih =>
    rw [KeepsItems] at h
    rcases List.mem_cons.mp hd with rfl | hd
    · exact h.1
    · exact ih h.2 hd

theorem KeepsEntries.value {indent : Nat} {entries : List (String × Document)}
    (h : KeepsEntries indent entries) {e : String × Document} (he : e ∈ entries) :
    KeepsValue indent (columnAfterKey indent e.1) e.2 := by
  induction entries with
  | nil => simp at he
  | cons x rest ih =>
    obtain ⟨key, d⟩ := x
    rw [KeepsEntries] at h
    rcases List.mem_cons.mp he with rfl | he
    · exact h.2.1
    · exact ih h.2.2 he

end Yaml

end EndpointUpgrade
