import EndpointUpgrade.Proofs.Text.Numeral
import EndpointUpgrade.Proofs.Yaml.Plain
import EndpointUpgrade.Yaml.Lexer

/-!
# What the style of a text says about it

A text that may be written plain consists of words, none of which could be taken for a sign, and it
begins like no other kind of token. The same holds of integers.
-/

namespace EndpointUpgrade.Yaml

open Text

variable {cs : List Char}

/-- The beginning of a plain scalar, whatever follows it on its line. -/
def BeginsPlain (cs : List Char) : Prop :=
  ∃ c rest, cs = c :: rest ∧
    (Lexer.isIndicator c = false ∨ (c = '-' ∨ c = '?' ∨ c = ':') ∧
      ∃ d more, rest = d :: more ∧ isSolid d = true)

/-- A text that can be read back from its plain form. -/
structure ReadsPlain (cs : List Char) : Prop where
  words : PlainWords cs
  begins : BeginsPlain cs
  noMark : cs.take 3 ≠ ['-', '-', '-'] ∧ cs.take 3 ≠ ['.', '.', '.']

/-! ## Neighbours -/

theorem hasNeighbours_cons (first second : Char → Bool) (c : Char) (cs : List Char) :
    hasNeighbours first second (c :: cs) =
      ((first c && cs.head?.any second) || hasNeighbours first second cs) := by
  cases cs with
  | nil => simp [hasNeighbours]
  | cons d cs => simp [hasNeighbours]

theorem not_neighbours {first second : Char → Bool} (h : hasNeighbours first second cs = false)
    {before after : List Char} {c d : Char} (hcs : cs = before ++ c :: d :: after)
    (hc : first c = true) : second d = false := by
  subst hcs
  induction before with
  | nil =>
    rw [List.nil_append, hasNeighbours_cons, Bool.or_eq_false_iff] at h
    simpa [hc] using h.1
  | cons x before ih =>
    rw [List.cons_append, hasNeighbours_cons, Bool.or_eq_false_iff] at h
    exact ih h.2

theorem not_valueSign (h : hasValueSign cs = false) {before after : List Char}
    (hcs : cs = before ++ ':' :: after) : isGapOrEnd after.head? = false := by
  subst hcs
  induction before with
  | nil =>
    rw [List.nil_append, hasValueSign, Bool.or_eq_false_iff] at h
    simpa using h.1
  | cons x before ih =>
    rw [List.cons_append, hasValueSign, Bool.or_eq_false_iff] at h
    exact ih h.2

theorem solid_of_noGap {next : Option Char} (h : isGapOrEnd next = false) :
    ∃ d, next = some d ∧ d ≠ ' ' := by
  cases next with
  | none => exact absurd h (by decide)
  | some d =>
    refine ⟨d, rfl, ?_⟩
    rintro rfl
    exact absurd h (by decide)

/-! ## Plain texts -/

/-- White space, line ends and the byte order mark, one by one. -/
theorem cases_of_not_isSolid {c : Char} (h : isSolid c = false) :
    c = ' ' ∨ c = '\t' ∨ c = '\n' ∨ c = '\r' ∨ c = '\x85' ∨ c = '\u2028' ∨ c = '\u2029' ∨
      c = '\uFEFF' := by
  simp only [isSolid, isBlankOrEnd, isLineEnd, isInline, isBreak, Bool.and_eq_false_iff,
    Bool.not_eq_false', Bool.or_eq_true, decide_eq_true_eq, decide_eq_false_iff_not,
    Decidable.not_not] at h
  grind

theorem isSolid_of_plain {c : Char} (hspecial : isSpecial c = false) (hend : endsLine c = false)
    (hspace : c ≠ ' ') : isSolid c = true := by
  cases hsolid : isSolid c with
  | true => rfl
  | false =>
    rcases cases_of_not_isSolid hsolid with rfl | rfl | rfl | rfl | rfl | rfl | rfl | rfl
    · contradiction
    all_goals first | exact absurd hspecial (by decide) | exact absurd hend (by decide)

/-- The conditions on a text that may be written plain, one by one. -/
structure FitsPlain (cs : List Char) : Prop where
  ne_nil : cs ≠ []
  first : ∀ c ∈ cs.head?, isSpaceOrLineEnd c = false
  last : ∀ c ∈ cs.getLast?, isSpaceOrLineEnd c = false
  special : ∀ c ∈ cs, isSpecial c = false
  ends : ∀ c ∈ cs, endsLine c = false
  begins : beginsOtherwise cs = false
  value : hasValueSign cs.tail = false
  comment : hasNeighbours isGap (· = '#') cs = false

theorem fitsPlain_iff : fitsPlain cs = true ↔ FitsPlain cs := by
  simp only [fitsPlain, Bool.not_eq_true', Bool.or_eq_false_iff, List.isEmpty_eq_false_iff,
    Option.any_eq_false, List.any_eq_false, Bool.not_eq_true]
  constructor
  · rintro ⟨⟨⟨⟨⟨⟨⟨hne, hfirst⟩, hlast⟩, hspecial⟩, hends⟩, hbegins⟩, hvalue⟩, hcomment⟩
    exact ⟨hne, hfirst, hlast, hspecial, hends, hbegins, hvalue, hcomment⟩
  · rintro ⟨hne, hfirst, hlast, hspecial, hends, hbegins, hvalue, hcomment⟩
    exact ⟨⟨⟨⟨⟨⟨⟨hne, hfirst⟩, hlast⟩, hspecial⟩, hends⟩, hbegins⟩, hvalue⟩, hcomment⟩

namespace FitsPlain

theorem solid (h : FitsPlain cs) {c : Char} (hc : c ∈ cs) (hspace : c ≠ ' ') : isSolid c = true :=
  isSolid_of_plain (h.special c hc) (h.ends c hc) hspace

/-- Each colon has a character behind it that is no space. -/
theorem colon (h : FitsPlain cs) {before after : List Char} (hcs : cs = before ++ ':' :: after) :
    isGapOrEnd after.head? = false := by
  cases before with
  | nil =>
    have hbegins := h.begins
    subst hcs
    simp only [List.nil_append, beginsOtherwise, Bool.or_eq_false_iff] at hbegins
    simpa using hbegins.2.2
  | cons c before =>
    have htail : cs.tail = before ++ ':' :: after := by rw [hcs]; rfl
    exact not_valueSign h.value htail

theorem splitsIntoWords (h : FitsPlain cs) : SplitsIntoWords cs where
  solid c hc hspace := h.solid hc hspace
  first := by
    obtain ⟨c, rest, rfl⟩ := List.exists_cons_of_ne_nil h.ne_nil
    refine ⟨c, rest, rfl, ?_, ?_⟩
    · rintro rfl
      exact absurd (h.first ' ' rfl) (by decide)
    · rintro rfl
      have hbegins := h.begins
      simp [beginsOtherwise] at hbegins
  last hlast := absurd (h.last ' ' hlast) (by decide)
  colon before after hcs := by
    obtain ⟨d, hd, hspace⟩ := solid_of_noGap (h.colon hcs)
    constructor
    · rintro rfl
      simp at hd
    · rw [hd]
      simpa using hspace
  comment before after hcs :=
    absurd (not_neighbours h.comment hcs (by decide)) (by decide)

theorem beginsPlain (h : FitsPlain cs) : BeginsPlain cs := by
  obtain ⟨c, rest, rfl⟩ := List.exists_cons_of_ne_nil h.ne_nil
  refine ⟨c, rest, rfl, ?_⟩
  have hspace : c ≠ ' ' := by
    rintro rfl
    exact absurd (h.first ' ' rfl) (by decide)
  have hbreak : isBreak c = false := (LineStart.of_isSolid (h.solid List.mem_cons_self hspace)).isBreak
  have htab : c ≠ '\t' := by
    rintro rfl
    exact absurd (h.special '\t' List.mem_cons_self) (by decide)
  have hbegins := h.begins
  simp only [beginsOtherwise, List.contains_cons, List.contains_nil, Bool.or_false,
    Bool.or_eq_false_iff, beq_eq_false_iff_ne, Bool.and_eq_false_iff,
    decide_eq_false_iff_not] at hbegins
  obtain ⟨-, hsigns, hgap⟩ := hbegins
  cases hindicator : Lexer.isIndicator c with
  | false => exact Or.inl rfl
  | true =>
    have hsign : c = '-' ∨ c = '?' ∨ c = ':' := by
      simp only [Lexer.isIndicator, hbreak, Bool.false_or, List.contains_cons, List.contains_nil,
        Bool.or_false, Bool.or_eq_true, beq_iff_eq] at hindicator
      grind
    have hnext : isGapOrEnd rest.head? = false := by grind
    obtain ⟨d, hd, hd'⟩ := solid_of_noGap hnext
    obtain ⟨more, rfl⟩ := List.head?_eq_some_iff.mp hd
    exact Or.inr ⟨hsign, d, more, rfl, h.solid (by simp) hd'⟩

theorem readsPlain (h : FitsPlain cs) (hwide : KeepsSpaces cs) : ReadsPlain cs where
  words := plainWords_of_splits h.splitsIntoWords hwide
  begins := h.beginsPlain
  noMark := by
    have hbegins := h.begins
    simp only [beginsOtherwise, Bool.or_eq_false_iff, decide_eq_false_iff_not] at hbegins
    exact hbegins.1

end FitsPlain

/-! ## Styles of texts -/

section

variable {s : String} {inKey : Bool}

theorem fitsPlain_of_style (h : style inKey s = .plain) :
    Tag.ofPlain .v1_2 s = .text ∧ FitsPlain s.toList := by
  rw [style] at h
  split at h
  · rename_i hplain
    simp only [Bool.and_eq_true, decide_eq_true_eq] at hplain
    exact ⟨hplain.1, fitsPlain_iff.mp hplain.2⟩
  · split at h
    · contradiction
    · split at h <;> contradiction

/-- What is known of a text in single quotes. -/
structure StyledSingle (inKey : Bool) (cs : List Char) : Prop where
  noQuote : '\'' ∉ cs
  noFeed : '\n' ∉ cs
  fits : fitsSingle cs = true
  inLine : inKey = true → ∀ c ∈ cs, endsLine c = false

theorem special_of_fitsSingle (h : fitsSingle cs = true) {c : Char} (hc : c ∈ cs) :
    isSpecial c = false := by
  simp only [fitsSingle, Bool.not_eq_true', Bool.or_eq_false_iff, List.any_eq_false,
    Bool.not_eq_true] at h
  exact h.1.1 c hc

theorem styledSingle_of_style (h : style inKey s = .single) : StyledSingle inKey s.toList := by
  rw [style] at h
  split at h
  · contradiction
  · split at h
    · contradiction
    · rename_i hquotes
      split at h
      · rename_i hsingle
        simp only [Bool.or_eq_true, List.contains_iff_mem, not_or] at hquotes
        simp only [Bool.and_eq_true, Bool.not_eq_true', Bool.and_eq_false_iff, List.any_eq_false]
          at hsingle
        refine ⟨hquotes.1, hquotes.2, hsingle.1, fun hkey c hc => ?_⟩
        rcases hsingle.2 with hno | hnone
        · rw [hkey] at hno
          contradiction
        · simpa using hnone c hc
      · contradiction

end

/-! ## Integers -/

theorem isSolid_of_isDigit {c : Char} (hc : isDigit c = true) : isSolid c = true := by
  cases hsolid : isSolid c with
  | true => rfl
  | false =>
    rcases cases_of_not_isSolid hsolid with rfl | rfl | rfl | rfl | rfl | rfl | rfl | rfl
    all_goals exact absurd hc (by decide)

theorem ne_of_isDigit {c d : Char} (hc : isDigit c = true) (hd : isDigit d = false) : c ≠ d := by
  rintro rfl
  rw [hc] at hd
  contradiction

theorem isIndicator_of_isDigit {c : Char} (hc : isDigit c = true) :
    Lexer.isIndicator c = false := by
  have hbreak := (LineStart.of_isSolid (isSolid_of_isDigit hc)).isBreak
  cases hindicator : Lexer.isIndicator c with
  | false => rfl
  | true =>
    simp only [Lexer.isIndicator, hbreak, Bool.false_or, List.contains_iff_mem] at hindicator
    have hsigns : [' ', '\t', '-', '?', ':', ',', '[', ']', '\x7b', '\x7d', '#', '&', '*',
        '!', '|', '>', '\'', '"', '%', '@', '\x60'].all (fun d => !isDigit d) = true := by decide
    have hdigit := List.all_eq_true.mp hsigns c hindicator
    rw [hc] at hdigit
    contradiction

theorem exists_integer (n : Int) :
    ∃ c rest, integer n = c :: rest ∧ (∀ d ∈ rest, isDigit d = true) ∧
      (isDigit c = true ∨ c = '-' ∧ rest ≠ []) := by
  have hdigits : ∀ d ∈ decimal n.natAbs, isDigit d = true :=
    List.all_eq_true.mp (all_isDigit_decimal n.natAbs)
  rw [integer]
  split
  · exact ⟨'-', _, rfl, hdigits, Or.inr ⟨rfl, decimal_ne_nil _⟩⟩
  · obtain ⟨c, rest, hcs⟩ := List.exists_cons_of_ne_nil (decimal_ne_nil n.natAbs)
    rw [hcs] at hdigits ⊢
    exact ⟨c, rest, rfl, fun d hd => hdigits d (List.mem_cons_of_mem _ hd),
      Or.inl (hdigits c List.mem_cons_self)⟩

theorem plainWord_integer (n : Int) : PlainWord (integer n) := by
  obtain ⟨c, rest, hcs, hrest, hc⟩ := exists_integer n
  rw [hcs]
  have hmem : ∀ d ∈ c :: rest, isDigit d = true ∨ d = '-' := fun d hd => by
    rcases List.mem_cons.mp hd with rfl | hd
    · exact hc.imp_right And.left
    · exact Or.inl (hrest d hd)
  have hne : ∀ {d x : Char}, isDigit d = true ∨ d = '-' → isDigit x = false → x ≠ '-' → d ≠ x := by
    rintro d x (hd | rfl) hx hsign
    · exact ne_of_isDigit hd hx
    · exact hsign.symm
  refine ⟨List.cons_ne_nil c rest, ?_, ?_, ?_⟩
  · rw [List.head?_cons, ne_eq, Option.some.injEq]
    exact hne (hmem c List.mem_cons_self) (by decide) (by decide)
  · intro hlast
    exact hne (hmem ':' (List.mem_of_getLast? hlast)) (by decide) (by decide) rfl
  · intro d hd
    rcases hmem d hd with hdigit | rfl
    · exact isSolid_of_isDigit hdigit
    · decide

theorem readsPlain_integer (n : Int) : ReadsPlain (integer n) := by
  obtain ⟨c, rest, hcs, hrest, hc⟩ := exists_integer n
  refine ⟨.one (plainWord_integer n), ?_, ?_⟩
  · refine ⟨c, rest, hcs, ?_⟩
    rcases hc with hdigit | ⟨rfl, hne⟩
    · exact Or.inl (isIndicator_of_isDigit hdigit)
    · obtain ⟨d, more, rfl⟩ := List.exists_cons_of_ne_nil hne
      exact Or.inr ⟨Or.inl rfl, d, more, rfl, isSolid_of_isDigit (hrest d List.mem_cons_self)⟩
  · -- no more than the first character is a hyphen, and none is a point
    have hsecond : ∀ x, isDigit x = false → (c :: rest).take 3 ≠ [x, x, x] := by
      intro x hx hmark
      have hmem : x ∈ rest := by
        cases rest with
        | nil => simp at hmark
        | cons d rest =>
          have : d = x := by simpa using (List.cons.inj (List.cons.inj hmark).2).1
          rw [this]
          exact List.mem_cons_self
      rw [hrest x hmem] at hx
      contradiction
    rw [hcs]
    exact ⟨hsecond '-' (by decide), hsecond '.' (by decide)⟩

end EndpointUpgrade.Yaml
