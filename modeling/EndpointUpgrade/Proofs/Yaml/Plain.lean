import EndpointUpgrade.Proofs.Yaml.Cursor
import EndpointUpgrade.Yaml.ScalarText

/-!
# Plain scalars read back

A plain text consists of words with spaces between them. Writing may end a line in place of a single
space, and in front of a word that is longer than a line; reading takes a line end, together with
the spaces around it, as one space. So a text reads back as long as no word that needs a line of its
own has several spaces in front of it.
-/

namespace EndpointUpgrade.Yaml

/-- A character that no white space of a plain text is made of. -/
def isSolid (c : Char) : Bool := !isBlankOrEnd (some c) && isInline c

/-- A word of a plain text. -/
structure PlainWord (w : List Char) : Prop where
  ne_nil : w ≠ []
  first : w.head? ≠ some '#'
  last : w.getLast? ≠ some ':'
  solid : ∀ c ∈ w, isSolid c = true

theorem PlainWord.length_pos {w : List Char} (hw : PlainWord w) : 0 < w.length :=
  List.length_pos_iff.mpr hw.ne_nil

/-- The first word of a text is no longer than a line. -/
def FitsLine (cs : List Char) : Prop := (cs.takeWhile (· ≠ ' ')).length ≤ width

/-- Words with spaces between them, and a single one in front of a word longer than a line. -/
inductive PlainWords : List Char → Prop where
  | one {w : List Char} (hw : PlainWord w) : PlainWords w
  | more {w cs : List Char} (k : Nat) (hw : PlainWord w) (hwide : k = 0 ∨ FitsLine cs)
      (hcs : PlainWords cs) : PlainWords (w ++ margin (k + 1) ++ cs)

/-! ## What is written -/

/-- What is written from the beginning of a word on, once its place is settled. -/
def wordChars (folding : Folding) (column : Nat) : List Char → List Char
  | [] => []
  | c :: rest => c :: plainRest folding (column + 1) (some c) rest

section

variable (folding : Folding) (column : Nat) {w cs : List Char} (post : List Char)

theorem plainRest_inWord {b : Char} (hb : b ≠ ' ') (hw : ∀ c ∈ w, c ≠ ' ') :
    ∃ d, d ≠ ' ' ∧ plainRest folding column (some b) (w ++ post) =
      w ++ plainRest folding (column + w.length) (some d) post := by
  induction w generalizing column b with
  | nil => exact ⟨b, hb, rfl⟩
  | cons c w ih =>
    have hc : c ≠ ' ' := hw c List.mem_cons_self
    obtain ⟨d, hd, hrest⟩ :=
      ih (column + 1) hc fun x hx => hw x (List.mem_cons_of_mem _ hx)
    refine ⟨d, hd, ?_⟩
    have hstep : plainRest folding column (some b) (c :: (w ++ post)) =
        c :: plainRest folding (column + 1) (some c) (w ++ post) := by
      cases folding with
      | none => rfl
      | some indent => simp [plainRest, hc, hb]
    rw [List.cons_append, hstep, hrest, List.length_cons, Nat.add_right_comm column 1]
    rfl

theorem wordChars_append (hne : w ≠ []) (hw : ∀ c ∈ w, c ≠ ' ') :
    ∃ d, d ≠ ' ' ∧ wordChars folding column (w ++ post) =
      w ++ plainRest folding (column + w.length) (some d) post := by
  cases w with
  | nil => contradiction
  | cons c w =>
    obtain ⟨d, hd, hrest⟩ := plainRest_inWord folding (column + 1) post
      (hw c List.mem_cons_self) fun x hx => hw x (List.mem_cons_of_mem _ hx)
    refine ⟨d, hd, ?_⟩
    rw [List.cons_append, wordChars, hrest, List.length_cons, Nat.add_right_comm column 1]
    rfl

theorem plainRest_none (before : Option Char) (cs : List Char) :
    plainRest none column before cs = cs := by
  induction cs generalizing column before with
  | nil => rfl
  | cons c cs ih => rw [plainRest, ih]

theorem wordChars_none (cs : List Char) : wordChars none column cs = cs := by
  cases cs with
  | nil => rfl
  | cons c cs => rw [wordChars, plainRest_none]

/-- A word begins where it is, or on a line of its own if it is longer than a line. -/
theorem plainRest_word (before : Option Char) {c : Char} (rest : List Char) (hc : c ≠ ' ') :
    plainRest folding column before (c :: rest) = wordChars folding column (c :: rest) ∨
      ∃ indent, folding = some indent ∧ indent < column ∧ ¬FitsLine (c :: rest) ∧
        plainRest folding column before (c :: rest) =
          newLine indent ++ wordChars folding indent (c :: rest) := by
  cases folding with
  | none => exact Or.inl rfl
  | some indent =>
    rw [plainRest]
    dsimp only
    rw [if_neg hc]
    split
    · rename_i hbreak
      simp only [Bool.and_eq_true, decide_eq_true_eq] at hbreak
      refine Or.inr ⟨indent, rfl, hbreak.2, ?_, rfl⟩
      have htake : (c :: rest).takeWhile (· ≠ ' ') = c :: rest.takeWhile (· ≠ ' ') := by
        rw [List.takeWhile_cons_of_pos (by simpa using hc)]
      rw [FitsLine, htake]
      exact Nat.not_le.mpr hbreak.1.2
    · exact Or.inl rfl

theorem plainRest_moreSpaces (m : Nat) :
    plainRest folding column (some ' ') (margin m ++ post) =
      margin m ++ plainRest folding (column + m) (some ' ') post := by
  induction m generalizing column with
  | zero => rfl
  | succ m ih =>
    have hstep : plainRest folding column (some ' ') (' ' :: (margin m ++ post)) =
        ' ' :: plainRest folding (column + 1) (some ' ') (margin m ++ post) := by
      cases folding with
      | none => rfl
      | some indent => simp [plainRest]
    change plainRest folding column (some ' ') (' ' :: (margin m ++ post)) = _
    rw [hstep, ih, Nat.add_right_comm column 1]
    rfl

/-- The spaces in front of a word, as they are written. -/
inductive WrittenGap (folding : Folding) (k : Nat) : List Char → Prop where
  | spaces : WrittenGap folding k (margin (k + 1))
  | fold (indent : Nat) (hfolding : folding = some indent) (hk : k = 0) :
      WrittenGap folding k (newLine indent)
  | spaceFold (indent : Nat) (hfolding : folding = some indent) (hk : k = 0) :
      WrittenGap folding k (' ' :: newLine indent)

theorem PlainWords.head (hcs : PlainWords cs) :
    ∃ c rest, cs = c :: rest ∧ isSolid c = true ∧ c ≠ '#' := by
  have hword : ∀ {w post : List Char}, PlainWord w →
      ∃ c rest, w ++ post = c :: rest ∧ isSolid c = true ∧ c ≠ '#' := by
    intro w post hw
    cases w with
    | nil => exact absurd rfl hw.ne_nil
    | cons c w =>
      refine ⟨c, w ++ post, rfl, hw.solid c List.mem_cons_self, ?_⟩
      rintro rfl
      exact hw.first rfl
  cases hcs with
  | one hw => simpa only [List.append_nil] using @hword _ [] hw
  | more k hw hwide hcs => simpa only [List.append_assoc] using hword hw

theorem ne_space_of_isSolid {c : Char} (hc : isSolid c = true) : c ≠ ' ' := by
  rintro rfl
  exact absurd hc (by decide)

theorem plainRest_gap (hcs : PlainWords cs) (k : Nat) (hwide : k = 0 ∨ FitsLine cs) (d : Char) :
    ∃ gap column', WrittenGap folding k gap ∧
      plainRest folding column (some d) (margin (k + 1) ++ cs) =
        gap ++ wordChars folding column' cs := by
  obtain ⟨c, rest, rfl, hsolid, -⟩ := hcs.head
  have hc : c ≠ ' ' := ne_space_of_isSolid hsolid
  -- the first space is written as it is, or as the end of a line if it is the only one
  have hfirst : plainRest folding column (some d) (margin (k + 1) ++ c :: rest) =
        ' ' :: plainRest folding (column + 1) (some ' ') (margin k ++ c :: rest) ∨
      ∃ indent, folding = some indent ∧ k = 0 ∧
        plainRest folding column (some d) (margin (k + 1) ++ c :: rest) =
          newLine indent ++ plainRest folding indent (some ' ') (c :: rest) := by
    change plainRest folding column (some d) (' ' :: (margin k ++ c :: rest)) = _ ∨
      ∃ indent, _ ∧ _ ∧ plainRest folding column (some d) (' ' :: (margin k ++ c :: rest)) = _
    cases folding with
    | none => exact Or.inl rfl
    | some indent =>
      rw [plainRest]
      dsimp only
      rw [if_pos rfl]
      split
      · rename_i hbreak
        simp only [Bool.and_eq_true, decide_eq_true_eq] at hbreak
        have hk : k = 0 := by
          cases k with
          | zero => rfl
          | succ k => exact absurd rfl hbreak.1.2
        subst hk
        exact Or.inr ⟨indent, rfl, rfl, rfl⟩
      · exact Or.inl rfl
  obtain hspace | ⟨indent, hfolding, hk, hfold⟩ := hfirst
  · rw [hspace, plainRest_moreSpaces]
    obtain hword | ⟨indent, hfolding, -, hlong, hword⟩ :=
      plainRest_word folding (column + 1 + k) (some ' ') rest hc
    · exact ⟨_, _, .spaces, by rw [hword]; rfl⟩
    · have hk : k = 0 := hwide.resolve_right hlong
      subst hk
      exact ⟨_, _, .spaceFold indent hfolding rfl, by rw [hword]; rfl⟩
  · obtain hword | ⟨other, hother, hlt, -, -⟩ :=
      plainRest_word folding indent (some ' ') rest hc
    · exact ⟨_, _, .fold indent hfolding hk, by rw [hfold, hword]⟩
    · rw [hfolding, Option.some.injEq] at hother
      omega

end

/-! ## What is read -/

section

variable {cur : Cursor} {w post : List Char}

theorem plainWord_append {version : Version} (hw : PlainWord w)
    (hpost : Yaml.plainWord false version post = []) :
    Yaml.plainWord false version (w ++ post) = w := by
  obtain ⟨-, -, hlast, hsolid⟩ := hw
  induction w with
  | nil => exact hpost
  | cons c w ih =>
    have hc : isBlankOrEnd (some c) = false := by
      have := hsolid c List.mem_cons_self
      simp only [isSolid, Bool.and_eq_true, Bool.not_eq_true'] at this
      exact this.1
    have hrest : Yaml.plainWord false version (w ++ post) = w := by
      refine ih ?_ fun x hx => hsolid x (List.mem_cons_of_mem _ hx)
      cases w with
      | nil => simp
      | cons d w => rwa [List.getLast?_cons_cons] at hlast
    have hcolon : c = ':' → isBlankOrEnd (w ++ post).head? = false := by
      rintro rfl
      cases w with
      | nil => exact absurd rfl hlast
      | cons d w =>
        have := hsolid d (by simp)
        simp only [isSolid, Bool.and_eq_true, Bool.not_eq_true'] at this
        exact this.1
    rw [List.cons_append, Yaml.plainWord, hrest]
    by_cases hcolon' : c = ':'
    · rw [if_pos (by rw [hcolon hcolon']; simp [hcolon'])]
    · simp [hcolon', hc]

theorem plainBreaks_margin {c : Char} (m : Nat) (fuel : Nat) (hfuel : m < fuel)
    (h : cur.rest = margin m ++ c :: post) (hspace : c ≠ ' ') (hbreak : isBreak c = false) :
    plainBreaks fuel [] cur = (some [], cur.skip m) := by
  induction m generalizing cur fuel with
  | zero =>
    obtain ⟨fuel, rfl⟩ := Nat.exists_eq_succ_of_ne_zero (Nat.ne_of_gt hfuel)
    have hrest : cur.rest = c :: post := h
    rw [plainBreaks, if_neg (by simp [Cursor.peek, hrest, hspace]),
      Cursor.lineBreak?_none (by simp [hrest, hbreak])]
    rfl
  | succ m ih =>
    obtain ⟨fuel, rfl⟩ := Nat.exists_eq_succ_of_ne_zero (Nat.ne_of_gt (Nat.zero_lt_of_lt hfuel))
    have hrest : cur.rest = ' ' :: (margin m ++ c :: post) := h
    rw [plainBreaks, if_pos (by simp [Cursor.peek, hrest]),
      ih fuel (by omega) (by rw [Cursor.next_rest, hrest, List.tail_cons]), Cursor.skip_succ]

/-- Where a line that goes on with a scalar, or with the next token, begins behind its margin. -/
structure LineStart (c : Char) : Prop where
  space : c ≠ ' '
  inLine : isInline c = true

theorem LineStart.isBreak {c : Char} (hc : LineStart c) : isBreak c = false := by
  have := hc.inLine
  simp only [isInline, Bool.and_eq_true, Bool.not_eq_true'] at this
  exact this.1

theorem LineStart.of_isSolid {c : Char} (hc : isSolid c = true) : LineStart c where
  space := ne_space_of_isSolid hc
  inLine := by
    simp only [isSolid, Bool.and_eq_true] at hc
    exact hc.2

theorem span_margin {c : Char} {m : Nat} (h : cur.rest = margin m ++ c :: post) (hc : c ≠ ' ') :
    cur.span (· = ' ') = (margin m, cur.skip m) := by
  have hrun : ∀ d ∈ margin m, decide (d = ' ') = true := fun d hd => by
    simpa using Cursor.mem_margin hd
  have hend : ∀ d ∈ (c :: post).head?, decide (d = ' ') = false := fun d hd => by
    obtain rfl : c = d := by simpa using hd
    simpa using hc
  rw [Cursor.span_eq h hrun hend, Cursor.length_margin]

/-- Spaces within a line stand for themselves. -/
theorem plainSpace_margin {c : Char} {m : Nat} (h : cur.rest = margin m ++ c :: post)
    (hc : LineStart c) : plainSpace cur = ⟨margin m, cur.skip m, false⟩ := by
  have hrest : (cur.skip m).rest = c :: post := by
    rw [← Cursor.length_margin m, Cursor.skip_append h]
  rw [plainSpace, span_margin h hc.space]
  dsimp only
  rw [Cursor.lineBreak?_none (by simp [hrest, hc.isBreak])]

/-- The end of a line with spaces around it is read as one space, or as none in front of a sign of
a document. -/
theorem plainSpace_newLine {c : Char} {k m : Nat}
    (h : cur.rest = margin k ++ newLine m ++ c :: post) (hc : LineStart c) :
    plainSpace cur = ⟨[' '], cur.skip (k + 1 + m), true⟩ ∨
      m = 0 ∧ plainSpace cur = ⟨[], cur.skip (k + 1), true⟩ := by
  have hfeed : (cur.skip k).rest = '\n' :: (margin m ++ c :: post) := by
    rw [← Cursor.length_margin k, Cursor.skip_append (by rw [h, List.append_assoc])]
    rfl
  have hline : (cur.skip (k + 1)).rest = margin m ++ c :: post := by
    rw [Cursor.skip_add, Cursor.skip_one, Cursor.next_rest, hfeed, List.tail_cons]
  have hspan : cur.span (· = ' ') = (margin k, cur.skip k) := by
    have hshape : cur.rest = margin k ++ '\n' :: (margin m ++ c :: post) := by
      rw [h, List.append_assoc]
      rfl
    exact span_margin hshape (by decide)
  rw [plainSpace, hspan]
  dsimp only
  rw [Cursor.lineBreak?_lineFeed hfeed]
  dsimp only
  rw [← Cursor.skip_one, ← Cursor.skip_add]
  split
  · rename_i hmark
    refine Or.inr ⟨?_, rfl⟩
    cases m with
    | zero => rfl
    | succ m =>
      rw [Cursor.hasDocumentMark_eq_false] at hmark
      · contradiction
      · rw [hline]
        intro d hd
        obtain rfl : ' ' = d := by simpa [margin, List.replicate_succ] using hd
        exact ⟨by decide, by decide⟩
  · have hfuel : m < (cur.skip (k + 1)).fuel := by
      rw [Cursor.fuel_eq, hline, List.length_append, Cursor.length_margin]
      omega
    rw [plainBreaks_margin m _ hfuel hline hc.space hc.isBreak, ← Cursor.skip_add]
    exact Or.inl rfl

/-- Spaces in front of a word are read as they were, however they are written. -/
theorem plainSpace_gap {folding : Folding} {k : Nat} {gap : List Char} {c : Char}
    (hgap : WrittenGap folding k gap) (hfolding : ∀ i, folding = some i → 0 < i)
    (h : cur.rest = gap ++ c :: post) (hc : LineStart c) :
    ∃ broke, plainSpace cur = ⟨margin (k + 1), cur.skip gap.length, broke⟩ := by
  cases hgap with
  | spaces => exact ⟨_, by rw [plainSpace_margin h hc, Cursor.length_margin]⟩
  | fold i hi hk =>
    subst hk
    have hlength : (newLine i).length = 0 + 1 + i := by simp [newLine, Nat.add_comm]
    rw [hlength]
    obtain hspace | ⟨hzero, -⟩ := plainSpace_newLine (k := 0) h hc
    · exact ⟨true, hspace⟩
    · exact absurd (hfolding i hi) (by omega)
  | spaceFold i hi hk =>
    subst hk
    have hlength : (' ' :: newLine i).length = 1 + 1 + i := by
      simp [newLine]
      omega
    rw [hlength]
    obtain hspace | ⟨hzero, -⟩ := plainSpace_newLine (k := 1) h hc
    · exact ⟨true, hspace⟩
    · exact absurd (hfolding i hi) (by omega)

theorem plainWord_gap {folding : Folding} {k : Nat} {gap : List Char} {version : Version}
    (hgap : WrittenGap folding k gap) : plainWord false version (gap ++ post) = [] := by
  cases hgap <;> rfl

theorem le_column_gap {folding : Folding} {k : Nat} {gap : List Char} {indent : Int}
    (hgap : WrittenGap folding k gap) (hfolding : ∀ i : Nat, folding = some i → indent ≤ i)
    (h : cur.rest = gap ++ post) (hcolumn : indent ≤ cur.column) :
    indent ≤ (cur.skip gap.length).column := by
  cases hgap with
  | spaces =>
    have hinline : ∀ c ∈ margin (k + 1), isInline c = true := fun c hc => by
      rw [Cursor.mem_margin hc]
      decide
    rw [(Cursor.skip_inline h hinline).2]
    omega
  | fold i hi hk =>
    have hlength : (newLine i).length = i + 1 := by simp [newLine]
    rw [hlength, (Cursor.skip_newLine h).2]
    exact hfolding i hi
  | spaceFold i hi hk =>
    have hlength : (' ' :: newLine i).length = i + 1 + 1 := by simp [newLine]
    have hnext : cur.next.rest = newLine i ++ post := by rw [Cursor.next_rest, h]; rfl
    rw [hlength, Cursor.skip_succ, (Cursor.skip_newLine hnext).2]
    exact hfolding i hi

/-- What ends a plain scalar: no white space of it, or the next line if it is not indented. -/
def EndsPlain (indent : Int) (s : PlainSpace) : Prop :=
  s.chars = [] ∨ (s.after.column : Int) < indent

theorem plainWords_step {version : Version} {indent : Int} (fuel : Nat) {read : PlainText}
    (space : List Char) (hw : PlainWord w) (h : read.after.rest = w ++ post)
    (hpost : plainWord false version post = []) :
    plainWords (fuel + 1) false version indent read space =
      let s := plainSpace (read.after.skip w.length)
      let read := ⟨w.reverse ++ space.reverse ++ read.reversed, s.after, s.brokeLine⟩
      if s.chars.isEmpty || s.after.peek = some '#' || (s.after.column : Int) < indent then read
      else plainWords fuel false version indent read s.chars := by
  have hpeek : read.after.peek ≠ some '#' := by
    rw [Cursor.peek, h]
    cases w with
    | nil => exact absurd rfl hw.ne_nil
    | cons c w => exact hw.first
  have hword : plainWord false version read.after.rest = w := by
    rw [h, plainWord_append hw hpost]
  have hne : w.isEmpty = false := by
    rw [List.isEmpty_eq_false_iff]
    exact hw.ne_nil
  rw [plainWords]
  dsimp only
  rw [if_neg hpeek, hword, hne]
  rfl

/-- A word with a gap behind it is read, and then what the gap stands in front of. -/
theorem plainWords_gap {folding : Folding} (version : Version) {indent : Int} (fuel : Nat)
    {read : PlainText} (space : List Char) {k : Nat} {gap : List Char} {c : Char}
    (hw : PlainWord w) (hgap : WrittenGap folding k gap)
    (hfolding : ∀ i : Nat, folding = some i → 0 < i ∧ indent ≤ i)
    (h : read.after.rest = w ++ gap ++ c :: post) (hsolid : isSolid c = true) (hsign : c ≠ '#')
    (hcolumn : indent ≤ read.after.column + 1) :
    indent ≤ (read.after.skip (w ++ gap).length).column ∧
      ∃ broke, plainWords (fuel + 1) false version indent read space =
        plainWords fuel false version indent
          ⟨w.reverse ++ space.reverse ++ read.reversed, read.after.skip (w ++ gap).length, broke⟩
          (margin (k + 1)) := by
  have hword : read.after.rest = w ++ (gap ++ c :: post) := by rw [h, List.append_assoc]
  have hbehind := Cursor.skip_append hword
  have hskip : read.after.skip (w ++ gap).length = (read.after.skip w.length).skip gap.length := by
    rw [List.length_append, Cursor.skip_add]
  obtain ⟨broke, hspace⟩ := plainSpace_gap hgap (fun i hi => (hfolding i hi).1) hbehind
    (.of_isSolid hsolid)
  have hafter : indent ≤ ((read.after.skip w.length).skip gap.length).column := by
    refine le_column_gap hgap (fun i hi => (hfolding i hi).2) hbehind ?_
    have hinline : ∀ x ∈ w, isInline x = true := fun x hx =>
      (LineStart.of_isSolid (hw.solid x hx)).inLine
    have := hw.length_pos
    rw [(Cursor.skip_inline hword hinline).2]
    omega
  have hgoesOn : ¬((margin (k + 1)).isEmpty ||
      decide (((read.after.skip w.length).skip gap.length).peek = some '#') ||
      decide ((((read.after.skip w.length).skip gap.length).column : Int) < indent)) = true := by
    rw [Cursor.peek, Cursor.skip_append hbehind]
    simp [margin, List.replicate_succ, hsign, hafter]
  rw [hskip]
  refine ⟨hafter, broke, ?_⟩
  rw [plainWords_step fuel space hw hword (plainWord_gap hgap), hspace]
  dsimp only
  rw [if_neg hgoesOn]

theorem plainWords_written {folding : Folding} {version : Version} {indent : Int}
    {cs tail : List Char} (hcs : PlainWords cs)
    (hfolding : ∀ i : Nat, folding = some i → 0 < i ∧ indent ≤ i)
    (htail : plainWord false version tail = []) {fuel column : Nat} {read : PlainText}
    {space : List Char} (hfuel : cs.length ≤ fuel)
    (hrest : read.after.rest = wordChars folding column cs ++ tail)
    (hcolumn : indent ≤ read.after.column + 1)
    (hend : EndsPlain indent
      (plainSpace (read.after.skip (wordChars folding column cs).length))) :
    plainWords fuel false version indent read space =
      let s := plainSpace (read.after.skip (wordChars folding column cs).length)
      ⟨cs.reverse ++ space.reverse ++ read.reversed, s.after, s.brokeLine⟩ := by
  induction hcs generalizing fuel column read space with
  | @one w hw =>
    obtain ⟨fuel, rfl⟩ : ∃ n, fuel = n + 1 :=
      ⟨fuel - 1, by have := hw.length_pos; omega⟩
    have hwritten : wordChars folding column w = w := by
      obtain ⟨d, -, hword⟩ := wordChars_append folding column [] hw.ne_nil
        fun c hc => ne_space_of_isSolid (hw.solid c hc)
      simpa [plainRest] using hword
    rw [hwritten] at hrest hend ⊢
    rw [plainWords_step fuel space hw hrest htail]
    dsimp only
    rw [if_pos]
    rcases hend with hempty | hleft
    · simp [hempty]
    · simp [hleft]
  | @more w cs k hw hwide hcs ih =>
    have hlength := hw.length_pos
    simp only [List.length_append] at hfuel
    obtain ⟨fuel, rfl⟩ : ∃ n, fuel = n + 1 := ⟨fuel - 1, by omega⟩
    obtain ⟨d, -, hword⟩ := wordChars_append folding column (margin (k + 1) ++ cs) hw.ne_nil
      fun c hc => ne_space_of_isSolid (hw.solid c hc)
    obtain ⟨gap, column', hgap, hspaces⟩ :=
      plainRest_gap folding (column + w.length) hcs k hwide d
    have hwritten : wordChars folding column (w ++ margin (k + 1) ++ cs) =
        w ++ gap ++ wordChars folding column' cs := by
      rw [List.append_assoc, hword, hspaces, List.append_assoc]
    rw [hwritten, List.append_assoc] at hrest
    have hlengths : (w ++ gap ++ wordChars folding column' cs).length =
        (w ++ gap).length + (wordChars folding column' cs).length := List.length_append
    rw [hwritten, hlengths, Cursor.skip_add] at hend ⊢
    obtain ⟨c, rest, hc, hsolid, hsign⟩ := hcs.head
    have hhead : wordChars folding column' cs =
        c :: plainRest folding (column' + 1) (some c) rest := by
      rw [hc, wordChars]
    obtain ⟨hafter, broke, hstep⟩ := plainWords_gap version fuel space hw hgap hfolding
      (hrest.trans (by rw [hhead]; rfl)) hsolid hsign hcolumn
    rw [hstep, ih (by omega) (Cursor.skip_append hrest) (Int.le_add_one hafter) hend]
    simp [margin, List.reverse_replicate]

theorem length_le_plainRest (folding : Folding) (column : Nat) (before : Option Char)
    (cs : List Char) : cs.length ≤ (plainRest folding column before cs).length := by
  induction cs generalizing column before with
  | nil => exact Nat.zero_le _
  | cons c cs ih =>
    have hplain : (c :: cs).length ≤ (c :: plainRest folding (column + 1) (some c) cs).length := by
      simpa using ih (column + 1) (some c)
    have hfold : ∀ indent (pre : List Char), 0 < pre.length →
        (c :: cs).length ≤ (pre ++ plainRest folding indent (some c) cs).length := by
      intro indent pre hpre
      have := ih indent (some c)
      simp only [List.length_append, List.length_cons]
      omega
    cases folding with
    | none => exact hplain
    | some indent =>
      rw [plainRest]
      dsimp only
      split
      · split
        · exact hfold _ _ (by simp [newLine])
        · exact hplain
      · split
        · have := hfold (indent + 1) (newLine indent ++ [c]) (by simp)
          rwa [List.append_assoc] at this
        · exact hplain

theorem length_le_wordChars (folding : Folding) (column : Nat) (cs : List Char) :
    cs.length ≤ (wordChars folding column cs).length := by
  cases cs with
  | nil => exact Nat.zero_le _
  | cons c cs =>
    rw [wordChars, List.length_cons, List.length_cons]
    exact Nat.succ_le_succ (length_le_plainRest folding _ _ cs)

/-- A plain text is read back from its first word on, up to the space behind it. -/
theorem plainText_written {folding : Folding} (version : Version) (indent : Int) {column : Nat}
    {cs tail : List Char} (hcs : PlainWords cs)
    (hfolding : ∀ i : Nat, folding = some i → 0 < i ∧ indent ≤ i)
    (htail : plainWord false version tail = [])
    (hrest : cur.rest = wordChars folding column cs ++ tail) (hcolumn : indent ≤ cur.column + 1)
    (hend : EndsPlain indent (plainSpace (cur.skip (wordChars folding column cs).length))) :
    plainText false version indent cur =
      let s := plainSpace (cur.skip (wordChars folding column cs).length)
      ⟨cs.reverse, s.after, s.brokeLine⟩ := by
  have hfuel : cs.length ≤ cur.fuel := by
    have := length_le_wordChars folding column cs
    rw [Cursor.fuel_eq, hrest, List.length_append]
    omega
  rw [plainText, plainWords_written hcs hfolding htail hfuel hrest hcolumn hend]
  simp

end

/-! ## Which texts are made of such words -/

/-- Spaces in front of a word that is longer than a line stand alone. -/
def KeepsSpaces (cs : List Char) : Prop :=
  ∀ before after, cs = before ++ ' ' :: ' ' :: after → FitsLine after

/-- What a text has to be like to be written plain, as far as its parts are concerned. -/
structure SplitsIntoWords (cs : List Char) : Prop where
  solid : ∀ c ∈ cs, c ≠ ' ' → isSolid c = true
  first : ∃ c rest, cs = c :: rest ∧ c ≠ ' ' ∧ c ≠ '#'
  last : cs.getLast? ≠ some ' '
  colon : ∀ before after, cs = before ++ ':' :: after → after ≠ [] ∧ after.head? ≠ some ' '
  comment : ∀ before after, cs ≠ before ++ ' ' :: '#' :: after

theorem exists_run (kind : Char → Bool) (cs : List Char) :
    ∃ run rest, cs = run ++ rest ∧ (∀ c ∈ run, kind c = true) ∧ ∀ c ∈ rest.head?, kind c = false := by
  induction cs with
  | nil => exact ⟨[], [], rfl, by simp, by simp⟩
  | cons c cs ih =>
    cases hc : kind c with
    | false => exact ⟨[], c :: cs, rfl, by simp, by simp [hc]⟩
    | true =>
      obtain ⟨run, rest, rfl, hrun, hrest⟩ := ih
      refine ⟨c :: run, rest, rfl, ?_, hrest⟩
      intro d hd
      rcases List.mem_cons.mp hd with rfl | hd
      · exact hc
      · exact hrun d hd

theorem SplitsIntoWords.suffix {pre cs : List Char} (h : SplitsIntoWords (pre ++ ' ' :: cs))
    (hcs : cs.head? ≠ some ' ') : SplitsIntoWords cs where
  solid c hc := h.solid c (by simp [hc])
  first := by
    cases cs with
    | nil => exact absurd (by simp) h.last
    | cons c rest =>
      refine ⟨c, rest, rfl, by simpa using hcs, ?_⟩
      rintro rfl
      exact h.comment pre rest rfl
  last := by
    cases cs with
    | nil => simp
    | cons c rest => simpa [List.getLast?_append] using h.last
  colon before after hcs := h.colon (pre ++ ' ' :: before) after (by simp [hcs])
  comment before after hcs := h.comment (pre ++ ' ' :: before) after (by simp [hcs])

theorem SplitsIntoWords.word {w rest : List Char} (h : SplitsIntoWords (w ++ rest))
    (hw : ∀ c ∈ w, c ≠ ' ') (hrest : rest = [] ∨ rest.head? = some ' ') : PlainWord w := by
  have hne : w ≠ [] := by
    rintro rfl
    obtain ⟨c, cs, hcs, hspace, -⟩ := h.first
    rcases hrest with rfl | hhead
    · simp at hcs
    · rw [List.nil_append] at hcs
      rw [hcs] at hhead
      exact hspace (by simpa using hhead)
  refine
    { ne_nil := hne
      first := ?_
      last := ?_
      solid := fun c hc => h.solid c (List.mem_append_left _ hc) (hw c hc) }
  · obtain ⟨c, cs, hcs, -, hsign⟩ := h.first
    cases w with
    | nil => exact absurd rfl hne
    | cons d w =>
      obtain ⟨rfl, -⟩ := List.cons.inj hcs
      simpa using hsign
  · intro hlast
    obtain ⟨before, rfl⟩ := List.getLast?_eq_some_iff.mp hlast
    obtain ⟨hne', hhead⟩ := h.colon before rest (by simp)
    rcases hrest with hnil | hspace
    · exact hne' hnil
    · exact hhead hspace

theorem plainWords_of_splits {cs : List Char} (h : SplitsIntoWords cs) (hwide : KeepsSpaces cs) :
    PlainWords cs := by
  obtain ⟨n, hn⟩ : ∃ n, cs.length ≤ n := ⟨_, Nat.le_refl _⟩
  induction n generalizing cs with
  | zero =>
    obtain ⟨c, rest, rfl, -⟩ := h.first
    simp at hn
  | succ n ih =>
    obtain ⟨w, rest, rfl, hw, hrest⟩ := exists_run (fun c => decide (c ≠ ' ')) cs
    have hsolid : ∀ c ∈ w, c ≠ ' ' := fun c hc => by simpa using hw c hc
    cases rest with
    | nil =>
      rw [List.append_nil]
      exact .one (h.word hsolid (Or.inl rfl))
    | cons c rest =>
      obtain rfl : c = ' ' := by simpa using hrest
      have hword := h.word hsolid (Or.inr rfl)
      obtain ⟨spaces, cs, rfl, hspaces, hcs⟩ := exists_run (fun c => decide (c = ' ')) rest
      obtain ⟨k, rfl⟩ : ∃ k, spaces = margin k :=
        ⟨_, List.eq_replicate_of_mem fun c hc => by simpa using hspaces c hc⟩
      have hshape : w ++ ' ' :: (margin k ++ cs) = w ++ margin (k + 1) ++ cs := by
        rw [List.append_assoc]
        rfl
      have hend : w ++ ' ' :: (margin k ++ cs) = (w ++ margin k) ++ ' ' :: cs := by
        rw [hshape, margin, List.replicate_succ']
        simp [margin]
      have hsuffix : SplitsIntoWords cs := by
        refine SplitsIntoWords.suffix (hend ▸ h) ?_
        intro hhead
        simpa using hcs ' ' hhead
      have hfits : k = 0 ∨ FitsLine cs := by
        cases k with
        | zero => exact Or.inl rfl
        | succ k =>
          refine Or.inr (hwide (w ++ margin k) cs ?_)
          rw [hend, margin, List.replicate_succ']
          simp [margin]
      have hkeeps : KeepsSpaces cs := fun before after hbefore =>
        hwide (w ++ margin (k + 1) ++ before) after
          (by rw [hshape, hbefore, List.append_assoc, List.append_assoc, List.append_assoc])
      have hlength : cs.length ≤ n := by
        simp only [List.length_append, List.length_cons] at hn
        omega
      rw [hshape]
      exact .more k hword hfits (ih hsuffix hkeeps hlength)

end EndpointUpgrade.Yaml
