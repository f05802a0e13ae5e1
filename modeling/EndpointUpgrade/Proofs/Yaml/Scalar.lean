import EndpointUpgrade.Proofs.Yaml.Quoted

/-!
# Written scalars read back

Whatever the style, the pieces that a text is written in are read as that text, unless it is one of
those that get lost: a text with a next-line character in single quotes, a text in double quotes
that is folded beside an escape where no space is, and a plain text with several spaces in front of
a word that is longer than a line.
-/

namespace EndpointUpgrade.Yaml

open Text

/-! ## Single quotes -/

/-- What a text has to be like to be read back from single quotes: it has no line ends but the
separators of Unicode, and no spaces beside these. -/
def FitsSingle : List Char → Prop
  | [] => True
  | c :: rest =>
    (c = ' ' ∨ isSeparator c = true ∨ isSolid c = true) ∧
      (isSeparator c = true → rest.head? ≠ some ' ') ∧
      (c = ' ' → ∀ d ∈ rest.head?, isSeparator d = false) ∧ FitsSingle rest

section

variable (folding : Folding) (column : Nat) (before : Option Char)

theorem endsLine_of_isSeparator {c : Char} (hc : isSeparator c = true) :
    endsLine c = true ∧ c ≠ '\'' ∧ c ≠ '\n' := by
  have hcases : c = '\u2028' ∨ c = '\u2029' := by simpa [isSeparator] using hc
  rcases hcases with rfl | rfl <;> decide

theorem endsLine_of_isSolid {c : Char} (hc : isSolid c = true) : endsLine c = false := by
  cases hends : endsLine c with
  | false => rfl
  | true =>
    have hcases : ((c = '\n' ∨ c = '\x85') ∨ c = '\u2028') ∨ c = '\u2029' := by
      simpa [endsLine] using hends
    rcases hcases with ((rfl | rfl) | rfl) | rfl <;> exact absurd hc (by decide)

theorem isRaw_of_isSolid {double : Bool} {c : Char} (hc : isSolid c = true)
    (hquote : c ≠ quoteOf double) (hsign : double = true → c ≠ '\\') : isRaw double c = true := by
  have hblank : isQuotedBlank c = false := by
    cases hblank : isQuotedBlank c with
    | false => rfl
    | true =>
      have hcases : c = ' ' ∨ c = '\t' := by simpa [isQuotedBlank] using hblank
      rcases hcases with rfl | rfl <;> exact absurd hc (by decide)
  have hbreak := (LineStart.of_isSolid hc).isBreak
  cases double with
  | false => simp [isRaw, hblank, hbreak, hquote]
  | true => simp [isRaw, hblank, hbreak, hquote, hsign rfl]

theorem singleRest_solid {c : Char} {rest : List Char} (hc : isSolid c = true) :
    singleRest folding column before (c :: rest) =
      if c = '\'' then c :: c :: singleRest folding (column + 2) (some c) rest
      else c :: singleRest folding (column + 1) (some c) rest := by
  rw [singleRest]
  dsimp only
  split
  · rfl
  · rw [if_neg (by simp [endsLine_of_isSolid hc]), if_neg (by simp [ne_space_of_isSolid hc])]

theorem singleRest_separators {seps rest : List Char} (hne : seps ≠ [])
    (hseps : ∀ c ∈ seps, isSeparator c = true) (hrest : ∀ c ∈ rest.head?, endsLine c = false) :
    ∃ last, singleRest folding column before (seps ++ rest) =
      seps ++ margin (folding.getD 0) ++ singleRest folding (folding.getD 0) (some last) rest := by
  induction seps generalizing column before with
  | nil => contradiction
  | cons c seps ih =>
    obtain ⟨hends, hquote, hfeed⟩ := endsLine_of_isSeparator (hseps c List.mem_cons_self)
    rw [List.cons_append, singleRest]
    dsimp only
    rw [if_neg hquote, if_pos hends, if_neg (by simp [hfeed])]
    cases seps with
    | nil =>
      have hhead : rest.head?.any endsLine = false := by
        rw [Option.any_eq_false]
        intro d hd
        simp [hrest d hd]
      refine ⟨c, ?_⟩
      simp only [List.nil_append, hhead]
      simp
    | cons d seps =>
      have hd := (endsLine_of_isSeparator (hseps d (by simp))).1
      obtain ⟨last, hlast⟩ := ih 0 (some c) (by simp)
        fun x hx => hseps x (List.mem_cons_of_mem _ hx)
      refine ⟨last, ?_⟩
      have hhead : (d :: seps ++ rest).head?.any endsLine = true := by simpa using hd
      rw [hhead]
      simpa using hlast

theorem FitsSingle.tail {c : Char} {rest : List Char} (h : FitsSingle (c :: rest)) :
    FitsSingle rest := h.2.2.2

theorem FitsSingle.suffix {pre rest : List Char} (h : FitsSingle (pre ++ rest)) : FitsSingle rest := by
  induction pre with
  | nil => exact h
  | cons c pre ih => exact ih h.tail

theorem FitsSingle.head {rest : List Char} (h : FitsSingle rest) (hspace : rest.head? ≠ some ' ')
    (hsep : ∀ d ∈ rest.head?, isSeparator d = false) : ∀ d ∈ rest.head?, isSolid d = true := by
  intro d hd
  obtain ⟨more, rfl⟩ := List.head?_eq_some_iff.mp hd
  rcases h.1 with rfl | hsep' | hsolid
  · exact absurd rfl hspace
  · rw [hsep d hd] at hsep'
    contradiction
  · exact hsolid

theorem FitsSingle.behind_separators {seps rest : List Char} (h : FitsSingle (seps ++ rest))
    (hne : seps ≠ []) (hseps : ∀ c ∈ seps, isSeparator c = true) : rest.head? ≠ some ' ' := by
  induction seps with
  | nil => contradiction
  | cons c seps ih =>
    cases seps with
    | nil => exact h.2.1 (hseps c List.mem_cons_self)
    | cons d seps => exact ih h.tail (by simp) fun x hx => hseps x (List.mem_cons_of_mem _ hx)

theorem beginsSolid_of_isSolid {c : Char} (hc : isSolid c = true) (written : List Char) :
    BeginsSolid (c :: written) := by
  intro d hd
  obtain rfl : c = d := by simpa using hd
  have hraw : isRaw (c = '\'') c = true := by
    refine isRaw_of_isSolid hc ?_ ?_
    · by_cases hquote : c = '\''
      · rw [hquote]
        decide
      · simp [hquote, quoteOf]
    · simp only [decide_eq_true_eq]
      rintro rfl
      decide
  simp only [isRaw, Bool.and_eq_true, Bool.not_eq_true'] at hraw
  exact ⟨hraw.1.1.1, hraw.1.1.2⟩

theorem beginsSolid_singleRest {rest : List Char} (h : ∀ d ∈ rest.head?, isSolid d = true) :
    BeginsSolid (singleRest folding column before rest) := by
  cases rest with
  | nil => intro c hc; simp [singleRest] at hc
  | cons d rest =>
    have hd := h d rfl
    rw [singleRest_solid _ _ _ hd]
    split <;> exact beginsSolid_of_isSolid hd _

/-- Behind a space, the line goes on. -/
theorem beginsInLine_singleRest {rest : List Char} (h : FitsSingle (' ' :: rest)) :
    BeginsInLine (singleRest folding column (some ' ') rest) := by
  induction rest generalizing column with
  | nil => intro c hc; simp [singleRest] at hc
  | cons d rest ih =>
    have hsep : isSeparator d = false := h.2.2.1 rfl d rfl
    rcases h.tail.1 with rfl | hd | hd
    · have hstep : singleRest folding column (some ' ') (' ' :: rest) =
          ' ' :: singleRest folding (column + 1) (some ' ') rest := by
        rw [singleRest]
        dsimp only
        rw [if_neg (by decide), if_neg (by decide), if_neg (by simp)]
      intro c hc
      rw [hstep, List.dropWhile_cons_of_pos (by decide)] at hc
      exact ih (column + 1) h.tail c hc
    · rw [hsep] at hd
      contradiction
    · refine (beginsSolid_singleRest folding column (some ' ') ?_).beginsInLine
      simpa using hd

/-- Separators are written as they are, with the margin of the next line behind them. -/
theorem readsQuoted_separators {seps post : List Char} (h : FitsSingle (seps ++ post))
    (hne : seps ≠ []) (hseps : ∀ c ∈ seps, isSeparator c = true)
    (hpost : ∀ c ∈ post.head?, isSeparator c = false) (hfolding : ∀ i, folding = some i → 0 < i)
    (hline : folding = none → ∀ c ∈ seps ++ post, isSeparator c = false)
    (hread : ∀ column before, ReadsQuoted false (singleRest folding column before post) post) :
    ReadsQuoted false (singleRest folding column before (seps ++ post)) (seps ++ post) := by
  have hsolid := h.suffix.head (h.behind_separators hne hseps) hpost
  obtain ⟨last, hwritten⟩ := singleRest_separators folding column before hne hseps
    fun d hd => endsLine_of_isSolid (hsolid d hd)
  obtain ⟨i, rfl⟩ : ∃ i, folding = some i := by
    cases folding with
    | some i => exact ⟨i, rfl⟩
    | none =>
      obtain ⟨d, hd⟩ := List.exists_mem_of_ne_nil seps hne
      have := hline rfl d (List.mem_append_left _ hd)
      rw [hseps d hd] at this
      contradiction
  rw [hwritten]
  exact (hread _ _).separators hne hseps (hfolding i rfl) (beginsSolid_singleRest _ _ _ hsolid)

theorem readsQuoted_singleRest {cs : List Char} (h : FitsSingle cs)
    (hfolding : ∀ i, folding = some i → 0 < i)
    (hline : folding = none → ∀ c ∈ cs, isSeparator c = false) :
    ReadsQuoted false (singleRest folding column before cs) cs := by
  -- on the length, because a run of separators is read at once
  obtain ⟨n, hn⟩ : ∃ n, cs.length ≤ n := ⟨_, Nat.le_refl _⟩
  induction n generalizing cs column before with
  | zero =>
    obtain rfl : cs = [] := List.length_eq_zero_iff.mp (Nat.le_zero.mp hn)
    exact .nil false
  | succ n ih =>
    cases cs with
    | nil => exact .nil false
    | cons c rest =>
      have hlength : rest.length ≤ n := Nat.le_of_succ_le_succ hn
      have hrest : ∀ column before, ReadsQuoted false (singleRest folding column before rest) rest :=
        fun column before => ih column before h.tail
          (fun hnone d hd => hline hnone d (List.mem_cons_of_mem _ hd)) hlength
      rcases h.1 with rfl | hsep | hsolid
      · rw [singleRest]
        dsimp only
        rw [if_neg (by decide), if_neg (by decide)]
        split
        · -- the space becomes the end of a line
          rename_i hfold
          simp only [Bool.and_eq_true, decide_eq_true_eq, Bool.not_eq_true'] at hfold
          obtain ⟨i, rfl⟩ := Option.isSome_iff_exists.mp hfold.1.1.1.1.1.2
          refine (hrest i _).fold (hfolding i rfl) (beginsSolid_singleRest _ _ _ ?_)
          exact h.tail.head hfold.1.2 (h.2.2.1 rfl)
        · exact (hrest _ _).space (beginsInLine_singleRest folding _ h)
      · obtain ⟨seps, post, hsplit, hseps, hpost⟩ := exists_run isSeparator (c :: rest)
        have hne : seps ≠ [] := by
          rintro rfl
          rw [hpost c (by rw [← List.nil_append post, ← hsplit]; rfl)] at hsep
          contradiction
        rw [hsplit] at h hn hline ⊢
        have hshorter : post.length ≤ n := by
          have := List.length_pos_iff.mpr hne
          rw [List.length_append] at hn
          omega
        exact readsQuoted_separators folding column before h hne hseps hpost hfolding hline
          fun column before => ih column before h.suffix
            (fun hnone d hd => hline hnone d (List.mem_append_right _ hd)) hshorter
      · rw [singleRest_solid _ _ _ hsolid]
        split
        · rename_i hquote
          subst hquote
          exact (hrest _ _).quote
        · rename_i hquote
          exact (hrest _ _).raw (isRaw_of_isSolid hsolid hquote (by simp))

end

/-! ## Double quotes -/

/-- A line ends beside an escape without a backslash somewhere in the rest of a scalar, so that a
space is read there which the text does not have. The places are those at which the rest is folded
when it is written from a column on. -/
def gainsSpace (folding : Folding) (column : Nat) (before : Option Char) (besideEscape : Bool) :
    List Char → Bool
  | [] => false
  | c :: rest =>
    let inside := folding.isSome && before.isSome && !rest.isEmpty
    let indent := folding.getD 0
    let atSpace := foldsAtSpace before c rest
    if isPlainInDouble c then
      if inside && (c = ' ' || besideEscape) && width < column then
        if c = ' ' then
          if atSpace then gainsSpace folding indent (some c) true rest
          else gainsSpace folding (indent + 2) (some c) false rest
        else atSpace || gainsSpace folding (indent + 1) (some c) false rest
      else gainsSpace folding (column + 1) (some c) false rest
    else
      let column := column + (escapeOf c).length
      if inside && width < column - 1 then
        atSpace ||
          (if rest.head? = some ' ' then gainsSpace folding (indent + 1) (some c) true rest
          else gainsSpace folding indent (some c) true rest)
      else gainsSpace folding column (some c) true rest

section

variable (folding : Folding) (column : Nat) (before : Option Char)

theorem isRaw_of_isPlainInDouble {c : Char} (hc : isPlainInDouble c = true) (hspace : c ≠ ' ') :
    isRaw true c = true := by
  cases hraw : isRaw true c with
  | true => rfl
  | false =>
    have hcases : c = '\t' ∨ c = '\n' ∨ c = '\r' ∨ c = '\x85' ∨ c = '\u2028' ∨ c = '\u2029' ∨
        c = '"' ∨ c = '\\' := by
      simp only [isRaw, isQuotedBlank, isBreak, isLineEnd, quoteOf, Bool.and_eq_false_iff,
        Bool.not_eq_false', Bool.or_eq_true, decide_eq_true_eq, decide_eq_false_iff_not,
        Decidable.not_not, Bool.and_eq_true] at hraw
      grind
    rcases hcases with rfl | rfl | rfl | rfl | rfl | rfl | rfl | rfl <;>
      exact absurd hc (by decide)

theorem beginsSolid_of_isRaw {c : Char} (hc : isRaw true c = true) (written : List Char) :
    BeginsSolid (c :: written) := by
  intro d hd
  obtain rfl : c = d := by simpa using hd
  simp only [isRaw, Bool.and_eq_true, Bool.not_eq_true'] at hc
  exact ⟨hc.1.1.1, hc.1.1.2⟩

theorem beginsSolid_sign (written : List Char) : BeginsSolid ('\\' :: written) := by
  intro d hd
  obtain rfl : '\\' = d := by simpa using hd
  decide

theorem beginsSolid_escapeOf (c : Char) (written : List Char) :
    BeginsSolid (escapeOf c ++ written) := by
  obtain ⟨signs, hsigns, -⟩ := exists_escapeOf c
  rw [hsigns]
  exact beginsSolid_sign _

theorem doubleRest_escape {c : Char} (rest : List Char) (besideEscape : Bool)
    (hc : isPlainInDouble c = false) :
    ∃ more, doubleRest folding column before besideEscape (c :: rest) = escapeOf c ++ more := by
  rw [doubleRest]
  dsimp only
  rw [if_neg (by simp [hc])]
  split
  · exact ⟨_, List.append_assoc _ _ _ |>.trans (List.append_assoc _ _ _)⟩
  · exact ⟨_, rfl⟩

/-- At the beginning of a line, what is written first is no space. -/
theorem beginsSolid_doubleRest {rest : List Char} (besideEscape : Bool) (hcolumn : column ≤ width)
    (hspace : rest.head? ≠ some ' ') :
    BeginsSolid (doubleRest folding column before besideEscape rest) := by
  cases rest with
  | nil => intro c hc; simp [doubleRest] at hc
  | cons c rest =>
    cases hc : isPlainInDouble c with
    | false =>
      obtain ⟨more, hmore⟩ := doubleRest_escape folding column before rest besideEscape hc
      rw [hmore]
      exact beginsSolid_escapeOf c more
    | true =>
      have hne : c ≠ ' ' := by simpa using hspace
      rw [doubleRest]
      dsimp only
      rw [if_pos hc, if_neg (by simp [Nat.not_lt.mpr hcolumn])]
      exact beginsSolid_of_isRaw (isRaw_of_isPlainInDouble hc hne) _

/-- Behind a space, the line goes on or ends with a backslash. -/
theorem beginsInLine_doubleRest (rest : List Char) :
    BeginsInLine (doubleRest folding column (some ' ') false rest) := by
  induction rest generalizing column with
  | nil => intro c hc; simp [doubleRest] at hc
  | cons c rest ih =>
    cases hc : isPlainInDouble c with
    | false =>
      obtain ⟨more, hmore⟩ := doubleRest_escape folding column (some ' ') rest false hc
      rw [hmore]
      exact (beginsSolid_escapeOf c more).beginsInLine
    | true =>
      rw [doubleRest]
      dsimp only
      rw [if_pos hc]
      by_cases hspace : c = ' '
      · subst hspace
        have hsign : foldsAtSpace (some ' ') ' ' rest = false := by simp [foldsAtSpace]
        rw [hsign]
        split
        · exact (beginsSolid_sign _).beginsInLine
        · intro d hd
          rw [List.dropWhile_cons_of_pos (by decide)] at hd
          exact ih (column + 1) d hd
      · rw [if_neg (by simp [hspace])]
        exact (beginsSolid_of_isRaw (isRaw_of_isPlainInDouble hc hspace) _).beginsInLine

theorem doubleRest_space (rest : List Char) (besideEscape : Bool) (hcolumn : column ≤ width) :
    doubleRest folding column before besideEscape (' ' :: rest) =
        ' ' :: doubleRest folding (column + 1) (some ' ') false rest ∧
      gainsSpace folding column before besideEscape (' ' :: rest) =
        gainsSpace folding (column + 1) (some ' ') false rest := by
  rw [doubleRest, gainsSpace]
  dsimp only
  rw [if_pos (by decide), if_neg (by simp [Nat.not_lt.mpr hcolumn]), if_pos (by decide),
    if_neg (by simp [Nat.not_lt.mpr hcolumn])]
  exact ⟨rfl, rfl⟩

/-- Texts of some length at most are read as they were, if they gain no space. -/
def ReadsDouble (n : Nat) : Prop :=
  ∀ (column : Nat) (before : Option Char) (besideEscape : Bool) (cs : List Char), cs.length ≤ n →
    gainsSpace folding column before besideEscape cs = false →
    ReadsQuoted true (doubleRest folding column before besideEscape cs) cs

variable {folding} {n : Nat} {c : Char} {rest : List Char}

/-- A character that stands for itself is read, whether or not the line is folded at it. -/
theorem ReadsDouble.plain (hreads : ReadsDouble folding n)
    (hfolding : ∀ i, folding = some i → 0 < i ∧ i < width) (besideEscape : Bool)
    (hlength : rest.length ≤ n) (hplain : isPlainInDouble c = true)
    (h : gainsSpace folding column before besideEscape (c :: rest) = false) :
    ReadsQuoted true (doubleRest folding column before besideEscape (c :: rest)) (c :: rest) := by
  rw [gainsSpace] at h
  rw [doubleRest]
  dsimp only at h ⊢
  rw [if_pos hplain] at h ⊢
  split
  · rename_i hfold
    rw [if_pos hfold] at h
    simp only [Bool.and_eq_true] at hfold
    obtain ⟨i, rfl⟩ := Option.isSome_iff_exists.mp hfold.1.1.1.1
    obtain ⟨hpos, hwidth⟩ := hfolding i rfl
    rw [Option.getD_some] at h ⊢
    by_cases hspace : c = ' '
    · subst hspace
      rw [if_pos rfl] at h ⊢
      by_cases hat : foldsAtSpace before ' ' rest = true
      · -- the space becomes the end of a line
        rw [if_pos hat] at h
        rw [if_pos hat, if_pos hat]
        have hnext : rest.head? ≠ some ' ' := by
          simp only [foldsAtSpace, Bool.and_eq_true, decide_eq_true_eq] at hat
          exact hat.1.2
        exact (hreads i (some ' ') true rest hlength h).fold hpos
          (beginsSolid_doubleRest _ i _ true (Nat.le_of_lt hwidth) hnext)
      · rw [if_neg hat] at h
        rw [if_neg hat, if_neg hat]
        exact (hreads (i + 2) (some ' ') false rest hlength h).escapedSpace.signedFold hpos
          (beginsSolid_sign _)
    · rw [if_neg hspace, Bool.or_eq_false_iff] at h
      have hraw := isRaw_of_isPlainInDouble hplain hspace
      rw [if_neg hspace, h.1, if_neg (by decide)]
      exact ((hreads (i + 1) (some c) false rest hlength h.2).raw hraw).signedFold hpos
        (beginsSolid_of_isRaw hraw _)
  · rename_i hfold
    rw [if_neg hfold] at h
    by_cases hspace : c = ' '
    · subst hspace
      exact (hreads (column + 1) (some ' ') false rest hlength h).space
        (beginsInLine_doubleRest _ _ _)
    · exact (hreads (column + 1) (some c) false rest hlength h).raw
        (isRaw_of_isPlainInDouble hplain hspace)

/-- An escape is read, whether or not the line is folded behind it. -/
theorem ReadsDouble.escape (hreads : ReadsDouble folding n)
    (hfolding : ∀ i, folding = some i → 0 < i ∧ i < width) (besideEscape : Bool)
    (hlength : rest.length ≤ n) (hplain : isPlainInDouble c = false)
    (h : gainsSpace folding column before besideEscape (c :: rest) = false) :
    ReadsQuoted true (doubleRest folding column before besideEscape (c :: rest)) (c :: rest) := by
  rw [gainsSpace] at h
  rw [doubleRest]
  dsimp only at h ⊢
  rw [if_neg (by simp [hplain])] at h ⊢
  split
  · rename_i hfold
    rw [if_pos hfold, Bool.or_eq_false_iff] at h
    simp only [Bool.and_eq_true] at hfold
    obtain ⟨i, rfl⟩ := Option.isSome_iff_exists.mp hfold.1.1.1
    obtain ⟨hpos, hwidth⟩ := hfolding i rfl
    rw [Option.getD_some] at h ⊢
    rw [h.1, if_neg (by decide), List.append_assoc, List.append_assoc]
    refine ReadsQuoted.escape ?_ c
    by_cases hspace : rest.head? = some ' '
    · obtain ⟨rest, rfl⟩ := List.head?_eq_some_iff.mp hspace
      have hwritten := doubleRest_space (some i) (i + 1) (some c) rest true hwidth
      rw [if_pos hspace, hwritten.2] at h
      rw [if_pos (by simp), hwritten.1]
      have hafter : rest.length ≤ n := Nat.le_of_succ_le hlength
      exact (hreads (i + 2) (some ' ') false rest hafter h.2).escapedSpace.signedFold hpos
        (beginsSolid_sign _)
    · rw [if_neg hspace] at h
      rw [if_neg (by simp [hspace])]
      exact (hreads i (some c) true rest hlength h.2).signedFold hpos
        (beginsSolid_doubleRest _ i _ true (Nat.le_of_lt hwidth) hspace)
  · rename_i hfold
    rw [if_neg hfold] at h
    exact (hreads _ (some c) true rest hlength h).escape c

theorem readsDouble (hfolding : ∀ i, folding = some i → 0 < i ∧ i < width) (n : Nat) :
    ReadsDouble folding n := by
  induction n with
  | zero =>
    intro column before besideEscape cs hlength _
    obtain rfl : cs = [] := List.length_eq_zero_iff.mp (Nat.le_zero.mp hlength)
    exact .nil true
  | succ n ih =>
    intro column before besideEscape cs hlength h
    cases cs with
    | nil => exact .nil true
    | cons c rest =>
      have hrest : rest.length ≤ n := Nat.le_of_succ_le_succ hlength
      cases hplain : isPlainInDouble c with
      | true => exact ih.plain column before hfolding besideEscape hrest hplain h
      | false => exact ih.escape column before hfolding besideEscape hrest hplain h

theorem readsQuoted_doubleRest (hfolding : ∀ i, folding = some i → 0 < i ∧ i < width)
    (besideEscape : Bool) {cs : List Char}
    (h : gainsSpace folding column before besideEscape cs = false) :
    ReadsQuoted true (doubleRest folding column before besideEscape cs) cs :=
  readsDouble hfolding cs.length column before besideEscape cs (Nat.le_refl _) h

end

end EndpointUpgrade.Yaml
