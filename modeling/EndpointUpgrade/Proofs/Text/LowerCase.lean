import EndpointUpgrade.Text.LowerCase

/-!
# Lower case is reached in one step

A text in lower case has no capital left, so putting it into lower case again changes nothing, no
matter which letters stand beside a sigma. Both facts about single letters come from the table of
capitals: no run produces a letter that some run replaces, and every letter that it produces lies
beyond the digits and the punctuation of ASCII. Characters before the first capital, the hyphen and
the point among them, are therefore neither made nor lost.
-/

namespace EndpointUpgrade.Text

/-- No small letter of the first run is a capital of the second one. The runs that overlap step
over every other code point and stand on different sides. -/
def CaseRun.clearOf (r s : CaseRun) : Bool :=
  Nat.blt (r.small + (r.last - r.first)) s.first || Nat.blt s.last r.small ||
    ((r.step == 2 || r.first == r.last) && s.step == 2 && (r.small + s.first) % 2 == 1)

theorem CaseRun.image?_of_clearOf {r s : CaseRun} (h : r.clearOf s) {c n : Nat}
    (hc : r.image? c = some n) : s.image? n = none := by
  simp only [CaseRun.clearOf, Bool.or_eq_true, Bool.and_eq_true, beq_iff_eq, Nat.blt_eq] at h
  simp only [CaseRun.image?, Option.ite_none_right_eq_some, Option.some.injEq] at hc
  obtain ⟨⟨hfirst, hlast, hstep⟩, rfl⟩ := hc
  rw [CaseRun.image?, if_neg]
  rintro ⟨hfirst', hlast', hstep'⟩
  rcases h with (h | h) | ⟨⟨h | h, h'⟩, hodd⟩
  · omega
  · omega
  · rw [h] at hstep
    rw [h'] at hstep'
    omega
  · rw [h'] at hstep'
    omega

/-- The capitals of a run begin where those of ASCII do. Its letters are code points of characters
beyond the capitals of ASCII, and none of the two capitals that have a rule of their own. -/
def CaseRun.regular (r : CaseRun) : Bool :=
  let final := r.small + (r.last - r.first)
  Nat.blt 0x40 r.first && Nat.blt 0x60 r.small &&
    (Nat.blt final 0xD800 || (Nat.blt 0xDFFF r.small && Nat.blt final 0x110000)) &&
    (Nat.blt final 0x130 || Nat.blt 0x130 r.small) &&
    (Nat.blt final 0x3A3 || Nat.blt 0x3A3 r.small)

/-- What the letters of the table have in common. -/
structure IsSmallCode (n : Nat) : Prop where
  valid : n.isValidChar
  beyond_ascii_capitals : 0x60 < n
  ne_sigma : n ≠ 0x3A3
  ne_dotted : n ≠ 0x130
  fixed : smallCode n = n

theorem caseRuns_clearOf : (caseRuns.all fun r => caseRuns.all r.clearOf) = true := by
  decide +kernel

theorem caseRuns_regular : caseRuns.all CaseRun.regular = true := by decide +kernel

theorem smallCode_of_image? {n : Nat} (h : ∀ r ∈ caseRuns, r.image? n = none) :
    smallCode n = n := by
  rw [smallCode, List.findSome?_eq_none_iff.mpr h]
  rfl

/-- What a run of the table says about one of its capitals. -/
theorem isSmallCode_of_image? {r : CaseRun} (hr : r ∈ caseRuns) {c n : Nat}
    (hc : r.image? c = some n) : 0x40 < c ∧ IsSmallCode n := by
  have hclear : ∀ s ∈ caseRuns, s.image? n = none := by
    intro s hs
    have hall := List.all_eq_true.mp (List.all_eq_true.mp caseRuns_clearOf r hr) s hs
    exact CaseRun.image?_of_clearOf hall hc
  have hregular := List.all_eq_true.mp caseRuns_regular r hr
  simp only [CaseRun.regular, Bool.and_eq_true, Bool.or_eq_true, Nat.blt_eq] at hregular
  simp only [CaseRun.image?, Option.ite_none_right_eq_some, Option.some.injEq] at hc
  refine ⟨by omega, ?_, by omega, by omega, by omega, smallCode_of_image? hclear⟩
  rw [Nat.isValidChar]
  omega

/-- A code point keeps its value, or is a capital of the table. -/
theorem smallCode_cases (n : Nat) :
    smallCode n = n ∨ 0x40 < n ∧ IsSmallCode (smallCode n) := by
  by_cases h : ∃ r ∈ caseRuns, (r.image? n).isSome
  · right
    obtain ⟨m, hm⟩ := Option.isSome_iff_exists.mp (List.findSome?_isSome_iff.mpr h)
    obtain ⟨r, hr, hn⟩ := List.exists_of_findSome?_eq_some hm
    rw [smallCode, hm, Option.getD_some]
    exact isSmallCode_of_image? hr hn
  · left
    exact smallCode_of_image? fun r hr => by
      simpa using fun hsome => h ⟨r, hr, hsome⟩

theorem toNat_smallChar (c : Char) : (smallChar c).toNat = smallCode c.toNat := by
  have valid : (smallCode c.toNat).isValidChar := by
    rcases smallCode_cases c.toNat with h | ⟨_, h⟩
    · rw [h]
      exact c.valid
    · exact h.valid
  rw [smallChar, Char.ofNat, dif_pos valid]
  rfl

/-- A character that lower case leaves as it stands, whatever is around it. -/
structure IsSmall (c : Char) : Prop where
  ne_sigma : c ≠ 'Σ'
  ne_dotted : c ≠ 'İ'
  fixed : smallChar c = c

theorem isSmall_smallChar {c : Char} (hsigma : c ≠ 'Σ') (hdotted : c ≠ 'İ') :
    IsSmall (smallChar c) := by
  have hcode := toNat_smallChar c
  rcases smallCode_cases c.toNat with h | ⟨_, h⟩
  · have hc : smallChar c = c := Char.toNat_inj.mp (hcode.trans h)
    rw [hc]
    exact ⟨hsigma, hdotted, hc⟩
  · rw [← hcode] at h
    refine ⟨?_, ?_, Char.toNat_inj.mp ((toNat_smallChar _).trans h.fixed)⟩
    · exact fun eq => h.ne_sigma (congrArg Char.toNat eq)
    · exact fun eq => h.ne_dotted (congrArg Char.toNat eq)

theorem isSmall_sigma : IsSmall 'σ' := ⟨by decide, by decide, by decide +kernel⟩

theorem isSmall_finalSigma : IsSmall 'ς' := ⟨by decide, by decide, by decide +kernel⟩

theorem isSmall_i : IsSmall 'i' := ⟨by decide, by decide, by decide +kernel⟩

theorem isSmall_dotAbove : IsSmall '\u0307' := ⟨by decide, by decide, by decide +kernel⟩

theorem isSmall_of_mem_lowerChar {before after : List Char} {c d : Char}
    (h : d ∈ lowerChar before c after) : IsSmall d := by
  rw [lowerChar] at h
  split at h
  · rw [List.mem_singleton] at h
    split at h
    · exact h ▸ isSmall_finalSigma
    · exact h ▸ isSmall_sigma
  · next hsigma =>
    split at h
    · rw [List.mem_cons, List.mem_singleton] at h
      rcases h with h | h
      · exact h ▸ isSmall_i
      · exact h ▸ isSmall_dotAbove
    · next hdotted =>
      rw [List.mem_singleton] at h
      exact h ▸ isSmall_smallChar hsigma hdotted

theorem isSmall_of_mem_lowerAfter {before cs : List Char} {d : Char}
    (h : d ∈ lowerAfter before cs) : IsSmall d := by
  induction cs generalizing before with
  | nil => simp [lowerAfter] at h
  | cons c cs ih =>
    rw [lowerAfter, List.mem_append] at h
    rcases h with h | h
    · exact isSmall_of_mem_lowerChar h
    · exact ih h

theorem lowerAfter_of_isSmall {before cs : List Char} (h : ∀ c ∈ cs, IsSmall c) :
    lowerAfter before cs = cs := by
  induction cs generalizing before with
  | nil => rfl
  | cons c cs ih =>
    have hc := h c List.mem_cons_self
    rw [lowerAfter, lowerChar, if_neg hc.ne_sigma, if_neg hc.ne_dotted, hc.fixed,
      ih fun d hd => h d (List.mem_cons_of_mem _ hd)]
    rfl

theorem lower_lower (s : String) : lower (lower s) = lower s := by
  rw [lower, lower, String.toList_ofList, lowerAfter_of_isSmall]
  exact fun c hc => isSmall_of_mem_lowerAfter hc

/-- A character before the capitals of ASCII comes from itself alone. -/
theorem count_lowerChar {x : Char} (hx : x.toNat < 0x41) (before : List Char) (c : Char)
    (after : List Char) : (lowerChar before c after).count x = [c].count x := by
  have ne {d : Char} (hd : 0x40 < d.toNat) : d ≠ x := by
    rintro rfl
    omega
  rw [lowerChar]
  split
  · next hsigma =>
    rw [hsigma, List.count_singleton, List.count_singleton]
    split <;> simp [ne (show 0x40 < 'ς'.toNat by decide), ne (show 0x40 < 'σ'.toNat by decide),
      ne (show 0x40 < 'Σ'.toNat by decide)]
  · split
    · next hdotted =>
      rw [hdotted]
      simp [ne (show 0x40 < 'i'.toNat by decide),
        ne (show 0x40 < '\u0307'.toNat by decide), ne (show 0x40 < 'İ'.toNat by decide)]
    · rcases smallCode_cases c.toNat with h | ⟨hc, h⟩
      · rw [Char.toNat_inj.mp ((toNat_smallChar c).trans h)]
      · have hsmall : 0x40 < (smallChar c).toNat := by
          rw [toNat_smallChar]
          exact Nat.lt_trans (by decide) h.beyond_ascii_capitals
        simp [ne hc, ne hsmall]

theorem count_lowerAfter {x : Char} (hx : x.toNat < 0x41) (before cs : List Char) :
    (lowerAfter before cs).count x = cs.count x := by
  induction cs generalizing before with
  | nil => rfl
  | cons c cs ih =>
    rw [lowerAfter, List.count_append, count_lowerChar hx, ih, ← List.count_append]
    rfl

theorem count_lower {x : Char} (hx : x.toNat < 0x41) (s : String) :
    (lower s).toList.count x = s.toList.count x := by
  rw [lower, String.toList_ofList, count_lowerAfter hx]

theorem mem_lower {x : Char} (hx : x.toNat < 0x41) (s : String) :
    x ∈ (lower s).toList ↔ x ∈ s.toList := by
  rw [← List.count_pos_iff, ← List.count_pos_iff, count_lower hx]

theorem lower_eq_empty_iff (s : String) : lower s = "" ↔ s = "" := by
  rw [lower, String.ofList_eq_empty_iff, ← String.toList_eq_nil_iff]
  cases s.toList with
  | nil => simp [lowerAfter]
  | cons c cs =>
    have hc : lowerChar [] c cs ≠ [] := by
      rw [lowerChar]
      split
      · simp
      · split <;> simp
    simp [lowerAfter, hc]

end EndpointUpgrade.Text
