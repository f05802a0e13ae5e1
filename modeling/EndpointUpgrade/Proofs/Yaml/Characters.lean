import EndpointUpgrade.Proofs.Yaml.Scalar
import EndpointUpgrade.Proofs.Yaml.Style
import EndpointUpgrade.Yaml.Text

/-!
# Characters of written scalars

What is written of a text consists of characters that a YAML text may have and that stay as they are
when line ends are read. Without folds it stays on one line.
-/

namespace EndpointUpgrade.Yaml

open Text

variable {cs : List Char} {s : String} {inKey : Bool}

/-- A character that may stand in a YAML text and that no reading of line ends changes. -/
def isClean (c : Char) : Bool := isAllowed c && c ≠ '\r'

def IsSign (c : Char) : Prop := '\x21' ≤ c ∧ c ≤ '\x7E'

theorem isClean_of_not_isSpecial {c : Char} (h : isSpecial c = false) : isClean c = true := by
  have hreturn : c ≠ '\r' := by
    rintro rfl
    exact absurd h (by decide)
  simp only [isSpecial, Bool.not_eq_false', Bool.or_eq_true, Bool.and_eq_true,
    decide_eq_true_eq] at h
  have hallowed : isAllowed c = true := by
    rcases h with (((hfeed | hascii) | hnext) | hunicode) | hastral
    · simp [isAllowed, hfeed]
    · simp [isAllowed, hascii]
    · simp [isAllowed, hnext]
    · simp [isAllowed, hunicode]
    · simp [isAllowed, hastral]
  simp [isClean, hallowed, hreturn]

theorem IsSign.isClean {c : Char} (h : IsSign c) : isClean c = true := by
  obtain ⟨hleast, hmost⟩ := h
  have hspace : '\x20' ≤ c := Char.le_trans (by decide) hleast
  have hreturn : c ≠ '\r' := by
    rintro rfl
    exact absurd hleast (by decide)
  simp [Yaml.isClean, isAllowed, hspace, hmost, hreturn]

theorem IsSign.isSolid {c : Char} (h : IsSign c) : isSolid c = true := by
  cases hsolid : Yaml.isSolid c with
  | true => rfl
  | false =>
    rcases cases_of_not_isSolid hsolid with rfl | rfl | rfl | rfl | rfl | rfl | rfl | rfl
    all_goals exact absurd h (by unfold IsSign; decide)

theorem isClean_of_isPlainInDouble {c : Char} (h : isPlainInDouble c = true) :
    isClean c = true := by
  have hreturn : c ≠ '\r' := by
    rintro rfl
    exact absurd h (by decide)
  simp only [isPlainInDouble, Bool.and_eq_true, Bool.or_eq_true, decide_eq_true_eq] at h
  have hallowed : isAllowed c = true := by
    rcases h.2 with hascii | hunicode
    · simp [isAllowed, hascii]
    · simp [isAllowed, hunicode]
  simp [isClean, hallowed, hreturn]

theorem isSign_toUpper_digitChar : ∀ d < 16, IsSign (digitChar d).toUpper := by
  unfold IsSign
  decide

theorem isSign_upperHex {digits n : Nat} {c : Char} (hc : c ∈ upperHex digits n) : IsSign c := by
  rw [upperHex] at hc
  obtain ⟨x, hx, rfl⟩ := List.mem_map.mp hc
  rcases List.mem_append.mp hx with hzero | hdigit
  · rw [List.eq_of_mem_replicate hzero]
    exact isSign_toUpper_digitChar 0 (by decide)
  · obtain ⟨d, hd, rfl⟩ := mem_digits hdigit
    exact isSign_toUpper_digitChar d hd

theorem isSign_escapeSign {c sign : Char} (h : escapeSign? c = some sign) : IsSign sign := by
  unfold escapeSign? at h
  unfold IsSign
  split at h
  all_goals first
    | (obtain rfl := Option.some.inj h; decide)
    | contradiction

theorem isSign_escapeOf {c d : Char} (hd : d ∈ escapeOf c) : IsSign d := by
  have hhex : ∀ (letter : Char) (digits : Nat), IsSign letter →
      d ∈ '\\' :: letter :: upperHex digits c.toNat → IsSign d := by
    intro letter digits hletter hd
    rcases List.mem_cons.mp hd with rfl | hd
    · exact ⟨by decide, by decide⟩
    · rcases List.mem_cons.mp hd with rfl | hd
      · exact hletter
      · exact isSign_upperHex hd
  rw [escapeOf] at hd
  split at hd
  · rename_i sign hsign
    rcases List.mem_cons.mp hd with rfl | hd
    · exact ⟨by decide, by decide⟩
    · rw [List.mem_singleton.mp hd]
      exact isSign_escapeSign hsign
  · split at hd
    · exact hhex 'x' 2 ⟨by decide, by decide⟩ hd
    · split at hd
      · exact hhex 'u' 4 ⟨by decide, by decide⟩ hd
      · exact hhex 'U' 8 ⟨by decide, by decide⟩ hd

section

variable (folding : Folding) (column : Nat) (before : Option Char)

theorem mem_newLine {indent : Nat} {d : Char} (hd : d ∈ newLine indent) : d = '\n' ∨ d = ' ' :=
  (List.mem_cons.mp hd).imp_right Cursor.mem_margin

theorem mem_plainRest {d : Char} (hd : d ∈ plainRest folding column before cs) :
    d ∈ cs ∨ d = '\n' ∨ d = ' ' := by
  induction cs generalizing column before with
  | nil => exact Or.inl hd
  | cons c cs ih =>
    have hlater : ∀ column before, d ∈ plainRest folding column before cs →
        d ∈ c :: cs ∨ d = '\n' ∨ d = ' ' :=
      fun column before h => (ih column before h).imp_left (List.mem_cons_of_mem c)
    have hcons : ∀ column before, d ∈ c :: plainRest folding column before cs →
        d ∈ c :: cs ∨ d = '\n' ∨ d = ' ' := by
      intro column before h
      rcases List.mem_cons.mp h with rfl | h
      · exact Or.inl List.mem_cons_self
      · exact hlater column before h
    cases folding with
    | none => exact hcons _ _ hd
    | some indent =>
      rw [plainRest] at hd
      dsimp only at hd
      split at hd
      · split at hd
        · rcases List.mem_append.mp hd with h | h
          · exact Or.inr (mem_newLine h)
          · exact hlater _ _ h
        · exact hcons _ _ hd
      · split at hd
        · rcases List.mem_append.mp hd with h | h
          · exact Or.inr (mem_newLine h)
          · exact hcons _ _ h
        · exact hcons _ _ hd

theorem mem_singleRest {d : Char} (hd : d ∈ singleRest folding column before cs) :
    d ∈ cs ∨ d = '\n' ∨ d = ' ' := by
  induction cs generalizing column before with
  | nil => exact Or.inl hd
  | cons c cs ih =>
    have hlater : ∀ column before, d ∈ singleRest folding column before cs →
        d ∈ c :: cs ∨ d = '\n' ∨ d = ' ' :=
      fun column before h => (ih column before h).imp_left (List.mem_cons_of_mem c)
    have hcons : ∀ column before, d ∈ c :: singleRest folding column before cs →
        d ∈ c :: cs ∨ d = '\n' ∨ d = ' ' := by
      intro column before h
      rcases List.mem_cons.mp h with rfl | h
      · exact Or.inl List.mem_cons_self
      · exact hlater column before h
    rw [singleRest] at hd
    dsimp only at hd
    split at hd
    · rcases List.mem_cons.mp hd with rfl | h
      · exact Or.inl List.mem_cons_self
      · exact hcons _ _ h
    · split at hd
      · -- the end of a line, an empty line in front of it and a margin behind it
        have hmargin : ∀ (n column : Nat),
            d ∈ (if c = '\n' && !before.any endsLine then ['\n'] else []) ++ c :: margin n ++
              singleRest folding column (some c) cs → d ∈ c :: cs ∨ d = '\n' ∨ d = ' ' := by
          intro n column h
          rcases List.mem_append.mp h with h | h
          · rcases List.mem_append.mp h with h | h
            · split at h
              · exact Or.inr (Or.inl (List.mem_singleton.mp h))
              · simp at h
            · rcases List.mem_cons.mp h with rfl | h
              · exact Or.inl List.mem_cons_self
              · exact Or.inr (Or.inr (Cursor.mem_margin h))
          · exact hlater _ _ h
        by_cases hnext : cs.head?.any endsLine = true
        · rw [if_pos hnext] at hd
          exact hmargin 0 _ hd
        · rw [if_neg hnext] at hd
          exact hmargin _ _ hd
      · split at hd
        · rcases List.mem_append.mp hd with h | h
          · exact Or.inr (mem_newLine h)
          · exact hlater _ _ h
        · exact hcons _ _ hd

theorem mem_doubleRest (besideEscape : Bool) {d : Char}
    (hd : d ∈ doubleRest folding column before besideEscape cs) :
    isPlainInDouble d = true ∨ IsSign d ∨ d = '\n' ∨ d = ' ' := by
  induction cs generalizing column before besideEscape with
  | nil => simp [doubleRest] at hd
  | cons c cs ih =>
    have hbackslash : IsSign '\\' := ⟨by decide, by decide⟩
    have hsign : ∀ atSpace : Bool, d ∈ (if atSpace then [] else ['\\']) → IsSign d := by
      intro atSpace h
      split at h
      · simp at h
      · rw [List.mem_singleton.mp h]
        exact hbackslash
    rw [doubleRest] at hd
    dsimp only at hd
    split at hd
    · rename_i hplain
      split at hd
      · simp only [List.mem_append] at hd
        rcases hd with (h | h) | h
        · exact Or.inr (Or.inl (hsign _ h))
        · exact Or.inr (Or.inr (mem_newLine h))
        · split at h
          · split at h
            · exact ih _ _ _ h
            · rcases List.mem_cons.mp h with rfl | h
              · exact Or.inr (Or.inl hbackslash)
              · rcases List.mem_cons.mp h with rfl | h
                · exact Or.inl hplain
                · exact ih _ _ _ h
          · rcases List.mem_cons.mp h with rfl | h
            · exact Or.inl hplain
            · exact ih _ _ _ h
      · rcases List.mem_cons.mp hd with rfl | h
        · exact Or.inl hplain
        · exact ih _ _ _ h
    · split at hd
      · simp only [List.mem_append] at hd
        rcases hd with ((h | h) | h) | h
        · exact Or.inr (Or.inl (isSign_escapeOf h))
        · exact Or.inr (Or.inl (hsign _ h))
        · exact Or.inr (Or.inr (mem_newLine h))
        · split at h
          · rcases List.mem_cons.mp h with rfl | h
            · exact Or.inr (Or.inl hbackslash)
            · exact ih _ _ _ h
          · exact ih _ _ _ h
      · rcases List.mem_append.mp hd with h | h
        · exact Or.inr (Or.inl (isSign_escapeOf h))
        · exact ih _ _ _ h

/-! ## Scalars within one line -/

theorem singleRest_none (h : ∀ c ∈ cs, c ≠ '\'' ∧ endsLine c = false) :
    singleRest none column before cs = cs := by
  induction cs generalizing column before with
  | nil => rfl
  | cons c cs ih =>
    obtain ⟨hquote, hends⟩ := h c List.mem_cons_self
    rw [singleRest]
    dsimp only
    rw [if_neg hquote, if_neg (by simp [hends]), if_neg (by simp),
      ih _ _ fun d hd => h d (List.mem_cons_of_mem _ hd)]

theorem gainsSpace_none (besideEscape : Bool) (cs : List Char) :
    gainsSpace none column before besideEscape cs = false := by
  induction cs generalizing column before besideEscape with
  | nil => rfl
  | cons c cs ih =>
    rw [gainsSpace]
    simp only [Option.isSome_none, Bool.false_and, Bool.false_eq_true, if_false, ih, ite_self]

theorem mem_doubleRest_none (besideEscape : Bool) {d : Char}
    (hd : d ∈ doubleRest none column before besideEscape cs) :
    isPlainInDouble d = true ∨ IsSign d := by
  induction cs generalizing column before besideEscape with
  | nil => simp [doubleRest] at hd
  | cons c cs ih =>
    rw [doubleRest] at hd
    simp only [Option.isSome_none, Bool.false_and, Bool.false_eq_true, if_false] at hd
    split at hd
    · rename_i hplain
      rcases List.mem_cons.mp hd with rfl | h
      · exact Or.inl hplain
      · exact ih _ _ _ h
    · rcases List.mem_append.mp hd with h | h
      · exact Or.inr (isSign_escapeOf h)
      · exact ih _ _ _ h

end

/-- What is written of a text consists of clean characters. -/
theorem isClean_scalarChars (folding : Folding) (column : Nat) {d : Char}
    (hd : d ∈ scalarChars folding inKey column s) : isClean d = true := by
  have hlayout : d = '\n' ∨ d = ' ' → isClean d = true := by
    rintro (rfl | rfl) <;> decide
  rw [scalarChars] at hd
  cases hstyle : style inKey s with
  | plain =>
    rw [hstyle] at hd
    rcases mem_plainRest folding column none hd with h | h
    · exact isClean_of_not_isSpecial ((fitsPlain_of_style hstyle).2.special d h)
    · exact hlayout h
  | single =>
    rw [hstyle] at hd
    rcases (mem_quotedChars hd : d = quoteOf false ∨ _) with rfl | h
    · decide
    · rcases mem_singleRest _ _ _ h with h | h
      · exact isClean_of_not_isSpecial (special_of_fitsSingle (styledSingle_of_style hstyle).fits h)
      · exact hlayout h
  | double =>
    rw [hstyle] at hd
    rcases (mem_quotedChars hd : d = quoteOf true ∨ _) with rfl | h
    · decide
    · rcases mem_doubleRest _ _ _ _ h with h | h | h
      · exact isClean_of_isPlainInDouble h
      · exact h.isClean
      · exact hlayout h

end EndpointUpgrade.Yaml
