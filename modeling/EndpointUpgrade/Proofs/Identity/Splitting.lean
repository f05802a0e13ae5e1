import EndpointUpgrade.Identity.Name
import EndpointUpgrade.Proofs.Text.Fields

/-!
# Hyphens doubled and fields split

Doubling the hyphens of a field makes it safe to split a text at its single hyphens: pairing hyphens
from the left takes a doubled field off the front of any text, provided that what comes behind its
separator does not begin with a hyphen of its own. Doubling commutes with reversal, so the same
lemmas read a text from its end. Splitting loses nothing: joining the doubled fields gives the text
back, and no field behind a separator begins with a hyphen.
-/

namespace EndpointUpgrade.Identity

open Text

theorem head?_ne_of_notMem {c : Char} {cs : List Char} (h : c ∉ cs) : cs.head? ≠ some c :=
  fun eq => h (List.mem_of_head? eq)

theorem head?_append_ne {c : Char} {cs : List Char} (hne : cs ≠ []) (h : cs.head? ≠ some c)
    (ds : List Char) : (cs ++ ds).head? ≠ some c := by
  cases cs with
  | nil => exact absurd rfl hne
  | cons d cs => exact h

/-! ## Doubling -/

@[simp] theorem escapeChars_nil : escapeChars [] = [] := rfl

theorem escapeChars_cons_of_ne {c : Char} (h : c ≠ '-') (cs : List Char) :
    escapeChars (c :: cs) = c :: escapeChars cs := by
  rw [escapeChars, if_neg h]

@[simp] theorem escapeChars_hyphen (cs : List Char) :
    escapeChars ('-' :: cs) = '-' :: '-' :: escapeChars cs := rfl

@[simp] theorem escapeChars_append (cs ds : List Char) :
    escapeChars (cs ++ ds) = escapeChars cs ++ escapeChars ds := by
  induction cs with
  | nil => rfl
  | cons c cs ih =>
    by_cases hc : c = '-'
    · subst hc
      simp [ih]
    · rw [List.cons_append, escapeChars_cons_of_ne hc, escapeChars_cons_of_ne hc, ih,
        List.cons_append]

theorem escapeChars_reverse (cs : List Char) :
    escapeChars cs.reverse = (escapeChars cs).reverse := by
  induction cs with
  | nil => rfl
  | cons c cs ih =>
    rw [List.reverse_cons, escapeChars_append, ih]
    by_cases hc : c = '-'
    · subst hc
      simp
    · simp [escapeChars_cons_of_ne hc]

theorem escapeChars_of_notMem {cs : List Char} (h : '-' ∉ cs) : escapeChars cs = cs := by
  induction cs with
  | nil => rfl
  | cons c cs ih =>
    have hc : c ≠ '-' := fun eq => h (by simp [eq])
    rw [escapeChars_cons_of_ne hc, ih fun hm => h (List.mem_cons_of_mem _ hm)]

theorem head?_escapeChars (cs : List Char) : (escapeChars cs).head? = cs.head? := by
  cases cs with
  | nil => rfl
  | cons c cs =>
    by_cases hc : c = '-'
    · simp [hc]
    · simp [escapeChars_cons_of_ne hc]

theorem escapeChars_ne_nil {cs : List Char} (h : cs ≠ []) : escapeChars cs ≠ [] := by
  intro hnil
  have hhead := head?_escapeChars cs
  rw [hnil, List.head?_nil] at hhead
  exact h (List.head?_eq_none_iff.mp hhead.symm)

/-- A hyphen is written twice and every other character once. -/
theorem count_escapeChars (x : Char) (cs : List Char) :
    (escapeChars cs).count x = (if x = '-' then 2 else 1) * cs.count x := by
  induction cs with
  | nil => simp
  | cons c cs ih =>
    by_cases hc : c = '-'
    · subst hc
      by_cases hx : x = '-'
      · simp only [hx, escapeChars_hyphen, List.count_cons_self, if_true] at ih ⊢
        omega
      · have hx' : '-' ≠ x := fun eq => hx eq.symm
        simpa [hx, hx', List.count_cons_of_ne] using ih
    · rw [escapeChars_cons_of_ne hc, List.count_cons, List.count_cons, ih]
      by_cases hx : x = '-'
      · simp [hx, hc]
      · simp [hx]

/-! ## Splitting -/

theorem splitFields_cons_of_ne {c : Char} (h : c ≠ '-') (cs : List Char) :
    splitFields (c :: cs) = extendFirst c (splitFields cs) := by
  cases cs with
  | nil => simp [splitFields, extendFirst, h]
  | cons d cs => rw [splitFields, if_neg h]

@[simp] theorem splitFields_pair (cs : List Char) :
    splitFields ('-' :: '-' :: cs) = extendFirst '-' (splitFields cs) := by
  simp [splitFields]

/-- A hyphen without a partner ends a field. -/
theorem splitFields_separator {cs : List Char} (h : cs.head? ≠ some '-') :
    splitFields ('-' :: cs) = [] :: splitFields cs := by
  cases cs with
  | nil => simp [splitFields]
  | cons d cs =>
    have hd : d ≠ '-' := by simpa using h
    rw [splitFields, if_pos rfl, if_neg hd]

/-- One step of splitting, as an induction: a text is empty, or it begins with a character, with a
pair of hyphens, or with a hyphen that has no partner. -/
theorem splitting_induction {motive : List Char → Prop} (nil : motive [])
    (char : ∀ c cs, c ≠ '-' → motive cs → motive (c :: cs))
    (pair : ∀ cs, motive cs → motive ('-' :: '-' :: cs))
    (separator : ∀ cs, cs.head? ≠ some '-' → motive cs → motive ('-' :: cs)) :
    ∀ cs, motive cs
  | [] => nil
  | [c] => by
    by_cases hc : c = '-'
    · subst hc
      exact separator [] (by simp) nil
    · exact char c [] hc nil
  | c :: d :: cs => by
    by_cases hc : c = '-'
    · subst hc
      by_cases hd : d = '-'
      · subst hd
        exact pair cs (splitting_induction nil char pair separator cs)
      · exact separator (d :: cs) (by simpa using hd)
          (splitting_induction nil char pair separator (d :: cs))
    · exact char c (d :: cs) hc (splitting_induction nil char pair separator (d :: cs))

theorem extendFirst_ne_nil (c : Char) (fs : List (List Char)) : extendFirst c fs ≠ [] := by
  cases fs <;> simp [extendFirst]

theorem splitFields_ne_nil (cs : List Char) : splitFields cs ≠ [] := by
  induction cs using splitting_induction with
  | nil => simp [splitFields]
  | char c cs hc _ =>
    rw [splitFields_cons_of_ne hc]
    exact extendFirst_ne_nil _ _
  | pair cs _ =>
    rw [splitFields_pair]
    exact extendFirst_ne_nil _ _
  | separator cs hcs _ =>
    rw [splitFields_separator hcs]
    exact List.cons_ne_nil _ _

/-- A doubled text in front becomes the beginning of the first field. -/
theorem splitFields_escapeChars_append (cs : List Char) {ds f : List Char}
    {fs : List (List Char)} (h : splitFields ds = f :: fs) :
    splitFields (escapeChars cs ++ ds) = (cs ++ f) :: fs := by
  induction cs with
  | nil => exact h
  | cons c cs ih =>
    by_cases hc : c = '-'
    · subst hc
      rw [escapeChars_hyphen, List.cons_append, List.cons_append, splitFields_pair, ih]
      rfl
    · rw [escapeChars_cons_of_ne hc, List.cons_append, splitFields_cons_of_ne hc, ih]
      rfl

theorem splitFields_escapeChars (cs : List Char) : splitFields (escapeChars cs) = [cs] := by
  have h : splitFields [] = [[]] := rfl
  simpa using splitFields_escapeChars_append cs h

/-- A doubled field and its separator are taken off the front. -/
theorem splitFields_escapeChars_separator (cs : List Char) {ds : List Char}
    (h : ds.head? ≠ some '-') :
    splitFields (escapeChars cs ++ '-' :: ds) = cs :: splitFields ds := by
  rw [splitFields_escapeChars_append cs (splitFields_separator h), List.append_nil]

/-- Splitting loses nothing. -/
theorem joined_splitFields (cs : List Char) :
    joined '-' ((splitFields cs).map escapeChars) = cs := by
  induction cs using splitting_induction with
  | nil => rfl
  | char c cs hc ih =>
    obtain ⟨f, fs, hf⟩ := List.exists_cons_of_ne_nil (splitFields_ne_nil cs)
    rw [hf, List.map_cons] at ih
    rw [splitFields_cons_of_ne hc, hf, extendFirst, List.map_cons, escapeChars_cons_of_ne hc]
    exact (joined_append_first [c] _ _).trans (congrArg (c :: ·) ih)
  | pair cs ih =>
    obtain ⟨f, fs, hf⟩ := List.exists_cons_of_ne_nil (splitFields_ne_nil cs)
    rw [hf, List.map_cons] at ih
    rw [splitFields_pair, hf, extendFirst, List.map_cons, escapeChars_hyphen]
    exact (joined_append_first ['-', '-'] _ _).trans (congrArg (['-', '-'] ++ ·) ih)
  | separator cs hcs ih =>
    obtain ⟨f, fs, hf⟩ := List.exists_cons_of_ne_nil (splitFields_ne_nil cs)
    rw [hf, List.map_cons] at ih
    rw [splitFields_separator hcs, hf, List.map_cons, List.map_cons, joined_cons_cons, ih]
    rfl

/-- No field behind a separator begins with a hyphen; the first one does only if the text does. -/
theorem head?_of_mem_splitFields (cs : List Char) :
    (∀ f ∈ (splitFields cs).tail, f.head? ≠ some '-') ∧
      (cs.head? ≠ some '-' → ∀ f ∈ splitFields cs, f.head? ≠ some '-') := by
  induction cs using splitting_induction with
  | nil => simp [splitFields]
  | char c cs hc ih =>
    obtain ⟨f, fs, hf⟩ := List.exists_cons_of_ne_nil (splitFields_ne_nil cs)
    rw [hf, List.tail_cons] at ih
    rw [splitFields_cons_of_ne hc, hf, extendFirst, List.tail_cons]
    refine ⟨ih.1, fun _ => ?_⟩
    simpa [hc] using ih.1
  | pair cs ih =>
    obtain ⟨f, fs, hf⟩ := List.exists_cons_of_ne_nil (splitFields_ne_nil cs)
    rw [hf, List.tail_cons] at ih
    rw [splitFields_pair, hf, extendFirst, List.tail_cons]
    exact ⟨ih.1, fun h => absurd rfl h⟩
  | separator cs hcs ih =>
    rw [splitFields_separator hcs, List.tail_cons]
    exact ⟨ih.2 hcs, fun h => absurd rfl h⟩

end EndpointUpgrade.Identity
