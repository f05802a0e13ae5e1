import EndpointUpgrade.Text.Fields

/-!
# Splitting at a separator and joining again

A separator that stands in no field can be taken back out of the joined text, wherever the fields
were put together. The cut at the first occurrence is the same fact for one separator: what stands
before it and what stands after it are determined by the text.
-/

namespace EndpointUpgrade.Text

variable {separator : Char}

@[simp] theorem joined_nil : joined separator [] = [] := rfl

@[simp] theorem joined_singleton (f : List Char) : joined separator [f] = f := rfl

@[simp] theorem joined_cons_cons (f g : List Char) (fs : List (List Char)) :
    joined separator (f :: g :: fs) = f ++ separator :: joined separator (g :: fs) := rfl

/-- A beginning of the first field is a beginning of the joined text. -/
theorem joined_append_first (a f : List Char) (fs : List (List Char)) :
    joined separator ((a ++ f) :: fs) = a ++ joined separator (f :: fs) := by
  cases fs with
  | nil => rfl
  | cons g gs => simp

theorem fields_cons_of_ne {c : Char} (h : c ≠ separator) {cs f : List Char}
    {fs : List (List Char)} (hcs : fields separator cs = f :: fs) :
    fields separator (c :: cs) = (c :: f) :: fs := by
  rw [fields, if_neg h, hcs]

theorem fields_of_notMem {cs : List Char} (h : separator ∉ cs) :
    fields separator cs = [cs] := by
  induction cs with
  | nil => rfl
  | cons c cs ih =>
    have hc : c ≠ separator := fun eq => h (by simp [eq])
    exact fields_cons_of_ne hc (ih fun hm => h (List.mem_cons_of_mem _ hm))

/-- A separator ends a field, whatever stands on either side of it. -/
theorem fields_append_cons (cs ds : List Char) :
    fields separator (cs ++ separator :: ds) = fields separator cs ++ fields separator ds := by
  induction cs with
  | nil => simp [fields]
  | cons c cs ih =>
    by_cases hc : c = separator
    · simp only [List.cons_append, fields, hc, if_true, ih]
    · obtain ⟨f, fs, hf⟩ := List.exists_cons_of_ne_nil (fields_ne_nil separator cs)
      have hcs : fields separator (cs ++ separator :: ds) = f :: (fs ++ fields separator ds) := by
        rw [ih, hf, List.cons_append]
      rw [List.cons_append, fields_cons_of_ne hc hcs, fields_cons_of_ne hc hf, List.cons_append]

theorem fields_joined {fs : List (List Char)} (hne : fs ≠ [])
    (hfs : ∀ f ∈ fs, separator ∉ f) : fields separator (joined separator fs) = fs := by
  induction fs with
  | nil => exact absurd rfl hne
  | cons f fs ih =>
    have hf : separator ∉ f := hfs f List.mem_cons_self
    cases fs with
    | nil => exact fields_of_notMem hf
    | cons g gs =>
      have hgs : ∀ x ∈ g :: gs, separator ∉ x := fun x hx => hfs x (List.mem_cons_of_mem _ hx)
      rw [joined_cons_cons, fields_append_cons, fields_of_notMem hf, ih (by simp) hgs]
      rfl

theorem joined_fields (cs : List Char) : joined separator (fields separator cs) = cs := by
  induction cs with
  | nil => rfl
  | cons c cs ih =>
    obtain ⟨f, fs, hf⟩ := List.exists_cons_of_ne_nil (fields_ne_nil separator cs)
    rw [hf] at ih
    by_cases hc : c = separator
    · rw [fields, if_pos hc, hf, joined_cons_cons, ih, hc, List.nil_append]
    · rw [fields_cons_of_ne hc hf]
      change joined separator (([c] ++ f) :: fs) = c :: cs
      rw [joined_append_first, ih, List.singleton_append]

theorem mem_joined {c : Char} {fs : List (List Char)} (h : c ∈ joined separator fs) :
    c = separator ∨ ∃ f ∈ fs, c ∈ f := by
  induction fs with
  | nil => simp at h
  | cons f fs ih =>
    cases fs with
    | nil => exact Or.inr ⟨f, by simp, h⟩
    | cons g gs =>
      rw [joined_cons_cons, List.mem_append, List.mem_cons] at h
      rcases h with h | h | h
      · exact Or.inr ⟨f, by simp, h⟩
      · exact Or.inl h
      · rcases ih h with h | ⟨x, hx, hc⟩
        · exact Or.inl h
        · exact Or.inr ⟨x, List.mem_cons_of_mem _ hx, hc⟩

theorem cutAt_of_notMem {cs : List Char} (h : separator ∉ cs) :
    cutAt separator cs = (cs, none) := by
  induction cs with
  | nil => rfl
  | cons c cs ih =>
    have hc : c ≠ separator := fun eq => h (by simp [eq])
    rw [cutAt, if_neg hc, ih fun hm => h (List.mem_cons_of_mem _ hm)]

theorem cutAt_append_cons {before after : List Char} (h : separator ∉ before) :
    cutAt separator (before ++ separator :: after) = (before, some after) := by
  induction before with
  | nil => simp [cutAt]
  | cons c cs ih =>
    have hc : c ≠ separator := fun eq => h (by simp [eq])
    rw [List.cons_append, cutAt, if_neg hc, ih fun hm => h (List.mem_cons_of_mem _ hm)]

theorem cutAt_eq_some_iff {cs before after : List Char} :
    cutAt separator cs = (before, some after) ↔
      separator ∉ before ∧ cs = before ++ separator :: after := by
  constructor
  · intro h
    induction cs generalizing before with
    | nil => simp [cutAt] at h
    | cons c cs ih =>
      rw [cutAt] at h
      split at h
      · next hc =>
        simp only [Prod.mk.injEq, Option.some.injEq] at h
        obtain ⟨rfl, rfl⟩ := h
        exact ⟨by simp, by simp [hc]⟩
      · next hc =>
        simp only [Prod.mk.injEq] at h
        obtain ⟨rfl, hafter⟩ := h
        obtain ⟨hfront, hcs⟩ := ih (Prod.ext rfl hafter)
        refine ⟨?_, congrArg (c :: ·) hcs⟩
        simpa using ⟨fun eq => hc eq.symm, hfront⟩
  · rintro ⟨hb, rfl⟩
    exact cutAt_append_cons hb

/-- Texts that agree and have no separator before the marked one agree on both sides of it. -/
theorem append_separator_inj {a b x y : List Char} (ha : separator ∉ a) (hb : separator ∉ b)
    (h : a ++ separator :: x = b ++ separator :: y) : a = b ∧ x = y := by
  have hcut := congrArg (cutAt separator) h
  rw [cutAt_append_cons ha, cutAt_append_cons hb] at hcut
  simpa using hcut

end EndpointUpgrade.Text
