import EndpointUpgrade.Proofs.Identity.Splitting

/-!
# The lists that texts are split into

Splitting can be done in steps that go through a text once: each step takes a character, a pair of
hyphens or a hyphen without a partner. What has been taken and what is left always stand for the
same fields, and every step shortens what is left. The lists that come out are those in which no
field behind the first begins with a hyphen and only the first and the last can be empty. Between
them and the texts, splitting is one to one, and joining the doubled fields is its inverse.
-/

namespace EndpointUpgrade.Identity

open Text

/-! ## Splitting in steps -/

/-- Where a text is being split: the fields that have ended, the one that has begun, and the text
that is left. -/
structure Scan where
  ended : List (List Char)
  current : List Char
  rest : List Char

namespace Scan

/-- Nothing has been taken yet. -/
def start (cs : List Char) : Scan := ⟨[], [], cs⟩

def step? : Scan → Option Scan
  | ⟨_, _, []⟩ => none
  | ⟨ended, current, '-' :: '-' :: rest⟩ => some ⟨ended, current ++ ['-'], rest⟩
  | ⟨ended, current, '-' :: rest⟩ => some ⟨ended ++ [current], [], rest⟩
  | ⟨ended, current, c :: rest⟩ => some ⟨ended, current ++ [c], rest⟩

/-- After a number of steps nothing is left, and the fields are these. -/
inductive Ends : Nat → Scan → List (List Char) → Prop
  | done {s : Scan} : s.step? = none → Ends 0 s (s.ended ++ [s.current])
  | step {n : Nat} {s t : Scan} {fs : List (List Char)} :
      s.step? = some t → Ends n t fs → Ends (n + 1) s fs

/-- The fields that a scan stands for: those that have ended, and those of what is left, with the
current field put in front of it again. -/
def fields (s : Scan) : List (List Char) :=
  s.ended ++ splitFields (escapeChars s.current ++ s.rest)

theorem rest_of_step?_eq_none {s : Scan} (h : s.step? = none) : s.rest = [] := by
  unfold step? at h
  split at h
  · rfl
  all_goals contradiction

/-- A step keeps the fields and shortens what is left. -/
theorem fields_of_step? {s t : Scan} (h : s.step? = some t) :
    t.fields = s.fields ∧ t.rest.length < s.rest.length := by
  unfold step? at h
  split at h
  case h_1 => contradiction
  case h_2 ended current rest =>
    rw [← Option.some.inj h]
    refine ⟨?_, Nat.lt_add_of_pos_right Nat.two_pos⟩
    rw [fields, fields, escapeChars_append, List.append_assoc]
    rfl
  case h_3 ended current rest hpair =>
    have hrest : rest.head? ≠ some '-' := by
      intro hhead
      obtain ⟨more, rfl⟩ := List.head?_eq_some_iff.mp hhead
      exact hpair more rfl
    rw [← Option.some.inj h]
    refine ⟨?_, Nat.lt_add_one _⟩
    rw [fields, fields, splitFields_escapeChars_separator _ hrest, List.append_assoc]
    rfl
  case h_4 ended current c rest _ hc =>
    rw [← Option.some.inj h]
    refine ⟨?_, Nat.lt_add_one _⟩
    rw [fields, fields, escapeChars_append, escapeChars_cons_of_ne hc, List.append_assoc]
    rfl

/-- A scan ends after at most as many steps as characters are left, with the fields that it stands
for all along. -/
theorem ends_fields (s : Scan) : ∃ n ≤ s.rest.length, Ends n s s.fields := by
  generalize hlength : s.rest.length = length
  induction length using Nat.strongRecOn generalizing s with
  | ind length ih =>
    cases hstep : s.step? with
    | none =>
      have hfields : s.fields = s.ended ++ [s.current] := by
        rw [fields, rest_of_step?_eq_none hstep, List.append_nil, splitFields_escapeChars]
      exact ⟨0, Nat.zero_le _, hfields ▸ .done hstep⟩
    | some t =>
      obtain ⟨hfields, hshorter⟩ := fields_of_step? hstep
      rw [hlength] at hshorter
      obtain ⟨n, hn, hends⟩ := ih t.rest.length hshorter t rfl
      exact ⟨n + 1, by omega, .step hstep (hfields ▸ hends)⟩

end Scan

/-! ## Lists of fields -/

/-- Lists with a first field in which no field behind it begins with a hyphen, and none between the
first and the last is empty. -/
structure IsSplit (fs : List (List Char)) : Prop where
  ne_nil : fs ≠ []
  starts : ∀ f ∈ fs.tail, f.head? ≠ some '-'
  inner : ∀ f ∈ fs.tail.dropLast, f ≠ []

/-- Only the first field and the last one can be empty; if the text does not begin with a hyphen,
only the last one can. -/
theorem ne_nil_of_mem_splitFields (cs : List Char) :
    (∀ f ∈ (splitFields cs).tail.dropLast, f ≠ []) ∧
      (cs.head? ≠ some '-' → ∀ f ∈ (splitFields cs).dropLast, f ≠ []) := by
  induction cs using splitting_induction with
  | nil => simp [splitFields]
  | char c cs hc ih =>
    obtain ⟨f, fs, hf⟩ := List.exists_cons_of_ne_nil (splitFields_ne_nil cs)
    rw [hf, List.tail_cons] at ih
    rw [splitFields_cons_of_ne hc, hf, extendFirst, List.tail_cons]
    refine ⟨ih.1, fun _ => ?_⟩
    cases fs with
    | nil => simp
    | cons g gs =>
      rw [List.dropLast_cons_cons, List.forall_mem_cons]
      exact ⟨List.cons_ne_nil c f, ih.1⟩
  | pair cs ih =>
    obtain ⟨f, fs, hf⟩ := List.exists_cons_of_ne_nil (splitFields_ne_nil cs)
    rw [hf, List.tail_cons] at ih
    rw [splitFields_pair, hf, extendFirst, List.tail_cons]
    exact ⟨ih.1, fun h => absurd rfl h⟩
  | separator cs hcs ih =>
    rw [splitFields_separator hcs, List.tail_cons]
    exact ⟨ih.2 hcs, fun h => absurd rfl h⟩

theorem isSplit_splitFields (cs : List Char) : IsSplit (splitFields cs) where
  ne_nil := splitFields_ne_nil cs
  starts := (head?_of_mem_splitFields cs).1
  inner := (ne_nil_of_mem_splitFields cs).1

namespace IsSplit

variable {f g : List Char} {fs : List (List Char)}

theorem tail (h : IsSplit (f :: g :: fs)) : IsSplit (g :: fs) where
  ne_nil := List.cons_ne_nil g fs
  starts := fun x hx => h.starts x (List.mem_cons_of_mem g hx)
  inner := by
    intro x hx
    apply h.inner x
    cases fs with
    | nil => exact absurd hx List.not_mem_nil
    | cons k ks =>
      rw [List.tail_cons, List.dropLast_cons_cons]
      exact List.mem_cons_of_mem g hx

/-- Behind the first field a separator is not followed by a hyphen: the next field begins with
none, and if it is empty the text ends. -/
theorem head?_joined (h : IsSplit (f :: g :: fs)) :
    (joined '-' ((g :: fs).map escapeChars)).head? ≠ some '-' := by
  have hg : g.head? ≠ some '-' := h.starts g List.mem_cons_self
  cases fs with
  | nil =>
    rw [List.map_singleton, joined_singleton, head?_escapeChars]
    exact hg
  | cons k ks =>
    have hne : g ≠ [] := h.inner g (by simp)
    rw [List.map_cons, List.map_cons, joined_cons_cons]
    apply head?_append_ne (escapeChars_ne_nil hne)
    rw [head?_escapeChars]
    exact hg

theorem splitFields_joined (h : IsSplit fs) : splitFields (joined '-' (fs.map escapeChars)) = fs := by
  induction fs with
  | nil => exact absurd rfl h.ne_nil
  | cons f fs ih =>
    cases fs with
    | nil => exact splitFields_escapeChars f
    | cons g gs =>
      have hjoined : joined '-' ((f :: g :: gs).map escapeChars) =
          escapeChars f ++ '-' :: joined '-' ((g :: gs).map escapeChars) := rfl
      rw [hjoined, splitFields_escapeChars_separator f h.head?_joined, ih h.tail]

end IsSplit

/-- Splitting a text ends after at most as many steps as it has characters. It is one to one
between texts and the lists described by `IsSplit`, and joining the doubled fields is its
inverse. -/
theorem splitFields_bijective :
    (∀ cs, ∃ n ≤ cs.length, (Scan.start cs).Ends n (splitFields cs)) ∧
      (∀ cs, joined '-' ((splitFields cs).map escapeChars) = cs) ∧
      (∀ fs, (∃ cs, splitFields cs = fs) ↔ IsSplit fs) ∧
      (∀ fs, IsSplit fs → splitFields (joined '-' (fs.map escapeChars)) = fs) := by
  refine ⟨fun cs => (Scan.start cs).ends_fields, joined_splitFields, ?_, ?_⟩
  · intro fs
    constructor
    · rintro ⟨cs, rfl⟩
      exact isSplit_splitFields cs
    · exact fun h => ⟨_, h.splitFields_joined⟩
  · exact fun fs h => h.splitFields_joined

example : splitFields "-a---b--".toList = ["".toList, "a-".toList, "b-".toList] := by decide

end EndpointUpgrade.Identity
