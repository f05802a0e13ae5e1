import EndpointUpgrade.Files.Tree

/-!
# What changes in a file tree

Making directories adds directories where there was nothing, and saving a file gives it its content.
Everything else stays as it was, and a path that led to a place still leads there.
-/

namespace EndpointUpgrade.Files.Tree

variable {t t' t'' : Tree} {l m : Location} {e : Entry} {p : Path}

/-! ## Single places -/

theorem lookup_filter_ne (entries : List (Location × Entry)) (h : m ≠ l) :
    (entries.filter fun x => x.1 ≠ l).lookup m = entries.lookup m := by
  induction entries with
  | nil => rfl
  | cons x entries ih =>
    obtain ⟨k, e⟩ := x
    by_cases hk : k = l
    · rw [List.filter_cons_of_neg (by simpa using hk), ih, List.lookup_cons]
      have hne : (m == k) = false := by simpa [hk] using h
      rw [hne]
    · rw [List.filter_cons_of_pos (by simpa using hk), List.lookup_cons, List.lookup_cons, ih]

theorem find?_put_self (h : l ≠ []) : (t.put l e).find? l = some e := by
  rw [find?, if_neg h, put, List.lookup_cons_self]

theorem find?_put_of_ne (h : m ≠ l) : (t.put l e).find? m = t.find? m := by
  unfold find? put
  by_cases hroot : m = []
  · rw [if_pos hroot, if_pos hroot]
  · rw [if_neg hroot, if_neg hroot, List.lookup_cons]
    have hne : (m == l) = false := by simpa using h
    rw [hne]
    exact lookup_filter_ne t.entries h

theorem find?_root : t.find? [] = some .directory := by
  rw [find?, if_pos rfl]

theorem ne_root_of_find? (h : t.find? l ≠ some .directory) : l ≠ [] := by
  intro eq
  rw [eq, find?_root] at h
  exact h rfl

/-! ## Directories -/

/-- The second tree has what the first one has, and directories where that has nothing. -/
structure GainsDirectories (t t' : Tree) : Prop where
  here : t'.here = t.here
  entries : ∀ l, t'.find? l = t.find? l ∨ t.find? l = none ∧ t'.find? l = some .directory

theorem GainsDirectories.refl (t : Tree) : GainsDirectories t t :=
  ⟨rfl, fun _ => .inl rfl⟩

theorem GainsDirectories.trans (h : GainsDirectories t t') (h' : GainsDirectories t' t'') :
    GainsDirectories t t'' := by
  refine ⟨h'.here.trans h.here, ?_⟩
  intro l
  cases h'.entries l with
  | inl same =>
    rw [same]
    exact h.entries l
  | inr gained =>
    cases h.entries l with
    | inl same => exact .inr ⟨same ▸ gained.1, gained.2⟩
    | inr gained' => exact .inr ⟨gained'.1, gained.2⟩

theorem gainsDirectories_put (h : t.find? l = none) : GainsDirectories t (t.put l .directory) := by
  refine ⟨rfl, ?_⟩
  intro m
  by_cases hm : m = l
  · have hroot : l ≠ [] := ne_root_of_find? (t := t) (by simp [h])
    rw [hm, find?_put_self hroot]
    exact .inr ⟨h, rfl⟩
  · exact .inl (find?_put_of_ne hm)

theorem gainsDirectories_makeDirectory (h : t.makeDirectory p = .ok t') :
    GainsDirectories t t' := by
  unfold makeDirectory at h
  split at h
  · contradiction
  · next l hlocate =>
    split at h
    · contradiction
    · next hnone =>
      obtain rfl := Except.ok.inj h
      exact gainsDirectories_put (by simpa using hnone)

theorem gainsDirectories_makeOrAccept (t : Tree) (p : Path) :
    GainsDirectories t
      (match t.makeDirectory p with
        | .ok t => (t, Except.ok ())
        | .error trouble => (t, t.acceptDirectory p trouble)).1 := by
  split
  · next hmade => exact gainsDirectories_makeDirectory hmade
  · exact .refl t

theorem gainsDirectories_makeDirectoriesFrom (root : String) (t : Tree) (parts : List String) :
    GainsDirectories t (t.makeDirectoriesFrom root parts).1 := by
  induction parts generalizing t with
  | nil => exact gainsDirectories_makeOrAccept t ⟨root, []⟩
  | cons part before ih =>
    unfold makeDirectoriesFrom
    dsimp only
    split
    · next hmade => exact gainsDirectories_makeDirectory hmade
    · have hbefore := ih t
      split
      · next hstopped =>
        rw [hstopped] at hbefore
        exact hbefore
      · next hgone =>
        rw [hgone] at hbefore
        exact hbefore.trans (gainsDirectories_makeOrAccept _ _)
    · exact .refl t

theorem gainsDirectories_makeDirectories (t : Tree) (p : Path) :
    GainsDirectories t (t.makeDirectories p).1 :=
  gainsDirectories_makeDirectoriesFrom p.root t p.parts.reverse

/-! ## Paths -/

/-- Following parts only looks at directories, so it comes to the same place in every tree that has
them too. -/
theorem follow_of_directories {parts : List String}
    (h : ∀ m, t.find? m = some .directory → t'.find? m = some .directory)
    (hfollow : t.follow l parts = .ok m) : t'.follow l parts = .ok m := by
  induction parts generalizing l with
  | nil => exact hfollow
  | cons part rest ih =>
    unfold follow at hfollow ⊢
    cases hl : t.find? l with
    | none =>
      rw [hl] at hfollow
      contradiction
    | some entry =>
      cases entry with
      | file content =>
        rw [hl] at hfollow
        contradiction
      | directory =>
        rw [hl] at hfollow
        rw [h l hl]
        dsimp only at hfollow ⊢
        split at hfollow
        · next hup =>
          rw [if_pos hup]
          exact ih hfollow
        · next hdown =>
          rw [if_neg hdown]
          split at hfollow
          · contradiction
          · next hshort =>
            rw [if_neg hshort]
            exact ih hfollow

theorem locate_of_directories (hhere : t'.here = t.here)
    (h : ∀ m, t.find? m = some .directory → t'.find? m = some .directory)
    (hlocate : t.locate p = .ok l) : t'.locate p = .ok l := by
  unfold locate at hlocate ⊢
  split at hlocate
  · contradiction
  · next hshort =>
    rw [if_neg hshort, hhere]
    exact follow_of_directories h hlocate

/-! ## Saved files -/

/-- The second tree has the content at the path, and otherwise what the first one has, with
directories where that has nothing. -/
structure Saves (t t' : Tree) (p : Path) (content : List UInt8) : Prop where
  here : t'.here = t.here
  entry : t'.entry? p = .ok (some (.file content))
  others : ∃ l, t'.locate p = .ok l ∧ t'.find? l = some (.file content) ∧
    t.find? l ≠ some .directory ∧
    ∀ m ≠ l, t'.find? m = t.find? m ∨ t.find? m = none ∧ t'.find? m = some .directory

theorem putFile_eq_ok {content : List UInt8} (h : t.putFile p content = .ok t') :
    ∃ l, t.locate p = .ok l ∧ t.find? l ≠ some .directory ∧ t' = t.put l (.file content) := by
  unfold putFile at h
  split at h
  · contradiction
  · next l hlocate =>
    split at h
    · contradiction
    · next hnot => exact ⟨l, hlocate, hnot, (Except.ok.inj h).symm⟩

theorem locate_put (content : List UInt8) (hlocate : t.locate p = .ok l)
    (hnot : t.find? l ≠ some .directory) : (t.put l (.file content)).locate p = .ok l := by
  have hkept : ∀ m, t.find? m = some .directory →
      (t.put l (.file content)).find? m = some .directory := by
    intro m hm
    have hne : m ≠ l := fun eq => hnot (eq ▸ hm)
    rw [find?_put_of_ne hne]
    exact hm
  exact locate_of_directories (t := t) rfl hkept hlocate

theorem saveFile_of_ok {content : List UInt8} (h : t.saveFile p content = (t', .ok ())) :
    Saves t t' p content := by
  have hgains := gainsDirectories_makeDirectories t p.parent
  unfold saveFile at h
  split at h
  · next hstopped => exact absurd (Prod.mk.inj h).2 nofun
  · next t₁ hmade =>
    rw [hmade] at hgains
    split at h
    · next t₂ hput =>
      obtain rfl : t₂ = t' := (Prod.mk.inj h).1
      obtain ⟨l, hlocate, hnot, rfl⟩ := putFile_eq_ok hput
      have hlocate' := locate_put content hlocate hnot
      have hfind : (t₁.put l (.file content)).find? l = some (.file content) :=
        find?_put_self (ne_root_of_find? hnot)
      refine ⟨hgains.here, ?_, l, hlocate', hfind, ?_, ?_⟩
      · unfold entry?
        rw [hlocate']
        dsimp only
        rw [hfind]
      · intro hbefore
        cases hgains.entries l with
        | inl same => exact hnot (same.trans hbefore)
        | inr gained => exact hnot gained.2
      · intro m hm
        rw [find?_put_of_ne hm]
        exact hgains.entries m
    · exact absurd (Prod.mk.inj h).2 nofun

theorem saveFile_of_error {content : List UInt8} {fault : SystemFault}
    (h : t.saveFile p content = (t', .error fault)) : GainsDirectories t t' := by
  have hgains := gainsDirectories_makeDirectories t p.parent
  unfold saveFile at h
  split at h
  · next hstopped =>
    rw [hstopped] at hgains
    exact (Prod.mk.inj h).1 ▸ hgains
  · next t₁ hmade =>
    rw [hmade] at hgains
    split at h
    · exact absurd (Prod.mk.inj h).2 nofun
    · exact (Prod.mk.inj h).1 ▸ hgains

end EndpointUpgrade.Files.Tree
