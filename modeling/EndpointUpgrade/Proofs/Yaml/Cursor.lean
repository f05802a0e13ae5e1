import EndpointUpgrade.Yaml.Cursor
import EndpointUpgrade.Yaml.Printer

/-!
# Moving through a written text

Where a cursor stands after a number of characters: what is left, how far it has come, and in which
line and column it is.
-/

namespace EndpointUpgrade.Yaml

/-- A character that takes one column and ends no line. -/
def isInline (c : Char) : Bool := !isBreak c && c ≠ '\uFEFF'

namespace Cursor

variable {cur : Cursor} {pre post : List Char} {c : Char} {n : Nat}

theorem next_rest (cur : Cursor) : cur.next.rest = cur.rest.tail := by
  unfold next
  split
  · rename_i h
    rw [h, List.tail_nil]
  · rename_i c rest h
    have htail : rest = cur.rest.tail := by rw [h, List.tail_cons]
    split
    · exact htail
    · split <;> exact htail

@[simp]
theorem skip_zero (cur : Cursor) : cur.skip 0 = cur := rfl

theorem skip_succ (n : Nat) (cur : Cursor) : cur.skip (n + 1) = cur.next.skip n := rfl

@[simp]
theorem skip_one (cur : Cursor) : cur.skip 1 = cur.next := rfl

theorem skip_rest (n : Nat) (cur : Cursor) : (cur.skip n).rest = cur.rest.drop n := by
  induction n generalizing cur with
  | zero => rfl
  | succ n ih => rw [skip_succ, ih, next_rest, ← List.drop_one, List.drop_drop, Nat.add_comm]

theorem skip_add (m n : Nat) (cur : Cursor) : cur.skip (m + n) = (cur.skip m).skip n := by
  induction m generalizing cur with
  | zero => rw [Nat.zero_add, skip_zero]
  | succ m ih => rw [Nat.succ_add, skip_succ, skip_succ, ih]

theorem skip_append (h : cur.rest = pre ++ post) : (cur.skip pre.length).rest = post := by
  rw [skip_rest, h, List.drop_left]

theorem next_index (h : cur.rest ≠ []) : cur.next.index = cur.index + 1 := by
  unfold next
  split
  · contradiction
  · split
    · rfl
    · split <;> rfl

theorem skip_index (h : n ≤ cur.rest.length) : (cur.skip n).index = cur.index + n := by
  induction n generalizing cur with
  | zero => rfl
  | succ n ih =>
    have hne : cur.rest ≠ [] := List.ne_nil_of_length_pos (by omega)
    have hlength : cur.next.rest.length = cur.rest.length - 1 := by
      rw [next_rest, List.length_tail]
    rw [skip_succ, ih (by omega), next_index hne]
    omega

theorem line_le_next (cur : Cursor) : cur.line ≤ cur.next.line := by
  unfold next
  split
  · exact Nat.le_refl _
  · split
    · exact Nat.le_succ _
    · split <;> exact Nat.le_refl _

theorem line_le_skip (n : Nat) (cur : Cursor) : cur.line ≤ (cur.skip n).line := by
  induction n generalizing cur with
  | zero => exact Nat.le_refl _
  | succ n ih => exact Nat.le_trans (line_le_next cur) (ih cur.next)

theorem next_inline (h : cur.rest = c :: post) (hc : isInline c = true) :
    cur.next.line = cur.line ∧ cur.next.column = cur.column + 1 := by
  simp only [isInline, Bool.and_eq_true, Bool.not_eq_eq_eq_not, Bool.not_true,
    decide_eq_true_eq] at hc
  unfold next
  split
  · rename_i hnil
    rw [hnil] at h
    contradiction
  · rename_i d rest hrest
    obtain ⟨rfl, rfl⟩ := List.cons.inj (hrest.symm.trans h)
    rw [if_neg (by simp [hc.1]), if_neg hc.2]
    exact ⟨rfl, rfl⟩

theorem skip_inline (h : cur.rest = pre ++ post) (hpre : ∀ c ∈ pre, isInline c = true) :
    (cur.skip pre.length).line = cur.line ∧
      (cur.skip pre.length).column = cur.column + pre.length := by
  induction pre generalizing cur with
  | nil => exact ⟨rfl, rfl⟩
  | cons c pre ih =>
    have hnext : cur.next.rest = pre ++ post := by rw [next_rest, h]; rfl
    obtain ⟨hline, hcolumn⟩ := next_inline h (hpre c List.mem_cons_self)
    obtain ⟨hline', hcolumn'⟩ := ih hnext fun d hd => hpre d (List.mem_cons_of_mem _ hd)
    rw [List.length_cons, skip_succ, hline', hcolumn', hline, hcolumn]
    exact ⟨rfl, by omega⟩

theorem next_lineFeed (h : cur.rest = '\n' :: post) :
    cur.next.line = cur.line + 1 ∧ cur.next.column = 0 := by
  unfold next
  split
  · rename_i hnil
    rw [hnil] at h
    contradiction
  · rename_i d rest hrest
    obtain ⟨rfl, rfl⟩ := List.cons.inj (hrest.symm.trans h)
    rw [if_pos (by simp [isBreak, isLineEnd])]
    exact ⟨rfl, rfl⟩

theorem mem_margin {m : Nat} (hc : c ∈ margin m) : c = ' ' := List.eq_of_mem_replicate hc

@[simp]
theorem length_margin (m : Nat) : (margin m).length = m := List.length_replicate

/-- Behind a line feed and a margin the column is that of the margin. -/
theorem skip_newLine {m : Nat} (h : cur.rest = newLine m ++ post) :
    (cur.skip (m + 1)).line = cur.line + 1 ∧ (cur.skip (m + 1)).column = m := by
  have hnext : cur.next.rest = margin m ++ post := by rw [next_rest, h]; rfl
  have hfeed : cur.rest = '\n' :: (margin m ++ post) := h
  obtain ⟨hline, hcolumn⟩ := next_lineFeed hfeed
  have hspaces : ∀ c ∈ margin m, isInline c = true := fun c hc => by
    rw [mem_margin hc]
    decide
  obtain ⟨hline', hcolumn'⟩ := skip_inline hnext hspaces
  rw [length_margin] at hline' hcolumn'
  rw [skip_succ, hline', hcolumn', hline, hcolumn]
  exact ⟨rfl, by omega⟩

/-! ## Runs of characters -/

theorem takeWhile_run {kind : Char → Bool} (hpre : ∀ c ∈ pre, kind c = true)
    (hpost : ∀ c ∈ post.head?, kind c = false) : (pre ++ post).takeWhile kind = pre := by
  rw [List.takeWhile_append_of_pos hpre]
  cases post with
  | nil => simp
  | cons c post => simp [hpost c rfl]

theorem span_eq {kind : Char → Bool} (h : cur.rest = pre ++ post)
    (hpre : ∀ c ∈ pre, kind c = true) (hpost : ∀ c ∈ post.head?, kind c = false) :
    cur.span kind = (pre, cur.skip pre.length) := by
  rw [span, h, takeWhile_run hpre hpost]

theorem skipWhile_eq {kind : Char → Bool} (h : cur.rest = pre ++ post)
    (hpre : ∀ c ∈ pre, kind c = true) (hpost : ∀ c ∈ post.head?, kind c = false) :
    cur.skipWhile kind = cur.skip pre.length := by
  rw [skipWhile, span_eq h hpre hpost]

theorem lineBreak?_lineFeed (h : cur.rest = '\n' :: post) :
    cur.lineBreak? = some ('\n', cur.next) := by
  simp [lineBreak?, h, isLineEnd]

theorem lineBreak?_separator (h : cur.rest = c :: post) (hbreak : isBreak c = true)
    (hend : isLineEnd c = false) : cur.lineBreak? = some (c, cur.next) := by
  have hreturn : c ≠ '\r' := by
    rintro rfl
    exact absurd hend (by decide)
  unfold lineBreak?
  split
  · rename_i hrest
    exact absurd (List.cons.inj (h.symm.trans hrest)).1 hreturn
  · rename_i d rest _ hrest
    obtain ⟨rfl, rfl⟩ := List.cons.inj (hrest.symm.trans h)
    rw [if_neg (by simp [hend]), if_pos hbreak]
  · rename_i hrest
    rw [hrest] at h
    contradiction

theorem lineBreak?_none (h : ∀ c ∈ cur.rest.head?, isBreak c = false) :
    cur.lineBreak? = none := by
  unfold lineBreak?
  split
  · rename_i hrest
    exact absurd (h '\r' (by rw [hrest]; rfl)) (by decide)
  · rename_i c rest _ hrest
    have hbreak : isBreak c = false := h c (by rw [hrest]; rfl)
    have hend : isLineEnd c = false := by
      simp only [isBreak, Bool.or_eq_false_iff] at hbreak
      exact hbreak.1.1
    rw [if_neg (by simp [hend]), if_neg (by simp [hbreak])]
  · rfl

theorem hasDocumentMark_eq_false (h : ∀ c ∈ cur.rest.head?, c ≠ '-' ∧ c ≠ '.') :
    cur.hasDocumentMark = false := by
  unfold hasDocumentMark hasMark
  cases hrest : cur.rest with
  | nil => simp
  | cons c rest =>
    obtain ⟨hhyphen, hpoint⟩ := h c (by rw [hrest]; rfl)
    simp [hhyphen, hpoint]

end Cursor

end EndpointUpgrade.Yaml
