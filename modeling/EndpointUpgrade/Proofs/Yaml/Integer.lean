import EndpointUpgrade.Proofs.Yaml.Style
import EndpointUpgrade.Yaml.ScalarValue

/-!
# Integers read back

A written integer has the form of an integer and no other form, and denotes the integer that was
written, unless it has more digits than a conversion takes.
-/

namespace EndpointUpgrade.Yaml

open Text

variable {cs : List Char}

theorem isDigit_of_mem_decimal {n : Nat} {c : Char} (hc : c ∈ decimal n) : isDigit c = true :=
  List.all_eq_true.mp (all_isDigit_decimal n) c hc

theorem exists_decimal (n : Nat) :
    ∃ c rest, decimal n = c :: rest ∧ isDigit c = true ∧ ∀ d ∈ rest, isDigit d = true := by
  obtain ⟨c, rest, hcs⟩ := List.exists_cons_of_ne_nil (decimal_ne_nil n)
  refine ⟨c, rest, hcs, isDigit_of_mem_decimal (n := n) (by simp [hcs]), fun d hd => ?_⟩
  exact isDigit_of_mem_decimal (n := n) (by simp [hcs, hd])

theorem decimal_ne_letter (n : Nat) {c x : Char} {rest : List Char} (hc : isDigit c = false) :
    decimal n ≠ x :: c :: rest := by
  intro hcs
  rw [isDigit_of_mem_decimal (n := n) (by simp [hcs])] at hc
  contradiction

theorem unsigned_decimal (n : Nat) : unsigned (decimal n) = decimal n := by
  obtain ⟨c, rest, hcs, hc, -⟩ := exists_decimal n
  have hminus : c ≠ '-' := ne_of_isDigit hc (by decide)
  have hplus : c ≠ '+' := ne_of_isDigit hc (by decide)
  rw [hcs, unsigned, if_neg (by simp [hminus, hplus])]

theorem unsigned_integer (n : Int) : unsigned (integer n) = decimal n.natAbs := by
  rw [integer]
  split
  · rfl
  · exact unsigned_decimal _

/-! ## Form -/

/-- A text that begins with something else than a digit or a hyphen is no integer. -/
theorem integerText_ne {n : Int} {s : String}
    (h : ∃ c ∈ s.toList.head?, isDigit c = false ∧ c ≠ '-') : integerText n ≠ s := by
  rintro rfl
  obtain ⟨c, hhead, hc, hminus⟩ := h
  obtain ⟨d, rest, hcs, -, hd⟩ := exists_integer n
  rw [integerText, String.toList_ofList, hcs] at hhead
  obtain rfl : d = c := by simpa using hhead
  rcases hd with hdigit | ⟨hsign, -⟩
  · rw [hc] at hdigit
    contradiction
  · exact hminus hsign

theorem integerText_notMem {ts : List String}
    (h : ts.all (fun t => t.toList.head?.any fun c => !isDigit c && c ≠ '-') = true) (n : Int) :
    ts.contains (integerText n) = false := by
  cases hcontains : ts.contains (integerText n) with
  | false => rfl
  | true =>
    have hbegins := List.all_eq_true.mp h _ (List.contains_iff_mem.mp hcontains)
    simp only [Option.any_eq_true, Bool.and_eq_true, Bool.not_eq_true', decide_eq_true_eq]
      at hbegins
    exact absurd rfl (integerText_ne hbegins)

theorem isDigitPlace_of_mem_decimal {n : Nat} {c : Char} (hc : c ∈ decimal n) :
    isDigitPlace c = true := by
  rw [isDigitPlace, isDigit_of_mem_decimal hc]
  rfl

theorem dropWhile_decimal (n : Nat) : (decimal n).dropWhile isDigitPlace = [] := by
  have hall : (decimal n ++ []).dropWhile isDigitPlace = List.dropWhile isDigitPlace [] :=
    List.dropWhile_append_of_pos fun c hc => isDigitPlace_of_mem_decimal hc
  simpa using hall

theorem isFloatForm_integer (n : Int) : isFloatForm .v1_2 (integer n) = false := by
  have hdecimal : isDecimalForm (decimal n.natAbs) = false := by
    rw [isDecimalForm, dropWhile_decimal]
    exact Bool.and_false _
  have hpoint : isPointForm (decimal n.natAbs) = false := by
    obtain ⟨c, rest, hcs, hc, -⟩ := exists_decimal n.natAbs
    rw [hcs, isPointForm]
    rintro more hmore
    obtain ⟨rfl, -⟩ := List.cons.inj hmore
    exact absurd hc (by decide)
  have hbound : [".inf", ".Inf", ".INF"].contains (String.ofList (decimal n.natAbs)) = false :=
    integerText_notMem (by decide) (n.natAbs : Int)
  have hnan : [".nan", ".NaN", ".NAN"].contains (String.ofList (integer n)) = false :=
    integerText_notMem (by decide) n
  rw [isFloatForm, unsigned_integer, hdecimal, hpoint, hbound, hnan]
  rfl

theorem isIntForm_integer (n : Int) : isIntForm .v1_2 (integer n) = true := by
  have hhead : (integer n).head?.any (fun c => c = '-' || c = '+' || isDigit c) = true := by
    obtain ⟨c, rest, hcs, -, hc⟩ := exists_integer n
    rw [hcs, List.head?_cons, Option.any_some]
    rcases hc with hdigit | ⟨rfl, -⟩
    · rw [hdigit, Bool.or_true]
    · rfl
  have hrun : isRun isDigitPlace (decimal n.natAbs) = true := by
    have hall : (decimal n.natAbs).all isDigitPlace = true :=
      List.all_eq_true.mpr fun c hc => isDigitPlace_of_mem_decimal hc
    rw [isRun, hall, Bool.and_true, Bool.not_eq_true', List.isEmpty_eq_false_iff]
    exact decimal_ne_nil _
  unfold isIntForm
  rw [hhead, unsigned_integer, Bool.true_and]
  split
  · rename_i hcs
    exact absurd hcs (decimal_ne_letter _ (by decide))
  · rename_i hcs
    exact absurd hcs (decimal_ne_letter _ (by decide))
  · rename_i hcs _
    exact absurd hcs (decimal_ne_letter _ (by decide))
  · exact hrun
  · contradiction

theorem ofPlain_integerText (n : Int) : Tag.ofPlain .v1_2 (integerText n) = .int := by
  have hbool : (boolTexts .v1_2).contains (integerText n) = false :=
    integerText_notMem (by decide) n
  rw [Tag.ofPlain, hbool, integerText, String.toList_ofList, isFloatForm_integer,
    isIntForm_integer]
  rfl

/-! ## Value -/

theorem isWhite_of_isDigit {c : Char} (hc : isDigit c = true) : isWhite c = false := by
  simp only [isDigit, Bool.and_eq_true, decide_eq_true_eq] at hc
  have hleast : 48 ≤ c.toNat := hc.1
  have hmost : c.toNat ≤ 57 := hc.2
  simp only [isWhite]
  simp
  omega

theorem trimmed_of_notWhite (h : ∀ c ∈ cs, isWhite c = false) : trimmed cs = cs := by
  have hkeep : ∀ ds : List Char, (∀ c ∈ ds, isWhite c = false) → ds.dropWhile isWhite = ds := by
    intro ds hds
    cases ds with
    | nil => rfl
    | cons d ds => rw [List.dropWhile_cons_of_neg (by simp [hds d List.mem_cons_self])]
  rw [trimmed, hkeep cs h, hkeep cs.reverse fun c hc => h c (List.mem_reverse.mp hc),
    List.reverse_reverse]

/-- The integer has no more digits than a conversion takes. -/
def FitsConversion (n : Int) : Prop := (decimal n.natAbs).length ≤ 4300

instance (n : Int) : Decidable (FitsConversion n) :=
  inferInstanceAs (Decidable ((decimal n.natAbs).length ≤ 4300))

theorem numeralValue_decimal {n : Nat} (hn : (decimal n).length ≤ 4300) :
    numeralValue 10 (decimal n) = .ok (n : Int) := by
  have htrimmed : trimmed (decimal n) = decimal n :=
    trimmed_of_notWhite fun c hc => isWhite_of_isDigit (isDigit_of_mem_decimal hc)
  have hhead : (decimal n).head? ≠ some '-' := by
    obtain ⟨c, rest, hcs, hc, -⟩ := exists_decimal n
    rw [hcs, List.head?_cons, ne_eq, Option.some.injEq]
    exact ne_of_isDigit hc (by decide)
  rw [numeralValue, htrimmed, unsigned_decimal, if_neg (by omega), readDigits_decimal]
  dsimp only
  rw [if_neg hhead]

theorem magnitudeValue_decimal {n : Nat} (hn : (decimal n).length ≤ 4300) :
    magnitudeValue .v1_2 (decimal n) = .ok (n : Int) := by
  have hnumeral := numeralValue_decimal hn
  unfold magnitudeValue
  split
  · rename_i hzero
    have hread := readDigits_decimal n
    rw [hzero] at hread
    have hn : n = 0 := (Option.some.inj hread).symm
    rw [hn]
    rfl
  · rename_i hcs
    exact absurd hcs (decimal_ne_letter n (by decide))
  · rename_i hcs
    exact absurd hcs (decimal_ne_letter n (by decide))
  · rename_i hcs
    exact absurd hcs (decimal_ne_letter n (by decide))
  · exact hnumeral

theorem intValue_integerText {n : Int} (hn : FitsConversion n) :
    intValue .v1_2 (integerText n) = .ok n := by
  obtain ⟨c, rest, hcs, hrest, hc⟩ := exists_integer n
  have hunsigned : unsigned (c :: rest) = decimal n.natAbs := by rw [← hcs, unsigned_integer]
  have hfilter : (integerText n).toList.filter (· ≠ '_') = c :: rest := by
    rw [integerText, String.toList_ofList, hcs, List.filter_eq_self]
    intro d hd
    have hne : d ≠ '_' := by
      rcases List.mem_cons.mp hd with rfl | hd
      · rcases hc with hdigit | ⟨rfl, -⟩
        · exact ne_of_isDigit hdigit (by decide)
        · decide
      · exact ne_of_isDigit (hrest d hd) (by decide)
    simpa using hne
  rw [intValue, hfilter]
  dsimp only
  rw [hunsigned, magnitudeValue_decimal hn]
  change Except.ok (if c = '-' then -(n.natAbs : Int) else n.natAbs) = _
  have hsign : c = '-' ↔ n < 0 := by
    rw [integer] at hcs
    split at hcs
    · rename_i hneg
      exact ⟨fun _ => hneg, fun _ => (List.cons.inj hcs).1.symm⟩
    · rename_i hpos
      refine ⟨fun hminus => ?_, fun hneg => absurd hneg hpos⟩
      have hdigit := isDigit_of_mem_decimal (n := n.natAbs) (c := c) (by simp [hcs])
      rw [hminus] at hdigit
      contradiction
  split
  · rename_i hminus
    have := hsign.mp hminus
    rw [Except.ok.injEq]
    omega
  · rename_i hplus
    have := mt hsign.mpr hplus
    rw [Except.ok.injEq]
    omega

end EndpointUpgrade.Yaml
