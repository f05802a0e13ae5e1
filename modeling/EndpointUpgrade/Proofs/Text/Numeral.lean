import EndpointUpgrade.Text.Numeral
import Mathlib.Algebra.Group.Nat.Defs

/-!
# Numerals read back

The digits of a number denote that number, in every base up to sixteen, and their first digit is
zero only for zero itself. Characters that are no digits, the separators of addresses among them,
stand in no numeral.
-/

namespace EndpointUpgrade.Text

variable {base : Nat} {two_le : 2 ≤ base}

theorem digitValue?_digitChar_all :
    ∀ d < 16, ∀ base < 17, d < base → digitValue? base (digitChar d) = some d := by
  decide +kernel

theorem digitValue?_digitChar (hbase : base ≤ 16) {d : Nat} (hd : d < base) :
    digitValue? base (digitChar d) = some d :=
  digitValue?_digitChar_all d (by omega) base (by omega) hd

theorem isDigit_digitChar : ∀ d < 10, isDigit (digitChar d) = true := by decide

theorem digits_of_lt {n : Nat} (hn : n < base) : digits base two_le n = [digitChar n] := by
  rw [digits, if_pos hn]

theorem digits_of_le {n : Nat} (hn : base ≤ n) :
    digits base two_le n = digits base two_le (n / base) ++ [digitChar (n % base)] := by
  rw [digits, if_neg (by omega)]

theorem digits_ne_nil (n : Nat) : digits base two_le n ≠ [] := by
  rw [digits]
  split <;> simp

theorem mem_digits {n : Nat} {c : Char} (h : c ∈ digits base two_le n) :
    ∃ d < base, c = digitChar d := by
  induction n using digits.induct base two_le with
  | case1 n hn =>
    rw [digits_of_lt hn, List.mem_singleton] at h
    exact ⟨n, hn, h⟩
  | case2 n hn ih =>
    rw [digits_of_le (by omega), List.mem_append, List.mem_singleton] at h
    rcases h with h | h
    · exact ih h
    · exact ⟨n % base, Nat.mod_lt n (by omega), h⟩

theorem notMem_digits (hbase : base ≤ 16) {c : Char} (hc : digitValue? 16 c = none) (n : Nat) :
    c ∉ digits base two_le n := by
  intro h
  obtain ⟨d, hd, rfl⟩ := mem_digits h
  rw [digitValue?_digitChar (Nat.le_refl 16) (by omega)] at hc
  exact absurd hc (by simp)

theorem length_digits_le {n k : Nat} (hn : n < base ^ (k + 1)) :
    (digits base two_le n).length ≤ k + 1 := by
  induction k generalizing n with
  | zero =>
    rw [digits_of_lt (by simpa using hn)]
    simp
  | succ k ih =>
    by_cases hlt : n < base
    · rw [digits_of_lt hlt]
      simp
    · have hdiv : n / base < base ^ (k + 1) := by
        rw [Nat.pow_succ] at hn
        exact Nat.div_lt_of_lt_mul (by rwa [Nat.mul_comm])
      have hlength := ih hdiv
      rw [digits_of_le (by omega), List.length_append, List.length_singleton]
      omega

/-- Only zero begins with a zero. -/
theorem head?_digits_ne_zero {n : Nat} (hbase : base ≤ 16) (hn : n ≠ 0) :
    (digits base two_le n).head? ≠ some '0' := by
  have hchar : ∀ d < 16, digitChar d = '0' → d = 0 := by decide
  induction n using digits.induct base two_le with
  | case1 n hlt =>
    rw [digits_of_lt hlt, List.head?_cons, ne_eq, Option.some.injEq]
    exact fun h => hn (hchar n (by omega) h)
  | case2 n hle ih =>
    have hdiv : n / base ≠ 0 := Nat.div_ne_zero_iff.mpr ⟨by omega, by omega⟩
    obtain ⟨c, cs, hcs⟩ : ∃ c cs, digits base two_le (n / base) = c :: cs :=
      List.exists_cons_of_ne_nil (digits_ne_nil _)
    have hhead := ih hdiv
    rw [hcs, List.head?_cons] at hhead
    rwa [digits_of_le (by omega), hcs, List.cons_append, List.head?_cons]

theorem readDigitsFrom_append (n : Nat) (cs ds : List Char) :
    readDigitsFrom base n (cs ++ ds) =
      (readDigitsFrom base n cs).bind fun m => readDigitsFrom base m ds := by
  induction cs generalizing n with
  | nil => rfl
  | cons c cs ih =>
    rw [List.cons_append, readDigitsFrom, readDigitsFrom]
    cases digitValue? base c with
    | none => rfl
    | some d => exact ih _

theorem readDigitsFrom_digits (hbase : base ≤ 16) (n : Nat) :
    readDigitsFrom base 0 (digits base two_le n) = some n := by
  induction n using digits.induct base two_le with
  | case1 n hlt =>
    rw [digits_of_lt hlt, readDigitsFrom, digitValue?_digitChar hbase hlt]
    simp [readDigitsFrom]
  | case2 n hle ih =>
    have hmod : n % base < base := Nat.mod_lt n (by omega)
    rw [digits_of_le (by omega), readDigitsFrom_append, ih, Option.bind_some, readDigitsFrom,
      digitValue?_digitChar hbase hmod]
    simp only [readDigitsFrom, Option.some.injEq]
    exact Nat.div_add_mod' n base

theorem readDigits_digits (hbase : base ≤ 16) (n : Nat) :
    readDigits base (digits base two_le n) = some n := by
  have hread : readDigitsFrom base 0 (digits base two_le n) = some n :=
    readDigitsFrom_digits hbase n
  obtain ⟨c, cs, h⟩ : ∃ c cs, digits base two_le n = c :: cs :=
    List.exists_cons_of_ne_nil (digits_ne_nil n)
  rw [h] at hread ⊢
  exact hread

theorem readDigits_decimal (n : Nat) : readDigits 10 (decimal n) = some n :=
  readDigits_digits (by decide) n

theorem readDigits_hexadecimal (n : Nat) : readDigits 16 (hexadecimal n) = some n :=
  readDigits_digits (by decide) n

theorem decimal_ne_nil (n : Nat) : decimal n ≠ [] := digits_ne_nil n

theorem hexadecimal_ne_nil (n : Nat) : hexadecimal n ≠ [] := digits_ne_nil n

theorem notMem_decimal {c : Char} (hc : digitValue? 16 c = none) (n : Nat) : c ∉ decimal n :=
  notMem_digits (by decide) hc n

theorem notMem_hexadecimal {c : Char} (hc : digitValue? 16 c = none) (n : Nat) :
    c ∉ hexadecimal n :=
  notMem_digits (by decide) hc n

theorem length_decimal_le {n k : Nat} (hn : n < 10 ^ (k + 1)) : (decimal n).length ≤ k + 1 :=
  length_digits_le hn

theorem length_hexadecimal_le {n k : Nat} (hn : n < 16 ^ (k + 1)) :
    (hexadecimal n).length ≤ k + 1 :=
  length_digits_le hn

theorem all_isDigit_decimal (n : Nat) : (decimal n).all isDigit = true := by
  rw [List.all_eq_true]
  intro c hc
  obtain ⟨d, hd, rfl⟩ := mem_digits hc
  exact isDigit_digitChar d hd

theorem decimal_eq_zero_or_head? (n : Nat) :
    decimal n = ['0'] ∨ (decimal n).head? ≠ some '0' := by
  by_cases hn : n = 0
  · rw [hn, decimal]
    exact Or.inl (digits_of_lt (by decide))
  · exact Or.inr (head?_digits_ne_zero (by decide) hn)

end EndpointUpgrade.Text
