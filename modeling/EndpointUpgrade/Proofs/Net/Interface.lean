import EndpointUpgrade.Net.FromValue
import EndpointUpgrade.Proofs.Net.Network

/-!
# What the texts of a record's network show

The plain text shows everything but whether the prefix length was given as a truth value. The CIDR
text shows that as well, and leaves out the scope. It is read back exactly if the prefix length was
given as a number. Texts are read in the same way whatever masks are known.
-/

namespace EndpointUpgrade.Net

open Text

namespace PrefixLength

variable {bound : Nat} {l m : PrefixLength bound}

theorem ofNumber_number (h : l.asTruth = false) : ofNumber l.number = l := by
  obtain ⟨number, asTruth, hle⟩ := l
  obtain rfl : asTruth = false := h
  rfl

theorem chars_of_asTruth (h : l.asTruth = true) :
    l.chars = "False".toList ∧ l.number.val = 0 ∨ l.chars = "True".toList ∧ l.number.val = 1 := by
  have hle := l.le_one h
  unfold chars
  rw [if_pos h]
  by_cases hzero : l.number.val = 0
  · exact .inl ⟨by rw [if_pos hzero], hzero⟩
  · exact .inr ⟨by rw [if_neg hzero], by omega⟩

theorem chars_of_not_asTruth (h : l.asTruth = false) : l.chars = decimal l.number := by
  unfold chars
  rw [h]
  rfl

theorem all_isDigit_chars : l.chars.all isDigit = !l.asTruth := by
  cases htruth : l.asTruth with
  | false => rw [chars_of_not_asTruth htruth, all_isDigit_decimal]; rfl
  | true =>
    obtain ⟨hchars, -⟩ | ⟨hchars, -⟩ := chars_of_asTruth htruth
    · rw [hchars]; rfl
    · rw [hchars]; rfl

theorem chars_injective : Function.Injective (chars : PrefixLength bound → List Char) := by
  intro l m h
  have htruth : l.asTruth = m.asTruth := by
    rw [← Bool.not_inj_iff, ← all_isDigit_chars, ← all_isDigit_chars, h]
  have hnumber : l.number.val = m.number.val := by
    cases hl : l.asTruth with
    | false =>
      rw [chars_of_not_asTruth hl, chars_of_not_asTruth (htruth ▸ hl)] at h
      have hread := congrArg (readDigits 10) h
      rw [readDigits_decimal, readDigits_decimal] at hread
      exact Option.some.inj hread
    | true =>
      obtain ⟨hlchars, hlnumber⟩ | ⟨hlchars, hlnumber⟩ := chars_of_asTruth hl <;>
        obtain ⟨hmchars, hmnumber⟩ | ⟨hmchars, hmnumber⟩ := chars_of_asTruth (htruth ▸ hl)
      · rw [hlnumber, hmnumber]
      · exact absurd (hlchars.symm.trans (h.trans hmchars)) (by decide)
      · exact absurd (hlchars.symm.trans (h.trans hmchars)) (by decide)
      · rw [hlnumber, hmnumber]
  cases l
  cases m
  simp only [mk.injEq]
  exact ⟨Fin.ext hnumber, htruth⟩

end PrefixLength

namespace Interface

/-- The network without the scope of its address. -/
def unscoped : Interface → Interface
  | .v4 a l => .v4 a l
  | .v6 a l => .v6 a.unscoped l

def scope? (i : Interface) : Option Scope := i.network.scope?

@[simp] theorem unscoped_unscoped (i : Interface) : i.unscoped.unscoped = i.unscoped := by
  cases i <;> rfl

@[simp] theorem asTruth_unscoped (i : Interface) : i.unscoped.asTruth = i.asTruth := by
  cases i <;> rfl

theorem family_unscoped (i : Interface) : i.unscoped.family = i.family := by
  cases i <;> rfl

theorem unscoped_eq_self_iff {i : Interface} : i.unscoped = i ↔ i.scope? = none := by
  cases i with
  | v4 a l => simp [unscoped, scope?, network, Network.scope?]
  | v6 a l =>
    obtain ⟨groups, hgroups, scope⟩ := a
    simp [unscoped, V6.unscoped, scope?, network, Network.scope?, eq_comm]

theorem plain_eq_self_iff {i : Interface} : i.plain = i ↔ i.asTruth = false := by
  constructor
  · intro h
    rw [← h]
    cases i <;> rfl
  · intro h
    cases i with
    | v4 a l => exact congrArg (Interface.v4 a) (PrefixLength.ofNumber_number h)
    | v6 a l => exact congrArg (Interface.v6 a) (PrefixLength.ofNumber_number h)

/-- CIDR texts agree exactly if the networks agree up to a scope, in the way that their prefix
lengths were given as well. -/
theorem cidr_eq_iff {i j : Interface} : i.cidr = j.cidr ↔ i.unscoped = j.unscoped := by
  have hslash (a : V4) : '/' ∉ a.chars := V4.notMem_chars (by decide) (by decide) a
  have hcolon (a : V4) : ':' ∉ a.chars := V4.notMem_chars (by decide) (by decide) a
  rw [cidr, cidr, String.ofList_inj]
  constructor
  · intro h
    cases i with
    | v4 a l =>
      cases j with
      | v4 b m =>
        obtain ⟨haddress, hlength⟩ := append_separator_inj (hslash a) (hslash b) h
        have hread := V4.read?_chars a
        rw [haddress, V4.read?_chars] at hread
        rw [PrefixLength.chars_injective hlength, Option.some.inj hread]
      | v6 b m =>
        have haddress := (append_separator_inj (hslash a) b.unscoped.slash_notMem_chars h).1
        exact absurd (haddress ▸ b.unscoped.colon_mem_chars) (hcolon a)
    | v6 a l =>
      cases j with
      | v4 b m =>
        have haddress := (append_separator_inj a.unscoped.slash_notMem_chars (hslash b) h).1
        exact absurd (haddress ▸ a.unscoped.colon_mem_chars) (hcolon b)
      | v6 b m =>
        obtain ⟨haddress, hlength⟩ :=
          append_separator_inj a.unscoped.slash_notMem_chars b.unscoped.slash_notMem_chars h
        have hread := V6.read?_chars a.unscoped
        rw [show a.unscoped.chars = b.unscoped.chars from haddress, V6.read?_chars] at hread
        rw [unscoped, unscoped, PrefixLength.chars_injective hlength, Option.some.inj hread]
  · intro h
    cases i <;> cases j <;> simp_all [unscoped, cidrChars, V6.unscoped]

theorem cidr_of_not_asTruth {i : Interface} (h : i.asTruth = false) : i.cidr = i.unscoped.text := by
  cases i with
  | v4 a l =>
    exact congrArg (fun cs => String.ofList (a.chars ++ '/' :: cs))
      (PrefixLength.chars_of_not_asTruth h)
  | v6 a l =>
    exact congrArg (fun cs => String.ofList (V6.addressChars a.groups ++ '/' :: cs))
      (PrefixLength.chars_of_not_asTruth h)

/-- A CIDR text with a truth value is no network. -/
theorem read?_cidrChars_of_asTruth {i : Interface} (h : i.asTruth = true) :
    Network.read? i.cidrChars = none := by
  have hmask {bound : Nat} {l : PrefixLength bound} (hl : l.asTruth = true) :
      '/' ∉ l.chars ∧ readMask? l.chars = none ∧ prefixLength? 128 l.chars = none := by
    obtain ⟨hchars, -⟩ | ⟨hchars, -⟩ := PrefixLength.chars_of_asTruth hl
    · rw [hchars]; decide
    · rw [hchars]; decide
  cases i with
  | v4 a l =>
    obtain ⟨hslash, hbits, hlength⟩ := hmask h
    exact Network.read?_eq_none_of_mask (V4.notMem_chars (by decide) (by decide) a) hslash hbits
      hlength
  | v6 a l =>
    obtain ⟨hslash, hbits, hlength⟩ := hmask h
    exact Network.read?_eq_none_of_mask a.unscoped.slash_notMem_chars hslash hbits hlength

end Interface

/-! ## Texts as values -/

theorem Address.ofValue?_text (a : Address) : Address.ofValue? (.text a.text) = some a := by
  rw [Address.ofValue?, Address.text, String.toList_ofList, Address.read?_chars]

theorem V4.ofValue?_text (a : V4) : V4.ofValue? (.text a.text) = some a := by
  have hvalue := Address.ofValue?_text (.v4 a)
  change Address.ofValue? (.text a.text) = _ at hvalue
  rw [V4.ofValue?, hvalue]

theorem V4.ofValue?_textV6 (a : V6) : V4.ofValue? (.text a.text) = none := by
  have hvalue := Address.ofValue?_text (.v6 a)
  change Address.ofValue? (.text a.text) = _ at hvalue
  rw [V4.ofValue?, hvalue]

theorem V6.ofValue?_text (a : V6) : V6.ofValue? (.text a.text) = some a := by
  rw [V6.ofValue?, V6.text, String.toList_ofList, V6.read?_chars]

namespace Interface

variable {known : Masks} {mask : Value}

theorem ofValue_text (known : Masks) (n : Network) :
    ofValue known (.text n.text) = .ok (.ofNetwork n) := by
  rw [ofValue, Network.text, String.toList_ofList, Network.read?_chars]
  rfl

theorem ofPair_textV4 {a : V4} {l : PrefixLength 32}
    (h : PrefixLength.ofValueV4 known.v4 mask = .ok l) :
    ofPair known (.text a.text) mask = .ok (.v4 a l) := by
  have hpair : ofPairV4 known (.text a.text) mask = .ok (.v4 a l) := by
    rw [ofPairV4, V4.ofValue?_text, h]
    rfl
  rw [ofPair, hpair]

/-- The text of an IPv6 address is refused by the family that is tried first. -/
theorem ofPair_textV6 {a : V6} {l : PrefixLength 128}
    (h : PrefixLength.ofValueV6 known.v6 mask = .ok l) :
    ofPair known (.text a.text) mask = .ok (.v6 a l) := by
  have hrefused : ofPairV4 known (.text a.text) mask = .error .refused := by
    rw [ofPairV4, V4.ofValue?_textV6]
  rw [ofPair, hrefused, ofPairV6, V6.ofValue?_text, h]
  rfl

end Interface

end EndpointUpgrade.Net
