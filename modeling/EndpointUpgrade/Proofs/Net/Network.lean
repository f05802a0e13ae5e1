import EndpointUpgrade.Net.Network
import EndpointUpgrade.Proofs.Net.Address

/-!
# Networks read back from their texts

The text of a network is read back as that network. A text with a mask that is neither a numeral nor
an address is no network.
-/

namespace EndpointUpgrade.Net

open Text

def V6.unscoped (a : V6) : V6 := { a with scope := none }

theorem prefixLength?_decimal {bound : Nat} (hbound : bound < 1000) (length : Fin (bound + 1)) :
    prefixLength? bound (decimal length) = some length := by
  have hlength : ¬4300 < (decimal length).length := by
    have hthree : (decimal length).length ≤ 3 := length_decimal_le (k := 2) (by omega)
    omega
  have hempty : (decimal length).isEmpty = false := by simpa using decimal_ne_nil length
  rw [prefixLength?, hempty, all_isDigit_decimal, decide_eq_false hlength, if_neg (by decide),
    readDigits_decimal]
  dsimp only
  rw [dif_pos length.isLt]

namespace Network

def scope? : Network → Option Scope
  | .v4 .. => none
  | .v6 a _ => a.scope

/-- A network is read back from its text, scope and host bits included. -/
theorem read?_chars (n : Network) : read? n.chars = some n := by
  have hmask (length : Nat) : '/' ∉ decimal length := notMem_decimal (by decide) length
  cases n with
  | v4 a length =>
    have ha : '/' ∉ a.chars := V4.notMem_chars (by decide) (by decide) a
    have hbits : readMask? (decimal length) = some length := by
      rw [readMask?, prefixLength?_decimal (by decide) length]
    have hread : readV4? a.chars (some (decimal length)) = some (.v4 a length) := by
      rw [readV4?, V4.read?_chars, Option.bind_eq_bind, Option.bind_some]
      dsimp only
      rw [hbits]
      rfl
    rw [read?, chars, cutAt_append_cons ha]
    dsimp only
    rw [Option.getD_some, if_neg (by simpa using hmask length), hread]
  | v6 a length =>
    have hv4 : readV4? a.chars (some (decimal length)) = none := by
      rw [readV4?, V4.read?_eq_none_of_colon a.colon_mem_chars]
      rfl
    have hread : readV6? a.chars (some (decimal length)) = some (.v6 a length) := by
      rw [readV6?, V6.read?_chars, Option.bind_eq_bind, Option.bind_some]
      dsimp only
      rw [prefixLength?_decimal (by decide) length]
      rfl
    rw [read?, chars, cutAt_append_cons a.slash_notMem_chars]
    dsimp only
    rw [Option.getD_some, if_neg (by simpa using hmask length), hv4, hread]

theorem text_injective : Function.Injective text := text_injective_of_read? read?_chars

theorem read?_eq_none_of_mask {address mask : List Char} (haddress : '/' ∉ address)
    (hmask : '/' ∉ mask) (hbits : readMask? mask = none) (hlength : prefixLength? 128 mask = none) :
    read? (address ++ '/' :: mask) = none := by
  have hv4 : readV4? address (some mask) = none := by
    unfold readV4?
    cases V4.read? address with
    | none => rfl
    | some a => simp [hbits]
  have hv6 : readV6? address (some mask) = none := by
    unfold readV6?
    cases V6.read? address with
    | none => rfl
    | some a => simp [hlength]
  rw [read?, cutAt_append_cons haddress]
  dsimp only
  rw [Option.getD_some, if_neg (by simpa using hmask), hv4, hv6]

end Network

end EndpointUpgrade.Net
