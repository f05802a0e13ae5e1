import EndpointUpgrade.Net.Mac
import EndpointUpgrade.Proofs.Net.Address

/-!
# Hardware addresses read back from their texts

The canonical text of a hardware address is read back as that address, whether a line break follows
it or not.
-/

namespace EndpointUpgrade.Net.Mac

open Text

theorem octet?_octetChars (b : UInt8) : octet? (octetChars b) = some b := by
  have hb : b.toNat < 256 := b.toNat_lt
  have hhigh : digitValue? 16 (digitChar (b.toNat / 16)) = some (b.toNat / 16) :=
    digitValue?_digitChar (by omega) (by omega)
  have hlow : digitValue? 16 (digitChar (b.toNat % 16)) = some (b.toNat % 16) :=
    digitValue?_digitChar (by omega) (by omega)
  unfold octetChars octet?
  dsimp only
  rw [hhigh, hlow]
  simp only [Option.bind_eq_bind, Option.bind_some, Option.pure_def, Option.some.injEq]
  rw [Nat.div_add_mod', UInt8.ofNat_toNat]

theorem notMem_octetChars {c : Char} (hc : digitValue? 16 c = none) (b : UInt8) :
    c ∉ octetChars b := by
  have hb : b.toNat < 256 := b.toNat_lt
  intro h
  have hdigit : ∃ d < 16, c = digitChar d := by
    simp only [octetChars, List.mem_cons, List.not_mem_nil, or_false] at h
    rcases h with h | h
    · exact ⟨b.toNat / 16, by omega, h⟩
    · exact ⟨b.toNat % 16, by omega, h⟩
  obtain ⟨d, hd, rfl⟩ := hdigit
  rw [digitValue?_digitChar (Nat.le_refl 16) hd] at hc
  exact absurd hc (by simp)

theorem readWith?_joined {separator : Char} (hseparator : digitValue? 16 separator = none)
    {octets : List UInt8} (hoctets : octets.length = 6) (lineBreak : Bool) :
    readWith? separator (joined separator (octets.map octetChars)) lineBreak =
      some ⟨octets, hoctets, lineBreak⟩ := by
  have hfields : fields separator (joined separator (octets.map octetChars)) =
      octets.map octetChars := by
    apply fields_joined
    · intro h
      rw [List.map_eq_nil_iff.mp h] at hoctets
      exact absurd hoctets (by decide)
    · intro f hf
      obtain ⟨b, -, rfl⟩ := List.mem_map.mp hf
      exact notMem_octetChars hseparator b
  unfold readWith?
  rw [hfields, mapM_map_eq_some octet?_octetChars, Option.bind_eq_bind, Option.bind_some,
    dif_pos hoctets]
  rfl

theorem lineBreak_notMem_joined (octets : List UInt8) :
    '\n' ∉ joined ':' (octets.map octetChars) := by
  intro h
  rcases mem_joined h with h | ⟨f, hf, h⟩
  · exact absurd h (by decide)
  · obtain ⟨b, -, rfl⟩ := List.mem_map.mp hf
    exact notMem_octetChars (by decide) b h

theorem third_joined {octets : List UInt8} (hoctets : octets.length = 6) :
    ((joined ':' (octets.map octetChars)).drop 2).head? = some ':' := by
  match octets, hoctets with
  | a :: b :: rest, _ =>
    rw [List.map_cons, List.map_cons, joined_cons_cons]
    rfl

theorem read?_chars (m : Mac) : read? m.chars = some m := by
  obtain ⟨octets, hoctets, lineBreak⟩ := m
  have hthird := third_joined hoctets
  have hread := readWith?_joined (show digitValue? 16 ':' = none by decide) hoctets lineBreak
  unfold read? chars
  cases lineBreak with
  | true =>
    rw [if_pos rfl, List.getLast?_concat]
    dsimp only
    rw [if_pos rfl, List.dropLast_concat, hthird]
    exact hread
  | false =>
    have hlast : (joined ':' (octets.map octetChars)).getLast? ≠ some '\n' := fun h =>
      lineBreak_notMem_joined octets (List.mem_of_getLast? h)
    rw [if_neg Bool.false_ne_true, List.append_nil]
    dsimp only
    rw [if_neg hlast, hthird, decide_eq_false hlast]
    exact hread

theorem text_injective : Function.Injective text := text_injective_of_read? read?_chars

end EndpointUpgrade.Net.Mac
