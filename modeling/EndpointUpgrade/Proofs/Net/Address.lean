import EndpointUpgrade.Net.Address
import EndpointUpgrade.Proofs.Text.Fields
import EndpointUpgrade.Proofs.Text.Numeral

/-!
# Addresses read back from their texts

The text of an address is read back as that address, for both families and with the scope of an
IPv6 address. The zero groups that an IPv6 text leaves out are found again because the text shows
every other group, and a text of one family is never taken for one of the other: an IPv6 text has a
colon, and an IPv4 text is made of digits and points.
-/

namespace EndpointUpgrade.Net

open Text

/-- Values that are read back from their texts have different texts. -/
theorem text_injective_of_read? {α : Type} {chars : α → List Char} {read? : List Char → Option α}
    (hread : ∀ a, read? (chars a) = some a) :
    Function.Injective fun a => String.ofList (chars a) := by
  intro a b h
  have hchars : chars a = chars b := String.ofList_injective h
  have hb := hread a
  rw [hchars, hread] at hb
  exact (Option.some.inj hb).symm

/-- Items that are read back from what is written for them are read back as a list. -/
theorem mapM_map_eq_some {α β : Type} {write : α → β} {read? : β → Option α}
    (hread : ∀ a, read? (write a) = some a) (as : List α) :
    (as.map write).mapM read? = some as := by
  have hcomp : read? ∘ write = pure := funext hread
  rw [List.mapM_map, hcomp, List.mapM_pure, List.map_id']
  rfl

/-! ## IPv4 -/

namespace V4

theorem octet?_decimal (b : UInt8) : octet? (decimal b.toNat) = some b := by
  have hb : b.toNat < 256 := b.toNat_lt
  have hempty : (decimal b.toNat).isEmpty = false := by
    simpa using decimal_ne_nil b.toNat
  have hlength : ¬3 < (decimal b.toNat).length :=
    Nat.not_lt.mpr (length_decimal_le (k := 2) (by omega))
  have hzero : ¬(decimal b.toNat ≠ ['0'] ∧ (decimal b.toNat).head? = some '0') := by
    rintro ⟨hne, hhead⟩
    rcases decimal_eq_zero_or_head? b.toNat with h | h
    · exact hne h
    · exact h hhead
  rw [octet?, hempty, all_isDigit_decimal, decide_eq_false hlength, if_neg (by decide),
    if_neg hzero, readDigits_decimal]
  simp only [show b.toNat ≤ 255 by omega, if_true, UInt8.ofNat_toNat]

theorem exists_decimal_of_mem {a b c d : Nat} {f : List Char}
    (hf : f ∈ [decimal a, decimal b, decimal c, decimal d]) : ∃ n, f = decimal n := by
  simp only [List.mem_cons, List.not_mem_nil, or_false] at hf
  rcases hf with rfl | rfl | rfl | rfl <;> exact ⟨_, rfl⟩

theorem read?_chars (a : V4) : read? a.chars = some a := by
  have hfields : fields '.' a.chars = [decimal a.first.toNat, decimal a.second.toNat,
      decimal a.third.toNat, decimal a.fourth.toNat] := by
    apply fields_joined (by simp)
    intro f hf
    obtain ⟨n, rfl⟩ := exists_decimal_of_mem hf
    exact notMem_decimal (by decide) n
  rw [read?, hfields]
  simp only [octet?_decimal, Option.bind_eq_bind, Option.bind_some, Option.pure_def]

theorem notMem_chars {c : Char} (hc : digitValue? 16 c = none) (hpoint : c ≠ '.') (a : V4) :
    c ∉ a.chars := by
  intro h
  rcases mem_joined h with h | ⟨f, hf, h⟩
  · exact hpoint h
  · obtain ⟨n, rfl⟩ := exists_decimal_of_mem hf
    exact notMem_decimal hc n h

theorem all_isDigit_of_octet? {cs : List Char} {b : UInt8} (h : octet? cs = some b) :
    cs.all isDigit = true := by
  rw [octet?] at h
  split at h
  · simp at h
  · next hdigits =>
    simp only [Bool.or_eq_true, not_or, Bool.not_eq_true, Bool.not_eq_false'] at hdigits
    exact hdigits.1.2

/-- An IPv4 text has digits and points only. -/
theorem colon_notMem_of_read? {cs : List Char} {a : V4} (h : read? cs = some a) : ':' ∉ cs := by
  intro hcolon
  rw [read?] at h
  split at h
  · next w x y z hfields =>
    simp only [Option.bind_eq_bind, Option.bind_eq_some_iff] at h
    obtain ⟨_, hw, _, hx, _, hy, _, hz, -⟩ := h
    have hjoined : joined '.' (fields '.' cs) = cs := joined_fields cs
    rw [← hjoined, hfields] at hcolon
    rcases mem_joined hcolon with h | ⟨f, hf, hcolon⟩
    · exact absurd h (by decide)
    · have hdigits : f.all isDigit = true := by
        simp only [List.mem_cons, List.not_mem_nil, or_false] at hf
        rcases hf with rfl | rfl | rfl | rfl
        · exact all_isDigit_of_octet? hw
        · exact all_isDigit_of_octet? hx
        · exact all_isDigit_of_octet? hy
        · exact all_isDigit_of_octet? hz
      exact absurd (List.all_eq_true.mp hdigits ':' hcolon) (by decide)
  · simp at h

theorem read?_eq_none_of_colon {cs : List Char} (h : ':' ∈ cs) : read? cs = none := by
  cases hread : read? cs with
  | none => rfl
  | some a => exact absurd h (colon_notMem_of_read? hread)

theorem text_injective : Function.Injective text := text_injective_of_read? read?_chars

end V4

/-! ## IPv6 -/

namespace V6

theorem leadingZeros_spec (gs : List UInt16) :
    ∃ low, gs = List.replicate (leadingZeros gs) 0 ++ low := by
  induction gs with
  | nil => exact ⟨[], rfl⟩
  | cons g gs ih =>
    by_cases hg : g = 0
    · obtain ⟨low, hlow⟩ := ih
      refine ⟨low, ?_⟩
      rw [leadingZeros, if_pos hg, List.replicate_succ, List.cons_append, ← hlow, hg]
    · refine ⟨g :: gs, ?_⟩
      rw [leadingZeros, if_neg hg]
      rfl

/-- The longest run is one of zeros. -/
theorem longestRun_spec (gs : List UInt16) :
    ∃ high low, gs = high ++ (List.replicate (longestRun gs).2 0 ++ low) ∧
      high.length = (longestRun gs).1 := by
  induction gs with
  | nil => exact ⟨[], [], rfl, rfl⟩
  | cons g gs ih =>
    rw [longestRun]
    dsimp only
    split
    · obtain ⟨low, hlow⟩ := leadingZeros_spec (g :: gs)
      exact ⟨[], low, hlow, rfl⟩
    · obtain ⟨high, low, hgs, hstart⟩ := ih
      refine ⟨g :: high, low, ?_, congrArg (· + 1) hstart⟩
      rw [List.cons_append, ← hgs]

/-- A text shows all groups, or all but at least two zero groups in a row. -/
theorem addressChars_cases (gs : List UInt16) :
    addressChars gs = groupChars gs ∨
      ∃ high low n, gs = high ++ (List.replicate (n + 2) 0 ++ low) ∧
        addressChars gs = groupChars high ++ ':' :: ':' :: groupChars low := by
  obtain ⟨high, low, hgs, hstart⟩ := longestRun_spec gs
  rw [addressChars]
  dsimp only
  split
  · exact Or.inl rfl
  · next hlength =>
    obtain ⟨n, hn⟩ : ∃ n, (longestRun gs).2 = n + 2 := ⟨(longestRun gs).2 - 2, by omega⟩
    rw [hn] at hgs
    have htake : gs.take (longestRun gs).1 = high := by
      rw [← hstart, hgs, List.take_left]
    have hdrop : gs.drop ((longestRun gs).1 + (longestRun gs).2) = low := by
      rw [← hstart, hn, ← List.drop_drop, hgs, List.drop_left]
      exact List.drop_left' (by simp)
    refine Or.inr ⟨high, low, n, hgs, ?_⟩
    rw [htake, hdrop]

theorem notMem_groupChars {c : Char} (hc : digitValue? 16 c = none) (hcolon : c ≠ ':')
    (gs : List UInt16) : c ∉ groupChars gs := by
  intro h
  rcases mem_joined h with h | ⟨f, hf, h⟩
  · exact hcolon h
  · obtain ⟨g, -, rfl⟩ := List.mem_map.mp hf
    exact notMem_hexadecimal hc _ h

theorem notMem_addressChars {c : Char} (hc : digitValue? 16 c = none) (hcolon : c ≠ ':')
    (gs : List UInt16) : c ∉ addressChars gs := by
  rcases addressChars_cases gs with h | ⟨high, low, n, -, h⟩
  · rw [h]
    exact notMem_groupChars hc hcolon gs
  · rw [h]
    simp only [List.mem_append, List.mem_cons, hcolon, false_or, not_or]
    exact ⟨notMem_groupChars hc hcolon high, notMem_groupChars hc hcolon low⟩

/-- The fields between the colons of a run of groups. No groups leave one empty field. -/
def groupFields (gs : List UInt16) : List (List Char) :=
  if gs = [] then [[]] else gs.map fun g => hexadecimal g.toNat

theorem groupFields_ne_nil (gs : List UInt16) : groupFields gs ≠ [] := by
  rw [groupFields]
  split
  · simp
  · next hgs => simpa using hgs

theorem length_groupFields_le (gs : List UInt16) : (groupFields gs).length ≤ gs.length + 1 := by
  rw [groupFields]
  split <;> simp

theorem fields_groupChars (gs : List UInt16) : fields ':' (groupChars gs) = groupFields gs := by
  rw [groupFields]
  split
  · next hgs => rw [hgs]; rfl
  · next hgs =>
    refine fields_joined (by simpa using hgs) fun f hf => ?_
    obtain ⟨g, -, rfl⟩ := List.mem_map.mp hf
    exact notMem_hexadecimal (by decide) _

theorem point_notMem_of_mem_groupFields {gs : List UInt16} {f : List Char}
    (hf : f ∈ groupFields gs) : '.' ∉ f := by
  rw [groupFields] at hf
  split at hf
  · rw [List.mem_singleton.mp hf]
    simp
  · obtain ⟨g, -, rfl⟩ := List.mem_map.mp hf
    exact notMem_hexadecimal (by decide) _

/-- Only the field of no groups is empty. -/
theorem groupFields_eq_or_all (gs : List UInt16) :
    (gs = [] ∧ groupFields gs = [[]]) ∨
      (groupFields gs = gs.map (fun g => hexadecimal g.toNat) ∧
        ∀ f ∈ groupFields gs, f.isEmpty = false) := by
  rw [groupFields]
  split
  · next hgs => exact Or.inl ⟨hgs, rfl⟩
  · refine Or.inr ⟨rfl, fun f hf => ?_⟩
    obtain ⟨g, -, rfl⟩ := List.mem_map.mp hf
    simpa using hexadecimal_ne_nil g.toNat

theorem side?_groupFields {gs : List UInt16} {outermost : Option (List Char)}
    (houtermost : ∃ f ∈ groupFields gs, outermost = some f) :
    side? (groupFields gs) outermost = some (gs.map fun g => hexadecimal g.toNat) := by
  obtain ⟨f, hf, rfl⟩ := houtermost
  rcases groupFields_eq_or_all gs with ⟨rfl, hfields⟩ | ⟨hfields, hne⟩
  · rw [hfields, List.mem_singleton] at hf
    rw [hfields, hf]
    rfl
  · have hf' : f ≠ [] := by simpa using hne f hf
    rw [side?, if_neg (by simpa using hf'), hfields]

theorem group?_hexadecimal (g : UInt16) : group? (hexadecimal g.toNat) = some g := by
  have hg : g.toNat < 65536 := g.toNat_lt
  have hlength : ¬4 < (hexadecimal g.toNat).length :=
    Nat.not_lt.mpr (length_hexadecimal_le (k := 3) (by omega))
  rw [group?, if_neg hlength, readDigits_hexadecimal, Option.map_some, UInt16.ofNat_toNat]

/-- All groups are shown. -/
theorem groupsOfParts?_groupFields {gs : List UInt16} (hgs : gs.length = 8) :
    groupsOfParts? (groupFields gs) = some gs := by
  rcases groupFields_eq_or_all gs with ⟨rfl, -⟩ | ⟨hfields, hne⟩
  · simp at hgs
  · have hinside : ((groupFields gs).drop 1).dropLast.findIdx? (·.isEmpty) = none := by
      rw [List.findIdx?_eq_none_iff]
      exact fun f hf => hne f (List.mem_of_mem_drop (List.dropLast_subset _ hf))
    have hlength : (groupFields gs).length = 8 := by rw [hfields, List.length_map, hgs]
    rw [groupsOfParts?, hinside]
    dsimp only
    rw [if_pos hlength, hfields, mapM_map_eq_some group?_hexadecimal]

theorem isEmpty_of_mem_rest (gs : List UInt16) {f : List Char}
    (hf : f ∈ (groupFields gs).drop 1 ∨ f ∈ (groupFields gs).dropLast) : f.isEmpty = false := by
  rcases groupFields_eq_or_all gs with ⟨rfl, hfields⟩ | ⟨-, hne⟩
  · rw [hfields] at hf
    simp at hf
  · rcases hf with hf | hf
    · exact hne f (List.mem_of_mem_drop hf)
    · exact hne f (List.dropLast_subset _ hf)

/-- The one empty part between the others is the gap, and the parts on its two sides are read. -/
theorem groupsOfParts?_of_gap {first last : List Char} {hs ls : List (List Char)}
    (hhs : ∀ f ∈ hs, f.isEmpty = false) (hls : ∀ f ∈ ls, f.isEmpty = false) :
    groupsOfParts? ((first :: hs) ++ [] :: (ls ++ [last])) = (do
      let high ← side? (first :: hs) (some first)
      let low ← side? (ls ++ [last]) (some last)
      if high.length + low.length < 8 then
        let hs ← high.mapM group?
        let ls ← low.mapM group?
        return hs ++ List.replicate (8 - (high.length + low.length)) 0 ++ ls
      else none) := by
  have hinside : (((first :: hs) ++ [] :: (ls ++ [last])).drop 1).dropLast = hs ++ [] :: ls := by
    rw [List.cons_append, List.drop_one, List.tail_cons, ← List.cons_append, ← List.append_assoc,
      List.dropLast_concat]
  have hgap : (hs ++ [] :: ls).findIdx? (·.isEmpty) = some hs.length := by
    rw [List.findIdx?_append, List.findIdx?_eq_none_iff.mpr hhs, List.findIdx?_cons]
    simp
  have hsecond : ((hs ++ [] :: ls).drop (hs.length + 1)).any (·.isEmpty) = false := by
    rw [← List.drop_drop, List.drop_left, List.drop_one, List.tail_cons, List.any_eq_false]
    exact fun f hf => by simp [hls f hf]
  have htake : ((first :: hs) ++ [] :: (ls ++ [last])).take (hs.length + 1) = first :: hs :=
    List.take_left' rfl
  have hdrop : ((first :: hs) ++ [] :: (ls ++ [last])).drop (hs.length + 2) = ls ++ [last] := by
    rw [show hs.length + 2 = (first :: hs).length + 1 from rfl, ← List.drop_drop, List.drop_left,
      List.drop_one, List.tail_cons]
  have hlast : ((first :: hs) ++ [] :: (ls ++ [last])).getLast? = some last := by
    change ((first :: hs) ++ (([] :: ls) ++ [last])).getLast? = some last
    rw [← List.append_assoc, List.getLast?_concat]
  rw [groupsOfParts?, hinside, hgap]
  dsimp only
  rw [hsecond, htake, hdrop, hlast, List.cons_append, List.head?_cons]
  rfl

/-- A run of zero groups is left out. -/
theorem groupsOfParts?_groupFields_gap {high low : List UInt16} {n : Nat}
    (hlength : high.length + (n + 1 + low.length) = 8) :
    groupsOfParts? (groupFields high ++ [] :: groupFields low) =
      some (high ++ (List.replicate (n + 1) 0 ++ low)) := by
  obtain ⟨first, hs, hfirst⟩ := List.exists_cons_of_ne_nil (groupFields_ne_nil high)
  obtain ⟨ls, last, hlast⟩ : ∃ ls last, groupFields low = ls ++ [last] :=
    ⟨_, _, (List.dropLast_concat_getLast (groupFields_ne_nil low)).symm⟩
  have hhs : ∀ f ∈ hs, f.isEmpty = false := fun f hf =>
    isEmpty_of_mem_rest high (Or.inl (by simpa [hfirst] using hf))
  have hls : ∀ f ∈ ls, f.isEmpty = false := fun f hf =>
    isEmpty_of_mem_rest low (Or.inr (by simpa [hlast] using hf))
  have hhigh : side? (groupFields high) (some first) =
      some (high.map fun g => hexadecimal g.toNat) :=
    side?_groupFields ⟨first, by simp [hfirst], rfl⟩
  have hlow : side? (groupFields low) (some last) =
      some (low.map fun g => hexadecimal g.toNat) :=
    side?_groupFields ⟨last, by simp [hlast], rfl⟩
  have hshown : high.length + low.length < 8 := by omega
  have hzeros : 8 - (high.length + low.length) = n + 1 := by omega
  rw [hfirst, hlast, groupsOfParts?_of_gap hhs hls, ← hfirst, ← hlast, hhigh, hlow]
  simp only [Option.bind_eq_bind, Option.bind_some, List.length_map, if_pos hshown, hzeros,
    mapM_map_eq_some group?_hexadecimal, Option.pure_def, List.append_assoc]

theorem expandTail?_of_notMem {parts : List (List Char)} (hne : parts ≠ [])
    (hparts : ∀ f ∈ parts, '.' ∉ f) : expandTail? parts = some parts := by
  have hlast := List.getLast?_eq_some_getLast hne
  have hpoint : ¬(parts.getLast hne).contains '.' = true := by
    simpa using hparts _ (List.getLast_mem hne)
  rw [expandTail?, hlast]
  dsimp only
  rw [if_neg hpoint]

/-- Parts of a text without points are read group by group. -/
theorem readGroups?_of_fields {cs : List Char} {parts : List (List Char)}
    (hfields : fields ':' cs = parts) (hparts : ∀ f ∈ parts, '.' ∉ f)
    (hleast : 3 ≤ parts.length) (hmost : parts.length ≤ 9) :
    readGroups? cs = groupsOfParts? parts := by
  have hne : parts ≠ [] := List.ne_nil_of_length_pos (by omega)
  have hexpand := expandTail?_of_notMem hne hparts
  rw [readGroups?, hfields, if_neg (by omega), hexpand, Option.bind_eq_bind,
    Option.bind_some, if_neg (by omega)]

theorem readGroups?_addressChars {gs : List UInt16} (hgs : gs.length = 8) :
    readGroups? (addressChars gs) = some gs := by
  rcases addressChars_cases gs with h | ⟨high, low, n, hsplit, h⟩
  · have hlength : (groupFields gs).length = 8 := by
      rw [groupFields, if_neg (by rintro rfl; simp at hgs), List.length_map, hgs]
    rw [h, readGroups?_of_fields (fields_groupChars gs)
      (fun f hf => point_notMem_of_mem_groupFields hf) (by omega) (by omega)]
    exact groupsOfParts?_groupFields hgs
  · have hfields : fields ':' (groupChars high ++ ':' :: ':' :: groupChars low) =
        groupFields high ++ [] :: groupFields low := by
      rw [fields_append_cons, fields, if_pos rfl, fields_groupChars, fields_groupChars]
    have hparts : ∀ f ∈ groupFields high ++ [] :: groupFields low, '.' ∉ f := by
      intro f hf
      rw [List.mem_append, List.mem_cons] at hf
      rcases hf with hf | rfl | hf
      · exact point_notMem_of_mem_groupFields hf
      · simp
      · exact point_notMem_of_mem_groupFields hf
    have hhigh := List.length_pos_iff.mpr (groupFields_ne_nil high)
    have hlow := List.length_pos_iff.mpr (groupFields_ne_nil low)
    have hhigh' := length_groupFields_le high
    have hlow' := length_groupFields_le low
    have hlength : high.length + (n + 2 + low.length) = 8 := by
      rw [hsplit] at hgs
      simpa using hgs
    have hleast : 3 ≤ (groupFields high ++ [] :: groupFields low).length := by
      rw [List.length_append, List.length_cons]
      omega
    have hmost : (groupFields high ++ [] :: groupFields low).length ≤ 9 := by
      rw [List.length_append, List.length_cons]
      omega
    rw [h, readGroups?_of_fields hfields hparts hleast hmost, hsplit]
    exact groupsOfParts?_groupFields_gap hlength

theorem ofChars?_chars (s : Scope) : Scope.ofChars? s.chars = some s := by
  rw [Scope.ofChars?, dif_pos ⟨s.ne_nil, s.no_percent, s.no_slash⟩]

theorem read?_chars (a : V6) : read? a.chars = some a := by
  obtain ⟨groups, hgroups, scope⟩ := a
  have hpercent : '%' ∉ addressChars groups :=
    notMem_addressChars (by decide) (by decide) groups
  cases scope with
  | none =>
    rw [read?, chars, cutAt_of_notMem hpercent]
    simp only [Option.bind_eq_bind, Option.bind_some, readGroups?_addressChars hgroups]
    rw [ofGroups?, dif_pos hgroups]
  | some s =>
    rw [read?, chars, cutAt_append_cons hpercent]
    simp only [ofChars?_chars, Option.map_some, Option.bind_eq_bind, Option.bind_some,
      readGroups?_addressChars hgroups]
    rw [ofGroups?, dif_pos hgroups]

theorem colon_mem_addressChars {gs : List UInt16} (hgs : gs.length = 8) :
    ':' ∈ addressChars gs := by
  rcases addressChars_cases gs with h | ⟨high, low, n, -, h⟩
  · obtain ⟨a, b, rest, rfl⟩ : ∃ a b rest, gs = a :: b :: rest := by
      match gs, hgs with
      | a :: b :: rest, _ => exact ⟨a, b, rest, rfl⟩
    rw [h, groupChars, List.map_cons, List.map_cons, joined_cons_cons]
    simp
  · rw [h]
    simp

theorem colon_mem_chars (a : V6) : ':' ∈ a.chars := by
  have hcolon := colon_mem_addressChars a.length_groups
  rw [chars]
  split
  · exact List.mem_append_left _ hcolon
  · exact hcolon

theorem slash_notMem_chars (a : V6) : '/' ∉ a.chars := by
  have hslash : '/' ∉ addressChars a.groups := notMem_addressChars (by decide) (by decide) _
  rw [chars]
  split
  · next s _ =>
    rw [List.mem_append, List.mem_cons, not_or, not_or]
    exact ⟨hslash, by decide, s.no_slash⟩
  · exact hslash

theorem text_injective : Function.Injective text := text_injective_of_read? read?_chars

end V6

/-! ## Either family -/

namespace Address

/-- An address is read back from its text, scope and family included. -/
theorem read?_chars (a : Address) : read? a.chars = some a := by
  cases a with
  | v4 a => rw [read?, chars, V4.read?_chars]
  | v6 a =>
    have hv4 : V4.read? a.chars = none := V4.read?_eq_none_of_colon a.colon_mem_chars
    rw [read?, chars, hv4, V6.read?_chars, Option.map_some]

theorem text_injective : Function.Injective text := text_injective_of_read? read?_chars

end Address

end EndpointUpgrade.Net
