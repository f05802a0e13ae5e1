import EndpointUpgrade.Proofs.Net.Mac

/-!
# Spellings of hardware addresses

A text is read as a hardware address exactly if it spells six octets: two hexadecimal digits for
each, in either case, with colons or with hyphens between them, and at most one line feed at the end.
The canonical text has the same digits in small letters with colons, and it keeps the line feed. So
two spellings mean the same address if and only if their octets are equal up to the case of letters
and both or neither of them end in a line feed.
-/

namespace EndpointUpgrade.Net

open Text

/-! ## Hexadecimal digits -/

theorem isHexDigit_of_digitValue? {c : Char} {d : Nat} (h : digitValue? 16 c = some d) :
    isHexDigit c = true := by
  by_cases hdigit : '0' ≤ c ∧ c ≤ '9'
  · simp [isHexDigit, isDigit, hdigit]
  · by_cases hsmall : 'a' ≤ c ∧ c ≤ 'f'
    · simp [isHexDigit, hsmall]
    · by_cases hcapital : 'A' ≤ c ∧ c ≤ 'F'
      · simp [isHexDigit, hcapital]
      · simp [digitValue?, hdigit, hsmall, hcapital] at h

theorem toNat_lt_of_isHexDigit {c : Char} (h : isHexDigit c = true) : c.toNat < 103 := by
  have hle {d : Char} (hd : d.toNat < 103) (hcd : c ≤ d) : c.toNat < 103 := by
    have hcd : c.toNat ≤ d.toNat := hcd
    omega
  simp only [isHexDigit, isDigit, Bool.or_eq_true, Bool.and_eq_true, decide_eq_true_eq] at h
  rcases h with (⟨-, h⟩ | ⟨-, h⟩) | ⟨-, h⟩
  all_goals exact hle (by decide) h

theorem digitChar_of_isHexDigit_all : ∀ n < 103, isHexDigit (Char.ofNat n) = true →
    ∃ d < 16, digitValue? 16 (Char.ofNat n) = some d ∧
      digitChar d = (Char.ofNat n).toLower := by
  decide +kernel

/-- The digit of the value of a hexadecimal digit is the same one as a small letter. -/
theorem digitChar_of_isHexDigit {c : Char} (h : isHexDigit c = true) :
    ∃ d < 16, digitValue? 16 c = some d ∧ digitChar d = c.toLower := by
  have hall := digitChar_of_isHexDigit_all c.toNat (toNat_lt_of_isHexDigit h)
  rw [Char.ofNat_toNat] at hall
  exact hall h

/-! ## Octets -/

namespace Mac

def IsOctet (o : List Char) : Prop :=
  ∃ a b, o = [a, b] ∧ isHexDigit a = true ∧ isHexDigit b = true

/-- The same digits in small letters. -/
def small (octets : List (List Char)) : List (List Char) :=
  octets.map fun o => o.map Char.toLower

theorem octetChars_injective : Function.Injective octetChars := by
  intro a b h
  have hread := congrArg octet? h
  rw [octet?_octetChars, octet?_octetChars] at hread
  exact Option.some.inj hread

/-- An octet is read as the one that is written with the same digits in small letters. -/
theorem exists_octet? {o : List Char} (h : IsOctet o) :
    ∃ b, octet? o = some b ∧ octetChars b = o.map Char.toLower := by
  obtain ⟨x, y, rfl, hx, hy⟩ := h
  obtain ⟨high, hhigh, hxvalue, hxchar⟩ := digitChar_of_isHexDigit hx
  obtain ⟨low, hlow, hyvalue, hychar⟩ := digitChar_of_isHexDigit hy
  have hbyte : (UInt8.ofNat (high * 16 + low)).toNat = high * 16 + low :=
    UInt8.toNat_ofNat_of_lt' (Nat.lt_of_lt_of_le (by omega) (Nat.le_refl 256))
  refine ⟨UInt8.ofNat (high * 16 + low), ?_, ?_⟩
  · unfold octet?
    dsimp only
    rw [hxvalue, hyvalue]
    rfl
  · rw [octetChars, hbyte, show (high * 16 + low) / 16 = high by omega,
      show (high * 16 + low) % 16 = low by omega, hxchar, hychar]
    rfl

theorem isOctet_of_octet? {o : List Char} {b : UInt8} (h : octet? o = some b) : IsOctet o := by
  unfold octet? at h
  split at h
  · next x y =>
    obtain ⟨high, hhigh, h⟩ := Option.bind_eq_some_iff.mp h
    obtain ⟨low, hlow, -⟩ := Option.bind_eq_some_iff.mp h
    exact ⟨x, y, rfl, isHexDigit_of_digitValue? hhigh, isHexDigit_of_digitValue? hlow⟩
  · contradiction

theorem octet?_eq_some_iff {o : List Char} {b : UInt8} :
    octet? o = some b ↔ IsOctet o ∧ octetChars b = o.map Char.toLower := by
  constructor
  · intro h
    have hoctet := isOctet_of_octet? h
    obtain ⟨a, ha, hchars⟩ := exists_octet? hoctet
    rw [h] at ha
    exact ⟨hoctet, Option.some.inj ha ▸ hchars⟩
  · intro ⟨hoctet, hchars⟩
    obtain ⟨a, ha, hchars'⟩ := exists_octet? hoctet
    rw [ha, octetChars_injective (hchars.trans hchars'.symm)]

theorem mapM_octet?_eq_some_iff {os : List (List Char)} {bs : List UInt8} :
    os.mapM octet? = some bs ↔ (∀ o ∈ os, IsOctet o) ∧ bs.map octetChars = small os := by
  induction os generalizing bs with
  | nil => simp [small]
  | cons o os ih =>
    rw [List.mapM_cons, Option.bind_eq_bind, Option.bind_eq_some_iff, List.forall_mem_cons]
    constructor
    · intro ⟨b, hb, h⟩
      obtain ⟨rest, hrest, h⟩ := Option.bind_eq_some_iff.mp h
      obtain ⟨ho, hchars⟩ := octet?_eq_some_iff.mp hb
      obtain ⟨hos, hmore⟩ := ih.mp hrest
      rw [← Option.some.inj h]
      exact ⟨⟨ho, hos⟩, List.cons_eq_cons.mpr ⟨hchars, hmore⟩⟩
    · intro ⟨⟨ho, hos⟩, hsmall⟩
      cases bs with
      | nil => simp [small] at hsmall
      | cons b bs =>
        obtain ⟨hb, hbs⟩ := List.cons_eq_cons.mp hsmall
        refine ⟨b, octet?_eq_some_iff.mpr ⟨ho, hb⟩, ?_⟩
        rw [Option.bind_eq_bind, ih.mpr ⟨hos, hbs⟩]
        rfl

theorem exists_mapM_octet? {os : List (List Char)} (h : ∀ o ∈ os, IsOctet o) :
    ∃ bs, os.mapM octet? = some bs := by
  induction os with
  | nil => exact ⟨[], rfl⟩
  | cons o os ih =>
    rw [List.forall_mem_cons] at h
    obtain ⟨b, hb, -⟩ := exists_octet? h.1
    obtain ⟨bs, hbs⟩ := ih h.2
    rw [List.mapM_cons, hb, hbs]
    exact ⟨b :: bs, rfl⟩

/-! ## Spellings -/

structure IsOctets (octets : List (List Char)) : Prop where
  length : octets.length = 6
  digits : ∀ o ∈ octets, IsOctet o

/-- A line feed or nothing. -/
def ending (lineBreak : Bool) : List Char := if lineBreak then ['\n'] else []

/-- A text that spells six octets, with the same separator between each two of them, and has a line
feed behind them or not. -/
structure Spells (octets : List (List Char)) (lineBreak : Bool) (cs : List Char) : Prop where
  isOctets : IsOctets octets
  text : ∃ separator, (separator = ':' ∨ separator = '-') ∧
    cs = joined separator octets ++ ending lineBreak

/-- The canonical text of octets: in small letters and with colons. -/
def canonical (octets : List (List Char)) (lineBreak : Bool) : List Char :=
  joined ':' (small octets) ++ ending lineBreak

theorem notMem_of_isOctet {c : Char} (hc : isHexDigit c = false) {o : List Char}
    (h : IsOctet o) : c ∉ o := by
  obtain ⟨a, b, rfl, ha, hb⟩ := h
  intro hmem
  rcases List.mem_cons.mp hmem with rfl | hmem
  · exact absurd (hc.symm.trans ha) Bool.false_ne_true
  · rw [List.mem_singleton.mp hmem] at hc
    exact absurd (hc.symm.trans hb) Bool.false_ne_true

theorem notMem_joined {c separator : Char} (hc : isHexDigit c = false) (hne : c ≠ separator)
    {octets : List (List Char)} (h : IsOctets octets) : c ∉ joined separator octets := by
  intro hmem
  rcases mem_joined hmem with rfl | ⟨o, ho, hmem⟩
  · exact hne rfl
  · exact notMem_of_isOctet hc (h.digits o ho) hmem

/-- The separator is the third character. -/
theorem third_of_isOctets {separator : Char} {octets : List (List Char)} (h : IsOctets octets) :
    ((joined separator octets).drop 2).head? = some separator := by
  obtain ⟨hlength, hdigits⟩ := h
  match octets, hlength with
  | o :: p :: rest, _ =>
    obtain ⟨a, b, rfl, -, -⟩ := hdigits o List.mem_cons_self
    rw [joined_cons_cons]
    rfl

theorem readWith?_eq_some_iff {separator : Char} (hseparator : isHexDigit separator = false)
    {cs : List Char} {lineBreak : Bool} {m : Mac} :
    readWith? separator cs lineBreak = some m ↔
      ∃ octets, IsOctets octets ∧ cs = joined separator octets ∧
        m.octets.map octetChars = small octets ∧ m.lineBreak = lineBreak := by
  unfold readWith?
  rw [Option.bind_eq_bind, Option.bind_eq_some_iff]
  constructor
  · intro ⟨bs, hbs, h⟩
    obtain ⟨hdigits, hchars⟩ := mapM_octet?_eq_some_iff.mp hbs
    split at h
    · next hlength =>
      rw [← Option.some.inj h]
      have hfields : (fields separator cs).length = 6 := by
        rw [← hlength, ← List.length_map octetChars, hchars, small, List.length_map]
      exact ⟨fields separator cs, ⟨hfields, hdigits⟩, (joined_fields cs).symm, hchars, rfl⟩
    · contradiction
  · intro ⟨octets, hoctets, hcs, hchars, hbreak⟩
    have hne : octets ≠ [] := by
      intro hnil
      rw [hnil] at hoctets
      exact absurd hoctets.length (by decide)
    refine ⟨m.octets, ?_, ?_⟩
    · rw [hcs, fields_joined hne fun o ho => notMem_of_isOctet hseparator (hoctets.digits o ho)]
      exact mapM_octet?_eq_some_iff.mpr ⟨hoctets.digits, hchars⟩
    · rw [dif_pos m.length_octets, ← hbreak]
      rfl

/-- The line feed at the end is taken off, and the third character decides about the separator. -/
theorem exists_readWith? {cs : List Char} {m : Mac} (h : read? cs = some m) :
    ∃ body lineBreak separator, cs = body ++ ending lineBreak ∧
      (separator = ':' ∨ separator = '-') ∧ readWith? separator body lineBreak = some m := by
  have hending : ∃ body, cs = body ++ ending (decide (cs.getLast? = some '\n')) ∧
      (if cs.getLast? = some '\n' then cs.dropLast else cs) = body := by
    by_cases hlast : cs.getLast? = some '\n'
    · obtain ⟨body, rfl⟩ := List.getLast?_eq_some_iff.mp hlast
      exact ⟨body, by simp [ending], by simp⟩
    · exact ⟨cs, by simp [ending, hlast], if_neg hlast⟩
  obtain ⟨body, hcs, hbody⟩ := hending
  unfold read? at h
  dsimp only at h
  rw [hbody] at h
  split at h
  · exact ⟨body, _, ':', hcs, .inl rfl, h⟩
  · exact ⟨body, _, '-', hcs, .inr rfl, h⟩
  · contradiction

theorem read?_of_third {body : List Char} (h : '\n' ∉ body) {separator : Char}
    (hseparator : separator = ':' ∨ separator = '-')
    (hthird : (body.drop 2).head? = some separator) (lineBreak : Bool) :
    read? (body ++ ending lineBreak) = readWith? separator body lineBreak := by
  unfold read? ending
  cases lineBreak with
  | true =>
    rw [if_pos rfl, List.getLast?_concat]
    dsimp only
    rw [if_pos (by decide), List.dropLast_concat, hthird]
    rcases hseparator with rfl | rfl <;> rfl
  | false =>
    have hlast : body.getLast? ≠ some '\n' := fun hlast => h (List.mem_of_getLast? hlast)
    rw [if_neg Bool.false_ne_true, List.append_nil]
    dsimp only
    rw [if_neg hlast, hthird, decide_eq_false hlast]
    rcases hseparator with rfl | rfl <;> rfl

theorem isHexDigit_of_separator {separator : Char} (h : separator = ':' ∨ separator = '-') :
    isHexDigit separator = false := by
  rcases h with rfl | rfl <;> decide

theorem read?_eq_some_iff {cs : List Char} {m : Mac} :
    read? cs = some m ↔ ∃ octets, Spells octets m.lineBreak cs ∧
      m.octets.map octetChars = small octets := by
  constructor
  · intro h
    obtain ⟨body, lineBreak, separator, hcs, hseparator, hread⟩ := exists_readWith? h
    obtain ⟨octets, hoctets, hbody, hchars, hbreak⟩ :=
      (readWith?_eq_some_iff (isHexDigit_of_separator hseparator)).mp hread
    exact ⟨octets, ⟨hoctets, separator, hseparator, by rw [hcs, hbody, hbreak]⟩, hchars⟩
  · intro ⟨octets, ⟨hoctets, separator, hseparator, hcs⟩, hchars⟩
    have hne : '\n' ≠ separator := by rcases hseparator with rfl | rfl <;> decide
    rw [hcs, read?_of_third (notMem_joined (by decide) hne hoctets) hseparator
      (third_of_isOctets hoctets)]
    exact (readWith?_eq_some_iff (isHexDigit_of_separator hseparator)).mpr
      ⟨octets, hoctets, rfl, hchars, rfl⟩

theorem length_joined (separator : Char) {os : List (List Char)} (hne : os ≠ [])
    (h : ∀ o ∈ os, o.length = 2) : (joined separator os).length + 1 = 3 * os.length := by
  induction os with
  | nil => exact absurd rfl hne
  | cons o os ih =>
    rw [List.forall_mem_cons] at h
    cases os with
    | nil => rw [joined_singleton, h.1, List.length_singleton]
    | cons p ps =>
      have hrest := ih (List.cons_ne_nil p ps) h.2
      rw [joined_cons_cons, List.length_append, h.1, List.length_cons, List.length_cons]
      omega

theorem length_canonical {octets : List (List Char)} (h : IsOctets octets) (lineBreak : Bool) :
    (canonical octets lineBreak).length = if lineBreak then 18 else 17 := by
  have hlength : (small octets).length = 6 := by rw [small, List.length_map, h.length]
  have hpairs : ∀ o ∈ small octets, o.length = 2 := by
    intro o ho
    obtain ⟨p, hp, rfl⟩ := List.mem_map.mp ho
    obtain ⟨a, b, rfl, -, -⟩ := h.digits p hp
    rfl
  have hjoined := length_joined ':' (List.ne_nil_of_length_eq_add_one hlength) hpairs
  rw [canonical, List.length_append]
  cases lineBreak with
  | true =>
    rw [ending, if_pos rfl, if_pos rfl, List.length_singleton]
    omega
  | false =>
    rw [ending, if_neg Bool.false_ne_true, if_neg Bool.false_ne_true, List.length_nil]
    omega

theorem chars_of_small {m : Mac} {octets : List (List Char)}
    (h : m.octets.map octetChars = small octets) : m.chars = canonical octets m.lineBreak := by
  rw [chars, h]
  rfl

end Mac

open Mac

/-! ## Normal forms -/

variable {s t : String} {m : Mac}

theorem normalizeMac_eq_ok_some_iff :
    normalizeMac (some s) = .ok (some m) ↔ read? s.toList = some m := by
  unfold normalizeMac
  dsimp only
  by_cases hs : s = ""
  · subst hs
    exact iff_of_false (by simp) (by simp [read?])
  · rw [if_neg hs]
    cases read? s.toList with
    | none => simp
    | some n => simp

theorem normalizeMac_eq_ok_none_iff : normalizeMac (some s) = .ok none ↔ s = "" := by
  unfold normalizeMac
  dsimp only
  by_cases hs : s = ""
  · simp [hs]
  · rw [if_neg hs]
    cases read? s.toList with
    | none => simp [hs]
    | some n => simp [hs]

/-- What a spelling is read as. -/
theorem exists_normalizeMac_of_spells {octets : List (List Char)} {lineBreak : Bool}
    (h : Spells octets lineBreak s.toList) :
    ∃ m, normalizeMac (some s) = .ok (some m) ∧ m.octets.map octetChars = small octets ∧
      m.lineBreak = lineBreak := by
  obtain ⟨bs, hbs⟩ := exists_mapM_octet? h.isOctets.digits
  obtain ⟨-, hchars⟩ := mapM_octet?_eq_some_iff.mp hbs
  have hlength : bs.length = 6 := by
    rw [← List.length_map octetChars, hchars, small, List.length_map, h.isOctets.length]
  refine ⟨⟨bs, hlength, lineBreak⟩, ?_, hchars, rfl⟩
  exact normalizeMac_eq_ok_some_iff.mpr (read?_eq_some_iff.mpr ⟨octets, h, hchars⟩)

theorem normalizeMac_eq_iff_of_spells {os ps : List (List Char)} {a b : Bool}
    (hs : Spells os a s.toList) (ht : Spells ps b t.toList) :
    normalizeMac (some s) = normalizeMac (some t) ↔ small os = small ps ∧ a = b := by
  obtain ⟨m, hm, hmchars, rfl⟩ := exists_normalizeMac_of_spells hs
  obtain ⟨n, hn, hnchars, rfl⟩ := exists_normalizeMac_of_spells ht
  rw [hm, hn, ← hmchars, ← hnchars, List.map_inj_right octetChars_injective]
  constructor
  · intro h
    obtain rfl := Option.some.inj (Except.ok.inj h)
    exact ⟨rfl, rfl⟩
  · intro ⟨hoctets, hbreak⟩
    obtain ⟨octets, _, lineBreak⟩ := m
    obtain ⟨_, _, _⟩ := n
    dsimp only at hoctets hbreak
    subst hoctets hbreak
    rfl

theorem normalizeMac_isOk_iff : (∃ r, normalizeMac (some s) = .ok r) ↔
    s = "" ∨ ∃ octets lineBreak, Spells octets lineBreak s.toList := by
  constructor
  · rintro ⟨_ | m, h⟩
    · exact .inl (normalizeMac_eq_ok_none_iff.mp h)
    · obtain ⟨octets, hspells, -⟩ := read?_eq_some_iff.mp (normalizeMac_eq_ok_some_iff.mp h)
      exact .inr ⟨octets, m.lineBreak, hspells⟩
  · rintro (rfl | ⟨octets, lineBreak, h⟩)
    · exact ⟨none, normalizeMac_eq_ok_none_iff.mpr rfl⟩
    · obtain ⟨m, hm, -⟩ := exists_normalizeMac_of_spells h
      exact ⟨some m, hm⟩

theorem ne_empty_of_spells {octets : List (List Char)} {lineBreak : Bool}
    (h : Spells octets lineBreak s.toList) : s ≠ "" := by
  intro hs
  obtain ⟨m, hm, -⟩ := exists_normalizeMac_of_spells h
  rw [normalizeMac_eq_ok_none_iff.mpr hs] at hm
  exact absurd (Except.ok.inj hm) (Option.some_ne_none m).symm

theorem lineBreak_eq_of_spells {os ps : List (List Char)} {a b : Bool}
    (ha : Spells os a s.toList) (hb : Spells ps b s.toList) : a = b :=
  ((normalizeMac_eq_iff_of_spells ha hb).mp rfl).2

/-- To be empty or to spell six octets alone decides about a text, unless it spells six octets with
a line feed behind them. -/
theorem normalizeMac_isOk_iff_alone : ((∃ r, normalizeMac (some s) = .ok r) ↔
      s = "" ∨ ∃ octets, Spells octets false s.toList) ↔
    ¬∃ octets, Spells octets true s.toList := by
  rw [normalizeMac_isOk_iff]
  constructor
  · intro h ⟨octets, hspells⟩
    rcases h.mp (.inr ⟨octets, true, hspells⟩) with hs | ⟨alone, halone⟩
    · exact ne_empty_of_spells hspells hs
    · exact Bool.false_ne_true (lineBreak_eq_of_spells halone hspells)
  · intro h
    constructor
    · rintro (hs | ⟨octets, _ | _, hspells⟩)
      · exact .inl hs
      · exact .inr ⟨octets, hspells⟩
      · exact absurd ⟨octets, hspells⟩ h
    · rintro (hs | ⟨octets, hspells⟩)
      · exact .inl hs
      · exact .inr ⟨octets, false, hspells⟩

/-- A text is accepted exactly if it is empty or spells six octets, with or without a line feed
behind them; if it has none, this is to spell six octets alone. Then what it is read as has a text
of seventeen characters, the octets in small letters with colons; a line feed is the eighteenth. Two
spellings are read as the same address exactly if their octets are equal up to the case of letters
and both or neither have the line feed, and the text of an address is read as that address. -/
theorem normalizeMac_spellings (s : String) :
    (((∃ r, normalizeMac (some s) = .ok r) ↔ s = "" ∨ ∃ octets, Spells octets false s.toList) ↔
        ¬∃ octets, Spells octets true s.toList) ∧
      ((∃ r, normalizeMac (some s) = .ok r) ↔
        s = "" ∨ ∃ octets lineBreak, Spells octets lineBreak s.toList) ∧
      (normalizeMac (some s) = .ok none ↔ s = "") ∧
      (∀ octets lineBreak, Spells octets lineBreak s.toList →
        ∃ m, normalizeMac (some s) = .ok (some m) ∧ m.text.toList = canonical octets lineBreak ∧
          m.text.length = if lineBreak then 18 else 17) ∧
      (∀ t os ps a b, Spells os a s.toList → Spells ps b t.toList →
        (normalizeMac (some s) = normalizeMac (some t) ↔ small os = small ps ∧ a = b)) ∧
      (∀ m, normalizeMac (some s) = .ok (some m) → normalizeMac (some m.text) = .ok (some m)) := by
  refine ⟨normalizeMac_isOk_iff_alone, normalizeMac_isOk_iff, normalizeMac_eq_ok_none_iff, ?_, ?_,
    ?_⟩
  · intro octets lineBreak h
    obtain ⟨m, hm, hchars, rfl⟩ := exists_normalizeMac_of_spells h
    have htext : m.text.toList = canonical octets m.lineBreak := by
      rw [text, String.toList_ofList, chars_of_small hchars]
    refine ⟨m, hm, htext, ?_⟩
    rw [← String.length_toList, htext, length_canonical h.isOctets]
  · exact fun t os ps a b hs ht => normalizeMac_eq_iff_of_spells hs ht
  · intro m _
    rw [normalizeMac_eq_ok_some_iff, text, String.toList_ofList, read?_chars]

/-- A line feed behind the last octet is accepted and kept, although the text is no spelling of six
octets alone. -/
theorem normalizeMac_lineFeed :
    ∃ m, normalizeMac (some "02:42:7d:c6:f0:80\n") = .ok (some m) ∧
      m.text = "02:42:7d:c6:f0:80\n" ∧ m.text.length = 18 ∧
      ¬∃ octets, Spells octets false "02:42:7d:c6:f0:80\n".toList := by
  refine ⟨⟨[0x02, 0x42, 0x7d, 0xc6, 0xf0, 0x80], rfl, true⟩, ?_, by decide, by decide, ?_⟩
  · exact normalizeMac_eq_ok_some_iff.mpr (by decide)
  · rintro ⟨octets, hoctets, separator, hseparator, htext⟩
    have hne : '\n' ≠ separator := by rcases hseparator with rfl | rfl <;> decide
    apply notMem_joined (by decide) hne hoctets
    rw [ending, if_neg Bool.false_ne_true, List.append_nil] at htext
    rw [← htext]
    decide

end EndpointUpgrade.Net
