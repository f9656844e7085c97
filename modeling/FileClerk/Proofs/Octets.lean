import Mathlib.Tactic.SplitIfs
import FileClerk.Text.Utf8

/-!
# Octets of a text read back

Whatever a text is written as in octets is read back as that text (`decodeLossy_encode`): the first
octet of a character opens it with the bits it carries, and each octet after it adds six more, the
last one making it whole. The other way round, octets that are read as characters throughout are
the ones these are written as (`decode?_eq_some_iff`): no character has a second spelling.
-/

namespace FileClerk

namespace Utf8

variable {b : UInt8} {rest : Bytes} {u : Unfinished}

theorem scan_single {c : Char} (h : lead b = .single c) :
    scan none (b :: rest) = some c :: scan none rest := by
  simp [scan, step, start, h]

theorem scan_opens (h : lead b = .opens u) : scan none (b :: rest) = scan (some u) rest := by
  simp [scan, step, start, h]

theorem scan_continues (hlow : u.low ≤ b.toNat) (hhigh : b.toNat ≤ u.high) (howed : 1 < u.owed) :
    scan (some u) (b :: rest)
      = scan (some ⟨u.bits * 0x40 + (b.toNat - 0x80), u.owed - 1, 0x80, 0xBF⟩) rest := by
  simp only [scan, step, if_pos (And.intro hlow hhigh), if_neg (Nat.not_le.2 howed)]
  rfl

theorem scan_finishes (hlow : u.low ≤ b.toNat) (hhigh : b.toNat ≤ u.high) (howed : u.owed ≤ 1) :
    scan (some u) (b :: rest)
      = some (Char.ofNat (u.bits * 0x40 + (b.toNat - 0x80))) :: scan none rest := by
  simp only [scan, step, if_pos (And.intro hlow hhigh), if_pos howed]
  rfl

theorem lead_of_lt_80 (h : b.toNat < 0x80) : lead b = .single (Char.ofNat b.toNat) := if_pos h

theorem lead_of_lt_E0 (hlow : 0xC2 ≤ b.toNat) (hhigh : b.toNat < 0xE0) :
    lead b = .opens ⟨b.toNat - 0xC0, 1, 0x80, 0xBF⟩ := by
  simp only [lead, if_neg (show ¬ b.toNat < 0x80 by omega),
    if_neg (show ¬ b.toNat < 0xC2 by omega), if_pos hhigh]

/-- The second octet of three must not make the character shorter, nor one half of a pair. -/
theorem lead_of_lt_F0 (hlow : 0xE0 ≤ b.toNat) (hhigh : b.toNat < 0xF0) :
    lead b = .opens ⟨b.toNat - 0xE0, 2, if b.toNat = 0xE0 then 0xA0 else 0x80,
      if b.toNat = 0xED then 0x9F else 0xBF⟩ := by
  simp only [lead, if_neg (show ¬ b.toNat < 0x80 by omega),
    if_neg (show ¬ b.toNat < 0xC2 by omega), if_neg (show ¬ b.toNat < 0xE0 by omega), if_pos hhigh]
  by_cases h₁ : b.toNat = 0xE0
  · rw [if_pos h₁, if_pos h₁, if_neg (by omega), h₁]
  by_cases h₂ : b.toNat = 0xED
  · rw [if_neg h₁, if_pos h₂, if_neg h₁, if_pos h₂, h₂]
  · rw [if_neg h₁, if_neg h₂, if_neg h₁, if_neg h₂]

theorem lead_of_le_F4 (hlow : 0xF0 ≤ b.toNat) (hhigh : b.toNat ≤ 0xF4) :
    lead b = .opens ⟨b.toNat - 0xF0, 3, if b.toNat = 0xF0 then 0x90 else 0x80,
      if b.toNat = 0xF4 then 0x8F else 0xBF⟩ := by
  simp only [lead, if_neg (show ¬ b.toNat < 0x80 by omega),
    if_neg (show ¬ b.toNat < 0xC2 by omega), if_neg (show ¬ b.toNat < 0xE0 by omega),
    if_neg (show ¬ b.toNat = 0xE0 by omega), if_neg (show ¬ b.toNat = 0xED by omega),
    if_neg (show ¬ b.toNat < 0xF0 by omega)]
  by_cases h₁ : b.toNat = 0xF0
  · rw [if_pos h₁, if_pos h₁, if_neg (by omega), h₁]
  by_cases h₂ : b.toNat = 0xF4
  · rw [if_neg h₁, if_neg (by omega), if_pos h₂, if_neg h₁, if_pos h₂, h₂]
  · rw [if_neg h₁, if_pos (by omega), if_neg h₁, if_neg h₂]

theorem toNat_toUInt8 {n : Nat} (h : n < 0x100) : n.toUInt8.toNat = n := by
  simpa using Nat.mod_eq_of_lt h

theorem scan_encodeChar (c : Char) (rest : Bytes) :
    scan none (encodeChar c ++ rest) = some c :: scan none rest := by
  have hvalid : c.toNat < 0xD800 ∨ 0xDFFF < c.toNat ∧ c.toNat < 0x110000 := c.valid
  have hwhole : ∀ n, n = c.toNat → Char.ofNat n = c := fun n h => h ▸ Char.ofNat_toNat c
  simp only [encodeChar]
  split_ifs with h₁ h₂ h₃
  · have ha := toNat_toUInt8 (n := c.toNat) (by omega)
    rw [List.singleton_append, scan_single (lead_of_lt_80 (by omega)), hwhole _ ha]
  · have ha := toNat_toUInt8 (n := 0xC0 + c.toNat / 0x40) (by omega)
    have hb := toNat_toUInt8 (n := 0x80 + c.toNat % 0x40) (by omega)
    simp only [List.cons_append, List.nil_append]
    rw [scan_opens (lead_of_lt_E0 (by omega) (by omega)),
      scan_finishes (by dsimp only; omega) (by dsimp only; omega) (by simp), hwhole]
    dsimp only
    omega
  · have ha := toNat_toUInt8 (n := 0xE0 + c.toNat / 0x1000) (by omega)
    have hb := toNat_toUInt8 (n := 0x80 + c.toNat / 0x40 % 0x40) (by omega)
    have hc := toNat_toUInt8 (n := 0x80 + c.toNat % 0x40) (by omega)
    simp only [List.cons_append, List.nil_append]
    rw [scan_opens (lead_of_lt_F0 (by omega) (by omega)),
      scan_continues (by dsimp only; split_ifs <;> omega) (by dsimp only; split_ifs <;> omega)
        (by simp),
      scan_finishes (by dsimp only; omega) (by dsimp only; omega) (by simp), hwhole]
    dsimp only
    omega
  · have ha := toNat_toUInt8 (n := 0xF0 + c.toNat / 0x40000) (by omega)
    have hb := toNat_toUInt8 (n := 0x80 + c.toNat / 0x1000 % 0x40) (by omega)
    have hc := toNat_toUInt8 (n := 0x80 + c.toNat / 0x40 % 0x40) (by omega)
    have hd := toNat_toUInt8 (n := 0x80 + c.toNat % 0x40) (by omega)
    simp only [List.cons_append, List.nil_append]
    rw [scan_opens (lead_of_le_F4 (by omega) (by omega)),
      scan_continues (by dsimp only; split_ifs <;> omega) (by dsimp only; split_ifs <;> omega)
        (by simp),
      scan_continues (by dsimp only; omega) (by dsimp only; omega) (by simp),
      scan_finishes (by dsimp only; omega) (by dsimp only; omega) (by simp), hwhole]
    dsimp only
    omega

theorem scan_encode : ∀ s : Text, scan none (encode s) = s.map some
  | [] => rfl
  | c :: s => by
    have hcons : encode (c :: s) = encodeChar c ++ encode s := rfl
    rw [hcons, scan_encodeChar, scan_encode s, List.map_cons]

theorem decodeLossy_encode (s : Text) : decodeLossy (encode s) = s := by
  simp [decodeLossy, scan_encode, Function.comp_def]

theorem encode_injective : Function.Injective encode :=
  Function.LeftInverse.injective decodeLossy_encode

section Spelling

variable {c d e : UInt8}

theorem lead_eq_stray (h : 0x80 ≤ b.toNat ∧ b.toNat < 0xC2 ∨ 0xF4 < b.toNat) : lead b = .stray := by
  unfold lead
  dsimp only
  split_ifs <;> first | rfl | (exfalso; omega)

theorem none_cons_ne_map_some {entries : List (Option Char)} {s : Text} :
    none :: entries ≠ s.map some := by
  cases s <;> simp

/-- An unfinished character that is not malformed has an octet to go on with. -/
theorem exists_of_scan_some {bytes : Bytes} {s : Text} (h : scan (some u) bytes = s.map some) :
    ∃ b rest, bytes = b :: rest ∧ u.low ≤ b.toNat ∧ b.toNat ≤ u.high := by
  cases bytes with
  | nil => exact absurd h none_cons_ne_map_some
  | cons b rest =>
    refine ⟨b, rest, rfl, Decidable.byContradiction fun hout => ?_⟩
    simp only [scan, step, if_neg hout] at h
    exact none_cons_ne_map_some h

theorem toUInt8_eq {n : Nat} (h : n = b.toNat) : n.toUInt8 = b := h ▸ UInt8.ofNat_toNat

theorem toNat_ofNat_of_valid {n : Nat} (h : n.isValidChar) : (Char.ofNat n).toNat = n := by
  rw [Char.ofNat, dif_pos h]
  rfl

theorem encodeChar_single (h : b.toNat < 0x80) : encodeChar (Char.ofNat b.toNat) = [b] := by
  rw [encodeChar, toNat_ofNat_of_valid (.inl (by omega)), if_pos h, toUInt8_eq rfl]

theorem encodeChar_pair (hb : 0xC2 ≤ b.toNat ∧ b.toNat < 0xE0)
    (hc : 0x80 ≤ c.toNat ∧ c.toNat ≤ 0xBF) :
    encodeChar (Char.ofNat ((b.toNat - 0xC0) * 0x40 + (c.toNat - 0x80))) = [b, c] := by
  generalize hn : (b.toNat - 0xC0) * 0x40 + (c.toNat - 0x80) = n
  rw [encodeChar, toNat_ofNat_of_valid (.inl (by omega)), if_neg (by omega), if_pos (by omega),
    toUInt8_eq (b := b) (by omega), toUInt8_eq (b := c) (by omega)]

theorem encodeChar_triple (hb : 0xE0 ≤ b.toNat ∧ b.toNat < 0xF0)
    (hc : (if b.toNat = 0xE0 then 0xA0 else 0x80) ≤ c.toNat
      ∧ c.toNat ≤ if b.toNat = 0xED then 0x9F else 0xBF)
    (hd : 0x80 ≤ d.toNat ∧ d.toNat ≤ 0xBF) :
    encodeChar (Char.ofNat (((b.toNat - 0xE0) * 0x40 + (c.toNat - 0x80)) * 0x40
      + (d.toNat - 0x80))) = [b, c, d] := by
  have hc' : 0x80 ≤ c.toNat ∧ c.toNat ≤ 0xBF ∧ (b.toNat = 0xE0 → 0xA0 ≤ c.toNat)
      ∧ (b.toNat = 0xED → c.toNat ≤ 0x9F) := by
    split_ifs at hc <;> omega
  generalize hn : ((b.toNat - 0xE0) * 0x40 + (c.toNat - 0x80)) * 0x40 + (d.toNat - 0x80) = n
  have hvalid : n < 0xD800 ∨ 0xDFFF < n ∧ n < 0x110000 := by omega
  rw [encodeChar, toNat_ofNat_of_valid hvalid, if_neg (by omega), if_neg (by omega),
    if_pos (by omega), toUInt8_eq (b := b) (by omega), toUInt8_eq (b := c) (by omega),
    toUInt8_eq (b := d) (by omega)]

theorem encodeChar_quadruple (hb : 0xF0 ≤ b.toNat ∧ b.toNat ≤ 0xF4)
    (hc : (if b.toNat = 0xF0 then 0x90 else 0x80) ≤ c.toNat
      ∧ c.toNat ≤ if b.toNat = 0xF4 then 0x8F else 0xBF)
    (hd : 0x80 ≤ d.toNat ∧ d.toNat ≤ 0xBF) (he : 0x80 ≤ e.toNat ∧ e.toNat ≤ 0xBF) :
    encodeChar (Char.ofNat ((((b.toNat - 0xF0) * 0x40 + (c.toNat - 0x80)) * 0x40
      + (d.toNat - 0x80)) * 0x40 + (e.toNat - 0x80))) = [b, c, d, e] := by
  have hc' : 0x80 ≤ c.toNat ∧ c.toNat ≤ 0xBF ∧ (b.toNat = 0xF0 → 0x90 ≤ c.toNat)
      ∧ (b.toNat = 0xF4 → c.toNat ≤ 0x8F) := by
    split_ifs at hc <;> omega
  generalize hn : (((b.toNat - 0xF0) * 0x40 + (c.toNat - 0x80)) * 0x40 + (d.toNat - 0x80)) * 0x40
    + (e.toNat - 0x80) = n
  have hvalid : n < 0xD800 ∨ 0xDFFF < n ∧ n < 0x110000 := by omega
  rw [encodeChar, toNat_ofNat_of_valid hvalid, if_neg (by omega), if_neg (by omega),
    if_neg (by omega), toUInt8_eq (b := b) (by omega), toUInt8_eq (b := c) (by omega),
    toUInt8_eq (b := d) (by omega), toUInt8_eq (b := e) (by omega)]

/-- Octets that are read as characters throughout are what these are written as. -/
theorem eq_encode_of_scan : ∀ (bytes : Bytes) {s : Text}, scan none bytes = s.map some →
    bytes = encode s
  | [], s, h => by
    obtain rfl : s = [] := by simpa [scan] using h.symm
    rfl
  | b :: rest, s, h => by
    have hread : ∀ (first : Bytes) {last : Bytes} {ch : Char}, rest = first ++ last →
        some ch :: scan none last = s.map some → encodeChar ch = b :: first →
        b :: rest = encode s := by
      intro first last ch hrest hscan hch
      cases s with
      | nil => cases hscan
      | cons ch' s =>
        obtain ⟨hch', hlast⟩ := List.cons.inj hscan
        obtain rfl := Option.some.inj hch'
        have hlast : last = encode s := eq_encode_of_scan last hlast
        rw [encode, List.flatMap_cons, hch, List.cons_append, hrest, hlast]
        rfl
    by_cases hsingle : b.toNat < 0x80
    · rw [scan_single (lead_of_lt_80 hsingle)] at h
      exact hread [] rfl h (encodeChar_single hsingle)
    by_cases hstray : b.toNat < 0xC2 ∨ 0xF4 < b.toNat
    · simp only [scan, step, start, lead_eq_stray (b := b) (by omega)] at h
      exact absurd h none_cons_ne_map_some
    by_cases hpair : b.toNat < 0xE0
    · rw [scan_opens (lead_of_lt_E0 (by omega) hpair)] at h
      obtain ⟨c, last, rfl, hc⟩ := exists_of_scan_some h
      rw [scan_finishes hc.1 hc.2 (Nat.le_refl 1)] at h
      exact hread [c] rfl h (encodeChar_pair ⟨by omega, hpair⟩ hc)
    by_cases htriple : b.toNat < 0xF0
    · rw [scan_opens (lead_of_lt_F0 (by omega) htriple)] at h
      obtain ⟨c, last, rfl, hc⟩ := exists_of_scan_some h
      rw [scan_continues hc.1 hc.2 (by simp)] at h
      obtain ⟨d, last, rfl, hd⟩ := exists_of_scan_some h
      rw [scan_finishes hd.1 hd.2 (Nat.le_refl 1)] at h
      exact hread [c, d] rfl h (encodeChar_triple ⟨by omega, htriple⟩ hc hd)
    · rw [scan_opens (lead_of_le_F4 (by omega) (by omega))] at h
      obtain ⟨c, last, rfl, hc⟩ := exists_of_scan_some h
      rw [scan_continues hc.1 hc.2 (by simp)] at h
      obtain ⟨d, last, rfl, hd⟩ := exists_of_scan_some h
      rw [scan_continues hd.1 hd.2 (by simp)] at h
      obtain ⟨e, last, rfl, he⟩ := exists_of_scan_some h
      rw [scan_finishes he.1 he.2 (Nat.le_refl 1)] at h
      exact hread [c, d, e] rfl h
        (encodeChar_quadruple ⟨by omega, by omega⟩ hc hd he)
termination_by bytes => bytes.length
decreasing_by
  subst hrest
  rw [List.length_cons, List.length_append]
  omega

/-- The octets that spell a text are those it is written as. -/
theorem decode?_eq_some_iff {bytes : Bytes} {s : Text} :
    decode? bytes = some s ↔ bytes = encode s := by
  constructor
  · intro h
    unfold decode? at h
    split_ifs at h with hall
    obtain rfl := Option.some.inj h
    refine eq_encode_of_scan bytes ?_
    have hentries : ∀ entry ∈ scan none bytes, id entry = some (entry.getD replacement) := by
      intro entry hentry
      obtain ⟨ch, rfl⟩ := Option.isSome_iff_exists.1 (List.all_eq_true.1 hall entry hentry)
      rfl
    rw [decodeLossy, List.map_map]
    exact (List.map_id _).symm.trans (List.map_congr_left hentries)
  · rintro rfl
    have hall : (scan none (encode s)).all Option.isSome := by
      simp [scan_encode]
    rw [decode?, if_pos hall, decodeLossy_encode]

end Spelling

end Utf8

end FileClerk
