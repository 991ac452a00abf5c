import Mathlib
import SecretScan.Text.Utf8

/-!
# Bytes and characters

A text has no more characters than bytes, also if faults among the bytes are shown as characters.
Strict decoding reads the bytes of a text, and no others, as this text (`Utf8.decode_eq_ok_iff`).
-/

namespace SecretScan.Utf8

theorem size_append (cs ds : List Char) : size (cs ++ ds) = size cs + size ds := by
  simp only [size, List.map_append, ← List.sum_eq_foldr, List.sum_append]

theorem length_le_size (cs : List Char) : cs.length ≤ size cs := by
  induction cs with
  | nil => exact le_rfl
  | cons c cs ih =>
    show cs.length + 1 ≤ c.utf8Size + size cs
    have := c.utf8Size_pos
    omega

/-- A piece takes a byte at least, and the pending bytes may become one more piece. -/
theorem length_piecesFrom_le (pending : Option Pending) (bytes : Bytes) :
    (piecesFrom pending bytes).length ≤ bytes.length + pending.toList.length := by
  induction bytes generalizing pending with
  | nil =>
    cases pending <;> simp [piecesFrom]
  | cons b rest ih =>
    have hnone := ih none
    cases pending with
    | none =>
      rw [piecesFrom]
      cases lead b with
      | inl piece => simpa using hnone
      | inr next => simpa using ih (some next)
    | some p =>
      rw [piecesFrom]
      rcases p.push b with _ | ⟨piece | next⟩
      · -- the byte breaks off the pending character and is looked at once more
        cases lead b with
        | inl piece => simp at hnone ⊢; omega
        | inr next =>
          have := ih (some next)
          simp at this ⊢
          omega
      · simp at hnone ⊢; omega
      · have := ih (some next)
        simp at this ⊢
        omega

theorem length_decodeLossy_le (bytes : Bytes) : (decodeLossy bytes).length ≤ bytes.length := by
  rw [decodeLossy, List.length_map]
  exact length_piecesFrom_le none bytes

/-! ## Bytes of a character

A first byte says how many bytes follow.  What is read back of them is the character of which they
are the bytes, and no other bytes are read as this character. -/

theorem lead_one {b : UInt8} (h : b.toNat < 0x80) :
    lead b = .inl (.char (Char.ofNat b.toNat)) := by
  unfold lead
  rw [if_pos (UInt8.lt_iff_toNat_lt.mpr h)]

theorem lead_two {b : UInt8} (hlo : 0xc2 ≤ b.toNat) (hhi : b.toNat < 0xe0) :
    lead b = .inr ⟨1, b.toNat - 0xc0, 1, 0x80, 0xbf⟩ := by
  have h : ¬ b.toNat < 0x80 := by omega
  unfold lead
  simp only [UInt8.lt_iff_toNat_lt]
  simp [h, hlo, hhi]

theorem lead_three {b : UInt8} (hlo : 0xe0 ≤ b.toNat) (hhi : b.toNat < 0xf0) :
    lead b = .inr ⟨1, b.toNat - 0xe0, 2, if b = 0xe0 then 0xa0 else 0x80,
      if b = 0xed then 0x9f else 0xbf⟩ := by
  have h : ¬ b.toNat < 0x80 ∧ ¬ b.toNat < 0xc2 ∧ ¬ b.toNat < 0xe0 := by omega
  unfold lead
  simp only [UInt8.lt_iff_toNat_lt]
  simp [h, hhi]

theorem lead_four {b : UInt8} (hlo : 0xf0 ≤ b.toNat) (hhi : b.toNat < 0xf5) :
    lead b = .inr ⟨1, b.toNat - 0xf0, 3, if b = 0xf0 then 0x90 else 0x80,
      if b = 0xf4 then 0x8f else 0xbf⟩ := by
  have h : ¬ b.toNat < 0x80 ∧ ¬ b.toNat < 0xc2 ∧ ¬ b.toNat < 0xe0 ∧ ¬ b.toNat < 0xf0 := by omega
  unfold lead
  simp only [UInt8.lt_iff_toNat_lt]
  simp [h, hhi]

theorem lead_invalid {b : UInt8} (hascii : 0x80 ≤ b.toNat)
    (h : b.toNat < 0xc2 ∨ 0xf5 ≤ b.toNat) : lead b = .inl (.invalid 1) := by
  have hascii' : ¬ b.toNat < 0x80 := by omega
  unfold lead
  simp only [UInt8.lt_iff_toNat_lt]
  rcases h with hlow | hhigh
  · simp [hascii', hlow]
  · have h : ¬ b.toNat < 0xc2 ∧ ¬ b.toNat < 0xe0 ∧ ¬ b.toNat < 0xf0 ∧ ¬ b.toNat < 0xf5 := by omega
    simp [hascii', h]

-- the bounds of a second byte depend on the first one
theorem toNat_ite (b k x y : UInt8) :
    (if b = k then x else y).toNat = if b.toNat = k.toNat then x.toNat else y.toNat := by
  rw [apply_ite UInt8.toNat]
  exact if_congr UInt8.toNat_inj.symm rfl rfl

theorem push_eq_none {p : Pending} {b : UInt8}
    (h : ¬ (p.lo.toNat ≤ b.toNat ∧ b.toNat ≤ p.hi.toNat)) : p.push b = none := by
  unfold Pending.push
  rw [if_neg (by simpa [UInt8.le_iff_toNat_le] using h)]

section

variable {p : Pending} {b : UInt8} (hlo : p.lo.toNat ≤ b.toNat) (hhi : b.toNat ≤ p.hi.toNat)
include hlo hhi

theorem push_last (hmissing : p.missing = 1) :
    p.push b = some (.inl (.char (Char.ofNat (p.value * 64 + b.toNat % 64)))) := by
  unfold Pending.push
  rw [if_pos (by simpa [UInt8.le_iff_toNat_le] using ⟨hlo, hhi⟩), if_pos hmissing.le]

theorem push_inner (hmissing : 1 < p.missing) : p.push b =
    some (.inr ⟨p.taken + 1, p.value * 64 + b.toNat % 64, p.missing - 1, 0x80, 0xbf⟩) := by
  unfold Pending.push
  rw [if_pos (by simpa [UInt8.le_iff_toNat_le] using ⟨hlo, hhi⟩),
    if_neg (Nat.not_le.mpr hmissing)]

end

theorem toNat_ofNat_of_lt {n : Nat} (h : n < 256) : (UInt8.ofNat n).toNat = n := by
  rw [UInt8.toNat_ofNat']
  exact Nat.mod_eq_of_lt h

theorem piecesFrom_encodeChar (c : Char) (rest : Bytes) :
    piecesFrom none (String.utf8EncodeChar c ++ rest) = .char c :: piecesFrom none rest := by
  have hvalid : c.val.toNat < 0xd800 ∨ 0xdfff < c.val.toNat ∧ c.val.toNat < 0x110000 := c.valid
  have hc : Char.ofNat c.val.toNat = c := Char.ofNat_toNat c
  simp only [String.utf8EncodeChar]
  generalize c.val.toNat = v at *
  split_ifs with hone htwo hthree <;> simp only [List.cons_append, List.nil_append, piecesFrom]
  · have hb₁ : (UInt8.ofNat v).toNat = v := toNat_ofNat_of_lt (by omega)
    rw [lead_one (by omega)]
    dsimp only
    rw [hb₁, hc]
  · have hb₁ := toNat_ofNat_of_lt (n := v / 64 % 32 + 192) (by omega)
    have hb₂ := toNat_ofNat_of_lt (n := v % 64 + 128) (by omega)
    have hv : (v / 64 % 32 + 192 - 0xc0) * 64 + (v % 64 + 128) % 64 = v := by omega
    rw [lead_two (by omega) (by omega)]
    dsimp only
    rw [push_last (by show 128 ≤ _; omega) (by show _ ≤ 191; omega) rfl]
    dsimp only
    rw [hb₁, hb₂, hv, hc]
  · have hb₁ := toNat_ofNat_of_lt (n := v / 4096 % 16 + 224) (by omega)
    have hb₂ := toNat_ofNat_of_lt (n := v / 64 % 64 + 128) (by omega)
    have hb₃ := toNat_ofNat_of_lt (n := v % 64 + 128) (by omega)
    have hv : ((v / 4096 % 16 + 224 - 0xe0) * 64 + (v / 64 % 64 + 128) % 64) * 64 +
      (v % 64 + 128) % 64 = v := by omega
    rw [lead_three (by omega) (by omega)]
    dsimp only
    -- no second byte after the smallest first byte is so small that two bytes would do, and none
    -- after `0xed` leads to a surrogate
    rw [push_inner (by rw [toNat_ite, hb₁, hb₂]; simp; split <;> omega)
      (by rw [toNat_ite, hb₁, hb₂]; simp; split <;> omega) Nat.one_lt_two]
    dsimp only
    rw [push_last (by show 128 ≤ _; omega) (by show _ ≤ 191; omega) rfl]
    dsimp only
    rw [hb₁, hb₂, hb₃, hv, hc]
  · have hb₁ := toNat_ofNat_of_lt (n := v / 262144 % 8 + 240) (by omega)
    have hb₂ := toNat_ofNat_of_lt (n := v / 4096 % 64 + 128) (by omega)
    have hb₃ := toNat_ofNat_of_lt (n := v / 64 % 64 + 128) (by omega)
    have hb₄ := toNat_ofNat_of_lt (n := v % 64 + 128) (by omega)
    have hv : (((v / 262144 % 8 + 240 - 0xf0) * 64 + (v / 4096 % 64 + 128) % 64) * 64 +
      (v / 64 % 64 + 128) % 64) * 64 + (v % 64 + 128) % 64 = v := by omega
    rw [lead_four (by omega) (by omega)]
    dsimp only
    rw [push_inner (by rw [toNat_ite, hb₁, hb₂]; simp; split <;> omega)
      (by rw [toNat_ite, hb₁, hb₂]; simp; split <;> omega) (by show 1 < 3; omega)]
    dsimp only
    rw [push_inner (by show 128 ≤ _; omega) (by show _ ≤ 191; omega) (by show 1 < 3 - 1; omega)]
    dsimp only
    rw [push_last (by show 128 ≤ _; omega) (by show _ ≤ 191; omega) rfl]
    dsimp only
    rw [hb₁, hb₂, hb₃, hb₄, hv, hc]

theorem val_ofNat {v : Nat} (h : v < 0xd800 ∨ 0xdfff < v ∧ v < 0x110000) :
    (Char.ofNat v).val.toNat = v := by
  have hvalid : v.isValidChar := h
  rw [Char.ofNat, dif_pos hvalid]
  rfl

theorem ofNat_eq {n : Nat} {b : UInt8} (h : n = b.toNat) : UInt8.ofNat n = b := by
  rw [h, UInt8.ofNat_toNat]

section

variable {b₁ b₂ b₃ b₄ : UInt8}

theorem encodeChar_one (hb₁ : b₁.toNat < 0x80) :
    String.utf8EncodeChar (Char.ofNat b₁.toNat) = [b₁] := by
  unfold String.utf8EncodeChar
  rw [val_ofNat (by omega)]
  dsimp only
  rw [if_pos (by omega), UInt8.ofNat_toNat]

theorem encodeChar_two (hb₁ : 0xc2 ≤ b₁.toNat ∧ b₁.toNat < 0xe0)
    (hb₂ : 0x80 ≤ b₂.toNat ∧ b₂.toNat ≤ 0xbf) :
    String.utf8EncodeChar (Char.ofNat ((b₁.toNat - 0xc0) * 64 + b₂.toNat % 64)) = [b₁, b₂] := by
  unfold String.utf8EncodeChar
  rw [val_ofNat (by omega)]
  dsimp only
  rw [if_neg (by omega), if_pos (by omega), ofNat_eq (b := b₁) (by omega),
    ofNat_eq (b := b₂) (by omega)]

theorem encodeChar_three (hb₁ : 0xe0 ≤ b₁.toNat ∧ b₁.toNat < 0xf0)
    (hlo : (if b₁ = 0xe0 then 0xa0 else 0x80 : UInt8).toNat ≤ b₂.toNat)
    (hhi : b₂.toNat ≤ (if b₁ = 0xed then 0x9f else 0xbf : UInt8).toNat)
    (hb₃ : 0x80 ≤ b₃.toNat ∧ b₃.toNat ≤ 0xbf) :
    String.utf8EncodeChar
      (Char.ofNat (((b₁.toNat - 0xe0) * 64 + b₂.toNat % 64) * 64 + b₃.toNat % 64)) =
        [b₁, b₂, b₃] := by
  rw [toNat_ite] at hlo hhi
  simp only [UInt8.reduceToNat] at hlo hhi
  -- the bounds of the second byte leave out overlong forms and surrogates
  have hb₂ : 0x80 ≤ b₂.toNat ∧ b₂.toNat ≤ 0xbf := by split_ifs at hlo hhi <;> omega
  have hv : 0x800 ≤ ((b₁.toNat - 0xe0) * 64 + b₂.toNat % 64) * 64 + b₃.toNat % 64 := by
    split_ifs at hlo <;> omega
  unfold String.utf8EncodeChar
  rw [val_ofNat (by split_ifs at hhi <;> omega)]
  dsimp only
  rw [if_neg (by omega), if_neg (by omega), if_pos (by omega), ofNat_eq (b := b₁) (by omega),
    ofNat_eq (b := b₂) (by omega), ofNat_eq (b := b₃) (by omega)]

theorem encodeChar_four (hb₁ : 0xf0 ≤ b₁.toNat ∧ b₁.toNat < 0xf5)
    (hlo : (if b₁ = 0xf0 then 0x90 else 0x80 : UInt8).toNat ≤ b₂.toNat)
    (hhi : b₂.toNat ≤ (if b₁ = 0xf4 then 0x8f else 0xbf : UInt8).toNat)
    (hb₃ : 0x80 ≤ b₃.toNat ∧ b₃.toNat ≤ 0xbf) (hb₄ : 0x80 ≤ b₄.toNat ∧ b₄.toNat ≤ 0xbf) :
    String.utf8EncodeChar (Char.ofNat ((((b₁.toNat - 0xf0) * 64 + b₂.toNat % 64) * 64 +
      b₃.toNat % 64) * 64 + b₄.toNat % 64)) = [b₁, b₂, b₃, b₄] := by
  rw [toNat_ite] at hlo hhi
  simp only [UInt8.reduceToNat] at hlo hhi
  -- the bounds of the second byte leave out overlong forms and numbers that are too large
  have hb₂ : 0x80 ≤ b₂.toNat ∧ b₂.toNat ≤ 0xbf := by split_ifs at hlo hhi <;> omega
  have hv : 0x10000 ≤ (((b₁.toNat - 0xf0) * 64 + b₂.toNat % 64) * 64 + b₃.toNat % 64) * 64 +
      b₄.toNat % 64 := by
    split_ifs at hlo <;> omega
  unfold String.utf8EncodeChar
  rw [val_ofNat (by split_ifs at hhi <;> omega)]
  dsimp only
  rw [if_neg (by omega), if_neg (by omega), if_neg (by omega), ofNat_eq (b := b₁) (by omega),
    ofNat_eq (b := b₂) (by omega), ofNat_eq (b := b₃) (by omega), ofNat_eq (b := b₄) (by omega)]

end

/-! ## Texts -/

theorem pieces_encode (cs : List Char) : pieces (encode cs) = cs.map .char := by
  induction cs with
  | nil => rfl
  | cons c cs ih =>
    rw [encode, List.flatMap_cons, pieces, piecesFrom_encodeChar, List.map_cons]
    exact congrArg (_ :: ·) ih

theorem charsFrom_map_char (index : Nat) (cs : List Char) :
    charsFrom index (cs.map .char) = .ok cs := by
  induction cs generalizing index with
  | nil => rfl
  | cons c cs ih =>
    rw [List.map_cons, charsFrom, ih]
    rfl

theorem charsFrom_cons_eq_ok {index : Nat} {piece : Piece} {pieces : List Piece} {cs : List Char}
    (h : charsFrom index (piece :: pieces) = .ok cs) :
    ∃ c cs', piece = .char c ∧ cs = c :: cs' ∧ ∃ next, charsFrom next pieces = .ok cs' := by
  cases piece with
  | char c =>
    rw [charsFrom] at h
    cases hrest : charsFrom (index + c.utf8Size) pieces with
    | error fault =>
      rw [hrest] at h
      cases h
    | ok cs' =>
      rw [hrest] at h
      cases h
      exact ⟨c, cs', rfl, rfl, _, hrest⟩
  | invalid length => cases h
  | incomplete => cases h

section

variable {p : Pending} {index : Nat} {bytes : Bytes} {cs : List Char}

-- a character that has begun goes on with a byte between its bounds
theorem exists_of_charsFrom_pending (h : charsFrom index (piecesFrom (some p) bytes) = .ok cs) :
    ∃ b rest, bytes = b :: rest ∧ p.lo.toNat ≤ b.toNat ∧ b.toNat ≤ p.hi.toNat := by
  cases bytes with
  | nil => cases h
  | cons b rest =>
    by_cases hb : p.lo.toNat ≤ b.toNat ∧ b.toNat ≤ p.hi.toNat
    · exact ⟨b, rest, rfl, hb.1, hb.2⟩
    · rw [piecesFrom, push_eq_none hb] at h
      cases h

theorem charsFrom_last (hmissing : p.missing = 1)
    (h : charsFrom index (piecesFrom (some p) bytes) = .ok cs) :
    ∃ b rest cs', bytes = b :: rest ∧ p.lo.toNat ≤ b.toNat ∧ b.toNat ≤ p.hi.toNat ∧
      cs = Char.ofNat (p.value * 64 + b.toNat % 64) :: cs' ∧
      ∃ next, charsFrom next (piecesFrom none rest) = .ok cs' := by
  obtain ⟨b, rest, rfl, hlo, hhi⟩ := exists_of_charsFrom_pending h
  rw [piecesFrom, push_last hlo hhi hmissing] at h
  obtain ⟨c, cs', hc, rfl, hrest⟩ := charsFrom_cons_eq_ok h
  cases hc
  exact ⟨b, rest, cs', rfl, hlo, hhi, rfl, hrest⟩

theorem charsFrom_inner (hmissing : 1 < p.missing)
    (h : charsFrom index (piecesFrom (some p) bytes) = .ok cs) :
    ∃ b rest, bytes = b :: rest ∧ p.lo.toNat ≤ b.toNat ∧ b.toNat ≤ p.hi.toNat ∧
      charsFrom index (piecesFrom (some ⟨p.taken + 1, p.value * 64 + b.toNat % 64, p.missing - 1,
        0x80, 0xbf⟩) rest) = .ok cs := by
  obtain ⟨b, rest, rfl, hlo, hhi⟩ := exists_of_charsFrom_pending h
  rw [piecesFrom, push_inner hlo hhi hmissing] at h
  exact ⟨b, rest, rfl, hlo, hhi, h⟩

end

/-- The first character takes its own bytes off the front. -/
theorem exists_of_charsFrom_cons {b : UInt8} {index : Nat} {bytes : Bytes} {cs : List Char}
    (h : charsFrom index (piecesFrom none (b :: bytes)) = .ok cs) :
    ∃ c cs' rest, cs = c :: cs' ∧ b :: bytes = String.utf8EncodeChar c ++ rest ∧
      ∃ next, charsFrom next (piecesFrom none rest) = .ok cs' := by
  rw [piecesFrom] at h
  -- by the number of bytes that the first one announces
  by_cases hone : b.toNat < 0x80
  · rw [lead_one hone] at h
    obtain ⟨c, cs', hc, rfl, hrest⟩ := charsFrom_cons_eq_ok h
    cases hc
    exact ⟨_, cs', bytes, rfl, by rw [encodeChar_one hone]; rfl, hrest⟩
  by_cases hinvalid : b.toNat < 0xc2 ∨ 0xf5 ≤ b.toNat
  · rw [lead_invalid (Nat.le_of_not_lt hone) hinvalid] at h
    cases h
  by_cases htwo : b.toNat < 0xe0
  · have hb : 0xc2 ≤ b.toNat ∧ b.toNat < 0xe0 := by omega
    rw [lead_two hb.1 hb.2] at h
    obtain ⟨b₂, rest, cs', rfl, hlo, hhi, rfl, hrest⟩ := charsFrom_last rfl h
    exact ⟨_, cs', rest, rfl, by rw [encodeChar_two hb ⟨hlo, hhi⟩]; rfl, hrest⟩
  by_cases hthree : b.toNat < 0xf0
  · have hb : 0xe0 ≤ b.toNat ∧ b.toNat < 0xf0 := by omega
    rw [lead_three hb.1 hb.2] at h
    obtain ⟨b₂, rest', rfl, hlo₂, hhi₂, h⟩ := charsFrom_inner Nat.one_lt_two h
    obtain ⟨b₃, rest, cs', rfl, hlo, hhi, rfl, hrest⟩ := charsFrom_last rfl h
    exact ⟨_, cs', rest, rfl, by rw [encodeChar_three hb hlo₂ hhi₂ ⟨hlo, hhi⟩]; rfl, hrest⟩
  · have hb : 0xf0 ≤ b.toNat ∧ b.toNat < 0xf5 := by omega
    rw [lead_four hb.1 hb.2] at h
    obtain ⟨b₂, rest', rfl, hlo₂, hhi₂, h⟩ := charsFrom_inner (by show 1 < 3; omega) h
    obtain ⟨b₃, rest'', rfl, hlo₃, hhi₃, h⟩ := charsFrom_inner (by show 1 < 3 - 1; omega) h
    obtain ⟨b₄, rest, cs', rfl, hlo, hhi, rfl, hrest⟩ := charsFrom_last rfl h
    exact ⟨_, cs', rest, rfl,
      by rw [encodeChar_four hb hlo₂ hhi₂ ⟨hlo₃, hhi₃⟩ ⟨hlo, hhi⟩]; rfl, hrest⟩

theorem eq_encode_of_charsFrom {index : Nat} {bytes : Bytes} {cs : List Char}
    (h : charsFrom index (piecesFrom none bytes) = .ok cs) : bytes = encode cs := by
  -- character by character, each of which takes its bytes off the front
  induction cs generalizing index bytes with
  | nil =>
    cases bytes with
    | nil => rfl
    | cons b bytes =>
      obtain ⟨c, cs', rest, hcs, -⟩ := exists_of_charsFrom_cons h
      cases hcs
  | cons c cs ih =>
    cases bytes with
    | nil => cases h
    | cons b bytes =>
      obtain ⟨c', cs', rest, hcs, hbytes, next, hrest⟩ := exists_of_charsFrom_cons h
      cases hcs
      rw [hbytes, ih hrest, encode, encode, List.flatMap_cons]

/-- Bytes are a text exactly if they are the bytes of this text. -/
theorem decode_eq_ok_iff {bytes : Bytes} {cs : List Char} :
    decode bytes = .ok cs ↔ bytes = encode cs := by
  constructor
  · exact eq_encode_of_charsFrom
  · rintro rfl
    rw [decode, pieces_encode, charsFrom_map_char]

theorem decodeLossy_encode (cs : List Char) : decodeLossy (encode cs) = cs := by
  rw [decodeLossy, pieces_encode, List.map_map]
  exact List.map_id cs

theorem length_encode (cs : List Char) : (encode cs).length = size cs := by
  induction cs with
  | nil => rfl
  | cons c cs ih =>
    rw [encode, List.flatMap_cons, List.length_append, String.length_utf8EncodeChar]
    exact congrArg (c.utf8Size + ·) ih

end SecretScan.Utf8
