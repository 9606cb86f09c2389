import ClusterTrials.Proofs.Text.Encoding
import Mathlib.Tactic.SplitIfs
/-!
# Characters from bytes

The bytes of a text are read as its characters, one after the other and to the end.
-/

namespace ClusterTrials.Text

theorem encode_eq_flatMap (text : String) :
    encode text = text.toList.flatMap String.utf8EncodeChar := by
  rw [encode_eq, ← String.utf8Encode_toList, List.utf8Encode, List.toList_data_toByteArray]

/-! ## First bytes and followers -/

/-- What a first byte promises, by its value. -/
theorem owedAfter?_eq (b : UInt8) :
    owedAfter? b =
      if 0xC2 ≤ b.toNat ∧ b.toNat ≤ 0xDF then some ⟨1, 0x80, 0xBF⟩
      else if b.toNat = 0xE0 then some ⟨2, 0xA0, 0xBF⟩
      else if b.toNat = 0xED then some ⟨2, 0x80, 0x9F⟩
      else if 0xE1 ≤ b.toNat ∧ b.toNat ≤ 0xEF then some ⟨2, 0x80, 0xBF⟩
      else if b.toNat = 0xF0 then some ⟨3, 0x90, 0xBF⟩
      else if 0xF1 ≤ b.toNat ∧ b.toNat ≤ 0xF3 then some ⟨3, 0x80, 0xBF⟩
      else if b.toNat = 0xF4 then some ⟨3, 0x80, 0x8F⟩
      else none := by
  simp only [owedAfter?, UInt8.le_iff_toNat_le, ← UInt8.toNat_inj]
  rfl

/-- A byte that carries the low six bits of a number. -/
def follower (n : Nat) : UInt8 := .ofNat (n % 64 + 128)

theorem toNat_follower (n : Nat) : (follower n).toNat = n % 64 + 128 := by
  rw [follower, UInt8.toNat_ofNat']
  omega

theorem toNat_ofNat_of_lt {n : Nat} (h : n < 256) : (UInt8.ofNat n).toNat = n := by
  rw [UInt8.toNat_ofNat']
  exact Nat.mod_eq_of_lt h

section Continued

variable {low high b : UInt8} (hlow : low.toNat ≤ b.toNat) (hhigh : b.toNat ≤ high.toNat)
  (rest : List UInt8)

include hlow hhigh

theorem continued_last : continued ⟨1, low, high⟩ (b :: rest) = 1 := by
  rw [continued, if_pos ⟨UInt8.le_iff_toNat_le.mpr hlow, UInt8.le_iff_toNat_le.mpr hhigh⟩]

theorem continued_next (count : Nat) :
    continued ⟨count + 2, low, high⟩ (b :: rest) =
      continued ⟨count + 1, 0x80, 0xBF⟩ rest + 1 := by
  rw [continued, if_pos ⟨UInt8.le_iff_toNat_le.mpr hlow, UInt8.le_iff_toNat_le.mpr hhigh⟩]

end Continued

theorem continued_follower (n : Nat) (rest : List UInt8) :
    continued ⟨1, 0x80, 0xBF⟩ (follower n :: rest) = 1 := by
  have hfollower := toNat_follower n
  exact continued_last (show 0x80 ≤ _ by omega) (show _ ≤ 0xBF by omega) rest

theorem continued_followers (n n' : Nat) (rest : List UInt8) :
    continued ⟨2, 0x80, 0xBF⟩ (follower n :: follower n' :: rest) = 2 := by
  have hfollower := toNat_follower n
  rw [continued_next (show 0x80 ≤ _ by omega) (show _ ≤ 0xBF by omega) _ 0, continued_follower]

theorem character?_of_owed {b : UInt8} (bytes : List UInt8) {rest : List UInt8} {owed : Owed}
    (hb : 0x80 ≤ b.toNat) (howed : owedAfter? b = some owed) (hlength : bytes.length = owed.count)
    (hcontinued : continued owed (bytes ++ rest) = owed.count) :
    character? b (bytes ++ rest) = some (assemble (b :: bytes), bytes.length) := by
  have hascii : ¬b < 0x80 := by
    rw [UInt8.lt_iff_toNat_lt]
    exact Nat.not_lt_of_le hb
  rw [character?, if_neg hascii, howed, Option.bind_some, if_pos hcontinued, ← hlength,
    List.take_left]

/-! ## Characters -/

section Lengths

variable {v : Nat} (rest : List UInt8)

theorem character?_two (hlow : 0x80 ≤ v) (hhigh : v < 0x800) :
    character? (.ofNat (v / 64 % 32 + 192)) (follower v :: rest) = some (.ofNat v, 1) := by
  have hb := toNat_ofNat_of_lt (show v / 64 % 32 + 192 < 256 by omega)
  generalize UInt8.ofNat (v / 64 % 32 + 192) = b at *
  have howed : owedAfter? b = some ⟨1, 0x80, 0xBF⟩ := by
    rw [owedAfter?_eq, if_pos (by omega)]
  have hassembled : assemble [b, follower v] = .ofNat v := by
    show Char.ofNat (b.toNat % 32 * 64 + (follower v).toNat % 64) = _
    rw [hb, toNat_follower]
    congr 1
    omega
  have hread := character?_of_owed [follower v] (by omega) howed rfl
    (continued_follower v rest)
  rw [hassembled] at hread
  exact hread

/-- The range of the second byte leaves out what fewer bytes can say, and the surrogates. -/
theorem exists_owed_three (hlow : 0x800 ≤ v) (hhigh : v < 0x10000)
    (hvalid : v < 0xD800 ∨ 0xDFFF < v) {b : UInt8} (hb : b.toNat = v / 4096 % 16 + 224) :
    ∃ low high, owedAfter? b = some ⟨2, low, high⟩ ∧ low.toNat ≤ (follower (v / 64)).toNat ∧
      (follower (v / 64)).toNat ≤ high.toNat := by
  have hfollower := toNat_follower (v / 64)
  rw [owedAfter?_eq, if_neg (by omega)]
  by_cases hfirst : v < 0x1000
  · rw [if_pos (by omega)]
    exact ⟨0xA0, 0xBF, rfl, show 0xA0 ≤ _ by omega, show _ ≤ 0xBF by omega⟩
  by_cases hsurrogate : 0xD000 ≤ v ∧ v < 0xE000
  · rw [if_neg (by omega), if_pos (by omega)]
    exact ⟨0x80, 0x9F, rfl, show 0x80 ≤ _ by omega, show _ ≤ 0x9F by omega⟩
  · rw [if_neg (by omega), if_neg (by omega), if_pos (by omega)]
    exact ⟨0x80, 0xBF, rfl, show 0x80 ≤ _ by omega, show _ ≤ 0xBF by omega⟩

theorem character?_three (hlow : 0x800 ≤ v) (hhigh : v < 0x10000)
    (hvalid : v < 0xD800 ∨ 0xDFFF < v) :
    character? (.ofNat (v / 4096 % 16 + 224)) (follower (v / 64) :: follower v :: rest) =
      some (.ofNat v, 2) := by
  have hb := toNat_ofNat_of_lt (show v / 4096 % 16 + 224 < 256 by omega)
  generalize UInt8.ofNat (v / 4096 % 16 + 224) = b at *
  obtain ⟨low, high, howed, hlow', hhigh'⟩ := exists_owed_three hlow hhigh hvalid hb
  have hcontinued : continued ⟨2, low, high⟩ (follower (v / 64) :: follower v :: rest) = 2 := by
    rw [continued_next hlow' hhigh' _ 0, continued_follower]
  have hassembled : assemble [b, follower (v / 64), follower v] = .ofNat v := by
    show Char.ofNat (b.toNat % 16 * 4096 + (follower (v / 64)).toNat % 64 * 64 +
      (follower v).toNat % 64) = _
    rw [hb, toNat_follower, toNat_follower]
    congr 1
    omega
  have hread := character?_of_owed [follower (v / 64), follower v] (by omega) howed rfl hcontinued
  rw [hassembled] at hread
  exact hread

/-- The range of the second byte leaves out what fewer bytes can say, and what no character has. -/
theorem exists_owed_four (hlow : 0x10000 ≤ v) (hhigh : v < 0x110000) {b : UInt8}
    (hb : b.toNat = v / 262144 % 8 + 240) :
    ∃ low high, owedAfter? b = some ⟨3, low, high⟩ ∧ low.toNat ≤ (follower (v / 4096)).toNat ∧
      (follower (v / 4096)).toNat ≤ high.toNat := by
  have hfollower := toNat_follower (v / 4096)
  rw [owedAfter?_eq, if_neg (by omega), if_neg (by omega), if_neg (by omega), if_neg (by omega)]
  by_cases hfirst : v < 0x40000
  · rw [if_pos (by omega)]
    exact ⟨0x90, 0xBF, rfl, show 0x90 ≤ _ by omega, show _ ≤ 0xBF by omega⟩
  by_cases hlast : 0x100000 ≤ v
  · rw [if_neg (by omega), if_neg (by omega), if_pos (by omega)]
    exact ⟨0x80, 0x8F, rfl, show 0x80 ≤ _ by omega, show _ ≤ 0x8F by omega⟩
  · rw [if_neg (by omega), if_pos (by omega)]
    exact ⟨0x80, 0xBF, rfl, show 0x80 ≤ _ by omega, show _ ≤ 0xBF by omega⟩

theorem character?_four (hlow : 0x10000 ≤ v) (hhigh : v < 0x110000) :
    character? (.ofNat (v / 262144 % 8 + 240))
        (follower (v / 4096) :: follower (v / 64) :: follower v :: rest) =
      some (.ofNat v, 3) := by
  have hb := toNat_ofNat_of_lt (show v / 262144 % 8 + 240 < 256 by omega)
  generalize UInt8.ofNat (v / 262144 % 8 + 240) = b at *
  obtain ⟨low, high, howed, hlow', hhigh'⟩ := exists_owed_four hlow hhigh hb
  have hcontinued : continued ⟨3, low, high⟩
      (follower (v / 4096) :: follower (v / 64) :: follower v :: rest) = 3 := by
    rw [continued_next hlow' hhigh' _ 1, continued_followers]
  have hassembled : assemble [b, follower (v / 4096), follower (v / 64), follower v] = .ofNat v := by
    show Char.ofNat (b.toNat % 8 * 262144 + (follower (v / 4096)).toNat % 64 * 4096 +
      (follower (v / 64)).toNat % 64 * 64 + (follower v).toNat % 64) = _
    rw [hb, toNat_follower, toNat_follower, toNat_follower]
    congr 1
    omega
  have hread := character?_of_owed [follower (v / 4096), follower (v / 64), follower v] (by omega)
    howed rfl hcontinued
  rw [hassembled] at hread
  exact hread

end Lengths

/-- The bytes of a character are read as that character, whatever follows them. -/
theorem character?_utf8EncodeChar (c : Char) (rest : List UInt8) :
    ∃ b bytes, String.utf8EncodeChar c = b :: bytes ∧
      character? b (bytes ++ rest) = some (c, bytes.length) := by
  have hvalid : c.toNat < 0xD800 ∨ 0xDFFF < c.toNat ∧ c.toNat < 0x110000 := c.valid
  have hc := Char.ofNat_toNat c
  have hv : c.val.toNat = c.toNat := rfl
  unfold String.utf8EncodeChar
  simp only [hv]
  generalize c.toNat = v at *
  subst hc
  split_ifs with hone htwo hthree
  · refine ⟨.ofNat v, [], rfl, ?_⟩
    have hb := toNat_ofNat_of_lt (show v < 256 by omega)
    have hascii : UInt8.ofNat v < 0x80 := by
      rw [UInt8.lt_iff_toNat_lt, hb]
      exact Nat.lt_succ_of_le hone
    rw [character?, if_pos hascii, hb]
    rfl
  · exact ⟨_, [follower v], rfl, character?_two rest (by omega) (by omega)⟩
  · exact ⟨_, [follower (v / 64), follower v], rfl,
      character?_three rest (by omega) (by omega) (by omega)⟩
  · exact ⟨_, [follower (v / 4096), follower (v / 64), follower v], rfl,
      character?_four rest (by omega) (by omega)⟩

theorem decodePrefix_encode (text : String) : decodePrefix (encode text) = (text.toList, []) := by
  rw [encode_eq_flatMap]
  induction text.toList with
  | nil => simp [decodePrefix]
  | cons c chars ih =>
      obtain ⟨b, bytes, hencode, hread⟩ :=
        character?_utf8EncodeChar c (chars.flatMap String.utf8EncodeChar)
      rw [List.flatMap_cons, hencode, List.cons_append, decodePrefix]
      simp only [hread, List.drop_left, ih]

theorem decodeLossy_encode (text : String) : decodeLossy (encode text) = text := by
  have hchars : decodeLossyChars (encode text) = text.toList := by
    rw [encode_eq_flatMap]
    induction text.toList with
    | nil => simp [decodeLossyChars]
    | cons c chars ih =>
        obtain ⟨b, bytes, hencode, hread⟩ :=
          character?_utf8EncodeChar c (chars.flatMap String.utf8EncodeChar)
        rw [List.flatMap_cons, hencode, List.cons_append, decodeLossyChars]
        simp only [decodeFirst, hread, Option.getD_some, List.drop_left, ih]
  rw [decodeLossy, hchars, String.ofList_toList]

end ClusterTrials.Text
