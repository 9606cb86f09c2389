import ClusterTrials.Text.Utf8
/-!
# Texts and their bytes

The bytes of a text are read as that text, and bytes that are read as a text are the bytes of it.
-/

namespace ClusterTrials.Text

private theorem toList_loop (bytes : ByteArray) (i : Nat) (read : List UInt8) :
    ByteArray.toList.loop bytes i read = read.reverse ++ bytes.data.toList.drop i := by
  induction i, read using ByteArray.toList.loop.induct bytes with
  | case1 i read hlt ih =>
      have hlt : i < bytes.data.toList.length := hlt
      have hget : bytes.get! i = bytes.data.toList[i] := by
        show bytes.data[i]! = bytes.data.toList[i]
        rw [getElem!_pos bytes.data i (by simpa using hlt)]
        rfl
      rw [ByteArray.toList.loop, if_pos (by simpa using hlt), ih, List.drop_eq_getElem_cons hlt, hget]
      simp
  | case2 i read hge =>
      have hge : bytes.data.toList.length ≤ i := Nat.le_of_not_lt hge
      rw [ByteArray.toList.loop, if_neg (by simpa using hge), List.drop_eq_nil_of_le hge,
        List.append_nil]

theorem toList_eq_data (bytes : ByteArray) : bytes.toList = bytes.data.toList :=
  toList_loop bytes 0 []

theorem encode_eq (text : String) : encode text = text.toByteArray.data.toList := toList_eq_data _

theorem decode?_encode (text : String) : decode? (encode text) = some text := by
  have h : (⟨(encode text).toArray⟩ : ByteArray) = text.toByteArray := by
    rw [encode_eq]
  rw [decode?, h, String.fromUTF8?, dif_pos text.isValidUTF8]
  rfl

theorem decode?_eq_some_iff {bytes : List UInt8} {text : String} :
    decode? bytes = some text ↔ bytes = encode text := by
  constructor
  · intro h
    rw [decode?, String.fromUTF8?] at h
    split at h
    · cases h
      rw [encode_eq]
      rfl
    · cases h
  · rintro rfl
    exact decode?_encode text

theorem encode_inj {text other : String} : encode text = encode other ↔ text = other := by
  rw [← decode?_eq_some_iff, decode?_encode, Option.some_inj]

end ClusterTrials.Text
