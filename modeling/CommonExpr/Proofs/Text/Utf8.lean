import CommonExpr.Text.Utf8

/-!
Texts as bytes.

Main statement: bytes are read as a text exactly if they are those of a sequence of characters,
and the bytes of a text are read back as the text.
-/

namespace CommonExpr

theorem byteArray_toList_loop (bytes : ByteArray) (i : Nat) (read : List UInt8) :
    ByteArray.toList.loop bytes i read = read.reverse ++ bytes.data.toList.drop i := by
  fun_induction ByteArray.toList.loop bytes i read with
  | case1 i read hi ih =>
      have hlength : i < bytes.data.toList.length := hi
      have hhead : bytes.get! i = bytes.data.toList[i] := getElem!_pos bytes.data i hi
      rw [ih, List.reverse_cons, List.append_assoc, hhead, List.singleton_append,
        ← List.drop_eq_getElem_cons hlength]
  | case2 i read hi =>
      have hlength : bytes.data.toList.length ≤ i := Nat.le_of_not_lt hi
      rw [List.drop_eq_nil_of_le hlength, List.append_nil]

theorem byteArray_toList (bytes : ByteArray) : bytes.toList = bytes.data.toList := by
  rw [ByteArray.toList, byteArray_toList_loop]
  rfl

namespace Utf8

/-- Whether bytes are those of a sequence of characters. -/
def Valid (bytes : List UInt8) : Prop := ∃ cs : List Char, bytes = cs.flatMap String.utf8EncodeChar

theorem valid_iff (bytes : List UInt8) : Valid bytes ↔ ByteArray.IsValidUTF8 ⟨bytes.toArray⟩ := by
  constructor
  · rintro ⟨cs, rfl⟩
    refine ⟨cs, ByteArray.ext ?_⟩
    rw [List.utf8Encode, List.data_toByteArray]
  · rintro ⟨cs, hcs⟩
    refine ⟨cs, ?_⟩
    have hdata := congrArg ByteArray.data hcs
    rw [List.utf8Encode, List.data_toByteArray] at hdata
    simpa using hdata

theorem encode_eq (s : String) : encode s = s.toByteArray.data.toList := byteArray_toList _

theorem decode_encode (s : String) : decode (encode s) = .ok s := by
  have hdata : (⟨(encode s).toArray⟩ : ByteArray) = s.toByteArray := by
    rw [encode_eq, Array.toArray_toList]
  simp only [decode, hdata]
  rw [dif_pos s.isValidUTF8]

theorem encode_of_decode {bytes : List UInt8} {s : String} (hs : decode bytes = .ok s) :
    encode s = bytes := by
  simp only [decode] at hs
  split at hs
  · obtain rfl := Except.ok.inj hs
    rw [encode_eq]
  · cases hs

theorem exists_decode_iff (bytes : List UInt8) : (∃ s, decode bytes = .ok s) ↔ Valid bytes := by
  rw [valid_iff]
  simp only [decode]
  split
  · next hvalid => exact iff_of_true ⟨_, rfl⟩ hvalid
  · next hbroken => exact iff_of_false (by rintro ⟨s, ⟨⟩⟩) hbroken

end Utf8

end CommonExpr
