import CommonExpr.Proofs.Protobuf.Wire
import CommonExpr.Protobuf.Codec

/-!
Fields of numbers and of bytes, written and read back.

Main statement: fields that hold 64-bit numbers and blocks of bytes are read from what is written
of them as they were, and a message with no others is written as these.
-/

namespace CommonExpr.Protobuf

/-! Varints -/

/-- Whether a number takes no more bytes than a first one and `more`. -/
def VarintFits : (more : Nat) → Nat → Prop
  | 0, n => n < 128
  | more + 1, n => VarintFits more (n / 128)

theorem varintFits_of_word {n : Nat} (hn : n < 18446744073709551616) : VarintFits 9 n := by
  simp only [VarintFits]
  omega

theorem takeVarint_varintBytes {more n : Nat} (hfits : VarintFits more n) (weight value : Nat)
    (hword : value + n * weight < 18446744073709551616) (rest : List UInt8) :
    takeVarint (more + 1) weight value (varintBytes more n ++ rest) =
      some (value + n * weight, rest) := by
  induction more generalizing n weight value with
  | zero =>
      have hlast : n < 128 := hfits
      have hbyte : (UInt8.ofNat n).toNat = n := by rw [UInt8.toNat_ofNat']; omega
      have hend : UInt8.ofNat n < 128 := by rw [UInt8.lt_iff_toNat_lt, hbyte]; exact hlast
      rw [varintBytes, List.singleton_append, takeVarint, hbyte, Nat.mod_eq_of_lt hlast,
        if_pos hend, if_pos hword]
  | succ more ih =>
      rw [varintBytes]
      by_cases hlast : n < 128
      · have hbyte : (UInt8.ofNat n).toNat = n := by rw [UInt8.toNat_ofNat']; omega
        have hend : UInt8.ofNat n < 128 := by rw [UInt8.lt_iff_toNat_lt, hbyte]; exact hlast
        rw [if_pos hlast, List.singleton_append, takeVarint, hbyte, Nat.mod_eq_of_lt hlast,
          if_pos hend, if_pos hword]
      · have hbyte : (UInt8.ofNat (n % 128 + 128)).toNat = n % 128 + 128 := by
          rw [UInt8.toNat_ofNat']; omega
        have hmore : ¬ UInt8.ofNat (n % 128 + 128) < 128 := by
          rw [UInt8.lt_iff_toNat_lt, hbyte]
          exact Nat.not_lt.mpr (Nat.le_add_left 128 _)
        have hlow : (n % 128 + 128) % 128 = n % 128 := by omega
        have hsplit : n * weight = n % 128 * weight + n / 128 * (weight * 128) := by
          calc n * weight = (n % 128 + n / 128 * 128) * weight := by rw [Nat.mod_add_div']
            _ = n % 128 * weight + n / 128 * (weight * 128) := by
              rw [Nat.add_mul, Nat.mul_assoc, Nat.mul_comm 128]
        rw [if_neg hlast, List.cons_append, takeVarint, hbyte, hlow, if_neg hmore,
          ih hfits (weight * 128) _ (by omega), hsplit, Nat.add_assoc]

/-- A number of 64 bits is read back as it was written. -/
theorem getVarint_putVarint {n : Nat} (hn : n < 18446744073709551616) (rest : List UInt8) :
    getVarint (putVarint n ++ rest) = some (n, rest) := by
  have htake := takeVarint_varintBytes (varintFits_of_word hn) 1 0 (by omega) rest
  rwa [Nat.mul_one, Nat.zero_add] at htake

theorem getTag_putTag {number wire : Nat} (hnumber : 0 < number) (hsmall : number < 536870912)
    (hwire : wire < 8) (rest : List UInt8) :
    getTag (putTag number wire ++ rest) = some (number, wire, rest) := by
  have hkey : number * 8 + wire < 4294967296 := by omega
  have hnumber' : (number * 8 + wire) / 8 = number := by omega
  have hwire' : (number * 8 + wire) % 8 = wire := by omega
  rw [getTag, putTag, getVarint_putVarint (by omega)]
  simp only [Option.bind_eq_bind, Option.bind_some, hnumber', hwire']
  exact if_pos ⟨hkey, hnumber⟩

theorem getBlock_putBlock {b : List UInt8} (hb : b.length < 18446744073709551616)
    (rest : List UInt8) : getBlock (putBlock b ++ rest) = some (b, rest) := by
  rw [getBlock, putBlock, List.append_assoc, getVarint_putVarint hb]
  simp

/-! Fields -/

/-- Whether a payload is a 64-bit number, or bytes as many as one can count. -/
def Payload.Plain : Payload → Prop
  | .varint n => n < 18446744073709551616
  | .bytes b => b.length < 18446744073709551616
  | _ => False

/-- Whether a field is read as its payload says. -/
structure RawField.Plain (isBlock : Nat → Bool) (raw : RawField) : Prop where
  number_pos : 0 < raw.1
  number_lt : raw.1 < 536870912
  no_block : isBlock raw.1 = false
  payload : raw.2.Plain

theorem takeFields_of_getTag {isBlock : Nat → Bool} {fuel number wire : Nat}
    {bytes rest : List UInt8} (htag : getTag bytes = some (number, wire, rest))
    (hblock : isBlock number = false) :
    takeFields isBlock (fuel + 1) bytes =
      (takePayload (2 * rest.length + 2) number wire rest).bind fun read =>
        (takeFields isBlock fuel read.2).map ((number, read.1) :: ·) := by
  cases bytes with
  | nil => cases htag
  | cons b bytes =>
      simp only [takeFields, htag, hblock, Bool.false_eq_true, if_false]
      cases takePayload (2 * rest.length + 2) number wire rest <;> rfl

/-- A field is read from the bytes that it is written as, ahead of the others. -/
theorem takeFields_putField {isBlock : Nat → Bool} {raw : RawField} (hraw : raw.Plain isBlock)
    (fuel : Nat) (rest : List UInt8) :
    takeFields isBlock (fuel + 1) (putField raw.1 raw.2 ++ rest) =
      (takeFields isBlock fuel rest).map (raw :: ·) := by
  obtain ⟨number, payload⟩ := raw
  obtain ⟨hpos, hlt, hblock, hpayload⟩ := hraw
  cases payload with
  | varint n =>
      have htag : getTag (putTag number 0 ++ (putVarint n ++ rest)) =
          some (number, 0, putVarint n ++ rest) := getTag_putTag hpos hlt (by decide) _
      rw [putField, List.append_assoc, takeFields_of_getTag htag hblock, takePayload,
        getVarint_putVarint hpayload]
      rfl
  | bytes b =>
      have htag : getTag (putTag number 2 ++ (putBlock b ++ rest)) =
          some (number, 2, putBlock b ++ rest) := getTag_putTag hpos hlt (by decide) _
      rw [putField, List.append_assoc, takeFields_of_getTag htag hblock, takePayload,
        getBlock_putBlock hpayload]
      rfl
  | _ => exact hpayload.elim

theorem takeFields_putFields {isBlock : Nat → Bool} {raws : List RawField}
    (hraws : ∀ raw ∈ raws, raw.Plain isBlock) {fuel : Nat} (hfuel : raws.length ≤ fuel) :
    takeFields isBlock fuel (putFields raws) = some raws := by
  induction raws generalizing fuel with
  | nil => cases fuel <;> rfl
  | cons raw raws ih =>
      obtain ⟨hraw, hrest⟩ := List.forall_mem_cons.mp hraws
      cases fuel with
      | zero => cases hfuel
      | succ fuel =>
          rw [putFields, takeFields_putField hraw, ih hrest (Nat.le_of_succ_le_succ hfuel)]
          rfl

theorem length_putVarint_pos (n : Nat) : 0 < (putVarint n).length := by
  rw [putVarint, varintBytes]
  split <;> exact Nat.succ_pos _

theorem putField_eq_putTag (number : Nat) (payload : Payload) :
    ∃ wire rest, putField number payload = putTag number wire ++ rest := by
  cases payload with
  | group fields =>
      rw [putField, List.append_assoc]
      exact ⟨_, _, rfl⟩
  | _ => exact ⟨_, _, by rw [putField]⟩

theorem length_putField_pos (number : Nat) (payload : Payload) :
    0 < (putField number payload).length := by
  obtain ⟨wire, rest, hfield⟩ := putField_eq_putTag number payload
  rw [hfield, List.length_append]
  exact Nat.add_pos_left (length_putVarint_pos _) _

theorem length_le_putFields (raws : List RawField) : raws.length ≤ (putFields raws).length := by
  induction raws with
  | nil => exact Nat.zero_le _
  | cons raw raws ih =>
      have hpos := length_putField_pos raw.1 raw.2
      rw [putFields, List.length_append, List.length_cons]
      omega

/-- A field holds no more bytes than are written. -/
theorem size_le_putFields {raws : List RawField} {raw : RawField} (hraw : raw ∈ raws) :
    raw.2.size ≤ (putFields raws).length := by
  induction raws with
  | nil => cases hraw
  | cons head raws ih =>
      rw [putFields, List.length_append]
      rcases List.mem_cons.mp hraw with rfl | hraw
      · have hfield : raw.2.size ≤ (putField raw.1 raw.2).length := by
          cases raw.2 with
          | bytes b =>
              simp only [Payload.size, putField, putBlock, List.length_append]
              omega
          | _ => exact Nat.zero_le _
        omega
      · have := ih hraw
        omega

/-- Fields are read from the bytes that they are written as. -/
theorem readFields_putFields {isBlock : Nat → Bool} {raws : List RawField}
    (hraws : ∀ raw ∈ raws, raw.Plain isBlock) : readFields isBlock (putFields raws) = some raws :=
  takeFields_putFields hraws (length_le_putFields raws)

/-! Messages -/

theorem flatMap_putField (raws : List RawField) :
    (raws.map fun raw => (raw.1, putField raw.1 raw.2)).flatMap (·.2) = putFields raws := by
  induction raws with
  | nil => rfl
  | cons raw raws ih => rw [List.map_cons, List.flatMap_cons, ih, putFields]

/-- A message whose fields are written as these, in the order of their numbers, and that has no
others. -/
theorem Message.encode_eq_putFields {schema : Schema} {type : MessageType}
    {fields : List (Nat × Value)} {raws : List RawField}
    (hfields : Message.encodeFields schema type fields =
      raws.map fun raw => (raw.1, putField raw.1 raw.2))
    (hascending : raws.Pairwise fun a b => a.1 ≤ b.1) :
    (Message.mk schema type fields []).encode = putFields raws := by
  have hsorted : ((raws.map fun raw => (raw.1, putField raw.1 raw.2)).mergeSort
      fun a b => a.1 ≤ b.1) = raws.map fun raw => (raw.1, putField raw.1 raw.2) :=
    List.mergeSort_of_pairwise (List.pairwise_map.mpr (hascending.imp fun h => decide_eq_true h))
  rw [Message.encode, hfields, List.map_nil, List.append_nil, hsorted, flatMap_putField]

/-- Reading what is written of fields merges them in turn. -/
theorem mergeBytes_putFields (unknowns : UnknownFields) (depth : Nat) {m : Message}
    {raws : List RawField} (hraws : ∀ raw ∈ raws, raw.Plain m.type.isMapField) :
    mergeBytes unknowns (depth + 1) m (putFields raws) =
      raws.foldlM (mergeField unknowns (depth + 1) (mergeBytes unknowns depth)) m := by
  rw [mergeBytes, mergeFields, readFields_putFields hraws]
  rfl

end CommonExpr.Protobuf
