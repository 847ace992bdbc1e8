import CommonExpr.Protobuf.Wire

/-!
How much of its input each reader of the binary format takes.

Every reader takes a byte at least, and a block takes its length besides.  Main
statement: the bytes in a field of a message are two fewer than those of the
message, since a tag and a length come before them.
-/

namespace CommonExpr.Protobuf

/-- The number of bytes that a payload holds. -/
def Payload.size : Payload → Nat
  | .bytes b => b.length
  | _ => 0

theorem takeVarint_length {more weight value : Nat} {bytes rest : List UInt8} {n : Nat}
    (htake : takeVarint more weight value bytes = some (n, rest)) :
    rest.length < bytes.length := by
  fun_induction takeVarint more weight value bytes with
  | case1 => cases htake
  | case2 => cases htake
  | case3 weight value more b tail value' hlast hfits =>
      obtain ⟨-, rfl⟩ := Prod.mk.inj (Option.some.inj htake)
      exact Nat.lt_succ_self _
  | case4 => cases htake
  | case5 weight value more b tail value' hmore ih => exact Nat.lt_succ_of_lt (ih htake)

theorem getVarint_length {bytes rest : List UInt8} {n : Nat}
    (hget : getVarint bytes = some (n, rest)) : rest.length < bytes.length :=
  takeVarint_length hget

theorem getFixed_length {size n : Nat} {bytes rest : List UInt8}
    (hget : getFixed size bytes = some (n, rest)) : rest.length + size = bytes.length := by
  induction size generalizing bytes n with
  | zero =>
      obtain ⟨-, rfl⟩ := Prod.mk.inj (Option.some.inj hget)
      rfl
  | succ size ih =>
      cases bytes with
      | nil => cases hget
      | cons b tail =>
          obtain ⟨⟨k, rest'⟩, htail, heq⟩ := Option.map_eq_some_iff.mp hget
          obtain ⟨-, rfl⟩ := Prod.mk.inj heq
          rw [List.length_cons, ← ih htail]
          rfl

theorem getBlock_length {bytes b rest : List UInt8} (hget : getBlock bytes = some (b, rest)) :
    b.length + rest.length < bytes.length := by
  obtain ⟨⟨size, tail⟩, hsize, hblock⟩ := Option.bind_eq_some_iff.mp hget
  dsimp only at hblock
  split at hblock
  · obtain ⟨rfl, rfl⟩ := Prod.mk.inj (Option.some.inj hblock)
    have htail := getVarint_length hsize
    rw [List.length_take, List.length_drop]
    omega
  · cases hblock

theorem getTag_length {bytes rest : List UInt8} {number wire : Nat}
    (hget : getTag bytes = some (number, wire, rest)) : rest.length < bytes.length := by
  obtain ⟨⟨key, tail⟩, hkey, htag⟩ := Option.bind_eq_some_iff.mp hget
  dsimp only at htag
  split at htag
  · obtain ⟨-, hrest⟩ := Prod.mk.inj (Option.some.inj htag)
    obtain ⟨-, rfl⟩ := Prod.mk.inj hrest
    exact getVarint_length hkey
  · cases htag

mutual

theorem takePayload_length (fuel : Nat) {number wire : Nat} {bytes rest : List UInt8}
    {payload : Payload} (htake : takePayload fuel number wire bytes = some (payload, rest)) :
    payload.size + rest.length < bytes.length := by
  match fuel with
  | 0 => cases htake
  | fuel + 1 =>
      unfold takePayload at htake
      split at htake
      · obtain ⟨⟨n, tail⟩, hget, heq⟩ := Option.map_eq_some_iff.mp htake
        obtain ⟨rfl, rfl⟩ := Prod.mk.inj heq
        have hlength := getVarint_length hget
        simp only [Payload.size]
        omega
      · obtain ⟨⟨n, tail⟩, hget, heq⟩ := Option.map_eq_some_iff.mp htake
        obtain ⟨rfl, rfl⟩ := Prod.mk.inj heq
        have hlength := getFixed_length hget
        simp only [Payload.size]
        omega
      · obtain ⟨⟨b, tail⟩, hget, heq⟩ := Option.map_eq_some_iff.mp htake
        obtain ⟨rfl, rfl⟩ := Prod.mk.inj heq
        exact getBlock_length hget
      · obtain ⟨⟨fields, tail⟩, hget, heq⟩ := Option.map_eq_some_iff.mp htake
        obtain ⟨rfl, rfl⟩ := Prod.mk.inj heq
        have hlength := takeGroup_length fuel hget
        simp only [Payload.size]
        omega
      · obtain ⟨⟨n, tail⟩, hget, heq⟩ := Option.map_eq_some_iff.mp htake
        obtain ⟨rfl, rfl⟩ := Prod.mk.inj heq
        have hlength := getFixed_length hget
        simp only [Payload.size]
        omega
      · cases htake

theorem takeGroup_length (fuel : Nat) {number : Nat} {bytes rest : List UInt8}
    {fields : List RawField} (htake : takeGroup fuel number bytes = some (fields, rest)) :
    rest.length < bytes.length := by
  match fuel with
  | 0 => cases htake
  | fuel + 1 =>
      rw [takeGroup] at htake
      split at htake
      · cases htake
      · next inner wire tail htag =>
          have htail := getTag_length htag
          split at htake
          · split at htake
            · obtain ⟨-, rfl⟩ := Prod.mk.inj (Option.some.inj htake)
              exact htail
            · cases htake
          · split at htake
            · cases htake
            · next payload middle hpayload =>
                have hmiddle := takePayload_length fuel hpayload
                split at htake
                · cases htake
                · next others last hgroup =>
                    obtain ⟨-, rfl⟩ := Prod.mk.inj (Option.some.inj htake)
                    have hlast := takeGroup_length fuel hgroup
                    omega

end

/-- A field takes the bytes that it holds, a tag and a length. -/
theorem takeFields_size {isBlock : Nat → Bool} {fuel : Nat} {bytes : List UInt8}
    {raws : List RawField} (htake : takeFields isBlock fuel bytes = some raws) :
    ∀ raw ∈ raws, raw.2.size + 2 ≤ bytes.length := by
  fun_induction takeFields isBlock fuel bytes generalizing raws with
  | case1 =>
      obtain rfl := Option.some.inj htake
      exact fun _ hraw => absurd hraw List.not_mem_nil
  | case2 => cases htake
  | case3 => cases htake
  | case4 => cases htake
  | case5 fuel bytes hbytes number wire tail htag found payload rest hfound =>
      rename_i ih
      obtain ⟨others, hothers, rfl⟩ := Option.map_eq_some_iff.mp htake
      have htail := getTag_length htag
      have hpayload : payload.size + rest.length < tail.length := by
        unfold found at hfound
        split at hfound
        · obtain ⟨⟨b, after⟩, hblock, heq⟩ := Option.map_eq_some_iff.mp hfound
          obtain ⟨rfl, rfl⟩ := Prod.mk.inj heq
          exact getBlock_length hblock
        · exact takePayload_length _ hfound
      refine List.forall_mem_cons.mpr ⟨?_, fun raw hraw => ?_⟩
      · change payload.size + 2 ≤ bytes.length
        omega
      · have hsize := ih hothers raw hraw
        omega

/-- The bytes in a field are two fewer than those that the field is read from. -/
theorem readFields_size {isBlock : Nat → Bool} {bytes : List UInt8} {raws : List RawField}
    (hread : readFields isBlock bytes = some raws) :
    ∀ raw ∈ raws, raw.2.size + 2 ≤ bytes.length :=
  takeFields_size hread

end CommonExpr.Protobuf
