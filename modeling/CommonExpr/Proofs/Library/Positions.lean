import CommonExpr.Proofs.Library.Joining
import CommonExpr.Proofs.Text.Bytewise

/-!
Positions in strings.

Main statement: searches and slices count code points, from zero to the end of the text; a
search finds the least or the greatest place that it may, a slice is the code points between
its bounds, and no search or slice of the stored bytes would cut a code point.
-/

namespace CommonExpr.Library

/-- The places at which `sub` occurs in `s`. -/
def places (s sub : String) : Set Nat := {i | Text.OccursAt sub.toList s.toList i}

/-- Whether an int is the least place, or minus one for none. -/
def IsFirst (places : Set Nat) (x : Int64) : Prop :=
  (∃ i, IsLeast places i ∧ x.toInt = i) ∨ (places = ∅ ∧ x.toInt = -1)

/-- Whether an int is the greatest place, or minus one for none. -/
def IsLast (places : Set Nat) (x : Int64) : Prop :=
  (∃ i, IsGreatest places i ∧ x.toInt = i) ∨ (places = ∅ ∧ x.toInt = -1)

/-- Whether an outcome is an int that answers for a position in `s`, or reports that there is
no such position. -/
structure AtPosition (id : Int) (s : String) (k : Int64) (answer : Nat → Int64 → Prop)
    (o : Outcome Value) : Prop where
  outside : o = fail id (.indexOutOfBounds k.toInt (s.length + 1)) ↔
    k.toInt < 0 ∨ s.length < k.toInt
  within : ∀ i : Nat, k.toInt = i → i ≤ s.length → ∃ x, o = .ok (.int x) ∧ answer i x

/-- The functions that search for `sub` in `s`. -/
structure SearchesByCodePoint (s sub : String) : Prop where
  index : ∀ id k, AtPosition id s k (fun i => IsFirst {j ∈ places s sub | i ≤ j})
    (indexOf.call id [.string s, .string sub, .int k])
  lastIndex : ∀ id k, AtPosition id s k
    (fun i x => IsLast {j ∈ places s sub | j ≤ i} x ∧ (sub = "" → x.toInt = i))
    (lastIndexOf.call id [.string s, .string sub, .int k])
  index_start : ∀ id, indexOf.call id [.string s, .string sub] =
    indexOf.call id [.string s, .string sub, .int 0]
  lastIndex_end : ∀ id, lastIndexOf.call id [.string s, .string sub] =
    lastIndexOf.call id [.string s, .string sub, .int (Int64.ofNat s.length)]
  /-- What is found is sliced out. -/
  index_slice : ∀ id i, indexOf.call id [.string s, .string sub] = .ok (.int i) → 0 ≤ i.toInt →
    substringFunc.call id [.string s, .int i, .int (i + Int64.ofNat sub.length)] =
      .ok (.string sub)

/-- The functions that slice `s`. -/
structure SlicesByCodePoint (s : String) : Prop where
  substring_ok_iff : ∀ id (a b : Int64),
    (∃ v, substringFunc.call id [.string s, .int a, .int b] = .ok v) ↔
      0 ≤ a.toInt ∧ a.toInt ≤ b.toInt ∧ b.toInt ≤ s.length
  substring : ∀ id (a b : Int64) (i j : Nat), a.toInt = i → b.toInt = j → i ≤ j → j ≤ s.length →
    substringFunc.call id [.string s, .int a, .int b] =
      .ok (.string (String.ofList ((s.toList.drop i).take (j - i))))
  charAt : ∀ id k, charAt.call id [.string s, .int k] =
    substringFunc.call id
      [.string s, .int k, .int (Int64.ofInt (min (k.toInt + 1) s.length))]
  /-- The two parts of a cut make up the text. -/
  halves : ∀ id (k : Int64), 0 ≤ k.toInt → k.toInt ≤ s.length → ∃ a b,
    substringFunc.call id [.string s, .int 0, .int k] = .ok (.string a) ∧
      substringFunc.call id [.string s, .int k] = .ok (.string b) ∧ a ++ b = s

/-- The same searches and slices of the stored bytes, none of which cuts a code point. -/
structure CutsAtBoundaries (s sub : String) : Prop where
  index : ∀ start ≤ s.length,
    (Text.Bytewise.find? s sub start).map positionValue = some (indexFrom s sub start)
  lastIndex : ∀ last,
    (Text.Bytewise.findLast? s sub last).map positionValue = some (lastIndexUpTo s sub last)
  substring : ∀ start stop, start ≤ stop → stop ≤ s.length →
    Text.Bytewise.substring? s start stop =
      some (String.ofList ((s.toList.drop start).take (stop - start)))

variable {s sub : String} {id : Int} {k : Int64}

/-! Positions -/

theorem position_eq_ok_iff {i : Nat} :
    position id s k = .ok i ↔ k.toInt = i ∧ i ≤ s.length := by
  rw [position]
  split
  · rw [Except.ok.injEq]
    omega
  · refine iff_of_false nofun ?_
    omega

theorem position_within {i : Nat} (hk : k.toInt = i) (hi : i ≤ s.length) :
    position id s k = .ok i := position_eq_ok_iff.mpr ⟨hk, hi⟩

theorem position_outside (hk : k.toInt < 0 ∨ s.length < k.toInt) :
    position id s k = fail id (.indexOutOfBounds k.toInt (s.length + 1)) := by
  rw [position, if_neg (by omega)]

theorem position_cases (s : String) (k : Int64) :
    (k.toInt < 0 ∨ s.length < k.toInt) ∨ ∃ i : Nat, k.toInt = i ∧ i ≤ s.length := by
  by_cases hk : k.toInt < 0 ∨ s.length < k.toInt
  · exact Or.inl hk
  · exact Or.inr ⟨k.toInt.toNat, by omega, by omega⟩

theorem toInt_ofNat_of_le (hs : s.length < 2 ^ 63) {i : Nat} (hi : i ≤ s.length) :
    (Int64.ofNat i).toInt = i :=
  Int64.toInt_ofNat_of_lt (hi.trans_lt hs)

theorem atPosition_map {answer : Nat → Int64 → Prop} {f : Nat → Value}
    (hf : ∀ i ≤ s.length, ∃ x, f i = .int x ∧ answer i x) :
    AtPosition id s k answer (f <$> position id s k) where
  outside := by
    rcases position_cases s k with hk | ⟨i, hk, hi⟩
    · rw [position_outside hk]
      exact iff_of_true rfl hk
    · rw [position_within hk hi]
      refine iff_of_false nofun ?_
      omega
  within i hk hi := by
    obtain ⟨x, hx, hanswer⟩ := hf i hi
    refine ⟨x, ?_, hanswer⟩
    rw [position_within hk hi, ← hx]
    rfl

/-! Searches -/

theorem indexFrom_isFirst (hs : s.length < 2 ^ 63) {i : Nat} (hi : i ≤ s.length) :
    ∃ x, indexFrom s sub i = .int x ∧ IsFirst {j ∈ places s sub | i ≤ j} x := by
  have hi' : i ≤ s.toList.length := by rwa [String.length_toList]
  rw [indexFrom]
  cases hfind : Text.find? sub.toList i (s.toList.drop i) with
  | none =>
      refine ⟨-1, rfl, Or.inr ⟨Set.eq_empty_of_forall_notMem ?_, rfl⟩⟩
      rintro j ⟨hj, hle⟩
      obtain ⟨d, rfl⟩ := Nat.exists_eq_add_of_le hle
      exact Text.find?_eq_none_iff.mp hfind d ((Text.occursAt_drop hi').mpr hj)
  | some j =>
      obtain ⟨d, rfl, hd, hleast⟩ := Text.find?_isLeast hfind
      have hplace : i + d ∈ places s sub := (Text.occursAt_drop hi').mp hd
      have hlength : i + d ≤ s.length := by
        have hle := hplace.le
        rw [String.length_toList] at hle
        exact (Nat.le_add_right _ _).trans hle
      refine ⟨_, rfl, Or.inl
        ⟨i + d, ⟨⟨hplace, Nat.le_add_right i d⟩, ?_⟩, toInt_ofNat_of_le hs hlength⟩⟩
      rintro j ⟨hj, hle⟩
      obtain ⟨e, rfl⟩ := Nat.exists_eq_add_of_le hle
      exact Nat.add_le_add_left (hleast ((Text.occursAt_drop hi').mpr hj)) i

theorem lastIndexUpTo_isLast (hs : s.length < 2 ^ 63) {i : Nat} (hi : i ≤ s.length) :
    ∃ x, lastIndexUpTo s sub i = .int x ∧
      IsLast {j ∈ places s sub | j ≤ i} x ∧ (sub = "" → x.toInt = i) := by
  rw [lastIndexUpTo]
  by_cases hsub : sub = ""
  · subst hsub
    have hplace : i ∈ places s "" := Text.nil_occursAt.mpr (by rwa [String.length_toList])
    have htoInt := toInt_ofNat_of_le hs hi
    exact ⟨_, rfl, Or.inl ⟨i, ⟨⟨hplace, le_rfl⟩, fun j hj => hj.2⟩, htoInt⟩, fun _ => htoInt⟩
  · rw [if_neg (by simpa using hsub)]
    cases hfind : Text.findLast? sub.toList i 0 s.toList with
    | none =>
        refine ⟨-1, rfl, Or.inr ⟨Set.eq_empty_of_forall_notMem ?_, rfl⟩, fun h => absurd h hsub⟩
        rintro j ⟨hj, hle⟩
        exact Text.findLast?_eq_none_iff.mp hfind j (by omega) hj
    | some j =>
        obtain ⟨j, rfl, ⟨hle, hj⟩, hgreatest⟩ := Text.findLast?_isGreatest hfind
        simp only [Nat.zero_add] at hle hgreatest ⊢
        have htoInt := toInt_ofNat_of_le hs (hle.trans hi)
        exact ⟨_, rfl, Or.inl ⟨j, ⟨⟨hj, hle⟩, fun m hm => hgreatest ⟨hm.2, hm.1⟩⟩, htoInt⟩,
          fun h => absurd h hsub⟩

/-! Slices -/

theorem substring_within {a b : Int64} {i j : Nat} (ha : a.toInt = i) (hb : b.toInt = j)
    (hij : i ≤ j) (hj : j ≤ s.length) :
    substring id s a b = .ok (.string (String.ofList ((s.toList.drop i).take (j - i)))) := by
  simp only [substring, position_within ha (hij.trans hj), position_within hb hj, if_pos hij]

theorem substring_ok_iff {a b : Int64} : (∃ v, substring id s a b = .ok v) ↔
    0 ≤ a.toInt ∧ a.toInt ≤ b.toInt ∧ b.toInt ≤ s.length := by
  constructor
  · rintro ⟨v, hv⟩
    rw [substring] at hv
    split at hv
    · cases hv
    · next i hi =>
        split at hv
        · cases hv
        · next j hj =>
            obtain ⟨ha, -⟩ := position_eq_ok_iff.mp hi
            obtain ⟨hb, hlength⟩ := position_eq_ok_iff.mp hj
            split at hv
            · omega
            · cases hv
  · rintro ⟨hzero, hab, hlength⟩
    obtain ⟨i, hi⟩ := Int.eq_ofNat_of_zero_le hzero
    obtain ⟨j, hj⟩ := Int.eq_ofNat_of_zero_le (hzero.trans hab)
    exact ⟨_, substring_within hi hj (by omega) (by omega)⟩

theorem charAt_call (id : Int) (s : String) (k : Int64) : charAt.call id [.string s, .int k] =
    (fun n => .string (String.ofList ((s.toList.drop n).take 1))) <$> position id s k := by
  have hrun : charAt.call id [.string s, .int k] = _ := Func.call_eq_run rfl id
  rw [hrun, Overload.run, Overload.ofValues]
  dsimp only
  rw [List.map_cons, List.map_cons, List.map_nil]
  dsimp only [Value.unwrap, Option.getD_some]
  cases position id s k <;> rfl

/-- A character is sliced out like any other part. -/
theorem charAt_eq (hs : s.length < 2 ^ 63) : charAt.call id [.string s, .int k] =
    substring id s k (Int64.ofInt (min (k.toInt + 1) s.length)) := by
  rw [charAt_call]
  rcases position_cases s k with hk | ⟨i, hk, hi⟩
  · rw [substring, position_outside hk]
    rfl
  · have hstop : (Int64.ofInt (min (k.toInt + 1) s.length)).toInt =
        (min (i + 1) s.length : Nat) := by
      rw [hk, Int64.toInt_ofInt_of_le (by omega) (by omega)]
      omega
    rw [position_within hk hi, substring_within hk hstop (by omega) (by omega)]
    -- At the end of the text there is nothing to take.
    have htake : (s.toList.drop i).take (min (i + 1) s.length - i) = (s.toList.drop i).take 1 := by
      rw [List.take_eq_take_iff, List.length_drop, String.length_toList]
      omega
    rw [htake]
    rfl

theorem halves_eq (id : Int) (hs : s.length < 2 ^ 63) {i : Nat} (hk : k.toInt = i)
    (hi : i ≤ s.length) :
    substring id s 0 k = .ok (.string (String.ofList (s.toList.take i))) ∧
      substring id s k (Int64.ofNat s.length) =
        .ok (.string (String.ofList (s.toList.drop i))) := by
  have hend := toInt_ofNat_of_le hs le_rfl
  refine ⟨?_, ?_⟩
  · rw [substring_within (i := 0) rfl hk (Nat.zero_le i) hi]
    rfl
  · rw [substring_within hk hend hi le_rfl,
      List.take_of_length_le (by rw [List.length_drop, String.length_toList])]

/-- What a search finds is what a slice of its length at that place gives. -/
theorem substring_of_place (hs : s.length < 2 ^ 63) {i : Int64} {j : Nat} (hi : i.toInt = j)
    (hj : j ∈ places s sub) :
    substring id s i (i + Int64.ofNat sub.length) = .ok (.string sub) := by
  have hle := hj.le
  rw [String.length_toList, String.length_toList] at hle
  have hstop : (i + Int64.ofNat sub.length).toInt = (j + sub.length : Nat) := by
    rw [Int64.toInt_add, Int64.toInt_ofNat_of_lt (by omega), hi,
      Int.bmod_eq_of_le (by omega) (by omega)]
    omega
  rw [substring_within hi hstop (by omega) hle]
  obtain ⟨before, after, hs', rfl⟩ := hj
  rw [hs', List.append_assoc, List.drop_left, Nat.add_sub_cancel_left, ← String.length_toList,
    List.take_left, String.ofList_toList]

theorem searchesByCodePoint (hs : s.length < 2 ^ 63) : SearchesByCodePoint s sub where
  index id k := atPosition_map fun i hi => indexFrom_isFirst hs hi
  lastIndex id k := atPosition_map fun i hi => lastIndexUpTo_isLast hs hi
  index_start id := by
    have hstart : indexOf.call id [.string s, .string sub, .int 0] =
        indexFrom s sub <$> position id s 0 := rfl
    rw [hstart, position_within (i := 0) rfl (Nat.zero_le _)]
    rfl
  lastIndex_end id := by
    have hend : lastIndexOf.call id [.string s, .string sub, .int (Int64.ofNat s.length)] =
        lastIndexUpTo s sub <$> position id s (Int64.ofNat s.length) := rfl
    rw [hend, position_within (toInt_ofNat_of_le hs le_rfl) le_rfl]
    rfl
  index_slice id i hindex hi := by
    have hfound : ∃ x, indexFrom s sub 0 = .int x ∧ IsFirst {j ∈ places s sub | 0 ≤ j} x :=
      indexFrom_isFirst hs (Nat.zero_le _)
    obtain ⟨x, hx, hfirst⟩ := hfound
    obtain rfl : x = i := by
      cases hx.symm.trans (Except.ok.inj hindex)
      rfl
    rcases hfirst with ⟨j, hj, htoInt⟩ | ⟨-, hminus⟩
    · exact substring_of_place hs htoInt hj.1.1
    · omega

theorem slicesByCodePoint (hs : s.length < 2 ^ 63) : SlicesByCodePoint s where
  substring_ok_iff id a b := substring_ok_iff
  substring id a b i j ha hb hij hj := substring_within ha hb hij hj
  charAt id k := charAt_eq hs
  halves id k hzero hk := by
    obtain ⟨i, hi⟩ := Int.eq_ofNat_of_zero_le hzero
    obtain ⟨hfirst, hsecond⟩ := halves_eq id hs hi (by omega)
    refine ⟨_, _, hfirst, hsecond, ?_⟩
    rw [← String.ofList_append, List.take_append_drop, String.ofList_toList]

theorem cutsAtBoundaries (s sub : String) : CutsAtBoundaries s sub where
  index start hstart := by
    rw [Text.Bytewise.find?_eq hstart, Option.map_some, indexFrom]
  lastIndex last := by
    rw [lastIndexUpTo]
    by_cases hsub : sub = ""
    · subst hsub
      rfl
    · rw [Text.Bytewise.findLast?_eq hsub, Option.map_some, if_neg (by simpa using hsub)]
  substring start stop hstart hstop := Text.Bytewise.substring?_eq hstart hstop

/-- In texts whose length is a word, searches and slices count code points, and those of the
stored bytes cut none. -/
theorem positions_count_code_points (s sub : String) (hs : s.length < 2 ^ 63) :
    SearchesByCodePoint s sub ∧ SlicesByCodePoint s ∧ CutsAtBoundaries s sub :=
  ⟨searchesByCodePoint hs, slicesByCodePoint hs, cutsAtBoundaries s sub⟩

namespace PositionWitness

/-- The second letter is stored as two bytes. -/
def word : String := "héllo"

theorem letter_found_by_code_point :
    word.length < 2 ^ 63 ∧
      (indexOf.call 1 [.string word, .string "l", .int 3] = .ok (.int 3) ∧
        IsFirst {j ∈ places word "l" | 3 ≤ j} 3) ∧
      substringFunc.call 1 [.string word, .int 2, .int (2 + Int64.ofNat "l".length)] =
        .ok (.string "l") ∧
      substringFunc.call 1 [.string word, .int 1, .int 3] = .ok (.string "él") ∧
      (Text.Bytewise.find? word "l" 3).map positionValue = some (indexFrom word "l" 3) := by
  have hshort : word.length < 2 ^ 63 := by decide
  obtain ⟨hsearch, hslice, hcut⟩ := positions_count_code_points word "l" hshort
  have hcall : indexOf.call 1 [.string word, .string "l", .int 3] = .ok (.int 3) := rfl
  refine ⟨hshort, ⟨hcall, ?_⟩, hsearch.index_slice 1 2 rfl (by decide), ?_,
    hcut.index 3 (by decide)⟩
  · obtain ⟨x, hx, hfirst⟩ := (hsearch.index 1 3).within 3 rfl (by decide)
    obtain rfl : (3 : Int64) = x := by
      cases hcall.symm.trans hx
      rfl
    exact hfirst
  · exact (hslice.substring 1 1 3 1 3 rfl rfl (by decide) (by decide)).trans rfl

end PositionWitness

end CommonExpr.Library
