import CommonExpr.Proofs.Text.Occurrence
import CommonExpr.Proofs.Text.Utf8

/-!
Searching and slicing the bytes of a text.

A text can be searched and cut as the bytes that it is stored as, and code points counted
before and after; a slice must then not begin or end within a code point.  Main statement:
no such search or slice takes any other, and they answer as those on code points do.
-/

namespace CommonExpr.Text.Bytewise

/-- The text between two byte offsets, `none` unless both lie between code points or at the
ends. -/
def slice? (s : String) (start stop : Nat) : Option String :=
  if start ≤ stop ∧ (String.Pos.Raw.mk start).isValid s ∧ (String.Pos.Raw.mk stop).isValid s then
    (Utf8.decode (((Utf8.encode s).take stop).drop start)).toOption
  else none

/-- The byte offsets of code points, counted from `base`, and of the end behind them. -/
def offsets (base : Nat) : List Char → List Nat
  | [] => [base]
  | c :: rest => base :: offsets (base + c.utf8Size) rest

/-- The byte offset of a code point or of the end. -/
def offset? (s : String) (i : Nat) : Option Nat := (offsets 0 s.toList)[i]?

/-- How many code points stand before a byte offset. -/
def pointsBefore? (s : String) (offset : Nat) : Option Nat := (slice? s 0 offset).map String.length

/-- The least offset at which bytes stand among others. -/
def firstOffset? (sub s : List UInt8) : Option Nat :=
  (List.range (s.length + 1)).find? fun offset => sub.isPrefixOf (s.drop offset)

/-- The greatest offset up to `last` at which bytes stand among others. -/
def lastOffset? (sub s : List UInt8) : (last : Nat) → Option Nat
  | 0 => if sub.isPrefixOf s then some 0 else none
  | last + 1 =>
      if sub.isPrefixOf (s.drop (last + 1)) then some (last + 1) else lastOffset? sub s last

/-- The least position from `start` on at which `sub` occurs, found among the bytes behind
`start`.  The outer `none` is a slice within a code point. -/
def find? (s sub : String) (start : Nat) : Option (Option Nat) :=
  match offset? s start with
  | none => some none
  | some base =>
      (slice? s base s.utf8ByteSize).bind fun rest =>
        match firstOffset? (Utf8.encode sub) (Utf8.encode rest) with
        | none => some none
        | some offset => (pointsBefore? s (base + offset)).map some

/-- The greatest position up to `last` at which `sub` occurs, found among the bytes of as many
code points as an occurrence at `last` needs. -/
def findLast? (s sub : String) (last : Nat) : Option (Option Nat) :=
  if sub.isEmpty then some (some last)
  else
    (slice? s 0 ((offset? s (last + sub.length)).getD s.utf8ByteSize)).bind fun window =>
      match lastOffset? (Utf8.encode sub) (Utf8.encode window) window.utf8ByteSize with
      | none => some none
      | some offset => (pointsBefore? s offset).map some

/-- The code points from `start` up to but not including `stop`. -/
def substring? (s : String) (start stop : Nat) : Option String :=
  slice? s ((offset? s start).getD s.utf8ByteSize) ((offset? s stop).getD s.utf8ByteSize)

/-! Slices -/

variable {s sub : String}

theorem encode_append (a b : String) : Utf8.encode (a ++ b) = Utf8.encode a ++ Utf8.encode b := by
  rw [Utf8.encode_eq, Utf8.encode_eq, Utf8.encode_eq, String.toByteArray_append]
  simp

theorem length_encode (s : String) : (Utf8.encode s).length = s.utf8ByteSize := by
  rw [Utf8.encode_eq]
  rfl

/-- A slice from one code point to another. -/
theorem slice?_append (a b c : String) :
    slice? (a ++ b ++ c) a.utf8ByteSize (a ++ b).utf8ByteSize = some b := by
  have hstart : (String.Pos.Raw.mk a.utf8ByteSize).IsValid (a ++ b ++ c) :=
    String.Pos.Raw.isValid_iff_exists_append.mpr ⟨a, b ++ c, String.append_assoc, rfl⟩
  have hstop : (String.Pos.Raw.mk (a ++ b).utf8ByteSize).IsValid (a ++ b ++ c) :=
    String.Pos.Raw.isValid_iff_exists_append.mpr ⟨a ++ b, c, rfl, rfl⟩
  have hle : a.utf8ByteSize ≤ (a ++ b).utf8ByteSize := by simp
  have hbytes : (((Utf8.encode (a ++ b ++ c)).take (a ++ b).utf8ByteSize).drop a.utf8ByteSize) =
      Utf8.encode b := by
    rw [encode_append, ← length_encode (a ++ b), List.take_left, encode_append, ← length_encode a,
      List.drop_left]
  rw [slice?, if_pos ⟨hle, by simpa using hstart, by simpa using hstop⟩, hbytes, Utf8.decode_encode]
  rfl

theorem slice?_first (a b : String) : slice? (a ++ b) 0 a.utf8ByteSize = some a := by
  have hslice := slice?_append "" a b
  simpa using hslice

theorem slice?_last (a b : String) :
    slice? (a ++ b) a.utf8ByteSize (a ++ b).utf8ByteSize = some b := by
  have hslice := slice?_append a b ""
  simpa using hslice

theorem pointsBefore?_append (a b : String) :
    pointsBefore? (a ++ b) a.utf8ByteSize = some a.length := by
  rw [pointsBefore?, slice?_first]
  rfl

/-! Offsets -/

theorem offsets_append (base : Nat) (a b : List Char) :
    (offsets base (a ++ b))[a.length]? = some (base + (String.ofList a).utf8ByteSize) := by
  induction a generalizing base with
  | nil => cases b <;> simp [offsets]
  | cons c a ih =>
      rw [List.cons_append, offsets, List.length_cons, List.getElem?_cons_succ, ih,
        String.ofList_cons, String.utf8ByteSize_append, String.utf8ByteSize_singleton,
        Nat.add_assoc]

theorem length_offsets (base : Nat) (s : List Char) : (offsets base s).length = s.length + 1 := by
  induction s generalizing base with
  | nil => rfl
  | cons c s ih => rw [offsets, List.length_cons, ih, List.length_cons]

theorem offset?_append (a b : String) : offset? (a ++ b) a.length = some a.utf8ByteSize := by
  have hoffset := offsets_append 0 a.toList b.toList
  rw [String.ofList_toList, Nat.zero_add] at hoffset
  rw [offset?, String.toList_append, ← String.length_toList, hoffset]

theorem offset?_eq_none {i : Nat} (hi : s.length < i) : offset? s i = none := by
  refine List.getElem?_eq_none ?_
  rw [length_offsets, String.length_toList]
  exact hi

/-- A text is cut at a code point. -/
theorem exists_append (s : String) {i : Nat} (hi : i ≤ s.length) :
    ∃ a b, s = a ++ b ∧ a.length = i ∧ a.toList = s.toList.take i ∧ b.toList = s.toList.drop i := by
  refine ⟨String.ofList (s.toList.take i), String.ofList (s.toList.drop i), ?_, ?_, ?_, ?_⟩
  · rw [← String.ofList_append, List.take_append_drop, String.ofList_toList]
  · rw [String.length_ofList, List.length_take_of_le (by rwa [String.length_toList])]
  · exact String.toList_ofList
  · exact String.toList_ofList

/-- Slices at code points are the texts between them. -/
theorem substring?_eq {start stop : Nat} (hstart : start ≤ stop) (hstop : stop ≤ s.length) :
    substring? s start stop =
      some (String.ofList ((s.toList.drop start).take (stop - start))) := by
  obtain ⟨ab, c, rfl, rfl, -, -⟩ := exists_append s hstop
  obtain ⟨a, b, rfl, rfl, -, -⟩ := exists_append ab hstart
  have hfrom : offset? (a ++ b ++ c) a.length = some a.utf8ByteSize := by
    rw [String.append_assoc, offset?_append]
  have hmiddle : ((a ++ b ++ c).toList.drop a.length).take ((a ++ b).length - a.length) =
      b.toList := by
    rw [String.toList_append, String.toList_append, List.append_assoc, String.length_append,
      Nat.add_sub_cancel_left, ← String.length_toList (s := a), List.drop_left,
      ← String.length_toList (s := b), List.take_left]
  rw [substring?, hfrom, offset?_append, Option.getD_some, Option.getD_some, slice?_append,
    hmiddle, String.ofList_toList]

/-! Occurrences -/

theorem occursAt_toList_iff {i : Nat} :
    OccursAt sub.toList s.toList i ↔ ∃ a b, s = a ++ sub ++ b ∧ a.length = i := by
  constructor
  · rintro ⟨before, after, hs, rfl⟩
    refine ⟨String.ofList before, String.ofList after, String.toList_inj.mp ?_,
      String.length_ofList⟩
    rw [hs, String.toList_append, String.toList_append, String.toList_ofList, String.toList_ofList]
  · rintro ⟨a, b, rfl, rfl⟩
    exact ⟨a.toList, b.toList, by rw [String.toList_append, String.toList_append],
      String.length_toList⟩

theorem toByteArray_eq (s : String) : s.toByteArray = ⟨(Utf8.encode s).toArray⟩ := by
  rw [Utf8.encode_eq, Array.toArray_toList]

/-- Bytes of a text that begin with those of another are a text that begins with the other. -/
theorem exists_append_of_encode {after : List UInt8}
    (hs : Utf8.encode s = Utf8.encode sub ++ after) : ∃ b, s = sub ++ b := by
  have hbytes : sub.toList.utf8Encode ++ ⟨after.toArray⟩ = s.toList.utf8Encode := by
    rw [← String.toByteArray_ofList, ← String.toByteArray_ofList, String.ofList_toList,
      String.ofList_toList, toByteArray_eq s, hs, toByteArray_eq sub]
    exact ByteArray.ext (by simp)
  obtain ⟨rest, hrest⟩ := List.isPrefix_of_utf8Encode_append_eq_utf8Encode _ hbytes
  refine ⟨String.ofList rest, String.toList_inj.mp ?_⟩
  rw [String.toList_append, String.toList_ofList, hrest]

/-- Where the bytes of a text stand among those of another, the text itself stands. -/
theorem occursAt_encode_iff (hsub : sub ≠ "") {offset : Nat} :
    OccursAt (Utf8.encode sub) (Utf8.encode s) offset ↔
      ∃ a b, s = a ++ sub ++ b ∧ a.utf8ByteSize = offset := by
  constructor
  · rintro ⟨before, after, hs, rfl⟩
    -- The bytes in between are a text, so they start at a code point.
    have hsize : before.length + sub.utf8ByteSize ≤ s.utf8ByteSize := by
      rw [← length_encode s, hs, ← length_encode sub]
      simp
    have hbetween : s.toByteArray.extract before.length (before.length + sub.utf8ByteSize) =
        sub.toByteArray := by
      rw [toByteArray_eq s, hs, toByteArray_eq sub, ← length_encode sub]
      exact ByteArray.ext (by simp)
    have hne : before.length ≠ before.length + sub.utf8ByteSize := by
      have hpos : sub.utf8ByteSize ≠ 0 := by simpa using hsub
      omega
    have hvalid := (String.Pos.Raw.isValidUTF8_extract_iff (s := s) ⟨before.length⟩
      ⟨before.length + sub.utf8ByteSize⟩ (by simp [String.Pos.Raw.le_iff])
      (by simpa [String.Pos.Raw.le_iff] using hsize)).mp (hbetween ▸ sub.isValidUTF8)
    obtain ⟨hstart, -⟩ := hvalid.resolve_left (by simpa using hne)
    obtain ⟨a, rest, rfl, ha⟩ := String.Pos.Raw.isValid_iff_exists_append.mp hstart
    have hlength : before.length = a.utf8ByteSize := congrArg String.Pos.Raw.byteIdx ha
    rw [encode_append, List.append_assoc] at hs
    obtain ⟨-, hrest⟩ := List.append_inj hs ((length_encode a).trans hlength.symm)
    obtain ⟨b, rfl⟩ := exists_append_of_encode hrest
    exact ⟨a, b, String.append_assoc.symm, hlength.symm⟩
  · rintro ⟨a, b, rfl, rfl⟩
    exact ⟨Utf8.encode a, Utf8.encode b, by rw [encode_append, encode_append], length_encode a⟩

/-- Of two beginnings of a text the one of fewer code points has fewer bytes. -/
theorem utf8ByteSize_le {a b x y : String} (happend : a ++ x = b ++ y)
    (hlength : a.length ≤ b.length) : a.utf8ByteSize ≤ b.utf8ByteSize := by
  obtain ⟨b, c, rfl, hb, -, -⟩ := exists_append b hlength
  have hlists : a.toList ++ x.toList = b.toList ++ (c ++ y).toList := by
    rw [← String.toList_append, happend, String.append_assoc, String.toList_append]
  obtain ⟨hhead, -⟩ := List.append_inj hlists
    (by rw [String.length_toList, String.length_toList, hb])
  rw [String.toList_inj.mp hhead, String.utf8ByteSize_append]
  exact Nat.le_add_right _ _

/-! Searches -/

theorem firstOffset?_eq_none_iff {sub s : List UInt8} :
    firstOffset? sub s = none ↔ ∀ offset, ¬ OccursAt sub s offset := by
  simp only [firstOffset?, List.find?_eq_none, List.mem_range, Nat.lt_succ_iff,
    List.isPrefixOf_iff_prefix, occursAt_iff_drop, not_and]

theorem firstOffset?_of_isLeast {sub s : List UInt8} {offset : Nat}
    (hoffset : IsLeast {j | OccursAt sub s j} offset) : firstOffset? sub s = some offset := by
  obtain ⟨hle, hprefix⟩ := occursAt_iff_drop.mp hoffset.1
  rw [firstOffset?, List.find?_range_eq_some]
  refine ⟨?_, List.mem_range.mpr (Nat.lt_succ_of_le hle), fun j hj => ?_⟩
  · exact List.isPrefixOf_iff_prefix.mpr hprefix
  · have hnot : ¬ sub <+: s.drop j := fun h =>
      absurd (hoffset.2 (occursAt_iff_drop.mpr ⟨by omega, h⟩)) (Nat.not_le_of_lt hj)
    simpa [← List.isPrefixOf_iff_prefix] using hnot

theorem lastOffset?_eq_none_iff {sub s : List UInt8} {last : Nat} (hlast : last ≤ s.length) :
    lastOffset? sub s last = none ↔ ∀ offset ≤ last, ¬ OccursAt sub s offset := by
  induction last with
  | zero => simp [lastOffset?, occursAt_zero]
  | succ last ih =>
      have hiff : sub.isPrefixOf (s.drop (last + 1)) = true ↔ OccursAt sub s (last + 1) := by
        simp [occursAt_iff_drop, hlast]
      rw [lastOffset?]
      split <;> rename_i hoccurs <;> rw [hiff] at hoccurs
      · exact iff_of_false nofun fun hnone => hnone _ le_rfl hoccurs
      · rw [ih (by omega)]
        constructor
        · intro hnone offset hoffset
          rcases Nat.le_succ_iff.mp hoffset with hle | rfl
          · exact hnone offset hle
          · exact hoccurs
        · intro hnone offset hoffset
          exact hnone offset (by omega)

theorem lastOffset?_of_isGreatest {sub s : List UInt8} {last offset : Nat} (hlast : last ≤ s.length)
    (hoffset : IsGreatest {j | j ≤ last ∧ OccursAt sub s j} offset) :
    lastOffset? sub s last = some offset := by
  induction last with
  | zero =>
      obtain ⟨⟨hzero, hoccurs⟩, -⟩ := hoffset
      obtain rfl := Nat.le_zero.mp hzero
      simp [lastOffset?, occursAt_zero.mp hoccurs]
  | succ last ih =>
      have hiff : sub.isPrefixOf (s.drop (last + 1)) = true ↔ OccursAt sub s (last + 1) := by
        simp [occursAt_iff_drop, hlast]
      obtain ⟨⟨hle, hoccurs⟩, hgreatest⟩ := hoffset
      rw [lastOffset?]
      split <;> rename_i htop <;> rw [hiff] at htop
      · have heq : last + 1 = offset := le_antisymm (hgreatest ⟨le_rfl, htop⟩) hle
        rw [heq]
      · have hne : offset ≠ last + 1 := by
          rintro rfl
          exact htop hoccurs
        refine ih (by omega) ⟨⟨by omega, hoccurs⟩, ?_⟩
        rintro j ⟨hj, hjoccurs⟩
        exact hgreatest ⟨by omega, hjoccurs⟩

theorem firstOffset?_nil (s : List UInt8) : firstOffset? [] s = some 0 :=
  firstOffset?_of_isLeast ⟨nil_occursAt.mpr (Nat.zero_le _), fun _ _ => Nat.zero_le _⟩

/-- The least place of a text is that of the least offset of its bytes. -/
theorem exists_firstOffset? {i : Nat} (hi : IsLeast {j | OccursAt sub.toList s.toList j} i) :
    ∃ a b, s = a ++ b ∧ a.length = i ∧
      firstOffset? (Utf8.encode sub) (Utf8.encode s) = some a.utf8ByteSize := by
  by_cases hsub : sub = ""
  · subst hsub
    have hzero : i = 0 := Nat.le_zero.mp (hi.2 (nil_occursAt.mpr (Nat.zero_le _)))
    have hempty : Utf8.encode "" = [] := List.eq_nil_of_length_eq_zero (length_encode "")
    exact ⟨"", s, by simp, hzero.symm, hempty ▸ firstOffset?_nil _⟩
  · obtain ⟨a, b, rfl, rfl⟩ := occursAt_toList_iff.mp hi.1
    refine ⟨a, sub ++ b, String.append_assoc, rfl, firstOffset?_of_isLeast ⟨?_, ?_⟩⟩
    · exact (occursAt_encode_iff hsub).mpr ⟨a, b, rfl, rfl⟩
    · intro offset hoffset
      obtain ⟨a', b', happend, rfl⟩ := (occursAt_encode_iff hsub).mp hoffset
      have hlength : a.length ≤ a'.length := hi.2 (occursAt_toList_iff.mpr ⟨a', b', happend, rfl⟩)
      rw [String.append_assoc, String.append_assoc] at happend
      exact utf8ByteSize_le happend hlength

/-- The greatest place of a text is that of the greatest offset of its bytes. -/
theorem exists_lastOffset? (hsub : sub ≠ "") {i : Nat}
    (hi : IsGreatest {j | OccursAt sub.toList s.toList j} i) :
    ∃ a b, s = a ++ b ∧ a.length = i ∧
      lastOffset? (Utf8.encode sub) (Utf8.encode s) s.utf8ByteSize = some a.utf8ByteSize := by
  obtain ⟨a, b, rfl, rfl⟩ := occursAt_toList_iff.mp hi.1
  refine ⟨a, sub ++ b, String.append_assoc, rfl,
    lastOffset?_of_isGreatest (length_encode _).ge ⟨⟨?_, ?_⟩, ?_⟩⟩
  · rw [String.utf8ByteSize_append, String.utf8ByteSize_append, Nat.add_assoc]
    exact Nat.le_add_right _ _
  · exact (occursAt_encode_iff hsub).mpr ⟨a, b, rfl, rfl⟩
  · rintro offset ⟨-, hoffset⟩
    obtain ⟨a', b', happend, rfl⟩ := (occursAt_encode_iff hsub).mp hoffset
    have hlength : a'.length ≤ a.length := hi.2 (occursAt_toList_iff.mpr ⟨a', b', happend, rfl⟩)
    rw [String.append_assoc, String.append_assoc] at happend
    exact utf8ByteSize_le happend.symm hlength

/-- The bytes of a text that does not occur do not either. -/
theorem not_occursAt_encode (hnone : ∀ i, ¬ OccursAt sub.toList s.toList i) (offset : Nat) :
    ¬ OccursAt (Utf8.encode sub) (Utf8.encode s) offset := by
  have hsub : sub ≠ "" := by
    rintro rfl
    exact hnone 0 (nil_occursAt.mpr (Nat.zero_le _))
  intro hoffset
  obtain ⟨a, b, rfl, rfl⟩ := (occursAt_encode_iff hsub).mp hoffset
  exact hnone a.length (occursAt_toList_iff.mpr ⟨a, b, rfl, rfl⟩)

theorem find?_append (a rest : String) : find? (a ++ rest) sub a.length =
    match firstOffset? (Utf8.encode sub) (Utf8.encode rest) with
    | none => some none
    | some offset => (pointsBefore? (a ++ rest) (a.utf8ByteSize + offset)).map some := by
  rw [find?, offset?_append]
  dsimp only
  rw [slice?_last, Option.bind_some]

/-- A search among bytes takes no slice within a code point and finds the least position. -/
theorem find?_eq {start : Nat} (hstart : start ≤ s.length) :
    find? s sub start = some (Text.find? sub.toList start (s.toList.drop start)) := by
  obtain ⟨a, rest, rfl, rfl, -, hrest⟩ := exists_append s hstart
  rw [← hrest, find?_append]
  cases hfind : Text.find? sub.toList a.length rest.toList with
  | none =>
      have hnone := not_occursAt_encode (find?_eq_none_iff.mp hfind)
      rw [firstOffset?_eq_none_iff.mpr hnone]
  | some i =>
      obtain ⟨j, rfl, hj⟩ := find?_isLeast hfind
      obtain ⟨x, y, rfl, rfl, hoffset⟩ := exists_firstOffset? hj
      have hpoints := pointsBefore?_append (a ++ x) y
      rw [String.append_assoc, String.utf8ByteSize_append, String.length_append] at hpoints
      rw [hoffset]
      dsimp only
      rw [hpoints, Option.map_some]

/-- As many code points as there are, up to a number. -/
theorem exists_offset (s : String) (i : Nat) :
    ∃ a b, s = a ++ b ∧ a.toList = s.toList.take i ∧
      (offset? s i).getD s.utf8ByteSize = a.utf8ByteSize := by
  by_cases hi : i ≤ s.length
  · obtain ⟨a, b, rfl, rfl, ha, -⟩ := exists_append s hi
    exact ⟨a, b, rfl, ha, by rw [offset?_append, Option.getD_some]⟩
  · have hlt : s.length < i := Nat.lt_of_not_le hi
    refine ⟨s, "", by simp, ?_, by rw [offset?_eq_none hlt, Option.getD_none]⟩
    rw [List.take_of_length_le (by rw [String.length_toList]; exact hlt.le)]

/-- A search from the end among bytes takes no slice within a code point and finds the greatest
position. -/
theorem findLast?_eq (hsub : sub ≠ "") (last : Nat) :
    findLast? s sub last = some (Text.findLast? sub.toList last 0 s.toList) := by
  obtain ⟨window, rest, hs, htake, hstop⟩ := exists_offset s (last + sub.length)
  have hplaces : {j | OccursAt sub.toList window.toList j} =
      {j | j ≤ last ∧ OccursAt sub.toList s.toList j} := by
    ext j
    rw [Set.mem_ofPred_eq, Set.mem_ofPred_eq, htake, occursAt_take, String.length_toList,
      Nat.add_le_add_iff_right]
    exact and_comm
  rw [findLast?, if_neg (by simpa using hsub), hstop, hs, slice?_first, Option.bind_some, ← hs]
  cases hfind : Text.findLast? sub.toList last 0 s.toList with
  | none =>
      have hnone : ∀ i, ¬ OccursAt sub.toList window.toList i := by
        intro i hi
        obtain ⟨hle, hoccurs⟩ := hplaces.subset hi
        exact findLast?_eq_none_iff.mp hfind i (by omega) hoccurs
      rw [(lastOffset?_eq_none_iff (length_encode window).ge).mpr
        fun offset _ => not_occursAt_encode hnone offset]
  | some i =>
      obtain ⟨j, rfl, hj⟩ := findLast?_isGreatest hfind
      simp only [Nat.zero_add] at hj ⊢
      rw [← hplaces] at hj
      obtain ⟨x, y, rfl, rfl, hoffset⟩ := exists_lastOffset? hsub hj
      have hpoints := pointsBefore?_append x (y ++ rest)
      rw [← String.append_assoc, ← hs] at hpoints
      rw [hoffset]
      dsimp only
      rw [hpoints, Option.map_some]

end CommonExpr.Text.Bytewise
