import CommonExpr.Proofs.Protobuf.Depth
import CommonExpr.Proofs.Protobuf.Reading

/-!
How deep the values are that are read out of host data.

Reading replaces data by a value that is no deeper, even where it unpacks a message
from bytes.  Main statement: what a list, a map or a message holds is less deep than
itself, but for unset message fields, whose zero value may be deeper.
-/

namespace CommonExpr

theorem Json.listDepth_le_iff {xs : List Json} {d : Nat} :
    Json.listDepth xs ≤ d ↔ ∀ x ∈ xs, x.depth ≤ d := by
  induction xs with
  | nil => simp [Json.listDepth]
  | cons head rest ih => rw [Json.listDepth, Nat.max_le, ih, List.forall_mem_cons]

theorem Json.memberDepth_le_iff {members : List (String × Json)} {d : Nat} :
    Json.memberDepth members ≤ d ↔ ∀ e ∈ members, e.2.depth ≤ d := by
  induction members with
  | nil => simp [Json.memberDepth]
  | cons head rest ih => rw [Json.memberDepth, Nat.max_le, ih, List.forall_mem_cons]

theorem Exchange.Value.listDepth_le_iff {xs : List Exchange.Value} {d : Nat} :
    Exchange.Value.listDepth xs ≤ d ↔ ∀ x ∈ xs, x.depth ≤ d := by
  induction xs with
  | nil => simp [Exchange.Value.listDepth]
  | cons head rest ih => rw [Exchange.Value.listDepth, Nat.max_le, ih, List.forall_mem_cons]

theorem pairDepth_le_iff {pairs : List (Exchange.Value × Exchange.Value)} {d : Nat} :
    pairDepth pairs ≤ d ↔ ∀ e ∈ pairs, e.1.depth ≤ d ∧ e.2.depth ≤ d := by
  induction pairs with
  | nil => simp [pairDepth]
  | cons head rest ih => rw [pairDepth, Nat.max_le, Nat.max_le, ih, List.forall_mem_cons]

theorem Value.listDepth_le_iff {vs : List Value} {d : Nat} :
    Value.listDepth vs ≤ d ↔ ∀ v ∈ vs, v.depth ≤ d := by
  induction vs with
  | nil => simp [Value.listDepth]
  | cons head rest ih => rw [Value.listDepth, Nat.max_le, ih, List.forall_mem_cons]

theorem Value.entryDepth_le_iff {es : List (Value × Value)} {d : Nat} :
    Value.entryDepth es ≤ d ↔ ∀ e ∈ es, e.1.depth ≤ d ∧ e.2.depth ≤ d := by
  induction es with
  | nil => simp [Value.entryDepth]
  | cons head rest ih => rw [Value.entryDepth, Nat.max_le, Nat.max_le, ih, List.forall_mem_cons]

theorem Json.depth_pos (x : Json) : 0 < x.depth := by
  cases x <;> exact Nat.succ_pos _

theorem Value.depth_pos (v : Value) : 0 < v.depth := by
  cases v <;> exact Nat.succ_pos _

/-! Reading one level -/

theorem Json.depth_of_toValue {x : Json} {id : Int} {v : Value} (hread : x.toValue id = .ok v) :
    v.depth ≤ x.depth := by
  unfold Json.toValue at hread
  split at hread
  case h_3 => split at hread <;> cases hread <;> exact Nat.le_refl _
  case h_7 =>
    split at hread
    · cases hread
    · cases hread
      exact Nat.le_refl _
  all_goals
    cases hread
    exact Nat.le_refl _

namespace Protobuf

theorem Value.depth_pos (x : Value) : 0 < x.depth := by
  cases x <;> exact Nat.succ_pos _

theorem depth_of_mapValue {schema : Schema} {id : Int} {ty : Ty} {entries : List (Key × Value)}
    {v : CommonExpr.Value} (hread : mapValue schema id ty entries = .ok v) :
    v.depth = Value.entryDepth entries + 1 := by
  simp only [mapValue] at hread
  split at hread
  · cases hread
  · cases hread
    rfl

theorem Message.depth_of_jsonField? {m : Message} {name : String} {v : Value}
    (hfield : m.jsonField? = some (name, v)) : v.depth < m.depth := by
  obtain ⟨f, hf, hname⟩ := List.exists_of_findSome?_eq_some hfield
  have hhas := (List.mem_filter.mp hf).2
  split at hname
  · obtain ⟨-, rfl⟩ := Prod.mk.inj (Option.some.inj hname)
    unfold Message.has at hhas
    split at hhas
    · cases hhas
    · next stored hstored =>
        rw [Message.get, hstored]
        exact Message.depth_of_stored? hstored
  · cases hname

/-- Bytes are as deep as what may be packed in them. -/
theorem Message.depth_of_bytesAt (m : Message) (number : Nat) :
    2 * (m.bytesAt number).length + 1 ≤ m.depth := by
  unfold Message.bytesAt
  split
  · next b hstored =>
      have hdepth := Message.depth_of_stored? hstored
      rw [Value.depth] at hdepth
      omega
  · exact m.depth_pos

theorem Message.Reads.depth_le {schema : Schema} {id : Int} {m : Message} {v : CommonExpr.Value}
    (hreads : m.Reads schema id v) : v.depth ≤ m.depth + 1 := by
  induction hreads with
  | @any m inner type v hname htype hdecode hread ih =>
      have hdecoded := depth_of_mergeBytes hdecode
      have hpacked := m.depth_of_bytesAt 2
      omega
  | @nested m inner field v hname hfield hread ih =>
      have hinner := Message.depth_of_jsonField? hfield
      rw [Value.depth] at hinner
      omega
  | @struct m v hname hmap =>
      have hentries : Value.entryDepth (m.entriesAt 1) ≤ m.depth :=
        Value.entryDepth_le_iff.mpr fun e he => by
          have := Message.depth_of_mem_entriesAt he
          omega
      rw [depth_of_mapValue hmap]
      omega
  | @list m hname =>
      refine Nat.succ_le_succ (Value.listDepth_le_iff.mpr fun v hv => ?_)
      have := Message.depth_of_mem_listAt hv
      omega
  | object => exact Nat.le_refl _
  | _ => exact Nat.le_add_left _ _

theorem Message.depth_of_toValue {schema : Schema} {id : Int} {m : Message}
    {v : CommonExpr.Value} (hread : m.toValue schema id = .ok v) : v.depth ≤ m.depth + 1 :=
  (Message.reads_of_read hread).depth_le

theorem Kind.Fits.depth_of_toValue {kind : Kind} {x : Value} (hfits : kind.Fits x)
    {schema : Schema} {id : Int} {v : CommonExpr.Value} (hread : x.toValue schema id = .ok v) :
    v.depth = 1 := by
  obtain ⟨s, hs, -⟩ := hfits
  unfold Value.toValue at hread
  split at hread
  · cases hs
  · cases hs
  · cases hs
  · split at hread <;> cases hread <;> rfl

theorem Value.depth_of_toValue {schema : Schema} {id : Int} {x : Value} {v : CommonExpr.Value}
    (hread : x.toValue schema id = .ok v) : v.depth ≤ x.depth := by
  unfold Value.toValue at hread
  split at hread
  · exact Message.depth_of_toValue hread
  · cases hread
    exact Nat.le_refl _
  · exact Nat.le_of_eq (depth_of_mapValue hread)
  · have hv : v.depth = 1 := by split at hread <;> cases hread <;> rfl
    have hx := x.depth_pos
    omega

theorem Message.depth_get_le (m : Message) (field : Field) (hshape : field.shape ≠ .singular) :
    (m.get field).depth ≤ m.depth := by
  rcases m.get_cases field with hstored | ⟨-, hdefault⟩
  · exact Nat.le_of_lt (Message.depth_of_stored? hstored)
  · have hone : (field.defaultValue m.schema).depth = 1 := by
      unfold Field.defaultValue
      split
      · rfl
      · rfl
      · next hsingular => exact absurd hsingular hshape
    rw [hdefault, hone]
    exact m.depth_pos

/-- A field is less deep than its message, unless it is unset. -/
theorem Message.depth_of_fieldValue {schema : Schema} {id : Int} {m : Message} {field : Field}
    {v : CommonExpr.Value} (hread : m.fieldValue schema id field = .ok v) :
    v.isNull = true ∨ v.depth ≤ m.depth := by
  have hpos := m.depth_pos
  have hstored (hstored : m.stored? field.number = some (m.get field))
      (hread : (m.get field).toValue schema id = .ok v) : v.depth ≤ m.depth :=
    Nat.le_trans (Value.depth_of_toValue hread) (Nat.le_of_lt (Message.depth_of_stored? hstored))
  unfold Message.fieldValue at hread
  split at hread
  · next key entries hshape hget =>
      have hdepth := m.depth_get_le field (by simp [hshape])
      rw [hget] at hdepth
      exact Or.inr (Nat.le_trans (Nat.le_of_eq (depth_of_mapValue hread)) hdepth)
  · cases hread
  · next packed values hshape hget =>
      have hdepth := m.depth_get_le field (by simp [hshape])
      rw [hget] at hdepth
      cases hread
      exact Or.inr hdepth
  · right
    cases hread
    exact hpos
  · next hshape =>
      split at hread
      · split at hread
        · next hhas => exact Or.inr (hstored (Message.stored?_of_has hhas) hread)
        · split at hread
          · cases hread
          · cases hread
            exact Or.inl rfl
      · next hscalar =>
          right
          rcases m.get_cases field with hset | ⟨-, hdefault⟩
          · exact hstored hset hread
          · rw [hdefault] at hread
            have hfits := Field.fits_defaultValue m.schema hshape hscalar
            exact Nat.le_trans (Nat.le_of_eq (hfits.depth_of_toValue hread)) hpos

end Protobuf

theorem Exchange.depth_of_wholeEntries? {entries : List MapEntry}
    {pairs : List (Exchange.Value × Exchange.Value)} (hwhole : wholeEntries? entries = some pairs) :
    pairDepth pairs = MapEntry.listDepth entries := by
  fun_induction wholeEntries? entries generalizing pairs with
  | case1 =>
      cases hwhole
      rfl
  | case2 key value rest ih =>
      obtain ⟨others, hothers, rfl⟩ := Option.map_eq_some_iff.mp hwhole
      rw [pairDepth, MapEntry.listDepth, ih hothers]
      rfl
  | case3 => cases hwhole

theorem Exchange.depth_of_readObject {schema : Option Protobuf.Schema} {id : Int} {url : String}
    {payload : List UInt8} {v : CommonExpr.Value}
    (hread : readObject schema id url payload = .ok v) : v.depth ≤ 2 * payload.length + 2 := by
  have hread_known {type : Protobuf.MessageType} {m : Protobuf.Message}
      (hm : Protobuf.decodeKnown? format type payload = some m)
      (hread : m.toValue format id = .ok v) : v.depth ≤ 2 * payload.length + 2 :=
    Nat.le_trans (Protobuf.Message.depth_of_toValue hread)
      (Nat.succ_le_succ (Protobuf.depth_of_mergeBytes hm))
  unfold readObject at hread
  split at hread
  · split at hread
    · cases hread
    · next hm => exact hread_known hm hread
  · split at hread
    · split at hread
      · cases hread
      · next hm => exact hread_known hm hread
    · split at hread
      · obtain ⟨type, inner, -, hinner, hreads⟩ := Protobuf.reads_of_unpackAny hread
        exact Nat.le_trans hreads.depth_le (Nat.succ_le_succ (Protobuf.depth_of_mergeBytes hinner))
      · cases hread

theorem Exchange.Value.depth_of_toValue {schema : Option Protobuf.Schema} {id : Int}
    {x : Exchange.Value} {v : CommonExpr.Value} (hread : x.toValue schema id = .ok v) :
    v.depth ≤ x.depth := by
  cases x with
  | object url payload => exact Exchange.depth_of_readObject hread
  | map entries =>
      rw [Exchange.Value.toValue] at hread
      split at hread
      · cases hread
      · next pairs hpairs =>
          split at hread
          · cases hread
          · cases hread
            rw [Exchange.Value.depth, ← Exchange.depth_of_wholeEntries? hpairs]
            exact Nat.le_refl _
  | _ =>
      rw [Exchange.Value.toValue] at hread
      cases hread
      exact Nat.le_refl _

/-! What containers hold -/

/-- An element is less deep than its list. -/
theorem Items.depth_of_read {items : Items} {id : Int} {v : Value} (hv : .ok v ∈ items.read id) :
    v.depth ≤ items.depth := by
  cases items with
  | values vs =>
      obtain ⟨w, hw, heq⟩ := List.mem_map.mp hv
      cases heq
      exact Value.listDepth_le_iff.mp (Nat.le_refl _) v hw
  | json xs =>
      obtain ⟨x, hx, hread⟩ := List.mem_map.mp hv
      exact Nat.le_trans (Json.depth_of_toValue hread)
        (Json.listDepth_le_iff.mp (Nat.le_refl _) x hx)
  | exchange schema xs =>
      obtain ⟨x, hx, hread⟩ := List.mem_map.mp hv
      exact Nat.le_trans (Exchange.Value.depth_of_toValue hread)
        (Exchange.Value.listDepth_le_iff.mp (Nat.le_refl _) x hx)
  | protobuf schema xs =>
      obtain ⟨x, hx, hread⟩ := List.mem_map.mp hv
      exact Nat.le_trans (Protobuf.Value.depth_of_toValue hread)
        (Protobuf.Value.listDepth_le_iff.mp (Nat.le_refl _) x hx)

/-- The value of an entry is less deep than its map. -/
theorem Entries.depth_of_read {entries : Entries} {id : Int} {k : Outcome Value} {v : Value}
    (hv : (k, .ok v) ∈ entries.read id) : v.depth ≤ entries.depth := by
  cases entries with
  | values es =>
      obtain ⟨e, he, heq⟩ := List.mem_map.mp hv
      cases heq
      exact (Value.entryDepth_le_iff.mp (Nat.le_refl _) e he).2
  | json es =>
      obtain ⟨e, he, heq⟩ := List.mem_map.mp hv
      exact Nat.le_trans (Json.depth_of_toValue (Prod.mk.inj heq).2)
        (Json.memberDepth_le_iff.mp (Nat.le_refl _) e he)
  | exchange schema es =>
      obtain ⟨e, he, heq⟩ := List.mem_map.mp hv
      exact Nat.le_trans (Exchange.Value.depth_of_toValue (Prod.mk.inj heq).2)
        (pairDepth_le_iff.mp (Nat.le_refl _) e he).2
  | protobuf schema es =>
      obtain ⟨e, he, heq⟩ := List.mem_map.mp hv
      exact Nat.le_trans (Protobuf.Value.depth_of_toValue (Prod.mk.inj heq).2)
        (Protobuf.Value.entryDepth_le_iff.mp (Nat.le_refl _) e he)

/-- The key of an entry is less deep than its map. -/
theorem Entries.depth_of_read_key {entries : Entries} {id : Int} {k : Value} {o : Outcome Value}
    (hk : (.ok k, o) ∈ entries.read id) : k.depth ≤ entries.depth := by
  cases entries with
  | values es =>
      obtain ⟨e, he, heq⟩ := List.mem_map.mp hk
      cases heq
      exact (Value.entryDepth_le_iff.mp (Nat.le_refl _) e he).1
  | json es =>
      obtain ⟨e, he, heq⟩ := List.mem_map.mp hk
      cases heq
      have hvalue := Json.memberDepth_le_iff.mp (Nat.le_refl (Json.memberDepth es)) e he
      exact Nat.le_trans e.2.depth_pos hvalue
  | exchange schema es =>
      obtain ⟨e, he, heq⟩ := List.mem_map.mp hk
      exact Nat.le_trans (Exchange.Value.depth_of_toValue (Prod.mk.inj heq).1)
        (pairDepth_le_iff.mp (Nat.le_refl _) e he).1
  | protobuf schema es =>
      obtain ⟨e, he, heq⟩ := List.mem_map.mp hk
      have hkey : k.depth ≤ e.1.toValue.depth :=
        Protobuf.Value.depth_of_toValue (Prod.mk.inj heq).1
      have hone : e.1.toValue.depth = 1 := by cases e.1 <;> rfl
      have hpos := e.2.depth_pos
      have hvalue : e.2.depth ≤ Protobuf.Value.entryDepth es :=
        Protobuf.Value.entryDepth_le_iff.mp (Nat.le_refl _) e he
      rw [Entries.depth]
      omega

end CommonExpr
