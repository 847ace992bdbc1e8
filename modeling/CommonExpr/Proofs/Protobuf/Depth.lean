import CommonExpr.Proofs.Protobuf.Codec
import CommonExpr.Proofs.Protobuf.Kind
import CommonExpr.Proofs.Protobuf.Wire

/-!
How deep a message can be that is read from bytes.

Two bytes, a tag and a length, can open a list, an element and the element's
fields.  Main statement: a message is never deeper than twice the number of bytes
that it is read from, so that the depth of bytes bounds what may be packed in them.
-/

namespace CommonExpr.Protobuf

theorem Value.listDepth_le_iff {values : List Value} {d : Nat} :
    Value.listDepth values ≤ d ↔ ∀ v ∈ values, v.depth ≤ d := by
  induction values with
  | nil => simp [Value.listDepth]
  | cons head rest ih => rw [Value.listDepth, Nat.max_le, ih, List.forall_mem_cons]

theorem Value.entryDepth_le_iff {entries : List (Key × Value)} {d : Nat} :
    Value.entryDepth entries ≤ d ↔ ∀ e ∈ entries, e.2.depth ≤ d := by
  induction entries with
  | nil => simp [Value.entryDepth]
  | cons head rest ih => rw [Value.entryDepth, Nat.max_le, ih, List.forall_mem_cons]

theorem Value.fieldDepth_le_iff {fields : List (Nat × Value)} {d : Nat} :
    Value.fieldDepth fields ≤ d ↔ ∀ f ∈ fields, f.2.depth ≤ d := by
  induction fields with
  | nil => simp [Value.fieldDepth]
  | cons head rest ih => rw [Value.fieldDepth, Nat.max_le, ih, List.forall_mem_cons]

namespace Message

theorem depth_le_iff {m : Message} {d : Nat} :
    m.depth ≤ d + 1 ↔ ∀ f ∈ m.fields, f.2.depth ≤ d := by
  cases m with
  | mk schema type fields unknown =>
      rw [Message.depth, Nat.succ_le_succ_iff]
      exact Value.fieldDepth_le_iff

theorem depth_pos (m : Message) : 0 < m.depth := by
  cases m with
  | mk schema type fields unknown => exact Nat.succ_pos _

/-- What is stored in a message is less deep than the message. -/
theorem depth_of_stored? {m : Message} {number : Nat} {v : Value}
    (hstored : m.stored? number = some v) : v.depth < m.depth := by
  obtain ⟨before, after, hfields, -⟩ := List.lookup_eq_some_iff.mp hstored
  obtain ⟨d, hd⟩ : ∃ d, m.depth = d + 1 := ⟨m.depth - 1, by have := m.depth_pos; omega⟩
  have hv : v.depth ≤ d :=
    depth_le_iff.mp (Nat.le_of_eq hd) (number, v) (by simp [hfields])
  omega

theorem depth_of_mem_listAt {m : Message} {number : Nat} {v : Value} (hv : v ∈ m.listAt number) :
    v.depth + 1 < m.depth := by
  unfold listAt at hv
  split at hv
  · next values hstored =>
      have hlist := depth_of_stored? hstored
      have helement := Value.listDepth_le_iff.mp (Nat.le_refl _) v hv
      rw [Value.depth] at hlist
      omega
  · cases hv

theorem depth_of_mem_entriesAt {m : Message} {number : Nat} {e : Key × Value}
    (he : e ∈ m.entriesAt number) : e.2.depth + 1 < m.depth := by
  unfold entriesAt at he
  split at he
  · next entries hstored =>
      have hmap := depth_of_stored? hstored
      have hentry := Value.entryDepth_le_iff.mp (Nat.le_refl _) e he
      rw [Value.depth] at hmap
      omega
  · cases he

theorem mem_putValue {number : Nat} {value : Value} {fields : List (Nat × Value)}
    {f : Nat × Value} (hf : f ∈ putValue number value fields) :
    f = (number, value) ∨ f ∈ fields := by
  induction fields with
  | nil => exact Or.inl (List.mem_singleton.mp hf)
  | cons head rest ih =>
      obtain ⟨n, v⟩ := head
      rw [putValue] at hf
      split at hf
      · exact (List.mem_cons.mp hf).imp_right (List.mem_cons_of_mem _)
      · split at hf
        · exact List.mem_cons.mp hf
        · rcases List.mem_cons.mp hf with rfl | hf
          · exact Or.inr List.mem_cons_self
          · exact (ih hf).imp_right (List.mem_cons_of_mem _)

/-- What is in a message after a field was set was in it before, or was put there. -/
theorem mem_fields_set {m : Message} {field : Field} {value : Value} {f : Nat × Value}
    (hf : f ∈ (m.set field value).fields) : f = (field.number, value) ∨ f ∈ m.fields :=
  (mem_putValue hf).imp_right fun hkept => (List.mem_filter.mp hkept).1

theorem depth_set {m : Message} {field : Field} {value : Value} {d : Nat} (hm : m.depth ≤ d + 1)
    (hvalue : value.depth ≤ d) : (m.set field value).depth ≤ d + 1 := by
  refine depth_le_iff.mpr fun f hf => ?_
  rcases mem_fields_set hf with rfl | hf
  · exact hvalue
  · exact depth_le_iff.mp hm f hf

end Message

theorem mem_insertEntry {key : Key} {value : Value} {entries : List (Key × Value)}
    {e : Key × Value} (he : e ∈ insertEntry key value entries) :
    e = (key, value) ∨ e ∈ entries := by
  induction entries with
  | nil => exact Or.inl (List.mem_singleton.mp he)
  | cons head rest ih =>
      obtain ⟨k, v⟩ := head
      rw [insertEntry] at he
      split at he
      · exact (List.mem_cons.mp he).imp_right (List.mem_cons_of_mem _)
      · split at he
        · exact List.mem_cons.mp he
        · rcases List.mem_cons.mp he with rfl | he
          · exact Or.inr List.mem_cons_self
          · exact (ih he).imp_right (List.mem_cons_of_mem _)

theorem Kind.depth_of_read {kind : Kind} {payload : Payload} {v : Value}
    (hread : kind.read payload = some v) : v.depth ≤ 2 * payload.size + 2 := by
  unfold Kind.read at hread
  split at hread
  case h_14 =>
    obtain ⟨s, -, rfl⟩ := Option.map_eq_some_iff.mp hread
    simp [Value.depth]
  case h_15 =>
    obtain rfl := Option.some.inj hread
    exact Nat.le_refl _
  case h_17 => cases hread
  all_goals
    obtain rfl := Option.some.inj hread
    simp [Value.depth]

theorem Kind.size_of_takePacked {kind : Kind} {bytes rest : List UInt8} {payload : Payload}
    (htake : kind.takePacked bytes = some (payload, rest)) : payload.size = 0 := by
  unfold Kind.takePacked at htake
  split at htake
  all_goals
    obtain ⟨⟨n, tail⟩, -, heq⟩ := Option.map_eq_some_iff.mp htake
    obtain ⟨rfl, rfl⟩ := Prod.mk.inj heq
    rfl

theorem Kind.depth_of_readPacked {kind : Kind} {fuel : Nat} {bytes : List UInt8}
    {values : List Value} (hread : kind.readPacked fuel bytes = some values) :
    ∀ v ∈ values, v.depth ≤ 2 := by
  fun_induction Kind.readPacked kind fuel bytes generalizing values with
  | case1 =>
      obtain rfl := Option.some.inj hread
      exact fun _ hv => absurd hv List.not_mem_nil
  | case2 => cases hread
  | case3 fuel block hblock ih =>
      obtain ⟨⟨payload, rest⟩, htake, hrest⟩ := Option.bind_eq_some_iff.mp hread
      obtain ⟨value, hvalue, hrest⟩ := Option.bind_eq_some_iff.mp hrest
      obtain ⟨others, hothers, heq⟩ := Option.bind_eq_some_iff.mp hrest
      obtain rfl := Option.some.inj heq
      have hdepth := Kind.depth_of_read hvalue
      rw [Kind.size_of_takePacked htake] at hdepth
      exact List.forall_mem_cons.mpr ⟨hdepth, ih rest hothers⟩

theorem Kind.depth_default (schema : Schema) (kind : Kind) : (kind.default schema).depth ≤ 2 := by
  cases kind with
  | enum name =>
      rw [Kind.default]
      split <;> simp [Value.depth]
  | _ => simp [Kind.default, Value.depth, Message.empty, Message.depth, Value.fieldDepth]

/-- Whether reading nested messages onto others keeps to twice the number of bytes. -/
def Nested.Bounded (nested : Nested) : Prop :=
  ∀ m bytes m', nested m bytes = some m' → m'.depth ≤ max m.depth (2 * bytes.length + 1)

theorem Kind.depth_of_merge {nested : Nested} (hnested : Nested.Bounded nested) {schema : Schema}
    {kind : Kind} {earlier : Option Value} {payload : Payload} {v : Value} {d : Nat}
    (hmerge : kind.merge nested schema earlier payload = some v)
    (hearlier : ∀ w, earlier = some w → w.depth ≤ d) (hsize : 2 * payload.size + 2 ≤ d) :
    v.depth ≤ d := by
  unfold Kind.merge at hmerge
  split at hmerge
  · split at hmerge
    · next name b =>
        obtain ⟨m', hm', rfl⟩ := Option.map_eq_some_iff.mp hmerge
        have hbound := hnested _ _ _ hm'
        rw [Payload.size] at hsize
        rw [Value.depth]
        split at hbound
        · next m =>
            have hm := hearlier (.message m) rfl
            rw [Value.depth] at hm
            omega
        · simp only [Message.empty, Message.depth, Value.fieldDepth] at hbound
          omega
    · cases hmerge
  · exact Nat.le_trans (Kind.depth_of_read hmerge) hsize

theorem depth_of_readEntry {nested : Nested} (hnested : Nested.Bounded nested) {depth : Nat}
    {schema : Schema} {key value : Kind} {pair pair' : Value × Value} {raws : List RawField}
    {d : Nat} (hread : readEntry nested depth schema key value pair raws = some pair')
    (hraws : ∀ raw ∈ raws, 2 * raw.2.size + 2 ≤ d) (hpair : pair.2.depth ≤ d) :
    pair'.2.depth ≤ d := by
  induction raws generalizing pair with
  | nil =>
      obtain rfl := Option.some.inj hread
      exact hpair
  | cons raw rest ih =>
      obtain ⟨number, payload⟩ := raw
      obtain ⟨k, v⟩ := pair
      obtain ⟨hraw, hrest⟩ := List.forall_mem_cons.mp hraws
      rw [readEntry] at hread
      split at hread
      · obtain ⟨k', -, hread⟩ := Option.bind_eq_some_iff.mp hread
        exact ih hread hrest hpair
      · split at hread
        · obtain ⟨v', hv', hread⟩ := Option.bind_eq_some_iff.mp hread
          refine ih hread hrest (Kind.depth_of_merge hnested hv' ?_ hraw)
          rintro w ⟨⟩
          exact hpair
        · split at hread
          · exact ih hread hrest hpair
          · cases hread

/-- What is read for a field is as deep as what was stored, or as its bytes allow. -/
theorem Field.Reads.depth_le {nested : Nested} (hnested : Nested.Bounded nested) {m : Message}
    {field : Field} {number : Nat} {payload : Payload} {v : Value} {d : Nat}
    (hreads : Field.Reads nested m field number payload v) (hm : m.depth ≤ d + 1)
    (hsize : 2 * payload.size + 4 ≤ d) : v.depth ≤ d := by
  cases hreads with
  | single hshape hmerge =>
      refine Kind.depth_of_merge hnested hmerge (fun w hw => ?_) (by omega)
      have := Message.depth_of_stored? hw
      omega
  | @block packed b values hshape hpackable hread =>
      have hvalues := Kind.depth_of_readPacked hread
      have hlist : Value.listDepth (m.listAt number ++ values) ≤ d - 1 := by
        refine Value.listDepth_le_iff.mpr fun w hw => ?_
        rcases List.mem_append.mp hw with hw | hw
        · have := Message.depth_of_mem_listAt hw
          omega
        · have := hvalues w hw
          omega
      rw [Value.depth]
      omega
  | @element packed payload v hshape hmerge =>
      have hv : v.depth ≤ d - 1 :=
        Kind.depth_of_merge hnested hmerge (fun _ hw => nomatch hw) (by omega)
      have hlist : Value.listDepth (m.listAt number ++ [v]) ≤ d - 1 := by
        refine Value.listDepth_le_iff.mpr fun w hw => ?_
        rcases List.mem_append.mp hw with hw | hw
        · have := Message.depth_of_mem_listAt hw
          omega
        · exact List.mem_singleton.mp hw ▸ hv
      rw [Value.depth]
      omega
  | @entry key b raws depth k v k' hshape hfields hread hkey =>
      rw [Payload.size] at hsize
      have hraws : ∀ raw ∈ raws, 2 * raw.2.size + 2 ≤ d - 1 := fun raw hraw => by
        have := readFields_size hfields raw hraw
        omega
      have hdefault := Kind.depth_default m.schema field.kind
      have hv : v.depth ≤ d - 1 :=
        depth_of_readEntry hnested hread hraws (Nat.le_trans hdefault (by omega))
      have hmap : Value.entryDepth (insertEntry k' v (m.entriesAt number)) ≤ d - 1 := by
        refine Value.entryDepth_le_iff.mpr fun e he => ?_
        rcases mem_insertEntry he with rfl | he
        · exact hv
        · have := Message.depth_of_mem_entriesAt he
          omega
      rw [Value.depth]
      omega

/-- One field adds no more levels than its bytes allow. -/
theorem depth_of_mergeField {unknowns : UnknownFields} {depth : Nat} {nested : Nested}
    (hnested : Nested.Bounded nested) {m m' : Message} {raw : RawField} {d : Nat}
    (hm : m.depth ≤ d + 1) (hsize : 2 * raw.2.size + 4 ≤ d)
    (hmerge : mergeField unknowns depth nested m raw = some m') : m'.depth ≤ d + 1 := by
  rcases mergeField_cases hmerge with ⟨unknown, rfl⟩ | ⟨field, v, -, hreads, rfl⟩
  · exact Message.depth_le_iff.mpr fun f hf => Message.depth_le_iff.mp hm f hf
  · exact Message.depth_set hm (hreads.depth_le hnested hm hsize)

theorem mergeFields_bounded {unknowns : UnknownFields} (depth : Nat) (nested : Nested)
    (hnested : Nested.Bounded nested) : Nested.Bounded (mergeFields unknowns depth nested) := by
  intro m bytes m' hmerge
  obtain ⟨raws, hraws, hfold⟩ := Option.bind_eq_some_iff.mp hmerge
  obtain ⟨d, hd⟩ : ∃ d, max m.depth (2 * bytes.length + 1) = d + 1 :=
    ⟨max m.depth (2 * bytes.length + 1) - 1, by omega⟩
  rw [hd]
  refine foldlM_keeps (P := fun m => m.depth ≤ d + 1) (fun raw hraw a a' ha hstep => ?_)
    (by omega) hfold
  have hsize := readFields_size hraws raw hraw
  exact depth_of_mergeField hnested ha (by omega) hstep

/-- Reading onto a message keeps to twice the number of bytes. -/
theorem mergeBytes_bounded (unknowns : UnknownFields) (depth : Nat) :
    Nested.Bounded (mergeBytes unknowns depth) :=
  mergeBytes_keeps (fun _ _ _ hnone => nomatch hnone) mergeFields_bounded depth

/-- A message that is read from bytes is at most twice as deep as they are many. -/
theorem depth_of_mergeBytes {unknowns : UnknownFields} {depth : Nat} {schema : Schema}
    {type : MessageType} {bytes : List UInt8} {m : Message}
    (hmerge : mergeBytes unknowns depth (.empty schema type) bytes = some m) :
    m.depth ≤ 2 * bytes.length + 1 := by
  have hbound := mergeBytes_bounded unknowns depth _ bytes m hmerge
  simp only [Message.empty, Message.depth, Value.fieldDepth] at hbound
  omega

end CommonExpr.Protobuf
