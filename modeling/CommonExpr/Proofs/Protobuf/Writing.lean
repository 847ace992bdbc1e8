import CommonExpr.Proofs.Protobuf.WellKnown
import CommonExpr.Proofs.Value.WellFormed

/-!
Messages that are made of values.

Values become fields of the kinds that a message type declares, and messages of the
well-known types stand for values of their own.  Main statement: a message that is made
of named well-formed values is valid for its type.
-/

namespace CommonExpr

open Outcome

namespace Protobuf

variable {schema : Schema} {id : Int} {t : MessageType}

/-- Whether a message is a valid one of the type with a name. -/
def Message.ValidAs (name : String) (m : Message) : Prop := m.Valid ∧ m.name = name

theorem Message.ValidAs.holds {name : String} {m : Message} (hm : m.ValidAs name) :
    (Kind.message name).Holds (.message m) :=
  .message (congrArg Kind.message hm.2.symm) hm.1

/-! Messages of known types -/

theorem special_plain : ∀ t ∈ WellKnown.special, withoutLeadingDot t.name = t.name := by decide

/-- Looking up the name of a known type gives this type. -/
theorem lookupType_ensures (hs : schema.Sound) (known : MessageType)
    (hknown : known ∈ WellKnown.special) :
    Ensures (fun t => t = known ∧ schema.message? known.name = some known)
      (lookupType schema id known.name) := by
  refine ensures_orFail fun t ht => ?_
  have hname : t.name = known.name := by
    rw [Schema.name_of_message? ht, special_plain known hknown]
  have heq := (hs.type ht).eq_of_name known hknown hname
  exact ⟨heq, heq ▸ ht⟩

theorem valid_single (hs : schema.Sound) (ht : schema.message? t.name = some t) {name : String}
    {f : Field} (hfield : t.field? name = some f) {x : Value} (hx : t.Stores f.number x) :
    (single schema t name x).ValidAs t.name := by
  rw [single, hfield]
  exact ⟨(Message.valid_empty hs ht).set hx, rfl⟩

/-- Entries that are put into a map one by one have what each of them has. -/
theorem forall_mem_foldl_insertEntry {α : Type} {P : Key × Value → Prop} (xs : List α)
    (key : α → Key) (value : α → Value) (hxs : ∀ x ∈ xs, P (key x, value x)) :
    ∀ e ∈ xs.foldl (fun acc x => insertEntry (key x) (value x) acc) [], P e := by
  refine List.foldlRecOn xs _ (motive := fun entries => ∀ e ∈ entries, P e)
    (fun _ he => absurd he List.not_mem_nil) fun acc hacc x hx e he => ?_
  rcases mem_insertEntry he with rfl | he
  · exact hxs x hx
  · exact hacc e he

section Sound

variable (hs : schema.Sound) {convert : CommonExpr.Value → Outcome Message}
  (hconvert : ∀ v, Ensures (Message.ValidAs WellKnown.value) (convert v))

include hs

include hconvert in
theorem structMessage_ensures (ht : schema.message? WellKnown.struct = some WellKnown.structType)
    (entries : Entries) :
    Ensures (Message.ValidAs WellKnown.struct)
      (structMessage schema id WellKnown.structType convert entries) := by
  refine ensures_bind fun _ _ => ensures_bind fun pairs _ => ?_
  refine Meets.bind (V := fun fields => ∀ e ∈ fields, e.2.ValidAs WellKnown.value)
    (meets_mapM fun p _ => ?_) fun fields hfields => meets_ok.mpr ?_
  · obtain ⟨k, v⟩ := p
    dsimp only
    split
    · exact (hconvert v).bind fun m hm => meets_ok.mpr hm
    · exact ensures_fail
  · refine valid_single (t := WellKnown.structType) hs ht rfl ?_
    have hfield : WellKnown.structType.fieldAt? 1 =
        some (.mapOf 1 "fields" .string (.message WellKnown.value)) := rfl
    have hentries := forall_mem_foldl_insertEntry fields (fun e => .string e.1)
      (fun e => .message e.2)
      (P := fun e => Kind.string.Fits e.1.toValue ∧ (Kind.message WellKnown.value).Holds e.2) ?_
    · exact .map hfield rfl (fun e he => (hentries e he).1) fun e he => (hentries e he).2
    · exact fun e he => ⟨⟨_, rfl, rfl⟩, (hfields e he).holds⟩

include hconvert in
theorem listMessage_ensures
    (ht : schema.message? WellKnown.listValue = some WellKnown.listValueType) (items : Items) :
    Ensures (Message.ValidAs WellKnown.listValue)
      (listMessage schema id WellKnown.listValueType convert items) := by
  refine ensures_bind fun _ _ => ensures_bind fun values _ => ?_
  refine Meets.bind (meets_mapM fun v _ => hconvert v) fun messages hmessages => meets_ok.mpr ?_
  refine valid_single (t := WellKnown.listValueType) hs ht rfl ?_
  have hfield : WellKnown.listValueType.fieldAt? 1 =
      some (.many 1 "values" (.message WellKnown.value)) := rfl
  refine .list hfield rfl fun x hx => ?_
  obtain ⟨m, hm, rfl⟩ := List.mem_map.mp hx
  exact (hmessages m hm).holds

theorem jsonMessageWithin_ensures
    (ht : schema.message? WellKnown.value = some WellKnown.valueType) (fuel : Nat)
    (v : CommonExpr.Value) :
    Ensures (Message.ValidAs WellKnown.value)
      (jsonMessageWithin schema id fuel WellKnown.valueType v) := by
  -- nothing is asked of the value, as messages have no form in JSON
  induction fuel generalizing v with
  | zero => exact ensures_fail
  | succ fuel ih =>
      have hset {name : String} {f : Field} {x : Value}
          (hfield : WellKnown.valueType.field? name = some f)
          (hx : WellKnown.valueType.Stores f.number x) :
          Ensures (Message.ValidAs WellKnown.value)
            (.ok (single schema WellKnown.valueType name x)) :=
        meets_ok.mpr (valid_single (t := WellKnown.valueType) hs ht hfield hx)
      have hinner (w : CommonExpr.Value) : Ensures (Message.ValidAs WellKnown.value) (do
          let valueType ← lookupType schema id WellKnown.value
          jsonMessageWithin schema id fuel valueType w) := by
        refine (lookupType_ensures hs WellKnown.valueType (by decide)).bind ?_
        rintro _ ⟨rfl, -⟩
        exact ih w
      unfold jsonMessageWithin
      dsimp only
      split
      case h_10 ty items _ =>
        refine (lookupType_ensures hs WellKnown.listValueType (by decide)).bind ?_
        rintro _ ⟨rfl, hfound⟩
        refine (listMessage_ensures hs hinner hfound items).bind fun m hm => ?_
        exact hset rfl (.single rfl rfl hm.holds)
      case h_11 ty entries _ =>
        refine (lookupType_ensures hs WellKnown.structType (by decide)).bind ?_
        rintro _ ⟨rfl, hfound⟩
        refine (structMessage_ensures hs hinner hfound entries).bind fun m hm => ?_
        exact hset rfl (.single rfl rfl hm.holds)
      case h_12 => exact ensures_fail
      all_goals exact hset rfl (.single rfl rfl (.scalar ⟨_, rfl, rfl⟩))

theorem valid_timeMessage (ht : schema.message? t.name = some t)
    (hfields : t.fields = [.one 1 "seconds" .int64, .one 2 "nanos" .int32]) (seconds nanos : Int) :
    (timeMessage schema t seconds nanos).ValidAs t.name := by
  obtain ⟨name, fields⟩ := t
  cases hfields
  refine ⟨?_, rfl⟩
  refine Message.Valid.set (Message.Valid.set (Message.valid_empty hs ht) ?_) ?_
  · exact .single rfl rfl (.scalar ⟨_, rfl, rfl⟩)
  · exact .single rfl rfl (.scalar ⟨_, rfl, rfl⟩)

/-- A value becomes a valid message of the type that is asked for. -/
theorem plainMessage_ensures (ht : schema.message? t.name = some t) {v : CommonExpr.Value}
    (hv : v.WellFormed) : Ensures (Message.ValidAs t.name) (plainMessage schema id t v) := by
  have hsound := hs.type ht
  have hinner (w : CommonExpr.Value) : Ensures (Message.ValidAs WellKnown.value) (do
      let valueType ← lookupType schema id WellKnown.value
      jsonMessage schema id valueType w) := by
    refine (lookupType_ensures hs WellKnown.valueType (by decide)).bind ?_
    rintro _ ⟨rfl, hfound⟩
    exact jsonMessageWithin_ensures hs hfound _ w
  unfold plainMessage
  dsimp only
  split
  · next hname =>
      split
      · obtain rfl := hsound.eq_of_name WellKnown.timestampType (by decide) hname
        exact meets_ok.mpr (valid_timeMessage hs ht rfl _ _)
      · exact ensures_fail
  · split
    · next hname =>
        split
        · obtain rfl := hsound.eq_of_name WellKnown.durationType (by decide) hname
          exact meets_ok.mpr (valid_timeMessage hs ht rfl _ _)
        · exact ensures_fail
    · split
      · next hname =>
          obtain rfl := hsound.eq_of_name WellKnown.valueType (by decide) hname
          exact jsonMessageWithin_ensures hs ht _ v
      · split
        · next hname =>
            split
            · obtain rfl := hsound.eq_of_name WellKnown.structType (by decide) hname
              exact structMessage_ensures hs hinner ht _
            · exact ensures_fail
        · split
          · next hname =>
              split
              · obtain rfl := hsound.eq_of_name WellKnown.listValueType (by decide) hname
                exact listMessage_ensures hs hinner ht _
              · exact ensures_fail
          · split
            · next kind hkind =>
                refine (kind.ofScalar_ensures id (some v)).map fun x hx => ?_
                have hfield := hsound.wrapper_field? hkind
                have hat := hsound.fieldAt? (MessageType.mem_of_field? hfield)
                exact valid_single hs ht hfield (.single hat rfl (.scalar hx))
            -- a message is taken as it is: only here does it matter what the value holds
            · split
              · next own m =>
                  split
                  · next hsame =>
                      obtain ⟨htype, -⟩ := Bool.and_eq_true_iff.mp hsame
                      have heq : m.type = t := beq_iff_eq.mp htype
                      exact meets_ok.mpr ⟨hv.sound.2, congrArg MessageType.name heq⟩
                  · exact ensures_fail
              · exact ensures_fail

theorem messageOf_ensures (ht : schema.message? t.name = some t) {v : CommonExpr.Value}
    (hv : v.WellFormed) : Ensures (Message.ValidAs t.name) (messageOf schema id t v) := by
  unfold messageOf
  split
  · next hname =>
      obtain rfl := (hs.type ht).eq_of_name WellKnown.anyType (by decide) hname
      refine ensures_bind fun (url, payload) _ => meets_ok.mpr ⟨.mk hs ht ?_, rfl⟩
      refine List.forall_mem_cons.mpr ⟨?_, List.forall_mem_singleton.mpr ?_⟩
      · exact .single rfl rfl (.scalar ⟨_, rfl, rfl⟩)
      · exact .single rfl rfl (.scalar ⟨_, rfl, rfl⟩)
  · exact plainMessage_ensures hs ht hv

/-! Fields -/

theorem Kind.ofValue_ensures {field : Field} (hfield : field.SoundIn schema)
    {v : CommonExpr.Value} (hv : v.WellFormed) :
    Ensures field.kind.Holds (field.kind.ofValue schema id v) := by
  have hscalar (kind : Kind) : Ensures kind.Holds (kind.ofScalar id (some v)) :=
    (kind.ofScalar_ensures id (some v)).mono (fun _ hx => .scalar hx) fun _ _ => trivial
  cases hkind : field.kind with
  | message name =>
      obtain ⟨hempty, hname⟩ := hfield.valid_empty hs hkind
      have hfound : schema.message? (schema.messageType name).name = _ := hempty.message?
      refine (messageOf_ensures hs hfound hv).map fun m hm => ?_
      rw [← hname]
      exact hm.holds
  | _ => exact hscalar _

omit hs in
theorem Kind.keyOf_ensures {key : Kind} (hkey : key.isKey = true) (v : CommonExpr.Value) :
    Ensures (fun k => key.Fits k.toValue) (key.keyOf id v) := by
  cases key with
  | double => cases hkey
  | float => cases hkey
  | bytes => cases hkey
  | message name => cases hkey
  | enum name => cases hkey
  | _ => exact ensures_map fun _ => ⟨_, rfl, rfl⟩

/-- A value becomes what the field may store. -/
theorem Field.ofValue_ensures (ht : t.SoundIn schema) {field : Field} (hfield : field ∈ t.fields)
    {v : CommonExpr.Value} (hv : v.WellFormed) :
    Ensures (t.Stores field.number) (field.ofValue schema id v) := by
  have hat := ht.fieldAt? hfield
  have hsound := ht.fields field hfield
  unfold Field.ofValue
  split
  · next key ty entries hshape =>
      have hkey := hsound.key key (by rw [hshape]; rfl)
      refine ensures_bind fun pairs hpairs => ?_
      refine Meets.bind (V := fun converted => ∀ e ∈ converted,
          key.Fits e.1.toValue ∧ field.kind.Holds e.2)
        (meets_mapM fun p hp => ?_) fun converted hconverted => meets_ok.mpr ?_
      · have hw := hv.part (.value (Entries.mem_read_of_collectPairs hpairs p hp))
        refine (Kind.keyOf_ensures hkey p.1).bind fun k hk => ?_
        exact (Kind.ofValue_ensures hs hsound hw).bind fun x hx => meets_ok.mpr ⟨hk, hx⟩
      · have hentries := forall_mem_foldl_insertEntry converted (fun e => e.1) (fun e => e.2)
          (P := fun e => key.Fits e.1.toValue ∧ field.kind.Holds e.2) hconverted
        exact .map hat hshape (fun e he => (hentries e he).1) fun e he => (hentries e he).2
  · exact ensures_fail
  · next packed ty items hshape =>
      refine ensures_bind fun values hvalues => ?_
      refine Meets.bind (meets_mapM fun w hw => ?_) fun converted hconverted =>
        meets_ok.mpr (.list hat hshape hconverted)
      have hmem := CommonExpr.Value.mem_read_of_collect hvalues w hw
      exact Kind.ofValue_ensures hs hsound (hv.part (.element hmem))
  · exact ensures_fail
  · next hshape =>
      refine (Kind.ofValue_ensures hs hsound hv).mono (fun x hx => ?_) fun _ _ => trivial
      exact .single hat hshape hx

/-- Storing well-formed values keeps a message valid, field by field. -/
theorem storeFields_valid {m m' : Message} (hm : m.Valid) (hschema : m.schema = schema)
    {fields : List (String × CommonExpr.Value)} (hfields : ∀ f ∈ fields, f.2.WellFormed)
    (hstore : storeFields schema id m fields = .ok m') : m'.Valid := by
  fun_induction storeFields schema id m fields with
  | case1 m =>
      cases hstore
      exact hm
  | case2 => cases hstore
  | case3 m name v rest field hfield hnull ih =>
      exact ih hm hschema (fun f hf => hfields f (List.mem_cons_of_mem _ hf)) hstore
  | case4 => cases hstore
  | case5 m name v rest field hfield hnull x hx ih =>
      obtain ⟨hv, hrest⟩ := List.forall_mem_cons.mp hfields
      have hmem := MessageType.mem_of_field? hfield
      have hstores := (Field.ofValue_ensures hs (hschema ▸ hm.type_sound) hmem hv).value hx
      exact ih (hm.set hstores) hschema hrest hstore

/-- A message of well-formed values is valid. -/
theorem messageOfFields_valid {name : String} (ht : schema.message? name = some t)
    {fields : List (String × CommonExpr.Value)} (hfields : ∀ f ∈ fields, f.2.WellFormed)
    {m : Message} (hmade : messageOfFields schema id t fields = .ok m) : m.Valid :=
  storeFields_valid hs (Message.valid_empty hs (hs.message?_name ht)) rfl hfields hmade

end Sound

end Protobuf

end CommonExpr
