import CommonExpr.Convert.Protobuf
import CommonExpr.Proofs.Value.Counterpart
import CommonExpr.Proofs.Value.Map

/-!
What is stored in messages.

Fields are stored by number and the entries of a map by key; what is stored last under one
number or key replaces what was there.  Main statements: a field outside of oneofs that is
set changes nothing about the others, and entries whose keys have distinct canonical forms
make a map that can be read.
-/

namespace CommonExpr.Protobuf

/-! Fields -/

namespace Message

variable {m : Message} {field : Field} {value : Value}

@[simp]
theorem type_empty (schema : Schema) (type : MessageType) :
    (Message.empty schema type).type = type := rfl

@[simp]
theorem type_set : (m.set field value).type = m.type := rfl

theorem lookup_cons_eq (number : Nat) (value : Value) (rest : List (Nat × Value)) (n : Nat) :
    ((number, value) :: rest).lookup n = if n = number then some value else rest.lookup n := by
  by_cases hn : n = number
  · simp [hn]
  · have hfalse : (n == number) = false := beq_false_of_ne hn
    rw [List.lookup_cons, hfalse, if_neg hn]

theorem lookup_putValue (number : Nat) (value : Value) (fields : List (Nat × Value)) (n : Nat) :
    (putValue number value fields).lookup n =
      if n = number then some value else fields.lookup n := by
  induction fields with
  | nil => exact lookup_cons_eq number value [] n
  | cons f rest ih =>
      obtain ⟨k, v⟩ := f
      rw [putValue]
      by_cases hk : k = number
      · rw [if_pos hk, lookup_cons_eq, lookup_cons_eq, hk]
        by_cases hn : n = number
        · rw [if_pos hn, if_pos hn]
        · rw [if_neg hn, if_neg hn, if_neg hn]
      · by_cases hless : number < k
        · rw [if_neg hk, if_pos hless, lookup_cons_eq]
        · rw [if_neg hk, if_neg hless, lookup_cons_eq, ih, lookup_cons_eq]
          by_cases hn : n = number
          · have hother : n ≠ k := hn ▸ Ne.symm hk
            rw [if_neg hother, if_pos hn, if_pos hn]
          · rw [if_neg hn, if_neg hn]

/-- A field outside of oneofs is stored without regard to the other fields. -/
theorem stored?_set (honeof : field.oneof = none) (number : Nat) :
    (m.set field value).stored? number =
      if number = field.number then some value else m.stored? number := by
  have hfields : (m.set field value).fields = putValue field.number value m.fields := by
    simp [set, honeof, fields]
  rw [stored?, hfields, lookup_putValue]
  rfl

/-- A field is stored whatever becomes of the other members of its oneof. -/
theorem stored?_set_self (m : Message) (field : Field) (value : Value) :
    (m.set field value).stored? field.number = some value := by
  change (putValue field.number value _).lookup field.number = some value
  rw [lookup_putValue, if_pos rfl]

theorem get_of_stored (hstored : m.stored? field.number = some value) : m.get field = value := by
  rw [get, hstored]
  rfl

theorem get_set : (m.set field value).get field = value :=
  get_of_stored (stored?_set_self m field value)

theorem fieldValue_single (hshape : field.shape = .singular)
    (hstored : m.stored? field.number = some value)
    (hset : ∀ name, field.kind = .message name → value.isZero = false) (schema : Schema)
    (id : Int) : m.fieldValue schema id field = value.toValue schema id := by
  rw [fieldValue, hshape, get_of_stored hstored]
  cases hkind : field.kind with
  | message name =>
      have hhas : m.has field = true := by
        simp [has, hstored, hshape, hset name hkind]
      simp [hhas]
  | _ => rfl

theorem fieldValue_list {packed : Bool} {values : List Value}
    (hshape : field.shape = .repeated packed)
    (hstored : m.stored? field.number = some (.list values)) (schema : Schema) (id : Int) :
    m.fieldValue schema id field = .ok (.list field.ty (.protobuf schema values)) := by
  rw [fieldValue, hshape, get_of_stored hstored]

theorem fieldValue_map {key : Kind} {entries : List (Key × Value)} (hshape : field.shape = .map key)
    (hstored : m.stored? field.number = some (.map entries)) (schema : Schema) (id : Int) :
    m.fieldValue schema id field = mapValue schema id field.ty entries := by
  rw [fieldValue, hshape, get_of_stored hstored]

theorem has_congr {m' : Message} (hsame : m.stored? field.number = m'.stored? field.number) :
    m.has field = m'.has field := by
  rw [has, has, hsame]

theorem get_congr {m' : Message} (hschema : m.schema = m'.schema)
    (hsame : m.stored? field.number = m'.stored? field.number) : m.get field = m'.get field := by
  rw [get, get, hsame, hschema]

/-- What a field is read as depends on what is stored under its number only. -/
theorem fieldValue_congr {m' : Message} (hschema : m.schema = m'.schema)
    (hsame : m.stored? field.number = m'.stored? field.number) (schema : Schema) (id : Int) :
    m.fieldValue schema id field = m'.fieldValue schema id field := by
  rw [fieldValue, fieldValue, get_congr hschema hsame, has_congr hsame, hschema]

end Message

theorem single_of_field? {schema : Schema} {type : MessageType} {name : String} {field : Field}
    (hfield : type.field? name = some field) (value : Value) :
    single schema type name value = (Message.empty schema type).set field value := by
  rw [single, hfield]

/-! Entries -/

theorem insertEntry_perm {key : Key} {value : Value} {entries : List (Key × Value)}
    (hnew : key ∉ entries.map fun e => e.1) :
    (insertEntry key value entries).Perm ((key, value) :: entries) := by
  induction entries with
  | nil => exact List.Perm.refl _
  | cons e rest ih =>
      rw [List.map_cons, List.mem_cons, not_or] at hnew
      obtain ⟨he, hrest⟩ := hnew
      rw [insertEntry, if_neg (Ne.symm he)]
      by_cases hless : key.less e.1 = true
      · rw [if_pos hless]
      · rw [if_neg hless]
        exact ((ih hrest).cons e).trans (List.Perm.swap _ _ _)

/-- Entries with distinct keys are all put into the map. -/
theorem foldl_insertEntry_perm {entries : List (Key × Value)}
    (hkeys : (entries.map fun e => e.1).Nodup) :
    (entries.foldl (fun acc e => insertEntry e.1 e.2 acc) []).Perm entries := by
  have hinsert : ∀ (e : Key × Value) (placed : List (Key × Value)),
      e.1 ∉ placed.map (fun e => e.1) → True →
        (insertEntry e.1 e.2 placed).Perm (e :: placed) ∧ True :=
    fun e _ hnew _ => ⟨insertEntry_perm hnew, trivial⟩
  have hall : ((([] : List (Key × Value)) ++ entries).map fun e => e.1).Nodup := hkeys
  exact (foldl_insert (f := fun e => insertEntry e.1 e.2) hinsert trivial hall).1

theorem Key.canonical?_isSome (k : Key) : k.canonical?.isSome = true := by
  cases k <;> rfl

/-- Entries whose keys have distinct canonical forms are read as a map. -/
theorem mapValue_of_nodup {entries : List (Key × Value)}
    (hkeys : (entries.map fun e => e.1.canonical?).Nodup) (schema : Schema) (id : Int) (ty : Ty) :
    mapValue schema id ty entries = .ok (.map ty (.protobuf schema entries)) := by
  have hread : ((Entries.protobuf schema entries).keys id).map Entries.keyOf? =
      entries.map fun e => e.1.canonical? := by
    simp only [Entries.keys, Entries.read, List.map_map]
    refine List.map_congr_left fun e _ => ?_
    exact e.1.keyOf?_toValue schema id
  have hcanonical : ∀ k ∈ (Entries.protobuf schema entries).keys id,
      (Entries.keyOf? k).isSome = true := by
    intro k hk
    have hmem := List.mem_map_of_mem (f := Entries.keyOf?) hk
    rw [hread] at hmem
    obtain ⟨e, -, heq⟩ := List.mem_map.mp hmem
    exact heq ▸ e.1.canonical?_isSome
  rw [mapValue_eq_newMap, CommonExpr.Value.newMap,
    checkKeys_of_nodup id hcanonical (hread ▸ hkeys) fun _ _ _ hseen =>
      absurd hseen List.not_mem_nil]

/-- Entries that mirror those of a map are read, once they are put in order, as a map that it
matches. -/
theorem matchesRead_mapValue {ty : Ty} {entries : Entries}
    {pairs : List (CommonExpr.Value × CommonExpr.Value)} {es : List (Key × Value)}
    (hread : entries.ReadsTo pairs) (hkeys : DistinctKeys pairs)
    (hes : List.Forall₂ (fun e f => f.1.canonical? = e.1.key? ∧ f.2.Mirrors e.2) pairs es)
    (schema : Schema) (id : Int) (ty' : Ty) :
    (CommonExpr.Value.map ty entries).MatchesRead
      ((CommonExpr.Value.map ty entries).SchemasIn (fun _ => True) (· = schema))
      (mapValue schema id ty' (es.foldl (fun acc e => insertEntry e.1 e.2 acc) [])) := by
  have hcanonical : (es.map fun e => e.1.canonical?).Nodup := by
    rw [map_eq_of_forall₂ (hes.imp fun _ _ h => h.1)]
    exact hkeys.nodup
  have hnodup : (es.map fun e => e.1).Nodup := by
    have hforms : ((es.map fun e => e.1).map Key.canonical?).Nodup := by
      rw [List.map_map]
      exact hcanonical
    exact hforms.of_map
  have hperm := foldl_insertEntry_perm hnodup
  have hcanonical' := (hperm.map fun e => e.1.canonical?).nodup_iff.mpr hcanonical
  exact ⟨_, mapValue_of_nodup hcanonical' schema id ty',
    CommonExpr.Value.matches_map_protobuf hread hkeys hperm hes⟩

end CommonExpr.Protobuf
