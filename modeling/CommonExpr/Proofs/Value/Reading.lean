import CommonExpr.Proofs.Outcome
import CommonExpr.Value.Access
import CommonExpr.Value.Equality

/-!
Where reading fails.

Data of a host is read on behalf of a node.  Main statements: reading an element,
an entry or a field, and looking something up in a value, fail at this node if
they fail, however deep the data lie that cannot be read.
-/

namespace CommonExpr

open Outcome

/-- A walk over keys fails where one of them could not be read, or at its own node. -/
theorem checkKeys_failsAt {id : Int} {keys : List (Outcome Value)}
    (hkeys : ∀ k ∈ keys, FailsAt id k) (seen : List Key) : FailsAt id (checkKeys id seen keys) := by
  induction keys generalizing seen with
  | nil => exact FailsAt.ok
  | cons head rest ih =>
      have hrest : ∀ k ∈ rest, FailsAt id k := fun k hk => hkeys k (List.mem_cons_of_mem _ hk)
      cases head with
      | error f => exact (hkeys (.error f) List.mem_cons_self).error rfl
      | ok v =>
          rw [checkKeys]
          split
          · exact yields_fail
          · split
            · exact yields_fail
            · exact ih hrest _

theorem Json.toValue_failsAt (id : Int) (x : Json) : FailsAt id (x.toValue id) := by
  cases x with
  | null => exact FailsAt.ok
  | bool b => exact FailsAt.ok
  | double d => exact FailsAt.ok
  | string s => exact FailsAt.ok
  | array items => exact FailsAt.ok
  | integer i =>
      rw [Json.toValue]
      split <;> exact FailsAt.ok
  | object members =>
      have hkeys : FailsAt id
          (checkKeys id [] (members.map fun member => .ok (.string member.1))) := by
        refine checkKeys_failsAt (fun k hk => ?_) []
        obtain ⟨member, -, rfl⟩ := List.mem_map.mp hk
        exact FailsAt.ok
      rw [Json.toValue]
      split
      · next f hf => exact hkeys.error hf
      · exact FailsAt.ok

namespace Protobuf

theorem mapValue_failsAt (schema : Schema) (id : Int) (ty : Ty) (entries : List (Key × Value)) :
    FailsAt id (mapValue schema id ty entries) := by
  have hkeys : FailsAt id (checkKeys id [] (entries.map fun entry =>
      .ok ((entry.1.toValue.widened?).elim .null .scalar))) := by
    refine checkKeys_failsAt (fun k hk => ?_) []
    obtain ⟨entry, -, rfl⟩ := List.mem_map.mp hk
    exact FailsAt.ok
  rw [mapValue]
  split
  · next f hf => exact hkeys.error hf
  · exact FailsAt.ok

/-- However many messages are packed in one another, the node stays the same. -/
theorem Message.read_failsAt (schema : Schema) (id : Int) (fuel : Nat) (m : Message) :
    FailsAt id (m.read schema id fuel) := by
  induction fuel generalizing m with
  | zero => exact yields_fail
  | succ fuel ih =>
      rw [Message.read]
      split
      · dsimp only
        split
        · exact yields_fail
        · split
          · exact yields_fail
          · split
            · exact yields_fail
            · exact ih _
      · split
        · split
          · next f hf => exact (FailsAt.timed id _).error hf
          · exact FailsAt.ok
        · split
          · split
            · next f hf => exact (FailsAt.timed id _).error hf
            · exact FailsAt.ok
          · split
            · split
              · exact FailsAt.ok
              · exact FailsAt.ok
              · exact FailsAt.ok
              · exact ih _
              · exact ih _
              · exact FailsAt.ok
            · split
              · exact mapValue_failsAt schema id _ _
              · split
                · exact FailsAt.ok
                · split <;> exact FailsAt.ok

theorem Message.toValue_failsAt (schema : Schema) (id : Int) (m : Message) :
    FailsAt id (m.toValue schema id) :=
  m.read_failsAt schema id _

theorem unpackAny_failsAt (schema : Schema) (id : Int) (url : String) (payload : List UInt8) :
    FailsAt id (unpackAny schema id url payload) :=
  Message.toValue_failsAt schema id _

theorem Value.toValue_failsAt (schema : Schema) (id : Int) (v : Value) :
    FailsAt id (v.toValue schema id) := by
  unfold Value.toValue
  split
  · exact Message.toValue_failsAt schema id _
  · exact FailsAt.ok
  · exact mapValue_failsAt schema id _ _
  · split <;> exact FailsAt.ok

theorem zeroValue_failsAt (schema : Schema) (id : Int) (own : Schema) (type : MessageType) :
    FailsAt id (zeroValue schema id own type) := by
  unfold zeroValue
  repeat' split
  · exact FailsAt.ok
  · exact FailsAt.ok
  · exact FailsAt.ok
  · exact Message.toValue_failsAt schema id _

theorem Message.fieldValue_failsAt (schema : Schema) (id : Int) (m : Message) (field : Field) :
    FailsAt id (m.fieldValue schema id field) := by
  unfold Message.fieldValue
  split
  · exact mapValue_failsAt schema id _ _
  · exact yields_fail
  · exact FailsAt.ok
  · exact FailsAt.ok
  · split
    · split
      · exact Value.toValue_failsAt schema id _
      · split
        · next f hf => exact (zeroValue_failsAt schema id _ _).error hf
        · exact FailsAt.ok
    · exact Value.toValue_failsAt schema id _

theorem Message.fieldValue?_failsAt {schema : Schema} {id : Int} {m : Message} {name : String}
    {result : Outcome CommonExpr.Value} (hresult : m.fieldValue? schema id name = some result) :
    FailsAt id result := by
  obtain ⟨field, -, rfl⟩ := Option.map_eq_some_iff.mp hresult
  exact m.fieldValue_failsAt schema id field

theorem Message.isSet_failsAt (id : Int) (m : Message) (name : String) :
    FailsAt id (m.isSet id name) := by
  unfold Message.isSet
  split
  · exact FailsAt.ok
  · exact yields_fail

end Protobuf

namespace Exchange

theorem readObject_failsAt (schema : Option Protobuf.Schema) (id : Int) (url : String)
    (payload : List UInt8) : FailsAt id (readObject schema id url payload) := by
  unfold readObject
  repeat' split
  · exact yields_fail
  · exact Protobuf.Message.toValue_failsAt _ id _
  · exact yields_fail
  · exact Protobuf.Message.toValue_failsAt _ id _
  · exact Protobuf.unpackAny_failsAt _ id url payload
  · exact yields_fail

mutual

theorem Value.toValue_failsAt (schema : Option Protobuf.Schema) (id : Int) (v : Value) :
    FailsAt id (v.toValue schema id) := by
  match v with
  | .unset | .null _ | .bool _ | .int _ | .uint _ | .double _ | .string _ | .bytes _
  | .enum _ _ | .list _ | .type _ => exact FailsAt.ok
  | .object url payload => exact readObject_failsAt schema id url payload
  | .map entries =>
      have hkeys := MapEntry.readKeys_failsAt schema id entries
      rw [Value.toValue]
      split
      · exact yields_fail
      · split
        · next f hf => exact (checkKeys_failsAt hkeys []).error hf
        · exact FailsAt.ok

theorem MapEntry.readKeys_failsAt (schema : Option Protobuf.Schema) (id : Int)
    (entries : List MapEntry) : ∀ k ∈ MapEntry.readKeys schema id entries, FailsAt id k := by
  match entries with
  | [] => exact fun _ hk => absurd hk List.not_mem_nil
  | .mk key _ :: rest =>
      intro k hk
      rw [MapEntry.readKeys] at hk
      rcases List.mem_cons.mp hk with rfl | hk
      · exact Value.readKey_failsAt schema id key
      · exact MapEntry.readKeys_failsAt schema id rest k hk

theorem Value.readKey_failsAt (schema : Option Protobuf.Schema) (id : Int) (key : Option Value) :
    FailsAt id (Value.readKey schema id key) := by
  match key with
  | none => exact FailsAt.ok
  | some v => exact Value.toValue_failsAt schema id v

end

end Exchange

namespace Items

theorem read_failsAt {items : Items} {id : Int} {o : Outcome Value} (ho : o ∈ items.read id) :
    FailsAt id o := by
  cases items with
  | values vs =>
      obtain ⟨v, -, rfl⟩ := List.mem_map.mp ho
      exact FailsAt.ok
  | json xs =>
      obtain ⟨x, -, rfl⟩ := List.mem_map.mp ho
      exact x.toValue_failsAt id
  | exchange schema xs =>
      obtain ⟨x, -, rfl⟩ := List.mem_map.mp ho
      exact x.toValue_failsAt schema id
  | protobuf schema xs =>
      obtain ⟨x, -, rfl⟩ := List.mem_map.mp ho
      exact x.toValue_failsAt schema id

theorem collect_failsAt (items : Items) (id : Int) : FailsAt id (items.collect id) :=
  FailsAt.collect fun _ ho => read_failsAt ho

theorem element_failsAt (items : Items) (id index : Int) : FailsAt id (items.element id index) := by
  unfold Items.element
  split
  · split
    · next o ho => exact read_failsAt (List.mem_of_getElem? ho)
    · exact yields_fail
  · exact yields_fail

theorem index_failsAt (items : Items) (id : Int) (key : Value) :
    FailsAt id (items.index id key) := by
  unfold Items.index
  repeat' split
  · exact items.element_failsAt id _
  · exact items.element_failsAt id _
  · exact items.element_failsAt id _
  · exact yields_fail
  · exact yields_fail

end Items

namespace Entries

theorem read_failsAt {entries : Entries} {id : Int} {o : Outcome Value × Outcome Value}
    (ho : o ∈ entries.read id) : FailsAt id o.1 ∧ FailsAt id o.2 := by
  cases entries with
  | values es =>
      obtain ⟨e, -, rfl⟩ := List.mem_map.mp ho
      exact ⟨FailsAt.ok, FailsAt.ok⟩
  | json es =>
      obtain ⟨e, -, rfl⟩ := List.mem_map.mp ho
      exact ⟨FailsAt.ok, e.2.toValue_failsAt id⟩
  | exchange schema es =>
      obtain ⟨e, -, rfl⟩ := List.mem_map.mp ho
      exact ⟨e.1.toValue_failsAt schema id, e.2.toValue_failsAt schema id⟩
  | protobuf schema es =>
      obtain ⟨e, -, rfl⟩ := List.mem_map.mp ho
      exact ⟨e.1.toValue.toValue_failsAt schema id, e.2.toValue_failsAt schema id⟩

theorem keys_failsAt {entries : Entries} {id : Int} {k : Outcome Value}
    (hk : k ∈ entries.keys id) : FailsAt id k := by
  obtain ⟨o, ho, rfl⟩ := List.mem_map.mp hk
  exact (read_failsAt ho).1

theorem find?_failsAt {entries : Entries} {id : Int} {key : Key} {o : Outcome Value}
    (ho : entries.find? id key = some o) : FailsAt id o := by
  obtain ⟨entry, hentry, rfl⟩ := Option.map_eq_some_iff.mp ho
  exact (read_failsAt (List.mem_of_find?_eq_some hentry)).2

theorem get_failsAt (entries : Entries) (id : Int) (key : Value) :
    FailsAt id (entries.get id key) := by
  unfold Entries.get
  split
  · exact yields_fail
  · split
    · exact FailsAt.ok
    · exact FailsAt.ok
    · next f hf => exact (find?_failsAt hf).error rfl

theorem eq_of_pair {e : Outcome Value × Outcome Value} {p : Value × Value}
    (hpair : pair e = .ok p) : e = (.ok p.1, .ok p.2) := by
  unfold pair at hpair
  split at hpair
  · cases hpair
  · cases hpair
  · cases hpair
    rfl

/-- Collecting gives pairs exactly when every key and value can be read. -/
theorem read_of_collectPairs {entries : Entries} {id : Int} {pairs : List (Value × Value)}
    (hcollect : entries.collectPairs id = .ok pairs) :
    entries.read id = pairs.map fun p => (.ok p.1, .ok p.2) := by
  have hpairs := (collect_eq_ok_iff _ _).mp hcollect
  clear hcollect
  generalize entries.read id = es at hpairs
  induction pairs generalizing es with
  | nil => exact List.map_eq_nil_iff.mp hpairs
  | cons p rest ih =>
      obtain ⟨e, es', rfl, he, hes⟩ := List.map_eq_cons_iff.mp hpairs
      rw [List.map_cons, eq_of_pair he, ih es' hes]

theorem mem_read_of_collectPairs {entries : Entries} {id : Int} {pairs : List (Value × Value)}
    (hcollect : entries.collectPairs id = .ok pairs) :
    ∀ p ∈ pairs, (.ok p.1, .ok p.2) ∈ entries.read id := by
  intro p hp
  rw [read_of_collectPairs hcollect]
  exact List.mem_map_of_mem hp

theorem collectPairs_failsAt (entries : Entries) (id : Int) :
    FailsAt id (entries.collectPairs id) := by
  refine FailsAt.collect fun o ho => ?_
  obtain ⟨⟨k, v⟩, hentry, rfl⟩ := List.mem_map.mp ho
  obtain ⟨hk, hv⟩ := read_failsAt hentry
  cases k with
  | error f => exact hk.error rfl
  | ok k =>
      cases v with
      | error f => exact hv.error rfl
      | ok v => exact FailsAt.ok

end Entries

theorem concat_failsAt (id : Int) (ty : Ty) (xs : Items) (ty' : Ty) (ys : Items) :
    FailsAt id (concat id ty xs ty' ys) := by
  have hxs := xs.collect_failsAt id
  have hys := ys.collect_failsAt id
  unfold concat
  split
  · next f hf => exact hxs.error hf
  · split
    · next f hf => exact hys.error hf
    · exact FailsAt.ok

namespace Value

theorem newMap_failsAt (id : Int) (ty : Ty) (entries : Entries) :
    FailsAt id (Value.newMap id ty entries) := by
  have hkeys : FailsAt id (checkKeys id [] (entries.keys id)) :=
    checkKeys_failsAt (fun _ hk => Entries.keys_failsAt hk) []
  unfold Value.newMap
  split
  · next f hf => exact hkeys.error hf
  · exact FailsAt.ok

theorem byName?_failsAt {id : Int} {name : String} {v : Value} {result : Outcome Value}
    (hresult : v.byName? id name = some result) : FailsAt id result := by
  fun_induction Value.byName? id name v with
  | case1 ty entries hget => cases hresult
  | case2 ty entries w hget =>
      obtain rfl := Option.some.inj hresult
      exact FailsAt.ok
  | case3 ty entries f hget =>
      obtain rfl := Option.some.inj hresult
      exact (entries.get_failsAt id (.string name)).error hget
  | case4 schema m => exact Protobuf.Message.fieldValue?_failsAt hresult
  | case5 type zero ih => exact ih hresult
  | case6 v => cases hresult

theorem isSet_failsAt (id : Int) (name : String) (v : Value) : FailsAt id (v.isSet id name) := by
  unfold Value.isSet
  split
  · exact FailsAt.ok
  · exact Protobuf.Message.isSet_failsAt id _ name
  · exact FailsAt.ok
  · exact FailsAt.ok
  · exact yields_fail

theorem byIndex?_failsAt {id : Int} {container key : Value} {result : Outcome Value}
    (hresult : container.byIndex? id key = some result) : FailsAt id result := by
  fun_induction Value.byIndex? container id key with
  | case1 ty items id key =>
      obtain rfl := Option.some.inj hresult
      exact items.index_failsAt id key
  | case2 ty entries id key w hget =>
      obtain rfl := Option.some.inj hresult
      exact FailsAt.ok
  | case3 ty entries id key hget =>
      obtain rfl := Option.some.inj hresult
      exact yields_fail
  | case4 ty entries id key f hget =>
      obtain rfl := Option.some.inj hresult
      exact (entries.get_failsAt id key).error hget
  | case5 type zero id key ih => exact ih hresult
  | case6 v id key => cases hresult

theorem field_failsAt (v : Value) (id : Int) (name : String) : FailsAt id (v.field id name) := by
  unfold Value.field
  split
  · next result hresult => exact byName?_failsAt hresult
  · split <;> exact yields_fail

theorem index_failsAt (v : Value) (id : Int) (key : Value) : FailsAt id (v.index id key) := by
  unfold Value.index
  split
  · next result hresult => exact byIndex?_failsAt hresult
  · exact yields_fail

end Value

end CommonExpr
