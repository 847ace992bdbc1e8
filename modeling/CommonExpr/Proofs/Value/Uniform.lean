import CommonExpr.Proofs.Outcome
import CommonExpr.Value.Reading
import Mathlib.Data.List.Forall2

/-!
Reading on behalf of different nodes.

The node that asks for an element only matters for where a failure is reported.  Main
statement: entries read at any two nodes are the same values, and the same failures each
at its node, none of which says that a field is missing.
-/

namespace CommonExpr

/-- Whether the outcomes at two nodes are one value, or one failure, each at its node and
other than that of a missing field. -/
inductive Alike {α : Type} (id id' : Int) (x y : Outcome α) : Prop
  | value (a : α) (hx : x = .ok a) (hy : y = .ok a)
  | failure (c : Cause) (hc : c.kind ≠ .fieldNotFound) (hx : x = fail id c) (hy : y = fail id' c)

namespace Alike

variable {α : Type} {id id' : Int}

theorem ok {a : α} : Alike id id' (.ok a : Outcome α) (.ok a) := .value a rfl rfl

theorem fail {c : Cause} (hc : c.kind ≠ .fieldNotFound) :
    Alike id id' (fail id c : Outcome α) (fail id' c) :=
  .failure c hc rfl rfl

theorem timed (result : Except TimeFault α) :
    Alike id id' (timed id result) (timed id' result) := by
  cases result with
  | ok a => exact ok
  | error fault => exact fail (by cases fault <;> exact nofun)

@[elab_as_elim]
theorem elim {motive : Outcome α → Outcome α → Prop} {x y : Outcome α} (h : Alike id id' x y)
    (ok : ∀ a, motive (.ok a) (.ok a))
    (fail : ∀ c : Cause, c.kind ≠ .fieldNotFound →
      motive (CommonExpr.fail id c) (CommonExpr.fail id' c)) : motive x y := by
  obtain ⟨a, rfl, rfl⟩ | ⟨c, hc, rfl, rfl⟩ := h
  · exact ok a
  · exact fail c hc

end Alike

/-- A walk over the same keys goes the same way. -/
theorem checkKeys_alike {id id' : Int} {keys keys' : List (Outcome Value)}
    (hkeys : List.Forall₂ (Alike id id') keys keys') (seen : List Key) :
    Alike id id' (checkKeys id seen keys) (checkKeys id' seen keys') := by
  induction hkeys generalizing seen with
  | nil => exact .ok
  | cons hhead _ ih =>
      cases hhead with
      | failure c hc hx hy =>
          rw [hx, hy]
          exact .fail hc
      | value v hx hy =>
          rw [hx, hy, checkKeys, checkKeys]
          split
          · exact .fail nofun
          · split
            · exact .fail nofun
            · exact ih _

/-- Keys that are there without being read are alike. -/
theorem checkKeys_map_alike {α : Type} {id id' : Int} {es : List α} {key : α → Outcome Value}
    (hkey : ∀ e, ∃ v, key e = .ok v) :
    Alike id id' (checkKeys id [] (es.map key)) (checkKeys id' [] (es.map key)) := by
  refine checkKeys_alike (List.forall₂_same.mpr fun k hk => ?_) []
  obtain ⟨e, -, rfl⟩ := List.mem_map.mp hk
  obtain ⟨v, hv⟩ := hkey e
  rw [hv]
  exact .ok

theorem Json.toValue_alike (id id' : Int) (x : Json) :
    Alike id id' (x.toValue id) (x.toValue id') := by
  cases x with
  | integer i =>
      rw [Json.toValue, Json.toValue]
      split <;> exact .ok
  | object members =>
      rw [Json.toValue, Json.toValue]
      refine Alike.elim (checkKeys_map_alike ?_) (fun _ => .ok) fun _ hc => .fail hc
      exact fun e => ⟨_, rfl⟩
  | _ => exact .ok

namespace Protobuf

theorem mapValue_alike (schema : Schema) (id id' : Int) (ty : Ty) (entries : List (Key × Value)) :
    Alike id id' (mapValue schema id ty entries) (mapValue schema id' ty entries) := by
  rw [mapValue, mapValue]
  refine Alike.elim (checkKeys_map_alike ?_) (fun _ => .ok) fun _ hc => .fail hc
  exact fun e => ⟨_, rfl⟩

/-- However many messages are packed in one another, the node only matters for failures. -/
theorem Message.read_alike (schema : Schema) (id id' : Int) (fuel : Nat) (m : Message) :
    Alike id id' (m.read schema id fuel) (m.read schema id' fuel) := by
  induction fuel generalizing m with
  | zero => exact .fail nofun
  | succ fuel ih =>
      rw [Message.read, Message.read]
      split
      · dsimp only
        split
        · exact .fail nofun
        · split
          · exact .fail nofun
          · split
            · exact .fail nofun
            · exact ih _
      · split
        · exact (Alike.timed _).elim (fun _ => .ok) fun _ hc => .fail hc
        · split
          · exact (Alike.timed _).elim (fun _ => .ok) fun _ hc => .fail hc
          · split
            · split
              · exact .ok
              · exact .ok
              · exact .ok
              · exact ih _
              · exact ih _
              · exact .ok
            · split
              · exact mapValue_alike schema id id' _ _
              · split
                · exact .ok
                · split <;> exact .ok

theorem Value.toValue_alike (schema : Schema) (id id' : Int) (v : Value) :
    Alike id id' (v.toValue schema id) (v.toValue schema id') := by
  unfold Value.toValue
  split
  · exact Message.read_alike schema id id' _ _
  · exact .ok
  · exact mapValue_alike schema id id' _ _
  · split <;> exact .ok

end Protobuf

namespace Exchange

theorem readObject_alike (schema : Option Protobuf.Schema) (id id' : Int) (url : String)
    (payload : List UInt8) :
    Alike id id' (readObject schema id url payload) (readObject schema id' url payload) := by
  unfold readObject
  repeat' split
  · exact .fail nofun
  · exact Protobuf.Message.read_alike _ id id' _ _
  · exact .fail nofun
  · exact Protobuf.Message.read_alike _ id id' _ _
  · exact Protobuf.Message.read_alike _ id id' _ _
  · exact .fail nofun

mutual

theorem Value.toValue_alike (schema : Option Protobuf.Schema) (id id' : Int) (v : Value) :
    Alike id id' (v.toValue schema id) (v.toValue schema id') := by
  match v with
  | .unset | .null _ | .bool _ | .int _ | .uint _ | .double _ | .string _ | .bytes _
  | .enum _ _ | .list _ | .type _ => exact .ok
  | .object url payload => exact readObject_alike schema id id' url payload
  | .map entries =>
      have hkeys := MapEntry.readKeys_alike schema id id' entries
      rw [Value.toValue, Value.toValue]
      split
      · exact .fail nofun
      · exact (checkKeys_alike hkeys []).elim (fun _ => .ok) fun _ hc => .fail hc

theorem MapEntry.readKeys_alike (schema : Option Protobuf.Schema) (id id' : Int)
    (entries : List MapEntry) :
    List.Forall₂ (Alike id id') (MapEntry.readKeys schema id entries)
      (MapEntry.readKeys schema id' entries) := by
  match entries with
  | [] => exact .nil
  | .mk key _ :: rest =>
      rw [MapEntry.readKeys, MapEntry.readKeys]
      exact .cons (Value.readKey_alike schema id id' key)
        (MapEntry.readKeys_alike schema id id' rest)

theorem Value.readKey_alike (schema : Option Protobuf.Schema) (id id' : Int)
    (key : Option Value) :
    Alike id id' (Value.readKey schema id key) (Value.readKey schema id' key) := by
  match key with
  | none => exact .ok
  | some v => exact Value.toValue_alike schema id id' v

end

end Exchange

namespace Entries

variable {id id' : Int}

theorem map_alike {α : Type} (es : List α) {read read' : α → Outcome Value × Outcome Value}
    (hread : ∀ e, Alike id id' (read e).1 (read' e).1 ∧ Alike id id' (read e).2 (read' e).2) :
    List.Forall₂ (fun e e' => Alike id id' e.1 e'.1 ∧ Alike id id' e.2 e'.2) (es.map read)
      (es.map read') :=
  List.forall₂_map_left_iff.mpr (List.forall₂_map_right_iff.mpr
    (List.forall₂_same.mpr fun e _ => hread e))

/-- Keys and values of entries are alike at any two nodes. -/
theorem read_alike (entries : Entries) (id id' : Int) :
    List.Forall₂ (fun e e' => Alike id id' e.1 e'.1 ∧ Alike id id' e.2 e'.2) (entries.read id)
      (entries.read id') := by
  cases entries with
  | values es => exact map_alike es fun e => ⟨.ok, .ok⟩
  | json es => exact map_alike es fun e => ⟨.ok, e.2.toValue_alike id id'⟩
  | exchange schema es =>
      exact map_alike es fun e =>
        ⟨e.1.toValue_alike schema id id', e.2.toValue_alike schema id id'⟩
  | protobuf schema es =>
      exact map_alike es fun e =>
        ⟨e.1.toValue.toValue_alike schema id id', e.2.toValue_alike schema id id'⟩

theorem keys_alike (entries : Entries) (id id' : Int) :
    List.Forall₂ (Alike id id') (entries.keys id) (entries.keys id') :=
  List.forall₂_map_left_iff.mpr (List.forall₂_map_right_iff.mpr
    ((entries.read_alike id id').imp fun _ _ h => h.1))

/-- Keys that all can be read at one node are the same values at every node. -/
theorem keys_eq {entries : Entries} {ks : List Value} (hkeys : entries.keys id = ks.map .ok)
    (id' : Int) : entries.keys id' = ks.map .ok := by
  have halike := entries.keys_alike id id'
  rw [hkeys, List.forall₂_map_left_iff] at halike
  have hsame : List.Forall₂ Eq (ks.map .ok) (entries.keys id') := by
    refine List.forall₂_map_left_iff.mpr (halike.imp fun k o ho => ?_)
    obtain ⟨_, ⟨⟩, hok⟩ | ⟨_, -, hfail, -⟩ := ho
    · exact hok.symm
    · cases hfail
  rw [List.forall₂_eq_eq_eq] at hsame
  exact hsame.symm

/-- No entry fails to be read for the lack of a field. -/
theorem kind_ne_of_mem_read {entries : Entries} {k : Outcome Value} {e : Error}
    (he : (k, .error (.error e)) ∈ entries.read id) : e.kind ≠ .fieldNotFound := by
  have halike := (List.forall₂_same.mp (entries.read_alike id id) _ he).2
  obtain ⟨_, hx, -⟩ | ⟨c, hc, hx, -⟩ := halike
  · cases hx
  · cases hx
    exact hc

end Entries

end CommonExpr
