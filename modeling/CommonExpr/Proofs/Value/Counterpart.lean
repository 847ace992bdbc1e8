import CommonExpr.Proofs.Fault
import CommonExpr.Proofs.Sequence
import CommonExpr.Proofs.Value.Equality
import CommonExpr.Proofs.Value.Key
import CommonExpr.Proofs.Value.Stored
import CommonExpr.Proofs.Value.Uniform
import Mathlib.Data.List.Nodup
import Mathlib.Logic.Relation

/-!
Lists and maps, and data that are made of what they hold.

A list or map in any form is equal to host data that hold its elements in another form, if
these are read as equal values, by whatever schema.  Main statement: so it is on the left
side, and on the right side too where the containers of this form in it share a schema.
-/

namespace CommonExpr

/-- Whether all elements can be read, as these values. -/
def Items.ReadsTo (items : Items) (vs : List Value) : Prop := items.read 0 = vs.map .ok

/-- Whether all keys and values can be read, as these. -/
def Entries.ReadsTo (entries : Entries) (pairs : List (Value × Value)) : Prop :=
  entries.read 0 = pairs.map fun e => (.ok e.1, .ok e.2)

/-- Whether all keys have canonical forms, and these are distinct. -/
structure DistinctKeys (pairs : List (Value × Value)) : Prop where
  canonical : ∀ e ∈ pairs, e.1.key?.isSome = true
  nodup : (pairs.map fun e => e.1.key?).Nodup

/-! Elements and entries, whoever asks for them -/

section Collecting

variable {id id' : Int}

theorem Alike.eq_ok {α : Type} {x y : Outcome α} {a : α} (halike : Alike id id' x y)
    (hx : x = .ok a) : y = .ok a := by
  subst hx
  obtain ⟨_, ⟨⟩, hok⟩ | ⟨_, -, hfail, -⟩ := halike
  · exact hok
  · cases hfail

theorem Items.map_alike {α : Type} (xs : List α) {read read' : α → Outcome Value}
    (hread : ∀ x, Alike id id' (read x) (read' x)) :
    List.Forall₂ (Alike id id') (xs.map read) (xs.map read') :=
  List.forall₂_map_left_iff.mpr (List.forall₂_map_right_iff.mpr
    (List.forall₂_same.mpr fun x _ => hread x))

/-- Elements are alike at any two nodes. -/
theorem Items.read_alike (items : Items) (id id' : Int) :
    List.Forall₂ (Alike id id') (items.read id) (items.read id') := by
  cases items with
  | values vs => exact Items.map_alike vs fun v => .ok
  | json xs => exact Items.map_alike xs fun x => x.toValue_alike id id'
  | exchange schema xs => exact Items.map_alike xs fun x => x.toValue_alike schema id id'
  | protobuf schema xs => exact Items.map_alike xs fun x => x.toValue_alike schema id id'

theorem Items.ReadsTo.read_eq {items : Items} {vs : List Value} (hread : items.ReadsTo vs)
    (id : Int) : items.read id = vs.map .ok := by
  have halike := items.read_alike 0 id
  rw [hread] at halike
  exact eq_map_of_forall₂ halike fun v o ho => ho.eq_ok rfl

theorem Entries.ReadsTo.read_eq {entries : Entries} {pairs : List (Value × Value)}
    (hread : entries.ReadsTo pairs) (id : Int) :
    entries.read id = pairs.map fun e => (.ok e.1, .ok e.2) := by
  have halike := entries.read_alike 0 id
  rw [hread] at halike
  refine eq_map_of_forall₂ halike fun e o ho => ?_
  exact Prod.ext (ho.1.eq_ok rfl) (ho.2.eq_ok rfl)

theorem Items.ReadsTo.collect {items : Items} {vs : List Value} (hread : items.ReadsTo vs)
    (id : Int) : items.collect id = .ok vs :=
  (collect_eq_ok_iff _ _).mpr (hread.read_eq id)

theorem Entries.ReadsTo.collectPairs {entries : Entries} {pairs : List (Value × Value)}
    (hread : entries.ReadsTo pairs) (id : Int) : entries.collectPairs id = .ok pairs := by
  refine (collect_eq_ok_iff _ _).mpr ?_
  rw [hread.read_eq id, List.map_map]
  rfl

/-- What was collected at any node is what can be read. -/
theorem Items.readsTo_of_collect {items : Items} {vs : List Value} {id : Int}
    (hcollect : items.collect id = .ok vs) : items.ReadsTo vs := by
  have halike := items.read_alike id 0
  rw [(collect_eq_ok_iff _ _).mp hcollect] at halike
  exact eq_map_of_forall₂ halike fun v o ho => ho.eq_ok rfl

theorem Entries.readsTo_of_collectPairs {entries : Entries} {pairs : List (Value × Value)}
    {id : Int} (hcollect : entries.collectPairs id = .ok pairs) : entries.ReadsTo pairs := by
  have halike := entries.read_alike id 0
  rw [Entries.read_of_collectPairs hcollect] at halike
  refine eq_map_of_forall₂ halike fun e o ho => ?_
  exact Prod.ext (ho.1.eq_ok rfl) (ho.2.eq_ok rfl)

/-- The keys that a map is read to are as distinct as its own. -/
theorem Entries.ReadsTo.distinctKeys {entries : Entries} {pairs : List (Value × Value)}
    (hread : entries.ReadsTo pairs) (hkeys : entries.KeysDistinct) : DistinctKeys pairs := by
  obtain ⟨keys, hmap, hnodup⟩ := hkeys 0
  have hcanonical : (pairs.map fun e => e.1.key?) = keys.map some := by
    rw [← hmap, Entries.keys, hread, List.map_map, List.map_map]
    rfl
  constructor
  · intro e he
    have hmem : e.1.key? ∈ keys.map some := hcanonical ▸ List.mem_map_of_mem he
    obtain ⟨key, -, heq⟩ := List.mem_map.mp hmem
    rw [← heq]
    rfl
  · rw [hcanonical]
    exact hnodup.map (Option.some_injective _)

theorem Items.ReadsTo.depth_le {items : Items} {vs : List Value} (hread : items.ReadsTo vs) :
    ∀ v ∈ vs, v.depth ≤ items.depth := by
  intro v hv
  have hmem : .ok v ∈ items.read 0 := hread ▸ List.mem_map_of_mem hv
  exact Items.depth_of_read hmem

theorem Entries.ReadsTo.depth_le {entries : Entries} {pairs : List (Value × Value)}
    (hread : entries.ReadsTo pairs) : ∀ e ∈ pairs, e.2.depth ≤ entries.depth := by
  intro e he
  have hmem : (.ok e.1, .ok e.2) ∈ entries.read 0 := hread ▸ List.mem_map_of_mem he
  exact Entries.depth_of_read hmem

end Collecting

/-! Schemas -/

/-- Whether elements are read by a schema in `x` if they are exchanged values, and by one
in `p` if they are fields of messages. -/
def Items.SchemasIn (x : Option Protobuf.Schema → Prop) (p : Protobuf.Schema → Prop) : Items → Prop
  | .exchange schema _ => x schema
  | .protobuf schema _ => p schema
  | _ => True

/-- Whether entries are read by a schema in `x` if they are exchanged values, and by one
in `p` if they are fields of messages. -/
def Entries.SchemasIn (x : Option Protobuf.Schema → Prop) (p : Protobuf.Schema → Prop) :
    Entries → Prop
  | .exchange schema _ => x schema
  | .protobuf schema _ => p schema
  | _ => True

namespace Value

/-- Whether so is a list or a map. -/
def TopSchemaIn (x : Option Protobuf.Schema → Prop) (p : Protobuf.Schema → Prop) : Value → Prop
  | .list _ items => items.SchemasIn x p
  | .map _ entries => entries.SchemasIn x p
  | _ => True

/-- Whether so is every list and map in a value, at any depth. -/
def SchemasIn (x : Option Protobuf.Schema → Prop) (p : Protobuf.Schema → Prop) (v : Value) : Prop :=
  ∀ w, Relation.ReflTransGen Holds v w → w.TopSchemaIn x p

variable {x : Option Protobuf.Schema → Prop} {p : Protobuf.Schema → Prop}

theorem SchemasIn.top {v : Value} (hv : v.SchemasIn x p) : v.TopSchemaIn x p := hv v .refl

theorem SchemasIn.held {v w : Value} (hv : v.SchemasIn x p) (hw : v.Holds w) : w.SchemasIn x p :=
  fun u hu => hv u (.head hw hu)

/-- Whether two values are equal, where on the right side the condition is needed. -/
def Matches (c : Prop) (v w : Value) : Prop := v.equals w = true ∧ (c → w.equals v = true)

/-- Whether a value was read, and one that `v` matches. -/
def MatchesRead (c : Prop) (v : Value) (o : Outcome Value) : Prop :=
  ∃ w, o = .ok w ∧ v.Matches c w

theorem MatchesRead.mono {c c' : Prop} {v : Value} {o : Outcome Value}
    (hmatch : v.MatchesRead c o) (himp : c' → c) : v.MatchesRead c' o := by
  obtain ⟨w, hw, hequals, hback⟩ := hmatch
  exact ⟨w, hw, hequals, fun hc => hback (himp hc)⟩

end Value

/-- Whether an exchanged value is read as one that `v` matches, whatever schema reads it. -/
def Exchange.Value.Mirrors (y : Exchange.Value) (v : CommonExpr.Value) : Prop :=
  ∀ s id, v.MatchesRead (v.SchemasIn (· = s) fun _ => True) (y.toValue s id)

/-- Whether the value of a field is read as one that `v` matches, whatever schema reads it. -/
def Protobuf.Value.Mirrors (y : Protobuf.Value) (v : CommonExpr.Value) : Prop :=
  ∀ s id, v.MatchesRead (v.SchemasIn (fun _ => True) (· = s)) (y.toValue s id)

/-- The canonical form of a key of a map field. -/
def Protobuf.Key.canonical? (k : Protobuf.Key) : Option CommonExpr.Key :=
  k.toValue.widened?.bind Scalar.key?

theorem Protobuf.Key.keyOf?_toValue (k : Protobuf.Key) (schema : Protobuf.Schema) (id : Int) :
    Entries.keyOf? (k.toValue.toValue schema id) = k.canonical? := by
  obtain ⟨s, hs⟩ := k.exists_widened?
  rw [Value.toValue_of_widened? hs, canonical?, hs]
  rfl

/-! Comparing with data -/

section Comparing

variable (eq : Value → Value → Bool)

theorem Items.exists_equals_protobuf (items : Items) (schema : Protobuf.Schema)
    (ys : List Protobuf.Value) : ∃ s, items.equals eq (.protobuf schema ys) =
      equalLists eq (items.read 0) (ys.map (·.toValue s 0)) := by
  cases items with
  | protobuf s xs => exact ⟨s, rfl⟩
  | _ => exact ⟨schema, rfl⟩

theorem Items.protobuf_equals {items : Items} {schema : Protobuf.Schema}
    {x : Option Protobuf.Schema → Prop} (hitems : items.SchemasIn x (· = schema))
    (ys : List Protobuf.Value) : (Items.protobuf schema ys).equals eq items =
      equalLists eq (ys.map (·.toValue schema 0)) (items.read 0) := by
  cases items with
  | protobuf s xs =>
      obtain rfl : s = schema := hitems
      rfl
  | _ => rfl

theorem Entries.exists_equals_protobuf (entries : Entries) (schema : Protobuf.Schema)
    (es : List (Protobuf.Key × Protobuf.Value)) : ∃ s, entries.equals eq (.protobuf schema es) =
      (entries.length == es.length && equalEntries eq (entries.read 0)
        (es.map fun e => (e.1.toValue.toValue schema 0, e.2.toValue s 0))) := by
  cases entries with
  | protobuf s xs => exact ⟨s, rfl⟩
  | _ => exact ⟨schema, rfl⟩

theorem Entries.protobuf_equals {entries : Entries} {schema : Protobuf.Schema}
    {x : Option Protobuf.Schema → Prop} (hentries : entries.SchemasIn x (· = schema))
    (es : List (Protobuf.Key × Protobuf.Value)) :
    (Entries.protobuf schema es).equals eq entries =
      (es.length == entries.length && equalEntries eq
        (es.map fun e => (e.1.toValue.toValue schema 0, e.2.toValue schema 0))
        (entries.read 0)) := by
  cases entries with
  | protobuf s xs =>
      obtain rfl : s = schema := hentries
      rfl
  | _ => rfl

end Comparing

/-! Entries with distinct keys -/

/-- Keys with canonical forms that are distinct, and none of which was seen, pass. -/
theorem checkKeys_of_nodup (id : Int) {seen : List Key} {keys : List (Outcome Value)}
    (hcanonical : ∀ k ∈ keys, (Entries.keyOf? k).isSome = true)
    (hnodup : (keys.map Entries.keyOf?).Nodup)
    (hnew : ∀ k ∈ keys, ∀ key ∈ seen, Entries.keyOf? k ≠ some key) :
    checkKeys id seen keys = .ok () := by
  induction keys generalizing seen with
  | nil => rfl
  | cons k rest ih =>
      obtain ⟨hk, hrest⟩ := List.forall_mem_cons.mp hcanonical
      obtain ⟨hfirst, hothers⟩ := List.nodup_cons.mp hnodup
      obtain ⟨hfresh, hfreshes⟩ := List.forall_mem_cons.mp hnew
      obtain ⟨key, hkey⟩ := Option.isSome_iff_exists.mp hk
      cases k with
      | error f => cases hkey
      | ok v =>
          have hvkey : v.key? = some key := hkey
          have hunseen : key ∉ seen := fun hseen => hfresh key hseen hkey
          rw [checkKeys, hvkey]
          dsimp only
          rw [if_neg hunseen]
          refine ih hrest hothers fun other hother key' hseen => ?_
          rcases List.mem_cons.mp hseen with rfl | hseen
          · exact fun heq => hfirst (hkey.trans heq.symm ▸ List.mem_map_of_mem hother)
          · exact hfreshes other hother key' hseen

/-- Entries whose keys are read as those of others, whose keys are distinct, make a map. -/
theorem Value.newMap_of_distinct {id : Int} {ty : Ty} {entries : Entries}
    {pairs : List (Value × Value)} (hkeys : DistinctKeys pairs)
    (hsame : (entries.keys id).map Entries.keyOf? = pairs.map fun e => e.1.key?) :
    newMap id ty entries = .ok (.map ty entries) := by
  have hcanonical : ∀ k ∈ entries.keys id, (Entries.keyOf? k).isSome = true := by
    intro k hk
    have hmem : Entries.keyOf? k ∈ pairs.map fun e => e.1.key? := hsame ▸ List.mem_map_of_mem hk
    obtain ⟨e, he, heq⟩ := List.mem_map.mp hmem
    exact heq ▸ hkeys.canonical e he
  have hcheck : checkKeys id [] (entries.keys id) = .ok () :=
    checkKeys_of_nodup id hcanonical (hsame ▸ hkeys.nodup) fun _ _ _ hseen =>
      absurd hseen List.not_mem_nil
  rw [newMap, hcheck]

section Entries

variable {eq : Value → Value → Bool}

/-- An entry whose key no other has is the one that is found. -/
theorem valueAt?_of_mem {es : List (Outcome Value × Outcome Value)}
    (hkeys : (es.map fun e => Entries.keyOf? e.1).Nodup) {e : Outcome Value × Outcome Value}
    (he : e ∈ es) {key : Key} (hkey : Entries.keyOf? e.1 = some key) :
    Entries.valueAt? key es = some e.2 := by
  have hfound : (es.find? fun e => Entries.keyOf? e.1 = some key).isSome = true :=
    List.find?_isSome.mpr ⟨e, he, decide_eq_true hkey⟩
  obtain ⟨f, hf⟩ := Option.isSome_iff_exists.mp hfound
  have hdecide := List.find?_some hf
  have hfkey : Entries.keyOf? f.1 = some key := of_decide_eq_true hdecide
  obtain rfl : f = e :=
    List.inj_on_of_nodup_map hkeys (List.mem_of_find?_eq_some hf) he (hfkey.trans hkey.symm)
  rw [Entries.valueAt?, hf]
  rfl

theorem equalEntries_of_partners {left right : List (Outcome Value × Outcome Value)}
    (hkeys : (right.map fun e => Entries.keyOf? e.1).Nodup)
    (hpartner : ∀ e ∈ left, ∃ f ∈ right, (Entries.keyOf? e.1).isSome = true ∧
      Entries.keyOf? f.1 = Entries.keyOf? e.1 ∧ EqualOutcomes eq e.2 f.2) :
    equalEntries eq left right = true := by
  refine equalEntries_iff.mpr fun e he => ?_
  obtain ⟨f, hf, hsome, hkey, hequal⟩ := hpartner e he
  obtain ⟨key, hkey'⟩ := Option.isSome_iff_exists.mp hsome
  exact ⟨key, f.2, hkey', valueAt?_of_mem hkeys hf (hkey.trans hkey'), hequal⟩

variable {pairs : List (Value × Value)} {right right' : List (Outcome Value × Outcome Value)}
  {c : Prop}

/-- Entries with the keys of others and values that match are equal to them, in any order. -/
theorem equalEntries_of_matches (hkeys : DistinctKeys pairs) (hperm : right'.Perm right)
    (hmatch : List.Forall₂ (fun e f => Entries.keyOf? f.1 = e.1.key? ∧ e.2.MatchesRead c f.2)
      pairs right) :
    equalEntries Value.equals (pairs.map fun e => (.ok e.1, .ok e.2)) right' = true ∧
      (c → equalEntries Value.equals right' (pairs.map fun e => (.ok e.1, .ok e.2)) = true) := by
  have hsame := map_eq_of_forall₂ (hmatch.imp fun _ _ h => h.1)
  have hnodup : (right'.map fun f => Entries.keyOf? f.1).Nodup :=
    (hperm.map _).nodup_iff.mpr (hsame ▸ hkeys.nodup)
  have hnodup' : ((pairs.map fun e => (.ok e.1, .ok e.2)).map
      fun f : Outcome Value × Outcome Value => Entries.keyOf? f.1).Nodup := by
    rw [List.map_map]
    exact hkeys.nodup
  constructor
  · refine equalEntries_of_partners hnodup fun f hf => ?_
    obtain ⟨e, he, rfl⟩ := List.mem_map.mp hf
    obtain ⟨f, hf, hkey, w, hw, hequals, -⟩ := exists_of_mem_left hmatch e he
    exact ⟨f, hperm.mem_iff.mpr hf, hkeys.canonical e he, hkey, e.2, w, rfl, hw, hequals⟩
  · intro hc
    refine equalEntries_of_partners hnodup' fun f hf => ?_
    obtain ⟨e, he, hkey, w, hw, -, hback⟩ :=
      exists_of_mem_left hmatch.flip f (hperm.mem_iff.mp hf)
    have hsome : (Entries.keyOf? f.1).isSome = true := hkey ▸ hkeys.canonical e he
    exact ⟨_, List.mem_map_of_mem he, hsome, hkey.symm, w, e.2, hw, rfl, hback hc⟩

end Entries

namespace Value

/-! Values that match -/

/-- Scalars that stand for the same match, bare or wrapped. -/
theorem matches_of_meaning {v w : Value} {s s' : Scalar} {m : Scalar.Meaning}
    (hv : v.scalar? = some s) (hw : w.scalar? = some s') (hm : s.meaning? = some m)
    (hm' : s'.meaning? = some m) (c : Prop) : v.Matches c w := by
  rw [Matches, equals_of_scalars hv hw, equals_of_scalars hw hv, Scalar.equals_iff,
    Scalar.equals_iff]
  exact ⟨⟨m, hm, hm'⟩, fun _ => ⟨m, hm', hm⟩⟩

theorem matches_scalar {v w : Value} {s : Scalar} (hv : v.scalar? = some s)
    (hw : w.scalar? = some s) (hnan : s.isNaN = false) (c : Prop) : v.Matches c w := by
  obtain ⟨m, hm⟩ := Scalar.exists_meaning hnan
  exact matches_of_meaning hv hw hm hm c

theorem matches_null {v : Value} (hv : v.isNull = true) (c : Prop) : v.Matches c .null := by
  rw [Matches, equals_eq, equals_eq]
  cases v with
  | null => exact ⟨rfl, fun _ => rfl⟩
  | typedNull type zero => exact ⟨rfl, fun _ => rfl⟩
  | _ => cases hv

theorem matches_timestamp (t : Timestamp) (c : Prop) :
    (Value.timestamp t).Matches c (.timestamp t) := by
  rw [Matches, equals_eq]
  simp [equalsBy]

theorem matches_duration (d : Duration) (c : Prop) :
    (Value.duration d).Matches c (.duration d) := by
  rw [Matches, equals_eq]
  simp [equalsBy]

variable {ty ty' : Ty} {items : Items} {entries : Entries} {vs : List Value}
  {pairs : List (Value × Value)}

theorem equalLists_of_matches {os : List (Outcome Value)} {c : Prop}
    (hmatch : List.Forall₂ (fun v o => v.MatchesRead c o) vs os) :
    equalLists equals (vs.map .ok) os = true ∧
      (c → equalLists equals os (vs.map .ok) = true) := by
  refine ⟨equalLists_iff.mpr ?_, fun hc => equalLists_iff.mpr ?_⟩
  · refine List.forall₂_map_left_iff.mpr (hmatch.imp fun v o h => ?_)
    obtain ⟨w, hw, hequals, -⟩ := h
    exact ⟨v, w, rfl, hw, hequals⟩
  · refine List.forall₂_map_right_iff.mpr (hmatch.flip.imp fun o v h => ?_)
    obtain ⟨w, hw, -, hback⟩ := h
    exact ⟨w, v, hw, rfl, hback hc⟩

theorem SchemasIn.element {x : Option Protobuf.Schema → Prop} {p : Protobuf.Schema → Prop}
    (hlist : (Value.list ty items).SchemasIn x p) (hread : items.ReadsTo vs) :
    ∀ v ∈ vs, v.SchemasIn x p :=
  fun _ hv => hlist.held (.element (hread ▸ List.mem_map_of_mem hv))

theorem SchemasIn.entry {x : Option Protobuf.Schema → Prop} {p : Protobuf.Schema → Prop}
    (hmap : (Value.map ty entries).SchemasIn x p) (hread : entries.ReadsTo pairs) :
    ∀ e ∈ pairs, e.2.SchemasIn x p :=
  fun e he => hmap.held (.entry (k := .ok e.1) (hread ▸ List.mem_map_of_mem he))

/-- A list matches the field values that mirror its elements. -/
theorem matches_list_protobuf {schema : Protobuf.Schema} {ys : List Protobuf.Value}
    (hread : items.ReadsTo vs) (hys : List.Forall₂ (fun v y => y.Mirrors v) vs ys) :
    (Value.list ty items).Matches ((Value.list ty items).SchemasIn (fun _ => True) (· = schema))
      (.list ty' (.protobuf schema ys)) := by
  have hmatch (s : Protobuf.Schema) :
      List.Forall₂
        (fun v o => v.MatchesRead ((Value.list ty items).SchemasIn (fun _ => True) (· = s)) o)
        vs (ys.map (·.toValue s 0)) := by
    refine List.forall₂_map_right_iff.mpr ?_
    refine ((List.forall₂_and_left _ _).mpr ⟨fun v hv => hv, hys⟩).imp fun v y h => ?_
    exact (h.2 s 0).mono fun hlist => hlist.element hread v h.1
  rw [Matches, equals_eq, equals_eq]
  constructor
  · obtain ⟨s, hs⟩ := items.exists_equals_protobuf equals schema ys
    refine hs.trans ?_
    rw [hread]
    exact (equalLists_of_matches (hmatch s)).1
  · intro hlist
    refine (Items.protobuf_equals equals hlist.top ys).trans ?_
    rw [hread]
    exact (equalLists_of_matches (hmatch schema)).2 hlist

theorem MatchesRead.key?_eq {c : Prop} {v : Value} {o : Outcome Value}
    (hmatch : v.MatchesRead c o) : Entries.keyOf? o = v.key? := by
  obtain ⟨w, rfl, hequals, -⟩ := hmatch
  exact (key?_congr hequals).symm

/-- A map matches the entries of a map field that mirror its own, in any order. -/
theorem matches_map_protobuf {schema : Protobuf.Schema}
    {es es' : List (Protobuf.Key × Protobuf.Value)} (hread : entries.ReadsTo pairs)
    (hkeys : DistinctKeys pairs) (hperm : es'.Perm es)
    (hes : List.Forall₂ (fun e f => f.1.canonical? = e.1.key? ∧ f.2.Mirrors e.2) pairs es) :
    (Value.map ty entries).Matches ((Value.map ty entries).SchemasIn (fun _ => True) (· = schema))
      (.map ty' (.protobuf schema es')) := by
  have hmatch (s : Protobuf.Schema) :
      List.Forall₂ (fun e f => Entries.keyOf? f.1 = e.1.key? ∧
          e.2.MatchesRead ((Value.map ty entries).SchemasIn (fun _ => True) (· = s)) f.2)
        pairs (es.map fun f => (f.1.toValue.toValue schema 0, f.2.toValue s 0)) := by
    refine List.forall₂_map_right_iff.mpr ?_
    refine ((List.forall₂_and_left _ _).mpr ⟨fun e he => he, hes⟩).imp fun e f h => ?_
    exact ⟨(f.1.keyOf?_toValue schema 0).trans h.2.1,
      (h.2.2 s 0).mono fun hmap => hmap.entry hread e h.1⟩
  have hlength : entries.length = es'.length := by
    rw [← entries.length_read 0, hread, List.length_map, hes.length_eq, hperm.length_eq]
  rw [Matches, equals_eq, equals_eq]
  constructor
  · obtain ⟨s, hs⟩ := entries.exists_equals_protobuf equals schema es'
    refine hs.trans ?_
    rw [hread, hlength, beq_self_eq_true, Bool.true_and]
    exact (equalEntries_of_matches hkeys (hperm.map _) (hmatch s)).1
  · intro hmap
    refine (Entries.protobuf_equals equals hmap.top es').trans ?_
    rw [hread, hlength, beq_self_eq_true, Bool.true_and]
    exact (equalEntries_of_matches hkeys (hperm.map _) (hmatch schema)).2 hmap

end Value

end CommonExpr
