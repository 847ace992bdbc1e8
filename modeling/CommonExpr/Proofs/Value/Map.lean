import CommonExpr.Library.Comparison
import CommonExpr.Proofs.Value.Key
import CommonExpr.Proofs.Value.Stored
import CommonExpr.Proofs.Value.Uniform

/-!
Maps and lookups in them.

Keys are read once when a map is made, and their canonical forms have to be distinct.
Main statement: a map is refused for its first bad key and for nothing else, and every
way to ask a map for a key gives the entry whose key is equal to it.
-/

namespace CommonExpr

/-! The first bad key -/

/-- Why a key cannot follow others, whose canonical forms are `seen`. -/
inductive KeyFault (id : Int) (seen : List Key) : Outcome Value → Fault → Prop
  | unread {f : Fault} : KeyFault id seen (.error f) f
  | unsupported {v : Value} (hkey : v.key? = none) :
      KeyFault id seen (.ok v) (.error ⟨id, .unsupportedKeyType, []⟩)
  | conflict {v : Value} {key : Key} (hkey : v.key? = some key) (hseen : key ∈ seen) :
      KeyFault id seen (.ok v) (.error ⟨id, .mapKeyConflict v.display, []⟩)

/-- Whether the key at a position cannot follow `seen` and the keys before it. -/
def FaultAt (id : Int) (seen : List Key) (keys : List (Outcome Value)) (i : Nat) (f : Fault) :
    Prop :=
  ∃ k, keys[i]? = some k ∧ KeyFault id ((keys.take i).filterMap Entries.keyOf? ++ seen) k f

/-- Whether a fault is that of the first key that cannot follow those before it. -/
def FirstFault (id : Int) (seen : List Key) (keys : List (Outcome Value)) (f : Fault) : Prop :=
  ∃ i, FaultAt id seen keys i f ∧ ∀ j < i, ∀ g, ¬ FaultAt id seen keys j g

section Walk

variable {id : Int} {seen : List Key} {k : Outcome Value} {keys : List (Outcome Value)}

theorem KeyFault.unique {f g : Fault} (hf : KeyFault id seen k f) (hg : KeyFault id seen k g) :
    f = g := by
  cases hf with
  | unread =>
      cases hg
      rfl
  | unsupported hkey =>
      cases hg with
      | unsupported => rfl
      | conflict hkey' => cases hkey.symm.trans hkey'
  | conflict hkey =>
      cases hg with
      | unsupported hkey' => cases hkey.symm.trans hkey'
      | conflict => rfl

theorem keyFault_congr {seen' : List Key} {f : Fault} (hmem : ∀ key, key ∈ seen ↔ key ∈ seen') :
    KeyFault id seen k f ↔ KeyFault id seen' k f := by
  constructor
  · rintro (_ | hkey | ⟨hkey, hseen⟩)
    · exact .unread
    · exact .unsupported hkey
    · exact .conflict hkey ((hmem _).mp hseen)
  · rintro (_ | hkey | ⟨hkey, hseen⟩)
    · exact .unread
    · exact .unsupported hkey
    · exact .conflict hkey ((hmem _).mpr hseen)

theorem faultAt_zero {f : Fault} : FaultAt id seen (k :: keys) 0 f ↔ KeyFault id seen k f := by
  simp [FaultAt]

/-- Behind a key, its canonical form has been seen as well. -/
theorem faultAt_succ {key : Key} (hkey : Entries.keyOf? k = some key) {i : Nat} {f : Fault} :
    FaultAt id seen (k :: keys) (i + 1) f ↔ FaultAt id (key :: seen) keys i f := by
  unfold FaultAt
  rw [List.getElem?_cons_succ, List.take_succ_cons, List.filterMap_cons_some hkey]
  refine exists_congr fun o => and_congr_right fun _ => keyFault_congr fun x => ?_
  simp only [List.mem_append, List.mem_cons]
  tauto

/-- A walk over keys stops at the first one with a fault, and goes on behind any other. -/
theorem checkKeys_cons (id : Int) (seen : List Key) (k : Outcome Value)
    (keys : List (Outcome Value)) :
    (∃ f, KeyFault id seen k f ∧ checkKeys id seen (k :: keys) = .error f) ∨
      ∃ key, Entries.keyOf? k = some key ∧ (∀ f, ¬ KeyFault id seen k f) ∧
        checkKeys id seen (k :: keys) = checkKeys id (key :: seen) keys := by
  cases k with
  | error f => exact Or.inl ⟨f, .unread, rfl⟩
  | ok v =>
      rw [checkKeys]
      split
      · next hkey => exact Or.inl ⟨_, .unsupported hkey, rfl⟩
      · next key hkey =>
          split
          · next hseen => exact Or.inl ⟨_, .conflict hkey hseen, rfl⟩
          · next hnew =>
              refine Or.inr ⟨key, hkey, fun f hf => ?_, rfl⟩
              cases hf with
              | unsupported hnone => cases hkey.symm.trans hnone
              | conflict hkey' hseen => exact hnew (Option.some.inj (hkey.symm.trans hkey') ▸ hseen)

theorem checkKeys_eq_error_iff {f : Fault} :
    checkKeys id seen keys = .error f ↔ FirstFault id seen keys f := by
  induction keys generalizing seen with
  | nil => simp [checkKeys, FirstFault, FaultAt]
  | cons k keys ih =>
      rcases checkKeys_cons id seen k keys with ⟨g, hg, hstop⟩ | ⟨key, hkey, hfine, hgo⟩
      · rw [hstop]
        constructor
        · rintro ⟨⟩
          exact ⟨0, faultAt_zero.mpr hg, fun j hj => absurd hj (Nat.not_lt_zero j)⟩
        · rintro ⟨_ | i, hi, hfirst⟩
          · rw [hg.unique (faultAt_zero.mp hi)]
          · exact absurd (faultAt_zero.mpr hg) (hfirst 0 (Nat.succ_pos i) g)
      · rw [hgo, ih]
        constructor
        · rintro ⟨i, hi, hfirst⟩
          refine ⟨i + 1, (faultAt_succ hkey).mpr hi, fun j hj g hg => ?_⟩
          cases j with
          | zero => exact hfine g (faultAt_zero.mp hg)
          | succ j => exact hfirst j (Nat.lt_of_succ_lt_succ hj) g ((faultAt_succ hkey).mp hg)
        · rintro ⟨_ | i, hi, hfirst⟩
          · exact absurd (faultAt_zero.mp hi) (hfine f)
          · refine ⟨i, (faultAt_succ hkey).mp hi, fun j hj g hg => ?_⟩
            exact hfirst (j + 1) (Nat.succ_lt_succ hj) g ((faultAt_succ hkey).mpr hg)

end Walk

/-! Maps that are read from data -/

theorem Json.toValue_object (id : Int) (members : List (String × Json)) :
    (Json.object members).toValue id = Value.newMap id .jsonObject (.json members) := by
  rw [Json.toValue, Value.newMap, Entries.keys, Entries.read, List.map_map]
  rfl

theorem Protobuf.mapValue_eq_newMap (schema : Schema) (id : Int) (ty : Ty)
    (entries : List (Key × Value)) :
    mapValue schema id ty entries = CommonExpr.Value.newMap id ty (.protobuf schema entries) := by
  rw [mapValue, CommonExpr.Value.newMap, keys_read]

namespace Exchange

theorem keys_read {schema : Option Protobuf.Schema} {id : Int} {entries : List MapEntry}
    {pairs : List (Value × Value)} (hpairs : wholeEntries? entries = some pairs) :
    MapEntry.readKeys schema id entries = (Entries.exchange schema pairs).keys id := by
  induction entries generalizing pairs with
  | nil =>
      cases hpairs
      rfl
  | cons entry rest ih =>
      obtain ⟨_ | key, _ | value⟩ := entry
      · cases hpairs
      · cases hpairs
      · cases hpairs
      · obtain ⟨pairs, hrest, rfl⟩ := Option.map_eq_some_iff.mp hpairs
        rw [MapEntry.readKeys, ih hrest]
        rfl

theorem toValue_map {schema : Option Protobuf.Schema} {id : Int} {entries : List MapEntry}
    {pairs : List (Value × Value)} (hpairs : wholeEntries? entries = some pairs) :
    (Value.map entries).toValue schema id =
      CommonExpr.Value.newMap id .dynMap (.exchange schema pairs) := by
  rw [Value.toValue, hpairs, CommonExpr.Value.newMap, keys_read hpairs]

end Exchange

/-! Lookups -/

/-- What a lookup in read entries yields: a refusal of what can be no key, what the only
entry with an equal key reads as, or nothing. -/
inductive LooksUp (id : Int) (k : Value) (es : List (Outcome Value × Outcome Value)) :
    Outcome (Option Value) → Prop
  | refused (hkey : k.key? = none) : LooksUp id k es (fail id .unsupportedKeyType)
  | found {i : Nat} {w : Value} {o : Outcome Value} (hkey : k.key?.isSome = true)
      (hentry : es[i]? = some (.ok w, o)) (hequals : w.equals k = true)
      (honly : ∀ j w' o', es[j]? = some (.ok w', o') → w'.equals k = true → j = i) :
      LooksUp id k es (some <$> o)
  | absent (hkey : k.key?.isSome = true) (hnone : ∀ w o, (.ok w, o) ∈ es → w.equals k = false) :
      LooksUp id k es (.ok none)

/-- Whether the keys of entries are read as these values, whose canonical forms are distinct. -/
structure ReadKeys (es : List (Outcome Value × Outcome Value)) (ks : List Value)
    (canonical : List Key) : Prop where
  read : es.map (·.1) = ks.map .ok
  keys : ks.map Value.key? = canonical.map some
  nodup : canonical.Nodup

theorem exists_values_of_keys {keys : List (Outcome Value)} {canonical : List Key}
    (hkeys : keys.map Entries.keyOf? = canonical.map some) :
    ∃ ks : List Value, keys = ks.map .ok ∧ ks.map Value.key? = canonical.map some := by
  induction keys generalizing canonical with
  | nil => exact ⟨[], rfl, hkeys⟩
  | cons k keys ih =>
      obtain ⟨key, rest, rfl, hkey, hrest⟩ := List.map_eq_cons_iff.mp hkeys.symm
      obtain ⟨ks, rfl, hks⟩ := ih hrest.symm
      cases k with
      | error f => cases hkey
      | ok v => exact ⟨v :: ks, rfl, congrArg₂ List.cons hkey.symm hks⟩

theorem exists_readKeys {id : Int} {es : List (Outcome Value × Outcome Value)}
    (hcheck : checkKeys id [] (es.map (·.1)) = .ok ()) :
    ∃ ks canonical, ReadKeys es ks canonical := by
  obtain ⟨canonical, hkeys, hnodup, -⟩ := Value.exists_keys_of_checkKeys hcheck
  obtain ⟨ks, hread, hks⟩ := exists_values_of_keys hkeys
  exact ⟨ks, canonical, hread, hks, hnodup⟩

namespace ReadKeys

variable {es : List (Outcome Value × Outcome Value)} {ks : List Value} {canonical : List Key}

theorem exists_key (hks : ReadKeys es ks canonical) {i : Nat} {e : Outcome Value × Outcome Value}
    (hi : es[i]? = some e) :
    ∃ w key, e.1 = .ok w ∧ w.key? = some key ∧ canonical[i]? = some key := by
  have hread : (es.map (·.1))[i]? = (ks.map .ok)[i]? := by rw [hks.read]
  have hkeys : (ks.map Value.key?)[i]? = (canonical.map some)[i]? := by rw [hks.keys]
  simp only [List.getElem?_map, hi, Option.map_some] at hread hkeys
  obtain ⟨w, hw, heq⟩ := Option.map_eq_some_iff.mp hread.symm
  rw [hw] at hkeys
  obtain ⟨key, hkey, hwkey⟩ := Option.map_eq_some_iff.mp hkeys.symm
  exact ⟨w, key, heq.symm, hwkey.symm, hkey⟩

/-- Entries whose keys equal one value are one entry. -/
theorem unique (hks : ReadKeys es ks canonical) {k w w' : Value} {o o' : Outcome Value} {i j : Nat}
    {key : Key} (hkey : k.key? = some key) (hi : es[i]? = some (.ok w, o))
    (hw : w.equals k = true) (hj : es[j]? = some (.ok w', o')) (hw' : w'.equals k = true) :
    j = i := by
  obtain ⟨_, x, ⟨⟩, hx, hcanonical⟩ := hks.exists_key hi
  obtain ⟨_, x', ⟨⟩, hx', hcanonical'⟩ := hks.exists_key hj
  obtain rfl : x = key := Option.some.inj (hx.symm.trans ((Value.equals_iff_key? hkey).1.mp hw))
  obtain rfl : x' = x := Option.some.inj (hx'.symm.trans ((Value.equals_iff_key? hkey).1.mp hw'))
  obtain ⟨hlt, -⟩ := List.getElem?_eq_some_iff.mp hcanonical'
  exact (List.getElem?_inj hlt hks.nodup).mp (hcanonical'.trans hcanonical.symm)

theorem exists_key_of_mem (hks : ReadKeys es ks canonical) {w : Value} (hw : w ∈ ks) :
    ∃ key, w.key? = some key := by
  have hmem : w.key? ∈ canonical.map some := hks.keys ▸ List.mem_map_of_mem hw
  obtain ⟨key, -, hkey⟩ := List.mem_map.mp hmem
  exact ⟨key, hkey.symm⟩

theorem nodup_keys (hks : ReadKeys es ks canonical) : (ks.map Value.key?).Nodup :=
  hks.keys ▸ hks.nodup.map (Option.some_injective _)

theorem isSome_valueAt?_iff (hks : ReadKeys es ks canonical) (key : Key) :
    (Entries.valueAt? key es).isSome = true ↔ ∃ w ∈ ks, w.key? = some key := by
  have hfind : (Entries.valueAt? key es).isSome = true ↔
      ∃ o ∈ es.map (·.1), Entries.keyOf? o = some key := by
    simp [Entries.valueAt?]
  rw [hfind, hks.read]
  simp only [List.mem_map, exists_exists_and_eq_and]
  rfl

/-- A value is equal to one of the keys just if its canonical form is found. -/
theorem any_equals_iff (hks : ReadKeys es ks canonical) (k : Value) :
    ks.any (k.equals ·) = true ↔
      ∃ key, k.key? = some key ∧ (Entries.valueAt? key es).isSome = true := by
  rw [List.any_eq_true]
  constructor
  · rintro ⟨w, hw, hequals⟩
    obtain ⟨key, hkey⟩ := hks.exists_key_of_mem hw
    exact ⟨key, (Value.equals_iff_key? hkey).1.mp hequals,
      (hks.isSome_valueAt?_iff key).mpr ⟨w, hw, hkey⟩⟩
  · rintro ⟨key, hk, hfound⟩
    obtain ⟨w, hw, hkey⟩ := (hks.isSome_valueAt?_iff key).mp hfound
    exact ⟨w, hw, (Value.equals_iff_key? hkey).1.mpr hk⟩

/-- What is found at a canonical form is the only entry whose key equals the one with it. -/
theorem valueAt?_looksUp (hks : ReadKeys es ks canonical) (id : Int) {k : Value} {key : Key}
    (hk : k.key? = some key) :
    LooksUp id k es ((Entries.valueAt? key es).elim (.ok none) (some <$> ·)) := by
  have hsome : k.key?.isSome = true := by rw [hk]; rfl
  cases hfind : es.find? fun e => Entries.keyOf? e.1 = some key with
  | none =>
      have hvalue : Entries.valueAt? key es = none := by rw [Entries.valueAt?, hfind]; rfl
      rw [hvalue]
      refine .absent hsome fun w o hentry => Bool.eq_false_iff.mpr fun hequals => ?_
      have hkey : w.key? = some key := (Value.equals_iff_key? hk).1.mp hequals
      exact List.find?_eq_none.mp hfind _ hentry (decide_eq_true hkey)
  | some e =>
      obtain ⟨i, hi⟩ := List.mem_iff_getElem?.mp (List.mem_of_find?_eq_some hfind)
      have hvalue : Entries.valueAt? key es = some e.2 := by rw [Entries.valueAt?, hfind]; rfl
      obtain ⟨w, o⟩ := e
      obtain ⟨v, -, ⟨⟩, -, -⟩ := hks.exists_key hi
      have hfound := List.find?_some hfind
      have hequals : v.equals k = true :=
        (Value.equals_iff_key? hk).1.mpr (of_decide_eq_true hfound)
      rw [hvalue]
      exact .found hsome hi hequals fun j w' o' hj hw' => hks.unique hk hi hequals hj hw'

end ReadKeys

namespace Entries

variable {entries : Entries} {id : Int} {ks : List Value} {canonical : List Key}

/-- A key is in a map just if it is equal to one of the keys of the map. -/
theorem contains_eq (hks : ReadKeys (entries.read id) ks canonical) (k : Value) :
    entries.contains id k = ks.any (k.equals ·) := by
  rw [Bool.eq_iff_iff, hks.any_equals_iff, Entries.contains]
  cases k.key? with
  | none => simp
  | some key => simp [find?]

theorem get_eq {k : Value} {key : Key} (hk : k.key? = some key) :
    entries.get id k = (valueAt? key (entries.read id)).elim (.ok none) (some <$> ·) := by
  unfold Entries.get
  rw [hk]
  dsimp only
  unfold find?
  cases valueAt? key (entries.read id) with
  | none => rfl
  | some o => cases o <;> rfl

/-- A lookup finds the only entry whose key equals the one that is asked for. -/
theorem get_looksUp (hks : ReadKeys (entries.read id) ks canonical) (k : Value) :
    LooksUp id k (entries.read id) (entries.get id k) := by
  cases hk : k.key? with
  | none =>
      rw [Entries.get, hk]
      exact .refused hk
  | some key =>
      rw [get_eq hk]
      exact hks.valueAt?_looksUp id hk

/-- A lookup fails as one of what can be no key also where the entry cannot be read for
that reason. -/
theorem get_unsupported_iff (hks : ReadKeys (entries.read id) ks canonical) (k : Value) :
    entries.get id k = fail id .unsupportedKeyType ↔ k.key? = none ∨
      ∃ w, (.ok w, fail id .unsupportedKeyType) ∈ entries.read id ∧ w.equals k = true := by
  have hlooks := get_looksUp hks k
  generalize entries.get id k = result at hlooks
  cases hlooks with
  | refused hkey => exact iff_of_true rfl (Or.inl hkey)
  | @found i w o hkey hentry hequals honly =>
      constructor
      · intro hfail
        refine Or.inr ⟨w, ?_, hequals⟩
        cases o with
        | ok v => cases hfail
        | error f =>
            cases hfail
            exact List.mem_of_getElem? hentry
      · rintro (hnone | ⟨w', hentry', hequals'⟩)
        · rw [hnone] at hkey
          cases hkey
        · obtain ⟨j, hj⟩ := List.mem_iff_getElem?.mp hentry'
          rw [honly j w' _ hj hequals', hentry] at hj
          cases hj
          rfl
  | absent hkey hnone =>
      refine iff_of_false nofun ?_
      rintro (hnone' | ⟨w, hentry, hequals⟩)
      · rw [hnone'] at hkey
        cases hkey
      · rw [hnone w _ hentry] at hequals
        cases hequals

theorem contains_iff_get {k : Value} (hkey : k.key?.isSome = true) :
    entries.contains id k = true ↔ entries.get id k ≠ .ok none := by
  obtain ⟨key, hk⟩ := Option.isSome_iff_exists.mp hkey
  unfold Entries.contains Entries.get
  rw [hk]
  dsimp only
  cases entries.find? id key with
  | none => simp
  | some o => cases o <;> simp

/-- No lookup fails for the lack of a field. -/
theorem kind_ne_of_get {k : Value} {e : Error} (hget : entries.get id k = .error (.error e)) :
    e.kind ≠ .fieldNotFound := by
  unfold Entries.get at hget
  split at hget
  · cases hget
    exact nofun
  · split at hget
    · cases hget
    · cases hget
    · next hfind =>
        cases hget
        obtain ⟨⟨o, _⟩, hentry, rfl⟩ := Option.map_eq_some_iff.mp hfind
        exact kind_ne_of_mem_read (List.mem_of_find?_eq_some hentry)

end Entries

/-- A search among values that could all be read. -/
theorem Library.isAmong_ok (k : Value) (ks : List Value) :
    isAmong k (ks.map .ok) = .ok (ks.any (k.equals ·)) := by
  induction ks with
  | nil => rfl
  | cons w ks ih =>
      rw [List.map_cons, isAmong, ih, List.any_cons]
      cases k.equals w <;> rfl

/-- Whether an outcome is the error that there is no such field. -/
def MissingField (o : Outcome Value) : Prop :=
  ∃ e : Error, o = .error (.error e) ∧ e.kind = .fieldNotFound

namespace Value

variable {ty : Ty} {entries : Entries} {id : Int}

theorem field_map (s : String) : (Value.map ty entries).field id s =
    match entries.get id (.string s) with
    | .ok (some v) => .ok v
    | .ok none => fail id (.fieldNotFound s none)
    | .error f => .error f := by
  unfold Value.field Value.byName?
  cases entries.get id (.string s) with
  | error f => rfl
  | ok v => cases v <;> rfl

theorem index_map (k : Value) : (Value.map ty entries).index id k =
    match entries.get id k with
    | .ok (some v) => .ok v
    | .ok none => fail id .keyNotFound
    | .error f => .error f := by
  unfold Value.index Value.byIndex?
  cases entries.get id k with
  | error f => rfl
  | ok v => cases v <;> rfl

theorem contains_iff_not_missing (s : String) : entries.contains id (.string s) = true ↔
    ¬ MissingField ((Value.map ty entries).field id s) := by
  rw [Entries.contains_iff_get rfl, field_map]
  cases hget : entries.get id (.string s) with
  | error f =>
      refine iff_of_true nofun ?_
      rintro ⟨e, ⟨⟩, hkind⟩
      exact Entries.kind_ne_of_get hget hkind
  | ok v =>
      cases v with
      | none => exact iff_of_false (fun h => h rfl) fun h => h ⟨_, rfl, rfl⟩
      | some v => exact iff_of_true nofun fun ⟨e, he, _⟩ => nomatch he

/-- A field that a map has is the entry of its name. -/
theorem field_eq_index {s : String} (hcontains : entries.contains id (.string s) = true) :
    (Value.map ty entries).field id s = (Value.map ty entries).index id (.string s) := by
  rw [Entries.contains_iff_get rfl] at hcontains
  rw [field_map, index_map]
  split
  · rfl
  · next hget => exact absurd hget hcontains
  · rfl

open Library (membership)

theorem membership_list (k : Value) (ks : List Value) :
    membership.dispatch id [.ok k, .ok (ofList ks)] = some (.ok (.bool (ks.any (k.equals ·)))) := by
  have hdispatch : membership.dispatch id [.ok k, .ok (ofList ks)] =
      some (Value.bool <$> Library.isAmong k.unwrap (ks.map .ok)) := by
    cases k <;> rfl
  rw [hdispatch, Library.isAmong_ok]
  simp only [unwrap_equals]
  rfl

theorem membership_map (a b : Ty) (k : Value) :
    membership.dispatch id [.ok k, .ok (.map (.map a b) entries)] =
      some (.ok (.bool (entries.contains id k))) := by
  cases k <;> rfl

/-- The ways to ask a map of entries for a key, which agree.  Its keys are `ks`. -/
structure AnswersAlike (id : Int) (ty : Ty) (entries : Entries) (ks : List Value) : Prop where
  keys : entries.collectKeys id = .ok ks
  get : ∀ k, LooksUp id k (entries.read id) (entries.get id k)
  unsupported : ∀ k, entries.get id k = fail id .unsupportedKeyType ↔ k.key? = none ∨
    ∃ w, (.ok w, fail id .unsupportedKeyType) ∈ entries.read id ∧ w.equals k = true
  /-- Membership in the map is membership in the list of its keys. -/
  contains : ∀ k, membership.dispatch id [.ok k, .ok (ofList ks)] =
    some (.ok (.bool (entries.contains id k)))
  isIn : ∀ a b, ty = .map a b → ∀ k, membership.dispatch id [.ok k, .ok (.map ty entries)] =
    some (.ok (.bool (entries.contains id k)))
  isSet : ∀ s, (Value.map ty entries).isSet id s = .ok (entries.contains id (.string s))
  field : ∀ s, entries.contains id (.string s) = true ↔
    ¬ MissingField ((Value.map ty entries).field id s)
  index : ∀ s, entries.contains id (.string s) = true →
    (Value.map ty entries).field id s = (Value.map ty entries).index id (.string s)

theorem answersAlike {ks : List Value} {canonical : List Key} (ty : Ty)
    (hks : ReadKeys (entries.read id) ks canonical) : AnswersAlike id ty entries ks where
  keys := (collect_eq_ok_iff _ _).mpr hks.read
  get := Entries.get_looksUp hks
  unsupported := Entries.get_unsupported_iff hks
  contains k := by rw [membership_list, Entries.contains_eq hks]
  isIn a b hty k := by rw [hty, membership_map]
  isSet _ := rfl
  field := contains_iff_not_missing
  index _ := field_eq_index

theorem newMap_eq_ok_iff {m : Value} : newMap id ty entries = .ok m ↔
    checkKeys id [] (entries.keys id) = .ok () ∧ m = .map ty entries := by
  unfold newMap
  split
  · next hcheck => simp [hcheck]
  · next hcheck => simp [hcheck, eq_comm]

theorem newMap_eq_error_iff {f : Fault} : newMap id ty entries = .error f ↔
    FirstFault id [] (entries.keys id) f := by
  rw [← checkKeys_eq_error_iff]
  unfold newMap
  split
  · next hcheck => simp [hcheck]
  · next hcheck => simp [hcheck]

/-- Maps are refused for their first bad key.  Whatever entries are read from, each canonical
form is that of one entry at most; a map that is made is asked for it with one answer at every
node; and this is how maps are made of JSON, of fields and of exchanged values as well. -/
theorem newMap_represents :
    (∀ (id : Int) (keys : List (Outcome Value)) (f : Fault),
      checkKeys id [] keys = .error f ↔ FirstFault id [] keys f) ∧
    (∀ (id : Int) (es : List (Outcome Value × Outcome Value)),
      checkKeys id [] (es.map (·.1)) = .ok () → ∀ (id' : Int) (k : Value) (key : Key),
        k.key? = some key →
        LooksUp id' k es ((Entries.valueAt? key es).elim (.ok none) (some <$> ·))) ∧
    (∀ (id : Int) (ty : Ty) (entries : Entries) (f : Fault),
      newMap id ty entries = .error f ↔ FirstFault id [] (entries.keys id) f) ∧
    (∀ (id : Int) (ty : Ty) (entries : Entries) (m : Value), newMap id ty entries = .ok m →
      m = .map ty entries ∧ ∃ ks, ∀ id' : Int, AnswersAlike id' ty entries ks) ∧
    (∀ (id : Int) (members : List (String × Json)),
      (Json.object members).toValue id = newMap id .jsonObject (.json members)) ∧
    (∀ (schema : Protobuf.Schema) (id : Int) (ty : Ty) (es : List (Protobuf.Key × Protobuf.Value)),
      Protobuf.mapValue schema id ty es = newMap id ty (.protobuf schema es)) ∧
    ∀ (schema : Option Protobuf.Schema) (id : Int) (es : List Exchange.MapEntry)
      (pairs : List (Exchange.Value × Exchange.Value)), Exchange.wholeEntries? es = some pairs →
      (Exchange.Value.map es).toValue schema id = newMap id .dynMap (.exchange schema pairs) := by
  refine ⟨fun id keys f => checkKeys_eq_error_iff, fun id es hcheck id' k key hk => ?_,
    fun id ty entries f => newMap_eq_error_iff, fun id ty entries m hmap => ?_,
    Json.toValue_object, Protobuf.mapValue_eq_newMap, fun _ _ _ _ => Exchange.toValue_map⟩
  · obtain ⟨ks, canonical, hks⟩ := exists_readKeys hcheck
    exact hks.valueAt?_looksUp id' hk
  · obtain ⟨hcheck, rfl⟩ := newMap_eq_ok_iff.mp hmap
    obtain ⟨ks, canonical, hks⟩ := exists_readKeys hcheck
    refine ⟨rfl, ks, fun id' => answersAlike ty ⟨?_, hks.keys, hks.nodup⟩⟩
    exact Entries.keys_eq hks.read id'

end Value

namespace MapWitness

/-- The second key is the first one in another type. -/
def clashing : Entries := .values [(.int 1, .string "a"), (.wrapped (.uint 1), .string "b")]

def members : Entries := .json [("a", .null), ("b", .array [])]

theorem members_answer :
    FirstFault 1 [] (clashing.keys 1) (.error ⟨1, .mapKeyConflict "1u", []⟩) ∧
      LooksUp 2 (.string "a") (members.read 1)
        (((Entries.valueAt? (.string "a") (members.read 1)).elim (.ok none) (some <$> ·))) ∧
      (∃ ks, members.collectKeys 2 = .ok ks ∧
        Library.membership.dispatch 2 [.ok (.string "a"), .ok (.ofList ks)] =
          Library.membership.dispatch 2 [.ok (.string "a"), .ok (.map .jsonObject members)]) ∧
      (Value.map .jsonObject members).field 2 "a" =
        (Value.map .jsonObject members).index 2 (.string "a") ∧
      (Exchange.Value.map [.mk (some (.bool true)) (some (.null 0))]).toValue none 1 =
        Value.newMap 1 .dynMap (.exchange none [(.bool true, .null 0)]) := by
  obtain ⟨-, hlooks, hclash, hmade, -, -, hexchange⟩ := Value.newMap_represents
  obtain ⟨-, ks, hanswers⟩ := hmade 1 .jsonObject members _ rfl
  refine ⟨(hclash 1 .dynMap clashing _).mp rfl, hlooks 1 (members.read 1) rfl 2 _ _ rfl,
    ⟨ks, (hanswers 2).keys, ?_⟩, (hanswers 2).index "a" rfl,
    hexchange none 1 _ _ rfl⟩
  rw [(hanswers 2).contains, (hanswers 2).isIn .string .dyn rfl]

end MapWitness

end CommonExpr
