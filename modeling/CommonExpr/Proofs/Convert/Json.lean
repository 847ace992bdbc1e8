import CommonExpr.Convert.Json
import CommonExpr.Proofs.Fault
import CommonExpr.Proofs.Json
import CommonExpr.Proofs.Value.Depth

/-!
JSON that goes through values.

A container that is read out of JSON keeps the JSON, and each element is read when it is
converted back, whoever asks.  Main statement: JSON of any depth can be read, and what it
is read as converts back to the same JSON.
-/

namespace CommonExpr

theorem checkKeys_names (id : Int) {seen : List Key} {names : List String}
    (hnames : names.Nodup) (hnew : ∀ name ∈ names, Key.string name ∉ seen) :
    checkKeys id seen (names.map fun name => .ok (.string name)) = .ok () := by
  induction names generalizing seen with
  | nil => rfl
  | cons name rest ih =>
      obtain ⟨hname, hrest⟩ := List.nodup_cons.mp hnames
      obtain ⟨hfirst, hothers⟩ := List.forall_mem_cons.mp hnew
      rw [List.map_cons, checkKeys, Value.key?, Scalar.key?]
      dsimp only
      rw [if_neg hfirst]
      apply ih hrest
      intro other hother hseen
      rcases List.mem_cons.mp hseen with heq | hseen
      · cases heq
        exact hname hother
      · exact hothers other hother hseen

namespace Json

/-- Whether reading succeeds, and all conversions back yield the JSON in order. -/
def Returns (x : Json) : Prop :=
  ∀ id id', ∃ v, x.toValue id = .ok v ∧
    ∀ fuel, v.depth ≤ fuel → v.toJsonWithin id' fuel = .ok x.sorted

theorem returns_of_leaf {x : Json} {v : Value} (hread : ∀ id, x.toValue id = .ok v)
    (hconvert : ∀ id fuel, v.toJsonWithin id (fuel + 1) = .ok x.sorted) : x.Returns := by
  intro id id'
  refine ⟨v, hread id, ?_⟩
  intro fuel hfuel
  cases fuel with
  | zero => exact absurd v.depth_pos (Nat.not_lt.mpr hfuel)
  | succ fuel => exact hconvert id' fuel

theorem ofInt64_ofInt {i : JsonInteger} (hsigned : i.val < 9223372036854775808) :
    ofInt64 (Int64.ofInt i.val) = .integer i := by
  have hval : (Int64.ofInt i.val).toInt = i.val := Int64.toInt_ofInt_of_le i.lower hsigned
  rw [ofInt64, Json.integer.injEq, JsonInteger.mk.injEq]
  exact hval

theorem ofUInt64_ofNat {i : JsonInteger} (hunsigned : 0 ≤ i.val) :
    ofUInt64 (UInt64.ofNat i.val.toNat) = .integer i := by
  have hlt : i.val.toNat < UInt64.size := (Int.toNat_lt hunsigned).mpr i.upper
  have hval : (UInt64.ofNat i.val.toNat).toNat = i.val.toNat := UInt64.toNat_ofNat_of_lt hlt
  rw [ofUInt64, Json.integer.injEq, JsonInteger.mk.injEq, hval]
  exact Int.toNat_of_nonneg hunsigned

/-- An integer that is no signed word is read as an unsigned one. -/
theorem returns_integer (i : JsonInteger) : (Json.integer i).Returns := by
  by_cases hsigned : i.val < 9223372036854775808
  · have hword : int64? i.val = some (Int64.ofInt i.val) := if_pos ⟨i.lower, hsigned⟩
    apply returns_of_leaf (v := .int (Int64.ofInt i.val))
    · intro id
      rw [toValue, hword]
    · intro id fuel
      exact congrArg Except.ok (ofInt64_ofInt hsigned)
  · have hword : int64? i.val = none := if_neg fun h => hsigned h.2
    apply returns_of_leaf (v := .uint (UInt64.ofNat i.val.toNat))
    · intro id
      rw [toValue, hword]
    · intro id fuel
      exact congrArg Except.ok (ofUInt64_ofNat (by omega))

/-- Step: elements that return do so in an array, in their order. -/
theorem returns_array {items : List Json} (hitems : ∀ x ∈ items, x.Returns) :
    (Json.array items).Returns := by
  intro id id'
  refine ⟨.list .dynList (.json items), rfl, ?_⟩
  intro fuel hfuel
  cases fuel with
  | zero => exact absurd hfuel (Nat.not_succ_le_zero _)
  | succ fuel =>
      have hdepth : Json.listDepth items ≤ fuel := Nat.le_of_succ_le_succ hfuel
      have hstep : ∀ x ∈ items, ∃ v, x.toValue id' = .ok v ∧
          v.toJsonWithin id' fuel = .ok x.sorted := by
        intro x hx
        obtain ⟨v, hread, hconvert⟩ := hitems x hx id' id'
        have hv := Nat.le_trans (depth_of_toValue hread) (listDepth_le_iff.mp hdepth x hx)
        exact ⟨v, hread, hconvert fuel hv⟩
      have hitems := collect_bind_mapM hstep
      rw [Value.toJsonWithin, sorted, sortedItems_eq_map, Items.collect, Items.read, ← bind_assoc,
        hitems]
      rfl

/-- Step: members that return do so in an object, under their names. -/
theorem returns_object {members : List (String × Json)} (hnames : (members.map (·.1)).Nodup)
    (hmembers : ∀ m ∈ members, m.2.Returns) : (Json.object members).Returns := by
  intro id id'
  have hkeys : checkKeys id [] (members.map fun m => .ok (.string m.1)) = .ok () := by
    have hchecked := checkKeys_names id hnames fun _ _ => List.not_mem_nil
    rw [List.map_map] at hchecked
    exact hchecked
  refine ⟨.map .jsonObject (.json members), ?_, ?_⟩
  · rw [toValue]
    simp only [hkeys]
  intro fuel hfuel
  cases fuel with
  | zero => exact absurd hfuel (Nat.not_succ_le_zero _)
  | succ fuel =>
      have hdepth : Json.memberDepth members ≤ fuel := Nat.le_of_succ_le_succ hfuel
      have hstep : ∀ m ∈ members, ∃ entry : Value × Value,
          Entries.pair (.ok (.string m.1), m.2.toValue id') = .ok entry ∧
            memberOf id' (Value.toJsonWithin id' fuel) entry = .ok (m.1, m.2.sorted) := by
        intro m hm
        obtain ⟨v, hread, hconvert⟩ := hmembers m hm id' id'
        have hv := Nat.le_trans (depth_of_toValue hread) (memberDepth_le_iff.mp hdepth m hm)
        refine ⟨(.string m.1, v), ?_, ?_⟩
        · rw [hread, Entries.pair]
        · rw [memberOf, jsonKey, hconvert fuel hv]
          rfl
      have hmembers := collect_bind_mapM hstep
      rw [Value.toJsonWithin, sorted, sortedMembers_eq_map, Entries.collectPairs, Entries.read,
        List.map_map, ← bind_assoc, Function.comp_def, hmembers]
      rfl

theorem returns_of_sound {x : Json} (hx : x.Throughout Sound) : x.Returns := by
  induction hx with
  | @intro x here _ ih =>
      cases x with
      | null => exact returns_of_leaf (fun _ => rfl) fun _ _ => rfl
      | bool b => exact returns_of_leaf (fun _ => rfl) fun _ _ => rfl
      | integer i => exact returns_integer i
      | double d => exact returns_of_leaf (fun _ => rfl) fun _ _ => if_pos here
      | string s => exact returns_of_leaf (fun _ => rfl) fun _ _ => rfl
      | array items => exact returns_array ih
      | object members =>
          apply returns_object here
          intro m hm
          exact ih m.2 (List.mem_map_of_mem hm)

/-- JSON reads as a value that converts back to the same JSON: the elements of arrays stay in
place, and only the order of members may change.  JSON that lists members by name, as hosts
hold it, comes back as it was. -/
theorem round_trip {x : Json} (hx : x.Throughout Sound) (id id' : Int) :
    ∃ v y, x.toValue id = .ok v ∧ v.toJson id' = .ok y ∧ x.Reorders y ∧
      (x.Throughout Ascending → y = x) := by
  obtain ⟨v, hread, hconvert⟩ := returns_of_sound hx id id'
  refine ⟨v, x.sorted, hread, ?_, reorders_sorted hx, sorted_of_ascending⟩
  exact hconvert (v.depth + 1) (Nat.le_succ v.depth)

namespace RoundTripWitness

/-- The greatest unsigned word, which no double equals. -/
def greatest : JsonInteger := ⟨18446744073709551615, by decide, by decide⟩

/-- `[18446744073709551615, -0.0, null]` -/
def items : Json := .array [.integer greatest, .double ⟨0x8000000000000000⟩, .null]

/-- `{"a": [18446744073709551615, -0.0, null], "b": {}}` -/
def nested : Json := .object [("a", items), ("b", .object [])]

theorem nested_throughout {P : Json → Prop} (hnested : P nested) (hitems : P items)
    (hinteger : P (.integer greatest)) (hdouble : P (.double ⟨0x8000000000000000⟩))
    (hnull : P .null) (hempty : P (.object [])) : nested.Throughout P := by
  have hleaf {x : Json} (hx : P x) (hparts : x.parts = []) : x.Throughout P := by
    refine .intro hx ?_
    rw [hparts]
    exact fun _ h => absurd h List.not_mem_nil
  have hall : items.Throughout P := by
    refine .intro hitems ?_
    simp only [items, parts, List.forall_mem_cons]
    exact ⟨hleaf hinteger rfl, hleaf hdouble rfl, hleaf hnull rfl,
      fun _ h => absurd h List.not_mem_nil⟩
  refine .intro hnested ?_
  simp only [nested, parts, List.map_cons, List.map_nil, List.forall_mem_cons]
  exact ⟨hall, hleaf hempty rfl, fun _ h => absurd h List.not_mem_nil⟩

theorem nested_returns :
    nested.Throughout Sound ∧ nested.Throughout Ascending ∧
      ∃ v, nested.toValue 1 = .ok v ∧ v.toJson 2 = .ok nested := by
  have hsound : nested.Throughout Sound := by
    refine nested_throughout ?_ trivial trivial ?_ trivial List.nodup_nil
    · exact (by decide : ["a", "b"].Nodup)
    · rfl
  have hascending : nested.Throughout Ascending := by
    refine nested_throughout ?_ trivial trivial trivial trivial List.Pairwise.nil
    exact List.pairwise_pair.mpr (by decide)
  obtain ⟨v, y, hread, hconvert, -, heq⟩ := round_trip hsound 1 2
  refine ⟨hsound, hascending, v, hread, ?_⟩
  rw [hconvert, heq hascending]

end RoundTripWitness

end Json

end CommonExpr
