import CommonExpr.Proofs.Value.Coincidence

/-!
Lists and maps that are held in one form.

Such containers are compared without asking each for its elements: the left one's
schema reads both.  Main statement: where comparing with the elements on the right does
not tell which side's schema has read them, the answer is that of comparing element by
element, each side read by its own schema.  Where it does tell, it need not be.
-/

namespace CommonExpr

section Containers

variable (eq : Value → Value → Bool)

/-- Whether the elements on the right compare alike, read by the schema of either side. -/
def Items.ReadsAlike : Items → Items → Prop
  | .exchange s _, .exchange s' ys => ∀ y ∈ ys, ComparesAlike eq (y.toValue s 0) (y.toValue s' 0)
  | .protobuf s _, .protobuf s' ys => ∀ y ∈ ys, ComparesAlike eq (y.toValue s 0) (y.toValue s' 0)
  | _, _ => True

/-- Whether the values on the right compare alike, read by the schema of either side. -/
def Entries.ReadsAlike : Entries → Entries → Prop
  | .exchange s _, .exchange s' es =>
      ∀ e ∈ es, ComparesAlike eq (e.2.toValue s 0) (e.2.toValue s' 0)
  | .protobuf s _, .protobuf s' es =>
      ∀ e ∈ es, ComparesAlike eq (e.2.toValue s 0) (e.2.toValue s' 0)
  | _, _ => True

end Containers

/-! The comparison of containers in one form -/

section SameForm

variable {eq eq' : Value → Value → Bool}

theorem Items.equalsSame?_congr {xs : Items} (ys : Items)
    (heq : ∀ v, .ok v ∈ xs.read 0 → ∀ w, eq v w = eq' v w) :
    xs.equalsSame? eq ys = xs.equalsSame? eq' ys := by
  have hlists (others : List (Outcome Value)) :
      some (equalLists eq (xs.read 0) others) = some (equalLists eq' (xs.read 0) others) :=
    congrArg some (equalLists_congr others heq)
  cases xs <;> cases ys <;> first | rfl | exact hlists _

theorem Entries.equalsSame?_congr {es : Entries} (es' : Entries)
    (heq : ∀ k v, (k, .ok v) ∈ es.read 0 → ∀ w, eq v w = eq' v w) :
    es.equalsSame? eq es' = es.equalsSame? eq' es' := by
  have hentries (n : Nat) (others : List (Outcome Value × Outcome Value)) :
      some (es.length == n && equalEntries eq (es.read 0) others) =
        some (es.length == n && equalEntries eq' (es.read 0) others) := by
    rw [equalEntries_congr others heq]
  cases es <;> cases es' <;> first | rfl | exact hentries _ _

theorem Items.eq_equalsRead_of_equalsSame? {xs ys : Items} {b : Bool}
    (hsame : xs.equalsSame? eq ys = some b) (halike : xs.ReadsAlike eq ys) :
    b = xs.equalsRead eq ys := by
  unfold Items.equalsSame? at hsame
  split at hsame
  · exact (Option.some.inj hsame).symm
  · exact (Option.some.inj hsame).symm
  · exact (Option.some.inj hsame).symm.trans (equalLists_comparesAlike halike _)
  · exact (Option.some.inj hsame).symm.trans (equalLists_comparesAlike halike _)
  · cases hsame

theorem Entries.eq_equalsRead_of_equalsSame? {es es' : Entries} {b : Bool}
    (hsame : es.equalsSame? eq es' = some b) (halike : es.ReadsAlike eq es') :
    b = es.equalsRead eq es' := by
  unfold Entries.equalsSame? at hsame
  split at hsame
  · exact (Option.some.inj hsame).symm
  · exact (Option.some.inj hsame).symm
  · exact (Option.some.inj hsame).symm.trans
      (equalMaps_comparesAlike (fun _ _ => rfl) halike _ _)
  · exact (Option.some.inj hsame).symm.trans
      (equalMaps_comparesAlike (fun _ _ => rfl) halike _ _)
  · cases hsame

end SameForm

namespace Value

/-- Whether the parts on the right compare alike, read by the schema of either side. -/
def ReadsAlike : Value → Value → Prop
  | .list _ xs, .list _ ys => xs.ReadsAlike equals ys
  | .map _ es, .map _ es' => es.ReadsAlike equals es'
  | _, _ => True

/-- Whether two lists are equal place by place, or two maps key by key, when each
reads its elements by its own schema.  What cannot be read equals nothing. -/
def ElementwiseEqual : Value → Value → Prop
  | .list _ xs, .list _ ys => List.Forall₂ (EqualOutcomes equals) (xs.read 0) (ys.read 0)
  | .map _ es, .map _ es' =>
      es.length = es'.length ∧ ∀ e ∈ es.read 0, EqualEntry equals (es'.read 0) e
  | _, _ => False

/-- Containers held in one form are compared as by their elements, where these
compare alike by the schemas of both. -/
theorem equalsSame?_iff_elementwise {v w : Value} {b : Bool} (hsame : v.equalsSame? w = some b)
    (halike : v.ReadsAlike w) : b = true ↔ v.ElementwiseEqual w := by
  have hwithin {part : Value} (hpart : v.Holds part) (other : Value) :
      equalsWithin v.depth part other = part.equals other :=
    (equals_eq_within (hpart.within (within_of_depth_le (Nat.le_succ _))) other).symm
  unfold equalsSame? at hsame
  split at hsame
  · next ty xs ty' ys =>
      rw [Items.equalsSame?_congr ys fun part hpart => hwithin (.element hpart)] at hsame
      rw [Items.eq_equalsRead_of_equalsSame? hsame halike, Items.equalsRead, equalLists_iff]
      exact Iff.rfl
  · next ty es ty' es' =>
      rw [Entries.equalsSame?_congr es' fun k part hpart => hwithin (.entry hpart)] at hsame
      rw [Entries.eq_equalsRead_of_equalsSame? hsame halike, Entries.equalsRead, Bool.and_eq_true,
        beq_iff_eq, equalEntries_iff]
      exact Iff.rfl
  · cases hsame

end Value

namespace SameFormWitness

def count : Protobuf.MessageType := ⟨"test.Count", [.one 1 "n" .int64]⟩

def left : Protobuf.Schema := ⟨[{ name := "left.proto", messages := [count] }]⟩

/-- Another schema with the same type. -/
def right : Protobuf.Schema :=
  ⟨[{ name := "right.proto", messages := [⟨"test.Unit", []⟩, count] }]⟩

def five : Exchange.Value := .object "type.googleapis.com/test.Count" [8, 5]

/-- What is packed, as a schema with the type unpacks it. -/
def unpacked (s : Protobuf.Schema) : Protobuf.Message := .mk s count [(1, .int64 5)] []

theorem five_bothRead :
    BothRead Value.Coincide (five.toValue (some left) 0) (five.toValue (some right) 0) := by
  have hfields (name : String) : Option.Rel (BothRead Value.Coincide)
      ((unpacked left).fieldValue? left 0 name) ((unpacked right).fieldValue? right 0 name) := by
    by_cases hname : "n" = name
    · subst hname
      exact .some (.values (.refl _))
    · have hnone : count.field? name = none :=
        List.find?_eq_none.mpr (List.forall_mem_singleton.mpr fun hn => hname (eq_of_beq hn))
      have hfield (s : Protobuf.Schema) : (unpacked s).fieldValue? s 0 name = none :=
        congrArg (Option.map _) hnone
      rw [hfield, hfield]
      exact .none
  exact .values (.object rfl hfields)

/-- A list, a map and a message, with a packed message in each. -/
def nested (s : Protobuf.Schema) (one : Exchange.Value) : Value :=
  .list .dynList (.exchange (some s)
    [.list [one, five], .map [.mk (some (.string "five")) (some five)], five])

/-- As values the lists and the maps differ, since each keeps the schema it came by. -/
theorem nested_readsAlike : (nested left (.int 1)).ReadsAlike (nested right (.uint 1)) := by
  refine List.forall_mem_cons.mpr ⟨BothRead.comparesAlike_equals ?_, List.forall_mem_cons.mpr
    ⟨BothRead.comparesAlike_equals ?_, List.forall_mem_singleton.mpr ?_⟩⟩
  · exact .values (.exchangeList (List.forall_mem_cons.mpr
      ⟨.values (.refl _), List.forall_mem_singleton.mpr five_bothRead⟩))
  · exact .values (.exchangeMap (List.forall_mem_singleton.mpr (.values (.refl _)))
      (List.forall_mem_singleton.mpr five_bothRead))
  · exact five_bothRead.comparesAlike_equals

/-- A list in a list, with nothing packed in it. -/
def single (s : Option Protobuf.Schema) : Value := .list .dynList (.exchange s [.list [.int 1]])

theorem single_readsAlike (s s' : Option Protobuf.Schema) :
    (single s).ReadsAlike (single s') :=
  List.forall_mem_singleton.mpr (BothRead.comparesAlike_equals
    (.values (.exchangeList (List.forall_mem_singleton.mpr (.values (.refl _))))))

theorem nested_equals_nested :
    left ≠ right ∧ (nested left (.int 1)).equalsSame? (nested right (.uint 1)) = some true ∧
      (nested left (.int 1)).ReadsAlike (nested right (.uint 1)) ∧
      (nested left (.int 1)).ElementwiseEqual (nested right (.uint 1)) ∧
      (single none).ReadsAlike (single (some left)) ∧
      (single none).ElementwiseEqual (single (some left)) :=
  ⟨by decide, rfl, nested_readsAlike,
    (Value.equalsSame?_iff_elementwise (b := true) rfl nested_readsAlike).mp rfl,
    single_readsAlike _ _,
    (Value.equalsSame?_iff_elementwise (b := true) rfl (single_readsAlike _ _)).mp rfl⟩

def schema : Protobuf.Schema := ⟨[{ name := "unit.proto", messages := [⟨"test.Unit", []⟩] }]⟩

def packed : Exchange.Value := .object "type.googleapis.com/test.Unit" []

/-- A list with a message that its schema unpacks. -/
def readable : Value := .list .dynList (.exchange (some schema) [packed, .int 1])

/-- The same list without a schema, so that the message cannot be read. -/
def unreadable : Value := .list .dynList (.exchange none [packed, .uint 1])

/-- The schema on the left reads what the one on the right does not. -/
theorem readable_equals_unreadable :
    readable.equalsSame? unreadable = some true ∧ ¬ readable.ElementwiseEqual unreadable := by
  refine ⟨rfl, fun hequal => ?_⟩
  obtain ⟨⟨v, w, -, hw, -⟩, -⟩ := List.forall₂_cons.mp hequal
  have hfault : packed.toValue none 0 =
      fail 0 (.unrecognizedAny "type.googleapis.com/test.Unit") := rfl
  cases hfault.symm.trans hw

end SameFormWitness

end CommonExpr
