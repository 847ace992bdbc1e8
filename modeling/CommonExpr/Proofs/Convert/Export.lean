import CommonExpr.Convert.Json
import CommonExpr.Proofs.Json
import CommonExpr.Proofs.Number.Reading
import CommonExpr.Proofs.Value.Counterpart

/-!
Maps as JSON objects.

Keys of four types become names of members, which are all text, and the last member of a name
counts.  Main statement: an object has a member for each entry of a map just if no key that is
a string is the text of another key.
-/

namespace CommonExpr

open Outcome

/-! Depth -/

namespace Value

theorem toJsonWithin_of_isNull {v : Value} (hnull : v.isNull = true) (id : Int) (fuel : Nat) :
    v.toJsonWithin id fuel = .ok .null := by
  cases fuel with
  | zero => rfl
  | succ fuel =>
      cases v with
      | null => rfl
      | typedNull type zero => rfl
      | _ => cases hnull

/-- Fuel beyond the depth of a value is not used. -/
theorem toJsonWithin_congr (id : Int) {v : Value} {fuel fuel' : Nat} (hfuel : v.depth ≤ fuel)
    (hfuel' : v.depth ≤ fuel') : v.toJsonWithin id fuel = v.toJsonWithin id fuel' := by
  induction fuel generalizing v fuel' with
  | zero => exact absurd v.depth_pos (Nat.not_lt.mpr hfuel)
  | succ fuel ih =>
      cases fuel' with
      | zero => exact absurd v.depth_pos (Nat.not_lt.mpr hfuel')
      | succ fuel' =>
          cases v with
          | list ty items =>
              have hdepth : items.depth ≤ fuel := Nat.le_of_succ_le_succ hfuel
              have hdepth' : items.depth ≤ fuel' := Nat.le_of_succ_le_succ hfuel'
              rw [toJsonWithin, toJsonWithin]
              refine bind_congr_of_ok fun vs hvs => ?_
              have hle := (Items.readsTo_of_collect hvs).depth_le
              rw [mapM_congr_of_mem fun v hv =>
                ih (Nat.le_trans (hle v hv) hdepth) (Nat.le_trans (hle v hv) hdepth')]
          | map ty entries =>
              have hdepth : entries.depth ≤ fuel := Nat.le_of_succ_le_succ hfuel
              have hdepth' : entries.depth ≤ fuel' := Nat.le_of_succ_le_succ hfuel'
              rw [toJsonWithin, toJsonWithin]
              refine bind_congr_of_ok fun pairs hpairs => ?_
              have hle := (Entries.readsTo_of_collectPairs hpairs).depth_le
              have hmember : ∀ e ∈ pairs, memberOf id (toJsonWithin id fuel) e =
                  memberOf id (toJsonWithin id fuel') e := by
                intro e he
                rw [memberOf, memberOf,
                  ih (Nat.le_trans (hle e he) hdepth) (Nat.le_trans (hle e he) hdepth')]
              rw [mapM_congr_of_mem hmember]
          | object schema m =>
              have hdepth : m.depth ≤ fuel := Nat.le_of_succ_le_succ hfuel
              have hdepth' : m.depth ≤ fuel' := Nat.le_of_succ_le_succ hfuel'
              rw [toJsonWithin, toJsonWithin]
              refine congrArg (· >>= _) (mapM_congr_of_mem fun field _ => ?_)
              refine bind_congr_of_ok fun value hvalue => ?_
              have hsame : value.toJsonWithin id fuel = value.toJsonWithin id fuel' := by
                rcases Protobuf.Message.depth_of_fieldValue hvalue with hnull | hle
                · rw [toJsonWithin_of_isNull hnull, toJsonWithin_of_isNull hnull]
                · exact ih (Nat.le_trans hle hdepth) (Nat.le_trans hle hdepth')
              rw [hsame]
          | _ => rfl

/-- The text of a key that is a number or a truth value. -/
def keyText? : Value → Option String
  | .int i => some (toString i.toInt)
  | .uint u => some (toString u.toNat)
  | .bool b => some (boolText b)
  | _ => none

end Value

/-- Whether an entry of a map becomes a member. -/
def Exports (id : Int) (entry : Value × Value) (member : String × Json) : Prop :=
  jsonKey id entry.1 = .ok member.1 ∧ entry.2.toJson id = .ok member.2

/-- Whether no key that is a string is the text of another key. -/
def NoneSpelled (pairs : List (Value × Value)) : Prop :=
  ∀ e ∈ pairs, ∀ other ∈ pairs, ∀ text, e.1.keyText? = some text → other.1 ≠ .string text

/-! Names of members -/

theorem mem_intText {i : Int} {c : Char} (hc : c ∈ (toString i).toList) :
    c = '-' ∨ c.isDigit = true := by
  have hdigit : ∀ n : Nat, c ∈ n.repr.toList → c.isDigit = true := by
    intro n hn
    rw [Nat.toList_repr] at hn
    exact Nat.isDigit_of_mem_toDigits (by decide) (by decide) hn
  rw [Int.toString_eq_repr, Int.repr_eq_if] at hc
  split at hc
  · exact Or.inr (hdigit _ hc)
  · rw [String.toList_append, List.mem_append] at hc
    rcases hc with hminus | hc
    · exact Or.inl (List.mem_singleton.mp hminus)
    · exact Or.inr (hdigit _ hc)

/-- A number is not written as a truth value is. -/
theorem intText_ne_boolText (i : Int) (b : Bool) : toString i ≠ boolText b := by
  intro heq
  have hletter : 'e' ∈ (toString i).toList := by
    rw [heq]
    cases b <;> decide
  rcases mem_intText hletter with hminus | hdigit
  · exact absurd hminus (by decide)
  · exact absurd hdigit (by decide)

namespace Value

theorem key?_of_keyText? {v : Value} {text : String} (htext : v.keyText? = some text) :
    (∃ i : Int, v.key? = some (.number i) ∧ text = toString i) ∨
      ∃ b, v.key? = some (.bool b) ∧ text = boolText b := by
  unfold keyText? at htext
  split at htext
  · next i => exact Or.inl ⟨i.toInt, rfl, (Option.some.inj htext).symm⟩
  · next u => exact Or.inl ⟨u.toNat, rfl, (Option.some.inj htext).symm⟩
  · next b => exact Or.inr ⟨b, rfl, (Option.some.inj htext).symm⟩
  · cases htext

/-- Numbers and truth values with one text are one key. -/
theorem key?_eq_of_keyText? {v w : Value} {text : String} (hv : v.keyText? = some text)
    (hw : w.keyText? = some text) : v.key? = w.key? := by
  rcases key?_of_keyText? hv with ⟨i, hi, rfl⟩ | ⟨b, hb, rfl⟩ <;>
    rcases key?_of_keyText? hw with ⟨j, hj, heq⟩ | ⟨c, hc, heq⟩
  · rw [hi, hj, toString_int_injective heq]
  · exact absurd heq (intText_ne_boolText i c)
  · exact absurd heq.symm (intText_ne_boolText j b)
  · have hsame : b = c := by
      revert heq
      cases b <;> cases c <;> decide
    rw [hb, hc, hsame]

end Value

theorem jsonKey_eq_ok_iff {id : Int} {v : Value} {name : String} :
    jsonKey id v = .ok name ↔ v = .string name ∨ v.keyText? = some name := by
  cases v with
  | scalar s => cases s <;> simp [jsonKey, Value.keyText?, fail]
  | _ => simp [jsonKey, Value.keyText?, fail]

theorem memberOf_eq_ok_iff {id : Int} {convert : Value → Outcome Json} {entry : Value × Value}
    {member : String × Json} : memberOf id convert entry = .ok member ↔
      jsonKey id entry.1 = .ok member.1 ∧ convert entry.2 = .ok member.2 := by
  obtain ⟨name, value⟩ := member
  rw [memberOf]
  simp only [bind_eq_ok_iff]
  constructor
  · rintro ⟨name', hname, value', hvalue, ⟨⟩⟩
    exact ⟨hname, hvalue⟩
  · rintro ⟨hname, hvalue⟩
    exact ⟨name, hname, value, hvalue, rfl⟩

/-- A map is exported if all of its entries are, to the object of their members. -/
theorem Value.toJson_map_eq_ok_iff {ty : Ty} {entries : Entries} {id : Int} {x : Json} :
    (Value.map ty entries).toJson id = .ok x ↔ ∃ pairs named,
      entries.collectPairs id = .ok pairs ∧ List.Forall₂ (Exports id) pairs named ∧
        x = .ofMembers named := by
  have hexports : (fun e m => memberOf id (fun v => v.toJson id) e = .ok m) = Exports id := by
    funext e m
    exact propext memberOf_eq_ok_iff
  rw [toJson, toJsonWithin, bind_eq_ok_iff]
  refine exists_congr fun pairs => ?_
  rw [exists_and_left]
  refine and_congr_right fun hpairs => ?_
  have hconvert : ∀ e ∈ pairs, memberOf id (toJsonWithin id (Value.map ty entries).depth) e =
      memberOf id (fun v => v.toJson id) e := by
    intro e he
    have hle : e.2.depth ≤ (Value.map ty entries).depth :=
      Nat.le_succ_of_le ((Entries.readsTo_of_collectPairs hpairs).depth_le e he)
    rw [memberOf, memberOf, toJson, toJsonWithin_congr id hle (Nat.le_succ _)]
  rw [mapM_congr_of_mem hconvert, bind_eq_ok_iff]
  simp only [mapM_eq_ok_iff, hexports]
  refine exists_congr fun named => and_congr_right fun _ => ?_
  constructor
  · rintro ⟨⟩
    rfl
  · rintro rfl
    rfl

/-- Distinct keys have distinct names just if none is spelled like another. -/
theorem nodup_names_iff {id : Int} {pairs : List (Value × Value)} (hkeys : DistinctKeys pairs)
    {named : List (String × Json)} (hexports : List.Forall₂ (Exports id) pairs named) :
    (named.map (·.1)).Nodup ↔ NoneSpelled pairs := by
  have hnames : named.map (fun m => .ok m.1) = pairs.map fun e => jsonKey id e.1 :=
    map_eq_of_forall₂ (hexports.imp fun _ _ h => h.1.symm)
  have hpairs : pairs.Nodup := hkeys.nodup.of_map
  have hok : Function.Injective (Except.ok : String → Outcome String) :=
    fun _ _ heq => Except.ok.inj heq
  rw [← List.nodup_map_iff hok, List.map_map]
  change (named.map fun m => Except.ok m.1).Nodup ↔ _
  rw [hnames, List.nodup_map_iff_inj_on hpairs]
  constructor
  · intro hinj e he other hother text htext hstring
    have hsame := hinj e he other hother
      ((jsonKey_eq_ok_iff.mpr (Or.inr htext)).trans (jsonKey_eq_ok_iff.mpr (Or.inl hstring)).symm)
    subst hsame
    rw [hstring] at htext
    cases htext
  · intro hnone e he other hother hsame
    obtain ⟨m, -, hname, -⟩ := exists_of_mem_left hexports e he
    have hname' := hsame.symm.trans hname
    have hkey : e.1.key? = other.1.key? := by
      rcases jsonKey_eq_ok_iff.mp hname with hstring | htext <;>
        rcases jsonKey_eq_ok_iff.mp hname' with hstring' | htext'
      · rw [hstring, hstring']
      · exact absurd hstring (hnone other hother e he _ htext')
      · exact absurd hstring' (hnone e he other hother _ htext)
      · exact Value.key?_eq_of_keyText? htext htext'
    exact List.inj_on_of_nodup_map hkeys.nodup he hother hkey

/-- A map that is exported becomes an object.  It has a member for each entry, that of the
entry's name and value, just if no key that is a string is the text of another key. -/
theorem Value.toJson_keeps_entries_iff {ty : Ty} {entries : Entries} (hkeys : entries.KeysDistinct)
    {id : Int} {x : Json} (hx : (Value.map ty entries).toJson id = .ok x) :
    ∃ pairs named members, entries.collectPairs id = .ok pairs ∧
      List.Forall₂ (Exports id) pairs named ∧ x = .object members ∧
      ((members.length = entries.length ∧ ∀ m ∈ named, m ∈ members) ↔ NoneSpelled pairs) := by
  obtain ⟨pairs, named, hpairs, hexports, rfl⟩ := toJson_map_eq_ok_iff.mp hx
  have hread := Entries.readsTo_of_collectPairs hpairs
  have hlength : entries.length = named.length := by
    rw [← entries.length_read 0, hread, List.length_map, hexports.length_eq]
  refine ⟨pairs, named, _, hpairs, hexports, rfl, ?_⟩
  rw [hlength, Json.ofMembers_length_iff rfl, nodup_names_iff (hread.distinctKeys hkeys) hexports]

namespace ExportWitness

/-- Keys of three types. -/
def mixed : List (Value × Value) :=
  [(.int (-1), .string "a"), (.string "1", .scalar (.uint 2)), (.bool true, .null)]

/-- The number one, and the text of it. -/
def spelled : List (Value × Value) := [(.int 1, .string "a"), (.string "1", .string "b")]

theorem mixed_distinct : (Entries.values mixed).KeysDistinct := by
  intro id
  exact ⟨[.number (-1), .string "1", .bool true], rfl, by decide⟩

theorem spelled_distinct : (Entries.values spelled).KeysDistinct := by
  intro id
  exact ⟨[.number 1, .string "1"], rfl, by decide⟩

theorem mixed_noneSpelled : NoneSpelled mixed := by
  have hnone : ∀ e ∈ mixed, e.1.keyText? ≠ some "1" := by
    simp only [mixed, List.forall_mem_cons]
    exact ⟨by decide, by decide, by decide, fun _ h => absurd h List.not_mem_nil⟩
  intro e he other hother text htext hstring
  simp only [mixed, List.mem_cons, List.not_mem_nil, or_false] at hother
  rcases hother with rfl | rfl | rfl
  · cases hstring
  · cases hstring
    exact hnone e he htext
  · cases hstring

/-- Each of the three entries becomes a member. -/
theorem mixed_exported :
    (Value.map .dynMap (.values mixed)).toJson 1 =
        .ok (.object [("-1", .string "a"), ("1", .ofUInt64 2), ("true", .null)]) ∧
      ∃ named, List.Forall₂ (Exports 1) mixed named ∧
        ∀ m ∈ named, m ∈ [("-1", Json.string "a"), ("1", .ofUInt64 2), ("true", .null)] := by
  have hx : (Value.map .dynMap (.values mixed)).toJson 1 =
      .ok (.object [("-1", .string "a"), ("1", .ofUInt64 2), ("true", .null)]) := rfl
  obtain ⟨pairs, named, members, hpairs, hexports, hobject, hiff⟩ :=
    Value.toJson_keeps_entries_iff mixed_distinct hx
  obtain rfl : mixed = pairs := Except.ok.inj hpairs
  obtain rfl := Json.object.inj hobject
  exact ⟨hx, named, hexports, (hiff.mpr mixed_noneSpelled).2⟩

/-- One of two entries is lost. -/
theorem spelled_entry_lost :
    (Entries.values spelled).KeysDistinct ∧ (Entries.values spelled).length = 2 ∧
      (Value.map .dynMap (.values spelled)).toJson 1 = .ok (.object [("1", .string "b")]) :=
  ⟨spelled_distinct, rfl, rfl⟩

end ExportWitness

end CommonExpr
