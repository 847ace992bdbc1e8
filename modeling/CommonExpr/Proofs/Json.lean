import CommonExpr.Json
import CommonExpr.Proofs.Sequence
import Mathlib.Data.String.Basic

/-!
JSON values in order.

Hosts keep the members of an object by ascending name, whatever order they were written
in.  Main statement: putting distinct members in order loses none of them, and leaves a
value alone that is in order throughout.
-/

namespace CommonExpr.Json

/-- The values directly inside an array or an object. -/
def parts : Json → List Json
  | .array items => items
  | .object members => members.map (·.2)
  | _ => []

/-- Whether a property holds of a value and of everything inside it. -/
inductive Throughout (P : Json → Prop) : Json → Prop where
  | intro {x : Json} (here : P x) (inside : ∀ y ∈ x.parts, Throughout P y) : Throughout P x

/-- What JSON can say at one level: doubles are numbers, and the names of members differ. -/
def Sound : Json → Prop
  | .double d => d.isFinite = true
  | .object members => (members.map (·.1)).Nodup
  | _ => True

/-- Whether the members of an object stand by ascending name. -/
def Ascending : Json → Prop
  | .object members => members.Pairwise fun a b => a.1 < b.1
  | _ => True

/-- Two values that are the same but for the order in which objects list their members. -/
inductive Reorders : Json → Json → Prop where
  | refl (x : Json) : Reorders x x
  | array {items : List Json} {reordered : Json → Json}
      (hitems : ∀ x ∈ items, Reorders x (reordered x)) :
      Reorders (.array items) (.array (items.map reordered))
  | object {members listed : List (String × Json)} {reordered : Json → Json}
      (hmembers : ∀ m ∈ members, Reorders m.2 (reordered m.2))
      (hlisted : listed.Perm (members.map fun m => (m.1, reordered m.2))) :
      Reorders (.object members) (.object listed)

mutual

/-- A value with the members of all objects in it by ascending name. -/
def sorted : Json → Json
  | .array items => .array (sortedItems items)
  | .object members => .ofMembers (sortedMembers members)
  | x => x

def sortedItems : List Json → List Json
  | [] => []
  | x :: rest => x.sorted :: sortedItems rest

def sortedMembers : List (String × Json) → List (String × Json)
  | [] => []
  | (name, x) :: rest => (name, x.sorted) :: sortedMembers rest

end

theorem sortedItems_eq_map (items : List Json) : sortedItems items = items.map sorted := by
  induction items with
  | nil => rfl
  | cons x rest ih => rw [sortedItems, ih, List.map_cons]

theorem sortedMembers_eq_map (members : List (String × Json)) :
    sortedMembers members = members.map fun m => (m.1, m.2.sorted) := by
  induction members with
  | nil => rfl
  | cons m rest ih => rw [sortedMembers, ih, List.map_cons]

section Members

variable {name : String} {value : Json} {members : List (String × Json)}

theorem insertMember_perm (hnew : name ∉ members.map (·.1)) :
    (insertMember name value members).Perm ((name, value) :: members) := by
  induction members with
  | nil => exact List.Perm.refl _
  | cons m rest ih =>
      rw [List.map_cons, List.mem_cons, not_or] at hnew
      obtain ⟨hm, hrest⟩ := hnew
      rw [insertMember, if_neg (Ne.symm hm)]
      by_cases hlt : name < m.1
      · rw [if_pos hlt]
      · rw [if_neg hlt]
        exact ((ih hrest).cons m).trans (List.Perm.swap _ _ _)

/-- Step: a new member finds its place among those in order. -/
theorem insertMember_ascending (hnew : name ∉ members.map (·.1))
    (hascending : members.Pairwise fun a b => a.1 < b.1) :
    (insertMember name value members).Pairwise fun a b => a.1 < b.1 := by
  induction members with
  | nil => exact List.pairwise_singleton _ _
  | cons m rest ih =>
      rw [List.map_cons, List.mem_cons, not_or] at hnew
      obtain ⟨hm, hrest⟩ := hnew
      obtain ⟨hfirst, hothers⟩ := List.pairwise_cons.mp hascending
      rw [insertMember, if_neg (Ne.symm hm)]
      by_cases hlt : name < m.1
      · rw [if_pos hlt]
        refine List.pairwise_cons.mpr ⟨?_, hascending⟩
        intro other hother
        rcases List.mem_cons.mp hother with rfl | hother
        · exact hlt
        · exact lt_trans hlt (hfirst other hother)
      · rw [if_neg hlt]
        refine List.pairwise_cons.mpr ⟨?_, ih hrest hothers⟩
        intro other hother
        rcases List.mem_cons.mp ((insertMember_perm hrest).mem_iff.mp hother) with rfl | hother
        · exact lt_of_le_of_ne (not_lt.mp hlt) (Ne.symm hm)
        · exact hfirst other hother

/-- Run: members that differ in their names join those in order one by one. -/
theorem foldl_insertMember (placed : List (String × Json))
    (hplaced : placed.Pairwise fun a b => a.1 < b.1)
    (hnames : ((placed ++ members).map (·.1)).Nodup) :
    (members.foldl (fun acc m => insertMember m.1 m.2 acc) placed).Perm (placed ++ members) ∧
      (members.foldl (fun acc m => insertMember m.1 m.2 acc) placed).Pairwise
        fun a b => a.1 < b.1 :=
  foldl_insert (f := fun m => insertMember m.1 m.2)
    (fun _ _ hnew hascending => ⟨insertMember_perm hnew, insertMember_ascending hnew hascending⟩)
    hplaced hnames

theorem exists_ofMembers (hnames : (members.map (·.1)).Nodup) :
    ∃ inOrder, ofMembers members = .object inOrder ∧ inOrder.Perm members ∧
      inOrder.Pairwise fun a b => a.1 < b.1 := by
  obtain ⟨hperm, hascending⟩ := foldl_insertMember [] List.Pairwise.nil hnames
  exact ⟨_, rfl, hperm, hascending⟩

/-- Step: a member of a name that is there already takes the place of the one before. -/
theorem insertMember_names (hold : name ∈ members.map (·.1))
    (hascending : members.Pairwise fun a b => a.1 < b.1) :
    (insertMember name value members).map (·.1) = members.map (·.1) := by
  induction members with
  | nil => cases hold
  | cons m rest ih =>
      obtain ⟨hfirst, hothers⟩ := List.pairwise_cons.mp hascending
      rw [insertMember]
      by_cases hm : m.1 = name
      · rw [if_pos hm, List.map_cons, List.map_cons, hm]
      · have hrest : name ∈ rest.map (·.1) := by
          rcases List.mem_cons.mp hold with heq | hrest
          · exact absurd heq.symm hm
          · exact hrest
        -- the name stands behind the first one, so it is greater
        obtain ⟨other, hother, rfl⟩ := List.mem_map.mp hrest
        rw [if_neg hm, if_neg (lt_asymm (hfirst other hother)), List.map_cons, List.map_cons,
          ih hrest hothers]

theorem insertMember_keeps_ascending (name : String) (value : Json)
    (hascending : members.Pairwise fun a b => a.1 < b.1) :
    (insertMember name value members).Pairwise fun a b => a.1 < b.1 := by
  by_cases hold : name ∈ members.map (·.1)
  · have hnames := List.pairwise_map.mpr hascending
    rw [← insertMember_names hold hascending] at hnames
    exact List.pairwise_map.mp hnames
  · exact insertMember_ascending hold hascending

/-- Run: there are as many members in the end as were put in just if none took the place of
another. -/
theorem foldl_insertMember_length (members placed : List (String × Json))
    (hplaced : placed.Pairwise fun a b => a.1 < b.1) :
    (members.foldl (fun acc m => insertMember m.1 m.2 acc) placed).length ≤
        placed.length + members.length ∧
      ((members.foldl (fun acc m => insertMember m.1 m.2 acc) placed).length =
        placed.length + members.length → ((placed ++ members).map (·.1)).Nodup) := by
  induction members generalizing placed with
  | nil =>
      refine ⟨Nat.le_refl _, fun _ => ?_⟩
      rw [List.append_nil, List.Nodup, List.pairwise_map]
      exact hplaced.imp fun hlt => ne_of_lt hlt
  | cons m rest ih =>
      obtain ⟨hle, hnodup⟩ := ih _ (insertMember_keeps_ascending m.1 m.2 hplaced)
      rw [List.foldl_cons, List.length_cons]
      by_cases hold : m.1 ∈ placed.map (·.1)
      · have hlength : (insertMember m.1 m.2 placed).length = placed.length := by
          have hnames : (insertMember m.1 m.2 placed).map (·.1) = placed.map (·.1) :=
            insertMember_names hold hplaced
          simpa using congrArg List.length hnames
        rw [hlength] at hle
        exact ⟨by omega, fun heq => by omega⟩
      · have hperm : (insertMember m.1 m.2 placed).Perm (m :: placed) := insertMember_perm hold
        have hlength : (insertMember m.1 m.2 placed).length = placed.length + 1 := hperm.length_eq
        rw [hlength] at hle hnodup
        refine ⟨by omega, fun heq => ?_⟩
        have hall := (hperm.append_right rest).trans List.perm_middle.symm
        exact (hall.map (·.1)).nodup_iff.mp (hnodup (by omega))

/-- An object has as many members as were given just if their names differ, and then it has
all of them. -/
theorem ofMembers_length_iff {inOrder : List (String × Json)}
    (hobject : ofMembers members = .object inOrder) :
    (inOrder.length = members.length ∧ ∀ m ∈ members, m ∈ inOrder) ↔
      (members.map (·.1)).Nodup := by
  obtain rfl := Json.object.inj hobject
  constructor
  · rintro ⟨hlength, -⟩
    obtain ⟨-, hnodup⟩ := foldl_insertMember_length members [] List.Pairwise.nil
    exact hnodup (by simpa using hlength)
  · intro hnames
    obtain ⟨hperm, -⟩ := foldl_insertMember [] List.Pairwise.nil hnames
    exact ⟨hperm.length_eq, fun m hm => hperm.mem_iff.mpr hm⟩

theorem nodup_of_ascending (hascending : members.Pairwise fun a b => a.1 < b.1) :
    (members.map (·.1)).Nodup := by
  rw [List.Nodup, List.pairwise_map]
  exact hascending.imp fun hlt => ne_of_lt hlt

theorem ofMembers_of_ascending (hascending : members.Pairwise fun a b => a.1 < b.1) :
    ofMembers members = .object members := by
  obtain ⟨inOrder, heq, hperm, horder⟩ := exists_ofMembers (nodup_of_ascending hascending)
  rw [heq, hperm.eq_of_pairwise (fun a b _ _ hab hba => absurd hab (lt_asymm hba)) horder
    hascending]

end Members

/-- Sorting moves members around and does nothing else. -/
theorem reorders_sorted {x : Json} (hx : x.Throughout Sound) : x.Reorders x.sorted := by
  induction hx with
  | @intro x here _ ih =>
      cases x with
      | array items =>
          rw [sorted, sortedItems_eq_map]
          exact .array ih
      | object members =>
          have hnames : ((members.map fun m => (m.1, m.2.sorted)).map (·.1)).Nodup := by
            rw [List.map_map]
            exact here
          obtain ⟨inOrder, heq, hperm, -⟩ := exists_ofMembers hnames
          rw [sorted, sortedMembers_eq_map, heq]
          refine .object ?_ hperm
          intro m hm
          exact ih m.2 (List.mem_map_of_mem hm)
      | _ => exact .refl _

theorem sorted_of_ascending {x : Json} (hx : x.Throughout Ascending) : x.sorted = x := by
  induction hx with
  | @intro x here _ ih =>
      cases x with
      | array items =>
          have hitems : items.map sorted = items.map fun y => y := List.map_congr_left ih
          rw [sorted, sortedItems_eq_map, hitems, List.map_id']
      | object members =>
          have hmembers : members.map (fun m => (m.1, m.2.sorted)) = members.map fun m => m := by
            apply List.map_congr_left
            intro m hm
            rw [ih m.2 (List.mem_map_of_mem hm)]
          rw [sorted, sortedMembers_eq_map, hmembers, List.map_id']
          exact ofMembers_of_ascending here
      | _ => rfl

end CommonExpr.Json
