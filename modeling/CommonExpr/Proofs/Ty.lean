import CommonExpr.Ty

/-!
Identity of types by name.

Types are compared by what is written for them.  Main statement: where the names of
messages have no brackets in them, types that are written alike are identical, and so
are the element types of identical list types.
-/

namespace CommonExpr.Ty

/-- Whether the names of messages in a type have no brackets, so that they cannot be
taken for types with parameters.  What a type of types is about does not matter. -/
def Proper : Ty → Prop
  | .message name => '(' ∉ name.toList
  | .wrapper inner => inner.Proper
  | .list elem => elem.Proper
  | .map key value => key.Proper ∧ value.Proper
  | _ => True

theorem identical_iff {a b : Ty} :
    a.identical b = true ↔ a.name = b.name ∧ a.fullName = b.fullName := by
  simp [identical]

theorem identical_refl (a : Ty) : a.identical a = true := identical_iff.mpr ⟨rfl, rfl⟩

theorem identical_symm {a b : Ty} (hab : a.identical b = true) : b.identical a = true := by
  obtain ⟨hname, hfull⟩ := identical_iff.mp hab
  exact identical_iff.mpr ⟨hname.symm, hfull.symm⟩

theorem identical_trans {a b c : Ty} (hab : a.identical b = true) (hbc : b.identical c = true) :
    a.identical c = true := by
  obtain ⟨hname, hfull⟩ := identical_iff.mp hab
  obtain ⟨hname', hfull'⟩ := identical_iff.mp hbc
  exact identical_iff.mpr ⟨hname.trans hname', hfull.trans hfull'⟩

theorem toList_list (elem : Ty) : (Ty.list elem).fullName.toList =
    "list".toList ++ '(' :: (elem.fullName.toList ++ [')']) := by
  simp [fullName]

theorem toList_map (key value : Ty) : (Ty.map key value).fullName.toList =
    "map".toList ++
      '(' :: (key.fullName.toList ++ ", ".toList ++ value.fullName.toList ++ [')']) := by
  simp [fullName]

theorem toList_typeOf (inner : Ty) : (Ty.typeOf inner).fullName.toList =
    "type".toList ++ '(' :: (inner.fullName.toList ++ [')']) := by
  simp [fullName]

theorem toList_wrapper (inner : Ty) : (Ty.wrapper inner).fullName.toList =
    "wrapper".toList ++ '(' :: (inner.fullName.toList ++ [')']) := by
  simp [fullName]

/-- What stands before the parameters of a type, if it has parameters. -/
def head? : Ty → Option String
  | .list _ => some "list"
  | .map _ _ => some "map"
  | .typeOf _ => some "type"
  | .wrapper _ => some "wrapper"
  | _ => none

theorem exists_toList_of_head? {t : Ty} {h : String} (hhead : t.head? = some h) :
    ∃ rest, t.fullName.toList = h.toList ++ '(' :: rest := by
  cases t with
  | list elem => cases hhead; exact ⟨_, toList_list elem⟩
  | map key value => cases hhead; exact ⟨_, toList_map key value⟩
  | typeOf inner => cases hhead; exact ⟨_, toList_typeOf inner⟩
  | wrapper inner => cases hhead; exact ⟨_, toList_wrapper inner⟩
  | _ => cases hhead

theorem Proper.fullName_eq {t : Ty} (ht : t.Proper) (hhead : t.head? = none) :
    t.fullName = t.name ∧ '(' ∉ t.fullName.toList := by
  cases t with
  | message name => exact ⟨rfl, ht⟩
  | list elem => cases hhead
  | map key value => cases hhead
  | typeOf inner => cases hhead
  | wrapper inner => cases hhead
  | _ => exact ⟨rfl, by decide⟩

theorem bracket_notMem_of_head? {t : Ty} {h : String} (hhead : t.head? = some h) :
    '(' ∉ h.toList := by
  cases t <;> cases hhead <;> decide

/-- What is written alike starts alike. -/
theorem head?_eq_of_fullName_eq {a b : Ty} (ha : a.Proper) (hb : b.Proper)
    (hfull : a.fullName = b.fullName) : a.head? = b.head? := by
  cases hheada : a.head? with
  | none =>
      cases hheadb : b.head? with
      | none => rfl
      | some h =>
          obtain ⟨rest, hrest⟩ := exists_toList_of_head? hheadb
          exact absurd (by simp [hfull, hrest]) (ha.fullName_eq hheada).2
  | some h =>
      obtain ⟨rest, hrest⟩ := exists_toList_of_head? hheada
      cases hheadb : b.head? with
      | none => exact absurd (by simp [← hfull, hrest]) (hb.fullName_eq hheadb).2
      | some h' =>
          obtain ⟨rest', hrest'⟩ := exists_toList_of_head? hheadb
          have hbefore {h : String} (hh : '(' ∉ h.toList) (rest : List Char) :
              (h.toList ++ '(' :: rest).takeWhile (· != '(') = h.toList := by
            have hall : ∀ c ∈ h.toList, (c != '(') = true :=
              fun c hc => bne_iff_ne.mpr fun heq => hh (heq ▸ hc)
            simp [List.takeWhile_append_of_pos hall]
          have heads : h.toList = h'.toList := by
            rw [← hbefore (bracket_notMem_of_head? hheada) rest, ← hrest, hfull, hrest',
              hbefore (bracket_notMem_of_head? hheadb) rest']
          rw [String.toList_inj.mp heads]

theorem inner_fullName_eq {a b : Ty} (hfull : (Ty.wrapper a).fullName = (Ty.wrapper b).fullName) :
    a.fullName = b.fullName := by
  have hlist := congrArg String.toList hfull
  rw [toList_wrapper, toList_wrapper] at hlist
  exact String.toList_inj.mp (by simpa using hlist)

theorem elem_fullName_eq {a b : Ty} (hfull : (Ty.list a).fullName = (Ty.list b).fullName) :
    a.fullName = b.fullName := by
  have hlist := congrArg String.toList hfull
  rw [toList_list, toList_list] at hlist
  exact String.toList_inj.mp (by simpa using hlist)

/-- What is written alike has one base name. -/
theorem name_eq_of_fullName_eq {a b : Ty} (ha : a.Proper) (hb : b.Proper)
    (hfull : a.fullName = b.fullName) : a.name = b.name := by
  have hheads := head?_eq_of_fullName_eq ha hb hfull
  induction a generalizing b with
  | wrapper inner ih =>
      cases b with
      | wrapper inner' =>
          have hinner := inner_fullName_eq hfull
          have hheads' := head?_eq_of_fullName_eq (a := inner) (b := inner') ha hb hinner
          rw [name, name, @ih inner' ha hb hinner hheads']
      | _ => simp [head?] at hheads
  | list elem =>
      cases b with
      | list elem' => rfl
      | _ => simp [head?] at hheads
  | map key value =>
      cases b with
      | map key' value' => rfl
      | _ => simp [head?] at hheads
  | typeOf inner =>
      cases b with
      | typeOf inner' => rfl
      | _ => simp [head?] at hheads
  | _ =>
      rw [← (ha.fullName_eq rfl).1, hfull]
      exact (hb.fullName_eq hheads.symm).1

theorem identical_of_fullName_eq {a b : Ty} (ha : a.Proper) (hb : b.Proper)
    (hfull : a.fullName = b.fullName) : a.identical b = true :=
  identical_iff.mpr ⟨name_eq_of_fullName_eq ha hb hfull, hfull⟩

/-- What is identical to a list type is one, of elements of an identical type. -/
theorem exists_elem_of_identical {elem t : Ty} (helem : elem.Proper) (ht : t.Proper)
    (hidentical : (Ty.list elem).identical t = true) :
    ∃ elem', t = .list elem' ∧ elem.identical elem' = true := by
  obtain ⟨-, hfull⟩ := identical_iff.mp hidentical
  have hheads := head?_eq_of_fullName_eq (a := .list elem) helem ht hfull
  cases t with
  | list elem' => exact ⟨elem', rfl, identical_of_fullName_eq helem ht (elem_fullName_eq hfull)⟩
  | _ => simp [head?] at hheads

/-! Types that are found by name -/

end CommonExpr.Ty
