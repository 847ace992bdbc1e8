import CommonExpr.Plan.Evaluation
import CommonExpr.Proofs.Protobuf.Validity
import CommonExpr.Proofs.Time
import CommonExpr.Proofs.Ty
import CommonExpr.Proofs.Value.Reading
import Mathlib.Logic.Relation

/-!
Well-formed values.

Containers read their elements when they are asked to, so a value is well-formed if
all that can ever be read out of it is sound: times in range, keys of maps canonical
and distinct, elements of the declared types, messages valid for their types.  Main
statement: a set of sound values from which reading does not lead out consists of
well-formed values.
-/

namespace CommonExpr

/-- Whether all keys can be read, have canonical forms, and these are distinct. -/
def Entries.KeysDistinct (entries : Entries) : Prop :=
  ∀ id, ∃ keys : List Key, (entries.keys id).map Entries.keyOf? = keys.map some ∧ keys.Nodup

/-- Whether a value may stand where a type is declared: it has the type, or the type
is `dyn`. -/
def Ty.Admits (t : Ty) (v : Value) : Prop := t.identical .dyn = true ∨ v.ty.identical t = true

namespace Value

/-- What is read out of a value: elements, keys and values of entries, and the zero of
an unset field. -/
inductive Part : Value → Value → Prop
  | element {ty : Ty} {items : Items} {id : Int} {v : Value} (hv : .ok v ∈ items.read id) :
      Part (.list ty items) v
  | key {ty : Ty} {entries : Entries} {id : Int} {k : Value} {o : Outcome Value}
      (hk : (.ok k, o) ∈ entries.read id) : Part (.map ty entries) k
  | value {ty : Ty} {entries : Entries} {id : Int} {o : Outcome Value} {v : Value}
      (hv : (o, .ok v) ∈ entries.read id) : Part (.map ty entries) v
  | zero {type : String} {zero : Value} : Part (.typedNull type zero) zero

/-- Whether a value is as it should be, whatever is read out of it.  Declared types have
to be proper, since types count as identical that are written alike. -/
def Sound : Value → Prop
  | .timestamp t => t.InRange
  | .duration d => d.InRange
  | .list ty items =>
      ty.Proper ∧ ∀ elem, ty = .list elem → ∀ id v, .ok v ∈ items.read id → elem.Admits v
  | .map ty entries =>
      ty.Proper ∧ entries.KeysDistinct ∧ ∀ key value, ty = .map key value → ∀ id,
        (∀ k o, (.ok k, o) ∈ entries.read id → key.Admits k) ∧
          ∀ o v, (o, .ok v) ∈ entries.read id → value.Admits v
  | .object schema m => schema.Sound ∧ m.Valid
  | _ => True

/-- Whether a value and all that can be read out of it is sound.  Faults in it do not
matter: what cannot be read is no part. -/
def WellFormed (v : Value) : Prop := ∀ w, Relation.ReflTransGen Part v w → w.Sound

theorem WellFormed.sound {v : Value} (hv : v.WellFormed) : v.Sound := hv v .refl

theorem WellFormed.part {v w : Value} (hv : v.WellFormed) (hpart : v.Part w) : w.WellFormed :=
  fun x hx => hv x (.head hpart hx)

theorem wellFormed_of {v : Value} (hsound : v.Sound) (hparts : ∀ w, v.Part w → w.WellFormed) :
    v.WellFormed := by
  intro w hw
  rcases hw.cases_head with rfl | ⟨part, hpart, hw⟩
  · exact hsound
  · exact hparts part hpart w hw

theorem wellFormed_leaf {v : Value} (hsound : v.Sound) (hleaf : ∀ w, ¬ v.Part w) : v.WellFormed :=
  wellFormed_of hsound fun w hpart => absurd hpart (hleaf w)

/-- Sound values from which reading does not lead out are well-formed. -/
theorem wellFormed_of_closed {S : Value → Prop} (hsound : ∀ v, S v → v.Sound)
    (hclosed : ∀ v w, S v → v.Part w → S w) {v : Value} (hv : S v) : v.WellFormed := by
  intro w hw
  refine hsound w ?_
  induction hw with
  | refl => exact hv
  | tail _ hpart ih => exact hclosed _ _ ih hpart

end Value

/-! Types of well-formed values -/

theorem Scalar.ty_proper (s : Scalar) : s.ty.Proper := by
  cases s <;> trivial

theorem Value.WellFormed.ty_proper : ∀ {v : Value}, v.WellFormed → v.ty.Proper
  | .null, _ => trivial
  | .scalar s, _ => s.ty_proper
  | .timestamp _, _ => trivial
  | .duration _, _ => trivial
  | .wrapped s, _ => s.ty_proper
  | .typedNull _ zero, hv => ty_proper (v := zero) (hv.part .zero)
  | .list _ _, hv => hv.sound.1
  | .map _ _, hv => hv.sound.1
  | .object _ _, hv => hv.sound.2.type_sound.bracket
  | .type _, _ => trivial

theorem Ty.Admits.of_identical {t t' : Ty} {v : Value} (ht : t'.Admits v)
    (hidentical : t.identical t' = true) : t.Admits v := by
  rcases ht with hdyn | hty
  · exact Or.inl (Ty.identical_trans hidentical hdyn)
  · exact Or.inr (Ty.identical_trans hty (Ty.identical_symm hidentical))

theorem Ty.dyn_admits (v : Value) : Ty.dyn.Admits v := Or.inl (Ty.identical_refl _)

/-! What evaluation makes of well-formed values -/

/-- The type that values share admits each of them. -/
theorem commonType_admits {vs : List Value} {v : Value} (hv : v ∈ vs) :
    (commonType vs).Admits v := by
  cases vs with
  | nil => cases hv
  | cons head rest =>
      rw [commonType]
      split
      · next hall =>
          right
          rcases List.mem_cons.mp hv with rfl | hv
          · exact Ty.identical_refl _
          · exact List.all_eq_true.mp hall v hv
      · exact Ty.dyn_admits v

theorem commonType_proper {vs : List Value} (hvs : ∀ v ∈ vs, v.WellFormed) :
    (commonType vs).Proper := by
  cases vs with
  | nil => trivial
  | cons head rest =>
      rw [commonType]
      split
      · exact (hvs head List.mem_cons_self).ty_proper
      · trivial

namespace Value

/-- A list of well-formed values that its element type admits is well-formed. -/
theorem wellFormed_list {ty : Ty} {vs : List Value} (hproper : ty.Proper)
    (hvs : ∀ v ∈ vs, v.WellFormed) (hadmits : ∀ elem, ty = .list elem → ∀ v ∈ vs, elem.Admits v) :
    (Value.list ty (.values vs)).WellFormed := by
  have hmem {id : Int} {v : Value} (hv : .ok v ∈ (Items.values vs).read id) : v ∈ vs := by
    obtain ⟨w, hw, heq⟩ := List.mem_map.mp hv
    exact Except.ok.inj heq ▸ hw
  refine wellFormed_of ⟨hproper, fun elem heq id v hv => ?_⟩ fun w hpart => ?_
  · exact hadmits elem heq v (hmem hv)
  · cases hpart with
    | element hv => exact hvs w (hmem hv)

/-- Keys that a walk over them accepts are canonical and distinct. -/
theorem exists_keys_of_checkKeys {id : Int} {seen : List Key} {keys : List (Outcome Value)}
    (hcheck : checkKeys id seen keys = .ok ()) :
    ∃ canonical : List Key, keys.map Entries.keyOf? = canonical.map some ∧ canonical.Nodup ∧
      ∀ key ∈ canonical, key ∉ seen := by
  induction keys generalizing seen with
  | nil => exact ⟨[], rfl, List.nodup_nil, fun _ hkey => absurd hkey List.not_mem_nil⟩
  | cons head rest ih =>
      cases head with
      | error f => cases hcheck
      | ok v =>
          rw [checkKeys] at hcheck
          split at hcheck
          · cases hcheck
          · next key hkey =>
              split at hcheck
              · cases hcheck
              · next hnew =>
                  obtain ⟨canonical, hrest, hnodup, hseen⟩ := ih hcheck
                  refine ⟨key :: canonical, ?_, ?_, ?_⟩
                  · rw [List.map_cons, List.map_cons, hrest]
                    exact congrArg (· :: _) hkey
                  · refine List.nodup_cons.mpr ⟨fun hmem => ?_, hnodup⟩
                    exact hseen key hmem List.mem_cons_self
                  · refine List.forall_mem_cons.mpr ⟨hnew, fun k hk hold => ?_⟩
                    exact hseen k hk (List.mem_cons_of_mem _ hold)

/-- A map of well-formed values that its types admit is well-formed. -/
theorem wellFormed_map {id : Int} {key value : Ty} {es : List (Value × Value)} {v : Value}
    (hkey : key.Proper) (hvalue : value.Proper) (hes : ∀ e ∈ es, e.1.WellFormed ∧ e.2.WellFormed)
    (hadmits : ∀ e ∈ es, key.Admits e.1 ∧ value.Admits e.2)
    (hmap : Value.newMap id (.map key value) (.values es) = .ok v) : v.WellFormed := by
  have hmem {id : Int} {k w : Outcome Value} (he : (k, w) ∈ (Entries.values es).read id) :
      ∃ e ∈ es, k = .ok e.1 ∧ w = .ok e.2 := by
    obtain ⟨e, he, heq⟩ := List.mem_map.mp he
    exact ⟨e, he, (Prod.mk.inj heq).1.symm, (Prod.mk.inj heq).2.symm⟩
  unfold Value.newMap at hmap
  split at hmap
  · cases hmap
  · next hcheck =>
      cases hmap
      obtain ⟨keys, hkeys, hnodup, -⟩ := exists_keys_of_checkKeys hcheck
      refine wellFormed_of ⟨⟨hkey, hvalue⟩, fun _ => ⟨keys, hkeys, hnodup⟩, ?_⟩ fun w hpart => ?_
      · rintro _ _ ⟨⟩ id
        constructor
        · intro k o hk
          obtain ⟨e, he, ⟨⟩, -⟩ := hmem hk
          exact (hadmits e he).1
        · intro o v hv
          obtain ⟨e, he, -, ⟨⟩⟩ := hmem hv
          exact (hadmits e he).2
      · cases hpart with
        | key hk =>
            obtain ⟨e, he, ⟨⟩, -⟩ := hmem hk
            exact (hes e he).1
        | value hv =>
            obtain ⟨e, he, -, ⟨⟩⟩ := hmem hv
            exact (hes e he).2

theorem mem_read_of_collect {items : Items} {id : Int} {vs : List Value}
    (hcollect : items.collect id = .ok vs) : ∀ v ∈ vs, .ok v ∈ items.read id := by
  rw [(collect_eq_ok_iff _ _).mp hcollect]
  exact fun v hv => List.mem_map_of_mem hv

/-- Lists of one type are put together as a list of this type, others as one of any. -/
theorem wellFormed_concat {id : Int} {ty ty' : Ty} {xs ys : Items} {v : Value}
    (hxs : (Value.list ty xs).WellFormed) (hys : (Value.list ty' ys).WellFormed)
    (hconcat : concat id ty xs ty' ys = .ok v) : v.WellFormed := by
  unfold concat at hconcat
  split at hconcat
  · cases hconcat
  · next a ha =>
      split at hconcat
      · cases hconcat
      · next b hb =>
          cases hconcat
          have hparts : ∀ v ∈ a ++ b, v.WellFormed := by
            refine List.forall_mem_append.mpr ⟨fun v hv => ?_, fun v hv => ?_⟩
            · exact hxs.part (.element (mem_read_of_collect ha v hv))
            · exact hys.part (.element (mem_read_of_collect hb v hv))
          -- the type stays only where it admits the elements of both lists
          split
          · next hidentical =>
              refine wellFormed_list hxs.sound.1 hparts fun elem heq => ?_
              subst heq
              have hproper : elem.Proper := hxs.sound.1
              obtain ⟨elem', rfl, helem⟩ :=
                Ty.exists_elem_of_identical hproper hys.sound.1 hidentical
              refine List.forall_mem_append.mpr ⟨fun v hv => ?_, fun v hv => ?_⟩
              · exact hxs.sound.2 elem rfl id v (mem_read_of_collect ha v hv)
              · have hv' := hys.sound.2 elem' rfl id v (mem_read_of_collect hb v hv)
                exact hv'.of_identical helem
          · refine wellFormed_list trivial hparts fun elem heq v _ => ?_
            cases heq
            exact Ty.dyn_admits v

end Value

/-! What is looked up in well-formed values -/

theorem Items.mem_read_of_element {items : Items} {id index : Int} {v : Value}
    (hv : items.element id index = .ok v) : .ok v ∈ items.read id := by
  unfold Items.element at hv
  split at hv
  · split at hv
    · next o ho => exact hv ▸ List.mem_of_getElem? ho
    · cases hv
  · cases hv

theorem Items.mem_read_of_index {items : Items} {id : Int} {key v : Value}
    (hv : items.index id key = .ok v) : .ok v ∈ items.read id := by
  unfold Items.index at hv
  split at hv
  · exact Items.mem_read_of_element hv
  · exact Items.mem_read_of_element hv
  · split at hv
    · exact Items.mem_read_of_element hv
    · cases hv
  · cases hv

theorem Entries.mem_read_of_get {entries : Entries} {id : Int} {key v : Value}
    (hv : entries.get id key = .ok (some v)) : ∃ k, (k, .ok v) ∈ entries.read id := by
  unfold Entries.get at hv
  split at hv
  · cases hv
  · split at hv
    · cases hv
    · next hfind =>
        cases hv
        obtain ⟨e, he, heq⟩ := Option.map_eq_some_iff.mp hfind
        exact ⟨e.1, heq ▸ List.mem_of_find?_eq_some he⟩
    · cases hv

namespace Value

theorem WellFormed.byIndex? {v : Value} (hv : v.WellFormed) {id : Int} {key part : Value}
    (hpart : v.byIndex? id key = some (.ok part)) : part.WellFormed := by
  fun_induction Value.byIndex? v id key with
  | case1 id key ty items =>
      exact hv.part (.element (Items.mem_read_of_index (Option.some.inj hpart)))
  | case2 id key ty entries w hget =>
      cases hpart
      obtain ⟨k, hk⟩ := Entries.mem_read_of_get hget
      exact hv.part (.value hk)
  | case3 => cases hpart
  | case4 => cases hpart
  | case5 id key type zero ih => exact ih (hv.part .zero) hpart
  | case6 => cases hpart

theorem WellFormed.index {v : Value} (hv : v.WellFormed) {id : Int} {key part : Value}
    (hpart : v.index id key = .ok part) : part.WellFormed := by
  unfold Value.index at hpart
  split at hpart
  · next result hresult => exact hv.byIndex? (hpart ▸ hresult)
  · cases hpart

end Value

end CommonExpr
