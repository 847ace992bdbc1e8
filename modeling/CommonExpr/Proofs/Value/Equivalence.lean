import CommonExpr.Proofs.Scalar
import CommonExpr.Proofs.Value.SameForm
import Mathlib.Data.List.Nodup
import Mathlib.Data.List.Perm.Subperm
import Mathlib.Logic.Relation

/-!
Equality as a partial equivalence.

Lists, maps and what they hold come in any mix of forms, and numbers in three types.
Main statement: among values without messages in them, whose containers share one
schema for each form, equality is symmetric and transitive, and each value without
not-a-number in it equals itself.
-/

namespace CommonExpr

/-! Values that hold no others -/

namespace Value

/-- Whether a value is no container, no message and no unset field. -/
def isFlat : Value → Bool
  | .null => true
  | .scalar _ => true
  | .timestamp _ => true
  | .duration _ => true
  | .wrapped _ => true
  | .type _ => true
  | _ => false

/-- What flat values can stand for. -/
inductive Meaning where
  | null
  | scalar (m : Scalar.Meaning)
  | timestamp (t : Timestamp)
  | duration (d : Duration)
  | type (name : String)

/-- What a flat value stands for, `none` for not-a-number. -/
def meaning? : Value → Option Meaning
  | .null => some .null
  | .scalar s => s.meaning?.map .scalar
  | .wrapped s => s.meaning?.map .scalar
  | .timestamp t => some (.timestamp t)
  | .duration d => some (.duration d)
  | .type t => some (.type t.name)
  | _ => none

theorem meaning?_of_scalar? {v : Value} {s : Scalar} (hscalar : v.scalar? = some s) :
    v.meaning? = s.meaning?.map .scalar := by
  cases v <;> cases hscalar <;> rfl

theorem isFlat_of_meaning? {v : Value} {m : Meaning} (hm : v.meaning? = some m) :
    v.isFlat = true := by
  cases v with
  | typedNull type zero => cases hm
  | list ty items => cases hm
  | map ty entries => cases hm
  | object schema m => cases hm
  | _ => rfl

theorem scalars_equal_iff {a b : Value} {s s' : Scalar} (ha : a.scalar? = some s)
    (hb : b.scalar? = some s') :
    s.equals s' = true ↔ ∃ m, a.meaning? = some m ∧ b.meaning? = some m := by
  rw [Scalar.equals_iff, meaning?_of_scalar? ha, meaning?_of_scalar? hb]
  constructor
  · rintro ⟨m, hm, hm'⟩
    exact ⟨.scalar m, by rw [hm]; rfl, by rw [hm']; rfl⟩
  · rintro ⟨m, hm, hm'⟩
    obtain ⟨n, hn, rfl⟩ := Option.map_eq_some_iff.mp hm
    obtain ⟨n', hn', heq⟩ := Option.map_eq_some_iff.mp hm'
    cases heq
    exact ⟨n, hn, hn'⟩

/-- A flat value equals what stands for the same. -/
theorem equals_iff_of_isFlat {a b : Value} (ha : a.isFlat = true)
    (hb : ∀ type zero, b ≠ .typedNull type zero) :
    a.equals b = true ↔ ∃ m, a.meaning? = some m ∧ b.meaning? = some m := by
  rw [equals_eq]
  cases a with
  | null =>
      cases b with
      | typedNull n z => exact absurd rfl (hb n z)
      | _ => simp [equalsBy, isNull, meaning?]
  | timestamp t =>
      cases b with
      | typedNull n z => exact absurd rfl (hb n z)
      | timestamp t' => simpa [equalsBy, meaning?] using eq_comm (a := t)
      | _ => simp [equalsBy, isNull, scalar?, meaning?]
  | duration d =>
      cases b with
      | typedNull n z => exact absurd rfl (hb n z)
      | duration d' => simpa [equalsBy, meaning?] using eq_comm (a := d)
      | _ => simp [equalsBy, isNull, scalar?, meaning?]
  | type t =>
      cases b with
      | typedNull n z => exact absurd rfl (hb n z)
      | type t' => simpa [equalsBy, meaning?, Ty.equals] using eq_comm (a := t.name)
      | _ => simp [equalsBy, isNull, scalar?, meaning?]
  | scalar s =>
      cases b with
      | typedNull n z => exact absurd rfl (hb n z)
      | scalar s' => exact scalars_equal_iff rfl rfl
      | wrapped s' => exact scalars_equal_iff rfl rfl
      | _ => simp [equalsBy, isNull, scalar?, meaning?]
  | wrapped s =>
      cases b with
      | typedNull n z => exact absurd rfl (hb n z)
      | scalar s' => exact scalars_equal_iff rfl rfl
      | wrapped s' => exact scalars_equal_iff rfl rfl
      | _ => simp [equalsBy, isNull, scalar?, meaning?]
  | _ => cases ha

end Value

/-! Lists and maps that share their schemas -/

/-- Whether exchanged elements are read by the one schema and messages by the other. -/
def Items.Uses (x : Option Protobuf.Schema) (p : Protobuf.Schema) : Items → Prop
  | .exchange s _ => s = x
  | .protobuf s _ => s = p
  | _ => True

/-- Whether exchanged entries are read by the one schema and messages by the other. -/
def Entries.Uses (x : Option Protobuf.Schema) (p : Protobuf.Schema) : Entries → Prop
  | .exchange s _ => s = x
  | .protobuf s _ => s = p
  | _ => True

/-- Whether entries all read without a fault, as values at canonical keys. -/
def Entries.ReadAs (entries : Entries) (ps : List (Key × Value)) : Prop :=
  List.Forall₂ (fun e p => Entries.keyOf? e.1 = some p.1 ∧ e.2 = .ok p.2) (entries.read 0) ps

/-- Whether maps have as many entries, and each on the left one on the right with its
key and an equal value. -/
def EntriesAgree (eq : Value → Value → Bool) (ps qs : List (Key × Value)) : Prop :=
  ps.length = qs.length ∧ ∀ e ∈ ps, ∃ f ∈ qs, f.1 = e.1 ∧ eq e.2 f.2 = true

section Containers

variable {x : Option Protobuf.Schema} {p : Protobuf.Schema} {eq : Value → Value → Bool}

theorem Items.equals_eq_equalsRead {xs ys : Items} (hxs : xs.Uses x p) (hys : ys.Uses x p) :
    xs.equals eq ys = xs.equalsRead eq ys := by
  have halike : xs.ReadsAlike eq ys := by
    unfold Items.ReadsAlike
    split
    · exact fun y _ => .of_eq (congrArg (y.toValue · 0) (hxs.trans hys.symm))
    · exact fun y _ => .of_eq (congrArg (y.toValue · 0) (hxs.trans hys.symm))
    · trivial
  unfold Items.equals
  cases hsame : xs.equalsSame? eq ys with
  | none => rfl
  | some b => exact Items.eq_equalsRead_of_equalsSame? hsame halike

theorem Entries.equals_eq_equalsRead {es es' : Entries} (hes : es.Uses x p)
    (hes' : es'.Uses x p) : es.equals eq es' = es.equalsRead eq es' := by
  have halike : es.ReadsAlike eq es' := by
    unfold Entries.ReadsAlike
    split
    · exact fun e _ => .of_eq (congrArg (e.2.toValue · 0) (hes.trans hes'.symm))
    · exact fun e _ => .of_eq (congrArg (e.2.toValue · 0) (hes.trans hes'.symm))
    · trivial
  unfold Entries.equals
  cases hsame : es.equalsSame? eq es' with
  | none => rfl
  | some b => exact Entries.eq_equalsRead_of_equalsSame? hsame halike

theorem equalOutcomes_ok {v w : Value} :
    EqualOutcomes eq (.ok v) (.ok w) ↔ eq v w = true := by
  constructor
  · rintro ⟨v, w, ⟨⟩, ⟨⟩, hequal⟩
    exact hequal
  · exact fun hequal => ⟨v, w, rfl, rfl, hequal⟩

/-- Lists are equal if their elements are, place by place. -/
theorem Items.equals_iff {xs ys : Items} {vs ws : List Value} (hxs : xs.Uses x p)
    (hys : ys.Uses x p) (hvs : xs.read 0 = vs.map .ok) (hws : ys.read 0 = ws.map .ok) :
    xs.equals eq ys = true ↔ List.Forall₂ (fun v w => eq v w = true) vs ws := by
  rw [Items.equals_eq_equalsRead hxs hys, Items.equalsRead, equalLists_iff, hvs, hws,
    List.forall₂_map_left_iff, List.forall₂_map_right_iff]
  simp only [equalOutcomes_ok]

theorem valueAt?_iff {es : List (Outcome Value × Outcome Value)} {ps : List (Key × Value)}
    (hread : List.Forall₂ (fun e p => Entries.keyOf? e.1 = some p.1 ∧ e.2 = .ok p.2) es ps)
    (hkeys : (ps.map (·.1)).Nodup) {key : Key} {o : Outcome Value} :
    Entries.valueAt? key es = some o ↔ ∃ f ∈ ps, f.1 = key ∧ o = .ok f.2 := by
  induction hread with
  | nil => simp [Entries.valueAt?]
  | @cons e f es ps hhead htail ih =>
      obtain ⟨hkey, hvalue⟩ := hhead
      obtain ⟨hfresh, hrest⟩ := List.nodup_cons.mp hkeys
      by_cases heq : f.1 = key
      · have hfound : Entries.valueAt? key (e :: es) = some (.ok f.2) := by
          simp [Entries.valueAt?, hkey, heq, hvalue]
        rw [hfound]
        constructor
        · rintro ⟨⟩
          exact ⟨f, List.mem_cons_self, heq, rfl⟩
        · rintro ⟨g, hg, hgkey, rfl⟩
          rcases List.mem_cons.mp hg with rfl | hg
          · rfl
          · exact absurd (List.mem_map.mpr ⟨g, hg, hgkey.trans heq.symm⟩) hfresh
      · have hskip : Entries.valueAt? key (e :: es) = Entries.valueAt? key es := by
          simp [Entries.valueAt?, hkey, heq]
        rw [hskip, ih hrest]
        constructor
        · rintro ⟨g, hg, hfound⟩
          exact ⟨g, List.mem_cons_of_mem _ hg, hfound⟩
        · rintro ⟨g, hg, hgkey, rfl⟩
          rcases List.mem_cons.mp hg with rfl | hg
          · exact absurd hgkey heq
          · exact ⟨g, hg, hgkey, rfl⟩

theorem Entries.ReadAs.exists_mem {es : Entries} {ps : List (Key × Value)} (hread : es.ReadAs ps)
    {f : Key × Value} (hf : f ∈ ps) : ∃ k, (k, .ok f.2) ∈ es.read 0 := by
  unfold Entries.ReadAs at hread
  generalize es.read 0 = read at hread ⊢
  induction hread with
  | nil => cases hf
  | @cons e g read ps hhead _ ih =>
      rcases List.mem_cons.mp hf with rfl | hf
      · exact ⟨e.1, hhead.2 ▸ List.mem_cons_self⟩
      · obtain ⟨k, hk⟩ := ih hf
        exact ⟨k, List.mem_cons_of_mem _ hk⟩

theorem Entries.length_read (es : Entries) (id : Int) : (es.read id).length = es.length := by
  cases es <;> exact List.length_map _

/-- Related lists have related members throughout. -/
theorem forall_mem_iff_of_forall₂ {α β : Type} {R : α → β → Prop} {P : α → Prop} {Q : β → Prop}
    {xs : List α} {ys : List β} (hrelated : List.Forall₂ R xs ys)
    (hiff : ∀ a b, R a b → (P a ↔ Q b)) : (∀ a ∈ xs, P a) ↔ ∀ b ∈ ys, Q b := by
  induction hrelated with
  | nil => simp
  | cons hhead _ ih => rw [List.forall_mem_cons, List.forall_mem_cons, hiff _ _ hhead, ih]

theorem equalEntry_iff {es : List (Outcome Value × Outcome Value)} {ps : List (Key × Value)}
    (hread : List.Forall₂ (fun e p => Entries.keyOf? e.1 = some p.1 ∧ e.2 = .ok p.2) es ps)
    (hkeys : (ps.map (·.1)).Nodup) {e : Outcome Value × Outcome Value} {p : Key × Value}
    (hkey : Entries.keyOf? e.1 = some p.1) (hvalue : e.2 = .ok p.2) :
    EqualEntry eq es e ↔ ∃ f ∈ ps, f.1 = p.1 ∧ eq p.2 f.2 = true := by
  unfold EqualEntry
  rw [hkey, hvalue]
  constructor
  · rintro ⟨key, w, hkey, hw, hequal⟩
    obtain rfl := Option.some.inj hkey
    obtain ⟨f, hf, hfkey, rfl⟩ := (valueAt?_iff hread hkeys).mp hw
    exact ⟨f, hf, hfkey, equalOutcomes_ok.mp hequal⟩
  · rintro ⟨f, hf, hfkey, hequal⟩
    exact ⟨p.1, .ok f.2, rfl, (valueAt?_iff hread hkeys).mpr ⟨f, hf, hfkey, rfl⟩,
      equalOutcomes_ok.mpr hequal⟩

/-- Maps are equal if their entries agree. -/
theorem Entries.equals_iff {es es' : Entries} {ps qs : List (Key × Value)} (hes : es.Uses x p)
    (hes' : es'.Uses x p) (hps : es.ReadAs ps) (hqs : es'.ReadAs qs)
    (hkeys : (qs.map (·.1)).Nodup) : es.equals eq es' = true ↔ EntriesAgree eq ps qs := by
  have hlength : es.length = ps.length := (es.length_read 0).symm.trans hps.length_eq
  have hlength' : es'.length = qs.length := (es'.length_read 0).symm.trans hqs.length_eq
  rw [Entries.equals_eq_equalsRead hes hes', Entries.equalsRead, Bool.and_eq_true, beq_iff_eq,
    equalEntries_iff, hlength, hlength', EntriesAgree]
  refine and_congr_right fun _ => forall_mem_iff_of_forall₂ hps fun e f hef => ?_
  exact equalEntry_iff hqs hkeys hef.1 hef.2

end Containers

namespace EntriesAgree

variable {eq : Value → Value → Bool} {ps qs rs : List (Key × Value)}

theorem refl (hrefl : ∀ e ∈ ps, eq e.2 e.2 = true) : EntriesAgree eq ps ps :=
  ⟨rfl, fun e he => ⟨e, he, rfl, hrefl e he⟩⟩

/-- As keys are distinct and as many on both sides, none on the right is left over. -/
theorem symm (hps : (ps.map (·.1)).Nodup) (hqs : (qs.map (·.1)).Nodup)
    (hsymm : ∀ e ∈ ps, ∀ f ∈ qs, eq e.2 f.2 = true → eq f.2 e.2 = true)
    (hagree : EntriesAgree eq ps qs) : EntriesAgree eq qs ps := by
  obtain ⟨hlength, hentries⟩ := hagree
  have hsubset : ps.map (·.1) ⊆ qs.map (·.1) := by
    intro key hkey
    obtain ⟨e, he, rfl⟩ := List.mem_map.mp hkey
    obtain ⟨f, hf, hfkey, -⟩ := hentries e he
    exact List.mem_map.mpr ⟨f, hf, hfkey⟩
  have hperm : (ps.map (·.1)).Perm (qs.map (·.1)) :=
    (List.subperm_of_subset hps hsubset).perm_of_length_le (by simp [hlength])
  refine ⟨hlength.symm, fun f hf => ?_⟩
  obtain ⟨e, he, hekey⟩ := List.mem_map.mp (hperm.mem_iff.mpr (List.mem_map_of_mem hf))
  obtain ⟨g, hg, hgkey, hequal⟩ := hentries e he
  obtain rfl : g = f := List.inj_on_of_nodup_map hqs hg hf (hgkey.trans hekey)
  exact ⟨e, he, hekey, hsymm e he g hg hequal⟩

theorem trans
    (htrans : ∀ e ∈ ps, ∀ f ∈ qs, ∀ g ∈ rs, eq e.2 f.2 = true → eq f.2 g.2 = true →
      eq e.2 g.2 = true)
    (hpq : EntriesAgree eq ps qs) (hqr : EntriesAgree eq qs rs) : EntriesAgree eq ps rs := by
  refine ⟨hpq.1.trans hqr.1, fun e he => ?_⟩
  obtain ⟨f, hf, hfkey, hef⟩ := hpq.2 e he
  obtain ⟨g, hg, hgkey, hfg⟩ := hqr.2 f hf
  exact ⟨g, hg, hgkey.trans hfkey, htrans e he f hf g hg hef hfg⟩

end EntriesAgree

section Lists

variable {α : Type} {R : α → α → Prop} {us vs ws : List α}

theorem forall₂_symm_of_mem (hsymm : ∀ v ∈ vs, ∀ w ∈ ws, R v w → R w v)
    (hrelated : List.Forall₂ R vs ws) : List.Forall₂ R ws vs := by
  induction hrelated with
  | nil => exact .nil
  | cons hhead _ ih =>
      refine .cons (hsymm _ List.mem_cons_self _ List.mem_cons_self hhead) (ih fun v hv w hw => ?_)
      exact hsymm v (List.mem_cons_of_mem _ hv) w (List.mem_cons_of_mem _ hw)

theorem forall₂_trans_of_mem (htrans : ∀ u ∈ us, ∀ v ∈ vs, ∀ w ∈ ws, R u v → R v w → R u w)
    (huv : List.Forall₂ R us vs) (hvw : List.Forall₂ R vs ws) : List.Forall₂ R us ws := by
  induction huv generalizing ws with
  | nil => exact hvw
  | cons hhead _ ih =>
      cases hvw with
      | cons hhead' htail' =>
          refine .cons (htrans _ List.mem_cons_self _ List.mem_cons_self _ List.mem_cons_self
            hhead hhead') (ih (fun u hu v hv w hw => ?_) htail')
          exact htrans u (List.mem_cons_of_mem _ hu) v (List.mem_cons_of_mem _ hv) w
            (List.mem_cons_of_mem _ hw)

end Lists

/-! Plain values -/

namespace Value

/-- Values without messages and unset fields in them, whose elements all can be read.
Exchanged containers all have the schema `x`, those of messages the schema `p`. -/
inductive Plain (x : Option Protobuf.Schema) (p : Protobuf.Schema) : Value → Prop
  | flat {v : Value} (hflat : v.isFlat = true) : Plain x p v
  | list {ty : Ty} {xs : Items} {vs : List Value} (huses : xs.Uses x p)
      (hread : xs.read 0 = vs.map .ok) (hplain : ∀ v ∈ vs, Plain x p v) : Plain x p (.list ty xs)
  | map {ty : Ty} {es : Entries} {ps : List (Key × Value)} (huses : es.Uses x p)
      (hread : es.ReadAs ps) (hkeys : (ps.map (·.1)).Nodup) (hplain : ∀ e ∈ ps, Plain x p e.2) :
      Plain x p (.map ty es)

variable {x : Option Protobuf.Schema} {p : Protobuf.Schema} {a b c : Value}

theorem Plain.ne_typedNull (ha : a.Plain x p) (type : String) (zero : Value) :
    a ≠ .typedNull type zero := by
  rintro rfl
  cases ha with
  | flat hflat => cases hflat

/-- Only a list equals a list. -/
theorem exists_list_of_equals {ty : Ty} {xs : Items} (hb : b.Plain x p)
    (hequals : (Value.list ty xs).equals b = true) :
    ∃ ty' ys, ∃ ws : List Value, b = .list ty' ys ∧ ys.Uses x p ∧ ys.read 0 = ws.map .ok ∧
      ∀ w ∈ ws, w.Plain x p := by
  cases hb with
  | flat hflat =>
      rw [equals_eq] at hequals
      cases b with
      | typedNull type zero => cases hflat
      | list ty' items => cases hflat
      | map ty' entries => cases hflat
      | object schema m => cases hflat
      | _ => cases hequals
  | @list ty' ys ws huses hread hplain => exact ⟨ty', ys, ws, rfl, huses, hread, hplain⟩
  | map huses hread hkeys hplain =>
      rw [equals_eq] at hequals
      cases hequals

theorem exists_map_of_equals {ty : Ty} {es : Entries} (hb : b.Plain x p)
    (hequals : (Value.map ty es).equals b = true) :
    ∃ ty' es', ∃ qs : List (Key × Value), b = .map ty' es' ∧ es'.Uses x p ∧ es'.ReadAs qs ∧
      (qs.map (·.1)).Nodup ∧ ∀ e ∈ qs, e.2.Plain x p := by
  cases hb with
  | flat hflat =>
      rw [equals_eq] at hequals
      cases b with
      | typedNull type zero => cases hflat
      | list ty' items => cases hflat
      | map ty' entries => cases hflat
      | object schema m => cases hflat
      | _ => cases hequals
  | @map ty' es' qs huses hread hkeys hplain =>
      exact ⟨ty', es', qs, rfl, huses, hread, hkeys, hplain⟩
  | list huses hread hplain =>
      rw [equals_eq] at hequals
      cases hequals

theorem equals_list_iff {ty ty' : Ty} {xs ys : Items} {vs ws : List Value} (hxs : xs.Uses x p)
    (hys : ys.Uses x p) (hvs : xs.read 0 = vs.map .ok) (hws : ys.read 0 = ws.map .ok) :
    (Value.list ty xs).equals (.list ty' ys) = true ↔
      List.Forall₂ (fun v w => v.equals w = true) vs ws := by
  rw [equals_eq]
  exact Items.equals_iff hxs hys hvs hws

theorem equals_map_iff {ty ty' : Ty} {es es' : Entries} {ps qs : List (Key × Value)}
    (hes : es.Uses x p) (hes' : es'.Uses x p) (hps : es.ReadAs ps) (hqs : es'.ReadAs qs)
    (hkeys : (qs.map (·.1)).Nodup) :
    (Value.map ty es).equals (.map ty' es') = true ↔ EntriesAgree equals ps qs := by
  rw [equals_eq]
  exact Entries.equals_iff hes hes' hps hqs hkeys

theorem Plain.equals_symm (ha : a.Plain x p) (hb : b.Plain x p) (hab : a.equals b = true) :
    b.equals a = true := by
  induction ha generalizing b with
  | flat hflat =>
      obtain ⟨m, hm, hm'⟩ := (equals_iff_of_isFlat hflat hb.ne_typedNull).mp hab
      have ha := (Plain.flat (x := x) (p := p) hflat).ne_typedNull
      exact (equals_iff_of_isFlat (isFlat_of_meaning? hm') ha).mpr ⟨m, hm', hm⟩
  | @list ty xs vs huses hread hplain ih =>
      obtain ⟨ty', ys, ws, rfl, huses', hread', hplain'⟩ := exists_list_of_equals hb hab
      rw [equals_list_iff huses huses' hread hread'] at hab
      rw [equals_list_iff huses' huses hread' hread]
      exact forall₂_symm_of_mem (fun v hv w hw => ih v hv (hplain' w hw)) hab
  | @map ty es ps huses hread hkeys hplain ih =>
      obtain ⟨ty', es', qs, rfl, huses', hread', hkeys', hplain'⟩ := exists_map_of_equals hb hab
      rw [equals_map_iff huses huses' hread hread' hkeys'] at hab
      rw [equals_map_iff huses' huses hread' hread hkeys]
      exact hab.symm hkeys hkeys' fun e he f hf => ih e he (hplain' f hf)

theorem Plain.equals_trans (ha : a.Plain x p) (hb : b.Plain x p) (hc : c.Plain x p)
    (hab : a.equals b = true) (hbc : b.equals c = true) : a.equals c = true := by
  induction ha generalizing b c with
  | flat hflat =>
      obtain ⟨m, hm, hbm⟩ := (equals_iff_of_isFlat hflat hb.ne_typedNull).mp hab
      have hbflat := isFlat_of_meaning? hbm
      obtain ⟨n, hbn, hn⟩ := (equals_iff_of_isFlat hbflat hc.ne_typedNull).mp hbc
      obtain rfl : m = n := Option.some.inj (hbm.symm.trans hbn)
      exact (equals_iff_of_isFlat hflat hc.ne_typedNull).mpr ⟨m, hm, hn⟩
  | @list ty xs us huses hread hplain ih =>
      obtain ⟨ty', ys, vs, rfl, huses', hread', hplain'⟩ := exists_list_of_equals hb hab
      obtain ⟨ty'', zs, ws, rfl, huses'', hread'', hplain''⟩ := exists_list_of_equals hc hbc
      rw [equals_list_iff huses huses' hread hread'] at hab
      rw [equals_list_iff huses' huses'' hread' hread''] at hbc
      rw [equals_list_iff huses huses'' hread hread'']
      exact forall₂_trans_of_mem
        (fun u hu v hv w hw => ih u hu (hplain' v hv) (hplain'' w hw)) hab hbc
  | @map ty es ps huses hread hkeys hplain ih =>
      obtain ⟨ty', es', qs, rfl, huses', hread', hkeys', hplain'⟩ := exists_map_of_equals hb hab
      obtain ⟨ty'', es'', rs, rfl, huses'', hread'', hkeys'', hplain''⟩ :=
        exists_map_of_equals hc hbc
      rw [equals_map_iff huses huses' hread hread' hkeys'] at hab
      rw [equals_map_iff huses' huses'' hread' hread'' hkeys''] at hbc
      rw [equals_map_iff huses huses'' hread hread'' hkeys'']
      exact hab.trans (fun e he f hf g hg => ih e he (hplain' f hf) (hplain'' g hg)) hbc

/-- Whether no number anywhere in a value is not-a-number. -/
def NaNFree (v : Value) : Prop :=
  ∀ w s, Relation.ReflTransGen Holds v w → w.scalar? = some s → s.isNaN = false

theorem NaNFree.of_holds {part : Value} (ha : a.NaNFree) (hpart : a.Holds part) :
    part.NaNFree :=
  fun w s hw hs => ha w s (.head hpart hw) hs

theorem nanFree_of (hself : ∀ s, a.scalar? = some s → s.isNaN = false)
    (hparts : ∀ part, a.Holds part → part.NaNFree) : a.NaNFree := by
  intro w s hw hs
  rcases hw.cases_head with rfl | ⟨part, hpart, hw⟩
  · exact hself s hs
  · exact hparts part hpart w s hw hs

theorem nanFree_of_scalar? {s : Scalar} (ha : a.scalar? = some s) (hs : s.isNaN = false) :
    a.NaNFree := by
  refine nanFree_of (fun s' hs' => Option.some.inj (ha.symm.trans hs') ▸ hs) fun part hpart => ?_
  cases hpart <;> cases ha

/-- A flat value stands for something, not-a-number apart. -/
theorem NaNFree.exists_meaning (ha : a.NaNFree) (hflat : a.isFlat = true) :
    ∃ m, a.meaning? = some m := by
  have hscalar (s : Scalar) (hs : a.scalar? = some s) : ∃ m, a.meaning? = some m := by
    obtain ⟨m, hm⟩ := Scalar.exists_meaning (ha a s .refl hs)
    exact ⟨.scalar m, by rw [meaning?_of_scalar? hs, hm]; rfl⟩
  cases a with
  | null => exact ⟨_, rfl⟩
  | timestamp t => exact ⟨_, rfl⟩
  | duration d => exact ⟨_, rfl⟩
  | type t => exact ⟨_, rfl⟩
  | scalar s => exact hscalar s rfl
  | wrapped s => exact hscalar s rfl
  | _ => cases hflat

theorem Plain.equals_refl (ha : a.Plain x p) (hnan : a.NaNFree) : a.equals a = true := by
  induction ha with
  | @flat v hflat =>
      obtain ⟨m, hm⟩ := hnan.exists_meaning hflat
      have hv := (Plain.flat (x := x) (p := p) hflat).ne_typedNull
      exact (equals_iff_of_isFlat hflat hv).mpr ⟨m, hm, hm⟩
  | @list ty xs vs huses hread hplain ih =>
      rw [equals_list_iff huses huses hread hread]
      refine List.forall₂_same.mpr fun v hv => ih v hv (hnan.of_holds (.element ?_))
      exact hread ▸ List.mem_map_of_mem hv
  | @map ty es ps huses hread hkeys hplain ih =>
      rw [equals_map_iff huses huses hread hread hkeys]
      refine EntriesAgree.refl fun e he => ih e he ?_
      obtain ⟨k, hk⟩ := hread.exists_mem he
      exact hnan.of_holds (.entry hk)

/-- Among plain values, equality is symmetric, transitive and, but for not-a-number,
reflexive. -/
theorem equals_partial_equivalence (x : Option Protobuf.Schema) (p : Protobuf.Schema) :
    (∀ a b : Value, a.Plain x p → b.Plain x p → a.equals b = b.equals a) ∧
    (∀ a b c : Value, a.Plain x p → b.Plain x p → c.Plain x p →
      a.equals b = true → b.equals c = true → a.equals c = true) ∧
    ∀ a : Value, a.Plain x p → a.NaNFree → a.equals a = true :=
  ⟨fun _ _ ha hb => Bool.eq_iff_iff.mpr ⟨ha.equals_symm hb, hb.equals_symm ha⟩,
    fun _ _ _ ha hb hc => ha.equals_trans hb hc, fun _ ha => ha.equals_refl⟩

end Value

namespace EquivalenceWitness

def schema : Protobuf.Schema := ⟨[]⟩

/-- `{"k": [1, 2]}`, with one number wrapped. -/
def written : Value :=
  .map .dynMap (.values [(.string "k", .ofList [.int 1, .wrapped (.uint 2)])])

def json : Value := .map .jsonObject (.json [("k", .array [.ofInt 1, .double (.ofInt 2)])])

/-- The same out of the field of a message. -/
def stored : Value :=
  .map .dynMap (.protobuf schema [(.string "k", .list [.double (.ofInt 1), .int32 2])])

/-- A map from one key to two numbers is plain, whatever they are held in. -/
theorem plain_of_read {ty ty' : Ty} {es : Entries} (xs : Items) (v w : Value)
    (hes : es.Uses none schema) (hxs : xs.Uses none schema)
    (hread : es.ReadAs [(.string "k", .list ty' xs)]) (helements : xs.read 0 = [v, w].map .ok)
    (hv : v.isFlat = true) (hw : w.isFlat = true) : (Value.map ty es).Plain none schema := by
  refine .map hes hread (by simp) (List.forall_mem_singleton.mpr ?_)
  refine .list hxs helements ?_
  exact List.forall_mem_cons.mpr ⟨.flat hv, List.forall_mem_singleton.mpr (.flat hw)⟩

theorem written_plain : written.Plain none schema :=
  plain_of_read (.values [.int 1, .wrapped (.uint 2)]) (.int 1) (.wrapped (.uint 2))
    trivial trivial (.cons ⟨rfl, rfl⟩ .nil) rfl rfl rfl

theorem json_plain : json.Plain none schema :=
  plain_of_read (.json [.ofInt 1, .double (.ofInt 2)]) (.int 1) (.double (.ofInt 2))
    trivial trivial (.cons ⟨rfl, rfl⟩ .nil) rfl rfl rfl

theorem stored_plain : stored.Plain none schema :=
  plain_of_read (.protobuf schema [.double (.ofInt 1), .int32 2]) (.double (.ofInt 1)) (.int 2)
    rfl rfl (.cons ⟨rfl, rfl⟩ .nil) rfl rfl rfl

theorem written_nanFree : written.NaNFree := by
  refine Value.nanFree_of (fun s hs => nomatch hs) fun part hpart => ?_
  cases hpart with
  | entry hv =>
      cases List.mem_singleton.mp hv
      refine Value.nanFree_of (fun s hs => nomatch hs) fun element helement => ?_
      cases helement with
      | element hv =>
          rcases List.mem_cons.mp hv with heq | hv
          · cases heq
            exact Value.nanFree_of_scalar? rfl rfl
          · cases List.mem_singleton.mp hv
            exact Value.nanFree_of_scalar? rfl rfl

theorem written_equals_stored :
    written.equals json = true ∧ json.equals stored = true ∧ written.equals stored = true ∧
      stored.equals written = true ∧ written.equals written = true := by
  obtain ⟨hsymm, htrans, hrefl⟩ := Value.equals_partial_equivalence none schema
  have hjson : written.equals json = true := by decide +kernel
  have hstored : json.equals stored = true := by decide +kernel
  have hboth := htrans written json stored written_plain json_plain stored_plain hjson hstored
  exact ⟨hjson, hstored, hboth, hsymm written stored written_plain stored_plain ▸ hboth,
    hrefl written written_plain written_nanFree⟩

end EquivalenceWitness

end CommonExpr
