import CommonExpr.Proofs.Func.Selection
import CommonExpr.Proofs.Value.Wrapping

/-!
Calls and wrappers around their arguments.

A call takes scalars out of their wrappers before it selects an overload and runs it, so
wrappers matter only within lists.  Main statement: calls of a function agree wherever
arguments differ only in wrappers, if each of its overloads respects them.
-/

namespace CommonExpr

/-! Short lists that are related -/

theorem exists_single {α β : Type} {R : α → β → Prop} {a : α} {bs : List β}
    (hrelated : List.Forall₂ R [a] bs) : ∃ b, bs = [b] ∧ R a b := by
  obtain ⟨b, rest, hhead, hrest, rfl⟩ := List.forall₂_cons_left_iff.mp hrelated
  cases hrest
  exact ⟨b, rfl, hhead⟩

theorem exists_pair {α β : Type} {R : α → β → Prop} {a a' : α} {bs : List β}
    (hrelated : List.Forall₂ R [a, a'] bs) : ∃ b b', bs = [b, b'] ∧ R a b ∧ R a' b' := by
  obtain ⟨b, rest, hhead, hrest, rfl⟩ := List.forall₂_cons_left_iff.mp hrelated
  obtain ⟨b', rfl, hhead'⟩ := exists_single hrest
  exact ⟨b, b', rfl, hhead, hhead'⟩

/-! Outcomes of calls -/

/-- Whether values are equal to the same others, lists being read by the schemas, and to each
other as far as the first is equal to itself. -/
structure Value.Interchanges (x : Option Protobuf.Schema) (p : Protobuf.Schema) (v w : Value) :
    Prop where
  equals_second : v.equals w = v.equals v
  equals_first : w.equals v = v.equals v
  left_eq : ∀ u : Value, u.ListUses x p → v.equals u = w.equals u
  right_eq : ∀ u : Value, u.ListUses x p → u.equals v = u.equals w

/-- Whether outcomes are values that interchange or are both faults. -/
inductive Agrees (x : Option Protobuf.Schema) (p : Protobuf.Schema) :
    Outcome Value → Outcome Value → Prop
  | values {v w : Value} (hvalues : v.Interchanges x p w) : Agrees x p (.ok v) (.ok w)
  | faults (f g : Fault) : Agrees x p (.error f) (.error g)

/-- Whether a relation holds of each outcome and itself, and of any two faults. -/
structure Lax (Q : Outcome Value → Outcome Value → Prop) : Prop where
  refl : ∀ o, Q o o
  faults : ∀ f g, Q (.error f) (.error g)

variable {x : Option Protobuf.Schema} {p : Protobuf.Schema} {shared : Prop}
  {Q : Outcome Value → Outcome Value → Prop}

theorem Value.Interchanges.refl (v : Value) : v.Interchanges x p v where
  equals_second := rfl
  equals_first := rfl
  left_eq _ _ := rfl
  right_eq _ _ := rfl

/-- The declared types of lists do not matter here. -/
theorem Items.Alike.interchange {xs ys : Items} (hitems : xs.Alike x p shared ys)
    (hxs : shared → xs.Uses x p) (ty ty' : Ty) :
    (Value.list ty xs).Interchanges x p (.list ty' ys) where
  equals_second := (Value.equals_list_right hitems (u := .list ty xs) hxs).symm
  equals_first := (Value.list_equals_left hitems (u := .list ty xs) hxs).symm
  left_eq _ hu := Value.list_equals_left hitems fun _ => hu
  right_eq _ hu := Value.equals_list_right hitems fun _ => hu

theorem Value.Alike.interchange {v w : Value} (halike : v.Alike x p shared w)
    (hv : shared → v.ListUses x p) : v.Interchanges x p w := by
  cases halike with
  | same => exact .refl v
  | list hty hty' hitems => exact hitems.interchange hv _ _

theorem agrees_lax : Lax (Agrees x p) where
  refl o := by
    cases o with
    | error f => exact .faults f f
    | ok v => exact .values (.refl v)
  faults := .faults

theorem Lax.rel_refl (hQ : Lax Q) (result : Option (Outcome Value)) :
    Option.Rel Q result result := by
  cases result with
  | none => exact .none
  | some o => exact .some (hQ.refl o)

/-! Calls on arguments that differ in wrappers -/

/-- Whether an overload gives related outcomes where arguments differ in wrappers. -/
def Overload.Respects (x : Option Protobuf.Schema) (p : Protobuf.Schema)
    (Q : Outcome Value → Outcome Value → Prop) (o : Overload) : Prop :=
  ∀ id args args', Rewrapped x p args args' → o.Applies (args.map Value.unwrap) →
    Q (o.run id args) (o.run id args')

def Func.Respects (x : Option Protobuf.Schema) (p : Protobuf.Schema)
    (Q : Outcome Value → Outcome Value → Prop) (f : Func) : Prop :=
  ∀ o ∈ f.overloads, o.Respects x p Q

/-- The outcome of a function called on values. -/
def Func.call (f : Func) (id : Int) (args : List Value) : Outcome Value :=
  dispatchFirst id f.name (args.map .ok) [f]

theorem takes_congr {params : List Ty} {vs ws : List Value}
    (halike : List.Forall₂ (Value.Alike x p shared) vs ws) :
    List.Forall₂ Ty.Takes params vs ↔ List.Forall₂ Ty.Takes params ws := by
  induction halike generalizing params with
  | nil => exact Iff.rfl
  | cons hhead _ ih =>
      cases params with
      | nil => simp
      | cons param params =>
          rw [List.forall₂_cons, List.forall₂_cons, ih, Ty.Takes, Ty.Takes, hhead.ty_name_eq]

/-- Wrappers do not decide which overload runs. -/
theorem Rewrapped.first?_eq {args args' : List Value} (hargs : Rewrapped x p args args')
    (overloads : List Overload) :
    Overload.first? overloads args = Overload.first? overloads args' := by
  have happlies (o : Overload) :
      o.Applies (args.map Value.unwrap) ↔ o.Applies (args'.map Value.unwrap) := by
    rw [Overload.Applies, Overload.Applies, takes_congr hargs, hargs.length_eq]
  simp only [Overload.first?, happlies]

/-- A call runs the first overload that applies. -/
theorem Func.call_eq_run {f : Func} {args : List Value} {o : Overload}
    (hfirst : Overload.first? f.overloads args = some o) (id : Int) :
    f.call id args = o.run id args := by
  rw [call, dispatchFirst_values, List.flatMap_singleton, hfirst]

/-- A call fails if no overload applies. -/
theorem Func.call_eq_noOverload {f : Func} {args : List Value}
    (hnone : Overload.first? f.overloads args = none) (id : Int) :
    f.call id args = noOverload id f.name (args.map Value.unwrap) := by
  rw [call, dispatchFirst_values, List.flatMap_singleton, hnone]

theorem Func.call_of_applies {name : String} {o : Overload} {rest : List Overload}
    {args : List Value} (happlies : o.Applies (args.map Value.unwrap)) (id : Int) :
    (Func.mk name (o :: rest)).call id args = o.run id args := by
  refine Func.call_eq_run ?_ id
  rw [Overload.first?]
  exact List.find?_cons_of_pos (decide_eq_true happlies)

theorem Func.call_of_length {name : String} {o : Overload} {rest : List Overload}
    {args : List Value} (hlength : o.params.length ≠ args.length) (id : Int) :
    (Func.mk name (o :: rest)).call id args = (Func.mk name rest).call id args := by
  have hfirst : Overload.first? (o :: rest) args = Overload.first? rest args := by
    refine List.find?_cons_of_neg ?_
    simp [Overload.Applies, hlength]
  simp only [call, dispatchFirst_values, List.flatMap_singleton, hfirst]

theorem Overload.mem_of_first? {overloads : List Overload} {args : List Value} {o : Overload}
    (hfirst : first? overloads args = some o) :
    o ∈ overloads ∧ o.Applies (args.map Value.unwrap) := by
  rw [first?] at hfirst
  exact ⟨List.mem_of_find?_eq_some hfirst, by simpa using List.find?_some hfirst⟩

/-- What a call yields, an overload yields that applies. -/
theorem Func.exists_run_of_call {f : Func} {id : Int} {args : List Value} {v : Value}
    (hcall : f.call id args = .ok v) :
    ∃ o ∈ f.overloads, o.Applies (args.map Value.unwrap) ∧ o.run id args = .ok v := by
  cases hfirst : Overload.first? f.overloads args with
  | none => cases (call_eq_noOverload hfirst id).symm.trans hcall
  | some o =>
      obtain ⟨ho, happlies⟩ := Overload.mem_of_first? hfirst
      exact ⟨o, ho, happlies, (call_eq_run hfirst id).symm.trans hcall⟩

/-- Calls run one overload on both arguments, or none on either. -/
theorem Func.call_respects (hQ : Lax Q) {f : Func} (hf : f.Respects x p Q)
    {args args' : List Value} (hargs : Rewrapped x p args args') (id : Int) :
    Q (f.call id args) (f.call id args') := by
  have hsame := hargs.first?_eq f.overloads
  cases hfirst : Overload.first? f.overloads args with
  | none =>
      rw [call_eq_noOverload hfirst, call_eq_noOverload (hsame.symm.trans hfirst)]
      exact hQ.faults _ _
  | some o =>
      rw [call_eq_run hfirst, call_eq_run (hsame.symm.trans hfirst)]
      obtain ⟨ho, happlies⟩ := Overload.mem_of_first? hfirst
      exact hf o ho id args args' hargs happlies

/-! Overloads that take no lists -/

/-- Whether a parameter takes neither lists nor values of all types. -/
def Ty.isBare (param : Ty) : Bool := param != .dyn && param.name != "list"

def Overload.isBare (o : Overload) : Bool := o.isStrict && o.params.all Ty.isBare

def Func.isBare (f : Func) : Bool := f.overloads.all Overload.isBare

/-- Values that bare parameters take differ in no wrappers. -/
theorem eq_of_bare {params : List Ty} (hbare : ∀ param ∈ params, param.isBare = true)
    {vs ws : List Value} (htakes : List.Forall₂ Ty.Takes params vs)
    (halike : List.Forall₂ (Value.Alike x p shared) vs ws) : vs = ws := by
  induction htakes generalizing ws with
  | nil => cases halike; rfl
  | cons hhead _ ih =>
      obtain ⟨hparam, hparams⟩ := List.forall_mem_cons.mp hbare
      cases halike with
      | cons hvalue hvalues =>
          rw [ih hparams hvalues]
          cases hvalue with
          | same => rfl
          | list hty hty' hitems =>
              rw [Ty.isBare, Bool.and_eq_true, bne_iff_ne, bne_iff_ne] at hparam
              rcases hhead with hdyn | hname
              · exact absurd hdyn hparam.1
              · exact absurd (hname.trans hty) hparam.2

theorem Overload.respects_of_bare (hQ : Lax Q) {o : Overload} (hbare : o.isBare = true) :
    o.Respects x p Q := by
  intro id args args' hargs happlies
  obtain ⟨hstrict, hparams⟩ := Bool.and_eq_true_iff.mp hbare
  have hvalues := eq_of_bare (List.all_eq_true.mp hparams) (happlies.2 hstrict) hargs
  cases hbody : o.body with
  | lenient body => simp [isStrict, hbody] at hstrict
  | strict body =>
      simp only [run, hbody, hvalues]
      exact hQ.refl _

theorem Func.respects_of_bare (hQ : Lax Q) {f : Func} (hbare : f.isBare = true) :
    f.Respects x p Q :=
  fun o ho => Overload.respects_of_bare hQ (List.all_eq_true.mp hbare o ho)

/-- A function of a library respects wrappers, or is among those that may be given lists. -/
theorem Func.respects_or_mem (hQ : Lax Q) {library rest : List Func}
    (hrest : library.filter (fun f => !f.isBare) = rest) {f : Func} (hf : f ∈ library) :
    f.Respects x p Q ∨ f ∈ rest := by
  cases hbare : f.isBare with
  | true => exact Or.inl (respects_of_bare hQ hbare)
  | false =>
      rw [← hrest, List.mem_filter]
      exact Or.inr ⟨hf, by simp [hbare]⟩

theorem Func.all_respect (hQ : Lax Q) {library rest : List Func}
    (hrest : library.filter (fun f => !f.isBare) = rest)
    (hrespect : ∀ f ∈ rest, f.Respects x p Q) : ∀ f ∈ library, f.Respects x p Q :=
  fun f hf => (respects_or_mem hQ hrest hf).elim id (hrespect f)

/-! Overloads on values -/

theorem Overload.respects_ofValues (hQ : Lax Q) {function id : String} {params : List Ty}
    {run : (id : Int) → List Value → Option (Outcome Value)}
    (hrun : ∀ node vs ws, ArgsAlike x p vs ws → List.Forall₂ Ty.Takes params vs →
      Option.Rel Q (run node vs) (run node ws)) :
    (Overload.ofValues function id params run).Respects x p Q := by
  intro node args args' hargs happlies
  have hrel := hrun node _ _ hargs (happlies.2 rfl)
  simp only [Overload.run, ofValues]
  generalize run node (args.map Value.unwrap) = result at hrel ⊢
  generalize run node (args'.map Value.unwrap) = result' at hrel ⊢
  cases hrel with
  | none => exact hQ.faults _ _
  | some ho => exact ho

/-- An overload of one parameter respects wrappers if it does on alike values. -/
theorem Overload.respects_single (hQ : Lax Q) {function id : String} {param : Ty}
    {run : (id : Int) → List Value → Option (Outcome Value)}
    (hrun : ∀ node v w, ArgsAlike x p [v] [w] → Option.Rel Q (run node [v]) (run node [w])) :
    (Overload.ofValues function id [param] run).Respects x p Q := by
  refine respects_ofValues hQ fun node vs ws halike htakes => ?_
  obtain ⟨v, rfl, -⟩ := exists_single htakes
  obtain ⟨w, rfl, -⟩ := exists_single halike
  exact hrun node v w halike

/-- An overload of two parameters respects wrappers if it does on alike values. -/
theorem Overload.respects_pair (hQ : Lax Q) {function id : String} {param param' : Ty}
    {run : (id : Int) → List Value → Option (Outcome Value)}
    (hrun : ∀ node a b a' b', ArgsAlike x p [a, b] [a', b'] →
      Option.Rel Q (run node [a, b]) (run node [a', b'])) :
    (Overload.ofValues function id [param, param'] run).Respects x p Q := by
  refine respects_ofValues hQ fun node vs ws halike htakes => ?_
  obtain ⟨a, b, rfl, -, -⟩ := exists_pair htakes
  obtain ⟨a', b', rfl, -, -⟩ := exists_pair halike
  exact hrun node a b a' b' halike

end CommonExpr
