import CommonExpr.Proofs.Fault
import CommonExpr.Proofs.Plan.Steps
import CommonExpr.Proofs.Plan.Verdict
import Mathlib.Data.List.Forall2

/-!
Partial evaluation is sound.

A host that does not know a variable binds it to an unknown.  An outcome refines
another if it is the same whenever the other is a value: what was a fault may
have become anything.  Every step of evaluation keeps this order as long as no
overload looks at the faults of its arguments.  Main statement: a value found
under an activation is found again under each one that knows more.
-/

namespace CommonExpr

/-- A value stays what it is, a fault may become anything. -/
def Outcome.Refines {α : Type} (a b : Outcome α) : Prop := ∀ v, a = .ok v → b = .ok v

namespace Outcome.Refines

variable {α β : Type}

theorem refl (a : Outcome α) : Outcome.Refines a a := fun _ hok => hok

theorem of_error (f : Fault) (b : Outcome α) : Outcome.Refines (.error f) b := by
  intro v hok
  cases hok

/-- Refinement composes along evaluation. -/
theorem bind {a b : Outcome α} {f g : α → Outcome β} (hab : Outcome.Refines a b)
    (hfg : ∀ v, Outcome.Refines (f v) (g v)) : Outcome.Refines (a >>= f) (b >>= g) := by
  cases a with
  | error fault => exact of_error fault _
  | ok v =>
      rw [hab v rfl]
      exact hfg v

theorem map {a b : Outcome α} (f : α → β) (hab : Outcome.Refines a b) :
    Outcome.Refines (f <$> a) (f <$> b) := by
  cases a with
  | error fault => exact of_error fault _
  | ok v =>
      rw [hab v rfl]
      exact refl _

/-- Values leave no room for refinement. -/
theorem eq_map_ok {values : List α} {outcomes : List (Outcome α)}
    (hrefines : List.Forall₂ Outcome.Refines (values.map .ok) outcomes) :
    outcomes = values.map .ok := by
  induction values generalizing outcomes with
  | nil => exact List.forall₂_nil_left_iff.mp hrefines
  | cons head tail ih =>
      obtain ⟨o, rest, hhead, htail, rfl⟩ := List.forall₂_cons_left_iff.mp hrefines
      rw [hhead head rfl, ih htail, List.map_cons]

theorem collect {as bs : List (Outcome α)} (hrefines : List.Forall₂ Outcome.Refines as bs) :
    Outcome.Refines (collect as) (collect bs) := by
  intro values hok
  rw [collect_eq_ok_iff] at hok ⊢
  subst hok
  exact eq_map_ok hrefines

end Outcome.Refines

theorem logic_refines {id : Int} {function : String} {decisive : Bool}
    {left right left' right' : Outcome Value} (hleft : Outcome.Refines left left')
    (hright : Outcome.Refines right right') :
    Outcome.Refines (logic id function decisive left right)
      (logic id function decisive left' right') := by
  intro v hok
  have hl := hleft.map Value.unwrap
  have hr := hright.map Value.unwrap
  rw [logic_eq_ok_iff] at hok ⊢
  rcases hok with ⟨hv, hdecided | hdecided⟩ | ⟨hv, hpassed, hpassed'⟩
  · exact Or.inl ⟨hv, Or.inl (hl _ hdecided)⟩
  · exact Or.inl ⟨hv, Or.inr (hr _ hdecided)⟩
  · exact Or.inr ⟨hv, hl _ hpassed, hr _ hpassed'⟩

/-- Whether no overload of a function sees the faults of its arguments. -/
def Func.isStrict (f : Func) : Bool := f.overloads.all Overload.isStrict

/-- A strict overload is never run on faults. -/
theorem Func.dispatchAmong_of_collect_error (id : Int) {args : List (Outcome Value)}
    {f : Fault} (hargs : collect args = .error f) (overloads : List Overload)
    (hstrict : overloads.all Overload.isStrict) :
    Func.dispatchAmong id args overloads = none ∨
      Func.dispatchAmong id args overloads = some (.error f) := by
  cases overloads with
  | nil => exact Or.inl rfl
  | cons o rest =>
      rw [List.all_cons, Bool.and_eq_true, Overload.isStrict] at hstrict
      rw [Func.dispatchAmong]
      cases hbody : o.body with
      | lenient run => simp [hbody] at hstrict
      | strict run =>
          right
          simp only [hargs]

/-- A call without lenient overloads has the merged fault of its arguments. -/
theorem Func.dispatchFirst_of_collect_error {id : Int} {name : String}
    {args : List (Outcome Value)} {f : Fault} (hargs : collect args = .error f)
    (candidates : List Func) (hstrict : candidates.all Func.isStrict) :
    Func.dispatchFirst id name args candidates = .error f := by
  induction candidates with
  | nil =>
      rw [Func.dispatchFirst]
      simp only [hargs]
  | cons g rest ih =>
      rw [List.all_cons, Bool.and_eq_true, Func.isStrict] at hstrict
      rw [Func.dispatchFirst, Func.dispatch]
      rcases Func.dispatchAmong_of_collect_error id hargs g.overloads hstrict.1 with
        hnone | hfault
      · rw [hnone]
        exact ih hstrict.2
      · rw [hfault]

theorem Func.dispatchFirst_refines {id : Int} {name : String}
    {args args' : List (Outcome Value)} (hargs : List.Forall₂ Outcome.Refines args args')
    (candidates : List Func) (hstrict : candidates.all Func.isStrict) :
    Outcome.Refines (Func.dispatchFirst id name args candidates)
      (Func.dispatchFirst id name args' candidates) := by
  cases hcollect : collect args with
  | error f =>
      rw [Func.dispatchFirst_of_collect_error hcollect candidates hstrict]
      exact Outcome.Refines.of_error f _
  | ok values =>
      rw [collect_eq_ok_iff] at hcollect
      subst hcollect
      rw [Outcome.Refines.eq_map_ok hargs]
      exact Outcome.Refines.refl _

mutual

/-- Whether no call of a plan sees the faults of its arguments. -/
def Plan.isStrict : Plan → Bool
  | .value _ _ => true
  | .attribute a => a.isStrict
  | .has _ operand _ => operand.isStrict
  | .and _ left right => left.isStrict && right.isStrict
  | .or _ left right => left.isStrict && right.isStrict
  | .call _ _ candidates args => candidates.all Func.isStrict && Plan.areStrict args
  | .list _ elements => Plan.areStrict elements
  | .map _ entries => Plan.areStrictEntries entries
  | .message _ _ _ fields => Plan.areStrictFields fields
  | .failure _ _ => true

def Attribute.isStrict : Attribute → Bool
  | .named _ _ _ _ readings => Reading.areStrict readings
  | .relative _ operand accesses => operand.isStrict && Access.areStrict accesses
  | .conditional _ condition yes no => condition.isStrict && yes.isStrict && no.isStrict

def Reading.areStrict : List Reading → Bool
  | [] => true
  | .mk _ accesses :: rest => Access.areStrict accesses && Reading.areStrict rest

def Access.areStrict : List Access → Bool
  | [] => true
  | .field _ _ :: rest => Access.areStrict rest
  | .index _ _ :: rest => Access.areStrict rest
  | .computed _ key :: rest => key.isStrict && Access.areStrict rest

def Plan.areStrict : List Plan → Bool
  | [] => true
  | p :: rest => p.isStrict && Plan.areStrict rest

def Plan.areStrictEntries : List (Plan × Plan) → Bool
  | [] => true
  | (k, v) :: rest => k.isStrict && v.isStrict && Plan.areStrictEntries rest

def Plan.areStrictFields : List (String × Plan) → Bool
  | [] => true
  | (_, p) :: rest => p.isStrict && Plan.areStrictFields rest

end

/-- Another activation may bind the names anew that this one binds to a fault;
all others mean the same in both. -/
def Activation.Refines (vars vars' : Activation) : Prop :=
  ∀ name, (vars.resolve name = none ∨ ∃ v, vars.resolve name = some (.ok v)) →
    vars'.resolve name = vars.resolve name

/-- A look-up without a fault met no name that is bound to one. -/
theorem lookupName_of_refines {vars vars' : Activation} (hvars : vars.Refines vars')
    (provider : Provider) (id : Int) (bare : Bool) (names : List String)
    (hok : ∀ f, lookupName vars provider id bare names ≠ some (.error f)) :
    lookupName vars' provider id bare names = lookupName vars provider id bare names := by
  induction names with
  | nil => rfl
  | cons name rest ih =>
      rw [lookupName] at hok ⊢
      rw [lookupName]
      cases hresolve : vars.resolve name with
      | some bound =>
          cases bound with
          | error f => simp [hresolve] at hok
          | ok v => rw [hvars name (Or.inr ⟨v, hresolve⟩), hresolve]
      | none =>
          rw [hvars name (Or.inl hresolve), hresolve]
          simp only [hresolve] at hok
          dsimp only
          split
          · rfl
          · next hunknown =>
              simp only [hunknown] at hok
              exact ih hok

mutual

/-- Evaluation keeps the order: one case for each form of plan. -/
theorem Plan.eval_refines {vars vars' : Activation} (hvars : vars.Refines vars') (p : Plan)
    (hstrict : p.isStrict) : Outcome.Refines (p.eval vars) (p.eval vars') := by
  match p with
  | .value _ v => exact Outcome.Refines.refl _
  | .attribute a => exact Attribute.eval_refines hvars a hstrict
  | .has id operand field =>
      rw [Plan.eval_has, Plan.eval_has]
      exact (Attribute.eval_refines hvars operand hstrict).bind
        fun v => Outcome.Refines.refl _
  | .and id left right =>
      rw [Plan.isStrict, Bool.and_eq_true] at hstrict
      exact logic_refines (Plan.eval_refines hvars left hstrict.1)
        (Plan.eval_refines hvars right hstrict.2)
  | .or id left right =>
      rw [Plan.isStrict, Bool.and_eq_true] at hstrict
      exact logic_refines (Plan.eval_refines hvars left hstrict.1)
        (Plan.eval_refines hvars right hstrict.2)
  | .call id function candidates args =>
      rw [Plan.isStrict, Bool.and_eq_true] at hstrict
      exact Func.dispatchFirst_refines (Plan.evalAll_refines hvars args hstrict.2)
        candidates hstrict.1
  | .list id elements =>
      rw [Plan.eval, Plan.eval, listValue_eq, listValue_eq]
      exact (Outcome.Refines.collect (Plan.evalAll_refines hvars elements hstrict)).bind
        fun vs => Outcome.Refines.refl _
  | .map id entries =>
      rw [Plan.eval, Plan.eval, mapValue_eq, mapValue_eq]
      exact (Outcome.Refines.collect (Plan.evalEntries_refines hvars entries hstrict)).bind
        fun vs => Outcome.Refines.refl _
  | .message id provider type fields =>
      rw [Plan.eval, Plan.eval, messageValue_eq, messageValue_eq]
      exact (Outcome.Refines.collect (Plan.evalFields_refines hvars fields hstrict)).bind
        fun vs => Outcome.Refines.refl _
  | .failure id cause => exact Outcome.Refines.refl _

theorem Attribute.eval_refines {vars vars' : Activation} (hvars : vars.Refines vars')
    (a : Attribute) (hstrict : a.isStrict) :
    Outcome.Refines (a.eval vars) (a.eval vars') := by
  match a with
  | .named id name container provider readings =>
      intro v hok
      rw [Attribute.eval] at hok ⊢
      cases hsearch : Reading.search vars provider id readings with
      | none =>
          rw [hsearch] at hok
          cases hok
      | some result =>
          rw [hsearch] at hok
          subst hok
          rw [Reading.search_refines hvars provider id readings hstrict v hsearch]
  | .relative id operand accesses =>
      rw [Attribute.isStrict, Bool.and_eq_true] at hstrict
      rw [Attribute.eval_relative, Attribute.eval_relative]
      exact (Plan.eval_refines hvars operand hstrict.1).bind
        (Access.applyAll_refines hvars accesses hstrict.2)
  | .conditional id condition yes no =>
      rw [Attribute.isStrict, Bool.and_eq_true, Bool.and_eq_true] at hstrict
      obtain ⟨⟨hcondition, hyes⟩, hno⟩ := hstrict
      rw [Attribute.eval_conditional, Attribute.eval_conditional]
      apply (Plan.eval_refines hvars condition hcondition).bind
      intro v
      unfold chosen
      split
      · exact Attribute.eval_refines hvars yes hyes
      · exact Attribute.eval_refines hvars no hno
      · exact Outcome.Refines.refl _

/-- Every name before the one that is found is unbound, so it is found again. -/
theorem Reading.search_refines {vars vars' : Activation} (hvars : vars.Refines vars')
    (provider : Provider) (id : Int) (readings : List Reading)
    (hstrict : Reading.areStrict readings) (v : Value)
    (hok : Reading.search vars provider id readings = some (.ok v)) :
    Reading.search vars' provider id readings = some (.ok v) := by
  match readings with
  | [] => cases hok
  | .mk names accesses :: rest =>
      rw [Reading.areStrict, Bool.and_eq_true] at hstrict
      rw [Reading.search] at hok ⊢
      have hlookup := lookupName_of_refines hvars provider id accesses.isEmpty names
      cases hfound : lookupName vars provider id accesses.isEmpty names with
      | none =>
          rw [hlookup (by simp [hfound]), hfound]
          rw [hfound] at hok
          exact Reading.search_refines hvars provider id rest hstrict.2 v hok
      | some bound =>
          cases bound with
          | error f =>
              rw [hfound] at hok
              cases hok
          | ok w =>
              rw [hlookup (by simp [hfound]), hfound]
              rw [hfound] at hok
              have happly := Access.applyAll_refines hvars accesses hstrict.1 w v
                (Option.some.inj hok)
              exact congrArg some happly

theorem Access.applyAll_refines {vars vars' : Activation} (hvars : vars.Refines vars')
    (accesses : List Access) (hstrict : Access.areStrict accesses) (v : Value) :
    Outcome.Refines (Access.applyAll vars accesses v) (Access.applyAll vars' accesses v) := by
  match accesses with
  | [] => exact Outcome.Refines.refl _
  | .field id name :: rest =>
      rw [Access.applyAll_cons, Access.applyAll_cons]
      exact (Outcome.Refines.refl _).bind (Access.applyAll_refines hvars rest hstrict)
  | .index id key :: rest =>
      rw [Access.applyAll_cons, Access.applyAll_cons]
      exact (Outcome.Refines.refl _).bind (Access.applyAll_refines hvars rest hstrict)
  | .computed id key :: rest =>
      rw [Access.areStrict, Bool.and_eq_true] at hstrict
      rw [Access.applyAll_cons, Access.applyAll_cons]
      have hkey := (Plan.eval_refines hvars key hstrict.1).bind
        fun k => Outcome.Refines.refl (v.index id k)
      exact hkey.bind (Access.applyAll_refines hvars rest hstrict.2)

theorem Plan.evalAll_refines {vars vars' : Activation} (hvars : vars.Refines vars')
    (plans : List Plan) (hstrict : Plan.areStrict plans) :
    List.Forall₂ Outcome.Refines (Plan.evalAll vars plans) (Plan.evalAll vars' plans) := by
  match plans with
  | [] => exact .nil
  | p :: rest =>
      rw [Plan.areStrict, Bool.and_eq_true] at hstrict
      exact .cons (Plan.eval_refines hvars p hstrict.1)
        (Plan.evalAll_refines hvars rest hstrict.2)

theorem Plan.evalEntries_refines {vars vars' : Activation} (hvars : vars.Refines vars')
    (entries : List (Plan × Plan)) (hstrict : Plan.areStrictEntries entries) :
    List.Forall₂ Outcome.Refines (Plan.evalEntries vars entries)
      (Plan.evalEntries vars' entries) := by
  match entries with
  | [] => exact .nil
  | (k, v) :: rest =>
      rw [Plan.areStrictEntries, Bool.and_eq_true, Bool.and_eq_true] at hstrict
      obtain ⟨⟨hkey, hvalue⟩, hrest⟩ := hstrict
      exact .cons (Plan.eval_refines hvars k hkey) (.cons (Plan.eval_refines hvars v hvalue)
        (Plan.evalEntries_refines hvars rest hrest))

theorem Plan.evalFields_refines {vars vars' : Activation} (hvars : vars.Refines vars')
    (fields : List (String × Plan)) (hstrict : Plan.areStrictFields fields) :
    List.Forall₂ Outcome.Refines (Plan.evalFields vars fields)
      (Plan.evalFields vars' fields) := by
  match fields with
  | [] => exact .nil
  | (name, p) :: rest =>
      rw [Plan.areStrictFields, Bool.and_eq_true] at hstrict
      exact .cons (Plan.eval_refines hvars p hstrict.1)
        (Plan.evalFields_refines hvars rest hstrict.2)

end

theorem Activation.resolve_layer_single (vars : Activation) (name : String)
    (o : Outcome Value) (other : String) :
    (vars.layer ⟨[(name, o)]⟩).resolve other =
      if other = name then some o else vars.resolve other := by
  by_cases hname : other = name
  · simp [Activation.layer, Bindings.find?, hname]
  · have hbeq : (other == name) = false := beq_eq_false_iff_ne.mpr hname
    simp [Activation.layer, Bindings.find?, List.lookup_cons, hname, hbeq]

/-- A host may bind anew what it had bound to a fault. -/
theorem Activation.layer_refines (vars : Activation) (name : String) (f : Fault)
    (o : Outcome Value) :
    (vars.layer ⟨[(name, .error f)]⟩).Refines (vars.layer ⟨[(name, o)]⟩) := by
  intro other hknown
  rw [Activation.resolve_layer_single] at hknown ⊢
  rw [Activation.resolve_layer_single]
  by_cases hname : other = name
  · simp [hname] at hknown
  · rw [if_neg hname, if_neg hname]

/-- Partial evaluation is sound: a value that is found although some variables
are bound to faults is found whatever these variables are. -/
theorem Plan.eval_eq_ok_of_refines (p : Plan) (hstrict : p.isStrict) (vars vars' : Activation)
    (hvars : vars.Refines vars') (v : Value) (hok : p.eval vars = .ok v) :
    p.eval vars' = .ok v :=
  Plan.eval_refines hvars p hstrict v hok

namespace RefinementWitness

/-- `x && same(y)` -/
def conjunction : Plan :=
  .and 4 (.attribute (.named 1 "x" "" .empty [.mk ["x"] []]))
    (.call 3 "same" [⟨"same", [⟨"same", [.dyn], .strict fun _ args => .ok (args.headD .null)⟩]⟩]
      [.attribute (.named 2 "y" "" .empty [.mk ["y"] []])])

/-- Binds `y` to a truth value that decides, and `x` to an outcome. -/
def host (x : Outcome Value) : Activation :=
  (Activation.ofBindings ⟨[("y", .ok (.bool false))]⟩).layer ⟨[("x", x)]⟩

theorem conjunction_eval_without_x :
    conjunction.isStrict ∧
      conjunction.eval (host (.error (.unknown (.ofList [1])))) = .ok (.bool false) ∧
      conjunction.eval (host (.ok (.bool true))) = .ok (.bool false) := by
  refine ⟨rfl, rfl, ?_⟩
  exact Plan.eval_eq_ok_of_refines conjunction rfl (host (.error (.unknown (.ofList [1]))))
    (host (.ok (.bool true))) (Activation.layer_refines _ "x" _ _) (.bool false) rfl

end RefinementWitness

end CommonExpr
