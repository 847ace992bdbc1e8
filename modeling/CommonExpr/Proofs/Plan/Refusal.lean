import CommonExpr.Proofs.Expr
import CommonExpr.Proofs.Plan.Chain

/-!
Where planning stops.

Planning stops at an entry with the wrong sort of key and at an operator with too few or too many
operands, and nowhere else; the receiver that it skips, where this is a part of a function's name,
has neither.  Main statement: an expression is planned exactly if no such node occurs in it, and
the fault of any other names one that does.
-/

namespace CommonExpr

/-- The number of operands of an operator that has rules of its own. -/
def Operator.arity? (function : String) : Option Nat :=
  if function = logicalAnd then some 2
  else if function = logicalOr then some 2
  else if function = conditional then some 3
  else if function = index then some 2
  else none

/-- Whether a node is malformed by itself, and the id of what is: of an entry with the wrong sort
of key, or of an operator with the wrong number of operands. -/
inductive Expr.MalformedAt : Expr → Int → Prop
  | entry {id : Int} {message : String} {entries : List Entry} {entry : Entry}
      (hentry : entry ∈ entries) (hmisfit : ¬ entry.Fits message) :
      MalformedAt (.struct id message entries) entry.id
  | call {id : Int} {function : String} {args : List Expr} {arity : Nat}
      (harity : Operator.arity? (Operator.canonical function) = some arity)
      (hcount : args.length ≠ arity) : MalformedAt (.call id function args) id
  /-- The receiver is an operand, too. -/
  | member {id : Int} {target : Expr} {function : String} {args : List Expr} {arity : Nat}
      (harity : Operator.arity? (Operator.canonical function) = some arity)
      (hcount : args.length + 1 ≠ arity) : MalformedAt (.memberCall id target function args) id

namespace Planner

variable {p : Planner}

/-- Whether a node is a call of a function whose name has the receiver as a part. -/
inductive Qualifies (p : Planner) : Expr → Prop
  | member {id : Int} {target : Expr} {function : String} {args : List Expr}
      {known : String × List Func}
      (hknown : p.qualifiedFunction? target (Operator.canonical function) = some known) :
      Qualifies p (.memberCall id target function args)

/-- Whether planning stops at a node, and the id that it names. -/
structure Refuses (p : Planner) (part : Expr) (id : Int) : Prop where
  malformed : part.MalformedAt id
  not_qualified : ¬ p.Qualifies part

/-! One step -/

/-- An operator is refused for the number of its operands alone. -/
theorem callOn_arity (p : Planner) (id : Int) (function : String) (operands : List Plan) :
    ((∃ o, p.callOn id function operands = .ok o) ∧
      ∀ arity, Operator.arity? function = some arity → operands.length = arity) ∨
    ∃ f, p.callOn id function operands = .error f ∧ f.id = id ∧
      ∃ arity, Operator.arity? function = some arity ∧ operands.length ≠ arity := by
  unfold callOn Operator.arity?
  split
  · rcases operands with _ | ⟨l, _ | ⟨r, _ | ⟨x, rest⟩⟩⟩ <;> simp [PlanFault.id]
  · split
    · rcases operands with _ | ⟨l, _ | ⟨r, _ | ⟨x, rest⟩⟩⟩ <;> simp [PlanFault.id]
    · split
      · rcases operands with _ | ⟨c, _ | ⟨t, _ | ⟨f, _ | ⟨x, rest⟩⟩⟩⟩ <;> simp [PlanFault.id]
      · split
        · rcases operands with _ | ⟨o, _ | ⟨k, _ | ⟨x, rest⟩⟩⟩ <;> simp [PlanFault.id]
        · simp

theorem planAll_cases (p : Planner) (es : List Expr) :
    (∃ plans, p.planAll es = .ok plans ∧ plans.length = es.length ∧
      ∀ e ∈ es, ∃ o, p.plan e = .ok o) ∨
    ∃ f, p.planAll es = .error f ∧ ∃ e ∈ es, p.plan e = .error f := by
  induction es with
  | nil => exact Or.inl ⟨[], rfl, rfl, nofun⟩
  | cons e rest ih =>
      rw [planAll]
      cases he : p.plan e with
      | error f => exact Or.inr ⟨f, rfl, e, List.mem_cons_self, he⟩
      | ok o =>
          rcases ih with ⟨plans, hplans, hlength, hrest⟩ | ⟨f, hf, part, hpart, hfault⟩
          · left
            rw [hplans]
            exact ⟨o :: plans, rfl, by simp [hlength],
              List.forall_mem_cons.mpr ⟨⟨o, he⟩, hrest⟩⟩
          · right
            rw [hf]
            exact ⟨f, rfl, part, List.mem_cons_of_mem e hpart, hfault⟩

/-- Whether entries are planned, and all that is in them. -/
def EntriesClear (p : Planner) (message : String) (entries : List Entry) : Prop :=
  ∀ entry ∈ entries, entry.Fits message ∧ ∀ part ∈ entry.operands, ∃ o, p.plan part = .ok o

/-- Whether a fault is one of an entry that does not fit, or of what is in an entry. -/
def EntriesStop (p : Planner) (message : String) (entries : List Entry) (f : PlanFault) : Prop :=
  ∃ entry ∈ entries, (¬ entry.Fits message ∧ f.id = entry.id) ∨
    ∃ part ∈ entry.operands, p.plan part = .error f

theorem EntriesStop.cons {message : String} {entry : Entry} {rest : List Entry} {f : PlanFault}
    (hrest : p.EntriesStop message rest f) : p.EntriesStop message (entry :: rest) f := by
  obtain ⟨other, hother, hfault⟩ := hrest
  exact ⟨other, List.mem_cons_of_mem entry hother, hfault⟩

theorem planPairs_cases (p : Planner) (entries : List Entry) :
    ((∃ pairs, p.planPairs entries = .ok pairs) ∧ p.EntriesClear "" entries) ∨
      ∃ f, p.planPairs entries = .error f ∧ p.EntriesStop "" entries f := by
  induction entries with
  | nil => exact Or.inl ⟨⟨[], rfl⟩, nofun⟩
  | cons entry rest ih =>
      cases entry with
      | field id name value =>
          exact Or.inr ⟨_, rfl, _, List.mem_cons_self, Or.inl ⟨fun hfits => hfits rfl, rfl⟩⟩
      | pair id key value =>
          rw [planPairs]
          cases hkey : p.plan key with
          | error f =>
              exact Or.inr ⟨f, rfl, _, List.mem_cons_self,
                Or.inr ⟨key, by simp [Entry.operands], hkey⟩⟩
          | ok k =>
              cases hvalue : p.plan value with
              | error f =>
                  exact Or.inr ⟨f, rfl, _, List.mem_cons_self,
                    Or.inr ⟨value, by simp [Entry.operands], hvalue⟩⟩
              | ok v =>
                  rcases ih with ⟨⟨pairs, hpairs⟩, hclear⟩ | ⟨f, hf, hstop⟩
                  · left
                    rw [hpairs]
                    refine ⟨⟨_, rfl⟩, List.forall_mem_cons.mpr ⟨⟨rfl, ?_⟩, hclear⟩⟩
                    simp [Entry.operands, hkey, hvalue]
                  · right
                    rw [hf]
                    exact ⟨f, rfl, hstop.cons⟩

theorem planFields_cases (p : Planner) {message : String} (hmessage : message ≠ "")
    (entries : List Entry) :
    ((∃ fields, p.planFields message entries = .ok fields) ∧ p.EntriesClear message entries) ∨
      ∃ f, p.planFields message entries = .error f ∧ p.EntriesStop message entries f := by
  induction entries with
  | nil => exact Or.inl ⟨⟨[], rfl⟩, nofun⟩
  | cons entry rest ih =>
      cases entry with
      | pair id key value =>
          exact Or.inr ⟨_, rfl, _, List.mem_cons_self, Or.inl ⟨hmessage, rfl⟩⟩
      | field id name value =>
          rw [planFields]
          cases hvalue : p.plan value with
          | error f =>
              exact Or.inr ⟨f, rfl, _, List.mem_cons_self,
                Or.inr ⟨value, by simp [Entry.operands], hvalue⟩⟩
          | ok v =>
              rcases ih with ⟨⟨fields, hfields⟩, hclear⟩ | ⟨f, hf, hstop⟩
              · left
                rw [hfields]
                refine ⟨⟨_, rfl⟩, List.forall_mem_cons.mpr ⟨⟨hmessage, ?_⟩, hclear⟩⟩
                simp [Entry.operands, hvalue]
              · right
                rw [hf]
                exact ⟨f, rfl, hstop.cons⟩

/-- What a qualified name is spelled with is planned. -/
theorem exists_plan_of_qualifiedName? (p : Planner) {e : Expr} {q : String}
    (hname : e.qualifiedName? = some q) : ∃ o, p.plan e = .ok o := by
  fun_induction Expr.qualifiedName? e generalizing q with
  | case1 id name => exact ⟨_, rfl⟩
  | case2 id operand field ih =>
      obtain ⟨inner, hinner, -⟩ := Option.map_eq_some_iff.mp hname
      obtain ⟨o, ho⟩ := ih hinner
      exact ⟨_, plan_select_iff.mpr ⟨o, ho, rfl⟩⟩
  | case3 => cases hname

/-- Whether planning a node fails neither for itself nor for an operand. -/
structure Clear (p : Planner) (e : Expr) : Prop where
  planned : ∃ o, p.plan e = .ok o
  not_refused : ∀ id, ¬ p.Refuses e id
  operands : ∀ part ∈ e.operands, ∃ o, p.plan part = .ok o

/-- Whether planning a node fails, for itself or for an operand. -/
structure Stops (p : Planner) (e : Expr) (f : PlanFault) : Prop where
  failed : p.plan e = .error f
  cause : p.Refuses e f.id ∨ ∃ part ∈ e.operands, p.plan part = .error f

theorem operands_of_applies {operator : String} {e : Expr} {id : Int} {operands : List Expr}
    (happlies : p.Applies operator e id operands) : e.operands = operands := by
  cases happlies <;> rfl

theorem refuses_of_applies {operator : String} {e : Expr} {id : Int} {operands : List Expr}
    (happlies : p.Applies operator e id operands) (node : Int) :
    p.Refuses e node ↔ node = id ∧
      ∃ arity, Operator.arity? operator = some arity ∧ operands.length ≠ arity := by
  cases happlies with
  | call hname =>
      subst hname
      constructor
      · rintro ⟨hmalformed, -⟩
        cases hmalformed with
        | call harity hcount => exact ⟨rfl, _, harity, hcount⟩
      · rintro ⟨rfl, arity, harity, hcount⟩
        exact ⟨.call harity hcount, nofun⟩
  | member hname hmethod =>
      subst hname
      constructor
      · rintro ⟨hmalformed, -⟩
        cases hmalformed with
        | member harity hcount => exact ⟨rfl, _, harity, hcount⟩
      · rintro ⟨rfl, arity, harity, hcount⟩
        refine ⟨.member harity hcount, ?_⟩
        rintro ⟨hknown⟩
        rw [hmethod] at hknown
        cases hknown

/-- Step: a call of an operator or a method. -/
theorem clear_or_stops_of_applies {operator : String} {e : Expr} {id : Int} {operands : List Expr}
    (happlies : p.Applies operator e id operands) : p.Clear e ∨ ∃ f, p.Stops e f := by
  have hplan := plan_of_applies happlies
  have hoperands := operands_of_applies happlies
  rcases p.planAll_cases operands with ⟨plans, hplans, hlength, hall⟩ | ⟨f, hf, hpart⟩
  · rw [hplans] at hplan
    rcases p.callOn_arity id operator plans with ⟨⟨o, ho⟩, hcount⟩ | ⟨f, hf, hid, hcount⟩
    · refine Or.inl ⟨⟨o, hplan.trans ho⟩, fun node hrefuses => ?_, hoperands ▸ hall⟩
      obtain ⟨-, arity, harity, hwrong⟩ := (refuses_of_applies happlies node).mp hrefuses
      exact hwrong (hlength ▸ hcount arity harity)
    · rw [hlength] at hcount
      exact Or.inr ⟨f, hplan.trans hf,
        Or.inl ((refuses_of_applies happlies f.id).mpr ⟨hid, hcount⟩)⟩
  · rw [hf] at hplan
    exact Or.inr ⟨f, hplan, Or.inr (hoperands ▸ hpart)⟩

/-- Step: a literal of a map or of a message. -/
theorem clear_or_stops_struct (p : Planner) (id : Int) (message : String) (entries : List Entry) :
    p.Clear (.struct id message entries) ∨ ∃ f, p.Stops (.struct id message entries) f := by
  have hclear : ∀ o, p.plan (.struct id message entries) = .ok o →
      p.EntriesClear message entries → p.Clear (.struct id message entries) := by
    intro o ho hentries
    refine ⟨⟨o, ho⟩, ?_, ?_⟩
    · rintro node ⟨hmalformed, -⟩
      cases hmalformed with
      | entry hentry hmisfit => exact hmisfit (hentries _ hentry).1
    · intro part hpart
      obtain ⟨entry, hentry, hpart⟩ := List.mem_flatMap.mp hpart
      exact (hentries entry hentry).2 part hpart
  have hstops : ∀ f, p.plan (.struct id message entries) = .error f →
      p.EntriesStop message entries f → p.Stops (.struct id message entries) f := by
    rintro f hf ⟨entry, hentry, ⟨hmisfit, hid⟩ | ⟨part, hpart, hfault⟩⟩
    · exact ⟨hf, Or.inl ⟨hid ▸ .entry hentry hmisfit, nofun⟩⟩
    · exact ⟨hf, Or.inr ⟨part, List.mem_flatMap.mpr ⟨entry, hentry, hpart⟩, hfault⟩⟩
  by_cases hmessage : message = ""
  · subst hmessage
    rcases p.planPairs_cases entries with ⟨⟨pairs, hpairs⟩, hentries⟩ | ⟨f, hf, hentries⟩
    · exact Or.inl (hclear (.map id pairs) (by simp [plan, hpairs]) hentries)
    · exact Or.inr ⟨f, hstops f (by simp [plan, hf]) hentries⟩
  · rcases p.planFields_cases hmessage entries with
      ⟨⟨fields, hfields⟩, hentries⟩ | ⟨f, hf, hentries⟩
    · exact Or.inl (hclear (p.messageOn id message fields)
        (by simp [plan, hmessage, hfields]) hentries)
    · exact Or.inr ⟨f, hstops f (by simp [plan, hmessage, hf]) hentries⟩

/-- Step: one case for each form of expression. -/
theorem clear_or_stops (p : Planner) (e : Expr) : p.Clear e ∨ ∃ f, p.Stops e f := by
  have hnever {e : Expr} (hnot : ∀ id, ¬ e.MalformedAt id) (id : Int) : ¬ p.Refuses e id :=
    fun hrefuses => hnot id hrefuses.malformed
  cases e with
  | literal id value =>
      exact Or.inl ⟨⟨_, rfl⟩, hnever (by rintro _ ⟨⟩), List.forall_mem_nil _⟩
  | ident id name =>
      exact Or.inl ⟨⟨_, rfl⟩, hnever (by rintro _ ⟨⟩), List.forall_mem_nil _⟩
  | select id operand field =>
      cases hoperand : p.plan operand with
      | ok o =>
          exact Or.inl ⟨⟨_, plan_select_iff.mpr ⟨o, hoperand, rfl⟩⟩, hnever (by rintro _ ⟨⟩),
            List.forall_mem_singleton.mpr ⟨o, hoperand⟩⟩
      | error f =>
          exact Or.inr ⟨f, by rw [plan, hoperand], Or.inr ⟨operand, List.mem_cons_self, hoperand⟩⟩
  | has id operand field =>
      cases hoperand : p.plan operand with
      | ok o =>
          exact Or.inl ⟨⟨.has id o.toAttribute field, by rw [plan, hoperand]⟩,
            hnever (by rintro _ ⟨⟩), List.forall_mem_singleton.mpr ⟨o, hoperand⟩⟩
      | error f =>
          exact Or.inr ⟨f, by rw [plan, hoperand], Or.inr ⟨operand, List.mem_cons_self, hoperand⟩⟩
  | call id function args => exact clear_or_stops_of_applies (.call rfl)
  | memberCall id target function args =>
      cases hknown : p.qualifiedFunction? target (Operator.canonical function) with
      | none => exact clear_or_stops_of_applies (.member rfl hknown)
      | some known =>
          -- The receiver is not planned, but it would be: it spells a name.
          have htarget : ∃ o, p.plan target = .ok o := by
            unfold qualifiedFunction? at hknown
            split at hknown
            · cases hknown
            · next q hq => exact p.exists_plan_of_qualifiedName? hq
          rcases p.planAll_cases args with ⟨plans, hplans, -, hall⟩ | ⟨f, hf, part, hpart, hfault⟩
          · refine Or.inl ⟨⟨.call id known.1 known.2 plans, by simp [plan, hknown, hplans]⟩, ?_, ?_⟩
            · exact fun node hrefuses => hrefuses.not_qualified ⟨hknown⟩
            · exact List.forall_mem_cons.mpr ⟨htarget, hall⟩
          · exact Or.inr ⟨f, by simp [plan, hknown, hf],
              Or.inr ⟨part, List.mem_cons_of_mem target hpart, hfault⟩⟩
  | list id elements =>
      rcases p.planAll_cases elements with ⟨plans, hplans, -, hall⟩ | ⟨f, hf, hpart⟩
      · exact Or.inl ⟨⟨.list id plans, by simp [plan, hplans]⟩, hnever (by rintro _ ⟨⟩), hall⟩
      · exact Or.inr ⟨f, by simp [plan, hf], Or.inr hpart⟩
  | struct id message entries => exact p.clear_or_stops_struct id message entries

/-! Whole expressions -/

/-- Run: nothing that occurs in a planned expression is refused. -/
theorem not_refuses_of_plan {e part : Expr} (hoccurs : part.Occurs e) {o : Plan}
    (hplan : p.plan e = .ok o) (id : Int) : ¬ p.Refuses part id := by
  have hclear {e : Expr} {o : Plan} (hplan : p.plan e = .ok o) : p.Clear e := by
    rcases p.clear_or_stops e with hclear | ⟨f, hstops⟩
    · exact hclear
    · cases hplan.symm.trans hstops.failed
  induction hoccurs generalizing o with
  | whole => exact (hclear hplan).not_refused id
  | operand hoperand hpart ih =>
      obtain ⟨o', ho'⟩ := (hclear hplan).operands _ hoperand
      exact ih ho'

/-- Run: a fault is one of a node that is refused. -/
theorem exists_refuses_of_plan {e : Expr} {f : PlanFault} (hplan : p.plan e = .error f) :
    ∃ part, part.Occurs e ∧ p.Refuses part f.id := by
  induction e using Expr.induction_on_operands with
  | step e ih =>
      rcases p.clear_or_stops e with hclear | ⟨g, hstops⟩
      · obtain ⟨o, ho⟩ := hclear.planned
        cases hplan.symm.trans ho
      · cases hplan.symm.trans hstops.failed
        rcases hstops.cause with hrefuses | ⟨operand, hoperand, hfault⟩
        · exact ⟨e, .whole, hrefuses⟩
        · obtain ⟨part, hpart, hrefuses⟩ := ih operand hoperand hfault
          exact ⟨part, .operand hoperand hpart, hrefuses⟩

end Planner

end CommonExpr
