import CommonExpr.Environment
import CommonExpr.Library.Strings
import CommonExpr.Proofs.Exchange.Tree
import CommonExpr.Proofs.Namespace
import CommonExpr.Proofs.Plan.Refusal

/-!
Expressions that cannot be planned.

With the libraries, no function is called by the name of an operator behind a receiver, unless an
alias gives it this name and the receiver is the empty one.  Main statement: but for these calls,
planning fails exactly on expressions with a malformed node, and names it; what is planned is
planned alike from its exchange form.
-/

namespace CommonExpr

/-! Names behind a receiver -/

namespace Namespace

variable {ns : Namespace} {tail : List Char}

theorem suffix_of_expand? {name expanded : String} (hname : '.' :: tail <:+ name.toList)
    (hexpand : ns.expand? name = some expanded) : '.' :: tail <:+ expanded.toList := by
  obtain ⟨front, hfront⟩ := hname
  obtain ⟨known, -, rfl⟩ := Option.map_eq_some_iff.mp hexpand
  rw [String.toList_append, String.toList_ofList, ← hfront, dropWhile_before_dot]
  exact (List.suffix_append _ _).trans (List.suffix_append _ _)

/-- What a name ends in behind a dot, all that it may stand for ends in. -/
theorem suffix_of_mem_candidates {name candidate : String} {front : List Char}
    (hname : name.toList = front ++ '.' :: tail) (hfront : front ≠ [])
    (hcandidate : candidate ∈ ns.candidates name) : '.' :: tail <:+ candidate.toList := by
  have hsuffix : '.' :: tail <:+ name.toList := ⟨front, hname.symm⟩
  unfold candidates at hcandidate
  split at hcandidate
  · next rest hrest =>
      obtain ⟨c, front, rfl⟩ := List.exists_cons_of_ne_nil hfront
      obtain ⟨-, rfl⟩ := List.cons.inj (hrest.symm.trans hname)
      have hqualified : '.' :: tail <:+ (String.ofList (front ++ '.' :: tail)).toList := by
        rw [String.toList_ofList]
        exact List.suffix_append _ _
      obtain rfl := List.mem_singleton.mp hcandidate
      cases hexpand : ns.expand? (String.ofList (front ++ '.' :: tail)) with
      | none => exact hqualified
      | some expanded => exact suffix_of_expand? hqualified hexpand
  · split at hcandidate
    · next expanded hexpanded =>
        obtain rfl := List.mem_singleton.mp hcandidate
        exact suffix_of_expand? hsuffix hexpanded
    · split at hcandidate
      · obtain rfl := List.mem_singleton.mp hcandidate
        exact hsuffix
      · rcases List.mem_append.mp hcandidate with houter | hbare
        · obtain ⟨container, -, rfl⟩ := List.mem_map.mp houter
          rw [String.toList_append]
          exact hsuffix.trans (List.suffix_append _ _)
        · obtain rfl := List.mem_singleton.mp hbare
          exact hsuffix

end Namespace

namespace Library

/-- The names that the libraries register, whatever zones are known. -/
def names : List String := (standardFunctions (fun _ => none) ++ stringFunctions).map Func.name

theorem standardFunctions_names (named? : String → Option ZoneRule) :
    (standardFunctions named?).map Func.name = (standardFunctions fun _ => none).map Func.name := by
  simp only [standardFunctions, timeParts, calendarFunc, clockFunc, List.map_append, List.map_cons,
    List.map_nil]

theorem special_not_registered : ∀ name ∈ names,
    ∀ function ∈ [Operator.logicalAnd, Operator.logicalOr, Operator.conditional, Operator.index],
      name ≠ function ∧ ¬ '.' :: function.toList <:+ name.toList := by
  decide +kernel

theorem candidates_eq_nil (named? : String → Option ZoneRule) {name : String}
    (hname : name ∉ names) : (Dispatcher.mk [standard named?, strings]).candidates name = [] := by
  rw [names, List.map_append, ← standardFunctions_names named?, List.mem_append] at hname
  have hnone : ∀ functions : List Func, name ∉ functions.map Func.name →
      (Registry.ofFunctions functions).find? name = none := by
    intro functions hfunctions
    have hfind : findFunc? name functions = none := by
      rw [findFunc?, List.find?_eq_none]
      intro f hf heq
      exact hfunctions (of_decide_eq_true heq ▸ List.mem_map_of_mem hf)
    simp [Registry.find?, Registry.ofFunctions, hfind]
  have hstandard := hnone (standardFunctions named?) fun hmem => hname (Or.inl hmem)
  have hstrings := hnone stringFunctions fun hmem => hname (Or.inr hmem)
  rw [Dispatcher.candidates, standard, strings]
  simp [hstandard, hstrings]

end Library

namespace Planner

theorem firstKnown?_eq_none {d : Dispatcher} {names : List String}
    (hnames : ∀ name ∈ names, d.candidates name = []) : firstKnown? d names = none := by
  induction names with
  | nil => rfl
  | cons name rest ih =>
      obtain ⟨hname, hrest⟩ := List.forall_mem_cons.mp hnames
      rw [firstKnown?, hname]
      exact ih hrest

theorem firstKnown?_singleton (d : Dispatcher) (name : String) :
    (firstKnown? d [name]).isSome ↔ d.candidates name ≠ [] := by
  rw [firstKnown?]
  cases d.candidates name <;> simp [firstKnown?]

/-- The planner with the libraries, with zones from a lookup. -/
def ofLibraries (named? : String → Option ZoneRule) (scope : Namespace) (provider : Provider) :
    Planner :=
  ⟨⟨[Library.standard named?, Library.strings]⟩, provider, scope⟩

/-- Whether a node is a call on the empty name, and the name of its operator an alias of that of a
function. -/
inductive Renames (p : Planner) : Expr → Prop
  | member {id receiver : Int} {function name : String} {args : List Expr}
      (halias : p.scope.aliases.lookup (Operator.canonical function) = some name)
      (hknown : p.dispatcher.candidates name ≠ []) :
      Renames p (.memberCall id (.ident receiver "") function args)

theorem mem_special_of_arity? {function : String} {arity : Nat}
    (harity : Operator.arity? function = some arity) :
    function ∈ [Operator.logicalAnd, Operator.logicalOr, Operator.conditional,
      Operator.index] := by
  unfold Operator.arity? at harity
  split at harity
  · simp [*]
  · split at harity
    · simp [*]
    · split at harity
      · simp [*]
      · split at harity
        · simp [*]
        · cases harity

/-- An operator is an alias by its whole name. -/
theorem expand?_special (ns : Namespace) {function : String} {arity : Nat}
    (harity : Operator.arity? function = some arity) :
    ns.expand? function = ns.aliases.lookup function := by
  have hsegment : Namespace.firstSegment function = (function, "") := by
    have hspecial := mem_special_of_arity? harity
    simp only [List.mem_cons, List.not_mem_nil, or_false] at hspecial
    rcases hspecial with rfl | rfl | rfl | rfl <;> decide
  simp [Namespace.expand?, hsegment]

theorem candidates_behind_empty (ns : Namespace) (function : String) :
    ns.candidates ("" ++ "." ++ function) = [(ns.expand? function).getD function] := by
  simp [Namespace.candidates]

theorem qualifiedName?_eq_empty {e : Expr} (hname : e.qualifiedName? = some "") :
    ∃ id, e = .ident id "" := by
  cases e with
  | ident id name =>
      cases hname
      exact ⟨id, rfl⟩
  | select id operand field =>
      obtain ⟨q, -, hq⟩ := Option.map_eq_some_iff.mp hname
      exact absurd hq (by simp)
  | _ => cases hname

variable (named? : String → Option ZoneRule) (scope : Namespace) (provider : Provider)

/-- Behind a receiver that is not the empty name no library has an operator. -/
theorem qualifiedFunction?_of_ne_empty {target : Expr} {function : String} {arity : Nat}
    (harity : Operator.arity? function = some arity) (htarget : target.qualifiedName? ≠ some "") :
    (ofLibraries named? scope provider).qualifiedFunction? target function = none := by
  unfold qualifiedFunction?
  split
  · rfl
  · next q hq =>
      have hne : q.toList ≠ [] := by
        intro hnil
        have hempty : q = "" := by simpa using hnil
        exact htarget (hempty ▸ hq)
      have htext : (q ++ "." ++ function).toList = q.toList ++ '.' :: function.toList := by simp
      refine firstKnown?_eq_none fun name hname => ?_
      refine Library.candidates_eq_nil named? fun hregistered => ?_
      have hsuffix := Namespace.suffix_of_mem_candidates htext hne hname
      exact (Library.special_not_registered name hregistered function
        (mem_special_of_arity? harity)).2 hsuffix

/-- Behind the empty name the libraries have what an alias of the operator stands for. -/
theorem qualifiedFunction?_behind_empty (receiver : Int) {function : String} {arity : Nat}
    (harity : Operator.arity? function = some arity) :
    ((ofLibraries named? scope provider).qualifiedFunction? (.ident receiver "") function).isSome ↔
      ∃ name, scope.aliases.lookup function = some name ∧
        (ofLibraries named? scope provider).dispatcher.candidates name ≠ [] := by
  rw [qualifiedFunction?, Expr.qualifiedName?]
  dsimp only
  rw [candidates_behind_empty, expand?_special _ harity, firstKnown?_singleton]
  have hspecial : (ofLibraries named? scope provider).dispatcher.candidates function = [] := by
    refine Library.candidates_eq_nil named? fun hregistered => ?_
    exact (Library.special_not_registered function hregistered function
      (mem_special_of_arity? harity)).1 rfl
  change (ofLibraries named? scope provider).dispatcher.candidates
    ((scope.aliases.lookup function).getD function) ≠ [] ↔ _
  cases scope.aliases.lookup function with
  | none => simp [hspecial]
  | some name => simp

/-- A malformed node goes through only where an alias renames its operator. -/
theorem qualifies_iff_renames {part : Expr} {id : Int} (hmalformed : part.MalformedAt id) :
    (ofLibraries named? scope provider).Qualifies part ↔
      (ofLibraries named? scope provider).Renames part := by
  constructor
  · intro hqualifies
    cases hqualifies with
    | @member node target function args known hknown =>
        cases hmalformed with
        | member harity hcount =>
            by_cases htarget : target.qualifiedName? = some ""
            · obtain ⟨receiver, rfl⟩ := qualifiedName?_eq_empty htarget
              obtain ⟨name, halias, hname⟩ :=
                (qualifiedFunction?_behind_empty named? scope provider receiver harity).mp
                  (Option.isSome_of_eq_some hknown)
              exact .member halias hname
            · rw [qualifiedFunction?_of_ne_empty named? scope provider harity htarget] at hknown
              cases hknown
  · intro hrenames
    cases hrenames with
    | @member node receiver function name args halias hname =>
        cases hmalformed with
        | member harity hcount =>
            obtain ⟨known, hknown⟩ := Option.isSome_iff_exists.mp
              ((qualifiedFunction?_behind_empty named? scope provider receiver harity).mpr
                ⟨name, halias, hname⟩)
            exact ⟨hknown⟩

end Planner

/-! From the exchange form -/

/-- What is planned has the entries that its literals take. -/
theorem Planner.wellKeyed_of_plan {p : Planner} {e : Expr} {o : Plan} (hplan : p.plan e = .ok o) :
    e.WellKeyed := by
  intro id message entries hoccurs entry hentry
  by_contra hmisfit
  exact not_refuses_of_plan hoccurs hplan entry.id ⟨.entry hentry hmisfit, nofun⟩

theorem Environment.plan_eq_ok_iff {env : Environment} {e : Expr} {o : Plan} :
    env.plan e = .ok o ↔ env.planner.plan e = .ok o := by
  rw [Environment.plan]
  cases env.planner.plan e <;> simp

theorem Environment.planParsed_ofExpr {env : Environment} {e : Expr} {o : Plan}
    (hplan : env.plan e = .ok o) : env.planParsed (.ofExpr e) = .ok o := by
  have hkeyed := Planner.wellKeyed_of_plan (plan_eq_ok_iff.mp hplan)
  have hread : (Exchange.Tree.ofExpr e).toExpr = .ok e := by
    rcases Exchange.readsBack e with ⟨-, hread⟩ | ⟨fault, hblames, -⟩
    · exact hread
    · exact absurd hkeyed hblames.not_wellKeyed
  rw [planParsed, Exchange.Parsed.ofExpr, Exchange.Parsed.toExpr, hread]
  exact hplan

/-- Planning fails exactly on expressions in which a malformed node occurs that no alias renames,
and the fault is at such a node or entry; what an environment plans it plans alike from the exchange
form. -/
theorem planning_fails_on_malformed :
    (∀ (named? : String → Option ZoneRule) (scope : Namespace) (provider : Provider) (e : Expr),
      ((∃ f, (Planner.ofLibraries named? scope provider).plan e = .error f) ↔
        ∃ part id, part.Occurs e ∧ part.MalformedAt id ∧
          ¬ (Planner.ofLibraries named? scope provider).Renames part) ∧
      ∀ f, (Planner.ofLibraries named? scope provider).plan e = .error f →
        ∃ part, part.Occurs e ∧ part.MalformedAt f.id ∧
          ¬ (Planner.ofLibraries named? scope provider).Renames part) ∧
    ∀ (env : Environment) (e : Expr) (o : Plan),
      env.plan e = .ok o → env.planParsed (.ofExpr e) = .ok o := by
  refine ⟨fun named? scope provider e => ?_, fun env e o => Environment.planParsed_ofExpr⟩
  have hnamed : ∀ f, (Planner.ofLibraries named? scope provider).plan e = .error f →
      ∃ part, part.Occurs e ∧ part.MalformedAt f.id ∧
        ¬ (Planner.ofLibraries named? scope provider).Renames part := by
    intro f hf
    obtain ⟨part, hoccurs, hmalformed, hqualified⟩ := Planner.exists_refuses_of_plan hf
    rw [Planner.qualifies_iff_renames named? scope provider hmalformed] at hqualified
    exact ⟨part, hoccurs, hmalformed, hqualified⟩
  refine ⟨⟨?_, ?_⟩, hnamed⟩
  · rintro ⟨f, hf⟩
    obtain ⟨part, hpart⟩ := hnamed f hf
    exact ⟨part, f.id, hpart⟩
  · rintro ⟨part, id, hoccurs, hmalformed, hrenamed⟩
    rw [← Planner.qualifies_iff_renames named? scope provider hmalformed] at hrenamed
    cases hplan : (Planner.ofLibraries named? scope provider).plan e with
    | error f => exact ⟨f, rfl⟩
    | ok o => exact absurd ⟨hmalformed, hrenamed⟩ (Planner.not_refuses_of_plan hoccurs hplan id)

namespace MalformedWitness

/-- Makes the conditional another name of `size`. -/
def aliased : Namespace := { aliases := [("_?_:_", "size")] }

/-- A list of a conjunction of one operand. -/
def short : Expr := .list 3 [.call 2 "_&&_" [.ident 1 "x"]]

/-- A map from null to a variable. -/
def entry : Expr := .struct 4 "" [.pair 3 (.literal 1 .null) (.ident 2 "x")]

theorem short_fails_entry_plans :
    (∃ f, (Planner.ofLibraries namedZone? {} .empty).plan short = .error f ∧ f.id = 2 ∧
      ∃ part, part.Occurs short ∧ part.MalformedAt 2 ∧
        ¬ (Planner.ofLibraries namedZone? {} .empty).Renames part) ∧
    ∃ o, Environment.plan {} entry = .ok o ∧ Environment.planParsed {} (.ofExpr entry) = .ok o := by
  obtain ⟨hfails, hparsed⟩ := planning_fails_on_malformed
  have hshort : (Planner.ofLibraries namedZone? {} .empty).plan short =
      .error (.wrongArity 2 "_&&_" 2 1) := rfl
  exact ⟨⟨_, hshort, rfl, (hfails namedZone? {} .empty short).2 _ hshort⟩, _, rfl,
    hparsed {} entry _ rfl⟩

/-- A conditional of two operands on the empty name, which an alias makes a call of `size`. -/
def renamed : Expr := .memberCall 3 (.ident 1 "") "_?_:_" [.literal 2 (.scalar (.string "abc"))]

theorem renamed_planned :
    (∃ (part : Expr) (id : Int), part.Occurs renamed ∧ part.MalformedAt id) ∧
      ∃ o, (Planner.ofLibraries namedZone? aliased .empty).plan renamed = .ok o := by
  have harity : Operator.arity? (Operator.canonical "_?_:_") = some 3 := rfl
  have hmalformed : renamed.MalformedAt 3 := .member harity (by decide)
  exact ⟨⟨renamed, 3, .whole, hmalformed⟩, _, rfl⟩

end MalformedWitness

end CommonExpr
