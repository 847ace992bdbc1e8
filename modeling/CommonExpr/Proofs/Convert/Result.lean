import CommonExpr.Convert.Exchange
import CommonExpr.Proofs.Fault.Merging
import CommonExpr.Proofs.Plan.Provenance

/-!
Faults in exchange form and back.

An error set lists an error and those beside it, and no others.  Main statement: a fault
whose errors are no deeper than that is received with all its unknowns or all its errors,
and evaluation makes no other faults.
-/

namespace CommonExpr

mutual

/-- The error and all others that it carries, at any depth. -/
def Error.all : Error → List Error
  | ⟨id, cause, additional⟩ => ⟨id, cause, additional⟩ :: Error.allOf additional

def Error.allOf : List Error → List Error
  | [] => []
  | e :: rest => e.all ++ Error.allOf rest

end

theorem Error.allOf_eq_self {errors : List Error} (hflat : ∀ e ∈ errors, e.additional = []) :
    Error.allOf errors = errors := by
  induction errors with
  | nil => rfl
  | cons e rest ih =>
      obtain ⟨he, hrest⟩ := List.forall_mem_cons.mp hflat
      obtain ⟨id, cause, additional⟩ := e
      obtain rfl : additional = [] := he
      rw [Error.allOf, ih hrest]
      rfl

/-- A flat error is listed in full by itself and those beside it. -/
theorem Error.all_eq_cons {e : Error} (hflat : ∀ x ∈ e.additional, x.additional = []) :
    e.all = e :: e.additional := by
  obtain ⟨id, cause, additional⟩ := e
  exact congrArg _ (Error.allOf_eq_self hflat)

theorem IdSet.ofList_ids (s : IdSet) : .ofList s.ids = s := by
  refine IdSet.ext_of_mem fun x => ?_
  simpa [IdSet.ofList, IdSet.empty] using IdSet.mem_foldl_insert (x := x) s.ids .empty

namespace Fault

theorem Flat.merges : Merges Flat := fun _ _ hf hg => hf.merge hg

/-- What a function or an access reports at its node is flat. -/
theorem At.flat {id : Int} {f : Fault} (hf : f.At id) : f.Flat := by
  cases f with
  | error e => exact fun x hx => (hf.2 x hx).2
  | unknown s => trivial

end Fault

theorem Activation.supports_flat {vars : Activation}
    (hbound : ∀ name f, vars.resolve name = some (.error f) → f.Flat) :
    vars.Supports (fun _ => True) Fault.Flat fun _ => True where
  values := .trivial
  merges := Fault.Flat.merges
  nodes _ _ _ hf := hf.flat
  bound name _ hresolve := ⟨fun _ => trivial, fun herror => hbound name _ (herror ▸ hresolve)⟩

/-- Evaluation fails flatly where all that is bound does. -/
theorem Planner.IsStandard.eval_flat {p : Planner} {named? : String → Option ZoneRule}
    (hp : p.IsStandard named?) {e : Expr} {plan : Plan} (hplan : p.plan e = .ok plan)
    {vars : Activation} (hbound : ∀ name f, vars.resolve name = some (.error f) → f.Flat)
    {f : Fault} (hfault : plan.eval vars = .error f) : f.Flat := by
  have hkeeps := Planner.plan_keeps hp.keeps_trivial e (fun _ _ => trivial) hplan
  exact (Plan.eval_meets (Activation.supports_flat hbound) plan hkeeps).fault hfault

namespace Exchange

/-- What a fault has become when it is received at node `id`: the same unknowns, or errors
of this node that tell the same, in the same order. -/
inductive ReceivedAt (id : Int) : Fault → Fault → Prop
  | unknown (s : IdSet) : ReceivedAt id (.unknown s) (.unknown s)
  | error {e e' : Error}
      (hmessages : (e' :: e'.additional).map Error.message = (e :: e.additional).map Error.message)
      (hall : e'.all.map Error.message = e.all.map Error.message)
      (hnode : ∀ x ∈ e'.all, x.id = id ∧ x.kind = .invalidArgument) :
      ReceivedAt id (.error e) (.error e')

theorem toError_message (id : Int) (s : Status) : (s.toError id).message = s.message := rfl

/-- Errors that are added one by one stand in a row beside the first. -/
theorem foldl_add_toError (id : Int) (statuses : List Status) (e : Error) :
    statuses.foldl (fun e s => e.add (s.toError id)) e =
      { e with additional := e.additional ++ statuses.map (Status.toError id) } := by
  induction statuses generalizing e with
  | nil =>
      rw [List.foldl_nil, List.map_nil, List.append_nil]
      cases e
      rfl
  | cons s rest ih =>
      rw [List.foldl_cons, ih]
      simp [Error.add, Error.bare, Status.toError]

/-- An error as it is sent. -/
def Status.ofError (e : Error) : Status := ⟨invalidArgumentCode, e.message⟩

/-- An error as it is received at a node: all errors stand beside the first. -/
def receivedError (id : Int) (e : Error) : Error :=
  { (Status.ofError e).toError id with
    additional := (e.additional.map Status.ofError).map (Status.toError id) }

theorem toOutcome_ofOutcome_error (id : Int) (e : Error)
    (schema schema' : Option Protobuf.Schema) :
    (Result.ofOutcome schema (.error (.error e))).toOutcome schema' id =
      .error (.error (receivedError id e)) := by
  change Except.error (Fault.error ((e.additional.map Status.ofError).foldl
    (fun e s => e.add (s.toError id)) ((Status.ofError e).toError id))) = _
  rw [foldl_add_toError]
  rfl

theorem receivedError_flat (id : Int) (e : Error) :
    ∀ x ∈ (receivedError id e).additional, x.additional = [] := by
  intro x hx
  obtain ⟨s, -, rfl⟩ := List.mem_map.mp hx
  rfl

theorem receivedError_messages (id : Int) (e : Error) :
    (receivedError id e :: (receivedError id e).additional).map Error.message =
      (e :: e.additional).map Error.message := by
  have hmessage : Error.message ∘ Status.toError id ∘ Status.ofError = Error.message :=
    funext fun x => toError_message id (Status.ofError x)
  rw [receivedError, List.map_cons, List.map_cons, List.map_map, List.map_map, hmessage]
  exact congrArg (· :: _) (toError_message id (Status.ofError e))

theorem received_error (id : Int) {e : Error} (hflat : Fault.Flat (.error e)) :
    ReceivedAt id (.error e) (.error (receivedError id e)) := by
  have hlisted := Error.all_eq_cons (receivedError_flat id e)
  refine .error (receivedError_messages id e) ?_ ?_
  · rw [hlisted, Error.all_eq_cons hflat]
    exact receivedError_messages id e
  · rw [hlisted]
    intro x hx
    rcases List.mem_cons.mp hx with rfl | hx
    · exact ⟨rfl, rfl⟩
    · obtain ⟨s, -, rfl⟩ := List.mem_map.mp hx
      exact ⟨rfl, rfl⟩

theorem received (id : Int) {f : Fault} (hflat : f.Flat)
    (schema schema' : Option Protobuf.Schema) :
    ∃ g, (Result.ofOutcome schema (.error f)).toOutcome schema' id = .error g ∧
      ReceivedAt id f g := by
  cases f with
  | error e => exact ⟨_, toOutcome_ofOutcome_error id e schema schema', received_error id hflat⟩
  | unknown s =>
      refine ⟨.unknown s, ?_, .unknown s⟩
      exact congrArg (fun s => Except.error (Fault.unknown s)) s.ofList_ids

/-- A flat fault is received with nothing missing, and what evaluation fails with is flat
if all faults that are bound are, so that it is received with nothing missing. -/
theorem fault_survives_exchange :
    (∀ (f : Fault) (id : Int) (schema schema' : Option Protobuf.Schema), f.Flat →
      ∃ g, (Result.ofOutcome schema (.error f)).toOutcome schema' id = .error g ∧
        ReceivedAt id f g) ∧
    ∀ (named? : String → Option ZoneRule) (p : Planner) (e : Expr) (plan : Plan)
      (vars : Activation), p.IsStandard named? → p.plan e = .ok plan →
      (∀ name f, vars.resolve name = some (.error f) → f.Flat) →
      ∀ f, plan.eval vars = .error f →
        f.Flat ∧ ∀ (id : Int) (schema schema' : Option Protobuf.Schema),
          ∃ g, (Result.ofOutcome schema (plan.eval vars)).toOutcome schema' id = .error g ∧
            ReceivedAt id f g := by
  refine ⟨fun f id schema schema' hflat => received id hflat schema schema', ?_⟩
  intro named? p e plan vars hp hplan hbound f hfault
  have hflat := hp.eval_flat hplan hbound hfault
  refine ⟨hflat, fun id schema schema' => ?_⟩
  rw [hfault]
  exact received id hflat schema schema'

namespace ResultWitness

/-- `x + 1 / 0` -/
def sum : Expr :=
  .call 5 "_+_" [.ident 1 "x",
    .call 4 "_/_" [.literal 2 (.scalar (.int 1)), .literal 3 (.scalar (.int 0))]]

def planner : Planner := ⟨⟨[Library.standard namedZone?, Library.strings]⟩, .empty, {}⟩

def planned : Plan :=
  .call 5 "_+_" (planner.dispatcher.candidates "_+_") [.attribute (planner.identifier 1 "x"),
    .call 4 "_/_" (planner.dispatcher.candidates "_/_")
      [.value 2 (.int 1), .value 3 (.int 0)]]

/-- A fault from elsewhere: one error with another beside it. -/
def bound : Error := ⟨77, .reported .parse "no number", [⟨78, .keyNotFound, []⟩]⟩

def host : Activation := .ofBindings ⟨[("x", .error (.error bound))]⟩

/-- What is sent: the division beside the error that `x` is bound to. -/
def sent : Error := bound.add ⟨4, .divisionByZero .int, []⟩

theorem planner_standard : planner.IsStandard namedZone? where
  registries := by simp [planner]
  provider := Or.inl rfl

theorem planned_of_plan : planner.plan sum = .ok planned := rfl

theorem host_flat (name : String) (f : Fault) (hbound : host.resolve name = some (.error f)) :
    f.Flat := by
  by_cases hname : name = "x"
  · subst hname
    obtain rfl : f = .error bound := (Except.error.inj (Option.some.inj hbound)).symm
    intro x hx
    obtain rfl := List.mem_singleton.mp hx
    rfl
  · have hnone : host.resolve name = none := by
      simp [host, Activation.ofBindings, Bindings.find?, List.lookup_cons, beq_false_of_ne hname]
    rw [hnone] at hbound
    cases hbound

theorem sent_sum_survives :
    planned.eval host = .error (.error sent) ∧
      (∃ g, (Result.ofOutcome none (.error (.unknown (.ofList [5, 4])))).toOutcome none 7 =
          .error g ∧ ReceivedAt 7 (.unknown (.ofList [5, 4])) g) ∧
      ∃ g, (Result.ofOutcome none (planned.eval host)).toOutcome none 7 = .error g ∧
        ReceivedAt 7 (.error sent) g :=
  ⟨rfl, fault_survives_exchange.1 (.unknown (.ofList [5, 4])) 7 none none trivial,
    (fault_survives_exchange.2 namedZone? planner sum planned host planner_standard planned_of_plan
      host_flat (.error sent) rfl).2 7 none none⟩

end ResultWitness

end Exchange

end CommonExpr
