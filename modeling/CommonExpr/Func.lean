import CommonExpr.Fault
import CommonExpr.Value.Basic

/-!
Functions.

A function is a name with an ordered list of overloads.  A call runs the first
overload that accepts its arguments.  A strict overload runs on values, guarded
by their types; a lenient one also sees the faults among its arguments and is
guarded by their number alone.
-/

namespace CommonExpr

/-- What an overload computes, given the id of the call. -/
inductive Body where
  | strict (run : (id : Int) → List Value → Outcome Value)
  | lenient (run : (id : Int) → List (Outcome Value) → Outcome Value)

/-- One implementation of a function.  The receiver is the first parameter. -/
structure Overload where
  id : String
  params : List Ty
  body : Body

/-- Whether a parameter admits values of a type. -/
def Ty.admits (param ty : Ty) : Bool := param = .dyn || param.equals ty

/-- Whether parameters admit arguments, one by one. -/
def admitAll : (params : List Ty) → (args : List Value) → Bool
  | [], [] => true
  | p :: params, v :: args => p.admits v.ty && admitAll params args
  | _, _ => false

/-- Reports that no overload of `function` takes these arguments. -/
def noOverload {α : Type} (id : Int) (function : String) (args : List Value) : Outcome α :=
  fail id (.noMatchingOverload function (args.map Value.ty))

namespace Overload

def isStrict (o : Overload) : Bool :=
  match o.body with
  | .strict _ => true
  | .lenient _ => false

def accepts (o : Overload) (args : List Value) : Bool := admitAll o.params args

/-- An overload that sees the outcomes of `arity` arguments as they are. -/
def ofOutcomes (id : String) (arity : Nat)
    (run : (id : Int) → List (Outcome Value) → Outcome Value) : Overload :=
  ⟨id, List.replicate arity .dyn, .lenient run⟩

/-- A strict overload of `function`.  Arguments of the right types but not of
the right form, such as unset fields, are reported as if no overload took them. -/
def ofValues (function id : String) (params : List Ty)
    (run : (id : Int) → List Value → Option (Outcome Value)) : Overload :=
  ⟨id, params, .strict fun node args => (run node args).getD (noOverload node function args)⟩

end Overload

/-- A function and its overloads, the first of which have priority. -/
structure Func where
  name : String
  overloads : List Overload

namespace Func

def overload? (f : Func) (id : String) : Option Overload := f.overloads.find? (·.id = id)

/-- Runs the first overload that accepts the arguments, `none` when none does.
The first strict overload met asks for the values of all arguments. -/
def dispatchAmong (id : Int) (args : List (Outcome Value)) :
    List Overload → Option (Outcome Value)
  | [] => none
  | o :: rest =>
      match o.body with
      | .lenient run =>
          if o.params.length = args.length then some (run id args) else dispatchAmong id args rest
      | .strict run =>
          match collect args with
          | .error f => some (.error f)
          | .ok values =>
              let values := values.map Value.unwrap
              if o.accepts values then some (run id values) else dispatchAmong id args rest

def dispatch (f : Func) (id : Int) (args : List (Outcome Value)) : Option (Outcome Value) :=
  dispatchAmong id args f.overloads

/-- Calls the first candidate that has an overload for the arguments. -/
def dispatchFirst (id : Int) (name : String) (args : List (Outcome Value)) :
    (candidates : List Func) → Outcome Value
  | [] =>
      match collect args with
      | .error f => .error f
      | .ok values => noOverload id name (values.map Value.unwrap)
  | f :: rest =>
      match f.dispatch id args with
      | some result => result
      | none => dispatchFirst id name args rest

end Func

end CommonExpr
