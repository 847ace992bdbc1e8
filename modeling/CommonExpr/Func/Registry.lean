import CommonExpr.Func

/-!
Registries of functions and their order of priority.

A registry holds its own functions, one of each name, in front of those of its
ancestors.  A dispatcher consults registries in order and offers every function
of a name that one of them knows.
-/

namespace CommonExpr

/-- Why a function cannot be registered. -/
inductive RegistryFault where
  | duplicateFunction (name : String)
  | duplicateOverload (function overload : String)
  deriving DecidableEq, Repr

def RegistryFault.message : RegistryFault → String
  | .duplicateFunction name => s!"function {name} already registered"
  | .duplicateOverload function overload =>
      s!"overload {overload} of {function} already registered"

/-- The first function of a name. -/
def findFunc? (name : String) (functions : List Func) : Option Func :=
  functions.find? (·.name = name)

/-- The first overload id that an earlier overload has already. -/
def repeatedOverload? : (seen : List String) → List Overload → Option String
  | _, [] => none
  | seen, o :: rest =>
      if seen.contains o.id then some o.id else repeatedOverload? (o.id :: seen) rest

/-- Functions by name.  The functions of the ancestors, nearest first, answer
for names that the registry itself lacks. -/
structure Registry where
  functions : List Func := []
  ancestors : List (List Func) := []

namespace Registry

/-- A registry of functions with distinct names. -/
def ofFunctions (functions : List Func) : Registry := ⟨functions, []⟩

/-- An empty registry in front of another. -/
def under (parent : Registry) : Registry := ⟨[], parent.functions :: parent.ancestors⟩

def find? (r : Registry) (name : String) : Option Func :=
  (r.functions :: r.ancestors).findSome? (findFunc? name)

def contains (r : Registry) (name : String) : Bool := (r.find? name).isSome

def size (r : Registry) : Nat := r.functions.length

def isEmpty (r : Registry) : Bool := r.functions.isEmpty

/-- Registers a function of a new name and with distinct overload ids. -/
def add (r : Registry) (f : Func) : Except RegistryFault Registry :=
  if (findFunc? f.name r.functions).isSome then .error (.duplicateFunction f.name)
  else
    match repeatedOverload? [] f.overloads with
    | some id => .error (.duplicateOverload f.name id)
    | none => .ok { r with functions := r.functions ++ [f] }

/-- Registers functions up to the first that is refused, and tells why it was. -/
def addAll (r : Registry) : List Func → Registry × Option RegistryFault
  | [] => (r, none)
  | f :: rest =>
      match r.add f with
      | .error fault => (r, some fault)
      | .ok r => r.addAll rest

end Registry

/-- Registries in order of priority. -/
structure Dispatcher where
  registries : List Registry

namespace Dispatcher

/-- Adds a registry of least priority. -/
def append (d : Dispatcher) (r : Registry) : Dispatcher := ⟨d.registries ++ [r]⟩

/-- Adds a registry of highest priority. -/
def prepend (d : Dispatcher) (r : Registry) : Dispatcher := ⟨r :: d.registries⟩

/-- Every function of a name, the one of highest priority first. -/
def candidates (d : Dispatcher) (name : String) : List Func :=
  d.registries.filterMap (·.find? name)

def dispatch (d : Dispatcher) (id : Int) (name : String) (args : List (Outcome Value)) :
    Outcome Value :=
  Func.dispatchFirst id name args (d.candidates name)

end Dispatcher

end CommonExpr
