import CommonExpr.Text.Utf8
import CommonExpr.Time.Span
import CommonExpr.Ty

/-!
Faults: what evaluation yields in place of a value.

A fault is an error with the errors of its sibling expressions, or the set of
ids of expressions whose values are not known.  Faults merge: unknowns win over
errors, sets of unknowns are united, and the first error keeps the others.
-/

namespace CommonExpr

/-- The classes of errors. -/
inductive ErrorKind where
  | invalidArgument
  | typeMismatch
  | typeNotFound
  | unrecognizedAny
  | unresolvedAttribute
  | undeclaredReference
  | badAccess
  | mapKeyConflict
  | unboundFunction
  | noMatchingOverload
  | divisionByZero
  | moduloByZero
  | overflow
  | parse
  | invalidTimezone
  | range
  | indexOutOfBounds
  | fieldNotFound
  | keyNotFound
  | unsupportedKeyType
  deriving DecidableEq, Repr

/-- Why an evaluation failed. -/
inductive Cause where
  | invalidArgument (function issue : String)
  | typeMismatch (expected : String) (actual : Ty)
  | typeNotFound (name : String)
  | unrecognizedAny (url : String)
  | emptyAnyUrl
  | unregisteredAny (url : String)
  | unresolvedAttribute
  | undeclaredReference (name container : String)
  | badIndexAccess (ty : Ty)
  | badStringAccess (ty : Ty)
  | mapKeyConflict (key : String)
  | unboundFunction (function : String)
  | noMatchingOverload (function : String) (types : List Ty)
  | divisionByZero (ty : Ty)
  | moduloByZero (ty : Ty)
  | overflow (operation : String) (ty : Ty)
  | brokenText (fault : Utf8.Fault)
  | time (fault : TimeFault)
  | indexOutOfBounds (index : Int) (length : Nat)
  | fieldNotFound (name : String) (type : Option String)
  | keyNotFound
  | unsupportedKeyType
  /-- An error that a host or another evaluator reports in its own words. -/
  | reported (kind : ErrorKind) (message : String)
  deriving DecidableEq, Repr

/-- The class of a time fault. -/
def TimeFault.kind : TimeFault → ErrorKind
  | .timestampRange => .range
  | .durationRange => .range
  | .timestampText _ => .parse
  | .durationText _ => .parse
  | .unknownZone _ => .invalidTimezone

namespace Cause

def kind : Cause → ErrorKind
  | .invalidArgument _ _ => .invalidArgument
  | .typeMismatch _ _ => .typeMismatch
  | .typeNotFound _ => .typeNotFound
  | .unrecognizedAny _ => .unrecognizedAny
  | .emptyAnyUrl => .unrecognizedAny
  | .unregisteredAny _ => .unrecognizedAny
  | .unresolvedAttribute => .unresolvedAttribute
  | .undeclaredReference _ _ => .undeclaredReference
  | .badIndexAccess _ => .badAccess
  | .badStringAccess _ => .badAccess
  | .mapKeyConflict _ => .mapKeyConflict
  | .unboundFunction _ => .unboundFunction
  | .noMatchingOverload _ _ => .noMatchingOverload
  | .divisionByZero _ => .divisionByZero
  | .moduloByZero _ => .moduloByZero
  | .overflow _ _ => .overflow
  | .brokenText _ => .parse
  | .time fault => fault.kind
  | .indexOutOfBounds _ _ => .indexOutOfBounds
  | .fieldNotFound _ _ => .fieldNotFound
  | .keyNotFound => .keyNotFound
  | .unsupportedKeyType => .unsupportedKeyType
  | .reported kind _ => kind

/-- The words of an error. -/
def message : Cause → String
  | .invalidArgument function issue => s!"invalid argument to function {function}: {issue}"
  | .typeMismatch expected actual => s!"type mismatch: {expected} vs " ++ actual.name
  | .typeNotFound name => s!"type not found: {name}"
  | .unrecognizedAny url => s!"unrecognized any type: {url}"
  | .emptyAnyUrl => "Unpack Any failed: invalid empty type_url"
  | .unregisteredAny url => s!"Unpack Any failed: type_url {url} not in registry"
  | .unresolvedAttribute => "unresolved attribute"
  | .undeclaredReference name container =>
      s!"undeclared reference to '{name}' (in container '{container}')"
  | .badIndexAccess ty => "index access not supported for " ++ ty.fullName
  | .badStringAccess ty => ty.fullName ++ " cannot be accessed by string"
  | .mapKeyConflict key => s!"map key conflict: {key}"
  | .unboundFunction function => s!"unbound function: {function}"
  | .noMatchingOverload function types =>
      s!"found no matching overload for '{function}' applied to '(" ++
        ", ".intercalate (types.map Ty.name) ++ ")'"
  | .divisionByZero ty => ty.name ++ " divide by zero"
  | .moduloByZero ty => ty.name ++ " modulus by zero"
  | .overflow operation ty => ty.name ++ s!" return error for overflow during {operation}"
  | .brokenText fault => "Failed to decode bytes as string: " ++ fault.message
  | .time fault => fault.message
  | .indexOutOfBounds index length => s!"index {index} out of bounds [0, {length})"
  | .fieldNotFound name none => s!"field not found: {name}"
  | .fieldNotFound name (some type) => s!"field not found: {name} in {type}"
  | .keyNotFound => "key not found"
  | .unsupportedKeyType => "unsupported key type"
  | .reported _ message => message

end Cause

/-- An error at an expression, with the errors found beside it. -/
structure Error where
  id : Int
  cause : Cause
  additional : List Error := []

namespace Error

def kind (e : Error) : ErrorKind := e.cause.kind

def message (e : Error) : String := e.cause.message

/-- The error without the others it carries. -/
def bare (e : Error) : Error := { e with additional := [] }

/-- Keeps `other`, and all that it carries, beside this error. -/
def add (e other : Error) : Error :=
  { e with additional := e.additional ++ other.bare :: other.additional }

end Error

/-- A set of expression ids, in ascending order. -/
structure IdSet where
  ids : List Int
  ascending : ids.Pairwise (· < ·)

namespace IdSet

/-- Adds an id to an ascending list. -/
def insertId (id : Int) : List Int → List Int
  | [] => [id]
  | head :: rest =>
      if id < head then id :: head :: rest
      else if id = head then head :: rest
      else head :: insertId id rest

theorem mem_insertId {x id : Int} {ids : List Int} :
    x ∈ insertId id ids ↔ x = id ∨ x ∈ ids := by
  induction ids with
  | nil => simp [insertId]
  | cons head rest ih =>
      unfold insertId
      split
      · simp
      · split
        · next heq => simp [heq]
        · simp only [List.mem_cons, ih]
          grind

theorem insertId_ascending {id : Int} {ids : List Int} (h : ids.Pairwise (· < ·)) :
    (insertId id ids).Pairwise (· < ·) := by
  induction ids with
  | nil => simp [insertId]
  | cons head rest ih =>
      rw [List.pairwise_cons] at h
      unfold insertId
      split
      · next hlt =>
          refine List.pairwise_cons.2 ⟨?_, List.pairwise_cons.2 h⟩
          intro x hx
          rcases List.mem_cons.1 hx with rfl | hx
          · exact hlt
          · exact Int.lt_trans hlt (h.1 x hx)
      · split
        · exact List.pairwise_cons.2 h
        · refine List.pairwise_cons.2 ⟨?_, ih h.2⟩
          intro x hx
          rcases mem_insertId.1 hx with rfl | hx
          · omega
          · exact h.1 x hx

def empty : IdSet := ⟨[], List.Pairwise.nil⟩

def insert (id : Int) (s : IdSet) : IdSet := ⟨insertId id s.ids, insertId_ascending s.ascending⟩

def ofList (ids : List Int) : IdSet := ids.foldl (fun s id => s.insert id) empty

def union (a b : IdSet) : IdSet := b.ids.foldl (fun s id => s.insert id) a

end IdSet

/-- Evaluation without a value. -/
inductive Fault where
  | error (e : Error)
  | unknown (ids : IdSet)

/-- A value or a fault. -/
abbrev Outcome (α : Type) := Except Fault α

namespace Fault

/-- The fault of two expressions side by side. -/
def merge : Fault → Fault → Fault
  | .unknown a, .unknown b => .unknown (a.union b)
  | .unknown a, .error _ => .unknown a
  | .error _, .unknown b => .unknown b
  | .error a, .error b => .error (a.add b)

def isUnknown : Fault → Bool
  | .unknown _ => true
  | .error _ => false

/-- The first error of an error fault. -/
def error? : Fault → Option Error
  | .error e => some e
  | .unknown _ => none

/-- The fault in words. -/
def display : Fault → String
  | .error e => e.message
  | .unknown s => "unknown expressions \x7b" ++ ", ".intercalate (s.ids.map toString) ++ "\x7d"

/-- The merge of all faults of a list. -/
def mergeAll : List Fault → Option Fault
  | [] => none
  | f :: rest => some (rest.foldl merge f)

end Fault

/-- Fails at node `id`. -/
def fail {α : Type} (id : Int) (cause : Cause) : Outcome α := .error (.error ⟨id, cause, []⟩)

/-- What there is, or a failure at node `id`. -/
def orFail {α : Type} (id : Int) (cause : Cause) : Option α → Outcome α
  | some a => .ok a
  | none => fail id cause

/-- Fails at node `id` for a fault of time. -/
def timed {α : Type} (id : Int) : Except TimeFault α → Outcome α
  | .ok a => .ok a
  | .error fault => fail id (.time fault)

/-- Collects on top of the values and the fault seen so far. -/
def collectFrom {α : Type} (values : List α) (fault : Option Fault) :
    List (Outcome α) → Outcome (List α)
  | [] =>
      match fault with
      | none => .ok values.reverse
      | some f => .error f
  | .ok v :: rest => collectFrom (v :: values) fault rest
  | .error f :: rest =>
      collectFrom values (some (match fault with | none => f | some g => g.merge f)) rest

/-- All values in order, or the merge of all faults. -/
def collect {α : Type} (outcomes : List (Outcome α)) : Outcome (List α) :=
  collectFrom [] none outcomes

end CommonExpr
