import CommonExpr.Fault
import CommonExpr.Value.Basic

/-!
Variables.  A name is bound to an outcome and not just to a value: a host binds
a name to an unknown to have everything else evaluated without it.
-/

namespace CommonExpr

/-- Names with their outcomes, each name once. -/
structure Bindings where
  entries : List (String × Outcome Value) := []

namespace Bindings

def find? (b : Bindings) (name : String) : Option (Outcome Value) := b.entries.lookup name

/-- Drops the binding of a name. -/
def erase (b : Bindings) (name : String) : Bindings := ⟨b.entries.filter (·.1 != name)⟩

/-- Binds a name, in place of what it was bound to. -/
def insert (b : Bindings) (name : String) (outcome : Outcome Value) : Bindings :=
  ⟨(b.erase name).entries ++ [(name, outcome)]⟩

/-- The last binding of a name counts. -/
def ofList (entries : List (String × Outcome Value)) : Bindings :=
  entries.foldl (fun b (name, outcome) => b.insert name outcome) {}

def names (b : Bindings) : List String := b.entries.map (·.1)

def size (b : Bindings) : Nat := b.entries.length

def isEmpty (b : Bindings) : Bool := b.entries.isEmpty

end Bindings

/-- What evaluation knows of variables. -/
structure Activation where
  resolve : String → Option (Outcome Value)

namespace Activation

/-- Whether a name is bound, be it to a fault. -/
def binds (vars : Activation) (name : String) : Bool := (vars.resolve name).isSome

def empty : Activation := ⟨fun _ => none⟩

def ofBindings (b : Bindings) : Activation := ⟨b.find?⟩

/-- Local bindings shadow those outside. -/
def layer (locals : Bindings) (outer : Activation) : Activation :=
  ⟨fun name => (locals.find? name).or (outer.resolve name)⟩

/-- Layers over an activation, the last of them innermost. -/
def layers (outer : Activation) (locals : List Bindings) : Activation :=
  locals.foldl (fun vars b => layer b vars) outer

end Activation

end CommonExpr
