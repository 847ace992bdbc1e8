import CommonExpr.Expr

/-!
Parts of expressions.

An expression is made of operands, and what occurs in it is found by going from
operand to operand.  Main statement: what an expression has whenever its operands
have it, all expressions have.
-/

namespace CommonExpr

namespace Entry

/-- The expressions in an entry, a key before its value. -/
def operands : Entry → List Expr
  | .field _ _ value => [value]
  | .pair _ key value => [key, value]

/-- Whether an entry is one of a message, or of a map where there is no message name. -/
def Fits (message : String) : Entry → Prop
  | .field _ _ _ => message ≠ ""
  | .pair _ _ _ => message = ""

theorem sizeOf_lt_of_mem_operands {part : Expr} {entry : Entry} (hpart : part ∈ entry.operands) :
    sizeOf part < sizeOf entry := by
  cases entry with
  | field id name value =>
      rw [operands, List.mem_singleton] at hpart
      simp only [hpart, Entry.field.sizeOf_spec]
      omega
  | pair id key value =>
      simp only [operands, List.mem_cons, List.not_mem_nil, or_false] at hpart
      simp only [Entry.pair.sizeOf_spec]
      rcases hpart with rfl | rfl <;> omega

end Entry

namespace Expr

/-- The expressions right below a node, in source order. -/
def operands : Expr → List Expr
  | .literal _ _ => []
  | .ident _ _ => []
  | .select _ operand _ => [operand]
  | .has _ operand _ => [operand]
  | .call _ _ args => args
  | .memberCall _ target _ args => target :: args
  | .list _ elements => elements
  | .struct _ _ entries => entries.flatMap Entry.operands

theorem sizeOf_lt_of_mem_operands {part e : Expr} (hpart : part ∈ e.operands) :
    sizeOf part < sizeOf e := by
  cases e with
  | literal id value => exact absurd hpart List.not_mem_nil
  | ident id name => exact absurd hpart List.not_mem_nil
  | select id operand field =>
      rw [operands, List.mem_singleton] at hpart
      simp only [hpart, Expr.select.sizeOf_spec]
      omega
  | has id operand field =>
      rw [operands, List.mem_singleton] at hpart
      simp only [hpart, Expr.has.sizeOf_spec]
      omega
  | call id function args =>
      rw [operands] at hpart
      have hsize := List.sizeOf_lt_of_mem hpart
      simp only [Expr.call.sizeOf_spec]
      omega
  | memberCall id target function args =>
      rw [operands] at hpart
      have hsize := List.sizeOf_lt_of_mem hpart
      simp only [Expr.memberCall.sizeOf_spec, List.cons.sizeOf_spec] at hsize ⊢
      omega
  | list id elements =>
      rw [operands] at hpart
      have hsize := List.sizeOf_lt_of_mem hpart
      simp only [Expr.list.sizeOf_spec]
      omega
  | struct id message entries =>
      obtain ⟨entry, hentry, hpart⟩ := List.mem_flatMap.mp hpart
      have hsize := List.sizeOf_lt_of_mem hentry
      have hpart := Entry.sizeOf_lt_of_mem_operands hpart
      simp only [Expr.struct.sizeOf_spec]
      omega

/-- Induction over expressions, be their operands in lists or in entries. -/
@[elab_as_elim]
theorem induction_on_operands {motive : Expr → Prop} (e : Expr)
    (step : ∀ e, (∀ part ∈ e.operands, motive part) → motive e) : motive e :=
  step e fun part _ => induction_on_operands part step
termination_by sizeOf e
decreasing_by exact sizeOf_lt_of_mem_operands ‹_›

/-- An expression occurs in another one: as the whole of it or in an operand. -/
inductive Occurs (part : Expr) : Expr → Prop where
  | whole : Occurs part part
  | operand {e operand : Expr} (hoperand : operand ∈ e.operands) (hpart : Occurs part operand) :
      Occurs part e

end Expr

end CommonExpr
