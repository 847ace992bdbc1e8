import CommonExpr.Convert.Protobuf
import CommonExpr.Proofs.Outcome

/-!
Field values of scalar kinds.

A value fits a scalar kind if it reads as a scalar of the kind's type.  Main
statement: defaults, declared ones included, what is read from bytes and what values
convert to, all fit the kind that they are made for.
-/

namespace CommonExpr.Protobuf

open Outcome

/-- Whether a field value reads as a scalar of the type that the kind has. -/
def Kind.Fits (kind : Kind) (x : Value) : Prop := ∃ s, x.widened? = some s ∧ s.ty = kind.ty

namespace Kind

variable {kind : Kind} {x : Value}

theorem fits_of_declared {s : Scalar} (hdeclared : kind.declared s = some x) : kind.Fits x := by
  unfold Kind.declared at hdeclared
  split at hdeclared
  case h_17 => cases hdeclared
  all_goals
    obtain rfl := Option.some.inj hdeclared
    exact ⟨_, rfl, rfl⟩

theorem fits_default (schema : Schema) (hscalar : ∀ name, kind ≠ .message name) :
    kind.Fits (kind.default schema) := by
  cases kind with
  | message name => exact absurd rfl (hscalar name)
  | enum name =>
      rw [Kind.default]
      split <;> exact ⟨_, rfl, rfl⟩
  | _ => exact ⟨_, rfl, rfl⟩

theorem fits_of_read {payload : Payload} (hread : kind.read payload = some x) : kind.Fits x := by
  unfold Kind.read at hread
  split at hread
  case h_14 =>
    obtain ⟨s, -, rfl⟩ := Option.map_eq_some_iff.mp hread
    exact ⟨_, rfl, rfl⟩
  case h_17 => cases hread
  all_goals
    obtain rfl := Option.some.inj hread
    exact ⟨_, rfl, rfl⟩

theorem fits_of_readPacked {fuel : Nat} {bytes : List UInt8} {values : List Value}
    (hread : kind.readPacked fuel bytes = some values) : ∀ v ∈ values, kind.Fits v := by
  fun_induction Kind.readPacked kind fuel bytes generalizing values with
  | case1 =>
      obtain rfl := Option.some.inj hread
      exact fun _ hv => absurd hv List.not_mem_nil
  | case2 => cases hread
  | case3 fuel block hblock ih =>
      obtain ⟨⟨payload, rest⟩, -, hrest⟩ := Option.bind_eq_some_iff.mp hread
      obtain ⟨value, hvalue, hrest⟩ := Option.bind_eq_some_iff.mp hrest
      obtain ⟨others, hothers, heq⟩ := Option.bind_eq_some_iff.mp hrest
      obtain rfl := Option.some.inj heq
      exact List.forall_mem_cons.mpr ⟨fits_of_read hvalue, ih rest hothers⟩

theorem ofScalar_ensures (id : Int) (kind : Kind) (v : Option CommonExpr.Value) :
    Ensures kind.Fits (kind.ofScalar id v) := by
  cases kind with
  | message name => exact ensures_fail
  | _ => exact ensures_map fun _ => ⟨_, rfl, rfl⟩

end Kind

theorem Field.fits_defaultValue {field : Field} (schema : Schema) (hshape : field.shape = .singular)
    (hscalar : ∀ name, field.kind ≠ .message name) :
    field.kind.Fits (field.defaultValue schema) := by
  rw [Field.defaultValue, hshape]
  dsimp only
  cases hdeclared : field.default.bind field.kind.declared with
  | none => exact Kind.fits_default schema hscalar
  | some x =>
      obtain ⟨s, -, hs⟩ := Option.bind_eq_some_iff.mp hdeclared
      exact Kind.fits_of_declared hs

theorem Message.get_cases (m : Message) (field : Field) :
    m.stored? field.number = some (m.get field) ∨
      m.stored? field.number = none ∧ m.get field = field.defaultValue m.schema := by
  unfold Message.get
  cases m.stored? field.number with
  | none => exact Or.inr ⟨rfl, rfl⟩
  | some value => exact Or.inl rfl

theorem Message.stored?_of_has {m : Message} {field : Field} (hhas : m.has field = true) :
    m.stored? field.number = some (m.get field) := by
  rcases m.get_cases field with hstored | ⟨hnone, -⟩
  · exact hstored
  · rw [Message.has, hnone] at hhas
    cases hhas

end CommonExpr.Protobuf
