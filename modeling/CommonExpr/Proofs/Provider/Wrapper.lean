import CommonExpr.Proofs.Convert.Field
import CommonExpr.Proofs.Provider.Fields

/-!
Literals of wrappers and wrapper messages.

A wrapper literal holds its scalar with full width, whereas the wrapper message that a value
becomes stores it with the width of its kind.  Main statement: the two agree, as to whether
there is a result and what it is read as, just if the scalar of the literal is one that the
kind represents.
-/

namespace CommonExpr

open Outcome

namespace Protobuf

/-! Narrowing -/

namespace Kind

/-- The zero of the scalars that are read from fields of a kind that wrappers have. -/
def zero : Kind → Scalar
  | .bool => .bool false
  | .int32 => .int 0
  | .int64 => .int 0
  | .uint32 => .uint 0
  | .uint64 => .uint 0
  | .float => .double .zero
  | .double => .double .zero
  | .string => .string ""
  | _ => .bytes []

/-- Whether a scalar of full width is one that the width of a kind holds. -/
def Represents : Kind → Scalar → Prop
  | .int32, .int i => -2147483648 ≤ i.toInt ∧ i.toInt < 2147483648
  | .uint32, .uint u => u.toNat < 4294967296
  | .float, .double d => d.toSingle.toDouble = d
  | _, _ => True

/-- A scalar of full width as a field value of a kind that wrappers have. -/
def narrow (id : Int) : Kind → Scalar → Outcome Value
  | .int32, .int i => .int32 <$> narrowInt id i
  | .uint32, .uint u => .uint32 <$> narrowUInt id u
  | .float, .double d => .ok (.float d.toSingle)
  | _, .bool b => .ok (.bool b)
  | _, .int i => .ok (.int64 i)
  | _, .uint u => .ok (.uint64 u)
  | _, .double d => .ok (.double d)
  | _, .string s => .ok (.string s)
  | _, .bytes b => .ok (.bytes b)

theorem narrow_int32_iff (id : Int) (i : Int64) :
    (∃ x, narrow id .int32 (.int i) = .ok x ∧ x.widened? = some (.int i)) ↔
      Represents .int32 (.int i) := by
  constructor
  · rintro ⟨x, hx, -⟩
    obtain ⟨n, hn, -⟩ := map_eq_ok_iff.mp hx
    have hi := int32?_eq_some_iff.mp (orFail_eq_ok_iff.mp hn)
    have hlower := n.le_toInt
    have hupper := n.toInt_lt
    exact ⟨by omega, by omega⟩
  · rintro ⟨hlow, hhigh⟩
    have hback : (Int32.ofInt i.toInt).toInt = i.toInt := Int32.toInt_ofInt_of_le hlow (by omega)
    refine ⟨.int32 (Int32.ofInt i.toInt), ?_, ?_⟩
    · refine map_eq_ok_iff.mpr ⟨_, ?_, rfl⟩
      exact orFail_eq_ok_iff.mpr (int32?_eq_some_iff.mpr hback.symm)
    · rw [Value.widened?, hback, Int64.ofInt_toInt]

theorem narrow_uint32_iff (id : Int) (u : UInt64) :
    (∃ x, narrow id .uint32 (.uint u) = .ok x ∧ x.widened? = some (.uint u)) ↔
      Represents .uint32 (.uint u) := by
  constructor
  · rintro ⟨x, hx, -⟩
    obtain ⟨n, hn, -⟩ := map_eq_ok_iff.mp hx
    have hu := uint32?_eq_some_iff.mp (orFail_eq_ok_iff.mp hn)
    have hupper := n.toNat_lt
    simp only [Represents]
    omega
  · intro hhigh
    have hback : (UInt32.ofNat u.toNat).toNat = u.toNat :=
      UInt32.toNat_ofNat_of_lt' (by rw [UInt32.size]; exact hhigh)
    refine ⟨.uint32 (UInt32.ofNat u.toNat), ?_, ?_⟩
    · refine map_eq_ok_iff.mpr ⟨_, ?_, rfl⟩
      exact orFail_eq_ok_iff.mpr (uint32?_eq_some_iff.mpr (by rw [hback]))
    · rw [Value.widened?, hback, UInt64.ofNat_toNat]

namespace Wrappable

variable {kind : Kind}

/-- A scalar that is narrowed is read as it was just if the kind represents it. -/
theorem narrow_iff (hkind : kind.Wrappable) {s : Scalar} (hs : s.ty = kind.ty) (id : Int) :
    (∃ x, narrow id kind s = .ok x ∧ x.widened? = some s) ↔ kind.Represents s := by
  cases hkind with
  | int32 =>
      cases s <;> cases hs
      exact narrow_int32_iff id _
  | uint32 =>
      cases s <;> cases hs
      exact narrow_uint32_iff id _
  | _ =>
      cases s <;> cases hs
      simp [narrow, Represents, Value.widened?]

/-- A value is stored in a wrapper as its literal's scalar is, narrowed. -/
theorem ofScalar_eq_bind_narrow (hkind : kind.Wrappable) (id : Int)
    (v : Option CommonExpr.Value) :
    kind.ofScalar id v = wrapperScalar id kind v >>= narrow id kind := by
  cases hkind
  all_goals simp only [ofScalar, wrapperScalar, bind_map_left, narrow]
  case int32 => exact map_bind _ _ _
  case uint32 => exact map_bind _ _ _
  all_goals exact map_eq_pure_bind _ _

theorem wrapperScalar_ty (hkind : kind.Wrappable) {id : Int} {v : Option CommonExpr.Value}
    {s : Scalar} (hs : wrapperScalar id kind v = .ok s) : s.ty = kind.ty := by
  cases hkind
  all_goals
    obtain ⟨a, -, rfl⟩ := map_eq_ok_iff.mp hs
    rfl

/-- Nothing converts as the zero of its kind does. -/
theorem wrapperScalar_none (hkind : kind.Wrappable) (id : Int) :
    wrapperScalar id kind none = wrapperScalar id kind (some (.scalar kind.zero)) := by
  cases hkind <;> rfl

end Wrappable

end Kind

/-! Literals and messages -/

/-- Whether a value and a message are made both or neither, and the message is read as the
value. -/
def Agrees (literal : Outcome CommonExpr.Value) (made : Outcome Message) : Prop :=
  ((∃ v, literal = .ok v) ↔ ∃ m, made = .ok m) ∧
    ∀ v m, literal = .ok v → made = .ok m → ∀ schema id, m.toValue schema id = .ok v

theorem agrees_error (f f' : Fault) : Agrees (.error f) (.error f') := by
  constructor
  · simp
  · intro v m hv
    cases hv

/-- A value agrees with the messages that are read as it. -/
theorem agrees_ok_iff {v : CommonExpr.Value} {made : Outcome Message} :
    Agrees (.ok v) made ↔ ∃ m, made = .ok m ∧ ∀ schema id, m.toValue schema id = .ok v := by
  constructor
  · rintro ⟨hboth, hread⟩
    obtain ⟨m, hm⟩ := hboth.mp ⟨v, rfl⟩
    exact ⟨m, hm, hread v m rfl hm⟩
  · rintro ⟨m, rfl, hread⟩
    constructor
    · exact ⟨fun _ => ⟨m, rfl⟩, fun _ => ⟨v, rfl⟩⟩
    · rintro _ _ ⟨⟩ ⟨⟩
      exact hread

variable {t : MessageType} {kind : Kind}

/-- The message of a wrapper agrees with the scalar just if the scalar needs no more width. -/
theorem agrees_wrapper_iff (ht : t ∈ wrapperTypes) (hkind : wrapperKind? t.name = some kind)
    (schema : Schema) (id : Int) (v : CommonExpr.Value) :
    Agrees (.wrapped <$> wrapperScalar id kind (some v)) (messageOf schema id t v) ↔
      ∀ s, wrapperScalar id kind (some v) = .ok s → kind.Represents s := by
  have hwrappable := Kind.Wrappable.of_wrapperKind? hkind
  have hstored := hwrappable.ofScalar_eq_bind_narrow id (some v)
  have hfield : t.field? "value" = some (.one 1 "value" kind) := by
    obtain ⟨kind', hkind', htype⟩ := mem_wrapperTypes ht
    obtain rfl := Option.some.inj (hkind'.symm.trans hkind)
    rw [htype]
    rfl
  have hread : ∀ x s, x.widened? = some s → ∀ schema' id',
      (single schema t "value" x).toValue schema' id' = .ok (.wrapped s) := by
    intro x s hx
    exact Message.toValue_wrapper (wrapped?_single hkind hfield hx schema)
  have hmade := messageOf_wrapper hkind schema id v
  cases hs : wrapperScalar id kind (some v) with
  | error f =>
      rw [hs] at hstored
      rw [hmade, hstored]
      refine iff_of_true (agrees_error f f) ?_
      intro s hok
      cases hok
  | ok s =>
      have hnarrow := hwrappable.narrow_iff (hwrappable.wrapperScalar_ty hs) id
      rw [hs] at hstored
      rw [hmade]
      refine agrees_ok_iff.trans ?_
      constructor
      · rintro ⟨m, hm, hvalue⟩ s' hs'
        obtain rfl := Except.ok.inj hs'
        obtain ⟨x, hx, rfl⟩ := map_eq_ok_iff.mp hm
        obtain ⟨s', hx', -⟩ := (Kind.ofScalar_ensures id kind (some v)).value hx
        -- what the message is read as is the scalar that its field is read as
        have hsame := (hvalue schema id).symm.trans (hread x s' hx' schema id)
        cases hsame
        exact hnarrow.mp ⟨x, hstored.symm.trans hx, hx'⟩
      · intro hrepresents
        obtain ⟨x, hx, hwidened⟩ := hnarrow.mpr (hrepresents s rfl)
        exact ⟨_, map_eq_ok_iff.mpr ⟨x, hstored.trans hx, rfl⟩, hread x s hwidened⟩

end Protobuf

open Protobuf

/-- A wrapper literal is the scalar that its operand converts to. -/
theorem wellKnownLiteral_wrapper {type : String} {kind : Kind}
    (hkind : wrapperKind? type = some kind) (id : Int) {fields : List (String × Value)}
    (hfields : ∀ e ∈ fields, e.1 = "value") :
    wellKnownLiteral id type fields =
      .wrapped <$> wrapperScalar id kind
        (some ((fields.lookup "value").getD (.scalar kind.zero))) := by
  have hchecked : checkFields id type ["value"] fields = .ok () :=
    checkFields_eq_ok id type fun e he => List.mem_singleton.mpr (hfields e he)
  have hoperand : wrapperScalar id kind (fields.lookup "value") =
      wrapperScalar id kind (some ((fields.lookup "value").getD (.scalar kind.zero))) := by
    cases fields.lookup "value" with
    | none => exact (Kind.Wrappable.of_wrapperKind? hkind).wrapperScalar_none id
    | some v => rfl
  unfold wellKnownLiteral
  rw [hkind]
  simp only [hchecked, hoperand]
  exact (map_eq_pure_bind _ _).symm

/-- Either provider makes a wrapper literal of its operand, or of zero if there is none; the
literal and the wrapper message that the operand becomes agree just if the scalar of the
literal is one that the kind represents. -/
theorem Provider.wrapper_literal_agrees_iff (schema : Schema) (id : Int) {t : MessageType}
    (ht : t ∈ wrapperTypes) {kind : Kind} (hkind : wrapperKind? t.name = some kind)
    {fields : List (String × Value)} (hfields : ∀ e ∈ fields, e.1 = "value") :
    ∃ literal, Provider.empty.newValue id t.name fields = some literal ∧
      (Provider.ofSchema schema).newValue id t.name fields = some literal ∧
      (Agrees literal
          (messageOf schema id t ((fields.lookup "value").getD (.scalar kind.zero))) ↔
        ∀ s, literal = .ok (.wrapped s) → kind.Represents s) := by
  have hknown : t ∈ WellKnown.types := List.mem_append_right _ ht
  have hany := (ne_special_of_wrapperKind? hkind).1
  refine ⟨_, newWellKnown_of_mem hknown hany id fields,
    newMessage_wellKnown hknown hany schema id fields, ?_⟩
  rw [wellKnownLiteral_wrapper hkind id hfields, agrees_wrapper_iff ht hkind]
  refine forall_congr' fun s => imp_congr_left ?_
  simp [map_eq_ok_iff]

namespace WrapperWitness

def schema : Schema := ⟨[WellKnown.file "wrappers" [] wrapperTypes]⟩

def floatType : MessageType := ⟨"google.protobuf.FloatValue", [.one 1 "value" .float]⟩

def intType : MessageType := ⟨"google.protobuf.Int32Value", [.one 1 "value" .int32]⟩

/-- The double nearest to a tenth, which no number of 32 bits is. -/
def tenth : Double := ⟨0x3fb999999999999a⟩

theorem tenth_not_represented : ¬ Kind.Represents .float (.double tenth) := by
  have hround : tenth.toSingle.toDouble ≠ tenth := by decide +kernel
  exact hround

/-- A literal without operand agrees with its message, that of a tenth does not. -/
theorem float_literals :
    floatType ∈ wrapperTypes ∧ wrapperKind? floatType.name = some .float ∧
      Agrees (.ok (.wrapped (.double .zero)))
        (messageOf schema 1 floatType (.scalar (.double .zero))) ∧
      (Provider.ofSchema schema).newValue 1 floatType.name [("value", .double tenth)] =
        some (.ok (.wrapped (.double tenth))) ∧
      ¬ Agrees (.ok (.wrapped (.double tenth))) (messageOf schema 1 floatType (.double tenth)) := by
  have hmem : floatType ∈ wrapperTypes := by decide
  have hzero : Kind.Represents .float (.double .zero) := by
    have hround : Double.zero.toSingle.toDouble = Double.zero := by decide +kernel
    exact hround
  have hnone : ∀ e ∈ ([] : List (String × Value)), e.1 = "value" := by decide
  have htenth : ∀ e ∈ [("value", Value.double tenth)], e.1 = "value" := by decide
  obtain ⟨literal, hempty, -, hiff⟩ :=
    Provider.wrapper_literal_agrees_iff schema 1 hmem rfl hnone
  obtain ⟨literal', hempty', hmade, hiff'⟩ :=
    Provider.wrapper_literal_agrees_iff schema 1 hmem rfl htenth
  obtain rfl := Option.some.inj hempty
  obtain rfl := Option.some.inj hempty'
  refine ⟨hmem, rfl, hiff.mpr ?_, hmade, ?_⟩
  · rintro s ⟨⟩
    exact hzero
  · intro hagrees
    exact tenth_not_represented (hiff'.mp hagrees _ rfl)

/-- A literal of 32 bits is made of an operand that needs more, where the message is refused. -/
theorem oversized_literal_made :
    (Provider.ofSchema schema).newValue 1 intType.name [("value", .int 2147483648)] =
        some (.ok (.wrapped (.int 2147483648))) ∧
      messageOf schema 1 intType (.int 2147483648) = fail 1 (.overflow "conversion" .int) ∧
      ¬ Agrees (.ok (.wrapped (.int 2147483648)))
        (messageOf schema 1 intType (.int 2147483648)) := by
  have hrefused : messageOf schema 1 intType (.int 2147483648) =
      fail 1 (.overflow "conversion" .int) := rfl
  refine ⟨rfl, hrefused, ?_⟩
  rintro ⟨hboth, -⟩
  obtain ⟨m, hm⟩ := hboth.mp ⟨_, rfl⟩
  cases hrefused.symm.trans hm

end WrapperWitness

end CommonExpr
