import CommonExpr.Proofs.Func
import CommonExpr.Proofs.Value.Conversion
import CommonExpr.Provider

/-!
Providers that keep an invariant of values.

The literals of well-known types keep every invariant.  Main statement: a
provider over a schema keeps one if it holds of the messages that are made of
values with it, and of all that is unpacked.
-/

namespace CommonExpr

open Outcome

theorem checkFields_failsAt (id : Int) (type : String) (allowed : List String)
    (fields : List (String × Value)) : FailsAt id (checkFields id type allowed fields) := by
  unfold checkFields
  split
  · exact yields_fail
  · exact FailsAt.ok

theorem wrapperScalar_failsAt (id : Int) (kind : Protobuf.Kind) (v : Option Value) :
    FailsAt id (wrapperScalar id kind v) := by
  unfold wrapperScalar
  split
  · exact (Value.toBool_failsAt id v).map _
  · exact (Value.toInt64_failsAt id v).map _
  · exact (Value.toInt64_failsAt id v).map _
  · exact (Value.toUInt64_failsAt id v).map _
  · exact (Value.toUInt64_failsAt id v).map _
  · exact (Value.toDouble_failsAt id v).map _
  · exact (Value.toDouble_failsAt id v).map _
  · exact (Value.toText_failsAt id v).map _
  · exact (Value.toBytes_failsAt id v).map _

variable {V : Value → Prop}

/-- Whether a provider makes values with a property of values that have it. -/
structure Provider.Keeps (V : Value → Prop) (p : Provider) : Prop where
  newValue : ∀ id type fields, (∀ f ∈ fields, V f.2) → Offers id V (p.newValue id type fields)
  findIdent : ∀ id name, Offers id V (p.findIdent id name)

theorem of_lookup {fields : List (String × Value)} (hfields : ∀ f ∈ fields, V f.2)
    {name : String} {v : Value} (hv : fields.lookup name = some v) : V v := by
  obtain ⟨before, after, rfl, -⟩ := List.lookup_eq_some_iff.mp hv
  exact hfields (name, v) (by simp)

namespace Value.Invariant

variable (hV : Value.Invariant V)

include hV

theorem timeLiteral_yields (id : Int) (type : String) (seconds nanos : Int64) :
    Yields id V
      (if type = Protobuf.WellKnown.timestamp then
        Value.timestamp <$> timed id (Timestamp.normalize seconds.toInt nanos.toInt)
      else Value.duration <$> timed id (Duration.normalize seconds.toInt nanos.toInt)) := by
  split
  · exact (yields_timed fun _ => Timestamp.inRange_of_normalize).map hV.timestamp
  · exact (yields_timed fun _ => Duration.inRange_of_normalize).map hV.duration

/-- The literal of a well-known type is a wrapper, a time, or one of its fields. -/
theorem wellKnownLiteral_yields (id : Int) (type : String) {fields : List (String × Value)}
    (hfields : ∀ f ∈ fields, V f.2) : Yields id V (wellKnownLiteral id type fields) := by
  unfold wellKnownLiteral
  split
  · refine Meets.bind (wrapperScalar_failsAt id _ _) fun s _ => ?_
    refine Meets.bind (checkFields_failsAt id type _ fields) fun _ _ => ?_
    exact meets_ok.mpr (hV.wrapped s)
  · split
    · refine Meets.bind (checkFields_failsAt id type _ fields) fun _ _ => ?_
      refine Meets.bind (Value.toInt64_failsAt id _) fun seconds _ => ?_
      refine Meets.bind (Value.toInt64_failsAt id _) fun nanos _ => ?_
      exact hV.timeLiteral_yields id type seconds nanos
    · split
      · refine Meets.bind (checkFields_failsAt id type _ fields) fun _ _ => ?_
        split
        · exact meets_ok.mpr hV.null
        · next name v rest =>
            refine meets_ok.mpr ?_
            split
            · exact hV.null
            · exact hfields (name, v) List.mem_cons_self
      · split
        · refine Meets.bind (checkFields_failsAt id type _ fields) fun _ _ => ?_
          split
          · next ty entries hlookup => exact meets_ok.mpr (of_lookup hfields hlookup)
          · exact yields_fail
          · exact meets_ok.mpr hV.emptyMap
        · split
          · refine Meets.bind (checkFields_failsAt id type _ fields) fun _ _ => ?_
            split
            · next ty items hlookup => exact meets_ok.mpr (of_lookup hfields hlookup)
            · exact yields_fail
            · exact meets_ok.mpr (hV.dynList [] fun _ hv => absurd hv List.not_mem_nil)
          · exact yields_fail

theorem newWellKnown_offers (id : Int) (type : String) {fields : List (String × Value)}
    (hfields : ∀ f ∈ fields, V f.2) : Offers id V (Provider.newWellKnown id type fields) := by
  unfold Provider.newWellKnown
  split
  · exact offers_none
  · exact offers_some (hV.wellKnownLiteral_yields id type hfields)

theorem type_offers (id : Int) (t : Option Ty) :
    Offers id V (t.map fun t => .ok (.type t)) := by
  cases t with
  | none => exact offers_none
  | some t => exact offers_some (meets_ok.mpr (hV.type t))

end Value.Invariant

namespace Provider

theorem empty_keeps (hV : Value.Invariant V) : Provider.empty.Keeps V where
  newValue id type _ hfields := hV.newWellKnown_offers id type hfields
  findIdent id name := hV.type_offers id (Ty.builtin? name)

/-- A provider over a schema keeps what messages and unpacked values have. -/
theorem ofSchema_keeps (hV : Value.Invariant V) {schema : Protobuf.Schema}
    (hmessage : ∀ id type t fields m v, (∀ f ∈ fields, V f.2) → schema.message? type = some t →
      Protobuf.messageOfFields schema id t fields = .ok m → m.toValue schema id = .ok v → V v)
    (hany : ∀ id url payload v, Protobuf.unpackAny schema id url payload = .ok v → V v) :
    (Provider.ofSchema schema).Keeps V where
  newValue := by
    intro id type fields hfields
    unfold Provider.ofSchema Provider.newMessage
    dsimp only
    split
    · next result hresult =>
        exact offers_some (hV.newWellKnown_offers id type hfields result hresult)
    · split
      · exact offers_none
      · next t ht =>
          split
          · refine offers_some ?_
            refine Meets.bind (Value.toText_failsAt id _) fun url _ => ?_
            refine Meets.bind (Value.toBytes_failsAt id _) fun payload _ => ?_
            exact (Protobuf.unpackAny_failsAt schema id url payload).yields
              fun v hv => hany id url payload v hv
          · have hmade : Yields id (fun m => Protobuf.messageOfFields schema id t fields = .ok m)
                (Protobuf.messageOfFields schema id t fields) :=
              (Protobuf.messageOfFields_failsAt schema id t fields).yields fun _ hm => hm
            refine offers_some (hmade.bind fun m hm => ?_)
            exact (m.toValue_failsAt schema id).yields
              fun v hv => hmessage id type t fields m v hfields ht hm hv
  findIdent := by
    intro id name
    unfold Provider.ofSchema
    dsimp only
    split
    · exact offers_some (meets_ok.mpr (hV.scalar _))
    · exact hV.type_offers id (typeIn schema name)

end Provider

end CommonExpr
