import CommonExpr.Proofs.Outcome
import CommonExpr.Value.Reading

/-!
What messages are read as.

Reading looks at the name of a message, and goes on to another one where a message
stands for it.  Main statement: a message that can be read is read in one of the ways
listed here, each with what it takes.
-/

namespace CommonExpr.Protobuf

/-- The types of messages that stand for a value of their own, wrappers apart. -/
def WellKnown.special : List MessageType :=
  [anyType, timestampType, durationType, valueType, structType, listValueType]

/-- The ways to read a message. -/
inductive Message.Reads (schema : Schema) (id : Int) : Message → CommonExpr.Value → Prop
  /-- A packed message is read as what is packed in it. -/
  | any {m inner : Message} {type : MessageType} {v : CommonExpr.Value}
      (hname : m.name = WellKnown.any)
      (htype : schema.message? (typeName (m.textAt 1)) = some type)
      (hdecode : decode? schema type (m.bytesAt 2) = some inner) (hread : Reads schema id inner v) :
      Reads schema id m v
  | timestamp {m : Message} {t : Timestamp} (hname : m.name = WellKnown.timestamp)
      (hnormal : Timestamp.normalize (m.intAt 1) (m.intAt 2) = .ok t) :
      Reads schema id m (.timestamp t)
  | duration {m : Message} {d : Duration} (hname : m.name = WellKnown.duration)
      (hnormal : Duration.normalize (m.intAt 1) (m.intAt 2) = .ok d) :
      Reads schema id m (.duration d)
  | null {m : Message} (hname : m.name = WellKnown.value) : Reads schema id m .null
  | scalar {m : Message} {s : Scalar} (hname : m.name = WellKnown.value) :
      Reads schema id m (.scalar s)
  /-- A JSON value that holds an object or an array is read as this. -/
  | nested {m inner : Message} {field : String} {v : CommonExpr.Value}
      (hname : m.name = WellKnown.value) (hfield : m.jsonField? = some (field, .message inner))
      (hread : Reads schema id inner v) : Reads schema id m v
  | struct {m : Message} {v : CommonExpr.Value} (hname : m.name = WellKnown.struct)
      (hmap : mapValue schema id .jsonObject (m.entriesAt 1) = .ok v) : Reads schema id m v
  | list {m : Message} (hname : m.name = WellKnown.listValue) :
      Reads schema id m (.list .dynList (.protobuf schema (m.listAt 1)))
  | wrapped {m : Message} {s : Scalar} (hwrapped : m.wrapped? = some s) :
      Reads schema id m (.wrapped s)
  | object {m : Message} (hname : m.name ∉ WellKnown.special.map (·.name))
      (hwrapped : m.wrapped? = none) : Reads schema id m (.object schema m)

theorem Message.reads_of_read {schema : Schema} {id : Int} {fuel : Nat} {m : Message}
    {v : CommonExpr.Value} (hread : m.read schema id fuel = .ok v) : m.Reads schema id v := by
  induction fuel generalizing m with
  | zero => cases hread
  | succ fuel ih =>
      unfold Message.read at hread
      split at hread
      · next hname =>
          dsimp only at hread
          split at hread
          · cases hread
          · split at hread
            · cases hread
            · next htype =>
                split at hread
                · cases hread
                · next hinner => exact .any hname htype hinner (ih hread)
      · next hany =>
          split at hread
          · next hname =>
              split at hread
              · cases hread
              · next t ht =>
                  cases hread
                  exact .timestamp hname (Outcome.eq_ok_of_timed ht)
          · next htimestamp =>
              split at hread
              · next hname =>
                  split at hread
                  · cases hread
                  · next d hd =>
                      cases hread
                      exact .duration hname (Outcome.eq_ok_of_timed hd)
              · next hduration =>
                  split at hread
                  · next hname =>
                      split at hread
                      · cases hread
                        exact .scalar hname
                      · cases hread
                        exact .scalar hname
                      · cases hread
                        exact .scalar hname
                      · next hfield => exact .nested hname hfield (ih hread)
                      · next hfield => exact .nested hname hfield (ih hread)
                      · cases hread
                        exact .null hname
                  · next hvalue =>
                      split at hread
                      · next hname => exact .struct hname hread
                      · next hstruct =>
                          split at hread
                          · next hname =>
                              cases hread
                              exact .list hname
                          · next hlist =>
                              split at hread
                              · next s hs =>
                                  cases hread
                                  exact .wrapped hs
                              · next hnone =>
                                  cases hread
                                  refine .object ?_ hnone
                                  simp [WellKnown.special, WellKnown.anyType,
                                    WellKnown.timestampType, WellKnown.durationType,
                                    WellKnown.valueType, WellKnown.structType,
                                    WellKnown.listValueType, *]

/-- A packed message that can be read is of a type of the schema, and encoded. -/
theorem reads_of_unpackAny {schema : Schema} {id : Int} {url : String} {payload : List UInt8}
    {v : CommonExpr.Value} (hread : unpackAny schema id url payload = .ok v) :
    ∃ type inner, schema.message? (typeName url) = some type ∧
      decode? schema type payload = some inner ∧ inner.Reads schema id v := by
  rw [unpackAny, Message.toValue, Message.read, if_pos (by rfl)] at hread
  dsimp only at hread
  split at hread
  · cases hread
  · split at hread
    · cases hread
    · next type htype =>
        split at hread
        · cases hread
        · next inner hinner => exact ⟨type, inner, htype, hinner, Message.reads_of_read hread⟩

end CommonExpr.Protobuf
