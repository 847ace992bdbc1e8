import CommonExpr.Convert.Protobuf
import CommonExpr.Proofs.Value.Reading

/-!
Where conversion fails.

Values become scalars, fields and messages on behalf of a node.  Main statement:
a message that cannot be made of named values fails at this node, be it for a
value itself or for something that had to be read from it.
-/

namespace CommonExpr

open Outcome

namespace Value

theorem toBool_failsAt (id : Int) (v : Option Value) : FailsAt id (toBool id v) := by
  unfold toBool
  split
  · exact FailsAt.ok
  · exact FailsAt.ok
  · exact yields_fail

theorem toInt64_failsAt (id : Int) (v : Option Value) : FailsAt id (toInt64 id v) := by
  unfold toInt64
  split
  · exact FailsAt.ok
  · exact FailsAt.ok
  · exact FailsAt.orFail id _ _
  · exact FailsAt.orFail id _ _
  · exact yields_fail

theorem toUInt64_failsAt (id : Int) (v : Option Value) : FailsAt id (toUInt64 id v) := by
  unfold toUInt64
  split
  · exact FailsAt.ok
  · exact FailsAt.ok
  · exact FailsAt.orFail id _ _
  · exact FailsAt.orFail id _ _
  · exact yields_fail

theorem toDouble_failsAt (id : Int) (v : Option Value) : FailsAt id (toDouble id v) := by
  unfold toDouble
  split
  · exact FailsAt.ok
  · exact FailsAt.ok
  · exact FailsAt.ok
  · exact FailsAt.ok
  · exact yields_fail

theorem toText_failsAt (id : Int) (v : Option Value) : FailsAt id (toText id v) := by
  unfold toText
  split
  · exact FailsAt.ok
  · exact FailsAt.ok
  · exact yields_fail

theorem toBytes_failsAt (id : Int) (v : Option Value) : FailsAt id (toBytes id v) := by
  unfold toBytes
  split
  · exact FailsAt.ok
  · exact FailsAt.ok
  · exact yields_fail

end Value

namespace Protobuf

theorem narrowInt_failsAt (id : Int) (i : Int64) : FailsAt id (narrowInt id i) :=
  FailsAt.orFail id _ _

theorem narrowUInt_failsAt (id : Int) (u : UInt64) : FailsAt id (narrowUInt id u) :=
  FailsAt.orFail id _ _

theorem lookupType_failsAt (schema : Schema) (id : Int) (name : String) :
    FailsAt id (lookupType schema id name) :=
  FailsAt.orFail id _ _

theorem Kind.ofScalar_failsAt (id : Int) (kind : Kind) (v : Option CommonExpr.Value) :
    FailsAt id (kind.ofScalar id v) := by
  have hint := Value.toInt64_failsAt id v
  have huint := Value.toUInt64_failsAt id v
  cases kind with
  | double =>
      rw [Kind.ofScalar]
      exact (Value.toDouble_failsAt id v).map _
  | float =>
      rw [Kind.ofScalar]
      exact (Value.toDouble_failsAt id v).map _
  | int32 =>
      rw [Kind.ofScalar]
      exact (hint.bind (narrowInt_failsAt id)).map _
  | sint32 =>
      rw [Kind.ofScalar]
      exact (hint.bind (narrowInt_failsAt id)).map _
  | sfixed32 =>
      rw [Kind.ofScalar]
      exact (hint.bind (narrowInt_failsAt id)).map _
  | int64 =>
      rw [Kind.ofScalar]
      exact hint.map _
  | sint64 =>
      rw [Kind.ofScalar]
      exact hint.map _
  | sfixed64 =>
      rw [Kind.ofScalar]
      exact hint.map _
  | uint32 =>
      rw [Kind.ofScalar]
      exact (huint.bind (narrowUInt_failsAt id)).map _
  | fixed32 =>
      rw [Kind.ofScalar]
      exact (huint.bind (narrowUInt_failsAt id)).map _
  | uint64 =>
      rw [Kind.ofScalar]
      exact huint.map _
  | fixed64 =>
      rw [Kind.ofScalar]
      exact huint.map _
  | bool =>
      rw [Kind.ofScalar]
      exact (Value.toBool_failsAt id v).map _
  | string =>
      rw [Kind.ofScalar]
      exact (Value.toText_failsAt id v).map _
  | bytes =>
      rw [Kind.ofScalar]
      exact (Value.toBytes_failsAt id v).map _
  | enum name =>
      rw [Kind.ofScalar]
      exact (hint.bind (narrowInt_failsAt id)).map _
  | message name => exact yields_fail

theorem Kind.keyOf_failsAt (id : Int) (kind : Kind) (v : CommonExpr.Value) :
    FailsAt id (kind.keyOf id v) := by
  have hint := Value.toInt64_failsAt id (some v)
  have huint := Value.toUInt64_failsAt id (some v)
  have htext := (Value.toText_failsAt id (some v)).map Key.string
  cases kind with
  | bool =>
      rw [Kind.keyOf]
      exact (Value.toBool_failsAt id _).map _
  | int32 =>
      rw [Kind.keyOf]
      exact (hint.bind (narrowInt_failsAt id)).map _
  | sint32 =>
      rw [Kind.keyOf]
      exact (hint.bind (narrowInt_failsAt id)).map _
  | sfixed32 =>
      rw [Kind.keyOf]
      exact (hint.bind (narrowInt_failsAt id)).map _
  | int64 =>
      rw [Kind.keyOf]
      exact hint.map _
  | sint64 =>
      rw [Kind.keyOf]
      exact hint.map _
  | sfixed64 =>
      rw [Kind.keyOf]
      exact hint.map _
  | uint32 =>
      rw [Kind.keyOf]
      exact (huint.bind (narrowUInt_failsAt id)).map _
  | fixed32 =>
      rw [Kind.keyOf]
      exact (huint.bind (narrowUInt_failsAt id)).map _
  | uint64 =>
      rw [Kind.keyOf]
      exact huint.map _
  | fixed64 =>
      rw [Kind.keyOf]
      exact huint.map _
  | double => exact htext
  | float => exact htext
  | string => exact htext
  | bytes => exact htext
  | enum name => exact htext
  | message name => exact htext

section Structured

variable (schema : Schema) (id : Int) (type : MessageType)

theorem structMessage_failsAt {convert : CommonExpr.Value → Outcome Message}
    (hconvert : ∀ v, FailsAt id (convert v)) (entries : Entries) :
    FailsAt id (structMessage schema id type convert entries) := by
  refine (lookupType_failsAt schema id _).bind fun _ => ?_
  refine (entries.collectPairs_failsAt id).bind fun pairs => ?_
  refine FailsAt.bind (FailsAt.mapM fun pair _ => ?_) fun _ => FailsAt.ok
  obtain ⟨k, v⟩ := pair
  dsimp only
  split
  · exact (hconvert v).bind fun _ => FailsAt.ok
  · exact yields_fail

theorem listMessage_failsAt {convert : CommonExpr.Value → Outcome Message}
    (hconvert : ∀ v, FailsAt id (convert v)) (items : Items) :
    FailsAt id (listMessage schema id type convert items) := by
  refine (lookupType_failsAt schema id _).bind fun _ => ?_
  refine (items.collect_failsAt id).bind fun values => ?_
  exact (FailsAt.mapM fun v _ => hconvert v).bind fun _ => FailsAt.ok

theorem jsonMessageWithin_failsAt (fuel : Nat) (type : MessageType) (v : CommonExpr.Value) :
    FailsAt id (jsonMessageWithin schema id fuel type v) := by
  induction fuel generalizing type v with
  | zero => exact yields_fail
  | succ fuel ih =>
      have hinner : ∀ w, FailsAt id (do
          let valueType ← lookupType schema id WellKnown.value
          jsonMessageWithin schema id fuel valueType w) := fun w =>
        (lookupType_failsAt schema id _).bind fun valueType => ih valueType w
      rw [jsonMessageWithin]
      dsimp only
      split
      case h_10 =>
        refine (lookupType_failsAt schema id _).bind fun listType => ?_
        exact (listMessage_failsAt schema id listType hinner _).bind fun _ => FailsAt.ok
      case h_11 =>
        refine (lookupType_failsAt schema id _).bind fun structType => ?_
        exact (structMessage_failsAt schema id structType hinner _).bind fun _ => FailsAt.ok
      case h_12 => exact yields_fail
      all_goals exact FailsAt.ok

theorem plainMessage_failsAt (v : CommonExpr.Value) :
    FailsAt id (plainMessage schema id type v) := by
  have hinner : ∀ w, FailsAt id (do
      let valueType ← lookupType schema id WellKnown.value
      jsonMessage schema id valueType w) := fun w =>
    (lookupType_failsAt schema id _).bind fun valueType =>
      jsonMessageWithin_failsAt schema id _ valueType w
  unfold plainMessage
  dsimp only
  repeat' split
  · exact FailsAt.ok
  · exact yields_fail
  · exact FailsAt.ok
  · exact yields_fail
  · exact jsonMessageWithin_failsAt schema id _ type v
  · exact structMessage_failsAt schema id type hinner _
  · exact yields_fail
  · exact listMessage_failsAt schema id type hinner _
  · exact yields_fail
  · exact (Kind.ofScalar_failsAt id _ _).map _
  · exact FailsAt.ok
  · exact yields_fail
  · exact yields_fail

theorem naturalMessage_failsAt (v : CommonExpr.Value) :
    FailsAt id (naturalMessage schema id v) := by
  unfold naturalMessage
  split
  · exact FailsAt.ok
  · exact (lookupType_failsAt schema id _).bind fun type => plainMessage_failsAt schema id type _

theorem messageOf_failsAt (v : CommonExpr.Value) : FailsAt id (messageOf schema id type v) := by
  unfold messageOf
  split
  · refine FailsAt.bind ?_ fun _ => FailsAt.ok
    exact (naturalMessage_failsAt schema id v).bind fun _ => FailsAt.ok
  · exact plainMessage_failsAt schema id type v

theorem Kind.ofValue_failsAt (kind : Kind) (v : CommonExpr.Value) :
    FailsAt id (kind.ofValue schema id v) := by
  unfold Kind.ofValue
  split
  · exact (messageOf_failsAt schema id _ v).map _
  · exact Kind.ofScalar_failsAt id _ _

theorem Field.ofValue_failsAt (field : Field) (v : CommonExpr.Value) :
    FailsAt id (field.ofValue schema id v) := by
  unfold Field.ofValue
  split
  · refine (Entries.collectPairs_failsAt _ id).bind fun pairs => ?_
    refine FailsAt.bind (FailsAt.mapM fun pair _ => ?_) fun _ => FailsAt.ok
    refine (Kind.keyOf_failsAt id _ _).bind fun key => ?_
    exact (Kind.ofValue_failsAt schema id _ _).bind fun _ => FailsAt.ok
  · exact yields_fail
  · refine (Items.collect_failsAt _ id).bind fun values => ?_
    exact (FailsAt.mapM fun w _ => Kind.ofValue_failsAt schema id _ w).bind fun _ => FailsAt.ok
  · exact yields_fail
  · exact Kind.ofValue_failsAt schema id _ _

theorem storeFields_failsAt (m : Message) (fields : List (String × CommonExpr.Value)) :
    FailsAt id (storeFields schema id m fields) := by
  induction fields generalizing m with
  | nil => exact FailsAt.ok
  | cons head rest ih =>
      obtain ⟨name, v⟩ := head
      rw [storeFields]
      split
      · exact yields_fail
      · split
        · exact ih m
        · split
          · next f hf => exact (Field.ofValue_failsAt schema id _ v).error hf
          · exact ih _

theorem messageOfFields_failsAt (fields : List (String × CommonExpr.Value)) :
    FailsAt id (messageOfFields schema id type fields) :=
  storeFields_failsAt schema id _ fields

end Structured

end Protobuf

end CommonExpr
