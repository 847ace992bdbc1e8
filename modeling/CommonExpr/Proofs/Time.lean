import CommonExpr.Time.Written

/-!
The range of times.

Main statement: an instant or a span that arithmetic or a reader of texts gives
lies in the range of its kind, whatever it was computed from.
-/

namespace CommonExpr

namespace Timestamp

/-- In the years 0001 to 9999, with the nanoseconds carried. -/
def InRange (t : Timestamp) : Prop :=
  minSeconds ≤ t.seconds ∧ t.seconds ≤ maxSeconds ∧ 0 ≤ t.nanos ∧ t.nanos < nanosPerSecond

instance (t : Timestamp) : Decidable t.InRange := by
  unfold InRange
  infer_instance

theorem inRange_of_normalize {seconds nanos : Int} {t : Timestamp}
    (hnormal : normalize seconds nanos = .ok t) : t.InRange := by
  simp only [normalize] at hnormal
  split at hnormal
  · next hseconds =>
      obtain rfl := Except.ok.inj hnormal
      refine ⟨hseconds.1, hseconds.2, ?_, ?_⟩
      · exact Int.emod_nonneg _ (by decide)
      · exact Int.emod_lt_of_pos _ (by decide)
  · cases hnormal

/-- An instant in range has its nanoseconds carried. -/
theorem normalize_of_inRange {t : Timestamp} (ht : t.InRange) :
    normalize t.seconds t.nanos = .ok t := by
  obtain ⟨hlower, hupper, hpos, hlt⟩ := ht
  have hnone : t.nanos / nanosPerSecond = 0 := Int.ediv_eq_zero_of_lt hpos hlt
  simp only [normalize, hnone, Int.add_zero, Int.emod_eq_of_lt hpos hlt, hlower, hupper,
    and_self, if_true]

theorem inRange_of_shift {t t' : Timestamp} {d : Duration} {sign : Int}
    (hshift : t.shift d sign = .ok t') : t'.InRange := by
  unfold shift at hshift
  split at hshift
  · cases hshift
  · exact inRange_of_normalize hshift

theorem inRange_of_read {s : String} {t : Timestamp} (hread : read s = .ok t) : t.InRange := by
  unfold read at hread
  split at hread
  · cases hread
  · exact inRange_of_normalize hread

end Timestamp

namespace Duration

/-- With the nanoseconds carried, and of a length that fits a signed 64-bit word. -/
def InRange (d : Duration) : Prop :=
  0 ≤ d.nanos ∧ d.nanos < nanosPerSecond ∧
    -9223372036854775808 ≤ d.total ∧ d.total < 9223372036854775808

instance (d : Duration) : Decidable d.InRange := by
  unfold InRange
  infer_instance

theorem inRange_zero : zero.InRange := by decide

theorem inRange_of_normalize {seconds nanos : Int} {d : Duration}
    (hnormal : normalize seconds nanos = .ok d) : d.InRange := by
  simp only [normalize] at hnormal
  split at hnormal
  · next htotal =>
      obtain rfl := Except.ok.inj hnormal
      refine ⟨?_, ?_, htotal.1, htotal.2⟩
      · exact Int.emod_nonneg _ (by decide)
      · exact Int.emod_lt_of_pos _ (by decide)
  · cases hnormal

theorem normalize_of_inRange {d : Duration} (hd : d.InRange) :
    normalize d.seconds d.nanos = .ok d := by
  obtain ⟨hpos, hlt, hlower, hupper⟩ := hd
  have hnone : d.nanos / nanosPerSecond = 0 := Int.ediv_eq_zero_of_lt hpos hlt
  simp only [normalize, hnone, Int.add_zero, Int.emod_eq_of_lt hpos hlt, hlower, hupper,
    and_self, if_true]

theorem inRange_of_combine {a b d : Duration} {sign : Int} (hcombine : a.combine b sign = .ok d) :
    d.InRange := by
  unfold combine at hcombine
  split at hcombine
  · cases hcombine
  · exact inRange_of_normalize hcombine

theorem inRange_of_read {s : String} {d : Duration} (hread : read s = .ok d) : d.InRange := by
  unfold read at hread
  split at hread
  all_goals
    split at hread
    · cases hread
    · split at hread
      · obtain rfl := Except.ok.inj hread
        exact inRange_zero
      · split at hread
        · cases hread
        · exact inRange_of_normalize hread

end Duration

theorem Timestamp.inRange_of_since {t earlier : Timestamp} {d : Duration}
    (hsince : t.since earlier = .ok d) : d.InRange :=
  Duration.inRange_of_normalize hsince

end CommonExpr
