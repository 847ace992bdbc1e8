import CommonExpr.Library.Standard
import CommonExpr.Proofs.Time.Calendar
import CommonExpr.Proofs.Time.RoundTrip

/-!
Texts of instants read back.

The text of an instant is its moment in UTC, number by number, with the digits of the nanoseconds
that are left when the zeros at the end are dropped.  Main statement: every instant in range is
read back from its text.
-/

namespace CommonExpr

/-! Reading number by number -/

/-- A number that was written in so many digits is read as itself. -/
theorem takeDigits_padded {width : Nat} (hwidth : 0 < width) {n : Int} (hn : 0 ≤ n)
    (hlt : n < 10 ^ width) (rest : List Char) :
    takeDigits width ((padded width n).toList ++ rest) = some (n, rest) := by
  obtain ⟨n, rfl⟩ := Int.eq_ofNat_of_zero_le hn
  have hlength : (paddedDigits width n).length = width :=
    length_paddedDigits hwidth (by exact_mod_cast hlt)
  have hdigits : (paddedDigits width n).all isDigit = true :=
    List.all_eq_true.mpr fun c hc => isDigit_of_mem_paddedDigits hc
  rw [padded_toList, takeDigits, List.take_left' hlength,
    List.drop_left' hlength, if_pos ⟨hlength, hdigits⟩, digitsValue_paddedDigits]

theorem takeFraction_digits {n : Nat} (hn : n < 10 ^ 9) (hzero : n ≠ 0) {rest : List Char}
    (hrest : ∀ c ∈ rest.head?, isDigit c = false) :
    takeFraction ('.' :: (fractionDigits n ++ rest)) = some ((n : Int), rest) := by
  obtain ⟨count, hnine⟩ := exists_fractionDigits_append n
  obtain ⟨htake, hdrop⟩ := split_run rest (fun c => isDigit_of_mem_fractionDigits (n := n)) hrest
  have hlength := length_paddedDigits (by decide) hn
  rw [hnine, List.length_append, List.length_replicate] at hlength
  have hvalue := digitsValue_paddedDigits 9 n
  have hsome : (fractionDigits n).isEmpty = false := by
    rw [Bool.eq_false_iff, Ne, List.isEmpty_iff]
    intro hempty
    rw [hnine, hempty, List.nil_append, digitsValue_zeros] at hvalue
    exact hzero hvalue.symm
  have hnines : (fractionDigits n ++ List.replicate 9 '0').take 9 = paddedDigits 9 n := by
    have hcount : min (9 - (fractionDigits n).length) 9 = count := by omega
    rw [hnine, List.take_append, List.take_of_length_le (by omega), List.take_replicate, hcount]
  simp only [takeFraction, htake, hdrop, hsome, hnines, hvalue, Bool.false_eq_true, if_false]

/-! Reading moments -/

/-- The fraction of a second as it is written behind a moment. -/
def fractionPart (nanos : Int) : String := if nanos = 0 then "" else "." ++ fractionText nanos

theorem append_fractionPart (shown : String) (nanos : Int) :
    (if nanos = 0 then shown ++ "Z" else shown ++ "." ++ fractionText nanos ++ "Z") =
      shown ++ fractionPart nanos ++ "Z" := by
  unfold fractionPart
  split
  · rw [String.append_empty]
  · simp only [String.append_assoc]

theorem takeFraction_part {nanos : Int} (hlow : 0 ≤ nanos) (hhigh : nanos < nanosPerSecond) :
    takeFraction ((fractionPart nanos).toList ++ ['Z']) = some (nanos, ['Z']) := by
  obtain ⟨n, rfl⟩ := Int.eq_ofNat_of_zero_le hlow
  have hn : n < 10 ^ 9 := by
    simp only [nanosPerSecond] at hhigh
    omega
  rw [fractionPart]
  split
  · next hzero => simp [takeFraction, hzero]
  · next hzero =>
      have htext : ("." ++ fractionText (n : Int)).toList ++ ['Z'] =
          '.' :: (fractionDigits n ++ ['Z']) := by
        simp [fractionText_eq]
      rw [htext]
      exact takeFraction_digits hn (by omega) (by simp [isDigit])

/-- A moment is read number by number, with the marks between the numbers. -/
theorem readMoment_of_numbers {s : String} {m : Moment}
    {year month day hour minute second fraction : List Char}
    (htext : s.toList = year ++ '-' :: (month ++ '-' :: (day ++ 'T' :: (hour ++ ':' ::
      (minute ++ ':' :: (second ++ (fraction ++ ['Z'])))))))
    (hyear : ∀ rest, takeDigits 4 (year ++ rest) = some (m.date.year, rest))
    (hmonth : ∀ rest, takeDigits 2 (month ++ rest) = some (m.date.month, rest))
    (hday : ∀ rest, takeDigits 2 (day ++ rest) = some (m.date.day, rest))
    (hhour : ∀ rest, takeDigits 2 (hour ++ rest) = some (m.hour, rest))
    (hminute : ∀ rest, takeDigits 2 (minute ++ rest) = some (m.minute, rest))
    (hsecond : ∀ rest, takeDigits 2 (second ++ rest) = some (m.second, rest))
    (hnanos : takeFraction (fraction ++ ['Z']) = some (m.nanos, ['Z']))
    (hm : m.date.Valid ∧ m.hour < 24 ∧ m.minute < 60 ∧ m.second ≤ 60) :
    readMoment s = some (m, 0) := by
  rw [readMoment, htext]
  -- Each number is taken with the mark behind it, the fraction with the zone.
  refine Option.bind_eq_some_iff.mpr ⟨_, hyear _, Option.bind_eq_some_iff.mpr ⟨_, rfl, ?_⟩⟩
  refine Option.bind_eq_some_iff.mpr ⟨_, hmonth _, Option.bind_eq_some_iff.mpr ⟨_, rfl, ?_⟩⟩
  refine Option.bind_eq_some_iff.mpr ⟨_, hday _, Option.bind_eq_some_iff.mpr ⟨_, rfl, ?_⟩⟩
  refine Option.bind_eq_some_iff.mpr ⟨_, hhour _, Option.bind_eq_some_iff.mpr ⟨_, rfl, ?_⟩⟩
  refine Option.bind_eq_some_iff.mpr ⟨_, hminute _, Option.bind_eq_some_iff.mpr ⟨_, rfl, ?_⟩⟩
  refine Option.bind_eq_some_iff.mpr ⟨_, hsecond _, ?_⟩
  refine Option.bind_eq_some_iff.mpr ⟨_, hnanos, Option.bind_eq_some_iff.mpr ⟨_, rfl, ?_⟩⟩
  exact if_pos hm

/-- A moment on the calendar is read from its text in UTC. -/
theorem readMoment_text {m : Moment} (hm : m.Shown) (hlow : 0 ≤ m.nanos)
    (hhigh : m.nanos < nanosPerSecond) :
    readMoment (m.text ++ fractionPart m.nanos ++ "Z") = some (m, 0) := by
  obtain ⟨hvalid, hyear, hyear', ⟨hhour, hhour'⟩, ⟨hminute, hminute'⟩, hsecond, hsecond'⟩ := hm
  obtain ⟨hmonth, hmonth', hday, hday'⟩ := id hvalid
  have hlength := (Date.monthLength_le m.date.year m.date.month).1
  have hbare : yearText m.date.year = padded 4 m.date.year := if_pos ⟨by omega, hyear'⟩
  have hwhole : m.nanos / nanosPerSecond = 0 := Int.ediv_eq_zero_of_lt hlow hhigh
  have hfour : 0 < 4 := by decide
  have htwo : 0 < 2 := by decide
  refine readMoment_of_numbers ?_ (takeDigits_padded hfour (by omega) (by omega))
    (takeDigits_padded htwo (by omega) (by omega)) (takeDigits_padded htwo (by omega) (by omega))
    (takeDigits_padded htwo hhour (by omega)) (takeDigits_padded htwo hminute (by omega))
    (takeDigits_padded htwo hsecond (by omega)) (takeFraction_part hlow hhigh)
    ⟨hvalid, hhour', hminute', by omega⟩
  rw [Moment.text, hbare, hwhole, Int.add_zero]
  simp

namespace Timestamp

/-- The text of an instant in range shows its moment in UTC. -/
theorem text_eq {t : Timestamp} (ht : t.InRange) :
    t.text = (Moment.ofSeconds t.seconds t.nanos).text ++ fractionPart t.nanos ++ "Z" := by
  rw [← append_fractionPart]
  unfold text
  rw [localMoment?_eq ht]

theorem read_text {t : Timestamp} (ht : t.InRange) : read t.text = .ok t := by
  have hread : readMoment t.text = some (Moment.ofSeconds t.seconds t.nanos, 0) := by
    rw [text_eq ht]
    exact readMoment_text (shown ht) ht.2.2.1 ht.2.2.2
  simp only [read, hread, Moment.toSeconds_ofSeconds, Int.sub_zero]
  exact normalize_of_inRange ht

end Timestamp

/-- An instant in range equals what is read from its text, also through the standard library. -/
theorem instant_text_read_back (named? : String → Option ZoneRule) (id : Int) {t : Timestamp}
    (ht : t.InRange) :
    Timestamp.read t.text = .ok t ∧
      (do
        let text ← Library.call named? id "string" [.timestamp t]
        let back ← Library.call named? id "timestamp" [text]
        Library.call named? id Operator.equals [back, .timestamp t]) = .ok (.bool true) := by
  have hread := Timestamp.read_text ht
  have htext : Library.call named? id "string" [.timestamp t] = .ok (.string t.text) := rfl
  have hback : Library.call named? id "timestamp" [.string t.text] = .ok (.timestamp t) := by
    have hcall : Library.call named? id "timestamp" [.string t.text] =
        Value.timestamp <$> timed id (Timestamp.read t.text) := rfl
    rw [hcall, hread]
    rfl
  have hequal : Library.call named? id Operator.equals [.timestamp t, .timestamp t] =
      .ok (.bool (decide (t = t))) := rfl
  refine ⟨hread, ?_⟩
  rw [htext]
  dsimp only [bind, Except.bind]
  rw [hback]
  dsimp only
  rw [hequal, decide_eq_true rfl]

namespace InstantWitness

/-- Half a second before the last day of February of the year 4 ends. -/
def leapDay : Timestamp := ⟨-62035804801, 500000000⟩

theorem leapDay_read_back :
    leapDay.InRange ∧ leapDay.text = "0004-02-29T23:59:59.5Z" ∧
      Timestamp.read leapDay.text = .ok leapDay := by
  have hleapDay : leapDay.InRange := by decide
  exact ⟨hleapDay, by decide, (instant_text_read_back namedZone? 0 hleapDay).1⟩

end InstantWitness

end CommonExpr
