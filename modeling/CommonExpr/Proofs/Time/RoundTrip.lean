import CommonExpr.Proofs.Time.Reading
import Mathlib.Data.List.DropRight

/-!
Texts of spans read back.

The text of a span is a written span of one part, its seconds with the digits of the nanoseconds
that are left when the zeros at the end are dropped.  Main statement: it is read as the span it is
the text of, with the longest span below zero as the only exception.
-/

namespace CommonExpr

/-! Digits of numbers -/

theorem isDigit_of_mem_toDigits {n : Nat} {c : Char} (hc : c ∈ Nat.toDigits 10 n) :
    isDigit c = true := by
  have hdigit := Nat.isDigit_of_mem_toDigits (by decide) (by decide) hc
  simpa [Char.isDigit, isDigit, Char.le_def] using hdigit

theorem digitWorth_of_isDigit {c : Char} (hc : isDigit c = true) :
    digitWorth c = c.toNat - '0'.toNat := by
  have hbounds : '0' ≤ c ∧ c ≤ '9' := by simpa [isDigit] using hc
  rw [digitWorth, digitValue?, if_pos hbounds, Option.getD_some]

theorem digitsValue_toDigits (n : Nat) : digitsValue (Nat.toDigits 10 n) = n := by
  have hvalue : digitsValue (Nat.toDigits 10 n) = Nat.ofDigitChars 10 (Nat.toDigits 10 n) 0 := by
    rw [digitsValue, Nat.ofDigitChars_eq_foldl]
    refine List.foldl_ext _ _ _ fun m c hc => ?_
    rw [Nat.mul_comm, ← digitWorth_of_isDigit (isDigit_of_mem_toDigits hc), digitWorth]
  rw [hvalue, Nat.ofDigitChars_toDigits (by decide) (by decide)]

theorem digitsValue_append (xs ys : List Char) :
    digitsValue (xs ++ ys) = digitsValue xs * 10 ^ ys.length + digitsValue ys := by
  rw [digitsValue, List.foldl_append, foldl_digits, ← digitsValue]

theorem digitsValue_zeros (count : Nat) : digitsValue (List.replicate count '0') = 0 := by
  induction count with
  | zero => rfl
  | succ count ih =>
      have hzero : digitWorth '0' = 0 := by decide
      rw [List.replicate_succ, digitsValue_cons, ih, hzero, Nat.zero_mul]

/-! Numbers with zeros in front -/

def paddedDigits (width n : Nat) : List Char :=
  List.replicate (width - (Nat.toDigits 10 n).length) '0' ++ Nat.toDigits 10 n

theorem padded_toList (width n : Nat) : (padded width n).toList = paddedDigits width n := by
  have hneg : ¬ (n : Int) < 0 := by omega
  simp [padded, hneg, paddedDigits, zeros, Nat.toList_repr, ← String.length_toList]

theorem length_paddedDigits {width n : Nat} (hwidth : 0 < width) (hn : n < 10 ^ width) :
    (paddedDigits width n).length = width := by
  have hlength := (Nat.length_toDigits_le_iff (by decide : 1 < 10) hwidth).mpr hn
  rw [paddedDigits, List.length_append, List.length_replicate]
  omega

theorem isDigit_of_mem_paddedDigits {width n : Nat} {c : Char} (hc : c ∈ paddedDigits width n) :
    isDigit c = true := by
  rcases List.mem_append.mp hc with hc | hc
  · rw [List.eq_of_mem_replicate hc]
    rfl
  · exact isDigit_of_mem_toDigits hc

theorem digitsValue_paddedDigits (width n : Nat) : digitsValue (paddedDigits width n) = n := by
  rw [paddedDigits, digitsValue_append, digitsValue_zeros, digitsValue_toDigits, Nat.zero_mul,
    Nat.zero_add]

/-! Nanoseconds of a second -/

/-- The digits of nanoseconds after the point. -/
def fractionDigits (n : Nat) : List Char := Text.dropRightWhile (· == '0') (paddedDigits 9 n)

theorem fractionText_eq (n : Nat) : fractionText n = String.ofList (fractionDigits n) := by
  rw [fractionText, padded_toList, fractionDigits]

/-- Only zeros are dropped. -/
theorem exists_fractionDigits_append (n : Nat) :
    ∃ count, paddedDigits 9 n = fractionDigits n ++ List.replicate count '0' := by
  have hzeros : ∀ c ∈ (paddedDigits 9 n).rtakeWhile (· == '0'), c = '0' :=
    fun c hc => by simpa using List.mem_rtakeWhile_imp hc
  refine ⟨((paddedDigits 9 n).rtakeWhile (· == '0')).length, ?_⟩
  rw [← List.eq_replicate_of_mem hzeros]
  exact List.rdropWhile_append_rtakeWhile.symm

theorem isDigit_of_mem_fractionDigits {n : Nat} {c : Char} (hc : c ∈ fractionDigits n) :
    isDigit c = true := by
  obtain ⟨count, hnine⟩ := exists_fractionDigits_append n
  have hmem : c ∈ paddedDigits 9 n := hnine ▸ List.mem_append_left _ hc
  exact isDigit_of_mem_paddedDigits hmem

/-- The digits after the point are worth the nanoseconds they were written for. -/
theorem countedNanos_fractionDigits (whole : List Char) {n : Nat} (hn : n < 10 ^ 9) :
    countedNanos whole (fractionDigits n) (10 ^ 9) = digitsValue whole * 10 ^ 9 + n := by
  obtain ⟨count, hnine⟩ := exists_fractionDigits_append n
  have hlength := length_paddedDigits (by decide) hn
  have hvalue := digitsValue_paddedDigits 9 n
  rw [hnine, List.length_append, List.length_replicate] at hlength
  rw [hnine, digitsValue_append, digitsValue_zeros, List.length_replicate, Nat.add_zero] at hvalue
  have hnine : (fractionDigits n).length ≤ 9 := by omega
  have hcount : 9 - (fractionDigits n).length = count := by omega
  rw [countedNanos_of_length whole hnine, hcount, hvalue]

namespace Duration

/-- The text of a span as a written span: seconds, and the point only before digits. -/
def written (d : Duration) : WrittenSpan where
  sign := if d.total < 0 then .minus else .none
  parts := [{
    whole := Nat.toDigits 10 (d.total.natAbs / 10 ^ 9)
    places := if d.total.natAbs % 10 ^ 9 = 0 then none
      else some (fractionDigits (d.total.natAbs % 10 ^ 9))
    unit := "s"
    scale := 10 ^ 9
    whole_digits := fun _ => isDigit_of_mem_toDigits
    places_digits := by
      split
      · simp
      · exact fun _ => isDigit_of_mem_fractionDigits
    some_digit := Or.inl Nat.toDigits_ne_nil
    unit_nanos := rfl }]
  some_part := List.cons_ne_nil _ _

theorem text_eq {d : Duration} (hd : d.InRange) : d.text = d.written.text := by
  have hword : d.nanosWord = d.total := Int64.toInt_ofInt_of_le hd.2.2.1 hd.2.2.2
  have hsign : (if d.total < 0 then "-" else "").toList = d.written.sign.text := by
    simp only [written]
    split <;> rfl
  apply String.toList_inj.mp
  simp only [text, hword, WrittenSpan.text, String.toList_ofList, ← hsign]
  split
  · next hzero =>
      simp [written, SpanPart.text, SpanPart.number, hzero, Nat.toList_repr]
      rfl
  · next hzero =>
      rw [fractionText_eq]
      simp [written, SpanPart.text, SpanPart.number, hzero, Nat.toList_repr]
      rfl

theorem counted_written (d : Duration) :
    (d.written.parts.map SpanPart.counted).sum = d.total.natAbs := by
  have hlt : d.total.natAbs % 10 ^ 9 < 10 ^ 9 := Nat.mod_lt _ (by decide)
  have hsplit := Nat.div_add_mod' d.total.natAbs (10 ^ 9)
  simp only [written, List.map_cons, List.map_nil, List.sum_cons, List.sum_nil, Nat.add_zero,
    SpanPart.counted, SpanPart.fraction]
  split
  · next hzero =>
      rw [hzero] at hsplit
      rw [Option.getD_none, countedNanos, placeSum, digitsValue_toDigits, hsplit]
  · rw [Option.getD_some, countedNanos_fractionDigits _ hlt, digitsValue_toDigits, hsplit]

/-- The reader tests the magnitude before it knows the sign. -/
theorem read_text {d : Duration} (hd : d.InRange) :
    Duration.read d.text =
      if d.total.natAbs < 9223372036854775808 then .ok d else .error .durationRange := by
  have hsigned : d.written.sign.factor * d.total.natAbs = d.total := by
    simp only [written]
    split <;> simp only [SpanSign.factor] <;> omega
  rw [text_eq hd, WrittenSpan.read_text, WrittenSpan.sum, counted_written, hsigned,
    ofNanos_total hd]

end Duration

/-- The text of a span is read as the span, unless it is the longest one below zero, whose
magnitude is out of range for the reader. -/
theorem span_text_read_back {d : Duration} (hd : d.InRange) :
    (Duration.read d.text = .ok d ↔ d.total ≠ -9223372036854775808) ∧
      (d.total = -9223372036854775808 → Duration.read d.text = .error .durationRange) := by
  rw [Duration.read_text hd]
  obtain ⟨-, -, hlow, hhigh⟩ := hd
  constructor
  · split
    · exact iff_of_true rfl (by omega)
    · exact iff_of_false (by simp) (by omega)
  · intro hlongest
    exact if_neg (by omega)

namespace SpanWitness

/-- A quarter of a second below zero. -/
def quarter : Duration := ⟨-1, 750000000⟩

theorem quarter_read_back :
    quarter.InRange ∧ quarter.text = "-0.25s" ∧ Duration.read quarter.text = .ok quarter := by
  have hquarter : quarter.InRange := by decide
  exact ⟨hquarter, by decide, (span_text_read_back hquarter).1.mpr (by decide)⟩

theorem longest_not_read_back :
    TimeWitness.longest.InRange ∧ TimeWitness.longest.text = "-9223372036.854775808s" ∧
      Duration.read TimeWitness.longest.text = .error .durationRange := by
  decide

end SpanWitness

end CommonExpr
