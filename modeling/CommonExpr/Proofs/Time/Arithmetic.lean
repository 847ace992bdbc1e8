import CommonExpr.Library.Standard
import CommonExpr.Proofs.Time
import Mathlib.Tactic.Ring

/-!
Exact sums and differences of times.

A time in range is determined by its count of nanoseconds, and every operation computes the
count of its result exactly.  Main statement: an operation gives the time with that count if
its kind has one, and the fault of the range otherwise; on times in range no step of the
computation leaves its machine word; and what was added can be subtracted again.
-/

namespace CommonExpr

/-! Kinds of times -/

/-- Times of one kind: which are in range, what their counts of nanoseconds are, and the fault
of a count that none of them has. -/
structure TimeKind (α : Type) where
  InRange : α → Prop
  total : α → Int
  Counts : Int → Prop
  fault : TimeFault
  counts : ∀ {a}, InRange a → Counts (total a)
  eq_of_total_eq : ∀ {a b}, InRange a → InRange b → total a = total b → a = b

namespace TimeKind

variable {α : Type} {kind : TimeKind α} {n : Int} {result : Except TimeFault α}

/-- Whether a result is the time in range with a count of nanoseconds, or the fault of the
range when the kind has none. -/
structure Exact (kind : TimeKind α) (n : Int) (result : Except TimeFault α) : Prop where
  ok_iff : (∃ a, result = .ok a) ↔ kind.Counts n
  value : ∀ a, result = .ok a → kind.InRange a ∧ kind.total a = n
  fault : ¬ kind.Counts n → result = .error kind.fault

theorem exact_ok {a : α} (hrange : kind.InRange a) (hn : kind.total a = n) :
    kind.Exact n (.ok a) where
  ok_iff := iff_of_true ⟨a, rfl⟩ (hn ▸ kind.counts hrange)
  value := by
    rintro _ ⟨⟩
    exact ⟨hrange, hn⟩
  fault hnot := absurd (hn ▸ kind.counts hrange) hnot

theorem exact_error (kind : TimeKind α) (hn : ¬ kind.Counts n) :
    kind.Exact n (.error kind.fault) where
  ok_iff := iff_of_false (by rintro ⟨a, ⟨⟩⟩) hn
  value := by rintro _ ⟨⟩
  fault _ := rfl

/-- A time in range is the result with its count. -/
theorem Exact.eq_ok (hresult : kind.Exact n result) {a : α} (hrange : kind.InRange a)
    (hn : kind.total a = n) : result = .ok a := by
  obtain ⟨b, hb⟩ := hresult.ok_iff.mpr (hn ▸ kind.counts hrange)
  obtain ⟨hrange', hn'⟩ := hresult.value b hb
  rw [hb, kind.eq_of_total_eq hrange' hrange (hn'.trans hn.symm)]

end TimeKind

/-- Instants; a count is one of them if its second is in the range. -/
def Timestamp.kind : TimeKind Timestamp where
  InRange := Timestamp.InRange
  total := Timestamp.total
  Counts n := minSeconds ≤ n / nanosPerSecond ∧ n / nanosPerSecond ≤ maxSeconds
  fault := .timestampRange
  counts {t} ht := by
    simp only [InRange, Timestamp.total, minSeconds, maxSeconds, nanosPerSecond] at *
    omega
  eq_of_total_eq {t t'} ht ht' htotal := by
    cases t
    cases t'
    simp only [InRange, Timestamp.total, nanosPerSecond, Timestamp.mk.injEq] at *
    omega

/-- Spans; a count is one of them if it fits a signed 64-bit word. -/
def Duration.kind : TimeKind Duration where
  InRange := Duration.InRange
  total := Duration.total
  Counts n := -9223372036854775808 ≤ n ∧ n < 9223372036854775808
  fault := .durationRange
  counts hd := hd.2.2
  eq_of_total_eq {d d'} hd hd' htotal := by
    cases d
    cases d'
    simp only [InRange, Duration.total, nanosPerSecond, Duration.mk.injEq] at *
    omega

instance (n : Int) : Decidable (Timestamp.kind.Counts n) :=
  inferInstanceAs (Decidable (_ ∧ _))

instance (n : Int) : Decidable (Duration.kind.Counts n) :=
  inferInstanceAs (Decidable (_ ∧ _))

theorem Duration.total_ofNanos (n : Int) : (ofNanos n).total = n := by
  simp only [ofNanos, Duration.total, nanosPerSecond]
  omega

theorem Duration.inRange_ofNanos {n : Int} (hn : kind.Counts n) : (ofNanos n).InRange := by
  refine ⟨?_, ?_, ?_⟩
  · exact Int.emod_nonneg _ (by decide)
  · exact Int.emod_lt_of_pos _ (by decide)
  · rwa [total_ofNanos]

theorem Duration.ofNanos_total {d : Duration} (hd : d.InRange) : ofNanos d.total = d :=
  kind.eq_of_total_eq (inRange_ofNanos (kind.counts hd)) hd (total_ofNanos _)

/-! Operations -/

theorem Timestamp.normalize_exact (seconds nanos : Int) :
    kind.Exact (seconds * nanosPerSecond + nanos) (normalize seconds nanos) := by
  have hsecond : (seconds * nanosPerSecond + nanos) / nanosPerSecond =
      seconds + nanos / nanosPerSecond := by
    simp only [nanosPerSecond]
    omega
  unfold normalize
  dsimp only
  split
  · next hrange =>
      refine TimeKind.exact_ok (inRange_of_normalize (if_pos hrange)) ?_
      simp only [kind, Timestamp.total, nanosPerSecond]
      omega
  · next hrange =>
      refine TimeKind.exact_error kind fun hcounts => hrange ?_
      simpa only [kind, hsecond] using hcounts

theorem Duration.normalize_exact (seconds nanos : Int) :
    kind.Exact (seconds * nanosPerSecond + nanos) (normalize seconds nanos) := by
  have htotal : Duration.total ⟨seconds + nanos / nanosPerSecond, nanos % nanosPerSecond⟩ =
      seconds * nanosPerSecond + nanos := by
    simp only [Duration.total, nanosPerSecond]
    omega
  unfold normalize
  dsimp only
  split
  · next hrange => exact TimeKind.exact_ok (inRange_of_normalize (if_pos hrange)) htotal
  · next hrange =>
      refine TimeKind.exact_error kind fun hcounts => hrange ?_
      rwa [htotal]

/-- The seconds of a span in range are few enough to be turned round. -/
theorem Duration.InRange.exists_int64? {d : Duration} (hd : d.InRange) {sign : Int}
    (hsign : sign = 1 ∨ sign = -1) : ∃ x, int64? (sign * d.seconds) = some x := by
  simp only [InRange, Duration.total, nanosPerSecond] at hd
  refine ⟨Int64.ofInt (sign * d.seconds), if_pos ?_⟩
  rcases hsign with rfl | rfl <;> omega

theorem Timestamp.shift_exact (t : Timestamp) {d : Duration} (hd : d.InRange) {sign : Int}
    (hsign : sign = 1 ∨ sign = -1) : kind.Exact (t.total + sign * d.total) (t.shift d sign) := by
  obtain ⟨x, hx⟩ := hd.exists_int64? hsign
  have htotal : t.total + sign * d.total =
      (t.seconds + sign * d.seconds) * nanosPerSecond + (t.nanos + sign * d.nanos) := by
    simp only [Timestamp.total, Duration.total]
    ring
  rw [shift, hx, htotal]
  exact normalize_exact _ _

theorem Duration.combine_exact (a : Duration) {b : Duration} (hb : b.InRange) {sign : Int}
    (hsign : sign = 1 ∨ sign = -1) :
    kind.Exact (a.total + sign * b.total) (a.combine b sign) := by
  obtain ⟨x, hx⟩ := hb.exists_int64? hsign
  have htotal : a.total + sign * b.total =
      (a.seconds + sign * b.seconds) * nanosPerSecond + (a.nanos + sign * b.nanos) := by
    simp only [Duration.total]
    ring
  rw [combine, hx, htotal]
  exact normalize_exact _ _

theorem Timestamp.since_exact (t earlier : Timestamp) :
    Duration.kind.Exact (t.total - earlier.total) (t.since earlier) := by
  have htotal : t.total - earlier.total =
      (t.seconds - earlier.seconds) * nanosPerSecond + (t.nanos - earlier.nanos) := by
    simp only [Timestamp.total]
    ring
  rw [since, htotal]
  exact Duration.normalize_exact _ _

/-! The same computations in machine words -/

/-- The number, when it is a signed 64-bit word. -/
def word64? (i : Int) : Option Int :=
  if -9223372036854775808 ≤ i ∧ i < 9223372036854775808 then some i else none

/-- The number, when it is a signed 128-bit word. -/
def word128? (i : Int) : Option Int :=
  if -170141183460469231731687303715884105728 ≤ i ∧ i < 170141183460469231731687303715884105728
  then some i else none

theorem word64?_eq_some {i : Int} (hlow : -9223372036854775808 ≤ i)
    (hhigh : i < 9223372036854775808) : word64? i = some i := if_pos ⟨hlow, hhigh⟩

theorem word128?_eq_some {i : Int} (hlow : -170141183460469231731687303715884105728 ≤ i)
    (hhigh : i < 170141183460469231731687303715884105728) : word128? i = some i :=
  if_pos ⟨hlow, hhigh⟩

theorem of_word64? {i x : Int} (hx : word64? i = some x) :
    i = x ∧ -9223372036854775808 ≤ i ∧ i < 9223372036854775808 := by
  unfold word64? at hx
  split at hx
  · next hi => exact ⟨Option.some.inj hx, hi⟩
  · cases hx

/-- Normalization step by step; `none` when a step leaves its word. -/
def Timestamp.normalizeWords? (seconds nanos : Int) : Option (Except TimeFault Timestamp) := do
  let carried ← word64? (seconds + nanos / nanosPerSecond)
  return if minSeconds ≤ carried ∧ carried ≤ maxSeconds then .ok ⟨carried, nanos % nanosPerSecond⟩
    else .error .timestampRange

/-- Normalization step by step; the count of nanoseconds takes a word of double width. -/
def Duration.normalizeWords? (seconds nanos : Int) : Option (Except TimeFault Duration) := do
  let carried ← word64? (seconds + nanos / nanosPerSecond)
  let scaled ← word128? (carried * nanosPerSecond)
  let count ← word128? (scaled + nanos % nanosPerSecond)
  return if -9223372036854775808 ≤ count ∧ count < 9223372036854775808 then
      .ok ⟨carried, nanos % nanosPerSecond⟩
    else .error .durationRange

/-- Seconds and nanoseconds with those of a span added, or taken away when `sign` is `-1`. -/
def sumWords? (seconds nanos : Int) (d : Duration) (sign : Int) : Option (Int × Int) := do
  let turned ← word64? (d.seconds * sign)
  let seconds ← word64? (seconds + turned)
  let part ← word64? (sign * d.nanos)
  let nanos ← word64? (nanos + part)
  return (seconds, nanos)

def Timestamp.shiftWords? (t : Timestamp) (d : Duration) (sign : Int) :
    Option (Except TimeFault Timestamp) := do
  let (seconds, nanos) ← sumWords? t.seconds t.nanos d sign
  normalizeWords? seconds nanos

def Duration.combineWords? (a b : Duration) (sign : Int) : Option (Except TimeFault Duration) := do
  let (seconds, nanos) ← sumWords? a.seconds a.nanos b sign
  normalizeWords? seconds nanos

def Timestamp.sinceWords? (t earlier : Timestamp) : Option (Except TimeFault Duration) := do
  let seconds ← word64? (t.seconds - earlier.seconds)
  let nanos ← word64? (t.nanos - earlier.nanos)
  Duration.normalizeWords? seconds nanos

theorem Timestamp.normalizeWords?_eq {seconds nanos carried : Int}
    (hcarried : word64? (seconds + nanos / nanosPerSecond) = some carried) :
    normalizeWords? seconds nanos = some (normalize seconds nanos) := by
  obtain ⟨rfl, -⟩ := of_word64? hcarried
  rw [normalizeWords?, hcarried]
  rfl

/-- Once the seconds are a word, the count of nanoseconds is one of double width. -/
theorem Duration.normalizeWords?_eq {seconds nanos carried : Int}
    (hcarried : word64? (seconds + nanos / nanosPerSecond) = some carried) :
    normalizeWords? seconds nanos = some (normalize seconds nanos) := by
  obtain ⟨rfl, hlow, hhigh⟩ := of_word64? hcarried
  have hscaled : word128? ((seconds + nanos / nanosPerSecond) * nanosPerSecond) =
      some ((seconds + nanos / nanosPerSecond) * nanosPerSecond) := by
    apply word128?_eq_some <;> simp only [nanosPerSecond] at * <;> omega
  have hcount : word128? ((seconds + nanos / nanosPerSecond) * nanosPerSecond +
        nanos % nanosPerSecond) =
      some ((seconds + nanos / nanosPerSecond) * nanosPerSecond + nanos % nanosPerSecond) := by
    apply word128?_eq_some <;> simp only [nanosPerSecond] at * <;> omega
  simp only [normalizeWords?, hcarried, hscaled, hcount, Option.bind_eq_bind, Option.bind_some]
  rfl

/-- Only seconds that no longer are a word end the normalization of words early, and then the
instant is out of range. -/
theorem Timestamp.normalizeWords?_getD (seconds nanos : Int) :
    (normalizeWords? seconds nanos).getD (.error .timestampRange) = normalize seconds nanos := by
  cases hcarried : word64? (seconds + nanos / nanosPerSecond) with
  | some carried => rw [normalizeWords?_eq hcarried, Option.getD_some]
  | none =>
      have hout : ¬ (minSeconds ≤ seconds + nanos / nanosPerSecond ∧
          seconds + nanos / nanosPerSecond ≤ maxSeconds) := by
        intro hrange
        simp only [minSeconds, maxSeconds] at hrange
        rw [word64?_eq_some (by omega) (by omega)] at hcarried
        cases hcarried
      rw [normalizeWords?, hcarried]
      exact (if_neg hout).symm

/-- Only seconds that no longer are a word end the normalization of words early, and then the
span is out of range. -/
theorem Duration.normalizeWords?_getD (seconds nanos : Int) :
    (normalizeWords? seconds nanos).getD (.error .durationRange) = normalize seconds nanos := by
  cases hcarried : word64? (seconds + nanos / nanosPerSecond) with
  | some carried => rw [normalizeWords?_eq hcarried, Option.getD_some]
  | none =>
      have hout : ¬ (-9223372036854775808 ≤
            Duration.total ⟨seconds + nanos / nanosPerSecond, nanos % nanosPerSecond⟩ ∧
          Duration.total ⟨seconds + nanos / nanosPerSecond, nanos % nanosPerSecond⟩ <
            9223372036854775808) := by
        intro hrange
        simp only [Duration.total] at hrange
        rw [word64?_eq_some] at hcarried
        · cases hcarried
        all_goals
          simp only [nanosPerSecond] at *
          omega
      rw [normalizeWords?, hcarried]
      exact (if_neg hout).symm

/-- Seconds of at most ten billion and nanoseconds of less than one second are added to those
of a span in range without leaving a word. -/
theorem sumWords?_eq {seconds nanos : Int} (hlow : -1000000000000 ≤ seconds)
    (hhigh : seconds ≤ 1000000000000) (hnanos : 0 ≤ nanos) (hnanos' : nanos < nanosPerSecond)
    {d : Duration} (hd : d.InRange) {sign : Int} (hsign : sign = 1 ∨ sign = -1) :
    sumWords? seconds nanos d sign =
      some (seconds + sign * d.seconds, nanos + sign * d.nanos) := by
  simp only [Duration.InRange, Duration.total, nanosPerSecond] at hd hnanos'
  have hturned : word64? (d.seconds * sign) = some (sign * d.seconds) := by
    rw [Int.mul_comm]
    rcases hsign with rfl | rfl <;> apply word64?_eq_some <;> omega
  have hseconds : word64? (seconds + sign * d.seconds) = some (seconds + sign * d.seconds) := by
    rcases hsign with rfl | rfl <;> apply word64?_eq_some <;> omega
  have hpart : word64? (sign * d.nanos) = some (sign * d.nanos) := by
    rcases hsign with rfl | rfl <;> apply word64?_eq_some <;> omega
  have hnanos : word64? (nanos + sign * d.nanos) = some (nanos + sign * d.nanos) := by
    rcases hsign with rfl | rfl <;> apply word64?_eq_some <;> omega
  simp only [sumWords?, hturned, hseconds, hpart, hnanos, Option.bind_eq_bind, Option.bind_some]
  rfl

theorem Timestamp.shiftWords?_eq {t : Timestamp} (ht : t.InRange) {d : Duration} (hd : d.InRange)
    {sign : Int} (hsign : sign = 1 ∨ sign = -1) :
    t.shiftWords? d sign = some (t.shift d sign) := by
  obtain ⟨x, hx⟩ := hd.exists_int64? hsign
  simp only [InRange, minSeconds, maxSeconds] at ht
  have hlow : -1000000000000 ≤ t.seconds := by omega
  have hhigh : t.seconds ≤ 1000000000000 := by omega
  have hsum := sumWords?_eq hlow hhigh ht.2.2.1 ht.2.2.2 hd hsign
  have hcarried : word64? (t.seconds + sign * d.seconds +
      (t.nanos + sign * d.nanos) / nanosPerSecond) =
        some (t.seconds + sign * d.seconds + (t.nanos + sign * d.nanos) / nanosPerSecond) := by
    simp only [Duration.InRange, Duration.total, nanosPerSecond] at *
    rcases hsign with rfl | rfl <;> apply word64?_eq_some <;> omega
  rw [shiftWords?, hsum, shift, hx]
  exact normalizeWords?_eq hcarried

theorem Duration.combineWords?_eq {a b : Duration} (ha : a.InRange) (hb : b.InRange) {sign : Int}
    (hsign : sign = 1 ∨ sign = -1) : a.combineWords? b sign = some (a.combine b sign) := by
  obtain ⟨x, hx⟩ := hb.exists_int64? hsign
  have hlow : -1000000000000 ≤ a.seconds := by
    simp only [InRange, Duration.total, nanosPerSecond] at ha
    omega
  have hhigh : a.seconds ≤ 1000000000000 := by
    simp only [InRange, Duration.total, nanosPerSecond] at ha
    omega
  have hsum := sumWords?_eq hlow hhigh ha.1 ha.2.1 hb hsign
  have hcarried : word64? (a.seconds + sign * b.seconds +
      (a.nanos + sign * b.nanos) / nanosPerSecond) =
        some (a.seconds + sign * b.seconds + (a.nanos + sign * b.nanos) / nanosPerSecond) := by
    simp only [InRange, Duration.total, nanosPerSecond] at *
    rcases hsign with rfl | rfl <;> apply word64?_eq_some <;> omega
  rw [combineWords?, hsum, combine, hx]
  exact normalizeWords?_eq hcarried

theorem Timestamp.sinceWords?_eq {t earlier : Timestamp} (ht : t.InRange)
    (hearlier : earlier.InRange) : t.sinceWords? earlier = some (t.since earlier) := by
  simp only [InRange, minSeconds, maxSeconds, nanosPerSecond] at ht hearlier
  have hseconds : word64? (t.seconds - earlier.seconds) = some (t.seconds - earlier.seconds) := by
    apply word64?_eq_some <;> omega
  have hnanos : word64? (t.nanos - earlier.nanos) = some (t.nanos - earlier.nanos) := by
    apply word64?_eq_some <;> omega
  have hcarried : word64? (t.seconds - earlier.seconds +
      (t.nanos - earlier.nanos) / nanosPerSecond) =
        some (t.seconds - earlier.seconds + (t.nanos - earlier.nanos) / nanosPerSecond) := by
    simp only [nanosPerSecond]
    apply word64?_eq_some <;> omega
  rw [sinceWords?, hseconds, Option.bind_eq_bind, Option.bind_some, hnanos]
  exact Duration.normalizeWords?_eq hcarried

/-! The operators -/

open Library (call)

/-- The operators on times are the operations on them, failing at their own node. -/
structure OperateOnTimes (named? : String → Option ZoneRule) (id : Int) (t u : Timestamp)
    (d e : Duration) : Prop where
  later : call named? id Operator.add [.timestamp t, .duration d] =
    Value.timestamp <$> timed id (t.shift d 1)
  later' : call named? id Operator.add [.duration d, .timestamp t] =
    Value.timestamp <$> timed id (t.shift d 1)
  earlier : call named? id Operator.subtract [.timestamp t, .duration d] =
    Value.timestamp <$> timed id (t.shift d (-1))
  sum : call named? id Operator.add [.duration d, .duration e] =
    Value.duration <$> timed id (d.combine e 1)
  difference : call named? id Operator.subtract [.duration d, .duration e] =
    Value.duration <$> timed id (d.combine e (-1))
  opposite : call named? id Operator.negate [.duration d] = Value.duration <$> timed id d.negate
  between : call named? id Operator.subtract [.timestamp t, .timestamp u] =
    Value.duration <$> timed id (t.since u)

/-- Every operation on times gives the exact count of nanoseconds. -/
structure ExactOnTimes (t u : Timestamp) (d e : Duration) : Prop where
  later : Timestamp.kind.Exact (t.total + d.total) (t.shift d 1)
  earlier : Timestamp.kind.Exact (t.total - d.total) (t.shift d (-1))
  sum : Duration.kind.Exact (d.total + e.total) (d.combine e 1)
  difference : Duration.kind.Exact (d.total - e.total) (d.combine e (-1))
  opposite : Duration.kind.Exact (-d.total) d.negate
  between : Duration.kind.Exact (t.total - u.total) (t.since u)

/-- Every operation on times comes to the same in machine words, without leaving one. -/
structure WordsSuffice (t u : Timestamp) (d e : Duration) : Prop where
  later : t.shiftWords? d 1 = some (t.shift d 1)
  earlier : t.shiftWords? d (-1) = some (t.shift d (-1))
  sum : d.combineWords? e 1 = some (d.combine e 1)
  difference : d.combineWords? e (-1) = some (d.combine e (-1))
  opposite : Duration.zero.combineWords? d (-1) = some d.negate
  between : t.sinceWords? u = some (t.since u)

section Operations

variable {t u : Timestamp} {d e : Duration}

theorem exactOnTimes (t u : Timestamp) (hd : d.InRange) (he : e.InRange) :
    ExactOnTimes t u d e := by
  have hlater := t.shift_exact hd (Or.inl rfl)
  have hearlier := t.shift_exact hd (Or.inr rfl)
  have hsum := d.combine_exact he (Or.inl rfl)
  have hdifference := d.combine_exact he (Or.inr rfl)
  have hopposite := Duration.zero.combine_exact hd (Or.inr rfl)
  have hzero : Duration.zero.total = 0 := rfl
  rw [one_mul] at hlater hsum
  rw [neg_one_mul, ← sub_eq_add_neg] at hearlier hdifference
  rw [neg_one_mul, hzero, zero_add] at hopposite
  exact ⟨hlater, hearlier, hsum, hdifference, hopposite, t.since_exact u⟩

theorem wordsSuffice (ht : t.InRange) (hu : u.InRange) (hd : d.InRange) (he : e.InRange) :
    WordsSuffice t u d e where
  later := Timestamp.shiftWords?_eq ht hd (Or.inl rfl)
  earlier := Timestamp.shiftWords?_eq ht hd (Or.inr rfl)
  sum := Duration.combineWords?_eq hd he (Or.inl rfl)
  difference := Duration.combineWords?_eq hd he (Or.inr rfl)
  opposite := Duration.combineWords?_eq Duration.inRange_zero hd (Or.inr rfl)
  between := Timestamp.sinceWords?_eq ht hu

theorem Timestamp.shift_back (ht : t.InRange) (hd : d.InRange) {later : Timestamp}
    (hlater : t.shift d 1 = .ok later) : later.shift d (-1) = .ok t := by
  obtain ⟨-, hcount⟩ := (t.shift_exact hd (Or.inl rfl)).value later hlater
  refine (later.shift_exact hd (Or.inr rfl)).eq_ok ht ?_
  simp only [kind] at hcount ⊢
  omega

theorem Timestamp.shift_since (ht : t.InRange) {between : Duration}
    (hbetween : t.since u = .ok between) : u.shift between 1 = .ok t := by
  obtain ⟨hrange, hcount⟩ := (t.since_exact u).value between hbetween
  refine (u.shift_exact hrange (Or.inl rfl)).eq_ok ht ?_
  simp only [kind, Duration.kind] at hcount ⊢
  omega

/-- Times are normalized and computed with exactly: the result has the exact count of
nanoseconds if its kind has that count, and is the fault of the range otherwise.  On times in
range nothing leaves its machine word, and sums are undone by differences. -/
theorem times_computed_exactly (named? : String → Option ZoneRule) (seconds nanos : Int64)
    (id : Int) (ht : t.InRange) (hu : u.InRange) (hd : d.InRange) (he : e.InRange) :
    Timestamp.kind.Exact (seconds.toInt * nanosPerSecond + nanos.toInt)
        (Timestamp.normalize seconds.toInt nanos.toInt) ∧
      Duration.kind.Exact (seconds.toInt * nanosPerSecond + nanos.toInt)
        (Duration.normalize seconds.toInt nanos.toInt) ∧
      (Timestamp.normalizeWords? seconds.toInt nanos.toInt).getD (.error .timestampRange) =
        Timestamp.normalize seconds.toInt nanos.toInt ∧
      (Duration.normalizeWords? seconds.toInt nanos.toInt).getD (.error .durationRange) =
        Duration.normalize seconds.toInt nanos.toInt ∧
      OperateOnTimes named? id t u d e ∧ ExactOnTimes t u d e ∧ WordsSuffice t u d e ∧
      (∀ later, t.shift d 1 = .ok later → later.shift d (-1) = .ok t) ∧
      ∀ between, t.since u = .ok between → u.shift between 1 = .ok t := by
  refine ⟨Timestamp.normalize_exact _ _, Duration.normalize_exact _ _,
    Timestamp.normalizeWords?_getD _ _, Duration.normalizeWords?_getD _ _, ?_,
    exactOnTimes t u hd he, wordsSuffice ht hu hd he, ?_, ?_⟩
  · exact ⟨rfl, rfl, rfl, rfl, rfl, rfl, rfl⟩
  · exact fun _ hlater => Timestamp.shift_back ht hd hlater
  · exact fun _ hbetween => Timestamp.shift_since ht hbetween

end Operations

namespace TimeWitness

/-- The last nanosecond of the year 9999. -/
def last : Timestamp := ⟨253402300799, 999999999⟩

/-- The first second of the year 1. -/
def first : Timestamp := ⟨-62135596800, 0⟩

/-- The shortest span below zero that cannot be turned round. -/
def longest : Duration := ⟨-9223372037, 145224192⟩

def tick : Duration := ⟨0, 1⟩

/-- At the ends of the ranges a nanosecond decides. -/
theorem times_at_the_ends :
    last.InRange ∧ first.InRange ∧ longest.InRange ∧ tick.InRange ∧
      last.shift tick 1 = .error .timestampRange ∧ first.shift tick (-1) = .error .timestampRange ∧
      longest.negate = .error .durationRange ∧ longest.combine tick (-1) = .error .durationRange ∧
      last.since first = .error .durationRange ∧
      (∃ d, longest.combine tick 1 = .ok d ∧ d.total = -9223372036854775807) ∧
      WordsSuffice last first longest tick := by
  have hlast : last.InRange := by decide
  have hfirst : first.InRange := by decide
  have hlongest : longest.InRange := by decide
  have htick : tick.InRange := by decide
  obtain ⟨-, -, -, -, -, hexact, hwords, -, -⟩ :=
    times_computed_exactly (t := last) (u := first) namedZone? 0 0 1 hlast hfirst hlongest htick
  obtain ⟨-, -, -, -, -, hexact', -, -, -⟩ :=
    times_computed_exactly (t := last) (u := first) namedZone? 0 0 1 hlast hfirst htick htick
  obtain ⟨-, -, -, -, -, hexact'', -, -, -⟩ :=
    times_computed_exactly (t := first) (u := last) namedZone? 0 0 1 hfirst hlast htick htick
  obtain ⟨d, hd⟩ := hexact.sum.ok_iff.mpr (by decide)
  refine ⟨hlast, hfirst, hlongest, htick, hexact'.later.fault (by decide),
    hexact''.earlier.fault (by decide), hexact.opposite.fault (by decide),
    hexact.difference.fault (by decide), hexact.between.fault (by decide), ⟨d, hd, ?_⟩, hwords⟩
  exact (hexact.sum.value d hd).2

end TimeWitness

end CommonExpr
