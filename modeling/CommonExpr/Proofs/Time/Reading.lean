import CommonExpr.Proofs.Time.Arithmetic
import CommonExpr.Proofs.Time.Decimal
import Mathlib.Algebra.Order.BigOperators.Group.List

/-!
Reading spans of time.

A span is written as a sign and parts, each a decimal number with its unit.  Main statements:
what is read is the sum of the parts, each without what the places of its decimal lose, and the
text of a span is read back as the span.
-/

namespace CommonExpr

/-! Written spans -/

/-- A decimal number of units, as it is written. -/
structure SpanPart where
  whole : List Char
  /-- The digits after the point, if there is one. -/
  places : Option (List Char)
  unit : String
  scale : Nat
  whole_digits : ∀ c ∈ whole, isDigit c = true
  places_digits : ∀ c ∈ places.getD [], isDigit c = true
  some_digit : whole ≠ [] ∨ places.getD [] ≠ []
  unit_nanos : unitNanos? unit = some scale

inductive SpanSign where
  | none
  | plus
  | minus

/-- A span as it is written. -/
structure WrittenSpan where
  sign : SpanSign
  parts : List SpanPart
  some_part : parts ≠ []

namespace SpanPart

def fraction (p : SpanPart) : List Char := p.places.getD []

def number (p : SpanPart) : List Char :=
  match p.places with
  | none => p.whole
  | some digits => p.whole ++ '.' :: digits

def text (p : SpanPart) : List Char := p.number ++ p.unit.toList

def exact (p : SpanPart) : ℚ := exactNanos p.whole p.fraction p.scale

def lost (p : SpanPart) : ℚ := lostNanos p.fraction p.scale

def counted (p : SpanPart) : Nat := countedNanos p.whole p.fraction p.scale

theorem counted_eq (p : SpanPart) : p.counted = ⌊p.exact⌋₊ - ⌊p.lost⌋₊ := by
  have hfloor := floor_exactNanos p.whole p.fraction p.scale
  simp only [counted, exact, lost]
  omega

end SpanPart

namespace SpanSign

def text : SpanSign → List Char
  | none => []
  | plus => ['+']
  | minus => ['-']

def factor : SpanSign → Int
  | none => 1
  | plus => 1
  | minus => -1

end SpanSign

namespace WrittenSpan

def text (x : WrittenSpan) : String := String.ofList (x.sign.text ++ x.parts.flatMap SpanPart.text)

/-- The sum of the parts with the sign of the whole, when the sum fits a signed 64-bit word. -/
def sum (x : WrittenSpan) (worth : SpanPart → Nat) : Except TimeFault Duration :=
  if (x.parts.map worth).sum < 9223372036854775808 then
    .ok (Duration.ofNanos (x.sign.factor * (x.parts.map worth).sum))
  else .error .durationRange

end WrittenSpan

/-! One part -/

theorem unitNanos?_cases {unit : String} {scale : Nat} (hunit : unitNanos? unit = some scale) :
    (unit = "h" ∧ scale = 36 * 10 ^ 11) ∨ (unit = "m" ∧ scale = 6 * 10 ^ 10) ∨
      (unit = "s" ∧ scale = 10 ^ 9) ∨ (unit = "ms" ∧ scale = 10 ^ 6) ∨
      (unit = "us" ∧ scale = 10 ^ 3) ∨ (unit = "µs" ∧ scale = 10 ^ 3) ∨
      (unit = "ns" ∧ scale = 10 ^ 0) := by
  unfold unitNanos? at hunit
  split at hunit <;> cases hunit <;> simp

theorem scale_pos {unit : String} {scale : Nat} (hunit : unitNanos? unit = some scale) :
    0 < scale := by
  rcases unitNanos?_cases hunit with ⟨-, rfl⟩ | ⟨-, rfl⟩ | ⟨-, rfl⟩ | ⟨-, rfl⟩ | ⟨-, rfl⟩ |
    ⟨-, rfl⟩ | ⟨-, rfl⟩ <;> decide

theorem unit_toList {unit : String} {scale : Nat} (hunit : unitNanos? unit = some scale) :
    unit.toList ≠ [] ∧ ∀ c ∈ unit.toList, isNumberChar c = false := by
  rcases unitNanos?_cases hunit with ⟨rfl, -⟩ | ⟨rfl, -⟩ | ⟨rfl, -⟩ | ⟨rfl, -⟩ | ⟨rfl, -⟩ |
    ⟨rfl, -⟩ | ⟨rfl, -⟩ <;> simp [isNumberChar, isDigit]

/-- A run ends where the first character is not one of it. -/
theorem split_run {p : Char → Bool} {run : List Char} (rest : List Char)
    (hrun : ∀ c ∈ run, p c = true) (hrest : ∀ c ∈ rest.head?, p c = false) :
    (run ++ rest).takeWhile p = run ∧ (run ++ rest).dropWhile p = rest := by
  rw [List.takeWhile_append_of_pos hrun, List.dropWhile_append_of_pos hrun]
  cases rest with
  | nil => simp
  | cons c rest => simp [hrest c rfl]

theorem ne_point_of_isDigit {c : Char} (hdigit : isDigit c = true) : (c != '.') = true := by
  refine bne_iff_ne.mpr ?_
  rintro rfl
  cases hdigit

namespace SpanPart

variable (p : SpanPart)

theorem splitPoint_number : splitPoint p.number = (p.whole, p.fraction) := by
  have hwhole : ∀ c ∈ p.whole, (c != '.') = true :=
    fun c hc => ne_point_of_isDigit (p.whole_digits c hc)
  unfold splitPoint number fraction
  cases p.places with
  | none =>
      obtain ⟨htake, hdrop⟩ := split_run [] hwhole (by simp)
      rw [List.append_nil] at htake hdrop
      simp [htake, hdrop]
  | some digits =>
      obtain ⟨htake, hdrop⟩ := split_run ('.' :: digits) hwhole (by simp)
      simp [htake, hdrop]

theorem isNumberChar_of_mem {c : Char} (hc : c ∈ p.number) : isNumberChar c = true := by
  have hwhole := p.whole_digits
  have hplaces := p.places_digits
  unfold number at hc
  unfold isNumberChar
  cases hcase : p.places with
  | none =>
      rw [hcase] at hc
      simp [hwhole c hc]
  | some digits =>
      rw [hcase] at hc hplaces
      rcases List.mem_append.mp hc with hc | hc
      · simp [hwhole c hc]
      · rcases List.mem_cons.mp hc with rfl | hc
        · rfl
        · simp [hplaces c hc]

theorem number_ne_nil : p.number ≠ [] := by
  have hsome := p.some_digit
  unfold number
  cases hcase : p.places with
  | none => simpa [hcase] using hsome
  | some digits => simp

theorem head_text (rest : List Char) : ∀ c ∈ (p.text ++ rest).head?, isNumberChar c = true := by
  obtain ⟨c, cs, hnumber⟩ := List.exists_cons_of_ne_nil p.number_ne_nil
  have hc : isNumberChar c = true := p.isNumberChar_of_mem (by simp [hnumber])
  simp [text, hnumber, hc]

/-- A part is split off before anything that does not go on with its unit. -/
theorem take_text {rest : List Char} (hrest : ∀ c ∈ rest.head?, isNumberChar c = true) :
    DurationPart.take (p.text ++ rest) = ⟨p.number, p.unit.toList, rest⟩ := by
  obtain ⟨hunit, hchars⟩ := unit_toList p.unit_nanos
  obtain ⟨u, us, hcons⟩ := List.exists_cons_of_ne_nil hunit
  have hstop : ∀ c ∈ (p.unit.toList ++ rest).head?, isNumberChar c = false := by
    have hu := hchars u (by simp [hcons])
    simp [hcons, hu]
  have hunit : ∀ c ∈ p.unit.toList, (!isNumberChar c) = true :=
    fun c hc => by simp [hchars c hc]
  have hnext : ∀ c ∈ rest.head?, (!isNumberChar c) = false := fun c hc => by simp [hrest c hc]
  obtain ⟨hnumber, htail⟩ := split_run _ (fun c => p.isNumberChar_of_mem) hstop
  obtain ⟨htake, hdrop⟩ := split_run rest hunit hnext
  rw [text, List.append_assoc, DurationPart.take, hnumber, htail, htake, hdrop]

theorem nanos_text (rest : List Char) :
    (DurationPart.mk p.number p.unit.toList rest).nanos =
      (fits128 p.counted).elim (.error .durationRange) .ok := by
  have hempty : (p.whole.isEmpty && p.fraction.isEmpty) = false := by
    have hsome := p.some_digit
    unfold fraction
    cases hwhole : p.whole with
    | nil => simpa [hwhole] using hsome
    | cons c rest => rfl
  have hpoint : p.fraction.contains '.' = false := by
    rw [Bool.eq_false_iff]
    intro hcontains
    have hdigit := p.places_digits '.' (List.contains_iff_mem.mp hcontains)
    cases hdigit
  rw [DurationPart.nanos, p.splitPoint_number]
  simp only [hempty, hpoint, Bool.or_self, Bool.false_eq_true, if_false, String.ofList_toList,
    p.unit_nanos, decimalNanos_eq (scale_pos p.unit_nanos), counted]
  cases fits128 (countedNanos p.whole p.fraction p.scale) <;> rfl

end SpanPart

/-! All parts -/

/-- Parts are added up before anything that does not go on with the last unit. -/
theorem sumParts_append {fuel sum : Nat} {parts : List SpanPart} {rest : List Char}
    (hfuel : parts.length ≤ fuel) (hrest : parts ≠ [] → ∀ c ∈ rest.head?, isNumberChar c = true)
    (hsum : sum < 9223372036854775808) :
    sumParts fuel sum (parts.flatMap SpanPart.text ++ rest) =
      if sum + (parts.map SpanPart.counted).sum < 9223372036854775808 then
        sumParts (fuel - parts.length) (sum + (parts.map SpanPart.counted).sum) rest
      else .error .durationRange := by
  induction parts generalizing fuel sum with
  | nil => simp [hsum]
  | cons p parts ih =>
      obtain ⟨fuel, rfl⟩ : ∃ n, fuel = n + 1 := ⟨fuel - 1, by simp at hfuel; omega⟩
      replace hrest := hrest (List.cons_ne_nil p parts)
      have hhead : ∀ c ∈ (parts.flatMap SpanPart.text ++ rest).head?, isNumberChar c = true := by
        cases parts with
        | nil => exact hrest
        | cons q parts =>
            rw [List.flatMap_cons, List.append_assoc]
            exact q.head_text _
      have hcons : p.text ++ (parts.flatMap SpanPart.text ++ rest) ≠ [] := by
        simp [SpanPart.text, p.number_ne_nil]
      rw [List.flatMap_cons, List.append_assoc, sumParts.eq_3 _ _ _ hcons, p.take_text hhead,
        List.map_cons, List.sum_cons, ← Nat.add_assoc]
      simp only [p.nanos_text]
      by_cases hfits : sum + p.counted < 9223372036854775808
      · rw [fits128, if_pos (by omega)]
        simp only [Option.elim_some, hfits, if_true]
        rw [ih (by simpa using hfuel) (fun _ => hrest) hfits, List.length_cons,
          Nat.add_sub_add_right]
      · rw [if_neg (by omega : ¬ sum + p.counted + (parts.map SpanPart.counted).sum < _)]
        cases hcounted : fits128 p.counted with
        | none => rfl
        | some n =>
            obtain rfl := eq_of_fits128 hcounted
            simp only [Option.elim_some, hfits, if_false]

theorem sumParts_lt {fuel sum n : Nat} {cs : List Char} (hsum : sum < 9223372036854775808)
    (hn : sumParts fuel sum cs = .ok n) : n < 9223372036854775808 := by
  induction fuel generalizing sum cs with
  | zero =>
      cases cs <;> cases hn <;> exact hsum
  | succ fuel ih =>
      cases cs with
      | nil =>
          cases hn
          exact hsum
      | cons c cs =>
          rw [sumParts.eq_3 _ _ _ (List.cons_ne_nil c cs)] at hn
          split at hn
          · cases hn
          · split at hn
            · next hfits => exact ih hfits hn
            · cases hn

theorem sumParts_text {fuel sum : Nat} {parts : List SpanPart} (hfuel : parts.length ≤ fuel)
    (hsum : sum < 9223372036854775808) :
    sumParts fuel sum (parts.flatMap SpanPart.text) =
      if sum + (parts.map SpanPart.counted).sum < 9223372036854775808 then
        .ok (sum + (parts.map SpanPart.counted).sum)
      else .error .durationRange := by
  have hend : parts ≠ [] → ∀ c ∈ ([] : List Char).head?, isNumberChar c = true := by simp
  have hparts := sumParts_append hfuel hend hsum
  rwa [List.append_nil, sumParts.eq_1] at hparts

/-- Seconds and nanoseconds of one sign are the span with their count. -/
theorem Duration.normalize_count {n : Int} (hn : Duration.kind.Counts n) :
    normalize (n.tdiv nanosPerSecond) (n.tmod nanosPerSecond) = .ok (ofNanos n) := by
  refine (normalize_exact _ _).eq_ok (inRange_ofNanos hn) ?_
  rw [Int.tdiv_mul_add_tmod]
  exact total_ofNanos n

/-- A span is read as what its parts come to, with the sign of the whole. -/
theorem Duration.read_eq {s : String} {sign : SpanSign} {body : List Char}
    (hs : s.toList = sign.text ++ body)
    (hsign : sign = .none → ∀ c ∈ body.head?, c ≠ '-' ∧ c ≠ '+') :
    read s =
      if body = [] then .error (.durationText (.invalid s))
      else if body = ['0'] then .ok .zero
      else (sumParts body.length 0 body).map fun sum : Nat => ofNanos (sign.factor * sum) := by
  unfold read
  split
  next negative body' hsplit =>
    have hsigned : body' = body ∧ sign.factor = if negative then -1 else 1 := by
      rw [hs] at hsplit
      cases sign with
      | none =>
          simp only [SpanSign.text, List.nil_append] at hsplit
          split at hsplit
          · next rest => exact absurd rfl (hsign rfl '-' rfl).1
          · next rest => exact absurd rfl (hsign rfl '+' rfl).2
          · cases hsplit
            exact ⟨rfl, rfl⟩
      | plus =>
          cases hsplit
          exact ⟨rfl, rfl⟩
      | minus =>
          cases hsplit
          exact ⟨rfl, rfl⟩
    obtain ⟨rfl, hfactor⟩ := hsigned
    simp only [List.isEmpty_iff]
    split
    · rfl
    · split
      · rfl
      · cases hsum : sumParts body'.length 0 body' with
        | error f => rfl
        | ok sum =>
            have hlt := sumParts_lt (by decide) hsum
            have hcounts : Duration.kind.Counts (sign.factor * sum) := by
              rw [hfactor]
              simp only [Duration.kind]
              split <;> omega
            have htotal : (if negative then -(sum : Int) else sum) = sign.factor * sum := by
              rw [hfactor]
              split <;> simp
            simp only [htotal]
            exact Duration.normalize_count hcounts

namespace WrittenSpan

variable (x : WrittenSpan)

theorem length_le_flatMap_text (parts : List SpanPart) :
    parts.length ≤ (parts.flatMap SpanPart.text).length := by
  induction parts with
  | nil => exact Nat.zero_le _
  | cons p rest ih =>
      have hpos : 0 < p.text.length :=
        List.length_pos_iff.mpr (by simp [SpanPart.text, p.number_ne_nil])
      rw [List.flatMap_cons, List.length_append, List.length_cons]
      omega

/-- The parts are no sign and no bare zero. -/
theorem flatMap_text_eq_cons :
    ∃ c cs, x.parts.flatMap SpanPart.text = c :: cs ∧ c ≠ '-' ∧ c ≠ '+' ∧ c :: cs ≠ ['0'] := by
  obtain ⟨p, rest, hparts⟩ := List.exists_cons_of_ne_nil x.some_part
  obtain ⟨hunit, hchars⟩ := unit_toList p.unit_nanos
  obtain ⟨c, cs, hnumber⟩ := List.exists_cons_of_ne_nil p.number_ne_nil
  obtain ⟨u, us, hunit⟩ := List.exists_cons_of_ne_nil hunit
  have hc : isNumberChar c = true := p.isNumberChar_of_mem (by simp [hnumber])
  refine ⟨c, cs ++ p.unit.toList ++ rest.flatMap SpanPart.text, ?_, ?_, ?_, ?_⟩
  · simp [hparts, SpanPart.text, hnumber]
  · rintro rfl
    cases hc
  · rintro rfl
    cases hc
  · simp [hunit]

theorem read_text : Duration.read x.text = x.sum SpanPart.counted := by
  obtain ⟨c, cs, hparts, hminus, hplus, hzero⟩ := x.flatMap_text_eq_cons
  have htext : x.text.toList = x.sign.text ++ c :: cs := by rw [text, hparts, String.toList_ofList]
  have hsum := sumParts_text (length_le_flatMap_text x.parts) (by decide : 0 < 9223372036854775808)
  rw [hparts, Nat.zero_add] at hsum
  have hunsigned : ∀ d ∈ (c :: cs).head?, d ≠ '-' ∧ d ≠ '+' := by
    rintro d ⟨⟩
    exact ⟨hminus, hplus⟩
  rw [Duration.read_eq htext fun _ => hunsigned, if_neg (List.cons_ne_nil c cs), if_neg hzero, hsum,
    sum]
  split <;> rfl

end WrittenSpan

/-! What decimals lose -/

/-- How a decimal of a unit comes to nanoseconds: its exact value is cut to whole ones exactly
if its places lose less than one together, as they do in every unit but hours and minutes. -/
structure CountsDecimal (whole fraction : List Char) (unit : String) (scale : Nat) : Prop where
  value : decimalNanos whole fraction scale =
    fits128 (⌊exactNanos whole fraction scale⌋₊ - ⌊lostNanos fraction scale⌋₊)
  truncated_iff : ∀ n, decimalNanos whole fraction scale = some n →
    (n = ⌊exactNanos whole fraction scale⌋₊ ↔ lostNanos fraction scale < 1)
  absent : decimalNanos whole fraction scale = none →
    (170141183460469231731687303715884105728 : ℚ) ≤ exactNanos whole fraction scale
  tens : unit ≠ "h" → unit ≠ "m" → lostNanos fraction scale < 1
  hours : unit = "h" → fraction.length ≤ 11 → lostNanos fraction scale = 0
  minutes : unit = "m" → fraction.length ≤ 10 → lostNanos fraction scale = 0

theorem countsDecimal (whole fraction : List Char) {unit : String} {scale : Nat}
    (hunit : unitNanos? unit = some scale) : CountsDecimal whole fraction unit scale := by
  have hfloor := floor_exactNanos whole fraction scale
  have hcounted := decimalNanos_eq (scale_pos hunit) whole fraction
  refine ⟨?_, ?_, ?_, ?_, ?_, ?_⟩
  · rw [hcounted, hfloor, Nat.add_sub_cancel]
  · intro n hn
    obtain rfl := eq_of_fits128 (hcounted.symm.trans hn)
    rw [hfloor, ← Nat.floor_eq_zero]
    omega
  · intro hnone
    have hlarge := fits128_eq_none.mp (hcounted.symm.trans hnone)
    have hlarge' : (170141183460469231731687303715884105728 : ℚ) ≤
        countedNanos whole fraction scale := by exact_mod_cast hlarge
    rw [exactNanos_eq]
    linarith [lostNanos_nonneg fraction scale]
  · intro hh hm
    rcases unitNanos?_cases hunit with ⟨h, -⟩ | ⟨h, -⟩ | ⟨-, rfl⟩ | ⟨-, rfl⟩ | ⟨-, rfl⟩ |
      ⟨-, rfl⟩ | ⟨-, rfl⟩
    · exact absurd h hh
    · exact absurd h hm
    all_goals exact lostNanos_lt_one _
  · rintro rfl hlength
    obtain rfl : 3600000000000 = scale := Option.some.inj hunit
    exact lostNanos_eq_zero (by decide : 10 ^ 11 ∣ 3600000000000) hlength
  · rintro rfl hlength
    obtain rfl : 60000000000 = scale := Option.some.inj hunit
    exact lostNanos_eq_zero (by decide : 10 ^ 10 ∣ 60000000000) hlength

/-- Sums are one span if they are one number, and one fault if both are too large. -/
theorem WrittenSpan.sum_eq_iff (x : WrittenSpan) (worth worth' : SpanPart → Nat) :
    x.sum worth = x.sum worth' ↔ (x.parts.map worth).sum = (x.parts.map worth').sum ∨
      9223372036854775808 ≤ (x.parts.map worth).sum ∧
        9223372036854775808 ≤ (x.parts.map worth').sum := by
  have hfactor : x.sign.factor ≠ 0 := by cases x.sign <;> decide
  unfold WrittenSpan.sum
  constructor
  · intro heq
    split at heq <;> split at heq
    · have htotal := congrArg Duration.total (Except.ok.inj heq)
      rw [Duration.total_ofNanos, Duration.total_ofNanos] at htotal
      exact Or.inl (Int.ofNat.inj (mul_left_cancel₀ hfactor htotal))
    · cases heq
    · cases heq
    · exact Or.inr ⟨by omega, by omega⟩
  · rintro (heq | ⟨hlarge, hlarge'⟩)
    · rw [heq]
    · rw [if_neg (by omega), if_neg (by omega)]

/-- A span is read as the sum of its parts, each cut to whole nanoseconds and short by the whole
nanoseconds that the places of its decimal lose. -/
theorem parts_read_short_of_lost (whole fraction : List Char) {unit : String} {scale : Nat}
    (hunit : unitNanos? unit = some scale) (x : WrittenSpan) :
    CountsDecimal whole fraction unit scale ∧
      Duration.read x.text = x.sum (fun p => ⌊p.exact⌋₊ - ⌊p.lost⌋₊) ∧
      (Duration.read x.text = x.sum (fun p => ⌊p.exact⌋₊) ↔ (∀ p ∈ x.parts, p.lost < 1) ∨
        9223372036854775808 ≤ (x.parts.map fun p => ⌊p.exact⌋₊ - ⌊p.lost⌋₊).sum) := by
  have hread : Duration.read x.text = x.sum (fun p => ⌊p.exact⌋₊ - ⌊p.lost⌋₊) := by
    rw [x.read_text, funext SpanPart.counted_eq]
  have hle : ∀ p ∈ x.parts, ⌊p.exact⌋₊ - ⌊p.lost⌋₊ ≤ ⌊p.exact⌋₊ := fun p _ => Nat.sub_le _ _
  have hsums := List.sum_le_sum hle
  refine ⟨countsDecimal whole fraction hunit, hread, ?_⟩
  rw [hread, x.sum_eq_iff]
  constructor
  · rintro (heq | ⟨hlarge, -⟩)
    · refine Or.inl fun p hp => ?_
      by_contra hlost
      have hfloor := floor_exactNanos p.whole p.fraction p.scale
      have hpos := Nat.floor_pos.mpr (not_lt.mp hlost)
      have hlt : ⌊p.exact⌋₊ - ⌊p.lost⌋₊ < ⌊p.exact⌋₊ := by
        simp only [SpanPart.exact, SpanPart.lost] at *
        omega
      exact absurd heq (List.sum_lt_sum _ _ hle ⟨p, hp, hlt⟩).ne
    · exact Or.inr hlarge
  · rintro (hlost | hlarge)
    · refine Or.inl (congrArg List.sum (List.map_congr_left fun p hp => ?_))
      rw [Nat.floor_eq_zero.mpr (hlost p hp), Nat.sub_zero]
    · exact Or.inr ⟨hlarge, hlarge.trans hsums⟩

namespace SpanWitness

/-- `-1h.5m` -/
def negative : WrittenSpan where
  sign := .minus
  parts := [
    ⟨['1'], none, "h", 3600000000000, by simp [isDigit], by simp, by simp, rfl⟩,
    ⟨[], some ['5'], "m", 60000000000, by simp, by simp [isDigit], by simp, rfl⟩]
  some_part := by decide

theorem negative_read :
    unitNanos? "h" = some 3600000000000 ∧ negative.text = "-1h.5m" ∧
      Duration.read negative.text = .ok ⟨-3630, 0⟩ ∧ lostNanos ['5'] 3600000000000 = 0 := by
  have hunit : unitNanos? "h" = some 3600000000000 := rfl
  obtain ⟨hdecimal, hread, -⟩ := parts_read_short_of_lost ['1'] ['5'] hunit negative
  refine ⟨hunit, by decide, ?_, hdecimal.hours rfl (by decide)⟩
  rw [hread, ← funext SpanPart.counted_eq]
  decide

def ninth : List Char := "000000000009".toList

/-- Nine at the twelfth place of an hour counts 27 nanoseconds and is worth 32.4. -/
theorem ninth_counted_short :
    decimalNanos ['0'] ninth 3600000000000 = some 27 ∧
      ⌊exactNanos ['0'] ninth 3600000000000⌋₊ = 32 ∧
      Duration.read "0.000000000009h" = .ok ⟨0, 27⟩ := by
  have hexact : exactNanos ['0'] ninth 3600000000000 = 162 / 5 := by
    have hzero : digitsValue ['0'] = 0 := by decide
    have hnine : digitsValue ninth = 9 := by decide
    have hlength : ninth.length = 12 := by decide
    rw [exactNanos, hzero, hnine, hlength]
    norm_num
  refine ⟨by decide, ?_, by decide⟩
  rw [hexact, Nat.floor_eq_iff (by norm_num)]
  norm_num

end SpanWitness

end CommonExpr
