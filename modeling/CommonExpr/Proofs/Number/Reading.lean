import CommonExpr.Proofs.Time.Grammar
import CommonExpr.Proofs.Time.RoundTrip

/-!
Integers read from text.

Main statement: a text is read as an integer exactly if it is an optional sign and one or more
digits, and their number is in range; the text of an integer is read as the integer.
-/

namespace CommonExpr

/-- Whether a sign turns a number down. -/
def SpanSign.down : SpanSign → Bool
  | .none => false
  | .plus => false
  | .minus => true

/-- An integer as it is written. -/
structure WrittenInteger where
  sign : SpanSign
  digits : List Char
  some_digit : digits ≠ []
  all_digits : ∀ c ∈ digits, isDigit c = true

namespace WrittenInteger

def text (x : WrittenInteger) : List Char := x.sign.text ++ x.digits

def value (x : WrittenInteger) : Int := x.sign.factor * digitsValue x.digits

end WrittenInteger

variable {low high : Int} {down : Bool}

/-- The number with the sign that digits are read with. -/
def signed (down : Bool) (n : Nat) : Int := if down then -(n : Int) else n

theorem signed_between {m n : Nat} (hmn : m ≤ n) (hzero : low ≤ 0 ∧ 0 ≤ high)
    (hlow : low ≤ signed down n) (hhigh : signed down n ≤ high) :
    low ≤ signed down m ∧ signed down m ≤ high := by
  cases down <;> simp only [signed, Bool.false_eq_true, if_true, if_false] at * <;> omega

theorem signed_step (n : Nat) (c : Char) :
    (if down then signed down n * 10 - digitWorth c else signed down n * 10 + digitWorth c) =
      signed down (n * 10 + digitWorth c) := by
  cases down
  · simp [signed]
  · simp [signed]
    ring

theorem digitsValue_step (n : Nat) (c : Char) (rest : List Char) :
    n * 10 ^ (c :: rest).length + digitsValue (c :: rest) =
      (n * 10 + digitWorth c) * 10 ^ rest.length + digitsValue rest := by
  rw [digitsValue_cons, List.length_cons]
  ring

/-- Digits are read as their number, if the range has it. -/
theorem readDigits_eq {n : Nat} {cs : List Char} (hcs : ∀ c ∈ cs, isDigit c = true)
    (hzero : low ≤ 0 ∧ 0 ≤ high)
    (hlow : low ≤ signed down (n * 10 ^ cs.length + digitsValue cs))
    (hhigh : signed down (n * 10 ^ cs.length + digitsValue cs) ≤ high) :
    readDigits low high down (signed down n) cs =
      .ok (signed down (n * 10 ^ cs.length + digitsValue cs)) := by
  induction cs generalizing n with
  | nil => simp [readDigits, digitsValue]
  | cons c rest ih =>
      have hc : isDigit c = true := hcs c List.mem_cons_self
      have hd : digitValue? c = some (digitWorth c) := by
        have hbounds : '0' ≤ c ∧ c ≤ '9' := by simpa [isDigit] using hc
        rw [digitWorth, digitValue?, if_pos hbounds, Option.getD_some]
      have hgrows : n * 10 + digitWorth c ≤
          (n * 10 + digitWorth c) * 10 ^ rest.length + digitsValue rest :=
        Nat.le_add_right_of_le (Nat.le_mul_of_pos_right _ (Nat.pow_pos (by decide)))
      rw [digitsValue_step] at hlow hhigh ⊢
      obtain ⟨hlow', hhigh'⟩ := signed_between hgrows hzero hlow hhigh
      rw [readDigits, hd]
      dsimp only
      rw [signed_step, if_neg (not_lt.mpr hlow'), if_neg (not_lt.mpr hhigh')]
      exact ih (fun x hx => hcs x (List.mem_cons_of_mem c hx)) hlow hhigh

theorem readDigits_toDigits {n : Nat} (hzero : low ≤ 0 ∧ 0 ≤ high) (hlow : low ≤ signed down n)
    (hhigh : signed down n ≤ high) :
    readDigits low high down 0 (Nat.toDigits 10 n) = .ok (signed down n) := by
  have hdigits : ∀ c ∈ Nat.toDigits 10 n, isDigit c = true := fun _ => isDigit_of_mem_toDigits
  have hvalue : 0 * 10 ^ (Nat.toDigits 10 n).length + digitsValue (Nat.toDigits 10 n) = n := by
    rw [digitsValue_toDigits, Nat.zero_mul, Nat.zero_add]
  have hnone : signed down 0 = 0 := by cases down <;> rfl
  have hread := readDigits_eq (n := 0) hdigits hzero (hvalue.symm ▸ hlow) (hvalue.symm ▸ hhigh)
  rwa [hvalue, hnone] at hread

theorem exists_digitWorth {c : Char} {d : Nat} (hd : digitValue? c = some d) :
    isDigit c = true ∧ d = digitWorth c := by
  have hworth : digitWorth c = d := by rw [digitWorth, hd, Option.getD_some]
  refine ⟨?_, hworth.symm⟩
  simp only [digitValue?, Option.ite_none_right_eq_some] at hd
  simpa [isDigit] using hd.1

/-- Only digits are read, and what is read is their number. -/
theorem readDigits_eq_ok {n : Nat} {cs : List Char} {i : Int}
    (hbetween : low ≤ signed down n ∧ signed down n ≤ high)
    (hread : readDigits low high down (signed down n) cs = .ok i) :
    (∀ c ∈ cs, isDigit c = true) ∧ i = signed down (n * 10 ^ cs.length + digitsValue cs) ∧
      low ≤ i ∧ i ≤ high := by
  induction cs generalizing n with
  | nil =>
      obtain rfl : signed down n = i := by simpa [readDigits] using hread
      simpa [digitsValue] using hbetween
  | cons c rest ih =>
      unfold readDigits at hread
      split at hread
      · cases hread
      · next d hd =>
          obtain ⟨hc, rfl⟩ := exists_digitWorth hd
          dsimp only at hread
          rw [signed_step] at hread
          split at hread
          · cases hread
          · split at hread
            · cases hread
            · next hlow hhigh =>
                obtain ⟨hrest, hi, hrange⟩ := ih ⟨not_lt.mp hlow, not_lt.mp hhigh⟩ hread
                refine ⟨List.forall_mem_cons.mpr ⟨hc, hrest⟩, ?_, hrange⟩
                rw [hi, digitsValue_step]

theorem unsigned_of_digits {cs : List Char} (hcs : ∀ c ∈ cs, isDigit c = true) : Unsigned cs := by
  intro c hc
  have hdigit := hcs c (List.mem_of_mem_head? hc)
  constructor <;> rintro rfl <;> exact absurd hdigit (by decide)

/-- One sign is taken off; the digits behind it are read up or down. -/
theorem readInteger_sign {s : String} (sign : SpanSign) {digits : List Char}
    (hs : s.toList = sign.text ++ digits) (hne : digits ≠ [])
    (hhead : sign = .none → Unsigned digits) (hlow : sign = .minus → low < 0) :
    readInteger low high s = readDigits low high sign.down 0 digits := by
  obtain ⟨c, rest, rfl⟩ := List.exists_cons_of_ne_nil hne
  cases sign with
  | none =>
      obtain ⟨hminus, hplus⟩ := hhead rfl c rfl
      unfold readInteger
      rw [hs]
      simp [SpanSign.text, SpanSign.down, hminus, hplus]
  | plus =>
      rw [readInteger, hs]
      rfl
  | minus =>
      rw [readInteger, hs]
      exact if_pos (hlow rfl)

/-- The text of an integer in range is read as the integer. -/
theorem readInteger_toString {i : Int} (hlow : low ≤ i) (hhigh : i ≤ high)
    (hzero : low ≤ 0 ∧ 0 ≤ high) : readInteger low high (toString i) = .ok i := by
  cases i with
  | ofNat n =>
      have hread : readDigits low high false 0 (Nat.toDigits 10 n) = .ok (Int.ofNat n) :=
        readDigits_toDigits hzero hlow hhigh
      have htext : (toString (Int.ofNat n)).toList = Nat.toDigits 10 n := Nat.toList_repr
      exact (readInteger_sign .none htext Nat.toDigits_ne_nil
        (fun _ => unsigned_of_digits fun _ => isDigit_of_mem_toDigits) nofun).trans hread
  | negSucc n =>
      have hread : readDigits low high true 0 (Nat.toDigits 10 (n + 1)) = .ok (Int.negSucc n) :=
        readDigits_toDigits hzero hlow hhigh
      have htext : (toString (Int.negSucc n)).toList = '-' :: Nat.toDigits 10 (n + 1) := by
        have hminus : toString (Int.negSucc n) = "-" ++ (n + 1).repr := rfl
        rw [hminus, String.toList_append, Nat.toList_repr]
        rfl
      exact (readInteger_sign .minus htext Nat.toDigits_ne_nil nofun fun _ => by omega).trans hread

/-- No two integers have one text, as both are read back from theirs. -/
theorem toString_int_injective : Function.Injective (toString : Int → String) := by
  intro i j htext
  have hread (n : Int) (hn : n.natAbs ≤ i.natAbs + j.natAbs) :
      readInteger (-(i.natAbs + j.natAbs)) (i.natAbs + j.natAbs) (toString n) = .ok n :=
    readInteger_toString (by omega) (by omega) (by omega)
  have hi := hread i (Nat.le_add_right _ _)
  rw [htext, hread j (Nat.le_add_left _ _)] at hi
  exact (Except.ok.inj hi).symm

theorem readInt64_toString (i : Int64) : readInt64 (toString i.toInt) = .ok i := by
  have hlow := i.le_toInt
  have hhigh := i.toInt_lt
  rw [readInt64, readInteger_toString (by omega) (by omega) (by decide)]
  exact congrArg Except.ok (Int64.ofInt_toInt i)

theorem readUInt64_toString (u : UInt64) : readUInt64 (toString u.toNat) = .ok u := by
  have hhigh := u.toNat_lt
  have hread : readInteger 0 18446744073709551615 (toString u.toNat) = .ok (u.toNat : Int) :=
    readInteger_toString (i := u.toNat) (Int.natCast_nonneg _) (by omega) (by decide)
  rw [readUInt64, hread]
  exact congrArg Except.ok UInt64.ofNat_toNat

/-- What is read as an integer is a written integer in range. -/
theorem readInteger_eq_ok_iff (hlow : low < 0) (hhigh : 0 ≤ high) {s : String} {i : Int} :
    readInteger low high s = .ok i ↔
      ∃ x : WrittenInteger, s.toList = x.text ∧ x.value = i ∧ low ≤ i ∧ i ≤ high := by
  have hzero : low ≤ 0 ∧ 0 ≤ high := ⟨hlow.le, hhigh⟩
  have hvalue : ∀ (sign : SpanSign) (digits : List Char),
      signed sign.down (0 * 10 ^ digits.length + digitsValue digits) =
        sign.factor * digitsValue digits := by
    intro sign digits
    cases sign <;> simp [signed, SpanSign.down, SpanSign.factor]
  have hstart : ∀ down, signed down 0 = 0 := by
    intro down
    cases down <;> rfl
  constructor
  · intro hread
    obtain ⟨sign, digits, hs, hhead⟩ := exists_sign s.toList
    have hne : digits ≠ [] := by
      rintro rfl
      cases sign <;> simp [readInteger, hs, SpanSign.text] at hread
    rw [readInteger_sign sign hs hne hhead fun _ => hlow, ← hstart sign.down] at hread
    obtain ⟨hdigits, rfl, hrange⟩ :=
      readDigits_eq_ok (by rw [hstart]; exact hzero) hread
    exact ⟨⟨sign, digits, hne, hdigits⟩, hs, (hvalue sign digits).symm, hrange⟩
  · rintro ⟨x, hs, rfl, hmin, hmax⟩
    rw [readInteger_sign x.sign hs x.some_digit (fun _ => unsigned_of_digits x.all_digits)
      fun _ => hlow, ← hstart x.sign.down]
    rw [WrittenInteger.value, ← hvalue] at hmin hmax
    rw [readDigits_eq x.all_digits hzero hmin hmax, hvalue]
    rfl

end CommonExpr
