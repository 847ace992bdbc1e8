import CommonExpr.Proofs.Number.Reading
import CommonExpr.Proofs.Text.Search
import CommonExpr.Time.NamedZone

/-!
Fixed offsets from UTC as they are written.

An offset is a sign, hours, a colon and minutes, and blanks around them.  The hours and the
minutes are integers with signs of their own, as any integer that is read.  Main statement: a text
that names no zone is read as an offset exactly if it spells one in range, and hours and minutes
that are digits alone are all there is to it where no text spells them with signs.
-/

namespace CommonExpr

/-- An offset as it is written. -/
structure WrittenOffset where
  sign : SpanSign
  hours : WrittenInteger
  minutes : WrittenInteger
  /-- The first sign is that of the offset. -/
  leading : sign = .none → hours.sign = .none

namespace WrittenOffset

variable (x : WrittenOffset)

def text : List Char := x.sign.text ++ (x.hours.text ++ ':' :: x.minutes.text)

def seconds : Int := x.sign.factor * (x.hours.value * 3600 + x.minutes.value * 60)

/-- Less than a day of hours, less than an hour of minutes. -/
structure InRange : Prop where
  hours_between : 0 ≤ x.hours.value ∧ x.hours.value < 24
  minutes_between : 0 ≤ x.minutes.value ∧ x.minutes.value < 60

/-- The hours and the minutes are digits alone. -/
structure Plain : Prop where
  hours_unsigned : x.hours.sign = .none
  minutes_unsigned : x.minutes.sign = .none

/-- Nothing but blanks stands around the offset. -/
def Spells (tz : String) : Prop :=
  ∃ before after, tz.toList = before ++ x.text ++ after ∧
    (∀ c ∈ before, Text.isBlank c = true) ∧ ∀ c ∈ after, Text.isBlank c = true

end WrittenOffset

/-- A text is read as one of the offsets it spells, and is no zone where it spells none. -/
structure Zone.ReadAsOffset (named? : String → Option ZoneRule) (offsets : WrittenOffset → Prop)
    (tz : String) : Prop where
  ok_iff : ∀ zone, Zone.readAmong named? tz = .ok zone ↔
    ∃ x : WrittenOffset, offsets x ∧ x.Spells tz ∧ zone = .fixed x.seconds
  refused : (∀ x : WrittenOffset, offsets x → ¬ x.Spells tz) →
    Zone.readAmong named? tz = .error (.unknownZone tz)

/-! The characters of an offset -/

/-- The characters that integers are written with. -/
def isIntegerChar (c : Char) : Bool := isDigit c || c == '+' || c == '-'

theorem isBlank_of_isIntegerChar {c : Char} (hc : isIntegerChar c = true) :
    Text.isBlank c = false := by
  simp only [isIntegerChar, isDigit, Bool.or_eq_true, Bool.and_eq_true, decide_eq_true_eq,
    beq_iff_eq] at hc
  rcases hc with (⟨hlow, hhigh⟩ | rfl) | rfl
  · have hlow' : 48 ≤ c.toNat := hlow
    have hhigh' : c.toNat ≤ 57 := hhigh
    simp [Text.isBlank, Text.blanks, Text.CharSet.holds, Text.CharRange.holds]
    omega
  · decide
  · decide

theorem WrittenInteger.isIntegerChar_of_mem (x : WrittenInteger) {c : Char} (hc : c ∈ x.text) :
    isIntegerChar c = true := by
  rcases List.mem_append.mp hc with hsign | hdigit
  · cases hx : x.sign <;> simp_all [SpanSign.text, isIntegerChar]
  · simp [isIntegerChar, x.all_digits c hdigit]

theorem SpanSign.isIntegerChar_of_mem {sign : SpanSign} {c : Char} (hc : c ∈ sign.text) :
    isIntegerChar c = true := by
  cases sign <;> simp_all [SpanSign.text, isIntegerChar]

theorem WrittenInteger.colon_notMem (x : WrittenInteger) : ':' ∉ x.text :=
  fun hc => absurd (x.isIntegerChar_of_mem hc) (by decide)

theorem WrittenOffset.isBlank_of_mem (x : WrittenOffset) {c : Char} (hc : c ∈ x.text) :
    Text.isBlank c = false := by
  simp only [WrittenOffset.text, List.mem_append, List.mem_cons] at hc
  rcases hc with hsign | hhours | rfl | hminutes
  · exact isBlank_of_isIntegerChar (SpanSign.isIntegerChar_of_mem hsign)
  · exact isBlank_of_isIntegerChar (x.hours.isIntegerChar_of_mem hhours)
  · decide
  · exact isBlank_of_isIntegerChar (x.minutes.isIntegerChar_of_mem hminutes)

theorem WrittenOffset.spells_iff (x : WrittenOffset) (tz : String) :
    x.Spells tz ↔ (Text.trim tz).toList = x.text :=
  (Text.trim_eq_iff fun _ => x.isBlank_of_mem).symm

/-! Reading an offset -/

theorem readClockPart_eq_some_iff {limit : Int} (hlimit : limit ≤ 2147483648) {s : String}
    {i : Int} : readClockPart limit s = some i ↔
      ∃ x : WrittenInteger, s.toList = x.text ∧ x.value = i ∧ 0 ≤ i ∧ i < limit := by
  have hread := @readInteger_eq_ok_iff (-2147483648) 2147483647 (by decide) (by decide) s
  rw [readClockPart]
  constructor
  · intro hsome
    split at hsome
    · next j hj =>
        simp only [Option.ite_none_right_eq_some, Option.some.injEq] at hsome
        obtain ⟨hbetween, rfl⟩ := hsome
        obtain ⟨x, hs, hx, -⟩ := hread.mp hj
        exact ⟨x, hs, hx, hbetween⟩
    · cases hsome
  · rintro ⟨x, hs, hx, hmin, hmax⟩
    rw [hread.mpr ⟨x, hs, hx, by omega, by omega⟩]
    exact if_pos ⟨hmin, hmax⟩

theorem readClock_eq_some_iff {s : String} {seconds : Int} :
    readClock s = some seconds ↔ ∃ hours minutes : WrittenInteger,
      s.toList = hours.text ++ ':' :: minutes.text ∧
        (0 ≤ hours.value ∧ hours.value < 24) ∧ (0 ≤ minutes.value ∧ minutes.value < 60) ∧
          hours.value * 3600 + minutes.value * 60 = seconds := by
  unfold readClock
  constructor
  · intro hsome
    split at hsome
    · cases hsome
    · next h m hcut =>
        split at hsome
        · next i j hi hj =>
            obtain ⟨hours, hh, rfl, hhours⟩ := (readClockPart_eq_some_iff (by decide)).mp hi
            obtain ⟨minutes, hm, rfl, hminutes⟩ := (readClockPart_eq_some_iff (by decide)).mp hj
            obtain ⟨hs, -⟩ := Text.cutChar?_eq_some_iff.mp hcut
            exact ⟨hours, minutes, hh ▸ hm ▸ hs, hhours, hminutes, Option.some.inj hsome⟩
        · cases hsome
  · rintro ⟨hours, minutes, hs, hhours, hminutes, rfl⟩
    have hcut : Text.cutChar? ':' s =
        some (String.ofList hours.text, String.ofList minutes.text) := by
      rw [Text.cutChar?_eq_some_iff]
      simpa using ⟨hs, hours.colon_notMem⟩
    have hh : readClockPart 24 (String.ofList hours.text) = some hours.value :=
      (readClockPart_eq_some_iff (by decide)).mpr ⟨hours, String.toList_ofList, rfl, hhours⟩
    have hm : readClockPart 60 (String.ofList minutes.text) = some minutes.value :=
      (readClockPart_eq_some_iff (by decide)).mpr ⟨minutes, String.toList_ofList, rfl, hminutes⟩
    rw [hcut]
    dsimp only
    rw [hh, hm]

/-- One sign is taken off an offset. -/
theorem readOffset_sign {tz : String} {sign : SpanSign} {body : List Char}
    (htz : (Text.trim tz).toList = sign.text ++ body) (hhead : sign = .none → Unsigned body) :
    readOffset tz = (readClock (String.ofList body)).map fun seconds => sign.factor * seconds := by
  unfold readOffset
  dsimp only
  rw [htz]
  cases sign with
  | none =>
      have htrim : Text.trim tz = String.ofList body := by
        rw [← String.ofList_toList (s := Text.trim tz), htz]
        rfl
      have hunsigned := hhead rfl
      cases body with
      | nil => simp [SpanSign.text, SpanSign.factor, htrim]
      | cons c rest =>
          obtain ⟨hminus, hplus⟩ := hunsigned c rfl
          simp [SpanSign.text, SpanSign.factor, hminus, hplus, htrim]
  | plus => simp [SpanSign.text, SpanSign.factor]
  | minus => simp [SpanSign.text, SpanSign.factor]

theorem WrittenInteger.sign_eq_none_iff (x : WrittenInteger) (rest : List Char) :
    x.sign = .none ↔ Unsigned (x.text ++ rest) := by
  constructor
  · intro hsign
    have htext : x.text = x.digits := by simp [WrittenInteger.text, hsign, SpanSign.text]
    intro c hc
    rw [htext, List.head?_append_of_ne_nil _ x.some_digit] at hc
    exact unsigned_of_digits x.all_digits c hc
  · intro hunsigned
    cases hsign : x.sign with
    | none => rfl
    | plus =>
        have hhead := hunsigned '+' (by simp [WrittenInteger.text, hsign, SpanSign.text])
        exact absurd rfl hhead.2
    | minus =>
        have hhead := hunsigned '-' (by simp [WrittenInteger.text, hsign, SpanSign.text])
        exact absurd rfl hhead.1

/-- What is read as an offset is one in range that the text spells. -/
theorem readOffset_eq_some_iff {tz : String} {k : Int} :
    readOffset tz = some k ↔
      ∃ x : WrittenOffset, x.InRange ∧ x.Spells tz ∧ x.seconds = k := by
  constructor
  · intro hread
    obtain ⟨sign, body, htz, hhead⟩ := exists_sign (Text.trim tz).toList
    rw [readOffset_sign htz hhead, Option.map_eq_some_iff] at hread
    obtain ⟨seconds, hclock, rfl⟩ := hread
    obtain ⟨hours, minutes, hbody, hhours, hminutes, rfl⟩ := readClock_eq_some_iff.mp hclock
    rw [String.toList_ofList] at hbody
    subst hbody
    have hleading : sign = .none → hours.sign = .none :=
      fun hsign => (hours.sign_eq_none_iff _).mpr (hhead hsign)
    exact ⟨⟨sign, hours, minutes, hleading⟩, ⟨hhours, hminutes⟩,
      (WrittenOffset.spells_iff _ tz).mpr htz, rfl⟩
  · rintro ⟨x, hrange, hspells, rfl⟩
    have htz := (x.spells_iff tz).mp hspells
    have hclock : readClock (String.ofList (x.hours.text ++ ':' :: x.minutes.text)) =
        some (x.hours.value * 3600 + x.minutes.value * 60) :=
      readClock_eq_some_iff.mpr ⟨x.hours, x.minutes, String.toList_ofList, hrange.hours_between,
        hrange.minutes_between, rfl⟩
    rw [readOffset_sign htz fun hsign => (x.hours.sign_eq_none_iff _).mp (x.leading hsign), hclock]
    rfl

namespace Zone

variable {named? : String → Option ZoneRule} {tz : String}

theorem readAsOffset_inRange (hname : named? tz = none) :
    ReadAsOffset named? WrittenOffset.InRange tz where
  ok_iff := by
    intro zone
    simp only [readAmong, hname]
    constructor
    · intro hread
      split at hread
      · next k hk =>
          obtain ⟨x, hrange, hspells, rfl⟩ := readOffset_eq_some_iff.mp hk
          exact ⟨x, hrange, hspells, (Except.ok.inj hread).symm⟩
      · cases hread
    · rintro ⟨x, hrange, hspells, rfl⟩
      rw [readOffset_eq_some_iff.mpr ⟨x, hrange, hspells, rfl⟩]
  refused := by
    intro hnone
    have hread : readOffset tz = none := by
      rw [Option.eq_none_iff_forall_ne_some]
      intro k hk
      obtain ⟨x, hrange, hspells, -⟩ := readOffset_eq_some_iff.mp hk
      exact hnone x hrange hspells
    simp only [readAmong, hname, hread]

/-- An offset is read as another set of offsets where the text spells the same of both. -/
theorem ReadAsOffset.congr {offsets offsets' : WrittenOffset → Prop}
    (hread : ReadAsOffset named? offsets tz)
    (hsame : ∀ x : WrittenOffset, x.Spells tz → (offsets x ↔ offsets' x)) :
    ReadAsOffset named? offsets' tz where
  ok_iff := by
    intro zone
    rw [hread.ok_iff zone]
    constructor
    · rintro ⟨x, hx, hspells, hzone⟩
      exact ⟨x, (hsame x hspells).mp hx, hspells, hzone⟩
    · rintro ⟨x, hx, hspells, hzone⟩
      exact ⟨x, (hsame x hspells).mpr hx, hspells, hzone⟩
  refused := fun hnone =>
    hread.refused fun x hx hspells => hnone x ((hsame x hspells).mp hx) hspells

/-- A text that names no zone is read as an offset it spells.  Where the offsets in range that it
spells are plain, these are a sign at most, digits, a colon and digits. -/
theorem read_as_plain_offset (hname : named? tz = none) :
    ReadAsOffset named? WrittenOffset.InRange tz ∧
      ((∀ x : WrittenOffset, x.InRange → x.Spells tz → x.Plain) →
        ReadAsOffset named? (fun x => x.Plain ∧ x.InRange) tz) := by
  have hread := readAsOffset_inRange hname
  refine ⟨hread, fun hplain => hread.congr fun x hspells => ?_⟩
  exact ⟨fun hrange => ⟨hplain x hrange hspells, hrange⟩, And.right⟩

end Zone

/-! Offsets without inner signs -/

theorem WrittenInteger.ne_sign_of_mem_digits (x : WrittenInteger) {c : Char} (hc : c ∈ x.digits) :
    c ≠ '-' ∧ c ≠ '+' := by
  have hdigit := x.all_digits c hc
  constructor <;> rintro rfl <;> exact absurd hdigit (by decide)

/-- An offset is plain if it has no sign but the leading one. -/
theorem WrittenOffset.plain_iff (x : WrittenOffset) :
    x.Plain ↔ ∀ c ∈ x.text.tail, c ≠ '-' ∧ c ≠ '+' := by
  constructor
  · rintro ⟨hhours, hminutes⟩ c hc
    have hbody : c ∈ x.hours.digits ++ ':' :: x.minutes.digits := by
      cases hsign : x.sign <;>
        simp only [WrittenOffset.text, WrittenInteger.text, hsign, hhours, hminutes,
          SpanSign.text, List.nil_append, List.cons_append, List.tail_cons] at hc
      · exact List.mem_of_mem_tail hc
      · exact hc
      · exact hc
    simp only [List.mem_append, List.mem_cons] at hbody
    rcases hbody with hdigit | rfl | hdigit
    · exact x.hours.ne_sign_of_mem_digits hdigit
    · decide
    · exact x.minutes.ne_sign_of_mem_digits hdigit
  · intro htail
    constructor
    · cases hsign : x.sign with
      | none => exact x.leading hsign
      | plus =>
          refine (x.hours.sign_eq_none_iff (':' :: x.minutes.text)).mpr fun c hc => htail c ?_
          simpa [WrittenOffset.text, hsign, SpanSign.text] using List.mem_of_mem_head? hc
      | minus =>
          refine (x.hours.sign_eq_none_iff (':' :: x.minutes.text)).mpr fun c hc => htail c ?_
          simpa [WrittenOffset.text, hsign, SpanSign.text] using List.mem_of_mem_head? hc
    · refine (x.minutes.sign_eq_none_iff []).mpr fun c hc => htail c ?_
      have hfront : x.sign.text ++ x.hours.text ≠ [] := by
        simp [WrittenInteger.text, x.hours.some_digit]
      rw [WrittenOffset.text, ← List.append_assoc, List.tail_append_of_ne_nil hfront]
      rw [List.append_nil] at hc
      exact List.mem_append_right _ (List.mem_cons_of_mem _ (List.mem_of_mem_head? hc))

namespace Zone

theorem negative_offset_plain : namedZone? "-01:30" = none ∧
    (∀ x : WrittenOffset, x.InRange → x.Spells "-01:30" → x.Plain) ∧
    ReadAsOffset namedZone? (fun x => x.Plain ∧ x.InRange) "-01:30" := by
  have hplain : ∀ x : WrittenOffset, x.InRange → x.Spells "-01:30" → x.Plain := by
    intro x _ hspells
    have htrim : Text.trim "-01:30" = "-01:30" := rfl
    rw [WrittenOffset.plain_iff, ← (x.spells_iff _).mp hspells, htrim]
    simp
  exact ⟨rfl, hplain, (read_as_plain_offset rfl).2 hplain⟩

/-- A second sign before the hours is read as their own. -/
theorem second_sign_read : namedZone? "++05:30" = none ∧
    Zone.read "++05:30" = .ok (.fixed 19800) ∧
    ¬ ∃ x : WrittenOffset, x.Plain ∧ x.InRange ∧ x.Spells "++05:30" := by
  refine ⟨rfl, rfl, ?_⟩
  rintro ⟨x, hplain, -, hspells⟩
  have htrim : Text.trim "++05:30" = "++05:30" := rfl
  rw [WrittenOffset.plain_iff, ← (x.spells_iff _).mp hspells, htrim] at hplain
  simp at hplain

end Zone

end CommonExpr
