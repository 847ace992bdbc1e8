import CommonExpr.Proofs.Time
import Mathlib.Tactic.IntervalCases

/-!
Days and dates.

The calendar repeats every 400 years.  In such an era, with years that start in March, a day is a
year and a day of that year.  Main statements: the date of a day is a date of the calendar and has
the day's number, dates that follow each other have numbers that do, and an instant in range has a
date in the years 1 to 9999.
-/

namespace CommonExpr

namespace Date

/-! Days of an era -/

/-- Days of an era that precede its year. -/
def daysBefore (year : Int) : Int := 365 * year + year / 4 - year / 100

/-- A day of an era less the leap days before it. -/
def commonDays (day : Int) : Int := day - day / 1460 + day / 36524 - day / 146096

theorem commonDays_mono {day day' : Int} (hday : day ≤ day') :
    commonDays day ≤ commonDays day' := by
  unfold commonDays
  omega

/-- The days of a year stay within its 365 when leap days are left out. -/
theorem commonDays_bounds : ∀ year : Nat, year < 400 →
    365 * (year : Int) ≤ commonDays (daysBefore (year : Int)) ∧
      commonDays (daysBefore ((year : Int) + 1) - 1) < 365 * ((year : Int) + 1) := by
  decide +kernel

theorem isLeap_iff (year : Int) :
    isLeap year = true ↔ year % 4 = 0 ∧ (year % 100 ≠ 0 ∨ year % 400 = 0) := by
  simp [isLeap]

theorem daysBefore_succ (year : Int) :
    daysBefore (year + 1) = daysBefore year + 365 +
      if (year + 1) % 4 = 0 ∧ (year + 1) % 100 ≠ 0 then 1 else 0 := by
  unfold daysBefore
  split <;> omega

/-- A day lies in the year that its common days tell; the last year has a leap day more. -/
theorem year_of_day {day year : Int} (hlow : 0 ≤ day) (hhigh : day < 146097)
    (hyear : year = commonDays day / 365) :
    0 ≤ year ∧ year ≤ 399 ∧ daysBefore year ≤ day ∧
      (day < daysBefore (year + 1) ∨ year = 399) := by
  have hrange : 0 ≤ year ∧ year ≤ 399 := by
    have hfirst := commonDays_mono hlow
    have hlast := commonDays_mono (Int.le_sub_one_of_lt hhigh)
    have hzero : commonDays 0 = 0 := rfl
    have hends : commonDays (146097 - 1) = 145999 := by decide
    omega
  obtain ⟨n, rfl⟩ : ∃ n : Nat, year = n := ⟨year.toNat, by omega⟩
  obtain ⟨-, hbelow⟩ := commonDays_bounds (n - 1) (by omega)
  refine ⟨hrange.1, hrange.2, ?_, ?_⟩
  · by_contra hless
    rcases Nat.eq_zero_or_pos n with rfl | hpos
    · simp only [daysBefore, Nat.cast_zero] at hless
      omega
    · have hprev : ((n - 1 : Nat) : Int) + 1 = n := by omega
      rw [hprev] at hbelow
      have hmono := commonDays_mono (Int.le_sub_one_of_lt (not_le.mp hless))
      omega
  · by_contra hmore
    rw [not_or, not_lt] at hmore
    obtain ⟨habove, -⟩ := commonDays_bounds (n + 1) (by omega)
    rw [Nat.cast_add, Nat.cast_one] at habove
    have hmono := commonDays_mono hmore.1
    omega

/-! Dates of days -/

/-- A day by its era, the year of the era, and the day of the year since the first of March. -/
structure EraDay where
  era : Int
  year : Int
  day : Int

namespace EraDay

/-- Whether year and day are in their ranges.  A leap day ends the year before that of its date. -/
def Valid (e : EraDay) : Prop :=
  0 ≤ e.year ∧ e.year ≤ 399 ∧ 0 ≤ e.day ∧ e.day ≤ 365 ∧
    (e.day ≤ 364 ∨ isLeap (e.year + e.era * 400 + 1) = true)

/-- Days from 1970-01-01. -/
def count (e : EraDay) : Int := e.era * 146097 + daysBefore e.year + e.day - 719468

def date (e : EraDay) : Date :=
  let shifted := (5 * e.day + 2) / 153
  let day := e.day - (153 * shifted + 2) / 5 + 1
  let month := if shifted < 10 then shifted + 3 else shifted - 9
  let year := e.year + e.era * 400
  ⟨if month ≤ 2 then year + 1 else year, month, day⟩

/-- January and February are the last months, and belong to the next year. -/
theorem date_cases {e : EraDay} (he : e.Valid) :
    ∃ month day : Int, 0 ≤ month ∧ month ≤ 11 ∧ month = (5 * e.day + 2) / 153 ∧
      day = e.day - (153 * month + 2) / 5 + 1 ∧
      (month < 10 ∧ e.date = ⟨e.year + e.era * 400, month + 3, day⟩ ∨
        10 ≤ month ∧ e.date = ⟨e.year + e.era * 400 + 1, month - 9, day⟩) := by
  obtain ⟨-, -, hlow, hhigh, -⟩ := he
  refine ⟨_, _, by omega, by omega, rfl, rfl, ?_⟩
  by_cases hmonth : (5 * e.day + 2) / 153 < 10
  · refine Or.inl ⟨hmonth, ?_⟩
    have hlate : ¬ (5 * e.day + 2) / 153 + 3 ≤ 2 := by omega
    simp only [date, hmonth, hlate, if_true, if_false]
  · refine Or.inr ⟨not_lt.mp hmonth, ?_⟩
    have hearly : (5 * e.day + 2) / 153 - 9 ≤ 2 := by omega
    simp only [date, hmonth, hearly, if_true, if_false]

theorem date_valid {e : EraDay} (he : e.Valid) : e.date.Valid := by
  obtain ⟨month, day, hfirst, hlast, hmonth, hday, hdate⟩ := date_cases he
  obtain ⟨-, -, hlow, hhigh, hleap⟩ := he
  rcases hdate with ⟨hcase, hdate⟩ | ⟨hcase, hdate⟩
  · rw [hdate]
    simp only [Date.Valid, monthLength]
    refine ⟨by omega, by omega, by omega, ?_⟩
    rw [if_neg (by omega)]
    split <;> omega
  · rw [hdate]
    simp only [Date.Valid, monthLength]
    refine ⟨by omega, by omega, by omega, ?_⟩
    rcases hleap with hleap | hleap
    · split
      · split <;> omega
      · split <;> omega
    · rw [hleap]
      split
      · rw [if_pos rfl]
        omega
      · split <;> omega

theorem toDays_date {e : EraDay} (he : e.Valid) : e.date.toDays = e.count := by
  obtain ⟨month, day, hfirst, hlast, hmonth, hday, hdate⟩ := date_cases he
  obtain ⟨hyear, hyear', -, -, -⟩ := he
  simp only [count, daysBefore]
  rcases hdate with ⟨hcase, hdate⟩ | ⟨hcase, hdate⟩
  · rw [hdate]
    simp only [toDays, if_neg (by omega : ¬ month + 3 ≤ 2)]
    omega
  · rw [hdate]
    simp only [toDays, if_pos (by omega : month - 9 ≤ 2)]
    omega

end EraDay

def eraDay (days : Int) : EraDay :=
  let day := (days + 719468) % 146097
  let year := commonDays day / 365
  ⟨(days + 719468) / 146097, year, day - daysBefore year⟩

theorem ofDays_eq (days : Int) : ofDays days = (eraDay days).date := rfl

theorem eraDay_valid (days : Int) : (eraDay days).Valid := by
  have hera : 0 ≤ (days + 719468) % 146097 ∧ (days + 719468) % 146097 < 146097 := by omega
  obtain ⟨hfirst, hlast, hstart, hend⟩ := year_of_day hera.1 hera.2 rfl
  simp only [EraDay.Valid, eraDay, isLeap_iff]
  generalize (days + 719468) % 146097 = day at *
  generalize (days + 719468) / 146097 = era at *
  generalize commonDays day / 365 = year at *
  rw [daysBefore_succ] at hend
  refine ⟨hfirst, hlast, by omega, ?_, ?_⟩
  · rcases hend with hend | rfl
    · split at hend <;> omega
    · simp only [daysBefore] at *
      omega
  · rcases hend with hend | rfl
    · split at hend
      · exact Or.inr (by omega)
      · exact Or.inl (by omega)
    · exact Or.inr (by omega)

theorem eraDay_count (days : Int) : (eraDay days).count = days := by
  simp only [EraDay.count, eraDay]
  omega

theorem ofDays_valid (days : Int) : (ofDays days).Valid := by
  rw [ofDays_eq]
  exact EraDay.date_valid (eraDay_valid days)

theorem toDays_ofDays (days : Int) : (ofDays days).toDays = days := by
  rw [ofDays_eq, EraDay.toDays_date (eraDay_valid days), eraDay_count]

/-! The order of dates -/

/-- A year that ends in a leap day has one more of them before it than the year before. -/
theorem leapDays_eq (year : Int) :
    year / 4 - year / 100 + year / 400 =
      (year - 1) / 4 - (year - 1) / 100 + (year - 1) / 400 + if isLeap year then 1 else 0 := by
  simp only [isLeap_iff]
  by_cases h4 : year % 4 = 0
  · by_cases h100 : year % 100 = 0
    · by_cases h400 : year % 400 = 0
      · rw [if_pos ⟨h4, Or.inr h400⟩]
        omega
      · rw [if_neg (by omega)]
        omega
    · rw [if_pos ⟨h4, Or.inl h100⟩]
      omega
  · rw [if_neg (by omega)]
    omega

/-- The date after a date of the calendar. -/
def next : Date → Date
  | ⟨year, month, day⟩ =>
      if day < monthLength year month then ⟨year, month, day + 1⟩
      else if month < 12 then ⟨year, month + 1, 1⟩
      else ⟨year + 1, 1, 1⟩

theorem monthLength_pos (year month : Int) : 1 ≤ monthLength year month := by
  unfold monthLength
  split
  · split <;> decide
  · split <;> decide

theorem next_valid {d : Date} (hd : d.Valid) : d.next.Valid := by
  obtain ⟨year, month, day⟩ := d
  obtain ⟨hfirst, hlast, hlow, hhigh⟩ := hd
  dsimp only at hfirst hlast hlow hhigh
  simp only [next]
  split
  · next hless => exact ⟨hfirst, hlast, by dsimp only; omega, hless⟩
  · split
    · next hmonth => exact ⟨by dsimp only; omega, hmonth, Int.le_refl 1, monthLength_pos _ _⟩
    · exact ⟨Int.le_refl 1, by dsimp only; omega, Int.le_refl 1, monthLength_pos _ _⟩

/-- Dates are numbered in their order. -/
theorem toDays_next {d : Date} (hd : d.Valid) : d.next.toDays = d.toDays + 1 := by
  obtain ⟨year, month, day⟩ := d
  obtain ⟨hfirst, hlast, hlow, hhigh⟩ := hd
  dsimp only at hfirst hlast hlow hhigh
  simp only [next]
  split
  · simp only [toDays]
    omega
  · next hmore =>
      obtain rfl : day = monthLength year month := by omega
      have hleap := leapDays_eq year
      interval_cases month
      case «2» =>
        cases hcase : isLeap year <;> simp [toDays, monthLength, hcase] at hleap ⊢ <;> omega
      all_goals
        simp [toDays, monthLength]
        omega

theorem monthLength_le (year month : Int) :
    monthLength year month ≤ 31 ∧ (month = 2 → monthLength year month ≤ 29) := by
  unfold monthLength
  split
  · split <;> simp
  · split <;> simp [*]

/-- Days between the ends of the years 1 and 9999 have dates in these years. -/
theorem year_range {d : Date} (hd : d.Valid) (hlow : -719162 ≤ d.toDays)
    (hhigh : d.toDays ≤ 2932896) : 1 ≤ d.year ∧ d.year ≤ 9999 := by
  obtain ⟨year, month, day⟩ := d
  obtain ⟨hfirst, hlast, hday, hlength⟩ := hd
  obtain ⟨hmonth, hfebruary⟩ := monthLength_le year month
  dsimp only at hfirst hlast hday hlength ⊢
  simp only [toDays] at hlow hhigh
  by_cases hcase : month ≤ 2
  · simp only [if_pos hcase] at hlow hhigh
    omega
  · simp only [if_neg hcase] at hlow hhigh
    omega

end Date

/-! Moments of instants -/

/-- Whether a moment has a date of the years 1 to 9999 and a time of day without leap seconds. -/
structure Moment.Shown (m : Moment) : Prop where
  valid : m.date.Valid
  first_year : 1 ≤ m.date.year
  last_year : m.date.year ≤ 9999
  hour : 0 ≤ m.hour ∧ m.hour < 24
  minute : 0 ≤ m.minute ∧ m.minute < 60
  second : 0 ≤ m.second ∧ m.second < 60

theorem Moment.toSeconds_ofSeconds (seconds nanos : Int) :
    (ofSeconds seconds nanos).toSeconds = seconds := by
  simp only [toSeconds, ofSeconds, Date.toDays_ofDays]
  omega

theorem Timestamp.shown {t : Timestamp} (ht : t.InRange) :
    (Moment.ofSeconds t.seconds t.nanos).Shown := by
  obtain ⟨hlow, hhigh, -, -⟩ := ht
  simp only [minSeconds, maxSeconds] at hlow hhigh
  have hvalid := Date.ofDays_valid (t.seconds / 86400)
  have hdays := Date.toDays_ofDays (t.seconds / 86400)
  obtain ⟨hfirst, hlast⟩ := Date.year_range hvalid (by omega) (by omega)
  refine ⟨hvalid, hfirst, hlast, ?_, ?_, ?_⟩ <;> simp only [Moment.ofSeconds] <;> omega

/-- An instant in range has a moment on the calendar. -/
theorem Timestamp.localMoment?_eq {t : Timestamp} (ht : t.InRange) :
    t.localMoment? 0 = some (Moment.ofSeconds t.seconds t.nanos) := by
  have hfirst : 1 ≤ (Date.ofDays (t.seconds / 86400)).year := (shown ht).first_year
  have hlast : (Date.ofDays (t.seconds / 86400)).year ≤ 9999 := (shown ht).last_year
  obtain ⟨-, -, hnanos, hnanos'⟩ := ht
  have hyears : calendarYears (Date.ofDays (t.seconds / 86400)).year := ⟨by omega, by omega⟩
  rw [localMoment?, onCalendar, Int.add_zero]
  simp only [hyears, hnanos, hnanos', decide_true, Bool.true_and, Bool.true_or, if_true]

end CommonExpr
