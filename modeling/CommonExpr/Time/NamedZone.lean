import CommonExpr.Time.Zone

/-!
The zones known by name where no other zone data is given.
-/

namespace CommonExpr

/-- The day number of the `n`-th Sunday of a month, counting from one. -/
def nthSunday (year month n : Int) : Int :=
  let first := (⟨year, month, 1⟩ : Date).toDays
  first + (7 - weekday first) % 7 + 7 * (n - 1)

/-- The day number of the last Sunday of a month. -/
def lastSunday (year month : Int) : Int :=
  let last := (⟨year, month, Date.monthLength year month⟩ : Date).toDays
  last - weekday last

/-- Summer time runs from one instant of each year to another, both in seconds
since the epoch. -/
structure SummerTime where
  starts : Int → Int
  ends : Int → Int

/-- Second Sunday of March to first Sunday of November, at two o'clock on clocks
five hours behind. -/
def SummerTime.eastern : SummerTime where
  starts year := nthSunday year 3 2 * 86400 + 7 * 3600
  ends year := nthSunday year 11 1 * 86400 + 6 * 3600

/-- Last Sunday of March to last Sunday of October, at one o'clock UTC. -/
def SummerTime.european : SummerTime where
  starts year := lastSunday year 3 * 86400 + 3600
  ends year := lastSunday year 10 * 86400 + 3600

/-- A zone with one standard offset in seconds; summer time, if it keeps one, adds an hour. -/
def ZoneRule.yearly (standard : Int) (summer : Option SummerTime) : ZoneRule where
  offsetAt seconds :=
    match summer with
    | none => standard
    | some summer =>
        let year := (Date.ofDays (seconds / 86400)).year
        if summer.starts year ≤ seconds ∧ seconds < summer.ends year then standard + 3600
        else standard

/-- The named zones. -/
def namedZone? : String → Option ZoneRule
  | "UTC" => some (.yearly 0 none)
  | "GMT" => some (.yearly 0 none)
  | "Etc/GMT+5" => some (.yearly (-5 * 3600) none)
  | "America/New_York" => some (.yearly (-5 * 3600) (some .eastern))
  | "Europe/London" => some (.yearly 0 (some .european))
  | "Asia/Kolkata" => some (.yearly 19800 none)
  | "Asia/Tokyo" => some (.yearly (9 * 3600) none)
  | _ => none

/-- The zone a text stands for among the named zones. -/
def Zone.read : String → Except TimeFault Zone := Zone.readAmong namedZone?

end CommonExpr
