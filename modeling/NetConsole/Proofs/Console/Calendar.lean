import NetConsole.Console.Time
import Mathlib.Tactic.IntervalCases

/-!
# The Gregorian calendar

Years and months have the lengths of the Gregorian calendar, before its beginning as well. Counting
them up gives the number of the day that a date is, and every number of a day is that of the date
computed for it, which is one that there is.
-/

set_option autoImplicit false

namespace NetConsole.Console.Date

/-! ## Lengths of months and years -/

def IsLeap (year : Int) : Prop := year % 4 = 0 ∧ (year % 100 ≠ 0 ∨ year % 400 = 0)

instance : DecidablePred IsLeap := fun year =>
  inferInstanceAs (Decidable (year % 4 = 0 ∧ (year % 100 ≠ 0 ∨ year % 400 = 0)))

def leapDays (year : Int) : Nat := if IsLeap year then 1 else 0

def monthLength (year : Int) (month : Nat) : Nat :=
  if month = 2 then 28 + leapDays year
  else if month = 4 ∨ month = 6 ∨ month = 9 ∨ month = 11 then 30
  else 31

/-- The number of days in a year before one of its months. -/
def monthStart (year : Int) (month : Nat) : Nat :=
  ((List.range (month - 1)).map fun before => monthLength year (before + 1)).sum

/-- The first day of a year, counted from the beginning of 1970; up to then there were 477 leap
days. -/
def yearStart (year : Int) : Int :=
  365 * (year - 1970) + ((year - 1) / 4 - (year - 1) / 100 + (year - 1) / 400 - 477)

/-- The day that a date is, counted from the beginning of 1970. -/
def toDays (date : Date) : Int :=
  yearStart date.year + monthStart date.year date.month + (date.day - 1)

/-- A date that there is. -/
structure IsReal (date : Date) : Prop where
  month : 1 ≤ date.month ∧ date.month ≤ 12
  day : 1 ≤ date.day ∧ date.day ≤ monthLength date.year date.month

instance : DecidablePred IsReal := fun date =>
  decidable_of_iff ((1 ≤ date.month ∧ date.month ≤ 12) ∧
      1 ≤ date.day ∧ date.day ≤ monthLength date.year date.month)
    ⟨fun ⟨month, day⟩ => ⟨month, day⟩, fun real => ⟨real.month, real.day⟩⟩

theorem monthStart_succ (year : Int) (month : Nat) :
    monthStart year (month + 2) = monthStart year (month + 1) + monthLength year (month + 1) := by
  have before : month + 2 - 1 = month + 1 - 1 + 1 := rfl
  rw [monthStart, before, List.range_succ, List.map_append, List.sum_append]
  rfl

/-! ## Years from March on -/

theorem monthLength_march (year : Int) {march : Nat} (early : march < 10) :
    daysBeforeMonth march + monthLength year (march + 3) = daysBeforeMonth (march + 1) := by
  interval_cases march <;> rfl

/-- Counted from March, the leap day moves all months of a year alike. -/
theorem monthStart_march (year : Int) {march : Nat} (early : march ≤ 10) :
    monthStart year (march + 3) = 59 + leapDays year + daysBeforeMonth march := by
  induction march with
  | zero =>
      have winter : monthStart year 3 = 31 + (28 + leapDays year) := rfl
      rw [winter]
      exact (Nat.add_assoc 31 28 _).symm
  | succ march ih =>
      rw [monthStart_succ, ih (by omega), ← monthLength_march year (by omega), Nat.add_assoc]

theorem monthStart_winter (year : Int) {march : Nat} (late : 10 ≤ march) (few : march ≤ 11) :
    monthStart year (march - 9) + 306 = daysBeforeMonth march := by
  interval_cases march <;> rfl

theorem monthStart_thirteen (year : Int) : monthStart year 13 = 365 + leapDays year := by
  rw [monthStart_march year (le_refl 10)]
  exact Nat.add_right_comm 59 _ 306

/-- A year lasts as long as its twelve months. -/
theorem yearStart_succ (year : Int) :
    yearStart (year + 1) = yearStart year + monthStart year 13 := by
  rw [monthStart_thirteen]
  unfold yearStart leapDays
  by_cases leap : IsLeap year
  · rw [if_pos leap]
    unfold IsLeap at leap
    omega
  · rw [if_neg leap]
    unfold IsLeap at leap
    omega

/-- The date of a day in a year that is counted from the first of March. -/
def ofMarch (year : Int) (day : Nat) : Date :=
  let march := monthOfYear day
  let month := if march < 10 then march + 3 else march - 9
  { year := year + (if month ≤ 2 then 1 else 0)
    month
    day := day - daysBeforeMonth march + 1 }

section OfMarch

variable (year : Int) {day : Nat}

theorem ofMarch_early (early : monthOfYear day < 10) : ofMarch year day =
    ⟨year, monthOfYear day + 3, day - daysBeforeMonth (monthOfYear day) + 1⟩ := by
  have later : ¬ monthOfYear day + 3 ≤ 2 := by omega
  simp only [ofMarch, if_pos early, if_neg later, Int.add_zero]

theorem ofMarch_late (late : ¬ monthOfYear day < 10) (few : monthOfYear day ≤ 11) :
    ofMarch year day =
      ⟨year + 1, monthOfYear day - 9, day - daysBeforeMonth (monthOfYear day) + 1⟩ := by
  have winter : monthOfYear day - 9 ≤ 2 := by omega
  simp only [ofMarch, if_neg late, if_pos winter]

theorem monthOfYear_spec (small : day ≤ 365) :
    monthOfYear day ≤ 11 ∧ daysBeforeMonth (monthOfYear day) ≤ day ∧
      day < daysBeforeMonth (monthOfYear day + 1) := by
  unfold monthOfYear daysBeforeMonth
  omega

theorem toDays_ofMarch (small : day ≤ 365) :
    (ofMarch year day).toDays = yearStart (year + 1) - 306 + day := by
  obtain ⟨few, below, -⟩ := monthOfYear_spec small
  by_cases early : monthOfYear day < 10
  · have next := yearStart_succ year
    rw [monthStart_thirteen] at next
    have months := monthStart_march year early.le
    rw [ofMarch_early year early, toDays]
    dsimp only
    omega
  · -- January and February belong to the next year
    have months := monthStart_winter (year + 1) (Nat.not_lt.mp early) few
    rw [ofMarch_late year early few, toDays]
    dsimp only
    omega

/-- A year from March on has a leap day, its last, if the year that begins in it has one. -/
theorem isReal_ofMarch (within : day ≤ 364 ∨ day = 365 ∧ IsLeap (year + 1)) :
    (ofMarch year day).IsReal := by
  have small : day ≤ 365 := by omega
  obtain ⟨few, below, above⟩ := monthOfYear_spec small
  by_cases early : monthOfYear day < 10
  · have length := monthLength_march year early
    rw [ofMarch_early year early]
    constructor <;> dsimp only <;> omega
  · rw [ofMarch_late year early few]
    generalize monthOfYear day = march at few below above early
    constructor
    · dsimp only
      omega
    · obtain rfl | rfl : march = 10 ∨ march = 11 := by omega
      · have january : monthLength (year + 1) (10 - 9) = 31 := rfl
        have days : daysBeforeMonth 10 = 306 ∧ daysBeforeMonth (10 + 1) = 337 := ⟨rfl, rfl⟩
        dsimp only
        omega
      · have february : monthLength (year + 1) (11 - 9) = 28 + leapDays (year + 1) := rfl
        have days : daysBeforeMonth 11 = 337 := rfl
        have leap : day = 365 → leapDays (year + 1) = 1 :=
          fun last => if_pos (within.resolve_left (by omega)).2
        dsimp only
        omega

end OfMarch

/-! ## Four hundred years -/

/-- A day of four hundred years that begin in March: after how many centuries, spans of four years
and years it comes, and after how many days of its own year. A leap day ends a fourth year, but for
the last one of a century other than the fourth. -/
structure EraDay where
  centuries : Nat
  fours : Nat
  years : Nat
  rest : Nat
  centuries_le : centuries ≤ 3
  fours_le : fours ≤ 24
  years_le : years ≤ 3
  rest_le : rest ≤ 364 ∨ rest = 365 ∧ years = 3 ∧ (fours < 24 ∨ centuries = 3)

namespace EraDay

def number (d : EraDay) : Nat := 36524 * d.centuries + 1461 * d.fours + 365 * d.years + d.rest

def year (d : EraDay) : Nat := 100 * d.centuries + 4 * d.fours + d.years

theorem number_lt (d : EraDay) : d.number < 146097 := by
  obtain ⟨c, f, y, r, centuries, fours, years, rest⟩ := d
  change 36524 * c + 1461 * f + 365 * y + r < 146097
  omega

theorem year_lt (d : EraDay) : d.year < 400 := by
  obtain ⟨c, f, y, r, centuries, fours, years, -⟩ := d
  change 100 * c + 4 * f + y < 400
  omega

/-- The last day of all would begin a fifth century, and the last of four years a fifth year. -/
theorem exists_number {day : Nat} (small : day < 146097) : ∃ d : EraDay, d.number = day := by
  obtain ⟨c, inCentury, byCentury, centuries, last⟩ : ∃ c inCentury, day = 36524 * c + inCentury ∧
      c ≤ 3 ∧ (inCentury ≤ 36523 ∨ inCentury = 36524 ∧ c = 3) := by
    by_cases final : day = 146096
    · exact ⟨3, 36524, final, le_refl 3, .inr ⟨rfl, rfl⟩⟩
    · exact ⟨day / 36524, day % 36524, by omega, by omega, by omega⟩
  obtain ⟨f, inFour, byFour, fours, few⟩ : ∃ f inFour, inCentury = 1461 * f + inFour ∧
      f ≤ 24 ∧ inFour ≤ 1460 :=
    ⟨inCentury / 1461, inCentury % 1461, by omega, by omega, by omega⟩
  obtain ⟨y, r, byYear, years, leap⟩ : ∃ y r, inFour = 365 * y + r ∧ y ≤ 3 ∧
      (r ≤ 364 ∨ r = 365 ∧ y = 3) := by
    by_cases final : inFour = 1460
    · exact ⟨3, 365, final, le_refl 3, .inr ⟨rfl, rfl⟩⟩
    · exact ⟨inFour / 365, inFour % 365, by omega, by omega, by omega⟩
  refine ⟨⟨c, f, y, r, centuries, fours, years, by omega⟩, ?_⟩
  change 36524 * c + 1461 * f + 365 * y + r = day
  omega

theorem yearOfEra_number (d : EraDay) : yearOfEra d.number = d.year := by
  obtain ⟨c, f, y, r, centuries, fours, years, rest⟩ := d
  change yearOfEra (36524 * c + 1461 * f + 365 * y + r) = 100 * c + 4 * f + y
  -- the last day of all is the only one that the quotient would put into a fifth century
  have century : (36524 * c + 1461 * f + 365 * y + r) / 36524 -
      (36524 * c + 1461 * f + 365 * y + r) / 146096 = c := by
    obtain within | ⟨rfl, rfl, rfl, rfl⟩ : 1461 * f + 365 * y + r < 36524 ∨
        c = 3 ∧ f = 24 ∧ y = 3 ∧ r = 365 := by omega
    · omega
    · rfl
  have four : (36524 * c + 1461 * f + 365 * y + r) / 1460 =
      25 * c + f + (24 * c + f + 365 * y + r) / 1460 := by omega
  unfold yearOfEra
  omega

theorem daysBeforeYear_year (d : EraDay) : daysBeforeYear d.year + d.rest = d.number := by
  obtain ⟨c, f, y, r, centuries, fours, years, -⟩ := d
  change daysBeforeYear (100 * c + 4 * f + y) + r = 36524 * c + 1461 * f + 365 * y + r
  unfold daysBeforeYear
  omega

theorem isLeap (d : EraDay) (era : Int) (last : d.rest = 365) :
    IsLeap (era * 400 + d.year + 1) := by
  obtain ⟨c, f, y, r, centuries, fours, years, rest⟩ := d
  unfold IsLeap year
  dsimp only at last ⊢
  omega

theorem yearStart_year (d : EraDay) (era : Int) :
    yearStart (era * 400 + d.year + 1) - 306 + d.rest = era * eraDays + d.number - epochShift := by
  have small := d.year_lt
  rw [← d.daysBeforeYear_year]
  unfold yearStart daysBeforeYear eraDays epochShift
  omega

end EraDay

theorem exists_era (days : Int) :
    ∃ (era : Int) (d : EraDay), days = era * eraDays + d.number - epochShift := by
  have small : ((days + epochShift) % eraDays).toNat < 146097 := by
    unfold eraDays
    omega
  obtain ⟨d, same⟩ := EraDay.exists_number small
  refine ⟨(days + epochShift) / eraDays, d, ?_⟩
  rw [same]
  unfold eraDays
  omega

theorem ofDays_era (era : Int) (d : EraDay) :
    ofDays (era * eraDays + d.number - epochShift) = ofMarch (era * 400 + d.year) d.rest := by
  have small := d.number_lt
  have whole : (era * eraDays + d.number - epochShift + epochShift) / eraDays = era := by
    unfold eraDays
    omega
  have part : ((era * eraDays + d.number - epochShift + epochShift) % eraDays).toNat = d.number := by
    unfold eraDays
    omega
  have rest : d.number - daysBeforeYear d.year = d.rest := by
    rw [← d.daysBeforeYear_year, Nat.add_sub_cancel_left]
  simp only [ofDays, ofMarch, whole, part, d.yearOfEra_number, rest]

/-! ## Dates of days -/

/-- The date that is computed for a day is the date of that day. -/
theorem toDays_ofDays (days : Int) : (ofDays days).toDays = days := by
  obtain ⟨era, d, rfl⟩ := exists_era days
  have small : d.rest ≤ 365 := by
    have rest := d.rest_le
    omega
  rw [ofDays_era, toDays_ofMarch _ small, d.yearStart_year]

theorem isReal_ofDays (days : Int) : (ofDays days).IsReal := by
  obtain ⟨era, d, rfl⟩ := exists_era days
  rw [ofDays_era]
  apply isReal_ofMarch
  exact d.rest_le.imp_right fun last => ⟨last.1, d.isLeap era last.1⟩

example : ofDays 0 = ⟨1970, 1, 1⟩ ∧ ofDays 11016 = ⟨2000, 2, 29⟩ ∧ toDays ⟨2000, 2, 29⟩ = 11016 := by
  decide

end NetConsole.Console.Date
