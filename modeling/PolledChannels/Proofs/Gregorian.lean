import Mathlib.Algebra.BigOperators.Intervals
import Mathlib.Algebra.Order.BigOperators.Group.LocallyFinite
import Mathlib.Data.Int.Interval
import Mathlib.Data.Int.SuccPred
import Mathlib.Tactic.IntervalCases
import PolledChannels.Time.Calendar

/-!
# The calendar counted out

The date of a day is computed by a few divisions. Here the calendar is counted out instead: by the
lengths of years and months under the Gregorian rule. A date that exists lies a number of days
after 1970-01-01, and that is the number the date is computed from.

In between stand years that begin in March. The leap day is then the last day of its year, and what
`Date.ofDays` divides by are average lengths of such years and of their months.
-/

namespace PolledChannels.Date

/-- Every fourth year is a leap year, but of the full centuries only every fourth. -/
def IsLeap (year : Int) : Prop :=
  year % 4 = 0 ∧ (year % 100 ≠ 0 ∨ year % 400 = 0)

instance (year : Int) : Decidable (IsLeap year) :=
  inferInstanceAs (Decidable (_ ∧ _))

def yearLength (year : Int) : Int :=
  if IsLeap year then 366 else 365

def monthLength (year : Int) (month : Nat) : Nat :=
  match month with
  | 2 => if IsLeap year then 29 else 28
  | 4 | 6 | 9 | 11 => 30
  | _ => 31

/-- The date stands in the calendar. -/
structure Exists (x : Date) : Prop where
  month_pos : 1 ≤ x.month
  month_le : x.month ≤ 12
  day_pos : 1 ≤ x.day
  day_le : x.day ≤ monthLength x.year x.month

/-- The years from one on and before another. The order is named, as one that computes. -/
def years (year other : Int) : Finset Int :=
  @Finset.Ico Int instLatticeInt.toSemilatticeInf.toPartialOrder.toPreorder
    Int.instLocallyFiniteOrder
    year other

/-- The days of the years from one on and before another, with a minus if the other comes first. -/
def daysOfYears (year other : Int) : Int :=
  (∑ y ∈ years year other, yearLength y) - ∑ y ∈ years other year, yearLength y

/-- The days of a year before a month. -/
def daysOfMonths (year : Int) (month : Nat) : Int :=
  ∑ m ∈ Finset.Ico 1 month, (monthLength year m : Int)

/-- Days from 1970-01-01 to a date, counted year by year, month by month and day by day. -/
def sinceEpoch (x : Date) : Int :=
  daysOfYears 1970 x.year + daysOfMonths x.year x.month + (x.day - 1)

def next (x : Date) : Date :=
  if x.day < monthLength x.year x.month then { x with day := x.day + 1 }
  else if x.month < 12 then ⟨x.year, x.month + 1, 1⟩
  else ⟨x.year + 1, 1, 1⟩

/-! ## Years that begin in March -/

/-- Days from the first of March of year 0 to that of a year. -/
def beforeMarch (year : Int) : Int :=
  365 * year + year / 4 - year / 100 + year / 400

/-- A leap day belongs to the year that begins in the March before. -/
theorem yearLength_eq (year : Int) :
    yearLength year = beforeMarch year - beforeMarch (year - 1) := by
  unfold yearLength beforeMarch
  split
  · next hleap =>
    unfold IsLeap at hleap
    omega
  · next hcommon =>
    unfold IsLeap at hcommon
    omega

theorem yearLength_cases (year : Int) : yearLength year = 365 ∨ yearLength year = 366 := by
  unfold yearLength
  split
  · exact .inr rfl
  · exact .inl rfl

theorem beforeMarch_succ (year : Int) :
    beforeMarch (year + 1) = beforeMarch year + yearLength (year + 1) := by
  rw [yearLength_eq, Int.add_sub_cancel]
  omega

theorem beforeMarch_era (era year : Int) :
    beforeMarch (400 * era + year) = eraDays * era + beforeMarch year := by
  unfold beforeMarch eraDays
  omega

theorem exists_year (n : Nat) :
    ∃ year, 0 ≤ year ∧ beforeMarch year ≤ n ∧ n < beforeMarch (year + 1) := by
  induction n with
  | zero => exact ⟨0, by decide⟩
  | succ n ih =>
    obtain ⟨year, hpos, hlow, hhigh⟩ := ih
    by_cases hsame : ((n + 1 : Nat) : Int) < beforeMarch (year + 1)
    · exact ⟨year, hpos, by omega, hsame⟩
    · have hlength := yearLength_cases (year + 1 + 1)
      have hnext := beforeMarch_succ (year + 1)
      exact ⟨year + 1, by omega, by omega, by omega⟩

variable {year n month : Int}

/-- The year of the era that the divisions find is the one that holds the day. -/
theorem yearOfEra_eq (h₀ : 0 ≤ year) (h₁ : year < 400) (hlow : beforeMarch year ≤ n)
    (hhigh : n < beforeMarch (year + 1)) : yearOfEra n = year := by
  obtain ⟨q, hq⟩ : ∃ q, q = year / 4 := ⟨_, rfl⟩
  obtain ⟨c, hc⟩ : ∃ c, c = q / 25 := ⟨_, rfl⟩
  obtain ⟨r, hr⟩ : ∃ r, n = beforeMarch year + r := ⟨n - beforeMarch year, by omega⟩
  have hcentury : year / 100 = c := by omega
  have hera : year / 400 = 0 := by omega
  have hn : n = 1461 * q + 365 * (year % 4) - c + r := by
    unfold beforeMarch at hr
    omega
  have hr₀ : 0 ≤ r := by omega
  have hr₁ : r ≤ 365 := by
    unfold beforeMarch at hr hhigh
    omega
  -- a day too many for 365 is a leap day: it ends four years, and a century only
  -- if that ends the era
  have hlast : r = 365 → year % 4 = 3 ∧ (q % 25 = 24 → c = 3) := by
    unfold beforeMarch at hr hhigh
    omega
  have hcenturies : n / 36524 - n / 146096 = c := by
    obtain ⟨rest, hrest⟩ : ∃ rest, rest = 1461 * (q % 25) + 365 * (year % 4) + r :=
      ⟨_, rfl⟩
    have hsplit : n = 36524 * c + rest := by omega
    have hle : rest ≤ 36524 := by omega
    by_cases hfull : rest = 36524
    · have hlastCentury : c = 3 := by omega
      omega
    · have hwhole : n / 36524 = c := by omega
      have hnone : n / 146096 = 0 := by omega
      omega
  have hfours : n / 1460 = q + (q - c + 365 * (year % 4) + r) / 1460 := by omega
  unfold yearOfEra
  omega

/-! ## Months from March on -/

theorem monthFromMarch_spec (n : Int) :
    daysBeforeMonth (monthFromMarch n) ≤ n ∧ n < daysBeforeMonth (monthFromMarch n + 1) := by
  unfold daysBeforeMonth monthFromMarch
  omega

theorem monthFromMarch_eq (hlow : daysBeforeMonth month ≤ n)
    (hhigh : n < daysBeforeMonth (month + 1)) : monthFromMarch n = month := by
  unfold daysBeforeMonth at hlow hhigh
  unfold monthFromMarch
  omega

theorem monthFromMarch_bounds (hpos : 0 ≤ n) (hlt : n < 366) :
    0 ≤ monthFromMarch n ∧ monthFromMarch n ≤ 11 := by
  unfold monthFromMarch
  omega

/-- The year of a date, if years begin in March. -/
def marchYear (x : Date) : Int :=
  if x.month ≤ 2 then x.year - 1 else x.year

/-- The month of a date, counted from March. -/
def marchMonth (x : Date) : Int :=
  if x.month ≤ 2 then x.month + 9 else x.month - 3

/-- The day of the year of a date, if years begin in March. -/
def marchDay (x : Date) : Int :=
  daysBeforeMonth x.marchMonth + (x.day - 1)

section March

variable {x : Date}

theorem monthLength_eq (hpos : 1 ≤ x.month) (hle : x.month ≤ 12) :
    daysBeforeMonth x.marchMonth + monthLength x.year x.month =
      min (daysBeforeMonth (x.marchMonth + 1)) (yearLength (x.marchYear + 1)) := by
  obtain ⟨year, month, day⟩ := x
  dsimp only at hpos hle
  have hlength : yearLength year = if IsLeap year then 366 else 365 := rfl
  have hnext := yearLength_cases (year + 1)
  by_cases hleap : IsLeap year <;> simp only [hleap, if_true, if_false] at hlength <;>
    interval_cases month <;> simp [marchMonth, marchYear, monthLength, daysBeforeMonth,
      hleap, hlength] <;>
    omega

theorem daysOfMonths_eq (hpos : 1 ≤ x.month) (hle : x.month ≤ 12) :
    beforeMarch (x.year - 1) + daysOfMonths x.year x.month + 306 =
      beforeMarch x.marchYear + daysBeforeMonth x.marchMonth := by
  obtain ⟨year, month, day⟩ := x
  dsimp only at hpos hle
  have hlength := yearLength_eq year
  rw [yearLength] at hlength
  by_cases hleap : IsLeap year <;> simp only [hleap, if_true, if_false] at hlength <;>
    interval_cases month <;>
    simp [marchMonth, marchYear, daysOfMonths, Finset.sum_Ico_succ_top, monthLength,
      daysBeforeMonth, hleap] <;>
    omega

theorem daysOfYears_eq (year other : Int) :
    daysOfYears year other = beforeMarch (other - 1) - beforeMarch (year - 1) := by
  have hsum {a b : Int} (h : a ≤ b) :
      ∑ y ∈ Finset.Ico a b, yearLength y = beforeMarch (b - 1) - beforeMarch (a - 1) := by
    induction b, h using Int.leInduction with
    | base => simp
    | succ b h ih =>
      rw [← Finset.sum_Ico_add_eq_sum_Ico_add_one h, ih, yearLength_eq, Int.add_sub_cancel]
      omega
  unfold daysOfYears years
  rcases Int.le_total year other with h | h
  · rw [hsum h, Finset.Ico_eq_empty (by omega), Finset.sum_empty, Int.sub_zero]
  · rw [hsum h, Finset.Ico_eq_empty (by omega), Finset.sum_empty]
    omega

theorem sinceEpoch_eq (hpos : 1 ≤ x.month) (hle : x.month ≤ 12) :
    x.sinceEpoch + epochShift = beforeMarch x.marchYear + x.marchDay := by
  have hmonths := daysOfMonths_eq hpos hle
  have hepoch : beforeMarch (1970 - 1) + 306 = epochShift := by decide
  unfold sinceEpoch marchDay
  rw [daysOfYears_eq]
  omega

theorem daysBeforeMonth_marchMonth_nonneg (hpos : 1 ≤ x.month) :
    0 ≤ daysBeforeMonth x.marchMonth := by
  unfold daysBeforeMonth marchMonth
  split <;> omega

/-- The date of a day of a month of a year that begins in March. -/
def ofMarch (year month day : Int) : Date where
  year := year + if month < 10 then 0 else 1
  month := (if month < 10 then month + 3 else month - 9).toNat
  day := (day + 1).toNat

theorem ofMarch_march (hpos : 1 ≤ x.month) (hle : x.month ≤ 12) :
    ofMarch x.marchYear x.marchMonth (x.day - 1) = x := by
  obtain ⟨year, month, day⟩ := x
  dsimp only at hpos hle
  unfold ofMarch marchYear marchMonth
  split <;> simp only [Date.mk.injEq] <;> split <;> omega

/-- A day within its month and its year makes a date that exists, and it is
counted out as that day. -/
theorem ofMarch_exists (year : Int) {day : Int} (hpos : 0 ≤ month) (hle : month ≤ 11)
    (hday : 0 ≤ day) (hmonth : daysBeforeMonth month + day < daysBeforeMonth (month + 1))
    (hyear : daysBeforeMonth month + day < yearLength (year + 1)) :
    (ofMarch year month day).Exists ∧
      (ofMarch year month day).sinceEpoch + epochShift =
        beforeMarch year + (daysBeforeMonth month + day) := by
  obtain ⟨x, hx⟩ : ∃ x, x = ofMarch year month day := ⟨_, rfl⟩
  have hfields : 1 ≤ x.month ∧ x.month ≤ 12 ∧ (x.day : Int) = day + 1 ∧
      x.marchYear = year ∧
      x.marchMonth = month := by
    rw [hx]
    unfold ofMarch marchYear marchMonth
    dsimp only
    split <;> split <;> omega
  obtain ⟨hfirst, hlast, hxday, hxyear, hxmonth⟩ := hfields
  have hlength := monthLength_eq hfirst hlast
  have hcount := sinceEpoch_eq hfirst hlast
  unfold marchDay at hcount
  rw [hxmonth, hxyear] at hlength hcount
  rw [← hx]
  exact ⟨⟨hfirst, hlast, by omega, by omega⟩, by omega⟩

end March

/-! ## The divisions -/

/-- Every day is a day of one year that begins in March. -/
theorem exists_year_day (n : Int) :
    ∃ year day, n = beforeMarch year + day ∧ 0 ≤ day ∧ day < yearLength (year + 1) := by
  obtain ⟨m, hm⟩ : ∃ m : Nat, (m : Int) = n % eraDays :=
    ⟨_, Int.toNat_of_nonneg (Int.emod_nonneg _ (by decide))⟩
  obtain ⟨year, -, hlow, hhigh⟩ := exists_year m
  have hsplit := Int.mul_ediv_add_emod n eraDays
  have hfirst := beforeMarch_era (n / eraDays) year
  have hlast := beforeMarch_era (n / eraDays) (year + 1)
  rw [← Int.add_assoc, beforeMarch_succ] at hlast
  exact ⟨400 * (n / eraDays) + year,
    n - beforeMarch (400 * (n / eraDays) + year), by omega, by omega, by omega⟩

/-- The divisions find the year and the month that hold the day. -/
theorem ofDays_eq {days day : Int} (hdays : days + epochShift = beforeMarch year + day)
    (hpos : 0 ≤ day) (hlt : day < yearLength (year + 1)) :
    ofDays days = ofMarch year (monthFromMarch day)
      (day - daysBeforeMonth (monthFromMarch day)) := by
  have hyear := Int.mul_ediv_add_emod year 400
  have hfirst := beforeMarch_era (year / 400) (year % 400)
  have hlast := beforeMarch_era (year / 400) (year % 400 + 1)
  rw [← Int.add_assoc, hyear, beforeMarch_succ] at hlast
  rw [hyear] at hfirst
  have hwithin : 0 ≤ beforeMarch (year % 400) ∧ beforeMarch (year % 400 + 1) ≤ eraDays := by
    unfold beforeMarch eraDays
    omega
  have hera : (days + epochShift) / eraDays = year / 400 ∧
      (days + epochShift) % eraDays = beforeMarch (year % 400) + day := by
    unfold eraDays at *
    omega
  have hyearOfEra : yearOfEra (beforeMarch (year % 400) + day) = year % 400 :=
    yearOfEra_eq (by omega) (by omega) (by omega) (by omega)
  have hbefore : daysBeforeYear (year % 400) = beforeMarch (year % 400) := by
    unfold daysBeforeYear beforeMarch
    omega
  have hrest : beforeMarch (year % 400) + day - beforeMarch (year % 400) = day := by omega
  have hlength := yearLength_cases (year + 1)
  have hmonth := monthFromMarch_bounds hpos (by omega)
  unfold ofDays ofMarch
  simp only [hera.1, hera.2, hyearOfEra, hbefore, hrest]
  congr 1
  split <;> split <;> omega

/-- A date that is found exists, and it is counted out as the day it was found for. -/
theorem ofDays_exists (days : Int) : (ofDays days).Exists ∧ (ofDays days).sinceEpoch = days := by
  obtain ⟨year, day, hdays, hpos, hlt⟩ := exists_year_day (days + epochShift)
  have hlength := yearLength_cases (year + 1)
  obtain ⟨hlow, hhigh⟩ := monthFromMarch_spec day
  obtain ⟨hfirst, hlast⟩ := monthFromMarch_bounds hpos (by omega)
  rw [ofDays_eq hdays hpos hlt]
  have hfound := ofMarch_exists year hfirst hlast (Int.sub_nonneg_of_le hlow) (by omega) (by omega)
  exact ⟨hfound.1, by omega⟩

/-- A date that exists is found for the day it is counted out as. -/
theorem ofDays_sinceEpoch {x : Date} (h : x.Exists) : ofDays x.sinceEpoch = x := by
  obtain ⟨hpos, hle, hday, hdayLe⟩ := h
  have hlength := monthLength_eq hpos hle
  have hstart := daysBeforeMonth_marchMonth_nonneg hpos
  have hmarch : x.marchDay = daysBeforeMonth x.marchMonth + (x.day - 1) := rfl
  have hmonth : monthFromMarch x.marchDay = x.marchMonth := monthFromMarch_eq (by omega) (by omega)
  rw [ofDays_eq (sinceEpoch_eq hpos hle) (by omega) (by omega), hmonth, hmarch, add_sub_cancel_left,
    ofMarch_march hpos hle]

/-! ## The next day -/

theorem monthLength_bounds (year : Int) (month : Nat) :
    1 ≤ monthLength year month ∧ monthLength year month ≤ 31 := by
  unfold monthLength
  repeat' split
  all_goals omega

theorem daysOfMonths_succ (year : Int) {month : Nat} (hpos : 1 ≤ month) :
    daysOfMonths year (month + 1) = daysOfMonths year month + monthLength year month :=
  Finset.sum_Ico_succ_top hpos _

theorem daysOfMonths_thirteen (year : Int) : daysOfMonths year 13 = yearLength year := by
  by_cases hleap : IsLeap year <;>
    simp [daysOfMonths, Finset.sum_Ico_succ_top, monthLength, yearLength, hleap]

theorem daysOfYears_succ (year other : Int) :
    daysOfYears year (other + 1) = daysOfYears year other + yearLength other := by
  rw [daysOfYears_eq, daysOfYears_eq, yearLength_eq, Int.add_sub_cancel]
  omega

theorem Exists.next {x : Date} (h : x.Exists) : x.next.Exists := by
  obtain ⟨hpos, hle, hday, -⟩ := h
  unfold Date.next
  split
  next hwithin => exact ⟨hpos, hle, Nat.le_add_left .., hwithin⟩
  next =>
    split
    next hmonth => exact ⟨Nat.le_add_left .., hmonth, Nat.le_refl 1, (monthLength_bounds ..).1⟩
    next =>
      exact ⟨Nat.le_refl 1, show 1 ≤ 12 by decide, Nat.le_refl 1, (monthLength_bounds ..).1⟩

theorem Exists.sinceEpoch_next {x : Date} (h : x.Exists) :
    x.next.sinceEpoch = x.sinceEpoch + 1 := by
  obtain ⟨year, month, day⟩ := x
  obtain ⟨hpos, hle, hday, hdayLe⟩ := h
  dsimp only at hpos hle hday hdayLe
  unfold Date.next sinceEpoch
  dsimp only
  split
  next => dsimp only; omega
  next =>
    have hend : day = monthLength year month := by omega
    have hmonths := daysOfMonths_succ year hpos
    split
    next => dsimp only; omega
    next =>
      have hlast : month = 12 := by omega
      subst hlast
      rw [daysOfMonths_thirteen] at hmonths
      have hnone : daysOfMonths (year + 1) 1 = 0 := rfl
      have hyears := daysOfYears_succ 1970 year
      dsimp only
      omega

/-- **The date found for a day is the date that the calendar counts out.**  It exists, the
years, the months and the days before it make up the day, and the date of the next day
comes right after it. -/
theorem ofDays_counts_out (days : Int) :
    (ofDays days).Exists ∧ (ofDays days).sinceEpoch = days ∧
      ofDays (days + 1) = (ofDays days).next := by
  obtain ⟨hexists, hcount⟩ := ofDays_exists days
  refine ⟨hexists, hcount, ?_⟩
  rw [← ofDays_sinceEpoch hexists.next, hexists.sinceEpoch_next, hcount]

-- of two full centuries only the later one has a leap day
example : ofDays 11016 = ⟨2000, 2, 29⟩ ∧ ofDays (-25509) = ⟨1900, 2, 28⟩ ∧
    ofDays (-25508) = ⟨1900, 3, 1⟩ := by
  decide

end PolledChannels.Date
