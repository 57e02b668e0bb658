import Groupwise.Time.Calendar
import Mathlib.Tactic.IntervalCases

/-!
# Counts of days

The date of a count of days has that count again, and it is in a year or a later one exactly if the
count is not less than that of the first day of the year. Both follow from the year that begins in
March, in which the leap day is the last one.
-/
namespace Groupwise.Time.Date

/-- The days between the first of March of the year 0 and that of another year. -/
def marchDays (year : Int) : Int := 365 * year + year / 4 - year / 100 + year / 400

theorem marchDays_lt {year later : Int} (h : year < later) :
    marchDays year + 365 ≤ marchDays later := by
  unfold marchDays
  omega

/-- The year of a day in an era of 400 years. -/
theorem marchDays_yearOfEra {day year : Int} (low : 0 ≤ day) (high : day < 146097)
    (h : year = (day - day / 1460 + day / 36524 - day / 146096) / 365) :
    0 ≤ year ∧ year ≤ 399 ∧ marchDays year ≤ day ∧ day < marchDays (year + 1) := by
  obtain ⟨fours, hfours⟩ : ∃ n, n = day / 1460 := ⟨_, rfl⟩
  obtain ⟨centuries, hcenturies⟩ : ∃ n, n = day / 36524 := ⟨_, rfl⟩
  obtain ⟨last, hlast⟩ : ∃ n, n = day / 146096 := ⟨_, rfl⟩
  rw [← hfours, ← hcenturies, ← hlast] at h
  obtain ⟨_, _⟩ : 0 ≤ centuries ∧ centuries ≤ 4 := by omega
  obtain ⟨_, _⟩ : 0 ≤ last ∧ last ≤ 1 := by omega
  have leapYears : fours = year / 4 ∨ fours = year / 4 + 1 := by
    interval_cases centuries <;> interval_cases last <;> omega
  have inEra : 0 ≤ year ∧ year ≤ 399 := by
    interval_cases centuries <;> interval_cases last <;> omega
  -- What a year adds depends on whether it is followed by a leap day.
  have four : (year + 1) / 4 = year / 4 ∨ (year + 1) / 4 = year / 4 + 1 ∧ year % 4 = 3 := by omega
  have century : (year + 1) / 100 = year / 100 ∨
      (year + 1) / 100 = year / 100 + 1 ∧ year % 100 = 99 := by omega
  have era : year / 400 = 0 := by omega
  have nextEra : (year + 1) / 400 = 0 ∨ (year + 1) / 400 = 1 ∧ year = 399 := by omega
  unfold marchDays
  refine ⟨inEra.1, inEra.2, ?_⟩
  rcases leapYears with leapYears | leapYears <;> interval_cases centuries <;>
    interval_cases last <;> omega

/-- The date of a day in a year that begins in March. -/
def ofMarch (year dayOfYear : Int) : Date :=
  let month := (5 * dayOfYear + 2) / 153
  let day := dayOfYear - (153 * month + 2) / 5 + 1
  let civilMonth := if month < 10 then month + 3 else month - 9
  ⟨year + if civilMonth ≤ 2 then 1 else 0, civilMonth.toNat, day.toNat⟩

theorem ofDays_eq_ofMarch (n : Int) : ∃ year dayOfYear, ofDays n = ofMarch year dayOfYear ∧
    n + 719468 = marchDays year + dayOfYear ∧ 0 ≤ dayOfYear ∧
      marchDays year + dayOfYear < marchDays (year + 1) := by
  obtain ⟨era, hera⟩ : ∃ era, era = (n + 719468) / 146097 := ⟨_, rfl⟩
  obtain ⟨day, hday⟩ : ∃ day, day = (n + 719468) % 146097 := ⟨_, rfl⟩
  obtain ⟨year, hyear⟩ : ∃ year,
    year = (day - day / 1460 + day / 36524 - day / 146096) / 365 := ⟨_, rfl⟩
  obtain ⟨low, high, start, stop⟩ := marchDays_yearOfEra (by omega) (by omega) hyear
  have shifted (y : Int) : marchDays (y + era * 400) = marchDays y + era * 146097 := by
    unfold marchDays
    omega
  have ofEra : 365 * year + year / 4 - year / 100 = marchDays year := by
    unfold marchDays
    omega
  refine ⟨year + era * 400, day - marchDays year, ?_, ?_, by omega, ?_⟩
  · simp only [ofDays, ← hera, ← hday, ← hyear, ofEra, ofMarch]
  · rw [shifted]
    omega
  · rw [Int.add_right_comm, shifted, shifted]
    omega

/-- A year that begins in March has 365 or 366 days. -/
theorem le_of_lt_marchDays {year dayOfYear : Int}
    (h : marchDays year + dayOfYear < marchDays (year + 1)) : dayOfYear ≤ 365 := by
  unfold marchDays at h
  omega

theorem year_ofMarch {year dayOfYear : Int} (low : 0 ≤ dayOfYear) (high : dayOfYear ≤ 365) :
    (ofMarch year dayOfYear).year = if 306 ≤ dayOfYear then year + 1 else year := by
  simp only [ofMarch]
  omega

theorem toDays_eq (year : Int) (month day : Nat) : toDays ⟨year, month, day⟩ =
    marchDays (if month ≤ 2 then year - 1 else year) +
      ((153 * ((month + 9 : Int) % 12) + 2) / 5 + day - 1) - 719468 := by
  simp only [toDays, marchDays]
  omega

theorem toDays_ofMarch {year dayOfYear : Int} (low : 0 ≤ dayOfYear) (high : dayOfYear ≤ 365) :
    toDays (ofMarch year dayOfYear) = marchDays year + dayOfYear - 719468 := by
  obtain ⟨month, hmonth⟩ : ∃ month, month = (5 * dayOfYear + 2) / 153 := ⟨_, rfl⟩
  simp only [ofMarch, ← hmonth, toDays_eq]
  by_cases early : month < 10
  · have civil : ((month + 3).toNat + 9 : Int) % 12 = month := by omega
    have late : ¬ (month + 3).toNat ≤ 2 ∧ ¬ month + 3 ≤ 2 := by omega
    rw [if_pos early, if_neg late.1, if_neg late.2, civil, Int.add_zero]
    omega
  · have civil : ((month - 9).toNat + 9 : Int) % 12 = month := by omega
    have first : (month - 9).toNat ≤ 2 ∧ month - 9 ≤ 2 := by omega
    rw [if_neg early, if_pos first.1, if_pos first.2, civil, Int.add_sub_cancel]
    omega

/-- The date of a count of days has that count. -/
theorem toDays_ofDays (n : Int) : toDays (ofDays n) = n := by
  obtain ⟨year, dayOfYear, eq, count, low, high⟩ := ofDays_eq_ofMarch n
  rw [eq, toDays_ofMarch low (le_of_lt_marchDays high)]
  omega

/-- A date is in a year or a later one exactly if its count is not less than that of the first day of
the year. -/
theorem le_year_ofDays_iff {year n : Int} : year ≤ (ofDays n).year ↔ toDays ⟨year, 1, 1⟩ ≤ n := by
  obtain ⟨found, dayOfYear, eq, count, low, high⟩ := ofDays_eq_ofMarch n
  have first : toDays ⟨year, 1, 1⟩ = marchDays (year - 1) + 306 - 719468 := by
    rw [toDays_eq]
    rfl
  rw [eq, year_ofMarch low (le_of_lt_marchDays high), first]
  rcases lt_trichotomy (year - 1) found with before | rfl | after
  · have := marchDays_lt before
    omega
  · omega
  · rcases (Int.add_one_le_of_lt after).eq_or_lt with next | later
    · rw [← next]
      omega
    · have := marchDays_lt later
      omega

/-- The counts of the first and the last day that can be stored. -/
def firstDay : Int := toDays ⟨-262143, 1, 1⟩

def lastDay : Int := toDays ⟨262142, 12, 31⟩

theorem isStorable_ofDays_iff {n : Int} :
    isStorable (ofDays n).year = true ↔ firstDay ≤ n ∧ n ≤ lastDay := by
  have next : lastDay + 1 = toDays ⟨262143, 1, 1⟩ := by decide
  have low := @le_year_ofDays_iff (-262143) n
  have high := @le_year_ofDays_iff 262143 n
  rw [← next] at high
  simp only [isStorable, Bool.and_eq_true, decide_eq_true_eq, low, firstDay]
  omega

end Groupwise.Time.Date
