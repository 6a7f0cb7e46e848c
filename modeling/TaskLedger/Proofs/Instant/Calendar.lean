import Mathlib
import TaskLedger.Instant.Calendar

/-!
# Every day has one date

`Date.ofDay` names every day by a month from 1 to 12 and a day from 1 to 31, and `Date.toDay` leads
back to the day (`toDay_ofDay`).  So dates that name days are real (`isReal_ofDay`).

The year of a day of an era is found by `yearOfEra`, which never decreases: so it is right on all
days of a year when it is right on the first and on the last one (`yearOfEra_ends`).
-/

namespace TaskLedger.Date

/-! ### Years of an era -/

theorem yearOfEra_mono : Monotone yearOfEra := by
  intro d e le
  -- the corrections never outrun the days: four centuries are an era but for one day
  have era (d : Int) : d / 146096 = d / 36524 / 4 := by omega
  have short : d - d / 1460 ≤ e - e / 1460 := by omega
  have centuries : d / 36524 ≤ e / 36524 := by omega
  have long : d / 36524 - d / 36524 / 4 ≤ e / 36524 - e / 36524 / 4 := by omega
  refine Int.ediv_le_ediv (by decide) ?_
  rw [era d, era e]
  omega

/-- On the first and on the last day of a year. -/
theorem yearOfEra_ends : ∀ y : Fin 400, yearOfEra (daysBeforeYear (y : Nat)) = (y : Nat) ∧
    yearOfEra (daysBeforeYear ((y : Nat) + 1) - 1) = (y : Nat) := by
  decide +kernel

/-- A day before the first of some year belongs to an earlier one. -/
theorem exists_year {d : Int} (low : 0 ≤ d) (n : Nat) (high : d < daysBeforeYear n) :
    ∃ y < n, daysBeforeYear y ≤ d ∧ d < daysBeforeYear (y + 1) := by
  induction n with
  | zero => exact absurd (Int.lt_of_le_of_lt low high) (by decide)
  | succ n ih =>
    by_cases last : daysBeforeYear n ≤ d
    · exact ⟨n, Nat.lt_succ_self n, last, high⟩
    · obtain ⟨y, before, bounds⟩ := ih (Int.not_le.1 last)
      exact ⟨y, Nat.lt_succ_of_lt before, bounds⟩

/-- A year has at most 366 days. -/
theorem daysBeforeYear_succ (y : Int) : daysBeforeYear (y + 1) ≤ daysBeforeYear y + 366 := by
  simp only [daysBeforeYear]
  omega

/-- A day of an era belongs to the year that `yearOfEra` finds. -/
theorem yearOfEra_spec {d : Int} (low : 0 ≤ d) (high : d < daysPerEra) :
    (0 ≤ yearOfEra d ∧ yearOfEra d < 400) ∧
      daysBeforeYear (yearOfEra d) ≤ d ∧ d < daysBeforeYear (yearOfEra d) + 366 := by
  -- the leap day at the end of an era is not counted as a day before year 400
  rcases (Int.le_sub_one_of_lt high).eq_or_lt with rfl | earlier
  · decide
  obtain ⟨y, small, first, last⟩ := exists_year low 400 (earlier.trans_eq (by decide))
  obtain ⟨at_first, at_last⟩ := yearOfEra_ends ⟨y, small⟩
  have year : yearOfEra d = y := by
    refine Int.le_antisymm ?_ ?_
    · exact (yearOfEra_mono (Int.le_sub_one_of_lt last)).trans_eq at_last
    · exact at_first.symm.trans_le (yearOfEra_mono first)
  rw [year]
  exact ⟨⟨by omega, by omega⟩, first, last.trans_le (daysBeforeYear_succ y)⟩

/-! ### Months of a year -/

/-- The parts of the date of a day. -/
theorem ofDay_spec (n : Int) : ∃ era year month day : Int,
    (0 ≤ year ∧ year < 400) ∧ (0 ≤ month ∧ month < 12) ∧ (0 ≤ day ∧ day < 31) ∧
    n + epochShift =
      daysPerEra * era + daysBeforeYear year + daysBeforeMonth month + day ∧
    ofDay n = ⟨400 * era + year + (if month < 10 then 0 else 1),
      (if month < 10 then month + 3 else month - 9).toNat, (day + 1).toNat⟩ := by
  have low : 0 ≤ (n + epochShift) % daysPerEra := Int.emod_nonneg _ (by decide)
  have high : (n + epochShift) % daysPerEra < daysPerEra := Int.emod_lt_of_pos _ (by decide)
  obtain ⟨year_mem, first, last⟩ := yearOfEra_spec low high
  have whole := Int.mul_ediv_add_emod (n + epochShift) daysPerEra
  -- the day of the year lies in the month that is found for it
  generalize dayOfYear_eq : (n + epochShift) % daysPerEra -
    daysBeforeYear (yearOfEra ((n + epochShift) % daysPerEra)) = dayOfYear
  have month_mem : 0 ≤ (5 * dayOfYear + 2) / 153 ∧ (5 * dayOfYear + 2) / 153 < 12 := by omega
  have day_mem : 0 ≤ dayOfYear - daysBeforeMonth ((5 * dayOfYear + 2) / 153) ∧
      dayOfYear - daysBeforeMonth ((5 * dayOfYear + 2) / 153) < 31 := by
    simp only [daysBeforeMonth]
    omega
  refine ⟨(n + epochShift) / daysPerEra, _, _, _, year_mem, month_mem, day_mem, ?_, ?_⟩
  · omega
  · simp only [ofDay, dayOfYear_eq]

theorem month_ofDay (n : Int) : 1 ≤ (ofDay n).month ∧ (ofDay n).month ≤ 12 := by
  obtain ⟨era, year, month, day, -, month_mem, -, -, eq⟩ := ofDay_spec n
  rw [eq]
  dsimp only
  split <;> omega

theorem day_ofDay (n : Int) : 1 ≤ (ofDay n).day ∧ (ofDay n).day ≤ 31 := by
  obtain ⟨era, year, month, day, -, -, day_mem, -, eq⟩ := ofDay_spec n
  rw [eq]
  dsimp only
  omega

/-- The date of a day leads back to the day. -/
theorem toDay_ofDay (n : Int) : (ofDay n).toDay = n := by
  obtain ⟨era, year, month, day, year_mem, month_mem, day_mem, sum, eq⟩ := ofDay_spec n
  have era_eq : (400 * era + year) / 400 = era := by omega
  have year_eq : (400 * era + year) % 400 = year := by omega
  rw [eq, toDay]
  by_cases early : month < 10
  · have later : ¬ (month + 3).toNat ≤ 2 := by omega
    have from_march : (((month + 3).toNat : Nat) : Int) - 3 = month := by omega
    simp only [early, if_true, later, if_false, from_march, Int.add_zero, era_eq, year_eq]
    omega
  · have soon : (month - 9).toNat ≤ 2 := by omega
    have from_march : (((month - 9).toNat : Nat) : Int) + 9 = month := by omega
    simp only [early, if_false, soon, if_true, from_march, Int.add_sub_cancel, era_eq, year_eq]
    omega

/-- The date of a day is real. -/
theorem isReal_ofDay (n : Int) : (ofDay n).isReal = true := by
  rw [isReal, toDay_ofDay, beq_self_eq_true]

end TaskLedger.Date
