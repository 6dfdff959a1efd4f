import AiScdc.Budgeting

namespace AiScdc

-- A day of a 400-year era: its century, the leap cycle in the century, the day of the cycle.
structure EraDay where
  c : ℤ
  q : ℤ
  s : ℤ
  hc : 0 ≤ c ∧ c ≤ 3
  hq : 0 ≤ q ∧ q ≤ 24
  hs : 0 ≤ s ∧ s ≤ 1460
  full : q = 24 → s = 1460 → c = 3

def EraDay.doe (d : EraDay) : ℤ := 36524 * d.c + 1461 * d.q + d.s

def EraDay.slip (d : EraDay) : ℤ := (24 * d.c + d.q + d.s) / 1460

theorem exists_eraDay {doe : ℤ} (h0 : 0 ≤ doe) (h1 : doe < 146097) : ∃ d : EraDay, doe = d.doe := by
  by_cases hlast : doe = 146096
  · exact ⟨⟨3,24,1460,by omega,by omega,by omega,by omega⟩,hlast⟩
  · refine ⟨⟨doe / 36524,doe % 36524 / 1461,doe % 36524 % 1461,?_,?_,?_,?_⟩,?_⟩
    · omega
    · omega
    · omega
    · omega
    · change doe = 36524 * (doe / 36524) + 1461 * (doe % 36524 / 1461) + doe % 36524 % 1461
      omega

theorem EraDay.slip_cases (d : EraDay) :
    d.slip = 0 ∧ d.s < 1460 ∨ d.slip = 1 ∧ 1364 ≤ d.s := by
  have hc := d.hc
  have hq := d.hq
  have hs := d.hs
  unfold EraDay.slip
  omega

theorem EraDay.leaps (d : EraDay) :
    d.doe / 1460 = 25 * d.c + d.q + d.slip ∧ d.doe / 36524 - d.doe / 146096 = d.c := by
  have hc := d.hc
  have hq := d.hq
  have hs := d.hs
  have hfull := d.full
  unfold EraDay.slip EraDay.doe
  have hend : 1461 * d.q + d.s ≤ 36523 ∨ d.c = 3 ∧ 1461 * d.q + d.s = 36524 := by omega
  constructor
  · omega
  · rcases hend with hend | ⟨hc3,hend⟩
    · have hfirst : (36524 * d.c + 1461 * d.q + d.s) / 36524 = d.c := by omega
      have hlast : (36524 * d.c + 1461 * d.q + d.s) / 146096 = 0 := by omega
      omega
    · omega

theorem EraDay.yoe (d : EraDay) :
    (d.doe - d.doe / 1460 + d.doe / 36524 - d.doe / 146096) / 365 =
      100 * d.c + 4 * d.q + (d.s - d.slip) / 365 := by
  obtain ⟨hfour,hhundred⟩ := d.leaps
  have hdoe : d.doe = 36524 * d.c + 1461 * d.q + d.s := rfl
  omega

theorem EraDay.yearDay (d : EraDay) :
    0 ≤ (d.s - d.slip) / 365 ∧ 365 * ((d.s - d.slip) / 365) ≤ d.s ∧
      ((d.s - d.slip) / 365 = 3 ∨ (d.s - d.slip) / 365 < 3 ∧
        d.s < 365 * ((d.s - d.slip) / 365 + 1)) := by
  have hs := d.hs
  rcases d.slip_cases with ⟨h,hlate⟩ | ⟨h,hlate⟩ <;> omega

theorem year_of_era {doe yoe : ℤ} (h0 : 0 ≤ doe) (h1 : doe < 146097)
    (hy : yoe = (doe - doe / 1460 + doe / 36524 - doe / 146096) / 365) :
    0 ≤ yoe ∧ yoe ≤ 399 ∧ 365 * yoe + yoe / 4 - yoe / 100 ≤ doe ∧
      doe < 365 * (yoe + 1) + (yoe + 1) / 4 - (yoe + 1) / 100 + (yoe + 1) / 400 := by
  obtain ⟨d,rfl⟩ := exists_eraDay h0 h1
  rw [d.yoe] at hy
  obtain ⟨hy0,hfirst,hlast⟩ := d.yearDay
  obtain ⟨c,q,s,⟨hc0,hc3⟩,⟨hq0,hq24⟩,⟨hs0,hs⟩,hfull⟩ := d
  simp only at hy hy0 hfirst hlast hfull
  generalize (s - _) / 365 = y at hy hy0 hfirst hlast
  have hy3 : y ≤ 3 := by omega
  simp only [EraDay.doe]
  clear h0 h1
  have h4 : yoe / 4 = 25 * c + q := by omega
  have h100 : yoe / 100 = c := by omega
  refine ⟨by omega,by omega,by omega,?_⟩
  rcases hlast with rfl | ⟨hy2,hlt⟩
  · have h4' : (yoe + 1) / 4 = 25 * c + q + 1 := by omega
    by_cases hq : q = 24
    · subst hq
      have h100' : (yoe + 1) / 100 = c + 1 := by omega
      omega
    · have h100' : (yoe + 1) / 100 = c := by omega
      omega
  · have h4' : (yoe + 1) / 4 = 25 * c + q := by omega
    have h100' : (yoe + 1) / 100 = c := by omega
    omega

-- Years begin in March, and months are counted from the March of year zero.
def marchYear (days : ℤ) : ℤ :=
  let z := days + 719468
  let era := z / 146097
  let doe := z - era * 146097
  (doe - doe / 1460 + doe / 36524 - doe / 146096) / 365 + era * 400

def yearDay (days : ℤ) : ℤ :=
  let z := days + 719468
  let era := z / 146097
  let doe := z - era * 146097
  let yoe := (doe - doe / 1460 + doe / 36524 - doe / 146096) / 365
  doe - (365 * yoe + yoe / 4 - yoe / 100)

def monthNumber (days : ℤ) : ℤ := 12 * marchYear days + (5 * yearDay days + 2) / 153

def yearStart (y : ℤ) : ℤ := 365 * y + y / 4 - y / 100 + y / 400 - 719468

def monthDay (n : ℤ) : ℤ := yearStart (n / 12) + (153 * (n % 12) + 2) / 5

theorem yearStart_split (era yoe : ℤ) : yearStart (yoe + era * 400) =
    146097 * era + 365 * yoe + yoe / 4 - yoe / 100 + yoe / 400 - 719468 := by
  unfold yearStart
  omega

theorem yearStart_step (y : ℤ) : yearStart y + 365 ≤ yearStart (y + 1) ∧ yearStart (y + 1) ≤ yearStart y + 366 := by
  unfold yearStart
  omega

theorem monthDay_lt (n : ℤ) : monthDay n < monthDay (n + 1) := by
  have hy := yearStart_step (n / 12)
  unfold monthDay
  by_cases h : n % 12 = 11
  · have hn : (n + 1) / 12 = n / 12 + 1 := by omega
    rw [hn]
    omega
  · have hn : (n + 1) / 12 = n / 12 := by omega
    rw [hn]
    omega

theorem day_in_year (days : ℤ) : days = yearStart (marchYear days) + yearDay days ∧
    0 ≤ yearDay days ∧ days < yearStart (marchYear days + 1) := by
  unfold marchYear yearDay
  have h0 : 0 ≤ days + 719468 - (days + 719468) / 146097 * 146097 := by omega
  have h1 : days + 719468 - (days + 719468) / 146097 * 146097 < 146097 := by omega
  have hy := year_of_era h0 h1 rfl
  dsimp only
  generalize hera : (days + 719468) / 146097 = era at *
  generalize hdoe : days + 719468 - era * 146097 = doe at *
  generalize (doe - doe / 1460 + doe / 36524 - doe / 146096) / 365 = yoe at *
  obtain ⟨hy0,hy399,hlo,hhi⟩ := hy
  have hyear := yearStart_split era yoe
  have hnext := yearStart_split era (yoe + 1)
  have hsame : yoe + era * 400 + 1 = yoe + 1 + era * 400 := by omega
  have hlast : yoe / 400 = 0 := by omega
  rw [hsame,hyear,hnext]
  refine ⟨?_,?_,?_⟩ <;> omega

theorem monthNumber_parts (days : ℤ) : monthNumber days / 12 = marchYear days ∧
    monthNumber days % 12 = (5 * yearDay days + 2) / 153 := by
  obtain ⟨hdays,h0,hlt⟩ := day_in_year days
  have hstep := yearStart_step (marchYear days)
  unfold monthNumber
  constructor <;> omega

theorem monthNumber_bounds (days : ℤ) :
    monthDay (monthNumber days) ≤ days ∧ days < monthDay (monthNumber days + 1) := by
  obtain ⟨hdays,h0,hlt⟩ := day_in_year days
  obtain ⟨hyear,hmonth⟩ := monthNumber_parts days
  unfold monthDay
  constructor
  · rw [hyear,hmonth]
    omega
  · by_cases h : monthNumber days % 12 = 11
    · have hn : (monthNumber days + 1) / 12 = marchYear days + 1 := by omega
      have hz : (monthNumber days + 1) % 12 = 0 := by omega
      rw [hn,hz]
      omega
    · have hn : (monthNumber days + 1) / 12 = marchYear days := by omega
      have hz : (monthNumber days + 1) % 12 = (5 * yearDay days + 2) / 153 + 1 := by omega
      rw [hn,hz]
      omega

def civilYear (n : ℤ) : ℤ := n / 12 + if n % 12 < 10 then 0 else 1

def civilMonth (n : ℤ) : ℤ := if n % 12 < 10 then n % 12 + 3 else n % 12 - 9

theorem daysFromCivil_month (n : ℤ) :
    daysFromCivil ⟨civilYear n,civilMonth n,1⟩ = monthDay n := by
  have hmonth : civilMonth n ≤ 2 ↔ ¬ n % 12 < 10 := by
    unfold civilMonth
    split <;> omega
  have hy : (if civilMonth n ≤ 2 then civilYear n - 1 else civilYear n) = n / 12 := by
    unfold civilYear
    split <;> split <;> omega
  have hm : (if civilMonth n > 2 then civilMonth n - 3 else civilMonth n + 9) = n % 12 := by
    unfold civilMonth
    split <;> split <;> omega
  simp only [daysFromCivil,hy,hm,monthDay,yearStart]
  generalize n / 12 = y
  have h4 : y / 4 = 100 * (y / 400) + (y - y / 400 * 400) / 4 := by omega
  have h100 : y / 100 = 4 * (y / 400) + (y - y / 400 * 400) / 100 := by omega
  omega

theorem civilDate_month (days : ℤ) : (civilDate days).year = civilYear (monthNumber days) ∧
    (civilDate days).month = civilMonth (monthNumber days) := by
  obtain ⟨hyear,hmonth⟩ := monthNumber_parts days
  unfold civilYear civilMonth
  rw [hyear,hmonth]
  have hm : (civilDate days).month = if (5 * yearDay days + 2) / 153 < 10 then
      (5 * yearDay days + 2) / 153 + 3 else (5 * yearDay days + 2) / 153 - 9 := rfl
  have hy : (civilDate days).year =
      marchYear days + if (civilDate days).month ≤ 2 then 1 else 0 := rfl
  rw [hy,hm]
  refine ⟨?_,rfl⟩
  split <;> split <;> omega

theorem civil_next (n : ℤ) : (civilMonth n = 12 → civilYear (n + 1) = civilYear n + 1 ∧
      civilMonth (n + 1) = 1) ∧
    (civilMonth n ≠ 12 → civilYear (n + 1) = civilYear n ∧
      civilMonth (n + 1) = civilMonth n + 1) := by
  unfold civilMonth civilYear
  split <;> split <;> omega

theorem monthStart_eq (now : Time) :
    monthStart now = monthDay (monthNumber (now / dayMicroseconds)) * dayMicroseconds := by
  obtain ⟨hy,hm⟩ := civilDate_month (now / dayMicroseconds)
  simp only [monthStart]
  rw [hy,hm,daysFromCivil_month]

theorem nextMonthStart_eq (now : Time) :
    nextMonthStart now = monthDay (monthNumber (now / dayMicroseconds) + 1) * dayMicroseconds := by
  obtain ⟨hy,hm⟩ := civilDate_month (now / dayMicroseconds)
  obtain ⟨hlast,hmid⟩ := civil_next (monthNumber (now / dayMicroseconds))
  simp only [nextMonthStart]
  rw [hy,hm,← daysFromCivil_month]
  split
  · rename_i h
    rw [(hlast h).1,(hlast h).2]
  · rename_i h
    rw [(hmid h).1,(hmid h).2]

theorem month_contains (now : Time) : monthStart now ≤ now ∧ now < nextMonthStart now := by
  have hb := monthNumber_bounds (now / dayMicroseconds)
  rw [monthStart_eq,nextMonthStart_eq]
  unfold dayMicroseconds at *
  constructor
  · exact (Int.le_ediv_iff_mul_le (by decide)).mp hb.1
  · exact (Int.ediv_lt_iff_lt_mul (by decide)).mp hb.2

theorem monthDay_mono : StrictMono monthDay := strictMono_int_of_lt_succ monthDay_lt

theorem month_unique {now t : Time} (hlo : monthStart now ≤ t) (hhi : t < nextMonthStart now) :
    monthStart t = monthStart now ∧ nextMonthStart t = nextMonthStart now := by
  rw [monthStart_eq] at hlo
  rw [nextMonthStart_eq] at hhi
  have hb := monthNumber_bounds (t / dayMicroseconds)
  have hday : monthDay (monthNumber (now / dayMicroseconds)) ≤ t / dayMicroseconds ∧
      t / dayMicroseconds < monthDay (monthNumber (now / dayMicroseconds) + 1) := by
    unfold dayMicroseconds at *
    exact ⟨(Int.le_ediv_iff_mul_le (by decide)).mpr hlo,(Int.ediv_lt_iff_lt_mul (by decide)).mpr hhi⟩
  have hle := monthDay_mono.lt_iff_lt.mp (hday.1.trans_lt hb.2)
  have hge := monthDay_mono.lt_iff_lt.mp (hb.1.trans_lt hday.2)
  have hn : monthNumber (t / dayMicroseconds) = monthNumber (now / dayMicroseconds) := by omega
  rw [monthStart_eq,monthStart_eq,nextMonthStart_eq,nextMonthStart_eq,hn]
  exact ⟨rfl,rfl⟩

end AiScdc
