import Mathlib.Tactic.IntervalCases
import SchemaMigration.Calendar

/-!
# The Gregorian calendar

The lengths of the years and the months, and the seconds that they add up to. Every second since
1970 and before is that of exactly one valid moment, and moments are in the order of their seconds.
-/

namespace SchemaMigration.Calendar

/-! ## Years and months -/

/-- Every fourth year, but of the full centuries only every fourth. -/
def IsLeap (year : Int) : Prop := 4 ∣ year ∧ (100 ∣ year → 400 ∣ year)

instance : DecidablePred IsLeap := fun year =>
  inferInstanceAs (Decidable (4 ∣ year ∧ (100 ∣ year → 400 ∣ year)))

def yearLength (year : Int) : Nat := if IsLeap year then 366 else 365

def monthLength (year : Int) : Nat → Nat
  | 2 => if IsLeap year then 29 else 28
  | 4 | 6 | 9 | 11 => 30
  | _ => 31

/-- The days from the start of 1970 to the start of a year. -/
def daysBeforeYear (year : Int) : Int :=
  365 * (year - 1970) + ((year - 1) / 4 - (year - 1) / 100 + (year - 1) / 400) - 477

/-- The days of a year before a month. -/
def daysBeforeMonth (year : Int) : Nat → Nat
  | 0 | 1 => 0
  | month + 1 => daysBeforeMonth year month + monthLength year month

variable {y z : Int} {j k : Nat}

theorem yearLength_le (y : Int) : yearLength y ≤ 366 := by
  unfold yearLength
  split <;> omega

theorem daysBeforeYear_succ (y : Int) : daysBeforeYear (y + 1) = daysBeforeYear y + yearLength y := by
  unfold daysBeforeYear yearLength
  by_cases hleap : IsLeap y
  · rw [if_pos hleap]
    unfold IsLeap at hleap
    omega
  · rw [if_neg hleap]
    unfold IsLeap at hleap
    omega

theorem daysBeforeYear_mono (hbefore : y < z) : daysBeforeYear y + yearLength y ≤ daysBeforeYear z := by
  rw [← daysBeforeYear_succ]
  unfold daysBeforeYear
  omega

theorem daysBeforeMonth_succ (y : Int) (hpositive : 0 < k) :
    daysBeforeMonth y (k + 1) = daysBeforeMonth y k + monthLength y k := by
  cases k with
  | zero => omega
  | succ k => rfl

theorem daysBeforeMonth_mono (hpositive : 0 < j) (hbefore : j < k) :
    daysBeforeMonth y j + monthLength y j ≤ daysBeforeMonth y k := by
  induction k with
  | zero => omega
  | succ k ih =>
    rw [daysBeforeMonth_succ y (by omega)]
    rcases Nat.lt_or_ge j k with hearlier | hsame
    · have hmost := ih hearlier
      omega
    · obtain rfl : j = k := by omega
      exact le_rfl

theorem daysBeforeMonth_thirteen (y : Int) : daysBeforeMonth y 13 = yearLength y := by
  simp only [daysBeforeMonth, monthLength, yearLength]
  split <;> rfl

/-! ## Moments -/

namespace Moment

/-- A moment that a calendar and a clock can show. -/
structure Valid (m : Moment) : Prop where
  month_pos : 0 < m.month
  month_le : m.month ≤ 12
  day_pos : 0 < m.day
  day_le : m.day ≤ monthLength m.year m.month
  hour_lt : m.hour < 24
  minute_lt : m.minute < 60
  second_lt : m.second < 60

/-- The day of the year, the first one being zero. -/
def dayOfYear (m : Moment) : Nat := daysBeforeMonth m.year m.month + (m.day - 1)

def secondOfDay (m : Moment) : Nat := m.hour * 3600 + m.minute * 60 + m.second

/-- The seconds from the start of 1970. -/
def seconds (m : Moment) : Int :=
  (daysBeforeYear m.year + m.dayOfYear) * secondsPerDay + m.secondOfDay

variable {m n : Moment}

theorem Valid.dayOfYear_lt (hvalid : m.Valid) : m.dayOfYear < yearLength m.year := by
  have hinside := daysBeforeMonth_mono (y := m.year) hvalid.month_pos (Nat.lt_succ_of_le hvalid.month_le)
  rw [daysBeforeMonth_thirteen] at hinside
  have hmost := hvalid.day_le
  have hleast := hvalid.day_pos
  unfold dayOfYear
  omega

theorem Valid.secondOfDay_lt (hvalid : m.Valid) : m.secondOfDay < 86400 := by
  have hhour := hvalid.hour_lt
  have hminute := hvalid.minute_lt
  have hsecond := hvalid.second_lt
  unfold secondOfDay
  omega

theorem Valid.le_seconds (hvalid : m.Valid) :
    daysBeforeYear m.year * secondsPerDay ≤ m.seconds ∧
      m.seconds < daysBeforeYear (m.year + 1) * secondsPerDay := by
  have hday := hvalid.dayOfYear_lt
  have hsecond := hvalid.secondOfDay_lt
  rw [daysBeforeYear_succ]
  unfold seconds secondsPerDay
  omega

theorem Valid.year_le (hvalid : m.Valid) (hvalid' : n.Valid) (hbefore : m.seconds < n.seconds) :
    m.year ≤ n.year := by
  by_contra hlater
  have hapart := daysBeforeYear_mono (Int.lt_of_not_ge hlater)
  have hmost := hvalid'.le_seconds.2
  have hleast := hvalid.le_seconds.1
  rw [daysBeforeYear_succ] at hmost
  unfold secondsPerDay at hmost hleast
  omega

theorem Valid.dayOfYear_le (hvalid : m.Valid) (hvalid' : n.Valid) (hbefore : m.seconds < n.seconds)
    (hyear : m.year = n.year) : m.dayOfYear ≤ n.dayOfYear := by
  have hsecond := hvalid.secondOfDay_lt
  have hsecond' := hvalid'.secondOfDay_lt
  unfold seconds secondsPerDay at hbefore
  rw [hyear] at hbefore
  omega

theorem Valid.month_le_of_dayOfYear (hvalid' : n.Valid) (hyear : m.year = n.year)
    (hday : m.dayOfYear ≤ n.dayOfYear) : m.month ≤ n.month := by
  by_contra hlater
  have hapart := daysBeforeMonth_mono (y := n.year) hvalid'.month_pos (Nat.lt_of_not_ge hlater)
  have hmost := hvalid'.day_le
  have hleast := hvalid'.day_pos
  unfold dayOfYear at hday
  rw [hyear] at hday
  omega

end Moment

/-! ## The date of a day -/

/-- The days of the 400 years from March to March: by centuries, groups of four years, and years. Only
a leap year has a day with the number 365. -/
theorem exists_marchDay {day : Nat} (hinside : day < 146097) :
    ∃ century four year rest, century < 4 ∧ four < 25 ∧ year < 4 ∧ rest ≤ 365 ∧
      (rest = 365 → year = 3 ∧ (four = 24 → century = 3)) ∧
      day = 36524 * century + 1461 * four + 365 * year + rest := by
  have hcentury : ∃ c r, c < 4 ∧ day = 36524 * c + r ∧ (r < 36524 ∨ r = 36524 ∧ c = 3) :=
    ⟨min 3 (day / 36524), day - 36524 * min 3 (day / 36524), by omega, by omega, by omega⟩
  obtain ⟨c, r, hsmall, rfl, hwithin⟩ := hcentury
  have hyear : ∃ a s, a < 4 ∧ r % 1461 = 365 * a + s ∧ (s < 365 ∨ s = 365 ∧ a = 3) :=
    ⟨min 3 (r % 1461 / 365), r % 1461 - 365 * min 3 (r % 1461 / 365), by omega, by omega, by omega⟩
  obtain ⟨a, s, hsmall', hsplit, hwithin'⟩ := hyear
  exact ⟨c, r / 1461, a, s, hsmall, by omega, hsmall', by omega, by omega, by omega⟩

variable {century four year rest : Nat}

/-- Dividing by 1460 counts the leap days up to 365 days early, so that the count of whole years is
right on every day. -/
theorem yearOfEra_eq (hcentury : century < 4) (hfour : four < 25) (hyear : year < 4)
    (hrest : rest ≤ 365) (hleap : rest = 365 → year = 3 ∧ (four = 24 → century = 3)) {day : Nat}
    (hsame : day = 36524 * century + 1461 * four + 365 * year + rest) :
    (day - day / 1460 + day / 36524 - day / 146096) / 365 = 100 * century + 4 * four + year := by
  have hcenturies : day / 36524 - day / 146096 = century ∧ day / 146096 ≤ day / 36524 := by omega
  have hearly : day / 1460 = 25 * century + four + (24 * century + four + 365 * year + rest) / 1460 := by
    omega
  omega

theorem dayOfYear_eq (hcentury : century < 4) (hfour : four < 25) (hyear : year < 4) (rest : Nat) :
    36524 * century + 1461 * four + 365 * year + rest -
      (365 * (100 * century + 4 * four + year) + (100 * century + 4 * four + year) / 4 -
        (100 * century + 4 * four + year) / 100) = rest := by
  have hfours : (100 * century + 4 * four + year) / 4 = 25 * century + four := by omega
  have hhundreds : (100 * century + 4 * four + year) / 100 = century := by omega
  rw [hfours, hhundreds]
  omega

theorem daysBeforeYear_march (hcentury : century < 4) (hfour : four < 25) (hyear : year < 4) (era : Int) :
    daysBeforeYear ((100 * century + 4 * four + year : Nat) + era * 400 + 1) =
      era * 146097 + 36524 * century + 1461 * four + 365 * year - 719468 + 306 := by
  unfold daysBeforeYear
  omega

theorem isLeap_march (hfour : four < 25)
    (hends : year = 3 ∧ (four = 24 → century = 3)) (era : Int) :
    IsLeap ((100 * century + 4 * four + year : Nat) + era * 400 + 1) := by
  unfold IsLeap
  omega

theorem marchMonth_spec (y : Int) {march : Nat} (hinside : march < 10) :
    daysBeforeMonth y (march + 3) + 306 = yearLength y + (153 * march + 2) / 5 ∧
      monthLength y (march + 3) + (153 * march + 2) / 5 = (153 * (march + 1) + 2) / 5 := by
  interval_cases march <;> by_cases hleap : IsLeap y <;>
    simp [daysBeforeMonth, monthLength, yearLength, hleap]

theorem marchDay_date (y : Int) (hrest : rest ≤ 365) (hleap : rest = 365 → IsLeap (y + 1))
    {march month day : Nat} {year : Int} (hmarch : march = (5 * rest + 2) / 153)
    (hday : day = rest - (153 * march + 2) / 5 + 1)
    (hmonth : month = if march < 10 then march + 3 else march - 9)
    (hyear : year = y + if month ≤ 2 then 1 else 0) :
    0 < month ∧ month ≤ 12 ∧ 0 < day ∧ day ≤ monthLength year month ∧
      daysBeforeYear year + (daysBeforeMonth year month + (day - 1) : Nat) =
        daysBeforeYear (y + 1) - 306 + rest := by
  by_cases hinside : march < 10
  · obtain rfl : month = march + 3 := by simpa [hinside] using hmonth
    obtain rfl : year = y := by simpa using hyear
    have hnext := daysBeforeYear_succ year
    have hspec := marchMonth_spec year hinside
    omega
  · have hmost : march = 10 ∨ march = 11 := by omega
    rcases hmost with rfl | rfl
    · obtain rfl : month = 1 := by simpa using hmonth
      obtain rfl : year = y + 1 := by simpa using hyear
      simp only [monthLength, daysBeforeMonth]
      omega
    · obtain rfl : month = 2 := by simpa using hmonth
      obtain rfl : year = y + 1 := by simpa using hyear
      have hlast : rest = 365 → monthLength (y + 1) 2 = 29 := by
        intro hends
        simp [monthLength, hleap hends]
      have hleast : 28 ≤ monthLength (y + 1) 2 := by
        simp only [monthLength]
        split <;> omega
      have hjanuary : daysBeforeMonth (y + 1) 2 = 31 := rfl
      omega

theorem dateOfDays_spec (days : Int) {y : Int} {month day : Nat} (hdate : dateOfDays days = (y, month, day)) :
    0 < month ∧ month ≤ 12 ∧ 0 < day ∧ day ≤ monthLength y month ∧
      daysBeforeYear y + (daysBeforeMonth y month + (day - 1) : Nat) = days := by
  unfold dateOfDays at hdate
  dsimp only at hdate
  have hwhole : (days + epochDays).fdiv daysPerEra * 146097 +
      ((days + epochDays).fmod daysPerEra).toNat = days + 719468 := by
    rw [Int.fdiv_eq_ediv_of_nonneg _ (by decide), Int.fmod_eq_emod_of_nonneg _ (by decide)]
    unfold epochDays daysPerEra
    omega
  have hinside : ((days + epochDays).fmod daysPerEra).toNat < 146097 := by
    rw [Int.fmod_eq_emod_of_nonneg _ (by decide)]
    unfold epochDays daysPerEra
    omega
  generalize ((days + epochDays).fmod daysPerEra).toNat = d at hdate hwhole hinside
  generalize (days + epochDays).fdiv daysPerEra = era at hdate hwhole
  obtain ⟨c, f, a, rest, hc, hf, ha, hrest, hleap, hsame⟩ := exists_marchDay hinside
  have hyears := yearOfEra_eq hc hf ha hrest hleap hsame
  have hleft := dayOfYear_eq hc hf ha rest
  rw [← hsame] at hleft
  simp only [hyears, hleft, Prod.mk.injEq] at hdate
  obtain ⟨hyear, hmonth, hday⟩ := hdate
  have hstart := daysBeforeYear_march hc hf ha era
  rw [hmonth] at hyear
  have hspec := marchDay_date _ hrest (fun hlast => isLeap_march hf (hleap hlast) era) rfl
    hday.symm hmonth.symm hyear.symm
  clear hyear hmonth hday hyears hleft
  omega

/-! ## The moment of a second -/

theorem momentOfSeconds_spec (t : Int) :
    (momentOfSeconds t).Valid ∧ (momentOfSeconds t).seconds = t := by
  rcases hdate : dateOfDays (t.fdiv secondsPerDay) with ⟨y, month, day⟩
  obtain ⟨hmonthPos, hmonthLe, hdayPos, hdayLe, hdays⟩ := dateOfDays_spec _ hdate
  have hsecond : ((t.fmod secondsPerDay).toNat : Int) = t % 86400 := by
    rw [Int.fmod_eq_emod_of_nonneg _ (by decide)]
    unfold secondsPerDay
    omega
  rw [Int.fdiv_eq_ediv_of_nonneg _ (by decide)] at hdays
  unfold momentOfSeconds
  rw [hdate]
  generalize (t.fmod secondsPerDay).toNat = s at hsecond
  refine ⟨⟨hmonthPos, hmonthLe, hdayPos, hdayLe, ?_, ?_, ?_⟩, ?_⟩
  · dsimp only
    omega
  · dsimp only
    omega
  · dsimp only
    omega
  · simp only [Moment.seconds, Moment.dayOfYear, Moment.secondOfDay, hdays]
    unfold secondsPerDay
    omega

theorem valid_momentOfSeconds (t : Int) : (momentOfSeconds t).Valid := (momentOfSeconds_spec t).1

theorem seconds_momentOfSeconds (t : Int) : (momentOfSeconds t).seconds = t :=
  (momentOfSeconds_spec t).2

end SchemaMigration.Calendar
