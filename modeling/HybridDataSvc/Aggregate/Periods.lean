import HybridDataSvc.Aggregate.Bars
import Mathlib.Data.Int.Order.Basic
import Mathlib.Tactic.Linarith

namespace HybridDataSvc

/-!
# Weeks, months and blocks of days

`group_key` names a week by its ISO year and number.  Around the turn of a
year the ISO year is not the year of the date; the name is nevertheless that
of the seven days from one Monday to the next Sunday.  Each kind of period has
a number that grows with the date, so that the days of a period follow one
another.
-/

/-! ## Dates -/

/-- `_days_in_month`. -/
def daysInMonthOf (year : Int) (month : Nat) : Int :=
  daysInMonth.getD (month - 1) 0 + if month = 2 && isLeap year then 1 else 0

namespace Date

/-- The date is one of the calendar. -/
structure Valid (date : Date) : Prop where
  fromJanuary : 1 ≤ date.month
  toDecember : date.month ≤ 12
  fromFirst : 1 ≤ date.day
  toLast : date.day ≤ daysInMonthOf date.year date.month

/-- `weekday`: 0 is Monday. -/
def weekday (ordinal : Int) : Int := (ordinal + 6) % 7

/-- Both dates are in the seven days from a Monday to a Sunday. -/
def SameWeek (first second : Date) : Prop :=
  exists monday, weekday monday = 0 ∧
    (monday ≤ first.toordinal ∧ first.toordinal ≤ monday + 6) ∧
    monday ≤ second.toordinal ∧ second.toordinal ≤ monday + 6

/-- Both dates are in one month of one year. -/
def SameMonth (first second : Date) : Prop :=
  first.year = second.year ∧ first.month = second.month

/-- Both dates are in one block of the three days `3 k`, `3 k + 1` and `3 k + 2`. -/
def SameBlock (first second : Date) : Prop :=
  exists k, (3 * k ≤ first.toordinal ∧ first.toordinal ≤ 3 * k + 2) ∧
    3 * k ≤ second.toordinal ∧ second.toordinal ≤ 3 * k + 2

end Date

/-! ## Years and months -/

theorem daysBeforeYear_mono {first second : Int} (order : first ≤ second) :
    daysBeforeYear first ≤ daysBeforeYear second := by
  unfold daysBeforeYear
  simp only
  omega

theorem daysBeforeYear_succ (year : Int) :
    daysBeforeYear (year + 1) = daysBeforeYear year + 365 + if isLeap year then 1 else 0 := by
  unfold daysBeforeYear isLeap
  simp only [Bool.and_eq_true, Bool.or_eq_true, decide_eq_true_eq]
  split <;> omega

/-- The months of a year follow one another, and the last ends with the year. -/
theorem daysBeforeMonth_add_le (year : Int) {first second : Nat} (january : 1 ≤ first)
    (order : first < second) (december : second ≤ 12) :
    daysBeforeMonth year first + daysInMonthOf year first ≤ daysBeforeMonth year second := by
  unfold daysBeforeMonth daysInMonthOf
  cases isLeap year with
  | false =>
      have table : forall second, second < 13 -> forall first, first < second -> 1 ≤ first ->
          (daysInMonth.take (first - 1)).sum + daysInMonth.getD (first - 1) 0 ≤
            (daysInMonth.take (second - 1)).sum := by decide
      simpa using table second (by omega) first order january
  | true =>
      have table : forall second, second < 13 -> forall first, first < second -> 1 ≤ first ->
          ((daysInMonth.take (first - 1)).sum + if 2 < first && true then 1 else 0) +
            (daysInMonth.getD (first - 1) 0 + if first = 2 && true then 1 else 0) ≤
            (daysInMonth.take (second - 1)).sum + if 2 < second && true then 1 else 0 := by decide
      exact table second (by omega) first order january

theorem daysBeforeMonth_le (year : Int) {month : Nat} (january : 1 ≤ month)
    (december : month ≤ 12) :
    0 ≤ daysBeforeMonth year month ∧
      daysBeforeMonth year month + daysInMonthOf year month ≤ 365 + if isLeap year then 1 else 0 := by
  unfold daysBeforeMonth daysInMonthOf
  cases isLeap year with
  | false =>
      have table : forall month, month < 13 -> 1 ≤ month ->
          0 ≤ (daysInMonth.take (month - 1)).sum ∧
            (daysInMonth.take (month - 1)).sum + daysInMonth.getD (month - 1) 0 ≤ 365 := by decide
      simpa using table month (by omega) january
  | true =>
      have table : forall month, month < 13 -> 1 ≤ month ->
          (0 ≤ (daysInMonth.take (month - 1)).sum + if 2 < month && true then 1 else 0) ∧
          ((daysInMonth.take (month - 1)).sum + if 2 < month && true then 1 else 0) +
            (daysInMonth.getD (month - 1) 0 + if month = 2 && true then 1 else 0) ≤
            365 + if true then 1 else 0 := by decide
      exact table month (by omega) january

namespace Date.Valid

variable {date other : Date}

/-- The ordinals of a year. -/
theorem inYear (valid : date.Valid) :
    daysBeforeYear date.year < date.toordinal ∧
      date.toordinal ≤ daysBeforeYear (date.year + 1) := by
  have month := daysBeforeMonth_le date.year valid.fromJanuary valid.toDecember
  have first := valid.fromFirst
  have last := valid.toLast
  rw [daysBeforeYear_succ]
  unfold Date.toordinal
  omega

/-- The number of a month. -/
theorem month_mono (valid : date.Valid) (valid' : other.Valid)
    (order : date.toordinal ≤ other.toordinal) :
    12 * date.year + date.month ≤ 12 * other.year + other.month := by
  have years : date.year ≤ other.year := by
    by_contra later
    have mono := daysBeforeYear_mono (show other.year + 1 ≤ date.year by omega)
    have before := valid.inYear.1
    have after := valid'.inYear.2
    omega
  rcases lt_or_eq_of_le years with less | same
  · have january := valid'.fromJanuary
    have december := valid.toDecember
    omega
  · have months : date.month ≤ other.month := by
      by_contra later
      have ends := daysBeforeMonth_add_le other.year valid'.fromJanuary
        (show other.month < date.month by omega) valid.toDecember
      have first := valid.fromFirst
      have last := valid'.toLast
      unfold Date.toordinal at order
      rw [same] at order
      omega
    omega

end Date.Valid

/-! ## ISO weeks -/

theorem toordinal_newYear (year : Int) :
    (Date.mk year 1 1).toordinal = daysBeforeYear year + 1 := by
  simp [Date.toordinal, daysBeforeMonth]

/-- Week 1 starts on the Monday within three days of the new year. -/
theorem isoWeek1Monday_spec (year : Int) :
    Date.weekday (isoWeek1Monday year) = 0 ∧
      daysBeforeYear year - 2 ≤ isoWeek1Monday year ∧
      isoWeek1Monday year ≤ daysBeforeYear year + 4 := by
  unfold isoWeek1Monday Date.weekday
  simp only [toordinal_newYear]
  split
  · omega
  · omega

/-- The ISO years follow one another. -/
theorem isoWeek1Monday_lt {first second : Int} (order : first < second) :
    isoWeek1Monday first < isoWeek1Monday second := by
  have before := isoWeek1Monday_spec first
  have after := isoWeek1Monday_spec second
  have mono := daysBeforeYear_mono (show first + 1 ≤ second by omega)
  rw [daysBeforeYear_succ] at mono
  split at mono
  · omega
  · omega

/-- The date is in the week of its ISO year that starts `7 (week - 1)` days after
the first Monday, and before the next ISO year. -/
theorem isoWeek_spec {date : Date} (valid : date.Valid) :
    isoWeek1Monday date.isoWeek.1 + 7 * (date.isoWeek.2 - 1) ≤ date.toordinal ∧
      date.toordinal < isoWeek1Monday date.isoWeek.1 + 7 * date.isoWeek.2 ∧
      isoWeek1Monday date.isoWeek.1 ≤ date.toordinal ∧
      date.toordinal < isoWeek1Monday (date.isoWeek.1 + 1) := by
  have inYear := valid.inYear
  have own := isoWeek1Monday_spec date.year
  have next := isoWeek1Monday_spec (date.year + 1)
  have last := isoWeek1Monday_spec (date.year - 1)
  have later := isoWeek1Monday_spec (date.year + 1 + 1)
  have length := daysBeforeYear_succ date.year
  have length' := daysBeforeYear_succ (date.year - 1)
  have length'' := daysBeforeYear_succ (date.year + 1)
  rw [Int.sub_add_cancel] at length'
  have lengths : (365 : Int) ≤ 365 + (if isLeap date.year then 1 else 0) := by split <;> omega
  unfold Date.weekday at own next last later
  unfold Date.isoWeek
  simp only [Bool.and_eq_true, decide_eq_true_eq]
  split
  · dsimp only
    rw [Int.sub_add_cancel]
    split at length' <;> omega
  · split
    · dsimp only
      split at length'' <;> omega
    · dsimp only
      split at length <;> omega

/-- A week does not reach into the next ISO year. -/
theorem isoYear_le {first second : Date} (valid : first.Valid) (valid' : second.Valid)
    (same : first.SameWeek second) : first.isoWeek.1 ≤ second.isoWeek.1 := by
  rcases same with ⟨start, starts, inFirst, inSecond⟩
  by_contra later
  have ordered : isoWeek1Monday (second.isoWeek.1 + 1) ≤ isoWeek1Monday first.isoWeek.1 := by
    rcases lt_or_eq_of_le (show second.isoWeek.1 + 1 ≤ first.isoWeek.1 by omega) with less | equal
    · exact le_of_lt (isoWeek1Monday_lt less)
    · rw [equal]
  have spec := isoWeek_spec valid
  have spec' := isoWeek_spec valid'
  have nextMonday := (isoWeek1Monday_spec (second.isoWeek.1 + 1)).1
  unfold Date.weekday at starts nextMonday
  omega

theorem Date.SameWeek.symm {first second : Date} (same : first.SameWeek second) :
    second.SameWeek first := by
  rcases same with ⟨start, starts, inFirst, inSecond⟩
  exact ⟨start, starts, inSecond, inFirst⟩

/-- The ISO name of a week is the name of its days from Monday to Sunday. -/
theorem isoWeek_eq_iff {first second : Date} (valid : first.Valid) (valid' : second.Valid) :
    first.isoWeek = second.isoWeek ↔ first.SameWeek second := by
  have spec := isoWeek_spec valid
  have spec' := isoWeek_spec valid'
  have monday := (isoWeek1Monday_spec first.isoWeek.1).1
  constructor
  · intro same
    rw [← same] at spec'
    refine ⟨isoWeek1Monday first.isoWeek.1 + 7 * (first.isoWeek.2 - 1), ?_, ?_, ?_⟩
    · unfold Date.weekday at monday ⊢
      omega
    · omega
    · omega
  · intro same
    have years : first.isoWeek.1 = second.isoWeek.1 :=
      le_antisymm (isoYear_le valid valid' same) (isoYear_le valid' valid same.symm)
    rcases same with ⟨start, starts, inFirst, inSecond⟩
    rw [← years] at spec'
    apply Prod.ext years
    unfold Date.weekday at starts monday
    omega

/-! ## The periods of `group_key` -/

/-- Both dates are in one period of the timeframe. -/
def SamePeriod (timeframe : String) (first second : Date) : Prop :=
  if timeframe = "1W" then first.SameWeek second
  else if timeframe = "1M" then first.SameMonth second
  else first.SameBlock second

/-- The number of the period of a date. -/
def periodNumber (timeframe : String) (date : Date) : Int :=
  if timeframe = "1W" then (date.toordinal + 6) / 7
  else if timeframe = "1M" then 12 * date.year + date.month
  else date.toordinal / 3

section Period

variable {timeframe : String} {first second : Date}

/-- `group_key` names the periods. -/
theorem groupKey_eq_iff (derived : timeframe ∈ dailyDerived) (valid : first.Valid)
    (valid' : second.Valid) :
    groupKey timeframe first = groupKey timeframe second ↔ SamePeriod timeframe first second := by
  simp only [dailyDerived, List.mem_cons, List.not_mem_nil, or_false] at derived
  rcases derived with rfl | rfl | rfl
  · -- blocks of three days
    have unfolded : groupKey "3D" first = groupKey "3D" second ↔
        first.toordinal - first.toordinal % 3 = second.toordinal - second.toordinal % 3 := by
      simp [groupKey]
    rw [unfolded]
    change _ ↔ first.SameBlock second
    constructor
    · intro same
      exact ⟨first.toordinal / 3, by omega, by omega⟩
    · rintro ⟨k, inFirst, inSecond⟩
      omega
  · have unfolded : groupKey "1W" first = groupKey "1W" second ↔ first.isoWeek = second.isoWeek := by
      simp [groupKey, Prod.ext_iff]
    rw [unfolded]
    exact isoWeek_eq_iff valid valid'
  · have unfolded : groupKey "1M" first = groupKey "1M" second ↔
        first.year = second.year ∧ (first.month : Int) = second.month := by
      simp [groupKey]
    rw [unfolded, Int.natCast_inj]
    rfl

theorem periodNumber_eq_iff (valid : first.Valid) (valid' : second.Valid) :
    periodNumber timeframe first = periodNumber timeframe second ↔
      SamePeriod timeframe first second := by
  unfold periodNumber SamePeriod
  by_cases week : timeframe = "1W"
  · rw [if_pos week, if_pos week, if_pos week]
    unfold Date.SameWeek Date.weekday
    constructor
    · intro same
      exact ⟨(first.toordinal + 6) / 7 * 7 - 6, by omega, by omega, by omega⟩
    · rintro ⟨monday, starts, inFirst, inSecond⟩
      omega
  · rw [if_neg week, if_neg week, if_neg week]
    by_cases month : timeframe = "1M"
    · rw [if_pos month, if_pos month, if_pos month]
      have january := valid.fromJanuary
      have december := valid.toDecember
      have january' := valid'.fromJanuary
      have december' := valid'.toDecember
      unfold Date.SameMonth
      omega
    · rw [if_neg month, if_neg month, if_neg month]
      constructor
      · intro same
        exact ⟨first.toordinal / 3, by omega, by omega⟩
      · rintro ⟨k, inFirst, inSecond⟩
        omega

/-- Later dates are not in earlier periods. -/
theorem periodNumber_mono (valid : first.Valid) (valid' : second.Valid)
    (order : first.toordinal ≤ second.toordinal) :
    periodNumber timeframe first ≤ periodNumber timeframe second := by
  unfold periodNumber
  by_cases week : timeframe = "1W"
  · rw [if_pos week, if_pos week]
    omega
  · rw [if_neg week, if_neg week]
    by_cases month : timeframe = "1M"
    · rw [if_pos month, if_pos month]
      exact valid.month_mono valid' order
    · rw [if_neg month, if_neg month]
      omega

end Period

end HybridDataSvc
