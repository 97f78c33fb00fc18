import DeviceGateway.Time.Instant

/-!
# Counting days

The search for the date of a day undoes the count of days: the date exists, and it is as many days
after 1970-01-01. No other date is. The days of whole years have a closed form, so bounds on years
are bounds on days.
-/

namespace DeviceGateway.Calendar

/-! ### Years -/

theorem daysInYear_pos (year : Nat) : 0 < daysInYear year := by
  unfold daysInYear
  split <;> omega

/-- A year has its leap day exactly if the count of leap years goes up with it. -/
theorem daysInYear_succ {x y : Nat} (hnext : y = x + 1) :
    daysInYear y + x / 4 + y / 100 + x / 400 = 365 + y / 4 + x / 100 + y / 400 := by
  unfold daysInYear isLeap
  split
  · next h =>
    simp only [Bool.and_eq_true, Bool.or_eq_true, beq_iff_eq, bne_iff_ne] at h
    omega
  · next h =>
    simp only [Bool.and_eq_true, Bool.or_eq_true, beq_iff_eq, bne_iff_ne] at h
    omega

theorem daysOfYears_succ {n y : Nat} (hyear : y = 1970 + n) :
    daysOfYears (n + 1) = daysOfYears n + daysInYear y := by
  subst hyear
  rfl

/-- The days of years from 1970 on up to a year, by the leap years; there are 477 up to 1969. -/
theorem daysOfYears_eq {n y : Nat} (hyear : y = 1969 + n) :
    daysOfYears n + 477 + y / 100 = 365 * n + y / 4 + y / 400 := by
  induction n generalizing y with
  | zero =>
    subst hyear
    decide
  | succ n ih =>
    obtain ⟨x, rfl⟩ : ∃ x, y = x + 1 := ⟨1969 + n, hyear⟩
    have hx : x = 1969 + n := by omega
    have hnext : x + 1 = 1970 + n := by omega
    have hbefore := ih hx
    have hdays := daysInYear_succ (rfl : x + 1 = x + 1)
    rw [daysOfYears_succ hnext]
    -- the counts are numbers like any others here, which nothing should evaluate
    generalize daysInYear (x + 1) = days at hdays ⊢
    generalize daysOfYears n = sum at hbefore ⊢
    omega

theorem daysOfYears_le {m n : Nat} (h : m ≤ n) : daysOfYears m ≤ daysOfYears n := by
  induction h with
  | refl => exact Nat.le_refl _
  | step _ ih => exact Nat.le_add_right_of_le ih

/-! ### Months -/

theorem daysBeforeMonth_succ (year : Nat) {month : Nat} (h : 1 ≤ month) :
    daysBeforeMonth year (month + 1) = daysBeforeMonth year month + daysInMonth year month := by
  obtain ⟨m, rfl⟩ := Nat.exists_eq_add_of_le' h
  rfl

theorem daysBeforeMonth_thirteen (year : Nat) : daysBeforeMonth year 13 = daysInYear year := by
  simp only [daysBeforeMonth, daysInMonth, daysInYear]
  cases isLeap year <;> rfl

theorem daysBeforeMonth_le (year : Nat) {m n : Nat} (hm : 1 ≤ m) (h : m ≤ n) :
    daysBeforeMonth year m ≤ daysBeforeMonth year n := by
  induction h with
  | refl => exact Nat.le_refl _
  | @step n hle ih =>
    have hsucc := daysBeforeMonth_succ year (Nat.le_trans hm hle)
    simp only [Nat.succ_eq_add_one]
    omega

/-- The search through the months of a year from one on ends in a day of the year. -/
theorem findMonth_spec (year fuel month days : Nat) (hmonth : 1 ≤ month) (hlast : month + fuel = 12)
    (hdays : daysBeforeMonth year month + days < daysInYear year) :
    (Date.mk year (findMonth year fuel month days).1
        (findMonth year fuel month days).2).isReal = true ∧
      daysBeforeMonth year (findMonth year fuel month days).1 +
          ((findMonth year fuel month days).2 - 1) = daysBeforeMonth year month + days := by
  have hnext := daysBeforeMonth_succ year hmonth
  induction fuel generalizing month days with
  | zero =>
    obtain rfl : month = 12 := by omega
    rw [← daysBeforeMonth_thirteen, hnext] at hdays
    have hday : days + 1 ≤ daysInMonth year 12 := Nat.lt_of_add_lt_add_left hdays
    refine ⟨?_, rfl⟩
    unfold findMonth
    simp only [Date.isReal, Bool.and_eq_true, decide_eq_true_eq]
    omega
  | succ fuel ih =>
    unfold findMonth
    split
    · next hday =>
      refine ⟨?_, rfl⟩
      simp only [Date.isReal, Bool.and_eq_true, decide_eq_true_eq]
      omega
    · next hday =>
      have hrest : daysBeforeMonth year (month + 1) + (days - daysInMonth year month) =
          daysBeforeMonth year month + days := by omega
      rw [← hrest]
      exact ih (month + 1) _ (by omega) (by omega) (by omega)
        (daysBeforeMonth_succ year (by omega))

/-! ### Dates -/

theorem dateOfYear_spec {n days : Nat} (h : days < daysInYear (1970 + n)) :
    (Date.mk (1970 + n) (findMonth (1970 + n) 11 1 days).1
        (findMonth (1970 + n) 11 1 days).2).isReal = true ∧
      (Date.mk (1970 + n) (findMonth (1970 + n) 11 1 days).1
        (findMonth (1970 + n) 11 1 days).2).toDays = daysOfYears n + days := by
  have hstart : daysBeforeMonth (1970 + n) 1 = 0 := rfl
  obtain ⟨hreal, hcount⟩ := findMonth_spec (1970 + n) 11 1 days (by omega) (by omega) (by omega)
  refine ⟨hreal, ?_⟩
  simp only [Date.toDays, Nat.add_sub_cancel_left, Nat.add_assoc, hcount, hstart, Nat.zero_add]

/-- The search through the years from one on ends in the wanted day. -/
theorem findYear_spec (fuel n days : Nat) (hfuel : days ≤ fuel) :
    (findYear fuel (1970 + n) days).isReal = true ∧
      (findYear fuel (1970 + n) days).toDays = daysOfYears n + days ∧
      1970 + n ≤ (findYear fuel (1970 + n) days).year := by
  have hpos := daysInYear_pos (1970 + n)
  induction fuel generalizing n days with
  | zero =>
    obtain ⟨hreal, hcount⟩ := dateOfYear_spec (show days < daysInYear (1970 + n) by omega)
    exact ⟨hreal, hcount, Nat.le_refl _⟩
  | succ fuel ih =>
    unfold findYear
    split
    · next hday =>
      obtain ⟨hreal, hcount⟩ := dateOfYear_spec hday
      exact ⟨hreal, hcount, Nat.le_refl _⟩
    · next hday =>
      obtain ⟨hreal, hcount, hyear⟩ := ih (n + 1) (days - daysInYear (1970 + n)) (by omega)
        (daysInYear_pos _)
      refine ⟨hreal, hcount.trans ?_, Nat.le_of_succ_le hyear⟩
      simp only [daysOfYears]
      omega

/-- The date of a day exists, is not before 1970, and is that many days after 1970-01-01. -/
theorem Date.ofDays_spec (days : Nat) :
    (Date.ofDays days).isReal = true ∧ (Date.ofDays days).toDays = days ∧
      1970 ≤ (Date.ofDays days).year := by
  obtain ⟨hreal, hcount, hyear⟩ := findYear_spec days 0 days (Nat.le_refl days)
  exact ⟨hreal, hcount.trans (Nat.zero_add days), hyear⟩

/-- A date of the years from 1970 on before a year has fewer days than the years up to it. -/
theorem Date.ofDays_year_lt {days n : Nat} (h : days < daysOfYears n) :
    (Date.ofDays days).year < 1970 + n := by
  obtain ⟨-, hcount, hyear⟩ := Date.ofDays_spec days
  apply Nat.lt_of_not_le
  intro hle
  have hyears := daysOfYears_le (show n ≤ (Date.ofDays days).year - 1970 by omega)
  have hstart : daysOfYears ((Date.ofDays days).year - 1970) ≤ (Date.ofDays days).toDays := by
    simp only [Date.toDays]
    omega
  omega

/-! ### Different dates -/

def Date.dayOfYear (d : Date) : Nat := daysBeforeMonth d.year d.month + (d.day - 1)

theorem Date.dayOfYear_lt {d : Date} (h : d.isReal = true) :
    d.dayOfYear < daysBeforeMonth d.year (d.month + 1) ∧ d.dayOfYear < daysInYear d.year := by
  simp only [isReal, Bool.and_eq_true, decide_eq_true_eq] at h
  have hsucc := daysBeforeMonth_succ d.year h.1.1.1
  have hlast := daysBeforeMonth_le d.year (show 1 ≤ d.month + 1 by omega)
    (show d.month + 1 ≤ 13 by omega)
  rw [daysBeforeMonth_thirteen] at hlast
  unfold dayOfYear
  omega

theorem Date.toDays_eq {d : Date} {n : Nat} (hyear : d.year = 1970 + n) :
    d.toDays = daysOfYears n + d.dayOfYear := by
  simp only [toDays, dayOfYear, hyear, Nat.add_sub_cancel_left, Nat.add_assoc]

theorem Date.toDays_lt_of_year_lt {c d : Date} {m n : Nat} (hc : c.isReal = true)
    (hm : c.year = 1970 + m) (hn : d.year = 1970 + n) (h : m < n) : c.toDays < d.toDays := by
  have hday := (dayOfYear_lt hc).2
  have hyears := daysOfYears_le (Nat.succ_le_of_lt h)
  rw [toDays_eq hm, toDays_eq hn]
  rw [Nat.succ_eq_add_one, daysOfYears_succ hm] at hyears
  omega

theorem Date.dayOfYear_lt_of_month_lt {c d : Date} (hc : c.isReal = true)
    (hyear : c.year = d.year) (h : c.month < d.month) : c.dayOfYear < d.dayOfYear := by
  have hday := (dayOfYear_lt hc).1
  have hmonths := daysBeforeMonth_le c.year (show 1 ≤ c.month + 1 by omega)
    (Nat.succ_le_of_lt h)
  have hd : daysBeforeMonth c.year d.month ≤ d.dayOfYear := by
    rw [hyear]
    exact Nat.le_add_right _ _
  omega

/-- Two dates that exist, neither before 1970, are apart if they are different. -/
theorem Date.eq_of_toDays_eq {c d : Date} (hc : c.isReal = true) (hd : d.isReal = true)
    (hfirst : 1970 ≤ c.year) (hsecond : 1970 ≤ d.year) (h : c.toDays = d.toDays) : c = d := by
  obtain ⟨m, hm⟩ := Nat.exists_eq_add_of_le hfirst
  obtain ⟨n, hn⟩ := Nat.exists_eq_add_of_le hsecond
  have hyear : c.year = d.year := by
    rcases Nat.lt_trichotomy m n with hlt | rfl | hlt
    · exact absurd h (Nat.ne_of_lt (toDays_lt_of_year_lt hc hm hn hlt))
    · rw [hm, hn]
    · exact absurd h.symm (Nat.ne_of_lt (toDays_lt_of_year_lt hd hn hm hlt))
  have hday : c.dayOfYear = d.dayOfYear := by
    obtain rfl : m = n := by omega
    rw [toDays_eq hm, toDays_eq hn] at h
    omega
  have hmonth : c.month = d.month := by
    rcases Nat.lt_trichotomy c.month d.month with hlt | heq | hlt
    · exact absurd hday (Nat.ne_of_lt (dayOfYear_lt_of_month_lt hc hyear hlt))
    · exact heq
    · exact absurd hday.symm (Nat.ne_of_lt (dayOfYear_lt_of_month_lt hd hyear.symm hlt))
  obtain ⟨y, m, a⟩ := c
  obtain ⟨_, _, b⟩ := d
  obtain rfl : y = _ := hyear
  obtain rfl : m = _ := hmonth
  simp only [isReal, Bool.and_eq_true, decide_eq_true_eq] at hc hd
  simp only [dayOfYear] at hday
  obtain rfl : a = b := by omega
  rfl

/-! ### The last year -/

/-- No instant up to the last one of the year 9999 is later than that year. -/
theorem Instant.ofSeconds_year_lt {seconds : Nat} (h : seconds ≤ lastSecond) :
    (ofSeconds seconds).date.year < 10000 := by
  have hyears := daysOfYears_eq (show 9999 = 1969 + 8030 by rfl)
  have hdays : seconds / 86400 < daysOfYears 8030 := by
    simp only [lastSecond] at h
    omega
  exact Date.ofDays_year_lt hdays

end DeviceGateway.Calendar
