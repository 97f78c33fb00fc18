import DeviceGateway.Issuance.Template
import DeviceGateway.Proofs.Results
import DeviceGateway.Proofs.Time.Calendar

/-!
# How long a certificate lives

The end of a certificate is counted in words of 64 bits, with sums that stop at the largest word.
Up to the year 9999 none of them stops, and the midnight before the counted instant is the only one
that the year, the month and the day of the certificate can stand for.
-/

namespace DeviceGateway

open Calendar (Date Instant)

namespace Calendar.Instant

/-! ### Counting in words -/

theorem toNat_secondsOfDays (days : UInt32) : (secondsOfDays days).toNat = 86400 * days.toNat := by
  have hdays := days.toNat_lt
  have hfactor : (86400 : UInt64).toNat = 86400 := rfl
  rw [secondsOfDays, UInt64.toNat_mul, UInt32.toNat_toUInt64, hfactor, Nat.mul_comm]
  exact Nat.mod_eq_of_lt (by omega)

/-- A sum that stops is the exact one cut off at the largest word. -/
theorem toNat_addWords (a b : UInt64) :
    (addWords a b).toNat = min (a.toNat + b.toNat) 18446744073709551615 := by
  have ha := a.toNat_lt
  have hb := b.toNat_lt
  have hsum := UInt64.toNat_add a b
  unfold addWords
  split
  · next h =>
    -- the sum came out smaller than a summand, so it went around
    rw [UInt64.lt_iff_toNat_lt] at h
    change 18446744073709551615 = _
    omega
  · next h =>
    rw [UInt64.lt_iff_toNat_lt] at h
    omega

theorem toInt_signedWord (w : UInt64) : (signedWord w).toInt = min w.toNat 9223372036854775807 := by
  unfold signedWord
  split
  · next h =>
    have hbits : 2 * w.toBitVec.toNat < 2 ^ 64 := by
      rw [UInt64.toNat_toBitVec]
      omega
    have hsame : w.toInt64.toInt = w.toNat := BitVec.toInt_eq_toNat_of_lt hbits
    omega
  · next h =>
    change (9223372036854775807 : Int) = _
    omega

theorem toInt_secondsAfter (now : UInt64) (days : UInt32) :
    (secondsAfter now days).toInt =
      min (now.toNat + 86400 * days.toNat) 9223372036854775807 := by
  rw [secondsAfter, toInt_signedWord, toNat_addWords, toNat_secondsOfDays]
  omega

/-! ### The last year -/

def last : Instant := ⟨⟨9999, 12, 31⟩, 23, 59, 59⟩

theorem toSeconds_last : last.toSeconds = lastSecond := by
  have hyears := daysOfYears_eq (show 9998 = 1969 + 8029 by rfl)
  have hmonths : daysBeforeMonth 9999 12 = 334 := by decide
  simp only [toSeconds, last, Date.toDays, Nat.reduceSub, hmonths, lastSecond]
  -- nothing should add up the years one by one
  generalize daysOfYears 8029 = years at hyears ⊢
  omega

/-- Up to the year 9999 no count stops, whatever the number of days. -/
theorem secondsAfter_exact {now : UInt64} (hnow : now.toNat ≤ last.toSeconds) (days : UInt32) :
    (secondsAfter now days).toInt = (now.toNat + 86400 * days.toNat : Nat) := by
  have hdays := days.toNat_lt
  have hcount := toInt_secondsAfter now days
  rw [toSeconds_last, lastSecond] at hnow
  omega

/-! ### Midnight -/

theorem toSeconds_midnight (d : Date) : (midnight d).toSeconds = 86400 * d.toDays := by
  simp only [toSeconds, midnight]
  omega

/-- The date of an instant starts on the last midnight before it. -/
theorem toSeconds_midnight_ofSeconds (seconds : Nat) :
    (midnight (ofSeconds seconds).date).toSeconds = 86400 * (seconds / 86400) := by
  rw [toSeconds_midnight, ofSeconds, (Date.ofDays_spec _).2.1]

theorem ofSeconds_midnight (days : Nat) :
    ofSeconds (86400 * days) = midnight (Date.ofDays days) := by
  rw [ofSeconds, Nat.mul_mod_right, Nat.mul_div_cancel_left days (by decide)]
  rfl

theorem eq_of_midnight_eq {c d : Date} (hc : c.isReal = true) (hd : d.isReal = true)
    (hfirst : 1970 ≤ c.year) (hsecond : 1970 ≤ d.year)
    (h : (midnight c).toSeconds = (midnight d).toSeconds) : c = d := by
  rw [toSeconds_midnight, toSeconds_midnight] at h
  exact Date.eq_of_toDays_eq hc hd hfirst hsecond (by omega)

end Calendar.Instant

namespace Template

/-! ### Days of templates -/

/-- Whether a template is made now for a number of days, whoever is to have the certificate. -/
inductive MadeFor (now days : Nat) (t : Template) : Prop where
  | authority (name : String) (h : Template.authority now name days = .ok t)
  | server (name : String) (dnsNames : List String)
      (h : Template.server now name dnsNames days = .ok t)
  | device (deviceId : String) (moduleId hubName : Option String)
      (h : Template.device now deviceId moduleId hubName days = .ok t)

theorem MadeFor.lastDay_eq {now days : Nat} {t : Template} (h : MadeFor now days t) :
    lastDay now days = .ok t.notAfter := by
  cases h with
  | authority name h =>
    obtain ⟨date, hdate, hrest⟩ := bind_eq_ok h
    cases hrest
    exact hdate
  | server name dnsNames h =>
    obtain ⟨date, hdate, hrest⟩ := bind_eq_ok h
    split at hrest
    · cases hrest
    · cases hrest
      exact hdate
  | device deviceId moduleId hubName h =>
    obtain ⟨date, hdate, hrest⟩ := bind_eq_ok h
    cases hrest
    exact hdate

theorem lastDay_eq (now : UInt64) (days : UInt32) :
    lastDay now.toNat days.toNat =
      if Instant.last.toSeconds < now.toNat + 86400 * days.toNat then
        .error (.certificate "Date calculation error: timestamp was not in range")
      else .ok (Instant.ofSeconds (now.toNat + 86400 * days.toNat)).date := by
  have hcount := Instant.toInt_secondsAfter now days
  simp only [lastDay, UInt64.ofNat_toNat, UInt32.ofNat_toNat, Int64.toNatClampNeg,
    Instant.toSeconds_last]
  generalize (Instant.secondsAfter now days).toInt = count at hcount
  split
  · next h => rw [if_pos (by simp only [Instant.lastSecond] at h ⊢; omega)]
  · next h =>
    have hexact : count.toNat = now.toNat + 86400 * days.toNat := by
      simp only [Instant.lastSecond] at h
      omega
    rw [hexact] at h ⊢
    rw [if_neg h]

/-- For every instant before the year 10000 and every number of days of 32 bits, the seconds are
counted without a product or a sum that goes beyond its word. If the instant so counted lies beyond
the year 9999, there is no last day. Otherwise there is one: it starts on the last midnight before
that instant, no other date starts there, and reading its year, month and day back gives the same
midnight. Every certificate made then for so many days ends on that midnight, so it lives longer
than one day less, and no longer than it was made for. -/
theorem lastDay_exact (now : UInt64) (days : UInt32)
    (hnow : now.toNat ≤ Instant.last.toSeconds) :
    let seconds := now.toNat + 86400 * days.toNat
    (Instant.secondsOfDays days).toNat = 86400 * days.toNat ∧
    (Instant.addWords now (Instant.secondsOfDays days)).toNat = seconds ∧
    (Instant.secondsAfter now days).toInt = seconds ∧
    (Instant.last.toSeconds < seconds → lastDay now.toNat days.toNat =
      .error (.certificate "Date calculation error: timestamp was not in range")) ∧
    (seconds ≤ Instant.last.toSeconds → ∃ date, lastDay now.toNat days.toNat = .ok date ∧
      date.isReal = true ∧ 1970 ≤ date.year ∧
      let ending := (Instant.midnight date).toSeconds
      ending % 86400 = 0 ∧ ending ≤ seconds ∧ seconds < ending + 86400 ∧
      Instant.ofSeconds ending = Instant.midnight date ∧
      (∀ d : Date, d.isReal = true → 1970 ≤ d.year →
        (Instant.midnight d).toSeconds = ending → d = date) ∧
      (∀ t, MadeFor now.toNat days.toNat t → ∀ key issuer issuerKey,
        (t.certify key issuer issuerKey).fields.notAfter = Instant.midnight date) ∧
      (1 ≤ days.toNat → ending ≤ now.toNat + 86400 * days.toNat ∧
        now.toNat + 86400 * (days.toNat - 1) < ending)) := by
  intro seconds
  have hproduct := Instant.toNat_secondsOfDays days
  have hcount := Instant.secondsAfter_exact hnow days
  have hresult := lastDay_eq now days
  refine ⟨hproduct, ?_, hcount, ?_, ?_⟩
  · have hdays := days.toNat_lt
    rw [Instant.toSeconds_last, Instant.lastSecond] at hnow
    rw [Instant.toNat_addWords, hproduct]
    omega
  · intro hpast
    rw [hresult, if_pos hpast]
  · intro hwithin
    rw [if_neg (Nat.not_lt.mpr hwithin)] at hresult
    obtain ⟨hreal, -, hyear⟩ := Date.ofDays_spec (seconds / 86400)
    have hmidnight := Instant.toSeconds_midnight_ofSeconds seconds
    refine ⟨_, hresult, hreal, hyear, ?_⟩
    intro ending
    have hending : ending = 86400 * (seconds / 86400) := hmidnight
    refine ⟨by omega, by omega, by omega, ?_, ?_, ?_, ?_⟩
    · rw [hending, Instant.ofSeconds_midnight]
      rfl
    · intro d hd hlater hsame
      exact Instant.eq_of_midnight_eq hd hreal hlater hyear hsame
    · intro t hmade key issuer issuerKey
      have hday : Except.ok _ = Except.ok t.notAfter := hresult.symm.trans hmade.lastDay_eq
      exact congrArg Instant.midnight (Except.ok.inj hday).symm
    · intro hdays
      omega

/-- One day after noon of the last day of February in the year 2100, which has no leap day. -/
theorem lastDay_after_february :
    (4107499200 : UInt64).toNat ≤ Instant.last.toSeconds ∧
      lastDay 4107499200 1 = .ok ⟨2100, 3, 1⟩ := by
  have hnow : (4107499200 : UInt64).toNat ≤ Instant.last.toSeconds := by
    rw [Instant.toSeconds_last]
    decide
  have hmarch : (Instant.midnight ⟨2100, 3, 1⟩).toSeconds = 4107542400 := by decide +kernel
  obtain ⟨-, -, -, -, hdate⟩ := lastDay_exact 4107499200 1 hnow
  obtain ⟨date, hlast, -, -, haligned, hstart, hstop, -, hsole, -⟩ :=
    hdate (by rw [Instant.toSeconds_last]; decide)
  have hnumbers : (4107499200 : UInt64).toNat = 4107499200 ∧ (1 : UInt32).toNat = 1 := ⟨rfl, rfl⟩
  rw [hnumbers.1, hnumbers.2] at hlast hstart hstop
  refine ⟨hnow, ?_⟩
  rw [hlast, hsole ⟨2100, 3, 1⟩ (by decide) (by decide) (by omega)]

end Template
end DeviceGateway
