import DeviceGateway.Certificate.Timestamp
import DeviceGateway.Proofs.Der.Written

/-!
# Written times are read

A time of a year with at most four digits is written in digits that the reader takes, in the short
form as well as in the long one. The short form leaves out the century, which changes no leap year.
-/

namespace DeviceGateway

namespace Calendar

theorem daysInMonth_le (year month : Nat) : daysInMonth year month ≤ 31 := by
  unfold daysInMonth
  repeat' split
  all_goals omega

/-- Whether an instant can be written: it exists, and its year has at most four digits. -/
structure Instant.IsWritable (i : Instant) : Prop where
  real : i.isReal = true
  year : i.date.year < 10000

end Calendar

namespace Certificate

open Calendar (Date Instant isLeap daysInMonth)

/-! ### Digits -/

theorem digitOctet_toNat (d : Nat) : (UInt8.ofNat (48 + d % 10)).toNat = 48 + d % 10 :=
  Der.toNat_ofNat_of_lt (by omega)

theorem twoDigits?_twoDigits {n : Nat} (hn : n < 100) :
    twoDigits? (UInt8.ofNat (48 + n / 10 % 10)) (UInt8.ofNat (48 + n % 10)) = some n := by
  have htens : 48 ≤ 48 + n / 10 % 10 ∧ 48 + n / 10 % 10 ≤ 57 := by omega
  have hones : 48 ≤ 48 + n % 10 ∧ 48 + n % 10 ≤ 57 := by omega
  simp only [twoDigits?, digitOctet_toNat, if_pos htens, if_pos hones, Bind.bind, Option.bind]
  congr 1
  omega

theorem readPairs_twoDigits (vs : List Nat) (hvs : ∀ v ∈ vs, v < 100) (rest : Bytes) :
    readPairs vs.length (vs.flatMap twoDigits ++ rest) = some (vs, rest) := by
  induction vs with
  | nil => rfl
  | cons v vs ih =>
    have hv := hvs v (List.mem_cons_self ..)
    have hrest := ih fun u hu => hvs u (List.mem_cons_of_mem v hu)
    simp only [List.flatMap_cons, List.length_cons, List.append_assoc]
    simp only [twoDigits] at hrest ⊢
    simp only [List.cons_append, List.nil_append, readPairs, twoDigits?_twoDigits hv, hrest,
      Bind.bind, Option.bind]

theorem isVisible_digits (vs : List Nat) :
    isVisible (vs.flatMap twoDigits ++ [0x5A]) = true := by
  have hdigit : ∀ d,
      (0x20 ≤ UInt8.ofNat (48 + d % 10) && UInt8.ofNat (48 + d % 10) ≤ 0x7F) = true := by
    intro d
    simp only [Bool.and_eq_true, decide_eq_true_eq, UInt8.le_iff_toNat_le, digitOctet_toNat]
    change 32 ≤ _ ∧ _ ≤ 127
    omega
  have hletter : isVisible [0x5A] = true := rfl
  unfold isVisible at hletter ⊢
  rw [List.all_append, hletter, Bool.and_true, List.all_flatMap, List.all_eq_true]
  intro v _
  simp only [twoDigits, List.all_cons, hdigit, List.all_nil, Bool.and_self]

theorem readSeconds_twoDigits {n : Nat} (hn : n < 100) (rest : Bytes) :
    readSeconds (twoDigits n ++ rest) = some (n, rest) := by
  simp only [twoDigits, List.cons_append, List.nil_append, readSeconds, twoDigits?_twoDigits hn,
    Option.map_some]

/-! ### Times -/

variable {i : Instant}

/-- The parts of an instant that exists have two digits, the year apart. -/
theorem parts_lt (h : i.isReal = true) :
    i.date.month < 100 ∧ i.date.day < 100 ∧ i.hour < 100 ∧ i.minute < 100 ∧ i.second < 100 := by
  have hdays := Calendar.daysInMonth_le i.date.year i.date.month
  simp only [Instant.isReal, Date.isReal, Bool.and_eq_true, decide_eq_true_eq] at h
  omega

theorem daysInMonth_shortYear {year : Nat} (h : isShortYear year = true) (month : Nat) :
    daysInMonth (year % 100) month = daysInMonth year month := by
  have hleap : ∀ y < 100, isLeap ((1950 + y) % 100) = isLeap (1950 + y) := by decide
  simp only [isShortYear, Bool.and_eq_true, decide_eq_true_eq] at h
  have hyear := hleap (year - 1950) (by omega)
  rw [show 1950 + (year - 1950) = year by omega] at hyear
  simp only [daysInMonth, hyear]

theorem isShortTime_digits (h : i.isReal = true) (hyear : isShortYear i.date.year = true) :
    isShortTime (twoDigits (i.date.year % 100) ++ timeTail i) = true := by
  obtain ⟨hmonth, hday, hhour, hminute, hsecond⟩ := parts_lt h
  have hvisible := isVisible_digits
    [i.date.year % 100, i.date.month, i.date.day, i.hour, i.minute, i.second]
  have hpairs := readPairs_twoDigits [i.date.year % 100, i.date.month, i.date.day, i.hour, i.minute]
    (by simp [hmonth, hday, hhour, hminute, Nat.mod_lt]) (twoDigits i.second ++ [0x5A])
  have hinstant : isInstant (i.date.year % 100) i.date.month i.date.day i.hour i.minute i.second =
      true := by
    simpa only [isInstant, Instant.isReal, Date.isReal, daysInMonth_shortYear hyear] using h
  simp only [List.flatMap_cons, List.flatMap_nil, List.append_nil, List.append_assoc,
    List.length_cons, List.length_nil, Nat.zero_add, Nat.reduceAdd] at hvisible hpairs
  simp only [isShortTime, timeTail, List.append_assoc, hvisible, hpairs,
    readSeconds_twoDigits hsecond, hinstant, isZone, Bool.and_self]

theorem isLongTime_digits (h : i.IsWritable) :
    isLongTime (twoDigits (i.date.year / 100) ++ twoDigits (i.date.year % 100) ++ timeTail i) =
      true := by
  obtain ⟨hmonth, hday, hhour, hminute, hsecond⟩ := parts_lt h.real
  have hcentury : i.date.year / 100 < 100 := Nat.div_lt_of_lt_mul h.year
  have hvisible := isVisible_digits [i.date.year / 100, i.date.year % 100, i.date.month, i.date.day,
    i.hour, i.minute, i.second]
  have hpairs := readPairs_twoDigits
    [i.date.year / 100, i.date.year % 100, i.date.month, i.date.day, i.hour, i.minute]
    (by simp [hcentury, hmonth, hday, hhour, hminute, Nat.mod_lt]) (twoDigits i.second ++ [0x5A])
  have hinstant : isInstant (i.date.year / 100 * 100 + i.date.year % 100) i.date.month i.date.day
      i.hour i.minute i.second = true := by
    rw [Nat.div_add_mod']
    exact h.real
  simp only [List.flatMap_cons, List.flatMap_nil, List.append_nil, List.append_assoc,
    List.length_cons, List.length_nil, Nat.zero_add, Nat.reduceAdd] at hvisible hpairs
  simp only [isLongTime, timeTail, List.append_assoc, hvisible, hpairs,
    readSeconds_twoDigits hsecond, hinstant, isFractionZ, Bool.and_self]

theorem readTime_encodeTime (h : i.IsWritable) (rest : Bytes) :
    readTime (encodeTime i ++ rest) = some rest := by
  unfold encodeTime
  split
  · next hyear =>
    have hfits : Der.Fits (twoDigits (i.date.year % 100) ++ timeTail i) := by
      simp [twoDigits, timeTail, Der.Fits]
    simp only [readTime, Der.readElement_writePrimitive (show Der.utcTime < 4294967296 by decide)
      hfits, isShortTime_digits h.real hyear, Bind.bind, Option.bind, and_self, if_true]
  · have hfits : Der.Fits (twoDigits (i.date.year / 100) ++ twoDigits (i.date.year % 100) ++
        timeTail i) := by
      simp [twoDigits, timeTail, Der.Fits]
    have htag : Der.generalizedTime ≠ Der.utcTime := by decide
    simp only [readTime, Der.readElement_writePrimitive
      (show Der.generalizedTime < 4294967296 by decide) hfits, isLongTime_digits h, htag,
      Bind.bind, Option.bind, false_and, if_false, and_self, if_true]

theorem readValidity_encodeValidity {notBefore notAfter : Instant} (hbefore : notBefore.IsWritable)
    (hafter : notAfter.IsWritable) (hfits : Der.Fits (encodeValidity notBefore notAfter))
    (rest : Bytes) : readValidity (encodeValidity notBefore notAfter ++ rest) = some rest := by
  have hcontent : Der.Fits (encodeTime notBefore ++ encodeTime notAfter) := hfits.content
  have hlast := readTime_encodeTime hafter []
  rw [List.append_nil] at hlast
  simp only [readValidity, encodeValidity, Der.readTagged_writeSequence hcontent,
    readTime_encodeTime hbefore, hlast, Bind.bind, Option.bind]

end Certificate
end DeviceGateway
