import DeviceGateway.Config.Document
import DeviceGateway.Proofs.Config.Reload

/-!
# The grammar of durations

A duration is spelled as a count of ASCII digits, maybe after a plus sign, with the suffix of a unit
directly after it, and blanks around the whole. A value is read as a duration exactly if it is a text
of such a spelling whose count is in range, and no text has two spellings. What is written of a
duration is one of them, and it loses less than a millisecond.
-/

namespace DeviceGateway

namespace Text

/-! ### Numerals as digits -/

theorem digitValue?_of_isDigit {c : Char} (h : c.isDigit = true) :
    digitValue? 10 c = some (c.toNat - '0'.toNat) := by
  simp only [Char.isDigit, Bool.and_eq_true, decide_eq_true_eq] at h
  have hrange : '0' ≤ c ∧ c ≤ '9' := h
  have hhi : c.toNat ≤ 57 := UInt32.le_iff_toNat_le.mp h.2
  have hzero : '0'.toNat = 48 := rfl
  have hlt : c.toNat - 48 < 10 := by omega
  simp only [digitValue?, if_pos hrange, hzero, Option.filter_some, decide_eq_true hlt, if_true]

theorem isDigit_of_digitValue? {c : Char} {v : Nat} (h : digitValue? 10 c = some v) :
    c.isDigit = true := by
  simp only [Char.isDigit, Bool.and_eq_true, decide_eq_true_eq]
  simp only [digitValue?, Option.filter_eq_some_iff, decide_eq_true_eq] at h
  obtain ⟨hvalue, hv⟩ := h
  split at hvalue
  · next hrange => exact hrange
  · split at hvalue
    · next hlower =>
      have hlo : 97 ≤ c.toNat := UInt32.le_iff_toNat_le.mp hlower.1
      cases hvalue
      omega
    · split at hvalue
      · next hupper =>
        have hlo : 65 ≤ c.toNat := UInt32.le_iff_toNat_le.mp hupper.1
        cases hvalue
        omega
      · cases hvalue

theorem le_ofDigitChars (cs : List Char) (acc : Nat) : acc ≤ Nat.ofDigitChars 10 cs acc := by
  induction cs generalizing acc with
  | nil => exact Nat.le_refl acc
  | cons c cs ih =>
    have hstep := ih (10 * acc + (c.toNat - '0'.toNat))
    rw [Nat.ofDigitChars_cons]
    omega

/-- Digits are read as their decimal value, if it stays below the limit. -/
theorem readDigits_eq_ok_iff {limit acc n : Nat} {cs : List Char} (hacc : acc < limit) :
    readDigits 10 limit acc cs = .ok n ↔
      (∀ c ∈ cs, c.isDigit = true) ∧ n = Nat.ofDigitChars 10 cs acc ∧ n < limit := by
  induction cs generalizing acc with
  | nil =>
    simp only [readDigits, Except.ok.injEq, List.not_mem_nil, false_implies, implies_true,
      true_and, Nat.ofDigitChars_nil]
    omega
  | cons c cs ih =>
    rw [List.forall_mem_cons, Nat.ofDigitChars_cons]
    cases hdigit : c.isDigit with
    | false =>
      have hnone : digitValue? 10 c = none := by
        cases hvalue : digitValue? 10 c with
        | none => rfl
        | some v =>
          rw [isDigit_of_digitValue? hvalue] at hdigit
          cases hdigit
      simp [readDigits, hnone]
    | true =>
      have hcomm : acc * 10 = 10 * acc := Nat.mul_comm acc 10
      simp only [readDigits, digitValue?_of_isDigit hdigit, hcomm, true_and]
      split
      · next hlt => exact ih hlt
      · next hge =>
        have hle := le_ofDigitChars cs (10 * acc + (c.toNat - '0'.toNat))
        simp only [reduceCtorEq, false_iff, not_and]
        omega

/-- What may stand before the digits of a numeral. -/
def signChars : Bool → List Char
  | true => ['+']
  | false => []

theorem ne_of_isDigit {c d : Char} (hc : c.isDigit = true) (hd : d.isDigit = false) : c ≠ d := by
  rintro rfl
  rw [hc] at hd
  cases hd

/-- The numerals below a limit: at least one digit, maybe after a plus sign. -/
theorem readNat_eq_ok_iff {limit n : Nat} {cs : List Char} (hlimit : 0 < limit) :
    readNat 10 limit cs = .ok n ↔ ∃ plus digits, cs = signChars plus ++ digits ∧ digits ≠ [] ∧
      (∀ c ∈ digits, c.isDigit = true) ∧ n = Nat.ofDigitChars 10 digits 0 ∧ n < limit := by
  constructor
  · intro h
    unfold readNat at h
    split at h
    · cases h
    · cases h
    · cases h
    · next _ rest hrest =>
      have hne : rest ≠ [] := fun hnil => hrest (by rw [hnil])
      exact ⟨true, rest, rfl, hne, (readDigits_eq_ok_iff hlimit).mp h⟩
    · next hne _ _ _ => exact ⟨false, cs, rfl, hne, (readDigits_eq_ok_iff hlimit).mp h⟩
  · rintro ⟨plus, digits, rfl, hne, hdigits, hn⟩
    have hread := (readDigits_eq_ok_iff hlimit).mpr ⟨hdigits, hn⟩
    obtain ⟨c, rest, rfl⟩ := List.exists_cons_of_ne_nil hne
    have hc := hdigits c (List.mem_cons_self ..)
    have hplus : c ≠ '+' := ne_of_isDigit hc rfl
    have hminus : c ≠ '-' := ne_of_isDigit hc rfl
    cases plus with
    | true => simpa [signChars, readNat] using hread
    | false => simpa [signChars, readNat, hplus, hminus] using hread

end Text

namespace Duration

/-! ### Units -/

/-- What a count counts; without a suffix it counts seconds. -/
inductive TimeUnit where
  | unmarked
  | seconds
  | minutes
  | millis
  deriving DecidableEq, Repr

namespace TimeUnit

/-- What stands after a count of the unit. -/
def suffix : TimeUnit → List Char
  | unmarked => []
  | seconds => ['s']
  | minutes => ['m']
  | millis => ['m', 's']

theorem suffix_injective {u v : TimeUnit} (h : u.suffix = v.suffix) : u = v := by
  cases u <;> cases v <;> first | rfl | cases h

def nanos : TimeUnit → Nat
  | unmarked => 1000000000
  | seconds => 1000000000
  | minutes => 60000000000
  | millis => 1000000

/-- The counts that can be read: those of minutes are bounded by their seconds too. -/
def Admits (u : TimeUnit) (n : Nat) : Prop :=
  n < secondsLimit ∧ (u = minutes → 60 * n < secondsLimit)

def make : TimeUnit → Nat → Option Duration
  | unmarked => ofSeconds?
  | seconds => ofSeconds?
  | minutes => fun n => ofSeconds? (60 * n)
  | millis => ofMillis?

end TimeUnit

theorem totalNanos_injective {d e : Duration} (h : d.totalNanos = e.totalNanos) : d = e := by
  have hd := d.nanos_lt
  have he := e.nanos_lt
  unfold totalNanos at h
  exact ext_parts (by omega) (by omega)

theorem ofSeconds?_eq_some_iff {n : Nat} {d : Duration} :
    ofSeconds? n = some d ↔ d.totalNanos = n * 1000000000 := by
  constructor
  · intro h
    unfold ofSeconds? at h
    split at h
    · cases h
      exact Nat.add_zero _
    · cases h
  · intro h
    have hnanos := d.nanos_lt
    unfold totalNanos at h
    have hseconds : d.seconds = n := by omega
    rw [← hseconds]
    exact ofSeconds?_seconds d (by omega)

theorem millis_of_nanos {s p n : Nat} (h : s * 1000000000 + p * 1000000 = n * 1000000) :
    s * 1000 + p = n := by
  have hmul : (s * 1000 + p) * 1000000 = n * 1000000 := by
    rw [Nat.add_mul, Nat.mul_assoc]
    exact h
  exact Nat.eq_of_mul_eq_mul_right (by decide) hmul

theorem ofMillis?_eq_some_iff {n : Nat} {d : Duration} :
    ofMillis? n = some d ↔ d.totalNanos = n * 1000000 := by
  constructor
  · intro h
    unfold ofMillis? at h
    split at h
    · cases h
      unfold totalNanos
      dsimp only
      omega
    · cases h
  · intro h
    unfold totalNanos at h
    have hwhole : d.millisPart * 1000000 = d.nanos := by
      have hmod : d.nanos % 1000000 = 0 := by omega
      exact Nat.div_mul_cancel (Nat.dvd_of_mod_eq_zero hmod)
    rw [← hwhole] at h
    exact millis_of_nanos h ▸ ofMillis?_millis d hwhole

theorem TimeUnit.make_eq_some_iff {u : TimeUnit} {n : Nat} {d : Duration} :
    u.make n = some d ↔ d.totalNanos = n * u.nanos := by
  cases u with
  | unmarked => exact ofSeconds?_eq_some_iff
  | seconds => exact ofSeconds?_eq_some_iff
  | minutes =>
    have hminute : 60 * n * 1000000000 = n * 60000000000 := by omega
    rw [make, ofSeconds?_eq_some_iff, hminute, nanos]
  | millis => exact ofMillis?_eq_some_iff

theorem TimeUnit.exists_make {u : TimeUnit} {n : Nat} (h : u.Admits n) :
    ∃ d, u.make n = some d := by
  obtain ⟨hn, hminutes⟩ := h
  have hdiv : n / 1000 < secondsLimit := by omega
  cases u with
  | unmarked => exact ⟨_, dif_pos hn⟩
  | seconds => exact ⟨_, dif_pos hn⟩
  | minutes => exact ⟨_, dif_pos (hminutes rfl)⟩
  | millis => exact ⟨_, dif_pos hdiv⟩

theorem TimeUnit.admits_of_make {u : TimeUnit} {n : Nat} {d : Duration} (hn : n < secondsLimit)
    (h : u.make n = some d) : u.Admits n := by
  refine ⟨hn, ?_⟩
  rintro rfl
  have hseconds := d.seconds_lt
  have hnanos := d.nanos_lt
  have htotal := make_eq_some_iff.mp h
  simp only [totalNanos, TimeUnit.nanos] at htotal
  unfold secondsLimit
  omega

/-! ### Spellings -/

structure Spelling where
  plus : Bool
  digits : List Char
  unit : TimeUnit
  digits_ne_nil : digits ≠ []
  isDigit : ∀ c ∈ digits, c.isDigit = true

namespace Spelling

def numeral (w : Spelling) : List Char := Text.signChars w.plus ++ w.digits

/-- The characters, without blanks around them. -/
def chars (w : Spelling) : List Char := w.numeral ++ w.unit.suffix

def count (w : Spelling) : Nat := Nat.ofDigitChars 10 w.digits 0

/-- The spelling of a value: it is a text of it with blanks around. -/
def Spells (w : Spelling) (v : Json.Value) : Prop :=
  ∃ s, v = .str s ∧ (Text.trim s).toList = w.chars

def isUnitChar (c : Char) : Bool := c == 'm' || c == 's'

theorem isUnitChar_of_mem_numeral {w : Spelling} {c : Char} (h : c ∈ w.numeral) :
    isUnitChar c = false := by
  simp only [isUnitChar, Bool.or_eq_false_iff, beq_eq_false_iff_ne]
  unfold numeral at h
  rcases List.mem_append.mp h with hsign | hdigit
  · cases hplus : w.plus with
    | true =>
      rw [hplus] at hsign
      cases List.mem_singleton.mp hsign
      decide
    | false =>
      rw [hplus] at hsign
      cases hsign
  · have hc := w.isDigit c hdigit
    exact ⟨Text.ne_of_isDigit hc rfl, Text.ne_of_isDigit hc rfl⟩

theorem isUnitChar_of_mem_suffix {u : TimeUnit} {c : Char} (h : c ∈ u.suffix) :
    isUnitChar c = true := by
  have hall : u.suffix.all isUnitChar = true := by cases u <;> rfl
  exact List.all_eq_true.mp hall c h

theorem numeral_and_suffix (w : Spelling) :
    w.chars.takeWhile (fun c => !isUnitChar c) = w.numeral ∧
      w.chars.dropWhile (fun c => !isUnitChar c) = w.unit.suffix := by
  have hnumeral : ∀ c ∈ w.numeral, (!isUnitChar c) = true := fun c hc => by
    rw [isUnitChar_of_mem_numeral hc, Bool.not_false]
  unfold chars
  rw [List.takeWhile_append_of_pos hnumeral, List.dropWhile_append_of_pos hnumeral]
  cases hsuffix : w.unit.suffix with
  | nil => simp
  | cons c cs =>
    have hc := isUnitChar_of_mem_suffix (c := c) (by rw [hsuffix]; exact List.mem_cons_self ..)
    simp [hc]

theorem eq_of_numeral_eq {w x : Spelling} (h : w.numeral = x.numeral) :
    w.plus = x.plus ∧ w.digits = x.digits := by
  have hplus : ∀ (y : Spelling) cs, y.digits ≠ '+' :: cs := fun y cs hy =>
    Text.ne_of_isDigit (y.isDigit '+' (hy ▸ List.mem_cons_self ..)) rfl rfl
  unfold numeral Text.signChars at h
  cases hw : w.plus <;> cases hx : x.plus <;> simp only [hw, hx] at h
  · exact ⟨rfl, h⟩
  · exact absurd h (hplus w _)
  · exact absurd h.symm (hplus x _)
  · exact ⟨rfl, List.append_cancel_left h⟩

/-- A text has one spelling at most. -/
theorem chars_injective {w x : Spelling} (h : w.chars = x.chars) : w = x := by
  -- No character of a numeral is one of a suffix, so the text says where the suffix begins.
  obtain ⟨hwNumeral, hwSuffix⟩ := w.numeral_and_suffix
  obtain ⟨hxNumeral, hxSuffix⟩ := x.numeral_and_suffix
  rw [h] at hwNumeral hwSuffix
  obtain ⟨hplus, hdigits⟩ := eq_of_numeral_eq (hwNumeral.symm.trans hxNumeral)
  have hunit := TimeUnit.suffix_injective (hwSuffix.symm.trans hxSuffix)
  cases w
  cases x
  cases hplus
  cases hdigits
  cases hunit
  rfl

/-! ### Reading a spelling -/

/-- The endings leave the count and tell the unit. -/
theorem readTrimmed_chars (w : Spelling) :
    readTrimmed w.chars = readCount w.chars w.numeral w.unit.make := by
  have hm : 'm' ∉ w.numeral := fun h => by cases isUnitChar_of_mem_numeral h
  have hs : 's' ∉ w.numeral := fun h => by cases isUnitChar_of_mem_numeral h
  unfold readTrimmed chars
  generalize w.numeral = cs at hm hs
  have hms : ∀ {ds}, 'm' ∉ ds → stripEnd? ['m', 's'] ds = none :=
    stripEnd?_eq_none (List.mem_cons_self ..)
  have hsec : ∀ {ds}, 's' ∉ ds → stripEnd? ['s'] ds = none :=
    stripEnd?_eq_none (List.mem_cons_self ..)
  have hmin : ∀ {ds}, 'm' ∉ ds → stripEnd? ['m'] ds = none :=
    stripEnd?_eq_none (List.mem_cons_self ..)
  have hsm : stripEnd? ['m', 's'] (cs ++ ['m']) = none :=
    stripEnd?_eq_none (c := 's') (by decide) (by simpa using hs)
  cases w.unit with
  | unmarked => simp only [TimeUnit.suffix, List.append_nil, hms hm, hsec hs, hmin hm]; rfl
  | seconds =>
    have hne : 'm' ∉ cs ++ ['s'] := by simpa using hm
    simp only [TimeUnit.suffix, hms hne, stripEnd?_append]
    rfl
  | minutes =>
    have hne : 's' ∉ cs ++ ['m'] := by simpa using hs
    simp only [TimeUnit.suffix, hsm, hsec hne, stripEnd?_append]
    rfl
  | millis =>
    simp only [TimeUnit.suffix, stripEnd?_append]
    rfl

end Spelling

theorem stripEnd?_eq_some {ending cs rest : List Char} (h : stripEnd? ending cs = some rest) :
    cs = rest ++ ending := by
  unfold stripEnd? at h
  split at h
  · next hsuffix =>
    obtain ⟨before, rfl⟩ := List.isSuffixOf_iff_suffix.mp hsuffix
    cases h
    have hlength : (before ++ ending).length - ending.length = before.length := by simp
    rw [hlength, List.take_left']
    rfl
  · cases h

theorem exists_unit (cs : List Char) :
    ∃ (u : TimeUnit) (rest : List Char), cs = rest ++ u.suffix ∧
      readTrimmed cs = readCount cs rest u.make := by
  unfold readTrimmed
  split
  · next rest h => exact ⟨.millis, rest, stripEnd?_eq_some h, rfl⟩
  · split
    · next rest h => exact ⟨.seconds, rest, stripEnd?_eq_some h, rfl⟩
    · split
      · next rest h => exact ⟨.minutes, rest, stripEnd?_eq_some h, rfl⟩
      · exact ⟨.unmarked, cs, (List.append_nil cs).symm, rfl⟩

theorem readCount_eq_ok_iff {all cs : List Char} {make : Nat → Option Duration} {d : Duration} :
    readCount all cs make = .ok d ↔
      ∃ n, Text.readNat 10 secondsLimit cs = .ok n ∧ make n = some d := by
  unfold readCount
  cases Text.readNat 10 secondsLimit cs with
  | error f => simp
  | ok n => cases hmake : make n <;> simp [hmake]

/-- The trimmed texts that are read are the spellings with a count in range. -/
theorem readTrimmed_eq_ok_iff {cs : List Char} {d : Duration} :
    readTrimmed cs = .ok d ↔ ∃ w : Spelling, cs = w.chars ∧ w.unit.Admits w.count ∧
      d.totalNanos = w.count * w.unit.nanos := by
  have hlimit : 0 < secondsLimit := by decide
  constructor
  · intro h
    obtain ⟨u, rest, rfl, hread⟩ := exists_unit cs
    obtain ⟨n, hn, hmake⟩ := readCount_eq_ok_iff.mp (hread ▸ h)
    obtain ⟨plus, digits, rfl, hne, hdigits, rfl, hlt⟩ := (Text.readNat_eq_ok_iff hlimit).mp hn
    exact ⟨⟨plus, digits, u, hne, hdigits⟩, rfl, TimeUnit.admits_of_make hlt hmake,
      TimeUnit.make_eq_some_iff.mp hmake⟩
  · rintro ⟨w, rfl, hadmits, hd⟩
    rw [w.readTrimmed_chars]
    have hnumeral : Text.readNat 10 secondsLimit w.numeral = .ok w.count :=
      (Text.readNat_eq_ok_iff hlimit).mpr
        ⟨w.plus, w.digits, rfl, w.digits_ne_nil, w.isDigit, rfl, hadmits.1⟩
    exact readCount_eq_ok_iff.mpr ⟨w.count, hnumeral, TimeUnit.make_eq_some_iff.mpr hd⟩

end Duration

/-! ### Reading a value -/

section Values

open Shape Duration

variable {τ : Type} {mode : Mode} {t : τ}

theorem readText_ofJson {v : Json.Value} {s : String} (h : readText mode (.ofJson t v) = .ok s) :
    v = .str s := by
  cases v with
  | str text =>
    cases h
    rfl
  | int i =>
    simp only [DataTree.ofJson] at h
    split at h <;> cases h
  | null => cases h
  | bool b => cases h
  | float x => cases h
  | arr items => cases h
  | obj members => cases h

theorem readDuration_str {s : String} {d : Duration} :
    readDuration mode (.ofJson t (.str s)) = .ok d ↔ Duration.read s = .ok d := by
  simp only [readDuration, readText_str, ok_bind]
  constructor
  · intro h
    split at h
    · next hread =>
      cases h
      exact hread
    · cases h
  · intro h
    rw [h]

theorem readDuration_eq_ok_iff {v : Json.Value} {d : Duration} :
    readDuration mode (.ofJson t v) = .ok d ↔
      ∃ w : Spelling, w.Spells v ∧ w.unit.Admits w.count ∧
        d.totalNanos = w.count * w.unit.nanos := by
  have htrim : ∀ s, (Text.trim s).toList = Text.trimChars s.toList := fun s => String.toList_ofList
  constructor
  · intro h
    obtain ⟨s, hs⟩ : ∃ s, readText mode (.ofJson t v) = .ok s := by
      cases hs : readText mode (.ofJson t v) with
      | ok s => exact ⟨s, rfl⟩
      | error e =>
        simp only [readDuration, hs] at h
        cases h
    cases readText_ofJson hs
    obtain ⟨w, hw, hadmits, hd⟩ := readTrimmed_eq_ok_iff.mp (readDuration_str.mp h)
    exact ⟨w, ⟨s, rfl, (htrim s).trans hw⟩, hadmits, hd⟩
  · rintro ⟨w, ⟨s, rfl, hw⟩, hadmits, hd⟩
    exact readDuration_str.mpr
      (readTrimmed_eq_ok_iff.mpr ⟨w, (htrim s).symm.trans hw, hadmits, hd⟩)

/-- A JSON value is read as a duration exactly if it spells one with a count in range, as that many
of its unit, and it spells one in one way only. -/
theorem readDuration_spelled (mode : Mode) (t : τ) (v : Json.Value) :
    ((∃ d, readDuration mode (.ofJson t v) = .ok d) ↔
      ∃ w : Spelling, w.Spells v ∧ w.unit.Admits w.count) ∧
    (∀ w : Spelling, w.Spells v → ∀ d, readDuration mode (.ofJson t v) = .ok d →
      d.totalNanos = w.count * w.unit.nanos) ∧
    (∀ w x : Spelling, w.Spells v → x.Spells v → w = x) := by
  have hone : ∀ w x : Spelling, w.Spells v → x.Spells v → w = x := by
    rintro w x ⟨s, rfl, hw⟩ ⟨s', hs', hx⟩
    cases hs'
    exact Spelling.chars_injective (hw.symm.trans hx)
  refine ⟨⟨?_, ?_⟩, ?_, hone⟩
  · rintro ⟨d, hd⟩
    obtain ⟨w, hw, hadmits, -⟩ := readDuration_eq_ok_iff.mp hd
    exact ⟨w, hw, hadmits⟩
  · rintro ⟨w, hw, hadmits⟩
    obtain ⟨d, hd⟩ := TimeUnit.exists_make hadmits
    exact ⟨d, readDuration_eq_ok_iff.mpr ⟨w, hw, hadmits, TimeUnit.make_eq_some_iff.mp hd⟩⟩
  · intro w hw d hd
    obtain ⟨x, hx, -, htotal⟩ := readDuration_eq_ok_iff.mp hd
    rw [hone w x hw hx]
    exact htotal

end Values

/-! ### What is left of a duration that was written -/

namespace Duration

/-- The duration without what is finer than a millisecond. -/
def toMillis (d : Duration) : Duration :=
  ⟨d.seconds, d.millisPart * 1000000, d.seconds_lt, by
    have hnanos := d.nanos_lt
    unfold millisPart
    omega⟩

theorem toMillis_totalNanos_le (d : Duration) :
    d.toMillis.totalNanos ≤ d.totalNanos ∧ d.totalNanos < d.toMillis.totalNanos + 1000000 := by
  simp only [totalNanos, toMillis, millisPart]
  omega

theorem toMillis_eq_iff {d : Duration} : d.toMillis = d ↔ d.millisPart * 1000000 = d.nanos :=
  ⟨fun h => congrArg nanos h, fun h => ext_parts rfl h⟩

def spelling (d : Duration) : Spelling :=
  if d.millisPart = 0 then
    ⟨false, Text.natChars d.seconds, .seconds, Nat.toDigits_ne_nil,
      fun _ => Text.isDigit_of_mem_natChars⟩
  else
    ⟨false, Text.natChars d.millis, .millis, Nat.toDigits_ne_nil,
      fun _ => Text.isDigit_of_mem_natChars⟩

theorem spelling_chars (d : Duration) : d.spelling.chars = d.chars := by
  unfold spelling chars
  split <;> rfl

theorem ofDigitChars_natChars (n : Nat) : Nat.ofDigitChars 10 (Text.natChars n) 0 = n :=
  Nat.ofDigitChars_toDigits (by decide) (by decide)

theorem spelling_admits_iff {d : Duration} :
    d.spelling.unit.Admits d.spelling.count ↔ d.millisPart = 0 ∨ d.millis < secondsLimit := by
  unfold spelling
  split
  · next hzero =>
    simp only [Spelling.count, ofDigitChars_natChars, TimeUnit.Admits, hzero, true_or, iff_true]
    exact ⟨d.seconds_lt, fun h => by cases h⟩
  · next hpart =>
    simp [Spelling.count, ofDigitChars_natChars, TimeUnit.Admits, hpart]

theorem spelling_totalNanos (d : Duration) :
    d.spelling.count * d.spelling.unit.nanos = d.toMillis.totalNanos := by
  unfold spelling
  split
  · next hzero =>
    simp [Spelling.count, ofDigitChars_natChars, TimeUnit.nanos, totalNanos, toMillis, hzero]
  · have hmillis : d.millis * 1000000 = d.seconds * 1000000000 + d.millisPart * 1000000 := by
      unfold millis
      rw [Nat.add_mul, Nat.mul_assoc]
    simpa [Spelling.count, ofDigitChars_natChars, TimeUnit.nanos, totalNanos, toMillis] using
      hmillis

/-- What is written reads back as whole milliseconds, if they can be counted. -/
theorem read_text_eq_ok_iff {d e : Duration} :
    Duration.read d.text = .ok e ↔
      (d.millisPart = 0 ∨ d.millis < secondsLimit) ∧ e = d.toMillis := by
  have htrim : Text.trimChars d.text.toList = d.spelling.chars := by
    rw [text, String.toList_ofList, trimChars_chars, spelling_chars]
  rw [Duration.read, htrim, readTrimmed_eq_ok_iff, ← spelling_admits_iff]
  constructor
  · rintro ⟨w, hw, hadmits, he⟩
    cases Spelling.chars_injective hw
    exact ⟨hadmits, totalNanos_injective (he.trans d.spelling_totalNanos)⟩
  · rintro ⟨hadmits, rfl⟩
    exact ⟨d.spelling, rfl, hadmits, d.spelling_totalNanos.symm⟩

end Duration

open Shape in
/-- A duration survives its text exactly if it is one of whole milliseconds that can be counted; if
not, it is refused for its count or comes back less than a millisecond shorter. Whatever is read
survives. -/
theorem readDuration_written {τ : Type} (mode : Mode) (t : τ) (d : Duration) :
    (readDuration mode (.ofJson t (.str d.text)) = .ok d ↔ d.IsReadable) ∧
    ((∃ f, readDuration mode (.ofJson t (.str d.text)) = .error f) ↔
      ¬ (d.millisPart = 0 ∨ d.millis < Duration.secondsLimit)) ∧
    (¬ d.IsReadable →
      (∃ f, readDuration mode (.ofJson t (.str d.text)) = .error f) ∨
      ∃ e, readDuration mode (.ofJson t (.str d.text)) = .ok e ∧
        e.totalNanos < d.totalNanos ∧ d.totalNanos < e.totalNanos + 1000000) ∧
    (∀ v e, readDuration mode (.ofJson t v) = .ok e →
      e.IsReadable ∧ readDuration mode (.ofJson t (.str e.text)) = .ok e) := by
  have hok : ∀ e, readDuration mode (.ofJson t (.str d.text)) = .ok e ↔
      (d.millisPart = 0 ∨ d.millis < Duration.secondsLimit) ∧ e = d.toMillis := fun e =>
    readDuration_str.trans Duration.read_text_eq_ok_iff
  have herror : (∃ f, readDuration mode (.ofJson t (.str d.text)) = .error f) ↔
      ¬ (d.millisPart = 0 ∨ d.millis < Duration.secondsLimit) := by
    cases hread : readDuration mode (.ofJson t (.str d.text)) with
    | error f =>
      have hno : ¬ (d.millisPart = 0 ∨ d.millis < Duration.secondsLimit) := fun hcounted => by
        cases hread.symm.trans ((hok d.toMillis).mpr ⟨hcounted, rfl⟩)
      exact ⟨fun _ => hno, fun _ => ⟨f, rfl⟩⟩
    | ok e => simp [((hok e).mp hread).1]
  refine ⟨?_, herror, ?_, ?_⟩
  · rw [hok]
    constructor
    · rintro ⟨hcounted, heq⟩
      exact ⟨Duration.toMillis_eq_iff.mp heq.symm, hcounted⟩
    · intro h
      exact ⟨h.counted, (Duration.toMillis_eq_iff.mpr h.whole).symm⟩
  · intro hnot
    by_cases hcounted : d.millisPart = 0 ∨ d.millis < Duration.secondsLimit
    · have hne : d.toMillis.totalNanos ≠ d.totalNanos := fun heq =>
        hnot ⟨Duration.toMillis_eq_iff.mp (Duration.totalNanos_injective heq), hcounted⟩
      obtain ⟨hle, hlt⟩ := d.toMillis_totalNanos_le
      exact .inr ⟨d.toMillis, (hok _).mpr ⟨hcounted, rfl⟩, Nat.lt_of_le_of_ne hle hne, hlt⟩
    · exact .inl (herror.mpr hcounted)
  · intro v e he
    have hreadable := isReadable_of_readDuration he
    exact ⟨hreadable, readDuration_text hreadable⟩

end DeviceGateway
