import DeviceGateway.Duration

/-!
# Durations that survive their text

The written form counts whole milliseconds and the reader counts below 2^64, so not every duration
reads back. Those that do are the ones that a reader can return.
-/

namespace DeviceGateway

namespace Text

/-! ### Numerals -/

theorem readDigits_append (radix limit acc : Nat) (cs ds : List Char) :
    readDigits radix limit acc (cs ++ ds) =
      (readDigits radix limit acc cs).bind fun n => readDigits radix limit n ds := by
  induction cs generalizing acc with
  | nil => rfl
  | cons c cs ih =>
    simp only [List.cons_append, readDigits]
    split
    · rfl
    · split
      · exact ih _
      · rfl

theorem digitValue?_digitChar : ∀ n, n < 10 → digitValue? 10 n.digitChar = some n := by
  decide

theorem readDigits_natChars {n limit : Nat} (h : n < limit) :
    readDigits 10 limit 0 (natChars n) = .ok n := by
  induction n using Nat.strongRecOn with
  | ind n ih =>
    unfold natChars
    by_cases hn : n < 10
    · rw [Nat.toDigits_of_lt_base hn]
      simp only [readDigits, digitValue?_digitChar n hn]
      rw [if_pos (by omega), Nat.zero_mul, Nat.zero_add]
    · have hquotient := ih (n / 10) (by omega) (by omega)
      have hdigit := digitValue?_digitChar (n % 10) (by omega)
      have hn' : n / 10 * 10 + n % 10 = n := by omega
      unfold natChars at hquotient
      rw [Nat.toDigits_of_base_le (by omega) (by omega), readDigits_append, hquotient]
      simp only [Except.bind, readDigits, hdigit, hn', if_pos h]

theorem isDigit_of_mem_natChars {n : Nat} {c : Char} (h : c ∈ natChars n) : c.isDigit = true :=
  Nat.isDigit_of_mem_toDigits (by omega) (by omega) h

theorem not_mem_natChars {n : Nat} {c : Char} (h : c.isDigit = false) : c ∉ natChars n := by
  intro hc
  rw [isDigit_of_mem_natChars hc] at h
  cases h

theorem readNat_natChars {n limit : Nat} (h : n < limit) :
    readNat 10 limit (natChars n) = .ok n := by
  have hread := readDigits_natChars h
  have hplus : '+' ∉ natChars n := not_mem_natChars rfl
  have hminus : '-' ∉ natChars n := not_mem_natChars rfl
  have hne : natChars n ≠ [] := Nat.toDigits_ne_nil
  generalize natChars n = cs at hread hplus hminus hne
  unfold readNat
  split
  · exact (hne rfl).elim
  · simp at hplus
  · simp at hminus
  · simp at hplus
  · exact hread

/-! ### Trimming -/

theorem trimChars_of_no_blank {cs : List Char} (h : ∀ c ∈ cs, isBlankChar c = false) :
    trimChars cs = cs := by
  have hdrop : ∀ ds : List Char, (∀ c ∈ ds, isBlankChar c = false) →
      ds.dropWhile isBlankChar = ds := by
    intro ds hds
    cases ds with
    | nil => rfl
    | cons d ds =>
      rw [List.dropWhile_cons, hds d (List.mem_cons_self ..), if_neg Bool.false_ne_true]
  have hreverse := hdrop cs.reverse fun c hc => h c (List.mem_reverse.mp hc)
  simp only [trimChars, trimStartChars, trimEndChars, hdrop cs h, hreverse, List.reverse_reverse]

theorem isBlankChar_of_isDigit {c : Char} (h : c.isDigit = true) : isBlankChar c = false := by
  simp only [Char.isDigit, Bool.and_eq_true, decide_eq_true_eq, UInt32.le_iff_toNat_le] at h
  have hlo : 48 ≤ c.toNat := h.1
  have hhi : c.toNat ≤ 57 := h.2
  simp [isBlankChar]
  omega

end Text

namespace Duration

/-! ### Endings -/

theorem stripEnd?_append (ending cs : List Char) : stripEnd? ending (cs ++ ending) = some cs := by
  have hsuffix : ending.isSuffixOf (cs ++ ending) = true :=
    List.isSuffixOf_iff_suffix.mpr (List.suffix_append cs ending)
  have hlength : (cs ++ ending).length - ending.length = cs.length := by simp
  simp only [stripEnd?, hsuffix, if_true, hlength, List.take_left']

theorem stripEnd?_eq_none {ending cs : List Char} {c : Char} (hc : c ∈ ending) (hcs : c ∉ cs) :
    stripEnd? ending cs = none := by
  have hsuffix : ending.isSuffixOf cs ≠ true := fun h =>
    hcs ((List.isSuffixOf_iff_suffix.mp h).subset hc)
  simp only [stripEnd?, if_neg hsuffix]

/-! ### Reading back -/

/-- A duration of whole milliseconds that are none past the second or below 2^64 in all. -/
structure IsReadable (d : Duration) : Prop where
  whole : d.millisPart * 1000000 = d.nanos
  counted : d.millisPart = 0 ∨ d.millis < secondsLimit

theorem ext_parts {d e : Duration} (hs : d.seconds = e.seconds) (hn : d.nanos = e.nanos) :
    d = e := by
  cases d
  cases e
  simp_all

theorem ofSeconds?_seconds (d : Duration) (h : d.nanos = 0) : ofSeconds? d.seconds = some d := by
  have hlt := d.seconds_lt
  simp only [ofSeconds?, dif_pos hlt, Option.some.injEq]
  exact ext_parts rfl h.symm

theorem ofMillis?_millis (d : Duration) (h : d.millisPart * 1000000 = d.nanos) :
    ofMillis? d.millis = some d := by
  have hs := d.seconds_lt
  have hn := d.nanos_lt
  have hpart : d.millisPart < 1000 := by omega
  have hdiv : d.millis / 1000 = d.seconds := by unfold millis; omega
  have hmod : d.millis % 1000 = d.millisPart := by unfold millis; omega
  have hlt : d.millis / 1000 < 18446744073709551616 := by omega
  simp only [ofMillis?, dif_pos hlt, Option.some.injEq]
  exact ext_parts hdiv (by simp only [hmod]; exact h)

theorem trimChars_chars (d : Duration) : Text.trimChars d.chars = d.chars := by
  apply Text.trimChars_of_no_blank
  intro c hc
  unfold chars at hc
  split at hc
  all_goals
    rcases List.mem_append.mp hc with hdigit | hunit
    · exact Text.isBlankChar_of_isDigit (Text.isDigit_of_mem_natChars hdigit)
    · revert hunit
      simp only [List.mem_cons, List.not_mem_nil, or_false]
      rintro (rfl | rfl) <;> decide

theorem readTrimmed_seconds {n : Nat} {d : Duration} (hn : n < secondsLimit)
    (hd : ofSeconds? n = some d) : readTrimmed (Text.natChars n ++ ['s']) = .ok d := by
  have hms : stripEnd? ['m', 's'] (Text.natChars n ++ ['s']) = none := by
    apply stripEnd?_eq_none (List.mem_cons_self ..)
    have hm : 'm' ∉ Text.natChars n := Text.not_mem_natChars rfl
    simp [hm]
  simp only [readTrimmed, hms, stripEnd?_append, readCount, Text.readNat_natChars hn, hd]

theorem readTrimmed_millis {n : Nat} {d : Duration} (hn : n < secondsLimit)
    (hd : ofMillis? n = some d) : readTrimmed (Text.natChars n ++ ['m', 's']) = .ok d := by
  simp only [readTrimmed, stripEnd?_append, readCount, Text.readNat_natChars hn, hd]

theorem read_text {d : Duration} (h : d.IsReadable) : Duration.read d.text = .ok d := by
  unfold Duration.read text
  rw [String.toList_ofList, trimChars_chars]
  unfold chars
  split
  · next hzero =>
    have hnanos : d.nanos = 0 := by
      have hwhole := h.whole
      omega
    exact readTrimmed_seconds d.seconds_lt (ofSeconds?_seconds d hnanos)
  · next hpart =>
    have hmillis := h.counted.resolve_left hpart
    exact readTrimmed_millis hmillis (ofMillis?_millis d h.whole)

/-! ### What readers return -/

theorem readDigits_lt {radix limit acc n : Nat} {cs : List Char} (hacc : acc < limit)
    (h : Text.readDigits radix limit acc cs = .ok n) : n < limit := by
  induction cs generalizing acc with
  | nil =>
    cases h
    exact hacc
  | cons c cs ih =>
    simp only [Text.readDigits] at h
    split at h
    · cases h
    · split at h
      · next hlt => exact ih hlt h
      · cases h

theorem readNat_lt {n : Nat} {cs : List Char} (h : Text.readNat 10 secondsLimit cs = .ok n) :
    n < secondsLimit := by
  have hpos : 0 < secondsLimit := by decide
  unfold Text.readNat at h
  split at h
  · cases h
  · cases h
  · cases h
  · exact readDigits_lt hpos h
  · exact readDigits_lt hpos h

theorem isReadable_of_ofSeconds? {n : Nat} {d : Duration} (h : ofSeconds? n = some d) :
    d.IsReadable := by
  unfold ofSeconds? at h
  split at h
  · cases h
    have hzero : 0 / 1000000 = 0 := Nat.zero_div _
    exact ⟨by simp only [millisPart, hzero, Nat.zero_mul], .inl hzero⟩
  · cases h

theorem isReadable_of_ofMillis? {n : Nat} {d : Duration} (hn : n < secondsLimit)
    (h : ofMillis? n = some d) : d.IsReadable := by
  unfold ofMillis? at h
  split at h
  · cases h
    have hpart : n % 1000 * 1000000 / 1000000 = n % 1000 := Nat.mul_div_cancel _ (by omega)
    refine ⟨?_, .inr ?_⟩
    · simp only [millisPart, hpart]
    · simp only [millis, millisPart, hpart]
      omega
  · cases h

/-- A count that is read is below 2^64 and makes the duration. -/
theorem readCount_eq_ok {all digits : List Char} {make : Nat → Option Duration} {d : Duration}
    (h : readCount all digits make = .ok d) : ∃ n, n < secondsLimit ∧ make n = some d := by
  unfold readCount at h
  split at h
  · cases h
  · next n hn =>
    split at h
    · next e he =>
      cases h
      exact ⟨n, readNat_lt hn, he⟩
    · cases h

theorem isReadable_of_read {s : String} {d : Duration} (h : Duration.read s = .ok d) :
    d.IsReadable := by
  unfold Duration.read readTrimmed at h
  split at h
  · obtain ⟨n, hn, hd⟩ := readCount_eq_ok h
    exact isReadable_of_ofMillis? hn hd
  · split at h
    · obtain ⟨n, -, hd⟩ := readCount_eq_ok h
      exact isReadable_of_ofSeconds? hd
    · split at h
      · obtain ⟨n, -, hd⟩ := readCount_eq_ok h
        exact isReadable_of_ofSeconds? hd
      · obtain ⟨n, -, hd⟩ := readCount_eq_ok h
        exact isReadable_of_ofSeconds? hd

end Duration
end DeviceGateway
