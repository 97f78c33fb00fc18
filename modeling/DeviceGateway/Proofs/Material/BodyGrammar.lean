import DeviceGateway.Proofs.Material.Body
import DeviceGateway.Proofs.Results

/-!
# Bodies that are read

A body is read if and only if it is base64 apart from its spacing: characters of the alphabet, then
padding. The last group of four has two characters of the alphabet at least, and padding fills it up
or is left out. The bits that are left over count for nothing.
-/

namespace DeviceGateway

namespace Base64

/-- The octet of a letter, a decimal digit, a plus sign or a slash. -/
def IsDigit (b : UInt8) : Prop :=
  0x41 ≤ b ∧ b ≤ 0x5A ∨ 0x61 ≤ b ∧ b ≤ 0x7A ∨ 0x30 ≤ b ∧ b ≤ 0x39 ∨ b = 0x2B ∨ b = 0x2F

instance (b : UInt8) : Decidable (IsDigit b) :=
  inferInstanceAs (Decidable (_ ∨ _))

theorem IsDigit.ne_pad {b : UInt8} (h : IsDigit b) : b ≠ 0x3D := by
  rintro rfl
  revert h
  decide

end Base64

namespace Pem

open Base64 (IsDigit)

/-- Numbers of digits and of padding in whole groups of four, or without the padding that the last
group needs. -/
def FillsGroups (digits pads : Nat) : Prop :=
  digits % 4 ≠ 1 ∧ (pads = 0 ∨ pads ≤ 2 ∧ (digits + pads) % 4 = 0)

/-- Base64 with spacing anywhere. -/
def IsBase64 (body : Bytes) : Prop :=
  ∃ digits pads, body.filter (!isSpacing ·) = digits ++ List.replicate pads 0x3D ∧
    (∀ b ∈ digits, IsDigit b) ∧ FillsGroups digits.length pads

/-! ### Places of the padding -/

/-- Digits and then padding, as many as fill groups. -/
def IsPadded (padding : List Bool) : Prop :=
  ∃ digits pads, padding = List.replicate digits false ++ List.replicate pads true ∧
    FillsGroups digits pads

theorem exists_partLength_iff {symbols : List Symbol} (hlength : symbols.length < 8) :
    (∃ n, partLength? symbols = some n) ↔ IsPadded (symbols.map (· == .pad)) := by
  unfold partLength?
  constructor
  · rintro ⟨n, h⟩
    simp only at h
    split at h
    · rename_i hall
      have hdigits : symbols.map (· == .pad) = List.replicate symbols.length false := by
        rw [List.eq_replicate_iff, List.length_map]
        exact ⟨rfl, fun b hb => by simpa using List.all_eq_true.mp hall b hb⟩
      refine ⟨symbols.length, 0, by rw [hdigits]; simp, ?_, .inl rfl⟩
      split at h <;> first | omega | cases h
    · split at h
      · rename_i hone
        exact ⟨3, 1, eq_of_beq hone, by decide, .inr (by decide)⟩
      · split at h
        · rename_i htwo
          exact ⟨2, 2, eq_of_beq htwo, by decide, .inr (by decide)⟩
        · cases h
  · rintro ⟨digits, pads, hpadding, hdigits, hpads⟩
    have hsum : symbols.length = digits + pads := by simpa using congrArg List.length hpadding
    have hunpadded : pads = 0 → digits = 0 ∨ digits = 2 ∨ digits = 3 ∨ digits = 4 ∨ digits = 6 ∨
        digits = 7 := by omega
    have hpadded : pads ≠ 0 → digits = 3 ∧ pads = 1 ∨ digits = 2 ∧ pads = 2 := by omega
    by_cases hnone : pads = 0
    · subst hnone
      rw [Nat.add_zero] at hsum
      rcases hunpadded rfl with rfl | rfl | rfl | rfl | rfl | rfl
      all_goals
        simp only [hpadding, hsum]
        exact ⟨_, rfl⟩
    · rcases hpadded hnone with ⟨rfl, rfl⟩ | ⟨rfl, rfl⟩
      all_goals
        simp only [hpadding, hsum]
        exact ⟨_, rfl⟩

theorem wholeLength_eq_some_iff {symbols : List Symbol} {n : Nat} :
    wholeLength? symbols = some n ↔ 4 ≤ n ∧ n ≤ 6 ∧
      symbols.map (· == .pad) = List.replicate (n + 2) false ++ List.replicate (6 - n) true := by
  unfold wholeLength?
  simp only
  constructor
  · intro h
    split at h
    · rename_i hdigits
      cases h
      exact ⟨by decide, by decide, eq_of_beq hdigits⟩
    · split at h
      · rename_i hone
        cases h
        exact ⟨by decide, by decide, eq_of_beq hone⟩
      · split at h
        · rename_i htwo
          cases h
          exact ⟨by decide, by decide, eq_of_beq htwo⟩
        · cases h
  · rintro ⟨hlow, hhigh, hpadding⟩
    have hlengths : n = 4 ∨ n = 5 ∨ n = 6 := by omega
    rcases hlengths with rfl | rfl | rfl
    all_goals
      rw [hpadding]
      rfl

/-- Padding ends what it stands in: a block of eight with padding is the last one. -/
theorem isPadded_append_iff {block rest : List Bool} (hblock : block.length = 8) :
    IsPadded (block ++ rest) ↔ IsPadded rest ∧ ∃ n, 4 ≤ n ∧ n ≤ 6 ∧
      block = List.replicate (n + 2) false ++ List.replicate (6 - n) true ∧
      (n < 6 → rest = []) := by
  constructor
  · rintro ⟨digits, pads, hpadding, hdigits, hpads⟩
    have hsum : 8 + rest.length = digits + pads := by
      simpa [hblock] using congrArg List.length hpadding
    by_cases hmany : 8 ≤ digits
    -- all of the padding is in the rest
    · obtain ⟨more, rfl⟩ := Nat.exists_eq_add_of_le hmany
      rw [← List.replicate_append_replicate, List.append_assoc] at hpadding
      obtain ⟨hfirst, hrest⟩ := List.append_inj hpadding (by simp [hblock])
      refine ⟨⟨more, pads, hrest, by omega, by omega⟩, 6, by decide, by decide, ?_, by omega⟩
      rw [hfirst]
      rfl
    -- some of it is in the block, where it ends a group, and so nothing is left for the rest
    · have hend : digits + pads = 8 := by omega
      obtain rfl : rest = [] := List.length_eq_zero_iff.mp (by omega)
      rw [List.append_nil] at hpadding
      refine ⟨⟨0, 0, rfl, by decide, .inl rfl⟩, digits - 2, by omega, by omega, ?_, fun _ => rfl⟩
      rw [hpadding, show digits - 2 + 2 = digits by omega, show 6 - (digits - 2) = pads by omega]
  · rintro ⟨⟨digits, pads, rfl, hdigits, hpads⟩, n, hlow, hhigh, rfl, hlast⟩
    rcases Nat.lt_or_ge n 6 with hn | hn
    · rw [hlast hn, List.append_nil]
      exact ⟨n + 2, 6 - n, rfl, by omega, by omega⟩
    · obtain rfl : n = 6 := by omega
      refine ⟨8 + digits, pads, ?_, by omega, by omega⟩
      rw [Nat.sub_self, List.replicate_zero, List.append_nil, ← List.append_assoc,
        List.replicate_append_replicate]

theorem exists_decodeSymbols_block_iff {fuel : Nat} {symbols : List Symbol}
    (hlong : 8 ≤ symbols.length) :
    (∃ der, decodeSymbols (fuel + 1) symbols = .ok der) ↔
      (∃ later, decodeSymbols fuel (symbols.drop 8) = .ok later) ∧
      ∃ n, wholeLength? (symbols.take 8) = some n ∧ (n < 6 → symbols.drop 8 = []) := by
  rw [decodeSymbols, if_neg (by omega)]
  simp only
  cases wholeLength? (symbols.take 8) with
  | none => simp
  | some n =>
    simp only
    by_cases hmiddle : n < 6 ∧ (!(symbols.drop 8).isEmpty) = true
    · rw [if_pos hmiddle]
      obtain ⟨hn, hrest⟩ := hmiddle
      constructor
      · rintro ⟨der, h⟩
        cases h
      · rintro ⟨-, m, hm, hlast⟩
        cases hm
        rw [hlast hn] at hrest
        cases hrest
    · have hlast : n < 6 → symbols.drop 8 = [] := by simpa using hmiddle
      rw [if_neg hmiddle]
      cases decodeSymbols fuel (symbols.drop 8) with
      | error f => simp [Except.map]
      | ok later => simpa [Except.map] using hlast

theorem exists_decodeSymbols_iff {fuel : Nat} {symbols : List Symbol}
    (hfuel : symbols.length < fuel) :
    (∃ der, decodeSymbols fuel symbols = .ok der) ↔ IsPadded (symbols.map (· == .pad)) := by
  -- each round takes a block of eight, and the fuel outlasts the symbols
  induction fuel generalizing symbols with
  | zero => omega
  | succ fuel ih =>
    rcases Nat.lt_or_ge symbols.length 8 with hshort | hlong
    · rw [decodeSymbols, if_pos hshort, ← exists_partLength_iff hshort]
      cases partLength? symbols <;> simp
    · have hblock : ((symbols.take 8).map (· == Symbol.pad)).length = 8 := by
        rw [List.length_map, List.length_take]
        omega
      have hrest := @ih (symbols.drop 8) (by rw [List.length_drop]; omega)
      have hsplit : symbols.map (· == Symbol.pad) =
          (symbols.take 8).map (· == .pad) ++ (symbols.drop 8).map (· == .pad) := by
        rw [← List.map_append, List.take_append_drop]
      rw [exists_decodeSymbols_block_iff hlong, hsplit, isPadded_append_iff hblock, hrest]
      simp only [wholeLength_eq_some_iff, List.map_eq_nil_iff, and_assoc]

/-! ### Characters of the alphabet -/

theorem isDigit_iff (b : UInt8) :
    IsDigit b ↔ ∃ v, (if b < 0x80 then Base64.value? (Char.ofNat b.toNat) else none) = some v := by
  have hoctets : ∀ n, n < 256 → (IsDigit (UInt8.ofNat n) ↔
      (if UInt8.ofNat n < 0x80 then Base64.value? (Char.ofNat (UInt8.ofNat n).toNat)
        else none).isSome = true) := by
    decide +kernel
  rw [← Option.isSome_iff_exists]
  simpa using hoctets b.toNat b.toNat_lt

/-- What is read of a body tells where its padding stands. -/
theorem readSymbols_eq_ok {body : Bytes} {symbols : List Symbol}
    (h : readSymbols body = .ok symbols) :
    (∀ b ∈ body.filter (!isSpacing ·), b = 0x3D ∨ IsDigit b) ∧
      symbols.map (· == .pad) = (body.filter (!isSpacing ·)).map (· == 0x3D) := by
  induction body generalizing symbols with
  | nil =>
    cases h
    simp
  | cons b body ih =>
    unfold readSymbols at h
    cases hb : isSpacing b with
    | true =>
      rw [if_pos hb] at h
      simpa [hb] using ih h
    | false =>
      rw [if_neg (by simp [hb])] at h
      split at h
      · rename_i hpad
        obtain ⟨later, hlater, rfl⟩ := map_eq_ok h
        obtain ⟨hoctets, hplaces⟩ := ih hlater
        rw [List.filter_cons_of_pos (by simp [hb])]
        simpa [hpad, hplaces] using hoctets
      · rename_i hpad
        split at h
        · rename_i v hv
          obtain ⟨later, hlater, rfl⟩ := map_eq_ok h
          obtain ⟨hoctets, hplaces⟩ := ih hlater
          have hdigit := (isDigit_iff b).mpr ⟨v, hv⟩
          rw [List.filter_cons_of_pos (by simp [hb])]
          simpa [hpad, hplaces, hdigit] using hoctets
        · cases h

theorem exists_readSymbols {body : Bytes}
    (h : ∀ b ∈ body.filter (!isSpacing ·), b = 0x3D ∨ IsDigit b) :
    ∃ symbols, readSymbols body = .ok symbols := by
  induction body with
  | nil => exact ⟨[], rfl⟩
  | cons b body ih =>
    obtain ⟨later, hlater⟩ := ih fun c hc =>
      h c (List.mem_filter.mpr ⟨List.mem_cons_of_mem b (List.mem_filter.mp hc).1,
        (List.mem_filter.mp hc).2⟩)
    unfold readSymbols
    cases hb : isSpacing b with
    | true => exact ⟨later, hlater⟩
    | false =>
      rw [if_neg (by simp), hlater]
      rcases h b (by simp [hb]) with rfl | hdigit
      · exact ⟨_, rfl⟩
      · obtain ⟨v, hv⟩ := (isDigit_iff b).mp hdigit
        rw [if_neg hdigit.ne_pad, hv]
        exact ⟨_, rfl⟩

/-! ### Bodies -/

/-- A body is read if and only if it is base64. -/
theorem exists_decodeBody_iff (body : Bytes) :
    (∃ der, decodeBody body = .ok der) ↔ IsBase64 body := by
  constructor
  · rintro ⟨der, h⟩
    obtain ⟨symbols, hsymbols, hder⟩ := bind_eq_ok h
    obtain ⟨hoctets, hplaces⟩ := readSymbols_eq_ok hsymbols
    obtain ⟨digits, pads, hpadded, hgroups⟩ :=
      (exists_decodeSymbols_iff (Nat.lt_succ_self _)).mp ⟨der, hder⟩
    rw [hplaces, List.map_eq_append_iff] at hpadded
    obtain ⟨front, back, hsplit, hfront, hback⟩ := hpadded
    obtain rfl : front.length = digits := by simpa using congrArg List.length hfront
    obtain rfl : back.length = pads := by simpa using congrArg List.length hback
    rw [List.map_eq_replicate_iff] at hfront hback
    refine ⟨front, back.length, ?_, fun b hb => ?_, hgroups⟩
    · rw [hsplit, List.append_cancel_left_eq, List.eq_replicate_iff]
      exact ⟨rfl, fun b hb => eq_of_beq (hback b hb)⟩
    · exact (hoctets b (by simp [hsplit, hb])).resolve_left (ne_of_beq_false (hfront b hb))
  · rintro ⟨digits, pads, hsplit, hdigits, hgroups⟩
    obtain ⟨symbols, hsymbols⟩ : ∃ symbols, readSymbols body = .ok symbols := by
      apply exists_readSymbols
      rw [hsplit]
      intro b hb
      rcases List.mem_append.mp hb with hb | hb
      · exact .inr (hdigits b hb)
      · exact .inl (List.eq_of_mem_replicate hb)
    have hplaces := (readSymbols_eq_ok hsymbols).2
    have hfront : digits.map (· == 0x3D) = List.replicate digits.length false :=
      List.map_eq_replicate_iff.mpr fun b hb => beq_eq_false_iff_ne.mpr (hdigits b hb).ne_pad
    rw [hsplit, List.map_append, hfront, List.map_replicate] at hplaces
    unfold decodeBody
    rw [hsymbols]
    exact (exists_decodeSymbols_iff (Nat.lt_succ_self _)).mpr ⟨_, _, hplaces, hgroups⟩

end Pem
end DeviceGateway
