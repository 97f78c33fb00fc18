import DeviceGateway.Config.Environment

/-!
# Names of variables

The case of letters in the name of a variable does not count, neither in the prefix nor in the path
that follows it.
-/

namespace DeviceGateway

namespace Text

/-! ### Letter case and parts of a text -/

theorem toNat_toLower (c : Char) :
    (65 ≤ c.toNat ∧ c.toNat ≤ 90 ∧ c.toLower.toNat = c.toNat + 32) ∨ c.toLower = c := by
  unfold Char.toLower
  split
  · next h =>
    have hlo : 65 ≤ c.toNat := UInt32.le_iff_toNat_le.mp h.1
    have hhi : c.toNat ≤ 90 := UInt32.le_iff_toNat_le.mp h.2
    refine .inl ⟨hlo, hhi, ?_⟩
    change (c.val + 32).toNat = c.val.toNat + 32
    rw [UInt32.toNat_add]
    exact Nat.mod_eq_of_lt (by change c.toNat + 32 < _; omega)
  · exact .inr rfl

theorem toLower_toLower (c : Char) : c.toLower.toLower = c.toLower := by
  rcases toNat_toLower c with ⟨hlo, hhi, hlower⟩ | hsame
  · rcases toNat_toLower c.toLower with ⟨hlo', hhi', -⟩ | hsame
    · omega
    · exact hsame
  · rw [hsame, hsame]

/-- A character that is no letter is what it is in either case. -/
theorem toLower_eq_iff {d : Char} (hd : d.toNat < 65 ∨ 90 < d.toNat ∧ d.toNat < 97 ∨ 122 < d.toNat)
    (c : Char) : c.toLower = d ↔ c = d := by
  rcases toNat_toLower c with ⟨hlo, hhi, hlower⟩ | hsame
  · constructor <;> rintro rfl <;> omega
  · rw [hsame]

theorem isBlankChar_toLower (c : Char) : isBlankChar c.toLower = isBlankChar c := by
  rcases toNat_toLower c with ⟨hlo, hhi, hlower⟩ | hsame
  · have hblank : ∀ d : Char, 65 ≤ d.toNat → d.toNat ≤ 122 → isBlankChar d = false := by
      intro d hd hd'
      simp only [isBlankChar, Bool.or_eq_false_iff, Bool.and_eq_false_iff, decide_eq_false_iff_not,
        beq_eq_false_iff_ne]
      omega
    rw [hblank c hlo (by omega), hblank _ (by omega) (by omega)]
  · rw [hsame]

theorem trimChars_map_toLower (cs : List Char) :
    trimChars (cs.map Char.toLower) = (trimChars cs).map Char.toLower := by
  have hdrop : ∀ ds : List Char, (ds.map Char.toLower).dropWhile isBlankChar =
      (ds.dropWhile isBlankChar).map Char.toLower := by
    intro ds
    rw [List.dropWhile_map]
    congr 2
    funext c
    exact isBlankChar_toLower c
  simp only [trimChars, trimStartChars, trimEndChars, hdrop, ← List.map_reverse]

theorem splitOn_map {f : Char → Char} {separator : Char} (hf : ∀ c, f c = separator ↔ c = separator)
    (cs : List Char) : splitOn separator (cs.map f) = (splitOn separator cs).map (List.map f) := by
  induction cs with
  | nil => rfl
  | cons c cs ih =>
    simp only [List.map_cons, splitOn, ih, hf]
    split
    · rfl
    · cases splitOn separator cs <;> rfl

end Text

namespace Environment

open Text

theorem pointed_map_toLower (cs : List Char) :
    pointed (cs.map Char.toLower) = (pointed cs).map Char.toLower := by
  have hmark : ∀ c : Char, c.toLower = '_' ↔ c = '_' := toLower_eq_iff (by decide)
  fun_induction pointed cs with
  | case1 rest ih =>
    have hmap : ('_' :: '_' :: rest).map Char.toLower = '_' :: '_' :: rest.map Char.toLower := rfl
    rw [hmap, pointed, ih]
    rfl
  | case2 c rest h ih =>
    rw [List.map_cons, pointed, ih, List.map_cons]
    intro rest' hc hrest
    obtain ⟨d, ds, rfl, hd, -⟩ := List.map_eq_cons_iff.mp hrest
    exact h ds ((hmark c).mp hc) (by rw [(hmark d).mp hd])
  | case3 => rfl

theorem map_toLower_toLower (cs : List Char) :
    (cs.map Char.toLower).map Char.toLower = cs.map Char.toLower := by
  rw [List.map_map]
  congr 1
  funext c
  exact toLower_toLower c

theorem pathOf_lowerAscii (name : String) : pathOf (lowerAscii name) = pathOf name := by
  have hpoint : ∀ c : Char, c.toLower = '.' ↔ c = '.' := toLower_eq_iff (by decide)
  have hprefix : ∀ cs : List Char, sameIgnoringCase (String.ofList (cs.map Char.toLower)) namePrefix
      = sameIgnoringCase (String.ofList cs) namePrefix := by
    intro cs
    simp only [sameIgnoringCase, String.toList_ofList, map_toLower_toLower]
  have hempty : List.isEmpty ∘ List.map Char.toLower = List.isEmpty := by
    funext cs
    exact List.isEmpty_map
  have hparts : (fun p => String.ofList (p.map Char.toLower)) ∘ List.map Char.toLower =
      fun p => String.ofList (p.map Char.toLower) := by
    funext cs
    exact congrArg String.ofList (map_toLower_toLower cs)
  simp only [pathOf, lowerAscii, String.toList_ofList, trimChars_map_toLower, ← List.map_take,
    ← List.map_drop, hprefix, pointed_map_toLower, splitOn_map hpoint]
  simp only [List.any_map, List.map_map, hempty, hparts]

/-- Names that differ in the case of letters only give the same path. -/
theorem pathOf_eq_of_sameIgnoringCase {a b : String} (h : sameIgnoringCase a b = true) :
    pathOf a = pathOf b := by
  have hlower : lowerAscii a = lowerAscii b := by
    rw [lowerAscii, lowerAscii, eq_of_beq h]
  rw [← pathOf_lowerAscii a, hlower, pathOf_lowerAscii]

end Environment
end DeviceGateway
