/-!
# Blank characters and trimming

The blank characters are the 25 code points of the Unicode property White_Space. A text is
trimmed by dropping blanks from both ends, and is blank if nothing is left.
-/

namespace DeviceGateway.Text

/-- Whether a character has the property White_Space. -/
def isBlankChar (c : Char) : Bool :=
  let v := c.toNat
  (9 ≤ v && v ≤ 13) || v == 0x20 || v == 0x85 || v == 0xA0 || v == 0x1680
    || (0x2000 ≤ v && v ≤ 0x200A) || v == 0x2028 || v == 0x2029 || v == 0x202F || v == 0x205F
    || v == 0x3000

def trimStartChars (cs : List Char) : List Char := cs.dropWhile isBlankChar

def trimEndChars (cs : List Char) : List Char := (cs.reverse.dropWhile isBlankChar).reverse

/-- The characters without blanks at either end. -/
def trimChars (cs : List Char) : List Char := trimEndChars (trimStartChars cs)

def trim (s : String) : String := String.ofList (trimChars s.toList)

def isBlank (s : String) : Bool := s.toList.all isBlankChar

theorem dropWhile_dropWhile (p : Char → Bool) (cs : List Char) :
    (cs.dropWhile p).dropWhile p = cs.dropWhile p := by
  induction cs with
  | nil => rfl
  | cons c cs ih =>
    by_cases h : p c = true
    · simp only [List.dropWhile_cons, h, if_true, ih]
    · simp only [List.dropWhile_cons, h, if_false, Bool.false_eq_true]

theorem dropWhile_eq_nil_of_all {p : Char → Bool} {cs : List Char} (h : cs.all p = true) :
    cs.dropWhile p = [] := by
  induction cs with
  | nil => rfl
  | cons c cs ih =>
    simp only [List.all_cons, Bool.and_eq_true] at h
    simp only [List.dropWhile_cons, h.1, if_true, ih h.2]

/-- A text is blank exactly when trimming leaves nothing. -/
theorem trimChars_eq_nil_iff (cs : List Char) : trimChars cs = [] ↔ cs.all isBlankChar = true := by
  constructor
  · intro h
    simp only [trimChars, trimEndChars, List.reverse_eq_nil_iff] at h
    have hs : ∀ l : List Char, l.dropWhile isBlankChar = [] → l.all isBlankChar = true := by
      intro l hl
      induction l with
      | nil => rfl
      | cons c l ih =>
        rw [List.dropWhile_cons] at hl
        split at hl
        · next hc => simp only [List.all_cons, hc, ih hl, Bool.and_self]
        · exact absurd hl (List.cons_ne_nil _ _)
    have h1 := hs _ h
    rw [List.all_reverse] at h1
    have h2 : (trimStartChars cs).dropWhile isBlankChar = trimStartChars cs := by
      exact dropWhile_dropWhile _ _
    have h3 := dropWhile_eq_nil_of_all h1
    rw [h2] at h3
    exact hs cs h3
  · intro h
    have h0 : trimStartChars cs = [] := dropWhile_eq_nil_of_all h
    simp only [trimChars, h0, trimEndChars, List.reverse_nil, List.dropWhile_nil]

theorem trimChars_sublist (cs : List Char) : (trimChars cs).Sublist cs := by
  have hstart : (trimStartChars cs).Sublist cs := List.dropWhile_sublist isBlankChar
  have hend := (List.dropWhile_sublist isBlankChar (l := (trimStartChars cs).reverse)).reverse
  rw [List.reverse_reverse] at hend
  exact hend.trans hstart

/-- A text that loses no character by trimming is trimmed already. -/
theorem trim_eq_of_length {s : String} (h : (trim s).toList.length = s.toList.length) :
    trim s = s := by
  have hlist : (trim s).toList = trimChars s.toList := String.toList_ofList
  rw [hlist] at h
  exact String.toList_inj.mp (hlist.trans ((trimChars_sublist s.toList).eq_of_length h))

end DeviceGateway.Text
