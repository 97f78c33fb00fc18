import DeviceGateway.Bytes.Hex

/-!
# UTF-8

Characters as octets and back. Reading is strict: it refuses overlong forms, surrogates, values
past the last code point and truncated sequences. Reading what was written gives the characters.
-/

namespace DeviceGateway.Utf8

/-! ### Writing -/

def encodeChar (c : Char) : Bytes :=
  let v := c.toNat
  if v < 0x80 then [UInt8.ofNat v]
  else if v < 0x800 then [UInt8.ofNat (0xC0 + v / 64), UInt8.ofNat (0x80 + v % 64)]
  else if v < 0x10000 then
    [UInt8.ofNat (0xE0 + v / 4096), UInt8.ofNat (0x80 + v / 64 % 64), UInt8.ofNat (0x80 + v % 64)]
  else
    [UInt8.ofNat (0xF0 + v / 262144), UInt8.ofNat (0x80 + v / 4096 % 64),
      UInt8.ofNat (0x80 + v / 64 % 64), UInt8.ofNat (0x80 + v % 64)]

def encode (cs : List Char) : Bytes := cs.flatMap encodeChar

theorem encode_cons (c : Char) (cs : List Char) : encode (c :: cs) = encodeChar c ++ encode cs := rfl

theorem encode_append (cs ds : List Char) : encode (cs ++ ds) = encode cs ++ encode ds :=
  List.flatMap_append

/-! ### Reading -/

def tail? (b : UInt8) : Option Nat :=
  if 0x80 ≤ b.toNat ∧ b.toNat < 0xC0 then some (b.toNat - 0x80) else none

/-- The value of a two-octet form, which must not fit one octet. -/
def two? (a b : UInt8) : Option Char := do
  let y ← tail? b
  let v := (a.toNat - 0xC0) * 64 + y
  if 0x80 ≤ v then some (Char.ofNat v) else none

/-- The value of a three-octet form, which must not fit two octets or be a surrogate. -/
def three? (a b c : UInt8) : Option Char := do
  let y ← tail? b
  let z ← tail? c
  let v := (a.toNat - 0xE0) * 4096 + y * 64 + z
  if 0x800 ≤ v ∧ ¬ (0xD800 ≤ v ∧ v < 0xE000) then some (Char.ofNat v) else none

/-- The value of a four-octet form, which must not fit three octets or pass the last code point. -/
def four? (a b c d : UInt8) : Option Char := do
  let x ← tail? b
  let y ← tail? c
  let z ← tail? d
  let v := (a.toNat - 0xF0) * 262144 + x * 4096 + y * 64 + z
  if 0x10000 ≤ v ∧ v < 0x110000 then some (Char.ofNat v) else none

/-- The characters of an octet string, or nothing if any part of it is not UTF-8. -/
def decode? : Bytes → Option (List Char)
  | [] => some []
  | a :: rest =>
    if a.toNat < 0x80 then (decode? rest).map (Char.ofNat a.toNat :: ·)
    else if a.toNat < 0xC0 then none
    else match rest with
      | [] => none
      | b :: rest =>
        if a.toNat < 0xE0 then (two? a b).bind fun ch => (decode? rest).map (ch :: ·)
        else match rest with
          | [] => none
          | c :: rest =>
            if a.toNat < 0xF0 then (three? a b c).bind fun ch => (decode? rest).map (ch :: ·)
            else match rest with
              | [] => none
              | d :: rest =>
                if a.toNat < 0xF8 then (four? a b c d).bind fun ch => (decode? rest).map (ch :: ·)
                else none

/-! ### Round trip -/

theorem toNat_ofNat_add {base v : Nat} (h : base + v < 256) :
    (UInt8.ofNat (base + v)).toNat = base + v := by
  rw [UInt8.toNat_ofNat']; exact Nat.mod_eq_of_lt h

theorem tail?_ofNat {v : Nat} (h : v < 64) : tail? (UInt8.ofNat (0x80 + v)) = some v := by
  simp only [tail?, toNat_ofNat_add (show 0x80 + v < 256 by omega)]
  rw [if_pos (by omega)]
  simp

theorem char_valid (c : Char) : c.toNat < 0xD800 ∨ 0xE000 ≤ c.toNat ∧ c.toNat < 0x110000 := by
  have h := c.valid
  simp only [UInt32.isValidChar, Nat.isValidChar] at h
  simp only [Char.toNat]
  omega

theorem decode?_one (a : UInt8) (rest : Bytes) (h : a.toNat < 0x80) :
    decode? (a :: rest) = (decode? rest).map (Char.ofNat a.toNat :: ·) := by
  rw [decode?.eq_def]
  simp only [if_pos h]

theorem decode?_two (a b : UInt8) (rest : Bytes) (hlo : 0xC0 ≤ a.toNat) (hhi : a.toNat < 0xE0) :
    decode? (a :: b :: rest) = (two? a b).bind fun ch => (decode? rest).map (ch :: ·) := by
  rw [decode?.eq_def]
  simp only [if_neg (show ¬ a.toNat < 0x80 by omega), if_neg (show ¬ a.toNat < 0xC0 by omega)]
  simp only [if_pos hhi]

theorem decode?_three (a b c : UInt8) (rest : Bytes) (hlo : 0xE0 ≤ a.toNat)
    (hhi : a.toNat < 0xF0) :
    decode? (a :: b :: c :: rest) = (three? a b c).bind fun ch => (decode? rest).map (ch :: ·) := by
  rw [decode?.eq_def]
  simp only [if_neg (show ¬ a.toNat < 0x80 by omega), if_neg (show ¬ a.toNat < 0xC0 by omega)]
  simp only [if_neg (show ¬ a.toNat < 0xE0 by omega), if_pos hhi]

theorem decode?_four (a b c d : UInt8) (rest : Bytes) (hlo : 0xF0 ≤ a.toNat)
    (hhi : a.toNat < 0xF8) :
    decode? (a :: b :: c :: d :: rest) =
      (four? a b c d).bind fun ch => (decode? rest).map (ch :: ·) := by
  rw [decode?.eq_def]
  simp only [if_neg (show ¬ a.toNat < 0x80 by omega), if_neg (show ¬ a.toNat < 0xC0 by omega)]
  simp only [if_neg (show ¬ a.toNat < 0xE0 by omega), if_neg (show ¬ a.toNat < 0xF0 by omega),
    if_pos hhi]

theorem two?_ofNat (v : Nat) (hlo : 0x80 ≤ v) (hhi : v < 0x800) :
    two? (UInt8.ofNat (0xC0 + v / 64)) (UInt8.ofNat (0x80 + v % 64)) = some (Char.ofNat v) := by
  have ha := toNat_ofNat_add (show 0xC0 + v / 64 < 256 by omega)
  have hv : (0xC0 + v / 64 - 0xC0) * 64 + v % 64 = v := by omega
  simp only [two?, ha, tail?_ofNat (show v % 64 < 64 by omega), Option.bind_eq_bind,
    Option.bind_some, hv, if_pos hlo]

theorem three?_ofNat (v : Nat) (hlo : 0x800 ≤ v) (hhi : v < 0x10000)
    (hv : v < 0xD800 ∨ 0xE000 ≤ v) :
    three? (UInt8.ofNat (0xE0 + v / 4096)) (UInt8.ofNat (0x80 + v / 64 % 64))
      (UInt8.ofNat (0x80 + v % 64)) = some (Char.ofNat v) := by
  have ha := toNat_ofNat_add (show 0xE0 + v / 4096 < 256 by omega)
  have hsum : (0xE0 + v / 4096 - 0xE0) * 4096 + v / 64 % 64 * 64 + v % 64 = v := by omega
  simp only [three?, ha, tail?_ofNat (show v % 64 < 64 by omega),
    tail?_ofNat (show v / 64 % 64 < 64 by omega), Option.bind_eq_bind, Option.bind_some, hsum]
  rw [if_pos (by omega)]

theorem four?_eq (a b c d : UInt8) :
    four? a b c d = (tail? b).bind fun x => (tail? c).bind fun y => (tail? d).bind fun z =>
      have v := (a.toNat - 0xF0) * 262144 + x * 4096 + y * 64 + z
      if 0x10000 ≤ v ∧ v < 0x110000 then some (Char.ofNat v) else none := rfl

theorem four?_of_tails {a b c d : UInt8} {x y z v : Nat} (hb : tail? b = some x)
    (hc : tail? c = some y) (hd : tail? d = some z)
    (hv : (a.toNat - 0xF0) * 262144 + x * 4096 + y * 64 + z = v) (hlo : 0x10000 ≤ v)
    (hhi : v < 0x110000) : four? a b c d = some (Char.ofNat v) := by
  subst hv
  -- one bind at a time: evaluating them all at once compares the bound with the sum in unary
  rw [four?_eq, hb, hc, hd, Option.bind_some, Option.bind_some, Option.bind_some]
  exact if_pos ⟨hlo, hhi⟩

theorem four?_ofNat (v : Nat) (hlo : 0x10000 ≤ v) (hhi : v < 0x110000) :
    four? (UInt8.ofNat (0xF0 + v / 262144)) (UInt8.ofNat (0x80 + v / 4096 % 64))
      (UInt8.ofNat (0x80 + v / 64 % 64)) (UInt8.ofNat (0x80 + v % 64)) = some (Char.ofNat v) := by
  have ha := toNat_ofNat_add (show 0xF0 + v / 262144 < 256 by omega)
  apply four?_of_tails (tail?_ofNat (by omega)) (tail?_ofNat (by omega)) (tail?_ofNat (by omega)) _
    hlo hhi
  rw [ha]
  omega

theorem decode?_encodeChar_append (c : Char) (rest : Bytes) :
    decode? (encodeChar c ++ rest) = (decode? rest).map (c :: ·) := by
  have hv := char_valid c
  have hc : Char.ofNat c.toNat = c := Char.ofNat_toNat c
  simp only [encodeChar]
  split
  · next h =>
    have h0 := toNat_ofNat_add (show 0 + c.toNat < 256 by omega)
    rw [Nat.zero_add] at h0
    rw [List.cons_append, List.nil_append, decode?_one _ _ (by rw [h0]; exact h), h0, hc]
  · split
    · next h1 h2 =>
      have ha := toNat_ofNat_add (show 0xC0 + c.toNat / 64 < 256 by omega)
      rw [List.cons_append, List.cons_append, List.nil_append,
        decode?_two _ _ _ (by omega) (by omega), two?_ofNat _ (by omega) h2, hc, Option.bind_some]
    · split
      · next h1 h2 h3 =>
        have ha := toNat_ofNat_add (show 0xE0 + c.toNat / 4096 < 256 by omega)
        rw [List.cons_append, List.cons_append, List.cons_append, List.nil_append,
          decode?_three _ _ _ _ (by omega) (by omega), three?_ofNat _ (by omega) h3 (by omega), hc,
          Option.bind_some]
      · next h1 h2 h3 =>
        have ha := toNat_ofNat_add (show 0xF0 + c.toNat / 262144 < 256 by omega)
        rw [List.cons_append, List.cons_append, List.cons_append, List.cons_append, List.nil_append,
          decode?_four _ _ _ _ _ (by omega) (by omega), four?_ofNat _ (by omega) (by omega), hc,
          Option.bind_some]

theorem decode?_encode (cs : List Char) : decode? (encode cs) = some cs := by
  induction cs with
  | nil => rfl
  | cons c cs ih =>
    simp only [encode, List.flatMap_cons] at ih ⊢
    rw [decode?_encodeChar_append, ih]
    rfl

def encodeText (s : String) : Bytes := encode s.toList

theorem encodeText_ofList (cs : List Char) : encodeText (String.ofList cs) = encode cs := by
  simp only [encodeText, String.toList_ofList]

theorem encodeText_append (s t : String) : encodeText (s ++ t) = encodeText s ++ encodeText t := by
  simp only [encodeText, String.toList_append, encode_append]

def decodeText? (bs : Bytes) : Option String := (decode? bs).map String.ofList

theorem decodeText?_encodeText (s : String) : decodeText? (encodeText s) = some s := by
  simp only [decodeText?, encodeText, decode?_encode, Option.map_some, String.ofList_toList]

end DeviceGateway.Utf8
