import DeviceGateway.Pem.Section

/-!
# Bodies that were written

A body that holds octets in base64 is read as these octets, wherever its lines break. The reader
takes eight characters at a time where the writer gives four.
-/

namespace DeviceGateway

namespace Base64

/-! ### Characters of a body -/

/-- A digit or padding. -/
def IsBodyChar (c : Char) : Prop := c = '=' ∨ ∃ n, n < 64 ∧ digit n = c

theorem isBodyChar_of_mem_encode (bs : Bytes) : ∀ c ∈ encode bs, IsBodyChar c := by
  have hdigit : ∀ {n}, n < 64 → IsBodyChar (digit n) := fun h => .inr ⟨_, h, rfl⟩
  fun_induction encode bs with
  | case1 => simp
  | case2 a v =>
    have ha := a.toNat_lt
    have h1 := hdigit (show v / 64 < 64 by omega)
    have h2 := hdigit (show v % 64 < 64 by omega)
    have hpad : IsBodyChar '=' := .inl rfl
    simp [h1, h2, hpad]
  | case3 a b v =>
    have ha := a.toNat_lt
    have hb := b.toNat_lt
    have h1 := hdigit (show v / 4096 < 64 by omega)
    have h2 := hdigit (show v / 64 % 64 < 64 by omega)
    have h3 := hdigit (show v % 64 < 64 by omega)
    have hpad : IsBodyChar '=' := .inl rfl
    simp [h1, h2, h3, hpad]
  | case4 a b c rest v ih =>
    have ha := a.toNat_lt
    have hb := b.toNat_lt
    have hc := c.toNat_lt
    have h1 := hdigit (show v / 262144 < 64 by omega)
    have h2 := hdigit (show v / 4096 % 64 < 64 by omega)
    have h3 := hdigit (show v / 64 % 64 < 64 by omega)
    have h4 := hdigit (show v % 64 < 64 by omega)
    simp only [List.mem_cons]
    rintro x (rfl | rfl | rfl | rfl | hx)
    · exact h1
    · exact h2
    · exact h3
    · exact h4
    · exact ih x hx

end Base64

namespace Pem

open Base64 (digit IsBodyChar)

def bodyOctet (c : Char) : UInt8 := UInt8.ofNat c.toNat

theorem digit_octet : ∀ n, n < 64 → Utf8.encodeChar (digit n) = [bodyOctet (digit n)] ∧
    bodyOctet (digit n) ≠ 0x2D ∧ isSpacing (bodyOctet (digit n)) = false ∧
    bodyOctet (digit n) ≠ 0x3D ∧ bodyOctet (digit n) < 0x80 ∧
    Char.ofNat (bodyOctet (digit n)).toNat = digit n := by
  decide

theorem encodeChar_of_isBodyChar {c : Char} (h : IsBodyChar c) :
    Utf8.encodeChar c = [bodyOctet c] ∧ bodyOctet c ≠ 0x2D ∧ isSpacing (bodyOctet c) = false := by
  rcases h with rfl | ⟨n, hn, rfl⟩
  · decide
  · obtain ⟨hencode, hdash, hspacing, -⟩ := digit_octet n hn
    exact ⟨hencode, hdash, hspacing⟩

theorem of_mem_encode {cs : List Char} (h : ∀ c ∈ cs, IsBodyChar c) {b : UInt8}
    (hb : b ∈ Utf8.encode cs) : b ≠ 0x2D ∧ isSpacing b = false := by
  obtain ⟨c, hc, hbc⟩ := List.mem_flatMap.mp hb
  obtain ⟨hencode, hoctet⟩ := encodeChar_of_isBodyChar (h c hc)
  rw [hencode, List.mem_singleton] at hbc
  rw [hbc]
  exact hoctet

/-- What a character of a body counts for. -/
def symbolOf (c : Char) : Symbol := if c = '=' then .pad else .digit ((Base64.value? c).getD 0)

theorem symbolOf_digit {n : Nat} (h : n < 64) : symbolOf (digit n) = .digit n := by
  simp only [symbolOf, if_neg (Base64.digit_ne_pad n h), Base64.value?_digit n h, Option.getD_some]

theorem readSymbols_cons {c : Char} (h : IsBodyChar c) (rest : Bytes) :
    readSymbols (bodyOctet c :: rest) = (readSymbols rest).map (symbolOf c :: ·) := by
  rcases h with rfl | ⟨n, hn, rfl⟩
  · rfl
  · obtain ⟨-, -, hspacing, hpad, hascii, hchar⟩ := digit_octet n hn
    rw [symbolOf_digit hn, readSymbols]
    simp only [hspacing, Bool.false_eq_true, if_false, hpad, hascii, if_true, hchar,
      Base64.value?_digit n hn]

theorem readSymbols_encode {cs : List Char} (h : ∀ c ∈ cs, IsBodyChar c) :
    readSymbols (Utf8.encode cs) = .ok (cs.map symbolOf) := by
  induction cs with
  | nil => rfl
  | cons c cs ih =>
    have hc := h c (List.mem_cons_self ..)
    have hcs := ih fun d hd => h d (List.mem_cons_of_mem c hd)
    rw [Utf8.encode_cons, (encodeChar_of_isBodyChar hc).1, List.singleton_append,
      readSymbols_cons hc, hcs]
    rfl

/-! ### Spacing in a body -/

theorem readSymbols_filter (body : Bytes) :
    readSymbols (body.filter (!isSpacing ·)) = readSymbols body := by
  induction body with
  | nil => rfl
  | cons b body ih =>
    cases hb : isSpacing b <;> simp [readSymbols, hb, ih]

/-- A body that holds octets, with spacing anywhere. -/
def LaysOut (body der : Bytes) : Prop :=
  body.filter (!isSpacing ·) = Utf8.encode (Base64.encode der)

/-- No line of such a body can be taken for a marker. -/
theorem LaysOut.not_mem_dash {body der : Bytes} (h : LaysOut body der) : 0x2D ∉ body := by
  intro hdash
  have hkept : 0x2D ∈ body.filter (!isSpacing ·) := List.mem_filter.mpr ⟨hdash, by decide⟩
  rw [h] at hkept
  exact (of_mem_encode (Base64.isBodyChar_of_mem_encode der) hkept).1 rfl

theorem filter_encode_wrap {fuel : Nat} {cs : List Char} (hfuel : cs.length ≤ fuel)
    (h : ∀ c ∈ cs, IsBodyChar c) :
    (Utf8.encode (wrap fuel cs)).filter (!isSpacing ·) = Utf8.encode cs := by
  induction fuel generalizing cs with
  | zero =>
    obtain rfl : cs = [] := List.length_eq_zero_iff.mp (by omega)
    rfl
  | succ fuel ih =>
    unfold wrap
    by_cases hnil : cs = []
    · subst hnil
      rfl
    · have hpos := List.length_pos_iff.mpr hnil
      have htail := @ih (cs.drop 64) (by rw [List.length_drop]; omega)
        fun c hc => h c (List.mem_of_mem_drop hc)
      have hline : (Utf8.encode (cs.take 64)).filter (!isSpacing ·) = Utf8.encode (cs.take 64) := by
        rw [List.filter_eq_self]
        intro b hb
        rw [(of_mem_encode (fun c hc => h c (List.mem_of_mem_take hc)) hb).2]
        rfl
      have hbreak : (Utf8.encodeChar '\n').filter (!isSpacing ·) = [] := by decide
      rw [if_neg (by simpa using hnil), Utf8.encode_append, Utf8.encode_cons, List.filter_append,
        List.filter_append, hline, hbreak, htail, List.nil_append, ← Utf8.encode_append,
        List.take_append_drop]

theorem laysOut_wrap (der : Bytes) :
    LaysOut (Utf8.encode (wrap (Base64.encode der).length (Base64.encode der))) der :=
  filter_encode_wrap (Nat.le_refl _) (Base64.isBodyChar_of_mem_encode der)

/-! ### Groups of four symbols -/

def threeOctets (s t u v : Symbol) : Bytes :=
  [UInt8.ofNat (s.value * 4 + t.value / 16), UInt8.ofNat (t.value % 16 * 16 + u.value / 4),
    UInt8.ofNat (u.value % 4 * 64 + v.value)]

theorem octetsOf_eight {s t u v w x y z : Symbol} (hu : u.value < 64) (hv : v.value < 64)
    (hw : w.value < 64) (hx : x.value < 64) (hy : y.value < 64) (hz : z.value < 64) :
    octetsOf [s, t, u, v, w, x, y, z] = threeOctets s t u v ++ threeOctets w x y z := by
  have hoctet : ∀ m n : Nat, m % 256 = n % 256 → UInt8.ofNat m = UInt8.ofNat n := by
    intro m n h
    apply UInt8.toNat_inj.mp
    rw [UInt8.toNat_ofNat', UInt8.toNat_ofNat']
    exact h
  obtain ⟨n, hn⟩ : ∃ n, n = s.value * 4398046511104 + t.value * 68719476736 +
      u.value * 1073741824 + v.value * 16777216 + w.value * 262144 + x.value * 4096 +
      y.value * 64 + z.value := ⟨_, rfl⟩
  have hfold : octetsOf [s, t, u, v, w, x, y, z] =
      [40, 32, 24, 16, 8, 0].map fun shift => UInt8.ofNat (n >>> shift) := by
    have hvalue : (((((((0 * 64 + s.value) * 64 + t.value) * 64 + u.value) * 64 + v.value) * 64 +
        w.value) * 64 + x.value) * 64 + y.value) * 64 + z.value = n := by omega
    rw [← hvalue]
    rfl
  rw [hfold]
  simp only [threeOctets, List.map_cons, List.map_nil, Nat.shiftRight_eq_div_pow, List.cons_append,
    List.nil_append, List.cons.injEq, and_true]
  refine ⟨hoctet _ _ ?_, hoctet _ _ ?_, hoctet _ _ ?_, hoctet _ _ ?_, hoctet _ _ ?_, hoctet _ _ ?_⟩
  all_goals omega

/-- Four symbols that stand for one to three octets, as many of them padding as octets are missing
from three. -/
structure IsGroup (octets : Bytes) (s t u v : Symbol) : Prop where
  symbols : (Base64.encode octets).map symbolOf = [s, t, u, v]
  bounds : s.value < 64 ∧ t.value < 64 ∧ u.value < 64 ∧ v.value < 64
  value : (threeOctets s t u v).take octets.length = octets
  padding : [s, t, u, v].map (· == .pad) =
    List.replicate (octets.length + 1) false ++ List.replicate (3 - octets.length) true

theorem ofNat_of_eq {n : Nat} {b : UInt8} (h : n = b.toNat) : UInt8.ofNat n = b := by
  rw [h, UInt8.ofNat_toNat]

theorem isGroup_three (a b c : UInt8) : ∃ s t u v, IsGroup [a, b, c] s t u v := by
  have ha := a.toNat_lt
  have hb := b.toNat_lt
  have hc := c.toNat_lt
  obtain ⟨n, hn⟩ : ∃ n, n = (a.toNat * 256 + b.toNat) * 256 + c.toNat := ⟨_, rfl⟩
  refine ⟨.digit (n / 262144), .digit (n / 4096 % 64), .digit (n / 64 % 64), .digit (n % 64),
    ?_, ?_, ?_, rfl⟩
  · rw [Base64.encode]
    simp only [List.map_cons, ← hn]
    rw [symbolOf_digit (by omega), symbolOf_digit (by omega), symbolOf_digit (by omega),
      symbolOf_digit (by omega)]
    rfl
  · simp only [Symbol.value]
    omega
  · simp only [threeOctets, Symbol.value, List.length_cons, List.length_nil, List.take_succ_cons,
      List.take_zero, List.cons.injEq, and_true]
    exact ⟨ofNat_of_eq (by omega), ofNat_of_eq (by omega), ofNat_of_eq (by omega)⟩

theorem isGroup_two (a b : UInt8) : ∃ s t u v, IsGroup [a, b] s t u v := by
  have ha := a.toNat_lt
  have hb := b.toNat_lt
  obtain ⟨n, hn⟩ : ∃ n, n = (a.toNat * 256 + b.toNat) * 4 := ⟨_, rfl⟩
  refine ⟨.digit (n / 4096), .digit (n / 64 % 64), .digit (n % 64), .pad, ?_, ?_, ?_, rfl⟩
  · rw [Base64.encode]
    simp only [List.map_cons, ← hn]
    rw [symbolOf_digit (by omega), symbolOf_digit (by omega), symbolOf_digit (by omega)]
    rfl
  · simp only [Symbol.value]
    omega
  · simp only [threeOctets, Symbol.value, List.length_cons, List.length_nil, List.take_succ_cons,
      List.take_zero, List.cons.injEq, and_true]
    exact ⟨ofNat_of_eq (by omega), ofNat_of_eq (by omega)⟩

theorem isGroup_one (a : UInt8) : ∃ s t u v, IsGroup [a] s t u v := by
  have ha := a.toNat_lt
  obtain ⟨n, hn⟩ : ∃ n, n = a.toNat * 16 := ⟨_, rfl⟩
  refine ⟨.digit (n / 64), .digit (n % 64), .pad, .pad, ?_, ?_, ?_, rfl⟩
  · rw [Base64.encode]
    simp only [List.map_cons, ← hn]
    rw [symbolOf_digit (by omega), symbolOf_digit (by omega)]
    rfl
  · simp only [Symbol.value]
    omega
  · simp only [threeOctets, Symbol.value, List.length_cons, List.length_nil, List.take_succ_cons,
      List.take_zero, List.cons.injEq, and_true]
    exact ofNat_of_eq (by omega)

theorem symbols_cons_three (a b c : UInt8) (rest : Bytes) :
    (Base64.encode (a :: b :: c :: rest)).map symbolOf =
      (Base64.encode [a, b, c]).map symbolOf ++ (Base64.encode rest).map symbolOf := by
  simp only [Base64.encode, List.map_cons, List.map_nil, List.cons_append, List.nil_append]

/-! ### Blocks of eight symbols -/

theorem decodeSymbols_group {octets : Bytes} {s t u v : Symbol} (h : IsGroup octets s t u v)
    (hlength : octets.length = 1 ∨ octets.length = 2 ∨ octets.length = 3) (fuel : Nat) :
    decodeSymbols (fuel + 1) ((Base64.encode octets).map symbolOf) = .ok octets := by
  have hpart : partLength? [s, t, u, v] = some octets.length := by
    have hpadding := h.padding
    rcases hlength with hl | hl | hl
    all_goals
      rw [hl] at hpadding ⊢
      simp only [partLength?, hpadding]
      rfl
  have hpad : Symbol.pad.value < 64 := by decide
  have hoctets : octetsOf [s, t, u, v] = threeOctets s t u v ++ threeOctets .pad .pad .pad .pad :=
    octetsOf_eight h.bounds.2.2.1 h.bounds.2.2.2 hpad hpad hpad hpad
  have htake : octets.length ≤ (threeOctets s t u v).length := by
    simp only [threeOctets, List.length_cons, List.length_nil]
    omega
  rw [h.symbols, decodeSymbols, if_pos (by simp), hpart, hoctets]
  simp only [List.take_append_of_le_length htake, h.value]

/-- A full group and another one are a block; a group with padding ends the body. -/
theorem decodeSymbols_block {full octets : Bytes} {s t u v w x y z : Symbol}
    (hfull : IsGroup full s t u v) (hthree : full.length = 3) (h : IsGroup octets w x y z)
    (hlength : octets.length = 1 ∨ octets.length = 2 ∨ octets.length = 3) {rest : List Symbol}
    (hlast : octets.length = 3 ∨ rest = []) (fuel : Nat) :
    decodeSymbols (fuel + 1) (s :: t :: u :: v :: w :: x :: y :: z :: rest) =
      (decodeSymbols fuel rest).map (full ++ octets ++ ·) := by
  have hpadding : [s, t, u, v, w, x, y, z].map (· == .pad) =
      List.replicate 4 false ++ (List.replicate (octets.length + 1) false ++
        List.replicate (3 - octets.length) true) := by
    rw [← h.padding, show List.replicate 4 false = [s, t, u, v].map (· == .pad) by
      rw [hfull.padding, hthree]
      rfl]
    rfl
  have hwhole : wholeLength? [s, t, u, v, w, x, y, z] = some (3 + octets.length) := by
    rcases hlength with hl | hl | hl
    all_goals
      rw [hl] at hpadding ⊢
      simp only [wholeLength?, hpadding]
      rfl
  have hoctets : (octetsOf [s, t, u, v, w, x, y, z]).take (3 + octets.length) = full ++ octets := by
    obtain ⟨-, -, hu, hv⟩ := hfull.bounds
    obtain ⟨hw, hx, hy, hz⟩ := h.bounds
    have hvalue := hfull.value
    rw [hthree] at hvalue
    rw [octetsOf_eight hu hv hw hx hy hz, show 3 = (threeOctets s t u v).length by rfl,
      List.take_length_add_append, h.value]
    exact congrArg (· ++ octets) hvalue
  have hmiddle : ¬ (3 + octets.length < 6 ∧ (!rest.isEmpty) = true) := by
    rcases hlast with hl | rfl
    · omega
    · simp
  rw [decodeSymbols, if_neg (by simp only [List.length_cons]; omega)]
  simp only [List.take_succ_cons, List.take_zero, List.drop_succ_cons, List.drop_zero, hwhole,
    if_neg hmiddle, hoctets]

/-- What was written in groups of three octets is read in blocks of six. -/
theorem decodeSymbols_encode : ∀ (der : Bytes) (fuel : Nat), der.length < fuel →
    decodeSymbols fuel ((Base64.encode der).map symbolOf) = .ok der
  | _, 0, h => by omega
  | [], _ + 1, _ => rfl
  | [a], fuel + 1, _ => by
    obtain ⟨s, t, u, v, h⟩ := isGroup_one a
    exact decodeSymbols_group h (.inl rfl) fuel
  | [a, b], fuel + 1, _ => by
    obtain ⟨s, t, u, v, h⟩ := isGroup_two a b
    exact decodeSymbols_group h (.inr (.inl rfl)) fuel
  | [a, b, c], fuel + 1, _ => by
    obtain ⟨s, t, u, v, h⟩ := isGroup_three a b c
    exact decodeSymbols_group h (.inr (.inr rfl)) fuel
  | [a, b, c, d], fuel + 1, _ => by
    obtain ⟨s, t, u, v, hfull⟩ := isGroup_three a b c
    obtain ⟨w, x, y, z, h⟩ := isGroup_one d
    rw [symbols_cons_three, hfull.symbols, h.symbols]
    refine (decodeSymbols_block hfull rfl h (.inl rfl) (.inr rfl) fuel).trans ?_
    cases fuel <;> rfl
  | [a, b, c, d, e], fuel + 1, _ => by
    obtain ⟨s, t, u, v, hfull⟩ := isGroup_three a b c
    obtain ⟨w, x, y, z, h⟩ := isGroup_two d e
    rw [symbols_cons_three, hfull.symbols, h.symbols]
    refine (decodeSymbols_block hfull rfl h (.inr (.inl rfl)) (.inr rfl) fuel).trans ?_
    cases fuel <;> rfl
  | a :: b :: c :: d :: e :: f :: rest, fuel + 1, hfuel => by
    obtain ⟨s, t, u, v, hfull⟩ := isGroup_three a b c
    obtain ⟨w, x, y, z, h⟩ := isGroup_three d e f
    have hrest := decodeSymbols_encode rest fuel (by simp only [List.length_cons] at hfuel; omega)
    rw [symbols_cons_three, symbols_cons_three d e f, hfull.symbols, h.symbols]
    simp only [List.cons_append, List.nil_append]
    rw [decodeSymbols_block hfull rfl h (.inr (.inr rfl)) (.inl rfl) fuel, hrest]
    rfl

theorem length_encode (bs : Bytes) : bs.length ≤ (Base64.encode bs).length := by
  fun_induction Base64.encode bs with
  | case1 => simp
  | case2 => simp
  | case3 => simp
  | case4 a b c rest v ih =>
    simp only [List.length_cons]
    omega

theorem decodeBody_of_laysOut {body der : Bytes} (h : LaysOut body der) :
    decodeBody body = .ok der := by
  have hlength := length_encode der
  have hsymbols : readSymbols body = .ok ((Base64.encode der).map symbolOf) := by
    rw [← readSymbols_filter, h, readSymbols_encode (Base64.isBodyChar_of_mem_encode der)]
  unfold decodeBody
  rw [hsymbols]
  exact decodeSymbols_encode der _ (by rw [List.length_map]; omega)

end Pem
end DeviceGateway
