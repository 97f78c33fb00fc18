import DeviceGateway.Json.Skip
import DeviceGateway.Proofs.Certificate.Claimed
import DeviceGateway.Proofs.Config.Settings
import DeviceGateway.Proofs.Json.Written
import Mathlib.Data.List.TakeWhile

/-!
# Tokens by their form

A reader of tokens takes the texts of one form and leaves what follows them. A string that is only
passed over needs no meaning: its escapes are looked at one by one, and its octets need not be text.
-/

namespace DeviceGateway.Json

/-! ### Blanks -/

def AreBlanks (bs : Bytes) : Prop := ∀ b ∈ bs, isBlankOctet b = true

theorem AreBlanks.nil : AreBlanks [] := fun _ h => nomatch h

theorem AreBlanks.append {bs cs : Bytes} (hbs : AreBlanks bs) (hcs : AreBlanks cs) :
    AreBlanks (bs ++ cs) := by
  intro b hb
  rcases List.mem_append.mp hb with hb | hb
  · exact hbs b hb
  · exact hcs b hb

theorem skipBlanks_append {bs : Bytes} (h : AreBlanks bs) (rest : Bytes) :
    skipBlanks (bs ++ rest) = skipBlanks rest :=
  List.dropWhile_append_of_pos h

theorem skipBlanks_cons {b : UInt8} (hb : isBlankOctet b = false) (rest : Bytes) :
    skipBlanks (b :: rest) = b :: rest :=
  List.dropWhile_cons_of_neg (by rw [hb]; exact Bool.false_ne_true)

theorem skipBlanks_append_cons {bs : Bytes} (h : AreBlanks bs) {b : UInt8}
    (hb : isBlankOctet b = false) (rest : Bytes) : skipBlanks (bs ++ b :: rest) = b :: rest := by
  rw [skipBlanks_append h, skipBlanks_cons hb]

theorem exists_blanks (bs : Bytes) : ∃ blanks, AreBlanks blanks ∧ bs = blanks ++ skipBlanks bs :=
  ⟨bs.takeWhile isBlankOctet, fun _ hb => List.mem_takeWhile_imp hb,
    List.takeWhile_append_dropWhile.symm⟩

theorem exists_blanks_of_eq {bs rest : Bytes} (h : skipBlanks bs = rest) :
    ∃ blanks, AreBlanks blanks ∧ bs = blanks ++ rest := by
  subst h
  exact exists_blanks bs

theorem readEnd_eq_ok_iff {bs : Bytes} : readEnd bs = .ok () ↔ AreBlanks bs := by
  unfold readEnd
  constructor
  · intro h
    split at h
    · next hnil =>
      obtain ⟨blanks, hblanks, hbs⟩ := exists_blanks_of_eq hnil
      rw [hbs, List.append_nil]
      exact hblanks
    · cases h
  · intro h
    have hskip := skipBlanks_append h []
    rw [List.append_nil] at hskip
    rw [hskip]
    rfl

/-! ### Words -/

theorem readWord_eq_ok_iff {word bs rest : Bytes} :
    readWord word bs = .ok rest ↔ bs = word ++ rest := by
  induction word generalizing bs with
  | nil => simp [readWord]
  | cons e es ih =>
    cases bs with
    | nil => simp [readWord, failConsumed]
    | cons b bs =>
      rw [readWord]
      by_cases hb : b = e
      · rw [if_pos hb, ih, hb, List.cons_append, List.cons.injEq, and_iff_right rfl]
      · rw [if_neg hb]
        simp [failConsumed, hb]

/-! ### Numbers -/

def AreDigits (bs : Bytes) : Prop := ∀ b ∈ bs, isDigit b = true

/-- Nothing that would go on with a number comes first. -/
def EndsNumber (rest : Bytes) : Prop :=
  ∀ b ∈ rest.head?, isDigit b = false ∧ b ≠ 0x2E ∧ b ≠ 0x65 ∧ b ≠ 0x45

inductive IsWhole : Bytes → Prop where
  | zero : IsWhole [0x30]
  | other {d : UInt8} {ds : Bytes} (hd : isDigit d = true) (hzero : d ≠ 0x30)
      (hds : AreDigits ds) : IsWhole (d :: ds)

inductive IsFraction : Bytes → Prop where
  | none : IsFraction []
  | some {d : UInt8} {ds : Bytes} (hd : isDigit d = true) (hds : AreDigits ds) :
      IsFraction (0x2E :: d :: ds)

inductive IsExponent : Bytes → Prop where
  | none : IsExponent []
  | some {mark d : UInt8} {sign ds : Bytes} (hmark : mark = 0x65 ∨ mark = 0x45)
      (hsign : sign = [] ∨ sign = [0x2B] ∨ sign = [0x2D]) (hd : isDigit d = true)
      (hds : AreDigits ds) : IsExponent (mark :: (sign ++ d :: ds))

inductive IsNumber : Bytes → Prop where
  | mk {w f e : Bytes} (hw : IsWhole w) (hf : IsFraction f) (he : IsExponent e) :
      IsNumber (w ++ (f ++ e))

theorem exists_digits (bs : Bytes) : ∃ ds, AreDigits ds ∧ bs = ds ++ bs.dropWhile isDigit :=
  ⟨bs.takeWhile isDigit, fun _ hb => List.mem_takeWhile_imp hb,
    List.takeWhile_append_dropWhile.symm⟩

theorem dropWhile_digits {ds rest : Bytes} (hds : AreDigits ds)
    (hrest : ∀ b ∈ rest.head?, isDigit b = false) : (ds ++ rest).dropWhile isDigit = rest := by
  rw [List.dropWhile_append_of_pos hds]
  cases rest with
  | nil => rfl
  | cons b rest =>
    have hb := hrest b rfl
    exact List.dropWhile_cons_of_neg (by rw [hb]; exact Bool.false_ne_true)

/-- What is skipped after the sign of an exponent: at least one digit. -/
def skipDigits : Bytes → Except Problem Bytes
  | [] => failConsumed .invalidNumber []
  | b :: rest =>
    if isDigit b then .ok (rest.dropWhile isDigit) else failConsumed .invalidNumber rest

theorem skipDigits_eq_ok {cs rest : Bytes} (h : skipDigits cs = .ok rest) :
    ∃ d ds, isDigit d = true ∧ AreDigits ds ∧ cs = d :: (ds ++ rest) := by
  cases cs with
  | nil => cases h
  | cons d cs =>
    simp only [skipDigits] at h
    split at h
    · next hd =>
      cases h
      obtain ⟨ds, hds, hcs⟩ := exists_digits cs
      exact ⟨d, ds, hd, hds, congrArg (d :: ·) hcs⟩
    · cases h

theorem skipExponent_eq_ok {bs rest : Bytes} (h : skipExponent bs = .ok rest) :
    ∃ sign d ds, (sign = [] ∨ sign = [0x2B] ∨ sign = [0x2D]) ∧ isDigit d = true ∧ AreDigits ds ∧
      bs = sign ++ d :: (ds ++ rest) := by
  unfold skipExponent at h
  split at h
  · obtain ⟨d, ds, hd, hds, rfl⟩ := skipDigits_eq_ok h
    exact ⟨[0x2B], d, ds, .inr (.inl rfl), hd, hds, rfl⟩
  · obtain ⟨d, ds, hd, hds, rfl⟩ := skipDigits_eq_ok h
    exact ⟨[0x2D], d, ds, .inr (.inr rfl), hd, hds, rfl⟩
  · obtain ⟨d, ds, hd, hds, rfl⟩ := skipDigits_eq_ok h
    exact ⟨[], d, ds, .inl rfl, hd, hds, rfl⟩

theorem ne_sign_of_isDigit {d : UInt8} (hd : isDigit d = true) : d ≠ 0x2B ∧ d ≠ 0x2D := by
  constructor
  · rintro rfl
    cases hd
  · rintro rfl
    cases hd

theorem skipExponent_append {sign ds rest : Bytes} {d : UInt8}
    (hsign : sign = [] ∨ sign = [0x2B] ∨ sign = [0x2D]) (hd : isDigit d = true)
    (hds : AreDigits ds) (hrest : EndsNumber rest) :
    skipExponent (sign ++ d :: (ds ++ rest)) = .ok rest := by
  have hdrop := dropWhile_digits hds fun b hb => (hrest b hb).1
  obtain ⟨hplus, hminus⟩ := ne_sign_of_isDigit hd
  rcases hsign with rfl | rfl | rfl
  · rw [List.nil_append, skipExponent.eq_def]
    split
    · next heq => exact (hplus (List.cons.inj heq).1).elim
    · next heq => exact (hminus (List.cons.inj heq).1).elim
    · simp only [hd, if_true, hdrop]
  · simp only [List.cons_append, List.nil_append, skipExponent, hd, if_true, hdrop]
  · simp only [List.cons_append, List.nil_append, skipExponent, hd, if_true, hdrop]

/-- What may follow the decimal places of a number. -/
def skipExponentOrEnd (bs : Bytes) : Except Problem Bytes :=
  match bs with
  | 0x65 :: rest => skipExponent rest
  | 0x45 :: rest => skipExponent rest
  | rest => .ok rest

theorem skipExponentOrEnd_eq_ok {bs rest : Bytes} (h : skipExponentOrEnd bs = .ok rest) :
    ∃ e, IsExponent e ∧ bs = e ++ rest := by
  unfold skipExponentOrEnd at h
  split at h
  · obtain ⟨sign, d, ds, hsign, hd, hds, rfl⟩ := skipExponent_eq_ok h
    exact ⟨_, .some (.inl rfl) hsign hd hds, by simp⟩
  · obtain ⟨sign, d, ds, hsign, hd, hds, rfl⟩ := skipExponent_eq_ok h
    exact ⟨_, .some (.inr rfl) hsign hd hds, by simp⟩
  · cases h
    exact ⟨[], .none, rfl⟩

theorem skipExponentOrEnd_append {e rest : Bytes} (he : IsExponent e) (hrest : EndsNumber rest) :
    skipExponentOrEnd (e ++ rest) = .ok rest := by
  cases he with
  | none =>
    rw [List.nil_append, skipExponentOrEnd.eq_def]
    split
    · exact ((hrest _ rfl).2.2.1 rfl).elim
    · exact ((hrest _ rfl).2.2.2 rfl).elim
    · rfl
  | @some mark d sign ds hmark hsign hd hds =>
    have hskip := skipExponent_append hsign hd hds hrest
    rw [List.cons_append, List.append_assoc, List.cons_append]
    rcases hmark with rfl | rfl
    · exact hskip
    · exact hskip

theorem skipFraction_eq_ok {bs rest : Bytes} (h : skipFraction bs = .ok rest) :
    ∃ f e, IsFraction f ∧ IsExponent e ∧ bs = f ++ (e ++ rest) := by
  unfold skipFraction at h
  split at h
  · split at h
    · cases h
    · next d cs =>
      split at h
      · next hd =>
        obtain ⟨ds, hds, hcs⟩ := exists_digits cs
        obtain ⟨e, he, hexp⟩ := skipExponentOrEnd_eq_ok h
        refine ⟨0x2E :: d :: ds, e, .some hd hds, he, ?_⟩
        rw [hcs, hexp]
        rfl
      · cases h
  · obtain ⟨e, he, hexp⟩ := @skipExponentOrEnd_eq_ok (0x65 :: _) _ h
    exact ⟨[], e, .none, he, hexp⟩
  · obtain ⟨e, he, hexp⟩ := @skipExponentOrEnd_eq_ok (0x45 :: _) _ h
    exact ⟨[], e, .none, he, hexp⟩
  · cases h
    exact ⟨[], [], .none, .none, rfl⟩

theorem not_isDigit_of_isExponent {e rest : Bytes} (he : IsExponent e) (hrest : EndsNumber rest) :
    ∀ b ∈ (e ++ rest).head?, isDigit b = false ∧ b ≠ 0x2E := by
  cases he with
  | none =>
    intro b hb
    exact ⟨(hrest b hb).1, (hrest b hb).2.1⟩
  | some hmark hsign hd hds =>
    intro b hb
    cases hb
    rcases hmark with rfl | rfl
    · decide
    · decide

theorem skipFraction_append {f e rest : Bytes} (hf : IsFraction f) (he : IsExponent e)
    (hrest : EndsNumber rest) : skipFraction (f ++ (e ++ rest)) = .ok rest := by
  have hexp := skipExponentOrEnd_append he hrest
  have hnext := not_isDigit_of_isExponent he hrest
  cases hf with
  | none =>
    rw [List.nil_append, skipFraction.eq_def]
    split
    · next heq =>
      rw [heq] at hnext
      exact ((hnext _ rfl).2 rfl).elim
    · next heq =>
      rw [heq] at hexp
      exact hexp
    · next heq =>
      rw [heq] at hexp
      exact hexp
    · next hsmall hlarge =>
      rw [skipExponentOrEnd.eq_3 _ hsmall hlarge] at hexp
      exact hexp
  | @some d ds hd hds =>
    have hdrop := dropWhile_digits hds fun b hb => (hnext b hb).1
    have hstep : skipFraction (0x2E :: d :: (ds ++ (e ++ rest))) =
        if isDigit d then skipExponentOrEnd ((ds ++ (e ++ rest)).dropWhile isDigit)
        else failPeeked .invalidNumber (d :: (ds ++ (e ++ rest))) := rfl
    rw [List.cons_append, List.cons_append, hstep, if_pos hd, hdrop, hexp]

theorem skipNumber_eq_ok {bs rest : Bytes} (h : skipNumber bs = .ok rest) :
    ∃ n, IsNumber n ∧ bs = n ++ rest := by
  cases bs with
  | nil => cases h
  | cons b bs =>
    simp only [skipNumber] at h
    split at h
    · next hzero =>
      subst hzero
      split at h
      · cases h
        exact ⟨_, .mk .zero .none .none, rfl⟩
      · split at h
        · cases h
        · obtain ⟨f, e, hf, he, hbs⟩ := skipFraction_eq_ok h
          refine ⟨_, .mk .zero hf he, ?_⟩
          rw [hbs]
          simp
    · next hzero =>
      split at h
      · next hb =>
        obtain ⟨ds, hds, hbs⟩ := exists_digits bs
        obtain ⟨f, e, hf, he, hexp⟩ := skipFraction_eq_ok h
        refine ⟨_, .mk (.other hb hzero hds) hf he, ?_⟩
        rw [hbs, hexp]
        simp
      · cases h

theorem not_isDigit_of_isFraction {f e rest : Bytes} (hf : IsFraction f) (he : IsExponent e)
    (hrest : EndsNumber rest) : ∀ b ∈ (f ++ (e ++ rest)).head?, isDigit b = false := by
  cases hf with
  | none => exact fun b hb => (not_isDigit_of_isExponent he hrest b hb).1
  | some hd hds =>
    intro b hb
    cases hb
    rfl

theorem skipNumber_append {n rest : Bytes} (hn : IsNumber n) (hrest : EndsNumber rest) :
    skipNumber (n ++ rest) = .ok rest := by
  obtain ⟨hw, hf, he⟩ := hn
  next w f e =>
  have htail := skipFraction_append hf he hrest
  have hnext := not_isDigit_of_isFraction hf he hrest
  rw [List.append_assoc, List.append_assoc]
  cases hw with
  | zero =>
    rw [List.singleton_append, skipNumber.eq_def]
    simp only [if_true]
    cases hafter : f ++ (e ++ rest) with
    | nil =>
      rw [hafter] at htail
      exact htail
    | cons d cs =>
      rw [hafter] at htail hnext
      have hd := hnext d rfl
      simp only [hd, Bool.false_eq_true, if_false, htail]
  | other hd hzero hds =>
    have hdrop := dropWhile_digits hds hnext
    simp only [List.cons_append, skipNumber, if_neg hzero, hd, if_true, hdrop, htail]

/-! ### Strings that are passed over -/

/-- The content of a string without its quotes. -/
inductive IsStringBody : Bytes → Prop where
  | nil : IsStringBody []
  | ordinary {b : UInt8} {w : Bytes} (hb : IsOrdinary b) (hw : IsStringBody w) :
      IsStringBody (b :: w)
  | simple {e : UInt8} {w : Bytes} (he : (simpleEscape? e).isSome = true) (hw : IsStringBody w) :
      IsStringBody (0x5C :: e :: w)
  | hex {a b c d : UInt8} {w : Bytes} (hn : (hex4? a b c d).isSome = true) (hw : IsStringBody w) :
      IsStringBody (0x5C :: 0x75 :: a :: b :: c :: d :: w)

theorem skipString_eq_ok {bs rest : Bytes} (h : skipString bs = .ok rest) :
    ∃ w, IsStringBody w ∧ bs = w ++ 0x22 :: rest := by
  fun_induction skipString bs with
  | case2 =>
    cases h
    exact ⟨[], .nil, rfl⟩
  | case5 a b c d cs n hn hne ih =>
    obtain ⟨w, hw, rfl⟩ := ih h
    have hhex : (hex4? a b c d).isSome = true := by rw [hn]; rfl
    exact ⟨_, .hex hhex hw, rfl⟩
  | case7 e cs hu he hne ih =>
    obtain ⟨w, hw, rfl⟩ := ih h
    exact ⟨_, .simple he hw, rfl⟩
  | case10 b cs hquote hescape hcontrol ih =>
    obtain ⟨w, hw, rfl⟩ := ih h
    exact ⟨_, .ordinary ⟨hquote, hescape, hcontrol⟩ hw, rfl⟩
  | _ => cases h

theorem skipString_append {w : Bytes} (hw : IsStringBody w) (rest : Bytes) :
    skipString (w ++ 0x22 :: rest) = .ok rest := by
  induction hw with
  | nil =>
    rw [List.nil_append, skipString.eq_def]
    rfl
  | @ordinary b w hb hw ih =>
    rw [List.cons_append, skipString.eq_def]
    simp only [if_neg hb.1, if_neg hb.2.1, if_neg hb.2.2]
    exact ih
  | @simple e w he hw ih =>
    have hu : e ≠ 0x75 := by
      rintro rfl
      cases he
    have hquote : ¬ (0x5C : UInt8) = 0x22 := by decide
    rw [List.cons_append, List.cons_append, skipString.eq_def]
    simp only [if_neg hquote, if_true, if_neg hu, he]
    exact ih
  | @hex a b c d w hn hw ih =>
    obtain ⟨n, hn⟩ := Option.isSome_iff_exists.mp hn
    have hquote : ¬ (0x5C : UInt8) = 0x22 := by decide
    simp only [List.cons_append]
    rw [skipString.eq_def]
    simp only [if_neg hquote, if_true, hn]
    exact ih

/-! ### Strings with their meaning -/

/-- The code point of a pair of escapes. -/
def pairedPoint (n m : Nat) : Nat := (n - 0xD800) * 1024 + (m - 0xDC00) + 0x10000

/-- What the content of a string stands for: an octet for itself, an escape for a character. -/
inductive Unescapes : Bytes → Bytes → Prop where
  | nil : Unescapes [] []
  | ordinary {b : UInt8} {w c : Bytes} (hb : IsOrdinary b) (hw : Unescapes w c) :
      Unescapes (b :: w) (b :: c)
  | simple {e x : UInt8} {w c : Bytes} (he : simpleEscape? e = some x) (hw : Unescapes w c) :
      Unescapes (0x5C :: e :: w) (x :: c)
  | single {h1 h2 h3 h4 : UInt8} {n : Nat} {w c : Bytes} (hn : hex4? h1 h2 h3 h4 = some n)
      (hrange : n < 0xD800 ∨ 0xDFFF < n) (hw : Unescapes w c) :
      Unescapes (0x5C :: 0x75 :: h1 :: h2 :: h3 :: h4 :: w) (Utf8.encodeChar (Char.ofNat n) ++ c)
  | pair {h1 h2 h3 h4 l1 l2 l3 l4 : UInt8} {n m : Nat} {w c : Bytes}
      (hn : hex4? h1 h2 h3 h4 = some n) (hhigh : 0xD800 ≤ n ∧ n ≤ 0xDBFF)
      (hm : hex4? l1 l2 l3 l4 = some m) (hlow : 0xDC00 ≤ m ∧ m ≤ 0xDFFF) (hw : Unescapes w c) :
      Unescapes
        (0x5C :: 0x75 :: h1 :: h2 :: h3 :: h4 :: 0x5C :: 0x75 :: l1 :: l2 :: l3 :: l4 :: w)
        (Utf8.encodeChar (Char.ofNat (pairedPoint n m)) ++ c)

theorem Unescapes.isStringBody {w c : Bytes} (h : Unescapes w c) : IsStringBody w := by
  induction h with
  | nil => exact .nil
  | ordinary hb _ ih => exact .ordinary hb ih
  | simple he _ ih => exact .simple (by rw [he]; rfl) ih
  | single hn _ _ ih => exact .hex (by rw [hn]; rfl) ih
  | pair hn _ hm _ _ ih => exact .hex (by rw [hn]; rfl) (.hex (by rw [hm]; rfl) ih)

theorem readStringFrom_eq_ok {acc bs content rest : Bytes}
    (h : readStringFrom acc bs = .ok (content, rest)) :
    ∃ w c, Unescapes w c ∧ bs = w ++ 0x22 :: rest ∧ content = acc.reverse ++ c := by
  -- the end of the string and the four kinds of content; every other case is a fault
  fun_induction readStringFrom acc bs with
  | case2 =>
    cases h
    exact ⟨[], [], .nil, rfl, (List.append_nil _).symm⟩
  | case6 acc h1 h2 h3 h4 cs n hn hlow hrange hne ih =>
    obtain ⟨w, c, hw, rfl, hcontent⟩ := ih h
    have hsingle : n < 0xD800 ∨ 0xDFFF < n := by omega
    refine ⟨_, _, .single hn hsingle hw, rfl, ?_⟩
    simp [hcontent]
  | case13 acc h1 h2 h3 h4 n hn hlow hrange s hs u hu l1 l2 l3 l4 cs m hm hsecond v hne ih =>
    obtain ⟨w, c, hw, rfl, hcontent⟩ := ih h
    obtain rfl := not_not.mp hs
    obtain rfl := not_not.mp hu
    have hfirst : 0xD800 ≤ n ∧ n ≤ 0xDBFF := by omega
    have hlast : 0xDC00 ≤ m ∧ m ≤ 0xDFFF := by omega
    refine ⟨_, _, .pair hn hfirst hm hlast hw, rfl, ?_⟩
    simp [hcontent, v, pairedPoint]
  | case16 acc e cs hu x hx hne ih =>
    obtain ⟨w, c, hw, rfl, hcontent⟩ := ih h
    refine ⟨_, _, .simple hx hw, rfl, ?_⟩
    simp [hcontent]
  | case19 acc b cs hquote hescape hcontrol ih =>
    obtain ⟨w, c, hw, rfl, hcontent⟩ := ih h
    refine ⟨_, _, .ordinary ⟨hquote, hescape, hcontrol⟩ hw, rfl, ?_⟩
    simp [hcontent]
  | _ => cases h

theorem readStringFrom_single {h1 h2 h3 h4 : UInt8} {n : Nat} (hn : hex4? h1 h2 h3 h4 = some n)
    (hrange : n < 0xD800 ∨ 0xDFFF < n) (acc rest : Bytes) :
    readStringFrom acc (0x5C :: 0x75 :: h1 :: h2 :: h3 :: h4 :: rest) =
      readStringFrom ((Utf8.encodeChar (Char.ofNat n)).reverse ++ acc) rest := by
  have hquote : ¬ (0x5C : UInt8) = 0x22 := by decide
  have hlow : ¬ (0xDC00 ≤ n ∧ n ≤ 0xDFFF) := by omega
  have hsingle : n < 0xD800 ∨ 0xDBFF < n := by omega
  rw [readStringFrom.eq_def]
  simp only [if_neg hquote, if_true, hn, if_neg hlow, if_pos hsingle]

theorem readStringFrom_pair {h1 h2 h3 h4 l1 l2 l3 l4 : UInt8} {n m : Nat}
    (hn : hex4? h1 h2 h3 h4 = some n) (hhigh : 0xD800 ≤ n ∧ n ≤ 0xDBFF)
    (hm : hex4? l1 l2 l3 l4 = some m) (hlow : 0xDC00 ≤ m ∧ m ≤ 0xDFFF) (acc rest : Bytes) :
    readStringFrom acc
        (0x5C :: 0x75 :: h1 :: h2 :: h3 :: h4 :: 0x5C :: 0x75 :: l1 :: l2 :: l3 :: l4 :: rest) =
      readStringFrom ((Utf8.encodeChar (Char.ofNat (pairedPoint n m))).reverse ++ acc) rest := by
  have hquote : ¬ (0x5C : UInt8) = 0x22 := by decide
  have hlone : ¬ (0xDC00 ≤ n ∧ n ≤ 0xDFFF) := by omega
  have hsingle : ¬ (n < 0xD800 ∨ 0xDBFF < n) := by omega
  have hsecond : ¬ (m < 0xDC00 ∨ 0xDFFF < m) := by omega
  rw [readStringFrom.eq_def]
  simp only [if_neg hquote, if_true, hn, if_neg hlone, if_neg hsingle, ne_eq, not_true_eq_false,
    if_false, hm, if_neg hsecond]
  rfl

theorem readStringFrom_append {w c : Bytes} (hw : Unescapes w c) (acc rest : Bytes) :
    readStringFrom acc (w ++ 0x22 :: rest) = .ok (acc.reverse ++ c, rest) := by
  induction hw generalizing acc with
  | nil =>
    rw [List.nil_append, readStringFrom.eq_def, List.append_nil]
    rfl
  | @ordinary b w c hb hw ih =>
    have hone : ∀ d ∈ [b], IsOrdinary d := by simpa using hb
    have hstep := readStringFrom_ordinary hone acc (w ++ 0x22 :: rest)
    rw [List.cons_append]
    refine hstep.trans ?_
    rw [ih]
    simp
  | @simple e x w c he hw ih =>
    have hu : e ≠ 0x75 := by
      rintro rfl
      cases he
    rw [List.cons_append, List.cons_append, readStringFrom_simple hu he, ih]
    simp
  | single hn hrange hw ih =>
    simp only [List.cons_append]
    rw [readStringFrom_single hn hrange, ih]
    simp
  | pair hn hhigh hm hlow hw ih =>
    simp only [List.cons_append]
    rw [readStringFrom_pair hn hhigh hm hlow, ih]
    simp

/-- A string reads as a text exactly if its content stands for the octets of the text. -/
theorem readString_eq_ok_iff {bs rest : Bytes} {s : String} :
    readString bs = .ok (s, rest) ↔
      ∃ w, Unescapes w (Utf8.encodeText s) ∧ bs = w ++ 0x22 :: rest := by
  constructor
  · intro h
    obtain ⟨⟨content, after⟩, hcontent, htext⟩ := bind_eq_ok h
    obtain ⟨w, c, hw, rfl, hc⟩ := readStringFrom_eq_ok hcontent
    obtain rfl : content = c := hc
    cases hdecode : Utf8.decodeText? content with
    | none =>
      simp only [hdecode] at htext
      cases htext
    | some t =>
      simp only [hdecode] at htext
      cases htext
      refine ⟨w, ?_, rfl⟩
      rw [(Utf8.decodeText?_eq_some_iff _ _).mp hdecode]
      exact hw
  · rintro ⟨w, hw, rfl⟩
    have hread := readStringFrom_append hw [] rest
    have hdecode := Utf8.decodeText?_encodeText s
    simp only [readString, hread, Bind.bind, Except.bind, List.reverse_nil, List.nil_append,
      hdecode]

end DeviceGateway.Json
