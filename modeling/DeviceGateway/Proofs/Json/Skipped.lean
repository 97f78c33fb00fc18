import DeviceGateway.Proofs.Json.Tokens

/-!
# Values that are passed over

The grammar of values, and the reader that passes over one. The reader keeps its open brackets in a
list of its own, so what it consumes is a value followed by all that closes them; what it asks of
its fuel is two units for an octet.
-/

namespace DeviceGateway.Json

/-! ### The grammar -/

def nullWord : Bytes := [0x6E, 0x75, 0x6C, 0x6C]

def flagWord : Bool → Bytes
  | true => [0x74, 0x72, 0x75, 0x65]
  | false => [0x66, 0x61, 0x6C, 0x73, 0x65]

inductive IsScalar : Bytes → Prop where
  | null : IsScalar nullWord
  | flag (b : Bool) : IsScalar (flagWord b)
  | number {n : Bytes} (hn : IsNumber n) : IsScalar n
  | negative {n : Bytes} (hn : IsNumber n) : IsScalar (0x2D :: n)
  | string {w : Bytes} (hw : IsStringBody w) : IsScalar (0x22 :: (w ++ [0x22]))

def Bracket.opening : Bracket → UInt8
  | .list => 0x5B
  | .object => 0x7B

/-- A key of some content up to its colon. -/
inductive IsKey (content : Bytes → Prop) : Bytes → Prop where
  | mk {bs w cs : Bytes} (hbs : AreBlanks bs) (hw : content w) (hcs : AreBlanks cs) :
      IsKey content (bs ++ 0x22 :: (w ++ 0x22 :: (cs ++ [0x3A])))

/-- What separates an item from the one before it, if there is one. -/
inductive IsSeparator : Bool → Bytes → Prop where
  | first : IsSeparator false []
  | next {bs : Bytes} (hbs : AreBlanks bs) : IsSeparator true (bs ++ [0x2C])

/-- What stands before the value of an item. -/
inductive IsLead : Bracket → Bytes → Prop where
  | list {bs : Bytes} (hbs : AreBlanks bs) : IsLead .list bs
  | object {key bs : Bytes} (hkey : IsKey IsStringBody key) (hbs : AreBlanks bs) :
      IsLead .object (key ++ bs)

/-- A value, or the rest of a bracket up to its end, after an item or not. -/
inductive Nonterminal where
  | value
  | rest (bracket : Bracket) (comma : Bool)

/-- The texts of each nonterminal. -/
inductive Phrase : Nonterminal → Bytes → Prop where
  | scalar {t : Bytes} (ht : IsScalar t) : Phrase .value t
  | bracket {k : Bracket} {t : Bytes} (ht : Phrase (.rest k false) t) :
      Phrase .value (k.opening :: t)
  | close {k : Bracket} {comma : Bool} {bs : Bytes} (hbs : AreBlanks bs) :
      Phrase (.rest k comma) (bs ++ [k.close])
  | item {k : Bracket} {comma : Bool} {sep lead v t : Bytes} (hsep : IsSeparator comma sep)
      (hlead : IsLead k lead) (hv : Phrase .value v) (ht : Phrase (.rest k true) t) :
      Phrase (.rest k comma) (sep ++ (lead ++ (v ++ t)))

/-- What closes open brackets, innermost first; only the first may still be without an item. -/
inductive Closes : Bool → List Bracket → Bytes → Prop where
  | nil {comma : Bool} : Closes comma [] []
  | cons {comma : Bool} {k : Bracket} {outer : List Bracket} {t u : Bytes}
      (ht : Phrase (.rest k comma) t) (hu : Closes true outer u) :
      Closes comma (k :: outer) (t ++ u)

/-! ### What is consumed -/

theorem skipKey_eq_ok {bs rest : Bytes} (h : skipKey bs = .ok rest) :
    ∃ key, IsKey IsStringBody key ∧ bs = key ++ rest := by
  unfold skipKey at h
  split at h
  · cases h
  · next hquote =>
    obtain ⟨blanks, hblanks, hbs⟩ := exists_blanks_of_eq hquote
    obtain ⟨after, hstring, hafter⟩ := bind_eq_ok h
    obtain ⟨w, hw, rfl⟩ := skipString_eq_ok hstring
    split at hafter
    · next hcolon =>
      cases hafter
      obtain ⟨cs, hcs, rfl⟩ := exists_blanks_of_eq hcolon
      refine ⟨_, .mk hblanks hw hcs, ?_⟩
      rw [hbs]
      simp
    · cases hafter
    · cases hafter
  · cases h

theorem IsKey.imp {content content' : Bytes → Prop} (h : ∀ w, content w → content' w)
    {key : Bytes} (hkey : IsKey content key) : IsKey content' key := by
  obtain ⟨hbs, hw, hcs⟩ := hkey
  exact .mk hbs (h _ hw) hcs

theorem IsKey.blanks_append {content : Bytes → Prop} {bs key : Bytes} (hbs : AreBlanks bs)
    (hkey : IsKey content key) : IsKey content (bs ++ key) := by
  obtain ⟨hcs, hw, hds⟩ := hkey
  rw [← List.append_assoc]
  exact .mk (hbs.append hcs) hw hds

/-- A value stands before what is left, with all that closes the brackets around it. -/
def ItemBefore (open_ : List Bracket) (bs rest : Bytes) : Prop :=
  ∃ blanks v u, AreBlanks blanks ∧ Phrase .value v ∧ Closes true open_ u ∧
    bs = blanks ++ (v ++ (u ++ rest))

/-- What closes brackets stands before what is left. -/
def ClosingBefore (comma : Bool) (open_ : List Bracket) (bs rest : Bytes) : Prop :=
  ∃ u, Closes comma open_ u ∧ bs = u ++ rest

/-- The two readers consume phrases with some fuel. -/
structure ConsumesPhrase (fuel : Nat) : Prop where
  item : ∀ {open_ bs rest}, skipItem open_ fuel bs = .ok rest → ItemBefore open_ bs rest
  after : ∀ {comma open_ bs rest}, skipAfter comma open_ fuel bs = .ok rest →
    ClosingBefore comma open_ bs rest

theorem ConsumesPhrase.item_succ {fuel : Nat} (ih : ConsumesPhrase fuel) {open_ : List Bracket}
    {bs rest : Bytes} (h : skipItem open_ (fuel + 1) bs = .ok rest) :
    ItemBefore open_ bs rest := by
  obtain ⟨blanks, hblanks, hbs⟩ := exists_blanks bs
  have hscalar : ∀ {v after : Bytes}, IsScalar v → skipBlanks bs = v ++ after →
      skipAfter true open_ fuel after = .ok rest → ItemBefore open_ bs rest := by
    intro v after hv htoken hafter
    obtain ⟨u, hu, rfl⟩ := ih.after hafter
    exact ⟨blanks, v, u, hblanks, .scalar hv, hu, by rw [← htoken]; exact hbs⟩
  have hword : ∀ {b : UInt8} {word cs : Bytes}, IsScalar (b :: word) → skipBlanks bs = b :: cs →
      readWord word cs >>= skipAfter true open_ fuel = .ok rest → ItemBefore open_ bs rest := by
    intro b word cs hv htoken hread
    obtain ⟨after, hcs, hafter⟩ := bind_eq_ok hread
    obtain rfl := readWord_eq_ok_iff.mp hcs
    exact hscalar hv htoken hafter
  have hbracket : ∀ {k : Bracket} {after : Bytes}, skipBlanks bs = k.opening :: after →
      skipAfter false (k :: open_) fuel after = .ok rest → ItemBefore open_ bs rest := by
    intro k after htoken hafter
    obtain ⟨closing, hclosing, rfl⟩ := ih.after hafter
    cases hclosing with
    | @cons _ _ _ t u ht hu =>
      refine ⟨blanks, k.opening :: t, u, hblanks, .bracket ht, hu, ?_⟩
      rw [hbs, htoken]
      simp
  rw [skipItem] at h
  split at h
  · cases h
  · next b after htoken =>
    split at h
    · next hb =>
      subst hb
      exact hword .null htoken h
    split at h
    · next hb =>
      subst hb
      exact hword (.flag true) htoken h
    split at h
    · next hb =>
      subst hb
      exact hword (.flag false) htoken h
    split at h
    · next hb =>
      subst hb
      obtain ⟨after', hnumber, hafter⟩ := bind_eq_ok h
      obtain ⟨n, hn, rfl⟩ := skipNumber_eq_ok hnumber
      exact hscalar (.negative hn) htoken hafter
    split at h
    · obtain ⟨after', hnumber, hafter⟩ := bind_eq_ok h
      obtain ⟨n, hn, htext⟩ := skipNumber_eq_ok hnumber
      exact hscalar (.number hn) (htoken.trans htext) hafter
    split at h
    · next hb =>
      subst hb
      obtain ⟨after', hstring, hafter⟩ := bind_eq_ok h
      obtain ⟨w, hw, rfl⟩ := skipString_eq_ok hstring
      refine hscalar (.string hw) ?_ hafter
      rw [htoken]
      simp
    split at h
    · next hb =>
      subst hb
      exact hbracket (k := .list) htoken h
    split at h
    · next hb =>
      subst hb
      exact hbracket (k := .object) htoken h
    · cases h

theorem ConsumesPhrase.after_succ {fuel : Nat} (ih : ConsumesPhrase fuel) {comma : Bool}
    {open_ : List Bracket} {bs rest : Bytes} (h : skipAfter comma open_ (fuel + 1) bs = .ok rest) :
    ClosingBefore comma open_ bs rest := by
  cases open_ with
  | nil =>
    rw [skipAfter] at h
    cases h
    exact ⟨[], .nil, rfl⟩
  | cons k outer =>
    -- the item after a separator, with the lead that stands before its value
    have hitem : ∀ {sep lead cs : Bytes}, IsSeparator comma sep →
        (∀ {blanks}, AreBlanks blanks → IsLead k (lead ++ blanks)) → bs = sep ++ (lead ++ cs) →
        skipItem (k :: outer) fuel cs = .ok rest → ClosingBefore comma (k :: outer) bs rest := by
      intro sep lead cs hsep hlead hbs hskip
      obtain ⟨blanks, v, closing, hblanks, hv, hclosing, rfl⟩ := ih.item hskip
      cases hclosing with
      | @cons _ _ _ t u ht hu =>
        refine ⟨_, .cons (.item hsep (hlead hblanks) hv ht) hu, ?_⟩
        rw [hbs]
        simp
    simp only [skipAfter] at h
    split at h
    · cases h
    · next b after htoken =>
      obtain ⟨blanks, hblanks, hbs⟩ := exists_blanks_of_eq htoken
      split at h
      · next hb =>
        obtain ⟨rfl, rfl⟩ := hb
        have hsep := IsSeparator.next hblanks
        cases k with
        | list =>
          refine @hitem _ [] _ hsep (fun h => .list h) ?_ h
          rw [hbs]
          simp
        | object =>
          obtain ⟨cs, hskip, hcs⟩ := bind_eq_ok h
          obtain ⟨key, hkey, rfl⟩ := skipKey_eq_ok hskip
          refine hitem hsep (fun h => .object hkey h) ?_ hcs
          rw [hbs]
          simp
      split at h
      · next hb =>
        subst hb
        obtain ⟨u, hu, rfl⟩ := ih.after h
        refine ⟨_, .cons (.close hblanks) hu, ?_⟩
        rw [hbs]
        simp
      split at h
      · cases h
      · next hcomma =>
        obtain rfl := (Bool.not_eq_true _).mp hcomma
        cases k with
        | list =>
          refine @hitem _ blanks _ .first (fun h => .list (hblanks.append h)) ?_ h
          rw [hbs]
          rfl
        | object =>
          obtain ⟨cs, hskip, hcs⟩ := bind_eq_ok h
          obtain ⟨key, hkey, hafter⟩ := skipKey_eq_ok hskip
          refine hitem .first (fun h => .object (hkey.blanks_append hblanks) h) ?_ hcs
          rw [hbs, hafter]
          simp

theorem consumesPhrase (fuel : Nat) : ConsumesPhrase fuel := by
  induction fuel with
  | zero =>
    constructor
    · intro open_ bs rest h
      cases h
    · intro comma open_ bs rest h
      cases h
  | succ fuel ih => exact ⟨ih.item_succ, ih.after_succ⟩

theorem skipValue_eq_ok {bs rest : Bytes} (h : skipValue bs = .ok rest) :
    ∃ blanks v, AreBlanks blanks ∧ Phrase .value v ∧ bs = blanks ++ (v ++ rest) := by
  obtain ⟨blanks, v, closing, hblanks, hv, hclosing, hbs⟩ := (consumesPhrase _).item h
  cases hclosing
  exact ⟨blanks, v, hblanks, hv, hbs⟩

/-! ### What is passed over -/

/-- An octet that a value may start with. -/
structure StartsValue (b : UInt8) : Prop where
  blank : isBlankOctet b = false
  comma : b ≠ 0x2C
  close : b ≠ 0x5D

theorem isBlankOctet_of_isDigit {d : UInt8} (hd : isDigit d = true) : isBlankOctet d = false := by
  rw [← Bool.not_eq_true]
  intro h
  simp only [isBlankOctet, Bool.or_eq_true, beq_iff_eq] at h
  rcases h with ((rfl | rfl) | rfl) | rfl
  all_goals cases hd

theorem ne_of_isDigit {d b : UInt8} (hd : isDigit d = true) (hb : isDigit b = false) : d ≠ b := by
  rintro rfl
  rw [hd] at hb
  cases hb

theorem IsNumber.exists_digit {n : Bytes} (hn : IsNumber n) :
    ∃ d ds, n = d :: ds ∧ isDigit d = true := by
  obtain ⟨hw, -, -⟩ := hn
  cases hw with
  | zero => exact ⟨_, _, rfl, rfl⟩
  | other hd _ _ => exact ⟨_, _, rfl, hd⟩

theorem Phrase.exists_start {v : Bytes} (h : Phrase .value v) :
    ∃ b cs, v = b :: cs ∧ StartsValue b := by
  cases h with
  | scalar ht =>
    cases ht with
    | null => exact ⟨_, _, rfl, rfl, by decide, by decide⟩
    | flag b => cases b <;> exact ⟨_, _, rfl, rfl, by decide, by decide⟩
    | number hn =>
      obtain ⟨d, ds, rfl, hd⟩ := hn.exists_digit
      exact ⟨d, ds, rfl, isBlankOctet_of_isDigit hd, ne_of_isDigit hd rfl, ne_of_isDigit hd rfl⟩
    | negative hn => exact ⟨_, _, rfl, rfl, by decide, by decide⟩
    | string hw => exact ⟨_, _, rfl, rfl, by decide, by decide⟩
  | @bracket k t ht => cases k <;> exact ⟨_, _, rfl, rfl, by decide, by decide⟩

theorem skipItem_scalar {blanks v rest : Bytes} (hblanks : AreBlanks blanks) (hv : IsScalar v)
    (hrest : EndsNumber rest) (open_ : List Bracket) (fuel : Nat) :
    skipItem open_ (fuel + 1) (blanks ++ (v ++ rest)) = skipAfter true open_ fuel rest := by
  rw [skipItem]
  cases hv with
  | null =>
    have hskip : skipBlanks (blanks ++ (nullWord ++ rest)) = 0x6E :: 0x75 :: 0x6C :: 0x6C :: rest :=
      skipBlanks_append_cons hblanks rfl _
    have hword : readWord [0x75, 0x6C, 0x6C] (0x75 :: 0x6C :: 0x6C :: rest) = .ok rest :=
      readWord_eq_ok_iff.mpr rfl
    rw [hskip]
    simp [hword, Bind.bind, Except.bind]
  | flag b =>
    cases b with
    | true =>
      have hskip : skipBlanks (blanks ++ (flagWord true ++ rest)) =
          0x74 :: 0x72 :: 0x75 :: 0x65 :: rest :=
        skipBlanks_append_cons hblanks rfl _
      have hword : readWord [0x72, 0x75, 0x65] (0x72 :: 0x75 :: 0x65 :: rest) = .ok rest :=
        readWord_eq_ok_iff.mpr rfl
      rw [hskip]
      simp [hword, Bind.bind, Except.bind]
    | false =>
      have hskip : skipBlanks (blanks ++ (flagWord false ++ rest)) =
          0x66 :: 0x61 :: 0x6C :: 0x73 :: 0x65 :: rest :=
        skipBlanks_append_cons hblanks rfl _
      have hword : readWord [0x61, 0x6C, 0x73, 0x65] (0x61 :: 0x6C :: 0x73 :: 0x65 :: rest) =
          .ok rest :=
        readWord_eq_ok_iff.mpr rfl
      rw [hskip]
      simp [hword, Bind.bind, Except.bind]
  | number hn =>
    have hnumber := skipNumber_append hn hrest
    obtain ⟨d, ds, rfl, hd⟩ := hn.exists_digit
    have hskip : skipBlanks (blanks ++ (d :: ds ++ rest)) = d :: (ds ++ rest) :=
      skipBlanks_append_cons hblanks (isBlankOctet_of_isDigit hd) _
    have hnull : d ≠ 0x6E := ne_of_isDigit hd rfl
    have htrue : d ≠ 0x74 := ne_of_isDigit hd rfl
    have hfalse : d ≠ 0x66 := ne_of_isDigit hd rfl
    have hminus : d ≠ 0x2D := ne_of_isDigit hd rfl
    rw [List.cons_append] at hnumber
    simp only [hskip, if_neg hnull, if_neg htrue, if_neg hfalse, if_neg hminus, hd, if_true,
      hnumber, Bind.bind, Except.bind]
  | @negative n hn =>
    have hnumber := skipNumber_append hn hrest
    have hskip : skipBlanks (blanks ++ (0x2D :: n ++ rest)) = 0x2D :: (n ++ rest) :=
      skipBlanks_append_cons hblanks rfl _
    rw [hskip]
    simp [hnumber, Bind.bind, Except.bind]
  | @string w hw =>
    have hstring := skipString_append hw rest
    have hskip : skipBlanks (blanks ++ (0x22 :: (w ++ [0x22]) ++ rest)) =
        0x22 :: (w ++ 0x22 :: rest) := by
      rw [List.cons_append, List.append_assoc]
      exact skipBlanks_append_cons hblanks rfl _
    have hdigit : isDigit 0x22 = false := rfl
    rw [hskip]
    simp [hdigit, hstring, Bind.bind, Except.bind]

theorem skipItem_bracket {blanks : Bytes} (hblanks : AreBlanks blanks) (k : Bracket) (t : Bytes)
    (open_ : List Bracket) (fuel : Nat) :
    skipItem open_ (fuel + 1) (blanks ++ k.opening :: t) = skipAfter false (k :: open_) fuel t := by
  cases k with
  | list =>
    have hskip := skipBlanks_append_cons hblanks (b := 0x5B) rfl t
    have hdigit : isDigit 0x5B = false := rfl
    rw [skipItem]
    simp [Bracket.opening, hskip, hdigit]
  | object =>
    have hskip := skipBlanks_append_cons hblanks (b := 0x7B) rfl t
    have hdigit : isDigit 0x7B = false := rfl
    rw [skipItem]
    simp [Bracket.opening, hskip, hdigit]

theorem skipKey_append {key : Bytes} (hkey : IsKey IsStringBody key) (rest : Bytes) :
    skipKey (key ++ rest) = .ok rest := by
  obtain ⟨hbs, hw, hcs⟩ := hkey
  next bs w cs =>
  have hquote := skipBlanks_append_cons hbs (b := 0x22) rfl (w ++ 0x22 :: (cs ++ 0x3A :: rest))
  have hstring := skipString_append hw (cs ++ 0x3A :: rest)
  have hcolon := skipBlanks_append_cons hcs (b := 0x3A) rfl rest
  simp only [List.append_assoc, List.cons_append, List.nil_append, skipKey, hquote, hstring,
    Bind.bind, Except.bind, hcolon]

theorem skipAfter_close {bs : Bytes} (hbs : AreBlanks bs) (comma : Bool) (k : Bracket)
    (outer : List Bracket) (fuel : Nat) (rest : Bytes) :
    skipAfter comma (k :: outer) (fuel + 1) (bs ++ k.close :: rest) =
      skipAfter true outer fuel rest := by
  have hclose : isBlankOctet k.close = false := by cases k <;> rfl
  have hcomma : ¬ (k.close = 0x2C ∧ comma = true) := by cases k <;> simp [Bracket.close]
  have hskip := skipBlanks_append_cons hbs hclose rest
  simp only [skipAfter, hskip, if_neg hcomma, if_true]

/-- A separator and a lead are consumed up to blanks before the value. -/
theorem skipAfter_item {comma : Bool} {k : Bracket} {sep lead : Bytes} {b : UInt8}
    (hsep : IsSeparator comma sep) (hlead : IsLead k lead) (hb : StartsValue b)
    (outer : List Bracket) (rest : Bytes) :
    ∃ blanks, AreBlanks blanks ∧ ∀ fuel,
      skipAfter comma (k :: outer) (fuel + 1) (sep ++ (lead ++ b :: rest)) =
        skipItem (k :: outer) fuel (blanks ++ b :: rest) := by
  cases hsep with
  | first =>
    cases hlead with
    | list hbs =>
      have hskip := skipBlanks_append_cons hbs hb.blank rest
      refine ⟨[], .nil, fun fuel => ?_⟩
      simp [skipAfter, hskip, Bracket.close, hb.close]
    | @object key bs hkey hbs =>
      obtain ⟨hcs, hw, hds⟩ := hkey
      next cs w ds =>
      have hskip := skipBlanks_append_cons hcs (b := 0x22) rfl
        (w ++ 0x22 :: (ds ++ 0x3A :: (bs ++ b :: rest)))
      have hkey := skipKey_append (.mk .nil hw hds) (bs ++ b :: rest)
      simp only [List.nil_append, List.cons_append, List.append_assoc] at hkey
      refine ⟨bs, hbs, fun fuel => ?_⟩
      simp [skipAfter, hskip, Bracket.close, hkey, Bind.bind, Except.bind]
  | @next cs hcs =>
    have hskip := skipBlanks_append_cons hcs (b := 0x2C) rfl (lead ++ b :: rest)
    cases hlead with
    | list hbs =>
      refine ⟨lead, hbs, fun fuel => ?_⟩
      simp [skipAfter, hskip]
    | @object key bs hkey hbs =>
      have hkey := skipKey_append hkey (bs ++ b :: rest)
      rw [List.append_assoc] at hskip
      refine ⟨bs, hbs, fun fuel => ?_⟩
      simp [skipAfter, hskip, hkey, Bind.bind, Except.bind]

theorem endsNumber_blanks {bs : Bytes} (hbs : AreBlanks bs) {b : UInt8}
    (hb : isDigit b = false ∧ b ≠ 0x2E ∧ b ≠ 0x65 ∧ b ≠ 0x45) (rest : Bytes) :
    EndsNumber (bs ++ b :: rest) := by
  cases bs with
  | nil =>
    intro d hd
    cases hd
    exact hb
  | cons c bs =>
    intro d hd
    cases hd
    have hc := hbs c (List.mem_cons_self ..)
    simp only [isBlankOctet, Bool.or_eq_true, beq_iff_eq] at hc
    rcases hc with ((rfl | rfl) | rfl) | rfl
    all_goals decide

theorem Phrase.endsNumber {k : Bracket} {t : Bytes} (h : Phrase (.rest k true) t) (rest : Bytes) :
    EndsNumber (t ++ rest) := by
  cases h with
  | close hbs =>
    rw [List.append_assoc]
    exact endsNumber_blanks hbs (by cases k <;> decide) _
  | item hsep _ _ _ =>
    cases hsep with
    | next hbs =>
      simp only [List.append_assoc]
      exact endsNumber_blanks hbs (by decide) _

/-- A phrase is passed over with two units of fuel for an octet; a value leaves one of them to the
bracket around it. -/
def IsPassed : Nonterminal → Bytes → Prop
  | .value, v => ∀ open_ blanks rest, AreBlanks blanks → EndsNumber rest →
      ∃ cost, cost + 1 ≤ 2 * v.length ∧ ∀ fuel,
        skipItem open_ (fuel + cost) (blanks ++ (v ++ rest)) = skipAfter true open_ fuel rest
  | .rest k comma, t => ∀ outer rest,
      ∃ cost, cost ≤ 2 * t.length ∧ ∀ fuel,
        skipAfter comma (k :: outer) (fuel + cost) (t ++ rest) = skipAfter true outer fuel rest

theorem Phrase.isPassed {n : Nonterminal} {t : Bytes} (h : Phrase n t) : IsPassed n t := by
  -- an item after an opening bracket may have neither a separator nor blanks: the step into it is
  -- paid by the unit that its value leaves
  induction h with
  | @scalar t ht =>
    intro open_ blanks rest hblanks hrest
    obtain ⟨b, cs, hcs, -⟩ := (Phrase.scalar ht).exists_start
    refine ⟨1, ?_, fun fuel => skipItem_scalar hblanks ht hrest open_ fuel⟩
    rw [hcs, List.length_cons]
    omega
  | @bracket k t _ ih =>
    intro open_ blanks rest hblanks _
    obtain ⟨cost, hcost, hskip⟩ := ih open_ rest
    refine ⟨cost + 1, ?_, fun fuel => ?_⟩
    · rw [List.length_cons]
      omega
    · rw [← Nat.add_assoc, List.cons_append, skipItem_bracket hblanks, hskip]
  | @close k comma bs hbs =>
    intro outer rest
    refine ⟨1, ?_, fun fuel => ?_⟩
    · rw [List.length_append, List.length_singleton]
      omega
    · rw [List.append_assoc]
      exact skipAfter_close hbs comma k outer fuel rest
  | @item k comma sep lead v t hsep hlead hv ht ihv iht =>
    intro outer rest
    obtain ⟨b, cs, rfl, hb⟩ := hv.exists_start
    obtain ⟨blanks, hblanks, hstep⟩ := skipAfter_item hsep hlead hb outer (cs ++ (t ++ rest))
    obtain ⟨valueCost, hvalueCost, hvalue⟩ :=
      ihv (k :: outer) blanks (t ++ rest) hblanks (ht.endsNumber rest)
    obtain ⟨restCost, hrestCost, hafter⟩ := iht outer rest
    refine ⟨restCost + valueCost + 1, ?_, fun fuel => ?_⟩
    · simp only [List.length_append]
      omega
    · have htext : sep ++ (lead ++ (b :: cs ++ t)) ++ rest =
          sep ++ (lead ++ b :: (cs ++ (t ++ rest))) := by simp
      rw [htext, ← Nat.add_assoc, hstep, ← Nat.add_assoc]
      exact (hvalue _).trans (hafter fuel)

theorem skipValue_append {blanks v rest : Bytes} (hblanks : AreBlanks blanks)
    (hv : Phrase .value v) (hrest : EndsNumber rest) :
    skipValue (blanks ++ (v ++ rest)) = .ok rest := by
  obtain ⟨cost, hcost, hskip⟩ := hv.isPassed [] blanks rest hblanks hrest
  obtain ⟨fuel, hfuel⟩ :
      ∃ fuel, 2 * (blanks ++ (v ++ rest)).length + 2 = fuel + 1 + cost := by
    refine ⟨2 * (blanks ++ (v ++ rest)).length + 1 - cost, ?_⟩
    simp only [List.length_append]
    omega
  rw [skipValue, hfuel, hskip, skipAfter]

end DeviceGateway.Json
