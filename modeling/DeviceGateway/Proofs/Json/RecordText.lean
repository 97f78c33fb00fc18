import DeviceGateway.Proofs.Json.Skipped
import Mathlib.Data.List.Forall2

/-!
# Texts that a record is read from

A text reads as a record exactly if it is an object in which each field stands once, or not at all
where it may be left out, or an array of all fields in their order. The members of other names may
be any values, and each may stand more than once.
-/

namespace DeviceGateway.Json

/-! ### Objects and arrays -/

/-- The rest of an object up to its end, with its members. -/
inductive AreMembers : Bool → List (String × Bytes) → Bytes → Prop where
  | close {comma : Bool} {bs : Bytes} (hbs : AreBlanks bs) : AreMembers comma [] (bs ++ [0x7D])
  | member {comma : Bool} {name : String} {members : List (String × Bytes)}
      {sep key bs v t : Bytes} (hsep : IsSeparator comma sep)
      (hkey : IsKey (Unescapes · (Utf8.encodeText name)) key) (hbs : AreBlanks bs)
      (hv : Phrase .value v) (ht : AreMembers true members t) :
      AreMembers comma ((name, v) :: members) (sep ++ (key ++ (bs ++ (v ++ t))))

/-- The rest of an array up to its end, with its items. -/
inductive AreItems : Bool → List Bytes → Bytes → Prop where
  | close {comma : Bool} {bs : Bytes} (hbs : AreBlanks bs) : AreItems comma [] (bs ++ [0x5D])
  | item {comma : Bool} {items : List Bytes} {sep bs v t : Bytes} (hsep : IsSeparator comma sep)
      (hbs : AreBlanks bs) (hv : Phrase .value v) (ht : AreItems true items t) :
      AreItems comma (v :: items) (sep ++ (bs ++ (v ++ t)))

/-- A whole text that is an object of some members, each a name and the text of its value. -/
inductive IsObject : Bytes → List (String × Bytes) → Prop where
  | mk {before t after : Bytes} {members : List (String × Bytes)} (hbefore : AreBlanks before)
      (ht : AreMembers false members t) (hafter : AreBlanks after) :
      IsObject (before ++ 0x7B :: (t ++ after)) members

/-- A whole text that is an array of some items. -/
inductive IsArray : Bytes → List Bytes → Prop where
  | mk {before t after : Bytes} {items : List Bytes} (hbefore : AreBlanks before)
      (ht : AreItems false items t) (hafter : AreBlanks after) :
      IsArray (before ++ 0x5B :: (t ++ after)) items

theorem AreMembers.isRest {comma : Bool} {members : List (String × Bytes)} {t : Bytes}
    (h : AreMembers comma members t) : Phrase (.rest .object comma) t := by
  induction h with
  | close hbs => exact .close hbs
  | @member comma name members sep key bs v t hsep hkey hbs hv _ ih =>
    have hskipped : IsKey IsStringBody key := hkey.imp fun _ hw => hw.isStringBody
    have hitem := Phrase.item hsep (.object hskipped hbs) hv ih
    rw [List.append_assoc] at hitem
    exact hitem

theorem AreMembers.length_lt {comma : Bool} {members : List (String × Bytes)} {t : Bytes}
    (h : AreMembers comma members t) : members.length < t.length := by
  induction h with
  | close hbs =>
    rw [List.length_append, List.length_singleton, List.length_nil]
    omega
  | member _ _ _ hv _ ih =>
    obtain ⟨b, cs, rfl, -⟩ := hv.exists_start
    simp only [List.length_append, List.length_cons]
    omega

/-! ### Keys -/

theorem readKey_none {first : Bool} {bs rest : Bytes} (h : readKey first bs = .ok (none, rest)) :
    ∃ blanks, AreBlanks blanks ∧ bs = blanks ++ 0x7D :: rest := by
  have hstring : ∀ {cs : Bytes}, (readString cs >>= fun x => .ok (some x.1, x.2)) =
      Except.ok ((none : Option String), rest) → False := by
    intro cs hcs
    obtain ⟨⟨s, after⟩, -, hcs⟩ := bind_eq_ok hcs
    cases hcs
  unfold readKey at h
  split at h
  · cases h
  · next htoken =>
    split at h
    · next hb =>
      cases h
      subst hb
      exact exists_blanks_of_eq htoken
    split at h
    · split at h
      · cases h
      · exact (hstring h).elim
      · cases h
      · cases h
    split at h
    · split at h
      · exact (hstring h).elim
      · cases h
    · cases h

theorem readKey_some {first : Bool} {bs rest : Bytes} {name : String}
    (h : readKey first bs = .ok (some name, rest)) :
    ∃ sep blanks w, IsSeparator (!first) sep ∧ AreBlanks blanks ∧
      Unescapes w (Utf8.encodeText name) ∧ bs = sep ++ (blanks ++ 0x22 :: (w ++ 0x22 :: rest)) := by
  have hstring : ∀ {cs : Bytes}, (readString cs >>= fun x => .ok (some x.1, x.2)) =
      Except.ok (some name, rest) →
      ∃ w, Unescapes w (Utf8.encodeText name) ∧ cs = w ++ 0x22 :: rest := by
    intro cs hcs
    obtain ⟨⟨s, after⟩, hread, hcs⟩ := bind_eq_ok hcs
    cases hcs
    exact readString_eq_ok_iff.mp hread
  unfold readKey at h
  split at h
  · cases h
  · next htoken =>
    obtain ⟨blanks, hblanks, rfl⟩ := exists_blanks_of_eq htoken
    split at h
    · cases h
    split at h
    · next hcomma =>
      obtain ⟨rfl, hfirst⟩ := hcomma
      split at h
      · cases h
      · next hquote =>
        obtain ⟨cs, hcs, rfl⟩ := exists_blanks_of_eq hquote
        obtain ⟨w, hw, rfl⟩ := hstring h
        refine ⟨blanks ++ [0x2C], cs, w, ?_, hcs, hw, by simp⟩
        rw [hfirst]
        exact .next hblanks
      · cases h
      · cases h
    split at h
    · next hfirst =>
      split at h
      · next hb =>
        subst hb
        obtain ⟨w, hw, rfl⟩ := hstring h
        refine ⟨[], blanks, w, ?_, hblanks, hw, rfl⟩
        rw [hfirst]
        exact .first
      · cases h
    · cases h

theorem readColon_eq_ok {bs rest : Bytes} (h : readColon bs = .ok rest) :
    ∃ cs, AreBlanks cs ∧ bs = cs ++ 0x3A :: rest := by
  unfold readColon at h
  split at h
  · cases h
  · next hcolon =>
    cases h
    exact exists_blanks_of_eq hcolon
  · cases h

theorem readKey_colon {first : Bool} {bs after rest : Bytes} {name : String}
    (hkey : readKey first bs = .ok (some name, after)) (hcolon : readColon after = .ok rest) :
    ∃ sep key, IsSeparator (!first) sep ∧ IsKey (Unescapes · (Utf8.encodeText name)) key ∧
      bs = sep ++ (key ++ rest) := by
  obtain ⟨sep, blanks, w, hsep, hblanks, hw, rfl⟩ := readKey_some hkey
  obtain ⟨cs, hcs, rfl⟩ := readColon_eq_ok hcolon
  exact ⟨sep, _, hsep, .mk hblanks hw hcs, by simp⟩

theorem readKey_append {first : Bool} {sep key : Bytes} {name : String}
    (hsep : IsSeparator (!first) sep) (hkey : IsKey (Unescapes · (Utf8.encodeText name)) key)
    (rest : Bytes) :
    ∃ after, readKey first (sep ++ (key ++ rest)) = .ok (some name, after) ∧
      readColon after = .ok rest := by
  obtain ⟨hbs, hw, hcs⟩ := hkey
  next bs w cs =>
  have hquote := skipBlanks_append_cons hbs (b := 0x22) rfl (w ++ 0x22 :: (cs ++ 0x3A :: rest))
  have hstring : readString (w ++ 0x22 :: (cs ++ 0x3A :: rest)) = .ok (name, cs ++ 0x3A :: rest) :=
    readString_eq_ok_iff.mpr ⟨w, hw, rfl⟩
  have hcolon := skipBlanks_append_cons hcs (b := 0x3A) rfl rest
  refine ⟨cs ++ 0x3A :: rest, ?_, by simp only [readColon, hcolon]⟩
  simp only [List.append_assoc, List.cons_append, List.nil_append]
  cases first with
  | true =>
    cases hsep
    rw [List.nil_append, readKey, hquote]
    simp [hstring, Bind.bind, Except.bind, pure, Except.pure]
  | false =>
    cases hsep with
    | next hds =>
      have hcomma := skipBlanks_append_cons hds (b := 0x2C) rfl
        (bs ++ 0x22 :: (w ++ 0x22 :: (cs ++ 0x3A :: rest)))
      rw [List.append_assoc, List.singleton_append, readKey, hcomma]
      simp [hquote, hstring, Bind.bind, Except.bind, pure, Except.pure]

theorem readKey_close {bs : Bytes} (hbs : AreBlanks bs) (first : Bool) (rest : Bytes) :
    readKey first (bs ++ 0x7D :: rest) = .ok (none, rest) := by
  have hclose := skipBlanks_append_cons hbs (b := 0x7D) rfl rest
  simp only [readKey, hclose, if_true]

/-! ### Values of fields -/

/-- The texts that a field of each type shows a value with. -/
inductive FieldType.Shows : FieldType → Bytes → Value → Prop where
  | text {w : Bytes} {s : String} (hw : Unescapes w (Utf8.encodeText s)) :
      Shows .text (0x22 :: (w ++ [0x22])) (.str s)
  | present {w : Bytes} {s : String} (hw : Unescapes w (Utf8.encodeText s)) :
      Shows .optionalText (0x22 :: (w ++ [0x22])) (.str s)
  | null : Shows .optionalText nullWord .null
  | flag (b : Bool) : Shows .flag (flagWord b) (.bool b)

theorem FieldType.Shows.isValue {type : FieldType} {t : Bytes} {v : Value} (h : type.Shows t v) :
    Phrase .value t := by
  cases h with
  | text hw => exact .scalar (.string hw.isStringBody)
  | present hw => exact .scalar (.string hw.isStringBody)
  | null => exact .scalar .null
  | flag b => exact .scalar (.flag b)

theorem failType_ne_ok {α : Type} (expected : String) (bs : Bytes) (a : α) :
    failType expected bs ≠ .ok a := by
  intro h
  unfold failType at h
  simp only at h
  split at h
  · cases h
  · repeat' split at h
    all_goals first
      | cases h
      | (obtain ⟨x, -, h⟩ := bind_eq_ok h; cases h)

theorem readText_eq_ok {bs rest : Bytes} {v : Value} (h : readText bs = .ok (v, rest)) :
    ∃ blanks w s, AreBlanks blanks ∧ Unescapes w (Utf8.encodeText s) ∧ v = .str s ∧
      bs = blanks ++ (0x22 :: (w ++ [0x22]) ++ rest) := by
  unfold readText at h
  split at h
  · next hquote =>
    obtain ⟨blanks, hblanks, rfl⟩ := exists_blanks_of_eq hquote
    obtain ⟨⟨s, after⟩, hread, h⟩ := bind_eq_ok h
    cases h
    obtain ⟨w, hw, rfl⟩ := readString_eq_ok_iff.mp hread
    exact ⟨blanks, w, s, hblanks, hw, rfl, by simp⟩
  · exact (failType_ne_ok _ _ _ h).elim

theorem readText_append {blanks w : Bytes} {s : String} (hblanks : AreBlanks blanks)
    (hw : Unescapes w (Utf8.encodeText s)) (rest : Bytes) :
    readText (blanks ++ (0x22 :: (w ++ [0x22]) ++ rest)) = .ok (.str s, rest) := by
  have hquote := skipBlanks_append_cons hblanks (b := 0x22) rfl (w ++ 0x22 :: rest)
  have hstring : readString (w ++ 0x22 :: rest) = .ok (s, rest) :=
    readString_eq_ok_iff.mpr ⟨w, hw, rfl⟩
  simp only [List.cons_append, List.append_assoc, List.nil_append, readText, hquote, hstring,
    Bind.bind, Except.bind]
  rfl

theorem FieldType.read_eq_ok {type : FieldType} {bs rest : Bytes} {v : Value}
    (h : type.read bs = .ok (v, rest)) :
    ∃ blanks t, AreBlanks blanks ∧ type.Shows t v ∧ bs = blanks ++ (t ++ rest) := by
  cases type with
  | text =>
    obtain ⟨blanks, w, s, hblanks, hw, rfl, hbs⟩ := readText_eq_ok h
    exact ⟨blanks, _, hblanks, .text hw, hbs⟩
  | optionalText =>
    simp only [FieldType.read] at h
    split at h
    · next hnull =>
      obtain ⟨blanks, hblanks, rfl⟩ := exists_blanks_of_eq hnull
      obtain ⟨after, hword, h⟩ := bind_eq_ok h
      cases h
      obtain rfl := readWord_eq_ok_iff.mp hword
      exact ⟨blanks, _, hblanks, .null, rfl⟩
    · next hother =>
      obtain ⟨blanks, hblanks, hbs⟩ := exists_blanks bs
      obtain ⟨more, w, s, hmore, hw, rfl, htext⟩ := readText_eq_ok h
      refine ⟨blanks ++ more, _, hblanks.append hmore, .present hw, ?_⟩
      rw [hbs, htext, List.append_assoc]
  | flag =>
    simp only [FieldType.read] at h
    split at h
    · next htrue =>
      obtain ⟨blanks, hblanks, rfl⟩ := exists_blanks_of_eq htrue
      obtain ⟨after, hword, h⟩ := bind_eq_ok h
      cases h
      obtain rfl := readWord_eq_ok_iff.mp hword
      exact ⟨blanks, _, hblanks, .flag true, rfl⟩
    · next hfalse =>
      obtain ⟨blanks, hblanks, rfl⟩ := exists_blanks_of_eq hfalse
      obtain ⟨after, hword, h⟩ := bind_eq_ok h
      cases h
      obtain rfl := readWord_eq_ok_iff.mp hword
      exact ⟨blanks, _, hblanks, .flag false, rfl⟩
    · exact (failType_ne_ok _ _ _ h).elim

theorem FieldType.read_append {type : FieldType} {blanks t : Bytes} {v : Value}
    (hblanks : AreBlanks blanks) (h : type.Shows t v) (rest : Bytes) :
    type.read (blanks ++ (t ++ rest)) = .ok (v, rest) := by
  cases h with
  | text hw => exact readText_append hblanks hw rest
  | @present w s hw =>
    have hquote := skipBlanks_append_cons hblanks (b := 0x22) rfl (w ++ [0x22] ++ rest)
    have hread := readText_append .nil hw rest
    simp only [FieldType.read, List.cons_append, hquote]
    exact hread
  | null =>
    have hskip : skipBlanks (blanks ++ (nullWord ++ rest)) = 0x6E :: 0x75 :: 0x6C :: 0x6C :: rest :=
      skipBlanks_append_cons hblanks rfl _
    simp only [FieldType.read, hskip]
    rfl
  | flag b =>
    cases b with
    | true =>
      have hskip : skipBlanks (blanks ++ (flagWord true ++ rest)) =
          0x74 :: 0x72 :: 0x75 :: 0x65 :: rest :=
        skipBlanks_append_cons hblanks rfl _
      simp only [FieldType.read, hskip]
      rfl
    | false =>
      have hskip : skipBlanks (blanks ++ (flagWord false ++ rest)) =
          0x66 :: 0x61 :: 0x6C :: 0x73 :: 0x65 :: rest :=
        skipBlanks_append_cons hblanks rfl _
      simp only [FieldType.read, hskip]
      rfl

theorem FieldType.Shows.unique {type : FieldType} {t : Bytes} {v v' : Value} (h : type.Shows t v)
    (h' : type.Shows t v') : v = v' := by
  have hread := type.read_append .nil h []
  rw [type.read_append .nil h' []] at hread
  cases hread
  rfl

/-! ### Members that fields take -/

variable {fields : List Field}

/-- What the members of an object add to the fields found before them. -/
inductive Gathers (fields : List Field) : Members → List (String × Bytes) → Members → Prop where
  | nil {found : Members} : Gathers fields found [] found
  | unknown {found found' : Members} {name : String} {t : Bytes} {members : List (String × Bytes)}
      (hfield : fields.find? (·.name == name) = none) (h : Gathers fields found members found') :
      Gathers fields found ((name, t) :: members) found'
  | known {found found' : Members} {name : String} {t : Bytes} {v : Value} {f : Field}
      {members : List (String × Bytes)} (hfield : fields.find? (·.name == name) = some f)
      (hfresh : found.lookup name = none) (hshows : f.type.Shows t v)
      (h : Gathers fields ((name, v) :: found) members found') :
      Gathers fields found ((name, t) :: members) found'

theorem readFieldMembers_eq_ok {found found' : Members} {first : Bool} {fuel : Nat}
    {bs rest : Bytes} (h : readFieldMembers fields found first fuel bs = .ok (found', rest)) :
    ∃ members t, AreMembers (!first) members t ∧ Gathers fields found members found' ∧
      bs = t ++ rest := by
  induction fuel generalizing found first bs with
  | zero => cases h
  | succ fuel ih =>
    rw [readFieldMembers] at h
    obtain ⟨⟨name?, after⟩, hname, hmember⟩ := bind_eq_ok h
    cases name? with
    | none =>
      cases hmember
      obtain ⟨blanks, hblanks, rfl⟩ := readKey_none hname
      exact ⟨[], _, .close hblanks, .nil, by simp⟩
    | some name =>
      simp only at hmember
      cases hfield : fields.find? (·.name == name) with
      | none =>
        rw [hfield] at hmember
        obtain ⟨value, hcolon, hvalue⟩ := bind_eq_ok hmember
        obtain ⟨next, hskip, hnext⟩ := bind_eq_ok hvalue
        obtain ⟨sep, key, hsep, hkey, rfl⟩ := readKey_colon hname hcolon
        obtain ⟨blanks, v, hblanks, hv, rfl⟩ := skipValue_eq_ok hskip
        obtain ⟨members, t, ht, hgathers, rfl⟩ := ih hnext
        exact ⟨_, _, .member hsep hkey hblanks hv ht, .unknown hfield hgathers, by simp⟩
      | some f =>
        rw [hfield] at hmember
        simp only at hmember
        split at hmember
        · cases hmember
        · next hfresh =>
          obtain ⟨value, hcolon, hvalue⟩ := bind_eq_ok hmember
          obtain ⟨⟨v, next⟩, hread, hnext⟩ := bind_eq_ok hvalue
          obtain ⟨sep, key, hsep, hkey, rfl⟩ := readKey_colon hname hcolon
          obtain ⟨blanks, shown, hblanks, hshows, rfl⟩ := FieldType.read_eq_ok hread
          obtain ⟨members, t, ht, hgathers, rfl⟩ := ih hnext
          have hnone : found.lookup name = none := Option.not_isSome_iff_eq_none.mp hfresh
          exact ⟨_, _, .member hsep hkey hblanks hshows.isValue ht,
            .known hfield hnone hshows hgathers, by simp⟩

theorem readFieldMembers_append {found found' : Members} {first : Bool}
    {members : List (String × Bytes)} {t : Bytes} (ht : AreMembers (!first) members t)
    (hgathers : Gathers fields found members found') {fuel : Nat} (hfuel : members.length < fuel)
    (rest : Bytes) :
    readFieldMembers fields found first fuel (t ++ rest) = .ok (found', rest) := by
  induction members generalizing found first t fuel with
  | nil =>
    obtain ⟨n, rfl⟩ : ∃ n, fuel = n + 1 := ⟨fuel - 1, by omega⟩
    cases ht with
    | close hbs =>
      cases hgathers
      have hkey := readKey_close hbs first rest
      rw [List.append_assoc, List.singleton_append, readFieldMembers]
      simp only [hkey, Bind.bind, Except.bind]
      rfl
  | cons m members ih =>
    obtain ⟨n, rfl⟩ : ∃ n, fuel = n + 1 := ⟨fuel - 1, by omega⟩
    have hlength : members.length < n := by
      rw [List.length_cons] at hfuel
      omega
    cases ht with
    | @member _ name _ sep key bs v t hsep hkey hbs hv ht =>
      obtain ⟨after, hname, hcolon⟩ := readKey_append hsep hkey (bs ++ (v ++ (t ++ rest)))
      have htext : sep ++ (key ++ (bs ++ (v ++ t))) ++ rest =
          sep ++ (key ++ (bs ++ (v ++ (t ++ rest)))) := by simp
      rw [htext, readFieldMembers]
      cases hgathers with
      | unknown hfield hgathers =>
        have hskip := skipValue_append hbs hv (ht.isRest.endsNumber rest)
        simp only [hname, hcolon, hfield, hskip, Bind.bind, Except.bind]
        exact @ih _ false _ ht hgathers _ hlength
      | known hfield hfresh hshows hgathers =>
        have hread := FieldType.read_append hbs hshows (t ++ rest)
        simp only [hname, hcolon, hfield, hfresh, hread, Bind.bind, Except.bind,
          Option.isSome_none, Bool.false_eq_true, if_false]
        exact @ih _ false _ ht hgathers _ hlength

/-- Whether a field has a value among the members of an object. -/
def Field.TakenFrom (f : Field) (members : List (String × Bytes)) (v : Value) : Prop :=
  (∃ t, members.filter (·.1 == f.name) = [(f.name, t)] ∧ f.type.Shows t v) ∨
    (members.filter (·.1 == f.name) = [] ∧ f.type.absent? = some v)

theorem find?_eq_some_name {name : String} {f : Field}
    (h : fields.find? (·.name == name) = some f) : f.name = name := by
  have hname := List.find?_some h
  exact beq_iff_eq.mp hname

/-- A field that was found before has no member left; one that was not has at most one. -/
theorem Gathers.lookup {found found' : Members} {members : List (String × Bytes)} {f : Field}
    (h : Gathers fields found members found')
    (hf : fields.find? (·.name == f.name) = some f) :
    (∃ v, found.lookup f.name = some v ∧ members.filter (·.1 == f.name) = [] ∧
        found'.lookup f.name = some v) ∨
      (found.lookup f.name = none ∧ members.filter (·.1 == f.name) = [] ∧
        found'.lookup f.name = none) ∨
      (found.lookup f.name = none ∧ ∃ t v, members.filter (·.1 == f.name) = [(f.name, t)] ∧
        f.type.Shows t v ∧ found'.lookup f.name = some v) := by
  induction h with
  | @nil found =>
    cases hlookup : found.lookup f.name with
    | none => exact .inr (.inl ⟨rfl, rfl, rfl⟩)
    | some v => exact .inl ⟨v, rfl, rfl, rfl⟩
  | @unknown found found' name t members hfield _ ih =>
    have hne : (name == f.name) = false := by
      rw [beq_eq_false_iff_ne]
      rintro rfl
      rw [hf] at hfield
      cases hfield
    simp only [List.filter_cons, hne, Bool.false_eq_true, if_false]
    exact ih
  | @known found found' name t v g members hfield hfresh hshows _ ih =>
    by_cases hname : name = f.name
    · subst hname
      obtain rfl : g = f := Option.some.inj (hfield.symm.trans hf)
      rw [List.lookup_cons_self] at ih
      rcases ih with ⟨v', hv, hnone, hlookup⟩ | ⟨hv, -⟩ | ⟨hv, -⟩
      · cases hv
        refine .inr (.inr ⟨hfresh, t, v, ?_, hshows, hlookup⟩)
        rw [List.filter_cons, beq_self_eq_true, if_pos rfl, hnone]
      · cases hv
      · cases hv
    · have hne : (name == f.name) = false := beq_eq_false_iff_ne.mpr hname
      have hne' : (f.name == name) = false := beq_eq_false_iff_ne.mpr (Ne.symm hname)
      simp only [List.lookup_cons, hne'] at ih
      simp only [List.filter_cons, hne, Bool.false_eq_true, if_false]
      exact ih

/-- No field stands in the members more than it may after those that were found. -/
def Gatherable (fields : List Field) (found : Members) (members : List (String × Bytes)) : Prop :=
  ∀ f, fields.find? (·.name == f.name) = some f →
    members.filter (·.1 == f.name) = [] ∨ (found.lookup f.name = none ∧
      ∃ t v, members.filter (·.1 == f.name) = [(f.name, t)] ∧ f.type.Shows t v)

theorem exists_gathers {found : Members} {members : List (String × Bytes)}
    (h : Gatherable fields found members) : ∃ found', Gathers fields found members found' := by
  induction members generalizing found with
  | nil => exact ⟨found, .nil⟩
  | cons m members ih =>
    obtain ⟨name, t⟩ := m
    have hother : ∀ {f : Field}, f.name ≠ name →
        ((name, t) :: members).filter (·.1 == f.name) = members.filter (·.1 == f.name) := by
      intro f hne
      rw [List.filter_cons, beq_eq_false_iff_ne.mpr (Ne.symm hne)]
      rfl
    cases hfield : fields.find? (·.name == name) with
    | none =>
      have hrest : Gatherable fields found members := by
        intro f hf
        have hne : f.name ≠ name := by
          rintro rfl
          rw [hf] at hfield
          cases hfield
        have hcase := h f hf
        rw [hother hne] at hcase
        exact hcase
      obtain ⟨found', hgathers⟩ := ih hrest
      exact ⟨found', .unknown hfield hgathers⟩
    | some f =>
      obtain rfl := find?_eq_some_name hfield
      have hown : ((f.name, t) :: members).filter (·.1 == f.name) =
          (f.name, t) :: members.filter (·.1 == f.name) :=
        List.filter_cons_of_pos (beq_self_eq_true _)
      rcases h f hfield with hnone | ⟨hfresh, t', v, hone, hshows⟩
      · rw [hown] at hnone
        cases hnone
      · rw [hown, List.cons.injEq, Prod.mk.injEq] at hone
        obtain ⟨⟨-, rfl⟩, hlast⟩ := hone
        have hrest : Gatherable fields ((f.name, v) :: found) members := by
          intro g hg
          by_cases hname : g.name = f.name
          · rw [hname]
            exact .inl hlast
          · have hcase := h g hg
            rw [hother hname] at hcase
            rw [List.lookup_cons, beq_eq_false_iff_ne.mpr hname]
            exact hcase
        obtain ⟨found', hgathers⟩ := ih hrest
        exact ⟨found', .known hfield hfresh hshows hgathers⟩

theorem collectFields_eq_ok_iff {found : Members} {rest : Bytes} {values : List Value} :
    collectFields found rest fields = .ok values ↔
      List.Forall₂ (fun f v => (found.lookup f.name).or f.type.absent? = some v) fields values := by
  induction fields generalizing values with
  | nil =>
    rw [collectFields, Except.ok.injEq, List.forall₂_nil_left_iff, eq_comm]
  | cons f fs ih =>
    rw [collectFields, List.forall₂_cons_left_iff]
    constructor
    · intro h
      split at h
      · cases h
      · next v hv =>
        obtain ⟨vs, hvs, h⟩ := bind_eq_ok h
        cases h
        exact ⟨v, vs, hv, ih.mp hvs, rfl⟩
    · rintro ⟨v, vs, hv, hvs, rfl⟩
      simp only [hv, ih.mpr hvs]
      rfl

/-- The values that an object gives to fields of different names. -/
theorem collects_iff_takenFrom (hnames : (fields.map (·.name)).Nodup)
    {members : List (String × Bytes)} {values : List Value} :
    (∃ found, Gathers fields [] members found ∧
        List.Forall₂ (fun f v => (found.lookup f.name).or f.type.absent? = some v) fields values) ↔
      List.Forall₂ (·.TakenFrom members ·) fields values := by
  have hfind : ∀ f ∈ fields, fields.find? (·.name == f.name) = some f :=
    fun f hf => find?_of_mem hnames hf
  constructor
  · rintro ⟨found, hgathers, hvalues⟩
    refine ((List.forall₂_and_left _ _).mpr ⟨hfind, hvalues⟩).imp ?_
    rintro f v ⟨hf, hv⟩
    rcases hgathers.lookup hf with
      ⟨_, hfound, -⟩ | ⟨-, hnone, hlookup⟩ | ⟨-, t, _, hone, hshows, hlookup⟩
    · cases hfound
    · rw [hlookup, Option.none_or] at hv
      exact .inr ⟨hnone, hv⟩
    · rw [hlookup, Option.some_or] at hv
      cases hv
      exact .inl ⟨t, hone, hshows⟩
  · intro h
    have htaken : ∀ f ∈ fields, ∃ v, f.TakenFrom members v :=
      ((List.forall₂_and_left _ _).mp (h.imp fun f v hv => ⟨⟨v, hv⟩, hv⟩)).1
    have hgatherable : Gatherable fields [] members := by
      intro f hf
      obtain ⟨v, ⟨t, hone, hshows⟩ | ⟨hnone, -⟩⟩ := htaken f (List.mem_of_find?_eq_some hf)
      · exact .inr ⟨rfl, t, v, hone, hshows⟩
      · exact .inl hnone
    obtain ⟨found, hgathers⟩ := exists_gathers hgatherable
    refine ⟨found, hgathers, ((List.forall₂_and_left _ _).mpr ⟨hfind, h⟩).imp ?_⟩
    rintro f v ⟨hf, hv⟩
    rcases hgathers.lookup hf with
      ⟨_, hfound, -⟩ | ⟨-, hnone, hlookup⟩ | ⟨-, t, _, hone, hshows, hlookup⟩
    · cases hfound
    · rcases hv with ⟨t, hone, -⟩ | ⟨-, habsent⟩
      · rw [hnone] at hone
        cases hone
      · rw [hlookup, Option.none_or]
        exact habsent
    · rcases hv with ⟨t', hone', hshows'⟩ | ⟨hnone, -⟩
      · rw [hone] at hone'
        cases hone'
        rw [hlookup, hshows.unique hshows', Option.some_or]
      · rw [hone] at hnone
        cases hnone

/-! ### Items that fields take -/

/-- An item for each field stands before what is left, to the end of the array. -/
def ItemsBefore (comma : Bool) (fields : List Field) (values : List Value) (bs rest : Bytes) :
    Prop :=
  ∃ pairs : List (Bytes × Value), ∃ t,
    List.Forall₂ (fun f p => f.type.Shows p.1 p.2) fields pairs ∧
    AreItems comma (pairs.map (·.1)) t ∧ values = pairs.map (·.2) ∧ bs = t ++ rest

theorem readFieldItems_eq_ok {shape : RecordShape} {index : Nat} {comma : Bool}
    (hcomma : comma = true ↔ index ≠ 0) {bs rest : Bytes} {values : List Value}
    (h : readFieldItems shape index fields bs = .ok (values, rest)) :
    ItemsBefore comma fields values bs rest := by
  induction fields generalizing index comma bs values with
  | nil =>
    rw [readFieldItems] at h
    split at h
    · cases h
    · next hclose =>
      cases h
      obtain ⟨blanks, hblanks, rfl⟩ := exists_blanks_of_eq hclose
      exact ⟨[], _, .nil, .close hblanks, rfl, by simp⟩
    · split at h
      · cases h
      · cases h
    · cases h
  | cons f fs ih =>
    -- the item of the first field, after its separator, and then the items of the others
    have hitem : ∀ {sep blanks cs : Bytes}, IsSeparator comma sep → AreBlanks blanks →
        bs = sep ++ (blanks ++ cs) →
        (f.type.read cs >>= fun x => readFieldItems shape (index + 1) fs x.2 >>=
          fun y => .ok (x.1 :: y.1, y.2)) = Except.ok (values, rest) →
        ItemsBefore comma (f :: fs) values bs rest := by
      intro sep blanks cs hsep hblanks hbs hread
      obtain ⟨⟨v, after⟩, hfirst, hread⟩ := bind_eq_ok hread
      obtain ⟨⟨vs, last⟩, hothers, hread⟩ := bind_eq_ok hread
      cases hread
      obtain ⟨more, shown, hmore, hshows, rfl⟩ := FieldType.read_eq_ok hfirst
      have hnext : true = true ↔ index + 1 ≠ 0 := by simp
      obtain ⟨pairs, t, hpairs, ht, rfl, rfl⟩ := ih hnext hothers
      refine ⟨(shown, v) :: pairs, _, .cons hshows hpairs,
        .item hsep (hblanks.append hmore) hshows.isValue ht, rfl, ?_⟩
      rw [hbs]
      simp
    rw [readFieldItems] at h
    split at h
    · cases h
    · next b after htoken =>
      obtain ⟨blanks, hblanks, hbs⟩ := exists_blanks_of_eq htoken
      split at h
      · cases h
      split at h
      · next hb =>
        obtain ⟨rfl, hindex⟩ := hb
        obtain rfl := hcomma.mpr hindex
        split at h
        · cases h
        · cases h
        · next htail _ _ =>
          obtain ⟨cs, hcs, hafter⟩ := exists_blanks after
          refine hitem (.next hblanks) hcs ?_ h
          rw [hbs, List.append_assoc, List.singleton_append, ← hafter]
      split at h
      · next hindex =>
        have hfirst : comma = false := by
          rw [← Bool.not_eq_true, hcomma]
          exact not_not.mpr hindex
        subst hfirst
        exact hitem .first hblanks hbs h
      · cases h

theorem readFieldItems_append {shape : RecordShape} {index : Nat} {comma : Bool}
    (hcomma : comma = true ↔ index ≠ 0) {pairs : List (Bytes × Value)} {t : Bytes}
    (hpairs : List.Forall₂ (fun f p => f.type.Shows p.1 p.2) fields pairs)
    (ht : AreItems comma (pairs.map (·.1)) t) (rest : Bytes) :
    readFieldItems shape index fields (t ++ rest) = .ok (pairs.map (·.2), rest) := by
  induction hpairs generalizing index comma t with
  | nil =>
    cases ht with
    | close hbs =>
      have hclose := skipBlanks_append_cons hbs (b := 0x5D) rfl rest
      rw [List.append_assoc, List.singleton_append, readFieldItems, hclose]
      rfl
  | @cons f p fs pairs hshows hpairs ih =>
    obtain ⟨shown, v⟩ := p
    cases ht with
    | @item _ _ sep bs _ t hsep hbs hv ht =>
      obtain ⟨b, cs, rfl, hb⟩ := hv.exists_start
      have hblanks := skipBlanks_append_cons hbs hb.blank (cs ++ (t ++ rest))
      have hread := FieldType.read_append .nil hshows (t ++ rest)
      have hnext : true = true ↔ index + 1 ≠ 0 := by simp
      have hothers := ih hnext ht
      rw [List.nil_append, List.cons_append] at hread
      have htext : sep ++ (bs ++ (b :: cs ++ t)) ++ rest =
          sep ++ (bs ++ b :: (cs ++ (t ++ rest))) := by simp
      rw [htext, readFieldItems]
      cases hsep with
      | first =>
        obtain rfl : index = 0 := by
          by_contra hne
          exact Bool.false_ne_true (hcomma.mpr hne)
        have hclose := hb.close
        rw [List.nil_append, hblanks]
        simp only [if_neg hclose, ne_eq, not_true_eq_false, and_false, if_false, if_true, hread,
          hothers, Bind.bind, Except.bind]
        rfl
      | @next ds hds =>
        have hindex : index ≠ 0 := hcomma.mp rfl
        have hsep := skipBlanks_append_cons hds (b := 0x2C) rfl (bs ++ b :: (cs ++ (t ++ rest)))
        have hopen : ¬ (0x2C : UInt8) = 0x5D := by decide
        rw [List.append_assoc, List.singleton_append, hsep]
        simp only [if_neg hopen, hindex, ne_eq, not_false_eq_true, and_self, if_true, hblanks]
        split
        · next heq => cases heq
        · next heq => exact (hb.close (List.cons.inj heq).1).elim
        · simp only [hread, hothers, Bind.bind, Except.bind]
          rfl

/-! ### Whole texts -/

/-- A text reads as a record of fields with names of their own exactly if it is an object that the
fields take their values from, or an array of them in their order. -/
theorem RecordShape.parse_eq_ok_iff {shape : RecordShape}
    (hnames : (shape.fields.map (·.name)).Nodup) {input : Bytes} {values : List Value} :
    shape.parse input = .ok values ↔
      (∃ members, IsObject input members ∧
        List.Forall₂ (·.TakenFrom members ·) shape.fields values) ∨
      ∃ pairs : List (Bytes × Value), IsArray input (pairs.map (·.1)) ∧
        List.Forall₂ (fun f p => f.type.Shows p.1 p.2) shape.fields pairs ∧
        values = pairs.map (·.2) := by
  constructor
  · intro h
    obtain ⟨⟨values', rest⟩, hread, hend⟩ := bind_eq_ok h
    obtain ⟨u, hblank, hvalues⟩ := bind_eq_ok hend
    cases hvalues
    have hafter := readEnd_eq_ok_iff.mp hblank
    unfold RecordShape.read at hread
    split at hread
    · next hopen =>
      obtain ⟨before, hbefore, rfl⟩ := exists_blanks_of_eq hopen
      have hcomma : false = true ↔ 0 ≠ 0 := by simp
      obtain ⟨pairs, t, hpairs, ht, hvalues, rfl⟩ := readFieldItems_eq_ok hcomma hread
      exact .inr ⟨pairs, .mk hbefore ht hafter, hpairs, hvalues⟩
    · next hopen =>
      obtain ⟨before, hbefore, rfl⟩ := exists_blanks_of_eq hopen
      obtain ⟨⟨found, last⟩, hmembers, hread⟩ := bind_eq_ok hread
      obtain ⟨collected, hcollect, hread⟩ := bind_eq_ok hread
      cases hread
      obtain ⟨members, t, ht, hgathers, rfl⟩ := readFieldMembers_eq_ok hmembers
      have hvalues := collectFields_eq_ok_iff.mp hcollect
      exact .inl ⟨members, .mk hbefore ht hafter,
        (collects_iff_takenFrom hnames).mp ⟨found, hgathers, hvalues⟩⟩
    · exact (failType_ne_ok _ _ _ hread).elim
  · rintro (⟨members, hobject, htaken⟩ | ⟨pairs, harray, hpairs, rfl⟩)
    · obtain ⟨hbefore, ht, hafter⟩ := hobject
      next before t after =>
      obtain ⟨found, hgathers, hvalues⟩ := (collects_iff_takenFrom hnames).mpr htaken
      have hopen := skipBlanks_append_cons hbefore (b := 0x7B) rfl (t ++ after)
      have hlength : members.length < (t ++ after).length + 1 := by
        have hlt := ht.length_lt
        rw [List.length_append]
        omega
      have hmembers : readFieldMembers shape.fields [] true ((t ++ after).length + 1) (t ++ after) =
          .ok (found, after) :=
        @readFieldMembers_append _ _ _ true _ _ ht hgathers _ hlength after
      have hcollect : collectFields found after shape.fields = .ok values :=
        collectFields_eq_ok_iff.mpr hvalues
      have hend := readEnd_eq_ok_iff.mpr hafter
      simp only [RecordShape.parse, RecordShape.read, hopen, hmembers, hcollect, hend, Bind.bind,
        Except.bind, pure, Except.pure]
    · obtain ⟨items, hitems⟩ : ∃ items, items = pairs.map (·.1) := ⟨_, rfl⟩
      rw [← hitems] at harray
      obtain ⟨hbefore, ht, hafter⟩ := harray
      next before t after =>
      rw [hitems] at ht
      have hcomma : false = true ↔ 0 ≠ 0 := by simp
      have hopen := skipBlanks_append_cons hbefore (b := 0x5B) rfl (t ++ after)
      have hread : readFieldItems shape 0 shape.fields (t ++ after) =
          .ok (pairs.map (·.2), after) :=
        readFieldItems_append hcomma hpairs ht after
      have hend := readEnd_eq_ok_iff.mpr hafter
      simp only [RecordShape.parse, RecordShape.read, hopen, hread, hend, Bind.bind, Except.bind]
      rfl

end DeviceGateway.Json
