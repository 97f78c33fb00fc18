import DeviceGateway.Json.Record

/-!
# Records that were written

The compact text of an object reads back as a record: every character of a string survives its
escape, and the members come in the order of the fields, each once.
-/

namespace DeviceGateway.Json

/-! ### Characters of a string -/

/-- An octet that stands for itself in a string. -/
def IsOrdinary (b : UInt8) : Prop := b ≠ 0x22 ∧ b ≠ 0x5C ∧ ¬ b < 0x20

theorem readStringFrom_ordinary {bs : Bytes} (h : ∀ b ∈ bs, IsOrdinary b) (acc rest : Bytes) :
    readStringFrom acc (bs ++ rest) = readStringFrom (bs.reverse ++ acc) rest := by
  induction bs generalizing acc with
  | nil => rfl
  | cons b bs ih =>
    obtain ⟨hquote, hescape, hcontrol⟩ := h b (List.mem_cons_self ..)
    have htail := ih (fun d hd => h d (List.mem_cons_of_mem b hd)) (b :: acc)
    rw [List.cons_append, readStringFrom.eq_def]
    simp only [if_neg hquote, if_neg hescape, if_neg hcontrol]
    rw [htail, List.reverse_cons, List.append_assoc, List.singleton_append]

theorem readStringFrom_simple {e c : UInt8} (he : e ≠ 0x75) (hc : simpleEscape? e = some c)
    (acc rest : Bytes) :
    readStringFrom acc (0x5C :: e :: rest) = readStringFrom (c :: acc) rest := by
  rw [readStringFrom.eq_def]
  simp only [if_neg (show ¬ (0x5C : UInt8) = 0x22 by decide), if_true, if_neg he, hc]

theorem readStringFrom_hex {a b c d : UInt8} {n : Nat} (hn : hex4? a b c d = some n)
    (hlow : n < 0xD800) (acc rest : Bytes) :
    readStringFrom acc (0x5C :: 0x75 :: a :: b :: c :: d :: rest) =
      readStringFrom ((Utf8.encodeChar (Char.ofNat n)).reverse ++ acc) rest := by
  have hpair : ¬ (0xDC00 ≤ n ∧ n ≤ 0xDFFF) := by omega
  have hsingle : n < 0xD800 ∨ 0xDBFF < n := .inl hlow
  rw [readStringFrom.eq_def]
  simp only [if_neg (show ¬ (0x5C : UInt8) = 0x22 by decide), if_true, hn, if_neg hpair,
    if_pos hsingle]

theorem isOrdinary_of_le {b : UInt8} (h : 0x80 ≤ b.toNat) : IsOrdinary b := by
  have hne : ∀ n : UInt8, n.toNat < 0x80 → b ≠ n := by
    rintro n hn rfl
    omega
  refine ⟨hne _ (by decide), hne _ (by decide), ?_⟩
  rw [UInt8.lt_iff_toNat_lt]
  have : (0x20 : UInt8).toNat = 0x20 := rfl
  omega

theorem isOrdinary_of_mem_encodeChar {c : Char} (hquote : c ≠ '"') (hescape : c ≠ '\\')
    (hcontrol : ¬ c.toNat < 0x20) : ∀ b ∈ Utf8.encodeChar c, IsOrdinary b := by
  have hvalid := Utf8.char_valid c
  have hchar : ∀ d : Char, c ≠ d → c.toNat ≠ d.toNat := fun d hd h => hd (Char.toNat_inj.mp h)
  have hnquote := hchar '"' hquote
  have hnescape := hchar '\\' hescape
  intro b hb
  by_cases hascii : c.toNat < 0x80
  · simp only [Utf8.encodeChar, if_pos hascii, List.mem_singleton] at hb
    subst hb
    have hvalue : (UInt8.ofNat c.toNat).toNat = c.toNat := by
      rw [UInt8.toNat_ofNat']
      omega
    refine ⟨?_, ?_, ?_⟩
    · intro h
      exact hnquote (hvalue.symm.trans (congrArg UInt8.toNat h))
    · intro h
      exact hnescape (hvalue.symm.trans (congrArg UInt8.toNat h))
    · rw [UInt8.lt_iff_toNat_lt, hvalue]
      exact hcontrol
  · -- every octet of a longer form has its highest bit set
    have hhigh : ∀ n v : Nat, 0x80 ≤ n → n + v < 256 → IsOrdinary (UInt8.ofNat (n + v)) := by
      intro n v hn hv
      apply isOrdinary_of_le
      rw [Utf8.toNat_ofNat_add hv]
      omega
    simp only [Utf8.encodeChar, if_neg hascii] at hb
    split at hb
    · simp only [List.mem_cons, List.not_mem_nil, or_false] at hb
      rcases hb with rfl | rfl
      · exact hhigh _ _ (by omega) (by omega)
      · exact hhigh _ _ (by omega) (by omega)
    · split at hb
      · simp only [List.mem_cons, List.not_mem_nil, or_false] at hb
        rcases hb with rfl | rfl | rfl
        · exact hhigh _ _ (by omega) (by omega)
        · exact hhigh _ _ (by omega) (by omega)
        · exact hhigh _ _ (by omega) (by omega)
      · simp only [List.mem_cons, List.not_mem_nil, or_false] at hb
        rcases hb with rfl | rfl | rfl | rfl
        · exact hhigh _ _ (by omega) (by omega)
        · exact hhigh _ _ (by omega) (by omega)
        · exact hhigh _ _ (by omega) (by omega)
        · exact hhigh _ _ (by omega) (by omega)

theorem control_octets : ∀ n, n < 0x20 →
    Utf8.encode ['\\', 'u', '0', '0', Bytes.hexDigitLower (n / 16), Bytes.hexDigitLower (n % 16)] =
      [0x5C, 0x75, 0x30, 0x30, UInt8.ofNat (Bytes.hexDigitLower (n / 16)).toNat,
        UInt8.ofNat (Bytes.hexDigitLower (n % 16)).toNat] ∧
    hex4? 0x30 0x30 (UInt8.ofNat (Bytes.hexDigitLower (n / 16)).toNat)
      (UInt8.ofNat (Bytes.hexDigitLower (n % 16)).toNat) = some n := by
  decide

theorem readStringFrom_escapeChar (c : Char) (acc rest : Bytes) :
    readStringFrom acc (Utf8.encode (escapeChar c) ++ rest) =
      readStringFrom ((Utf8.encodeChar c).reverse ++ acc) rest := by
  by_cases hquote : c = '"'
  · subst hquote
    exact readStringFrom_simple (by decide) rfl acc rest
  by_cases hescape : c = '\\'
  · subst hescape
    exact readStringFrom_simple (by decide) rfl acc rest
  by_cases hback : c = '\x08'
  · subst hback
    exact readStringFrom_simple (by decide) rfl acc rest
  by_cases hfeed : c = '\x0c'
  · subst hfeed
    exact readStringFrom_simple (by decide) rfl acc rest
  by_cases hline : c = '\n'
  · subst hline
    exact readStringFrom_simple (by decide) rfl acc rest
  by_cases hreturn : c = '\r'
  · subst hreturn
    exact readStringFrom_simple (by decide) rfl acc rest
  by_cases htab : c = '\t'
  · subst htab
    exact readStringFrom_simple (by decide) rfl acc rest
  simp only [escapeChar, if_neg hquote, if_neg hescape, if_neg hback, if_neg hfeed, if_neg hline,
    if_neg hreturn, if_neg htab]
  by_cases hcontrol : c.toNat < 0x20
  · obtain ⟨hoctets, hvalue⟩ := control_octets c.toNat hcontrol
    rw [if_pos hcontrol, hoctets]
    have hread := readStringFrom_hex hvalue (by omega) acc rest
    rw [Char.ofNat_toNat] at hread
    exact hread
  · have hoctets : Utf8.encode [c] = Utf8.encodeChar c := List.append_nil _
    rw [if_neg hcontrol, hoctets]
    exact readStringFrom_ordinary (isOrdinary_of_mem_encodeChar hquote hescape hcontrol) acc rest

theorem readStringFrom_written (cs : List Char) (acc rest : Bytes) :
    readStringFrom acc (Utf8.encode (cs.flatMap escapeChar) ++ 0x22 :: rest) =
      .ok (acc.reverse ++ Utf8.encode cs, rest) := by
  induction cs generalizing acc with
  | nil =>
    rw [List.flatMap_nil, readStringFrom.eq_def]
    simp [Utf8.encode]
  | cons c cs ih =>
    rw [List.flatMap_cons, Utf8.encode_append, List.append_assoc, readStringFrom_escapeChar, ih]
    simp [Utf8.encode_cons]

/-- A written string reads as itself, up to its closing quote. -/
theorem readString_written (s : String) (rest : Bytes) :
    readString (Utf8.encode (s.toList.flatMap escapeChar) ++ 0x22 :: rest) = .ok (s, rest) := by
  have hcontent := readStringFrom_written s.toList [] rest
  have hdecode := Utf8.decodeText?_encodeText s
  unfold Utf8.encodeText at hdecode
  simp only [readString, hcontent, List.reverse_nil, List.nil_append, Bind.bind, Except.bind,
    hdecode]

/-! ### Values of fields -/

/-- A value that a field of the type holds. -/
def FieldType.Fits : FieldType → Value → Prop
  | .text, .str _ => True
  | .optionalText, .str _ => True
  | .optionalText, .null => True
  | .flag, .bool _ => True
  | _, _ => False

theorem encode_stringChars (s : String) :
    Utf8.encode (stringChars s.toList) =
      0x22 :: (Utf8.encode (s.toList.flatMap escapeChar) ++ [0x22]) := by
  rw [stringChars, Utf8.encode_cons, Utf8.encode_append]
  rfl

theorem readText_written (s : String) (rest : Bytes) :
    readText (Utf8.encode (stringChars s.toList) ++ rest) = .ok (.str s, rest) := by
  have hskip : ∀ bs : Bytes, skipBlanks (0x22 :: bs) = 0x22 :: bs := fun _ => rfl
  rw [encode_stringChars, List.cons_append, List.append_assoc, List.singleton_append]
  simp only [readText, hskip, readString_written, Bind.bind, Except.bind]
  rfl

theorem FieldType.read_written {type : FieldType} {v : Value} (h : type.Fits v) (rest : Bytes) :
    type.read (Utf8.encode v.chars ++ rest) = .ok (v, rest) := by
  cases type with
  | text =>
    cases v with
    | str s => exact readText_written s rest
    | _ => cases h
  | optionalText =>
    cases v with
    | str s =>
      have hread := readText_written s rest
      rw [encode_stringChars] at hread
      simp only [Value.chars, encode_stringChars]
      exact hread
    | null => rfl
    | _ => cases h
  | flag =>
    cases v with
    | bool b => cases b <;> rfl
    | _ => cases h

/-! ### Members of an object -/

theorem commaSeparated_cons (p : List Char) (ps : List (List Char)) :
    commaSeparated (p :: ps) = p ++ ps.flatMap (',' :: ·) := by
  induction ps generalizing p with
  | nil => simp [commaSeparated]
  | cons q qs ih => simp [commaSeparated, ih]

theorem encode_member (key : String) (v : Value) (rest : Bytes) :
    Utf8.encode (stringChars key.toList ++ ':' :: v.chars) ++ rest =
      0x22 :: (Utf8.encode (key.toList.flatMap escapeChar) ++
        0x22 :: 0x3A :: (Utf8.encode v.chars ++ rest)) := by
  have hcolon : Utf8.encode (':' :: v.chars) = 0x3A :: Utf8.encode v.chars := rfl
  rw [Utf8.encode_append, encode_stringChars, hcolon]
  simp

theorem readKey_first (key : String) (rest : Bytes) :
    readKey true (0x22 :: (Utf8.encode (key.toList.flatMap escapeChar) ++ 0x22 :: rest)) =
      .ok (some key, rest) := by
  have hskip : ∀ bs : Bytes, skipBlanks (0x22 :: bs) = 0x22 :: bs := fun _ => rfl
  simp only [readKey, hskip, readString_written, Bind.bind, Except.bind]
  rfl

theorem readKey_next (key : String) (rest : Bytes) :
    readKey false (0x2C :: 0x22 :: (Utf8.encode (key.toList.flatMap escapeChar) ++ 0x22 :: rest)) =
      .ok (some key, rest) := by
  have hskip : ∀ bs : Bytes, skipBlanks (0x22 :: bs) = 0x22 :: bs := fun _ => rfl
  have hcomma : ∀ bs : Bytes, skipBlanks (0x2C :: bs) = 0x2C :: bs := fun _ => rfl
  simp only [readKey, hcomma, hskip, readString_written, Bind.bind, Except.bind]
  rfl

/-- Every member is a known field with a value of its type. -/
def MembersFit (fields : List Field) (members : Members) : Prop :=
  ∀ m ∈ members, ∃ f, fields.find? (·.name == m.1) = some f ∧ f.type.Fits m.2

theorem readFieldMembers_member {fields : List Field} {found : Members} {first : Bool}
    {key : String} {v : Value} {f : Field} {bs rest : Bytes}
    (hkey : readKey first bs = .ok (some key, 0x3A :: (Utf8.encode v.chars ++ rest)))
    (hfield : fields.find? (·.name == key) = some f) (hfits : f.type.Fits v)
    (hfresh : found.lookup key = none) (fuel : Nat) :
    readFieldMembers fields found first (fuel + 1) bs =
      readFieldMembers fields ((key, v) :: found) false fuel rest := by
  have hcolon : readColon (0x3A :: (Utf8.encode v.chars ++ rest)) =
      .ok (Utf8.encode v.chars ++ rest) := rfl
  have hvalue := FieldType.read_written hfits rest
  rw [readFieldMembers]
  simp only [hkey, Bind.bind, Except.bind, hfield, hfresh, Option.isSome_none, Bool.false_eq_true,
    if_false, hcolon, hvalue]

theorem lookup_eq_none_of_cons {key : String} {v : Value} {found members : Members}
    (hkey : key ∉ members.map (·.1)) (hfresh : ∀ m ∈ members, found.lookup m.1 = none) :
    ∀ m ∈ members, ((key, v) :: found).lookup m.1 = none := by
  intro m hm
  have hmem : m.1 ∈ members.map (·.1) := List.mem_map_of_mem hm
  have hne : m.1 ≠ key := by
    intro heq
    rw [heq] at hmem
    exact hkey hmem
  rw [List.lookup_cons, beq_eq_false_iff_ne.mpr hne]
  exact hfresh m hm

/-- The members after the first, up to the closing brace. -/
theorem readFieldMembers_rest {fields : List Field} {members : Members} {found : Members}
    (hfit : MembersFit fields members) (hnodup : (members.map (·.1)).Nodup)
    (hfresh : ∀ m ∈ members, found.lookup m.1 = none) {fuel : Nat} (hfuel : members.length < fuel)
    (rest : Bytes) :
    readFieldMembers fields found false fuel
        (Utf8.encode ((membersChars members).flatMap (',' :: ·)) ++ 0x7D :: rest) =
      .ok (members.reverse ++ found, rest) := by
  induction members generalizing found fuel with
  | nil =>
    obtain ⟨n, rfl⟩ : ∃ n, fuel = n + 1 := ⟨fuel - 1, by omega⟩
    rfl
  | cons m ms ih =>
    obtain ⟨key, v⟩ := m
    obtain ⟨n, rfl⟩ : ∃ n, fuel = n + 1 := ⟨fuel - 1, by omega⟩
    obtain ⟨f, hfield, hfits⟩ := hfit (key, v) (List.mem_cons_self ..)
    obtain ⟨hkeys, hnodup'⟩ := List.nodup_cons.mp hnodup
    have hfresh' : ∀ m ∈ ms, ((key, v) :: found).lookup m.1 = none :=
      lookup_eq_none_of_cons hkeys fun m hm => hfresh m (List.mem_cons_of_mem _ hm)
    have hfuel' : ms.length < n := by
      simp only [List.length_cons] at hfuel
      omega
    have htail := ih (fun m hm => hfit m (List.mem_cons_of_mem _ hm)) hnodup' hfresh' hfuel'
    have hcomma : ∀ cs, Utf8.encode (',' :: cs) = 0x2C :: Utf8.encode cs := fun _ => rfl
    rw [membersChars, List.flatMap_cons, Utf8.encode_append, List.append_assoc, hcomma,
      List.cons_append, encode_member,
      readFieldMembers_member (readKey_next key _) hfield hfits
        (hfresh (key, v) (List.mem_cons_self ..)) n, htail]
    simp

theorem length_le_encode (members : Members) :
    members.length ≤ (Utf8.encode ((membersChars members).flatMap (',' :: ·))).length := by
  induction members with
  | nil => exact Nat.zero_le _
  | cons m ms ih =>
    have hcomma : ∀ cs, Utf8.encode (',' :: cs) = 0x2C :: Utf8.encode cs := fun _ => rfl
    obtain ⟨key, v⟩ := m
    rw [membersChars, List.flatMap_cons, Utf8.encode_append, hcomma]
    simp only [List.length_cons, List.length_append]
    omega

/-- All members of an object that was written, up to its closing brace. -/
theorem readFieldMembers_written {fields : List Field} {members : Members}
    (hfit : MembersFit fields members) (hnodup : (members.map (·.1)).Nodup) (rest : Bytes) :
    readFieldMembers fields [] true
        ((Utf8.encode (commaSeparated (membersChars members)) ++ 0x7D :: rest).length + 1)
        (Utf8.encode (commaSeparated (membersChars members)) ++ 0x7D :: rest) =
      .ok (members.reverse, rest) := by
  cases members with
  | nil => rfl
  | cons m ms =>
    obtain ⟨key, v⟩ := m
    obtain ⟨f, hfield, hfits⟩ := hfit (key, v) (List.mem_cons_self ..)
    obtain ⟨hkeys, hnodup'⟩ := List.nodup_cons.mp hnodup
    have hlength := length_le_encode ms
    have hfresh : ∀ m ∈ ms, [(key, v)].lookup m.1 = none :=
      lookup_eq_none_of_cons hkeys fun _ _ => rfl
    rw [membersChars, commaSeparated_cons, Utf8.encode_append, List.append_assoc, encode_member,
      readFieldMembers_member (readKey_first key _) hfield hfits rfl,
      readFieldMembers_rest (fun m hm => hfit m (List.mem_cons_of_mem _ hm)) hnodup' hfresh]
    · simp
    · simp only [List.length_cons, List.length_append]
      omega

/-! ### Whole records -/

theorem lookup_of_mem {members : Members} (hnodup : (members.map (·.1)).Nodup)
    {m : String × Value} (hm : m ∈ members) : members.lookup m.1 = some m.2 := by
  induction members with
  | nil => cases hm
  | cons n ns ih =>
    obtain ⟨hkey, hnodup'⟩ := List.nodup_cons.mp hnodup
    rcases List.mem_cons.mp hm with rfl | hm'
    · exact List.lookup_cons_self
    · have hmem : m.1 ∈ ns.map (·.1) := List.mem_map_of_mem hm'
      have hne : m.1 ≠ n.1 := by
        intro heq
        rw [heq] at hmem
        exact hkey hmem
      rw [List.lookup_cons, beq_eq_false_iff_ne.mpr hne]
      exact ih hnodup' hm'

theorem find?_of_mem {fields : List Field} (hnodup : (fields.map (·.name)).Nodup) {f : Field}
    (hf : f ∈ fields) : fields.find? (·.name == f.name) = some f := by
  induction fields with
  | nil => cases hf
  | cons g gs ih =>
    obtain ⟨hname, hnodup'⟩ := List.nodup_cons.mp hnodup
    rcases List.mem_cons.mp hf with rfl | hf'
    · exact List.find?_cons_of_pos (beq_self_eq_true _)
    · have hmem : f.name ∈ gs.map (·.name) := List.mem_map_of_mem hf'
      have hne : (g.name == f.name) = false := by
        rw [beq_eq_false_iff_ne]
        intro heq
        rw [← heq] at hmem
        exact hname hmem
      rw [List.find?_cons_of_neg (by rw [hne]; exact Bool.false_ne_true)]
      exact ih hnodup' hf'

theorem collectFields_written {found : Members} {entries : List (Field × Value)}
    (h : ∀ e ∈ entries, found.lookup e.1.name = some e.2) (rest : Bytes) :
    collectFields found rest (entries.map (·.1)) = .ok (entries.map (·.2)) := by
  induction entries with
  | nil => rfl
  | cons e es ih =>
    have he := h e (List.mem_cons_self ..)
    have hes := ih fun d hd => h d (List.mem_cons_of_mem e hd)
    simp only [List.map_cons, collectFields, he, Option.some_or, hes]
    rfl

def memberOf (e : Field × Value) : String × Value := (e.1.name, e.2)

/-- A record of fields with names of their own, written with a value of its type for each, reads as
these values. -/
theorem RecordShape.parse_written {shape : RecordShape} {entries : List (Field × Value)}
    (hfields : shape.fields = entries.map (·.1)) (hnames : (shape.fields.map (·.name)).Nodup)
    (hfits : ∀ e ∈ entries, e.1.type.Fits e.2) :
    shape.parse (Utf8.encodeText (Value.obj (entries.map memberOf)).compact) =
      .ok (entries.map (·.2)) := by
  obtain ⟨members, hmembers⟩ : ∃ members, members = entries.map memberOf := ⟨_, rfl⟩
  have hkeys : members.map (·.1) = shape.fields.map (·.name) := by
    rw [hmembers, hfields, List.map_map, List.map_map]
    rfl
  have hnodup : (members.map (·.1)).Nodup := by
    rw [hkeys]
    exact hnames
  have hfit : MembersFit shape.fields members := by
    intro m hm
    rw [hmembers] at hm
    obtain ⟨e, he, rfl⟩ := List.mem_map.mp hm
    have hmem : e.1 ∈ shape.fields := by
      rw [hfields]
      exact List.mem_map_of_mem he
    exact ⟨e.1, find?_of_mem hnames hmem, hfits e he⟩
  have hfound : ∀ e ∈ entries, members.reverse.lookup e.1.name = some e.2 := by
    intro e he
    have hm : memberOf e ∈ members.reverse := by
      rw [List.mem_reverse, hmembers]
      exact List.mem_map_of_mem he
    have hreverse : (members.reverse.map (·.1)).Nodup := by
      rw [List.map_reverse]
      exact List.pairwise_reverse.mpr (hnodup.imp Ne.symm)
    exact lookup_of_mem hreverse hm
  have htext : Utf8.encodeText (Value.obj members).compact =
      0x7B :: (Utf8.encode (commaSeparated (membersChars members)) ++ [0x7D]) := by
    rw [Value.compact, Utf8.encodeText_ofList, Value.chars, Utf8.encode_cons, Utf8.encode_append]
    rfl
  have hmembersRead := readFieldMembers_written hfit hnodup []
  have hskip : ∀ bs : Bytes, skipBlanks (0x7B :: bs) = 0x7B :: bs := fun _ => rfl
  have hvalues := collectFields_written hfound []
  rw [← hfields] at hvalues
  rw [← hmembers, htext]
  simp only [RecordShape.parse, RecordShape.read, hskip, hmembersRead, Bind.bind, Except.bind,
    hvalues]
  rfl

end DeviceGateway.Json
