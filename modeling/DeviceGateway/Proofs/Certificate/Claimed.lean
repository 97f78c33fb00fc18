import DeviceGateway.Proofs.Certificate.Written

/-!
# What a written certificate claims

Each field of an identity is the text of the first attribute of one type in the subject, without
the blanks around it. An attribute that has no such text hides those after it. The reader takes the
string type of a value from its tag number alone.
-/

namespace DeviceGateway

/-! ### Texts -/

namespace Text

theorem trim_eq_empty_iff (s : String) : trim s = "" ↔ isBlank s = true := by
  have hempty : ∀ cs : List Char, String.ofList cs = "" ↔ cs = [] := by
    intro cs
    rw [← String.toList_inj, String.toList_ofList]
    rfl
  rw [trim, hempty, trimChars_eq_nil_iff, isBlank]

end Text

namespace Certificate

/-- What reading a name leaves of it: the text without the blanks around it, unless that is
empty. -/
theorem nonBlank?_eq_some_iff_trim (s v : String) :
    nonBlank? s = some v ↔ Text.trim s = v ∧ v ≠ "" := by
  unfold nonBlank?
  cases hblank : Text.isBlank s with
  | true =>
    have htrim := (Text.trim_eq_empty_iff s).mpr hblank
    rw [htrim]
    constructor
    · intro h
      cases h
    · rintro ⟨rfl, hv⟩
      exact absurd rfl hv
  | false =>
    have htrim : Text.trim s ≠ "" := by
      rw [Ne, Text.trim_eq_empty_iff, hblank]
      exact Bool.false_ne_true
    constructor
    · intro h
      cases h
      exact ⟨rfl, htrim⟩
    · rintro ⟨rfl, -⟩
      rfl

end Certificate

namespace Utf8

theorem toNat_char {v : Nat} (h : v < 0xD800 ∨ 0xE000 ≤ v ∧ v < 0x110000) :
    (Char.ofNat v).toNat = v := by
  have hvalid : v.isValidChar := by
    unfold Nat.isValidChar
    omega
  unfold Char.ofNat
  rw [dif_pos hvalid]
  unfold Char.ofNatAux Char.toNat
  simp

theorem tail?_eq_some {b : UInt8} {v : Nat} (h : tail? b = some v) :
    v < 64 ∧ b = UInt8.ofNat (0x80 + v) := by
  unfold tail? at h
  split at h
  · next hb =>
    obtain rfl := Option.some.inj h
    refine ⟨by omega, ?_⟩
    rw [show 0x80 + (b.toNat - 0x80) = b.toNat by omega, UInt8.ofNat_toNat]
  · cases h

theorem encodeChar_one {a : UInt8} (h : a.toNat < 0x80) :
    encodeChar (Char.ofNat a.toNat) = [a] := by
  have hv := toNat_char (v := a.toNat) (by omega)
  simp only [encodeChar, hv, if_pos h, UInt8.ofNat_toNat]

theorem encodeChar_two {a b : UInt8} {c : Char} (hlo : 0xC0 ≤ a.toNat) (hhi : a.toNat < 0xE0)
    (h : two? a b = some c) : encodeChar c = [a, b] := by
  obtain ⟨y, hy, hvalue⟩ := Option.bind_eq_some_iff.mp h
  obtain ⟨hylt, hb⟩ := tail?_eq_some hy
  dsimp only at hvalue
  split at hvalue
  · next hmin =>
    cases hvalue
    have hv := toNat_char (v := (a.toNat - 0xC0) * 64 + y) (by omega)
    have hfirst : 0xC0 + ((a.toNat - 0xC0) * 64 + y) / 64 = a.toNat := by omega
    have hlast : ((a.toNat - 0xC0) * 64 + y) % 64 = y := by omega
    simp only [encodeChar, hv, hfirst, hlast, UInt8.ofNat_toNat, ← hb]
    rw [if_neg (by omega), if_pos (by omega)]
  · cases hvalue

theorem encodeChar_three {a b c : UInt8} {d : Char} (hlo : 0xE0 ≤ a.toNat) (hhi : a.toNat < 0xF0)
    (h : three? a b c = some d) : encodeChar d = [a, b, c] := by
  obtain ⟨y, hy, hrest⟩ := Option.bind_eq_some_iff.mp h
  obtain ⟨z, hz, hvalue⟩ := Option.bind_eq_some_iff.mp hrest
  obtain ⟨hylt, hb⟩ := tail?_eq_some hy
  obtain ⟨hzlt, hc⟩ := tail?_eq_some hz
  dsimp only at hvalue
  split at hvalue
  · next hrange =>
    cases hvalue
    have hv := toNat_char (v := (a.toNat - 0xE0) * 4096 + y * 64 + z) (by omega)
    have hfirst : 0xE0 + ((a.toNat - 0xE0) * 4096 + y * 64 + z) / 4096 = a.toNat := by omega
    have hmiddle : ((a.toNat - 0xE0) * 4096 + y * 64 + z) / 64 % 64 = y := by omega
    have hlast : ((a.toNat - 0xE0) * 4096 + y * 64 + z) % 64 = z := by omega
    simp only [encodeChar, hv, hfirst, hmiddle, hlast, UInt8.ofNat_toNat, ← hb, ← hc]
    rw [if_neg (by omega), if_neg (by omega), if_pos (by omega)]
  · cases hvalue

theorem encodeChar_four {a b c d : UInt8} {e : Char} (hlo : 0xF0 ≤ a.toNat)
    (h : four? a b c d = some e) : encodeChar e = [a, b, c, d] := by
  rw [four?_eq] at h
  obtain ⟨x, hx, hafter⟩ := Option.bind_eq_some_iff.mp h
  obtain ⟨y, hy, hrest⟩ := Option.bind_eq_some_iff.mp hafter
  obtain ⟨z, hz, hvalue⟩ := Option.bind_eq_some_iff.mp hrest
  obtain ⟨hxlt, hb⟩ := tail?_eq_some hx
  obtain ⟨hylt, hc⟩ := tail?_eq_some hy
  obtain ⟨hzlt, hd⟩ := tail?_eq_some hz
  dsimp only at hvalue
  generalize hn : (a.toNat - 0xF0) * 262144 + x * 4096 + y * 64 + z = n at hvalue
  split at hvalue
  · next hrange =>
    cases hvalue
    have hv := toNat_char (v := n) (by omega)
    have hfirst : 0xF0 + n / 262144 = a.toNat := by omega
    have hsecond : n / 4096 % 64 = x := by omega
    have hthird : n / 64 % 64 = y := by omega
    have hlast : n % 64 = z := by omega
    simp only [encodeChar, hv, hfirst, hsecond, hthird, hlast, UInt8.ofNat_toNat, ← hb, ← hc, ← hd]
    rw [if_neg (by omega), if_neg (by omega), if_neg (by omega)]
  · cases hvalue

theorem encode_of_map {front bs : Bytes} {ch : Char} {cs : List Char}
    (hfront : encodeChar ch = front) (ih : ∀ ds, decode? bs = some ds → encode ds = bs)
    (h : (decode? bs).map (ch :: ·) = some cs) : encode cs = front ++ bs := by
  obtain ⟨ds, hds, rfl⟩ := Option.map_eq_some_iff.mp h
  rw [encode_cons, hfront, ih ds hds]

/-- Octets that are read as characters are those that the characters are written in. -/
theorem encode_of_decode? (bs : Bytes) (cs : List Char) (h : decode? bs = some cs) :
    encode cs = bs := by
  fun_induction decode? bs generalizing cs with
  | case1 =>
    cases h
    rfl
  | case2 a rest hone ih => exact encode_of_map (encodeChar_one hone) ih h
  | case3 => cases h
  | case4 => cases h
  | case5 a _ hlo b rest hhi ih =>
    obtain ⟨ch, hch, h⟩ := Option.bind_eq_some_iff.mp h
    exact encode_of_map (encodeChar_two (Nat.le_of_not_lt hlo) hhi hch) ih h
  | case6 => cases h
  | case7 a _ _ b hlo c rest hhi ih =>
    obtain ⟨ch, hch, h⟩ := Option.bind_eq_some_iff.mp h
    exact encode_of_map (encodeChar_three (Nat.le_of_not_lt hlo) hhi hch) ih h
  | case8 => cases h
  | case9 a _ _ b _ c hlo d rest _ ih =>
    obtain ⟨ch, hch, h⟩ := Option.bind_eq_some_iff.mp h
    exact encode_of_map (encodeChar_four (Nat.le_of_not_lt hlo) hch) ih h
  | case10 => cases h

/-- Octets have a text exactly if they are its UTF-8 form. -/
theorem decodeText?_eq_some_iff (bs : Bytes) (s : String) :
    decodeText? bs = some s ↔ encodeText s = bs := by
  constructor
  · intro h
    obtain ⟨cs, hcs, rfl⟩ := Option.map_eq_some_iff.mp h
    rw [encodeText_ofList, encode_of_decode? bs cs hcs]
  · rintro rfl
    exact decodeText?_encodeText s

end Utf8

namespace Certificate

/-! ### First attributes -/

/-- Whether an attribute is the first of a type in the sets of a name. -/
def HasFirst (type : Bytes) (name : Name) (a : Attribute) : Prop :=
  a.type = type ∧ ∃ before after, name.flatten = before ++ a :: after ∧ ∀ b ∈ before, b.type ≠ type

/-- Whether a value has the tag number of a string type that is read, and a text that is `v`
without the blanks around it. -/
def Attribute.Shows (a : Attribute) (v : String) : Prop :=
  a.value.number ∈ [Der.utf8String, Der.numericString, Der.printableString, Der.ia5String] ∧
    ∃ text, Utf8.encodeText text = a.value.content ∧ Text.trim text = v ∧ v ≠ ""

/-- Whether the first attribute of a type shows a text. -/
def FirstShows (type : Bytes) (name : Name) (v : String) : Prop :=
  ∃ a, HasFirst type name a ∧ a.Shows v

theorem find?_type_eq_some_iff {type : Bytes} {name : Name} {a : Attribute} :
    name.flatten.find? (·.type == type) = some a ↔ HasFirst type name a := by
  simp only [List.find?_eq_some_iff_append, HasFirst, beq_iff_eq, Bool.not_eq_true',
    beq_eq_false_iff_ne]

theorem isTextTag_iff (n : Nat) : isTextTag n = true ↔
    n ∈ [Der.utf8String, Der.numericString, Der.printableString, Der.ia5String] := by
  simp [isTextTag, or_assoc]

theorem Attribute.text?_eq_some_iff {a : Attribute} {text : String} : a.text? = some text ↔
    a.value.number ∈ [Der.utf8String, Der.numericString, Der.printableString, Der.ia5String] ∧
      Utf8.encodeText text = a.value.content := by
  rw [← isTextTag_iff, ← Utf8.decodeText?_eq_some_iff]
  unfold text?
  split
  · next htag => exact (and_iff_right htag).symm
  · next htag => exact iff_of_false nofun fun h => htag h.1

theorem Attribute.shows_iff {a : Attribute} {v : String} :
    a.text?.bind nonBlank? = some v ↔ a.Shows v := by
  simp only [Option.bind_eq_some_iff, Attribute.text?_eq_some_iff, nonBlank?_eq_some_iff_trim,
    Shows, and_assoc, exists_and_left]

/-- What is read of a name for a type is what its first attribute of the type shows. -/
theorem firstText_eq_some_iff {type : Bytes} {name : Name} {v : String} :
    firstText type name = some v ↔ FirstShows type name v := by
  rw [firstText, Option.bind_assoc, Option.bind_eq_some_iff]
  simp only [find?_type_eq_some_iff, Attribute.shows_iff, FirstShows]

theorem firstText_congr {type : Bytes} {name other : Name}
    (h : ∀ a, HasFirst type name a ↔ HasFirst type other a) :
    firstText type name = firstText type other := by
  apply Option.ext
  intro v
  simp only [firstText_eq_some_iff, FirstShows, h]

end Certificate

open Certificate

/-- A certificate claims what the first attributes of its subject show, each in the field of its
type, whatever follows the certificate. Another certificate whose subject has the same first
attributes of these types claims the same. -/
theorem Certificate.identityOf_encode (c : Certificate) (hc : c.IsReadable) (rest : Bytes) :
    let claimed := identityOf (c.encode ++ rest)
    (∀ v, (claimed.deviceId = some v ↔ FirstShows commonName c.fields.subject v) ∧
      (claimed.moduleId = some v ↔ FirstShows organizationalUnit c.fields.subject v) ∧
      (claimed.hubName = some v ↔ FirstShows organization c.fields.subject v)) ∧
    ∀ (other : Certificate) (after : Bytes), other.IsReadable →
      (∀ type ∈ [commonName, organizationalUnit, organization], ∀ a,
        HasFirst type c.fields.subject a ↔ HasFirst type other.fields.subject a) →
      identityOf (other.encode ++ after) = claimed := by
  have hread : ∀ (d : Certificate) (after : Bytes), d.IsReadable →
      identityOf (d.encode ++ after) = claimedIdentity d.fields.subject := by
    intro d after hd
    rw [identityOf, readSubject?_encode hd after]
  rw [hread c rest hc]
  refine ⟨?_, ?_⟩
  · intro v
    exact ⟨firstText_eq_some_iff, firstText_eq_some_iff, firstText_eq_some_iff⟩
  · intro other after hother hsame
    have hname := firstText_congr (hsame commonName (by simp))
    have hunit := firstText_congr (hsame organizationalUnit (by simp))
    have horganization := firstText_congr (hsame organization (by simp))
    rw [hread other after hother, claimedIdentity, claimedIdentity, hname, hunit, horganization]

/-- A certificate of a subject, by an authority of the given name; its unique identifiers and its
signature end with unused bits. -/
def Certificate.ofSubject (subject issuer : Name) : Certificate where
  fields := {
    serial := [1]
    algorithm := ⟨[0x2A, 0x86, 0x48, 0xCE, 0x3D, 0x04, 0x03, 0x02], []⟩
    issuer := issuer
    notBefore := ⟨⟨2024, 1, 1⟩, 0, 0, 0⟩
    notAfter := ⟨⟨2034, 1, 1⟩, 0, 0, 0⟩
    subject := subject
    publicKey := ⟨⟨[0x2A, 0x86, 0x48, 0xCE, 0x3D, 0x02, 0x01], []⟩, .ofOctets [4, 1, 2]⟩
    issuerId := some ⟨[0x80], ⟨7, by decide⟩, nofun, rfl⟩
    subjectId := some ⟨[0x5F, 0xF0], ⟨3, by decide⟩, nofun, rfl⟩ }
  algorithm := ⟨[0x2A, 0x86, 0x48, 0xCE, 0x3D, 0x04, 0x03, 0x02], []⟩
  signature := ⟨[0x30, 0x20], ⟨5, by decide⟩, nofun, rfl⟩

theorem Certificate.ofSubject_isReadable {subject : Name} (hsubject : IsReadableName subject)
    (issuer : Name) (hfits : Der.Fits (ofSubject subject issuer).encode) :
    (ofSubject subject issuer).IsReadable where
  fields := {
    version := Nat.le_refl 2
    algorithm := .inl rfl
    notBefore := ⟨rfl, show 2024 < 10000 by decide⟩
    notAfter := ⟨rfl, show 2034 < 10000 by decide⟩
    subject := hsubject
    publicKey := .inl rfl }
  algorithm := .inl rfl
  fits := hfits

/-- A subject with two common names in one set and no text in its first organizational unit. -/
def Certificate.crowdedSubject : Name :=
  [[⟨organizationalUnit, ⟨0, false, 30, [0, 0x6D]⟩⟩, .ofText commonName " dev1 "],
    [.ofText organizationalUnit "mod1"], [.ofText commonName "dev2", .ofText organization "hub"]]

theorem Certificate.identityOf_crowdedSubject :
    let c := ofSubject crowdedSubject [[.ofText commonName "ca"]]
    identityOf (c.encode ++ [0, 1]) = ⟨some "hub", some "dev1", none⟩ ∧
      FirstShows commonName crowdedSubject "dev1" ∧ FirstShows organization crowdedSubject "hub" ∧
      ∀ v, ¬ FirstShows organizationalUnit crowdedSubject v := by
  have hsubject : IsReadableName crowdedSubject := by
    unfold IsReadableName Attribute.IsReadable
    decide
  have hreadable := ofSubject_isReadable hsubject [[.ofText commonName "ca"]]
    (by decide +kernel)
  have hread : identityOf ((ofSubject crowdedSubject [[.ofText commonName "ca"]]).encode ++ [0, 1])
      = ⟨some "hub", some "dev1", none⟩ := by
    decide +kernel
  have hfields := (identityOf_encode _ hreadable [0, 1]).1
  rw [hread] at hfields
  refine ⟨hread, (hfields "dev1").1.mp rfl, (hfields "hub").2.2.mp rfl, ?_⟩
  intro v hv
  have hnone := (hfields v).2.1.mpr hv
  cases hnone

/-- A value need not be of a string type: the reader takes one of another class with the tag number
of a string type, and one whose tag number agrees with that in its last 32 bits. -/
theorem Certificate.identityOf_unlike_string :
    (¬ ∀ c : Certificate, c.IsReadable → ∀ v, (identityOf c.encode).deviceId = some v ↔
      ∃ a, HasFirst commonName c.fields.subject a ∧ a.Shows v ∧ a.value.tagClass = 0 ∧
        a.value.constructed = false) ∧
    let long := ofSubject [[⟨commonName, ⟨0, false, 4294967308, [0x61]⟩⟩]] []
    (identityOf long.encode).deviceId = some "a" ∧
      ∀ v, ¬ FirstShows commonName long.fields.subject v := by
  refine ⟨?_, by decide +kernel, ?_⟩
  · intro hclaim
    have hsubject : IsReadableName [[⟨commonName, ⟨2, false, 12, [0x61]⟩⟩]] := by
      unfold IsReadableName Attribute.IsReadable
      decide
    have hreadable := ofSubject_isReadable hsubject [] (by decide +kernel)
    obtain ⟨a, hfirst, -, hclass, -⟩ := (hclaim _ hreadable "a").mp (by decide +kernel)
    cases find?_type_eq_some_iff.mpr hfirst
    cases hclass
  · rintro v ⟨a, hfirst, htag, -⟩
    cases find?_type_eq_some_iff.mpr hfirst
    revert htag
    decide

end DeviceGateway
