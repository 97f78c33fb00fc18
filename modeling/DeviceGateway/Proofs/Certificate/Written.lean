import DeviceGateway.Certificate.Basic
import DeviceGateway.Certificate.Reader
import DeviceGateway.Proofs.Certificate.Timestamps

/-!
# Written certificates are read

The reader finds the subject that a certificate was written with, whatever stands in its other
fields and whatever follows it. What the other fields must be is what any certificate has: a version
of the standard, algorithms with at most one element as parameters, and times that can be written.
-/

namespace DeviceGateway

namespace Certificate

/-! ### Names -/

/-- Whether the value of an attribute has an identifier that the reader takes. -/
def Attribute.IsReadable (a : Attribute) : Prop :=
  a.value.tagClass < 4 ∧ a.value.number < 4294967296

/-- Whether a name can be read back: its sets are not empty, and its values have identifiers. -/
def IsReadableName (name : Name) : Prop := ∀ s ∈ name, s ≠ [] ∧ ∀ a ∈ s, a.IsReadable

/-- A loop that reads one after another up to the first that it cannot read. -/
theorem loop_flatMap {α : Type} {read : Bytes → Option (α × Bytes)} {loop : Nat → Bytes → List α}
    (hzero : ∀ bs, loop 0 bs = []) (hstop : ∀ fuel bs, read bs = none → loop (fuel + 1) bs = [])
    (hstep : ∀ fuel bs x rest, read bs = some (x, rest) →
      loop (fuel + 1) bs = x :: loop fuel rest)
    (hnil : read [] = none) {write : α → Bytes} {xs : List α} {fuel : Nat}
    (hread : ∀ x ∈ xs, ∀ rest, read (write x ++ rest) = some (x, rest)) (hfuel : xs.length ≤ fuel) :
    loop fuel (xs.flatMap write) = xs := by
  induction xs generalizing fuel with
  | nil =>
    cases fuel with
    | zero => exact hzero []
    | succ fuel => exact hstop fuel [] hnil
  | cons x xs ih =>
    cases fuel with
    | zero => exact absurd hfuel (Nat.not_succ_le_zero _)
    | succ fuel =>
      have hrest := ih (fun y hy => hread y (List.mem_cons_of_mem x hy))
        (Nat.le_of_succ_le_succ hfuel)
      rw [List.flatMap_cons, hstep fuel _ x _ (hread x (List.mem_cons_self ..) _), hrest]

theorem readAttributes_flatMap {write : Attribute → Bytes} {s : AttributeSet} {fuel : Nat}
    (hread : ∀ a ∈ s, ∀ rest, readAttribute (write a ++ rest) = some (a, rest))
    (hfuel : s.length ≤ fuel) : readAttributes fuel (s.flatMap write) = s :=
  loop_flatMap (fun _ => rfl) (fun _ _ h => by simp only [readAttributes, h])
    (fun _ _ _ _ h => by simp only [readAttributes, h]) rfl hread hfuel

theorem readSets_flatMap {write : AttributeSet → Bytes} {name : Name} {fuel : Nat}
    (hread : ∀ s ∈ name, ∀ rest, readSet (write s ++ rest) = some (s, rest))
    (hfuel : name.length ≤ fuel) : readSets fuel (name.flatMap write) = name :=
  loop_flatMap (fun _ => rfl) (fun _ _ h => by simp only [readSets, h])
    (fun _ _ _ _ h => by simp only [readSets, h]) rfl hread hfuel

/-- Each part of octets that fit into an element fits into one. -/
theorem fits_of_mem_flatMap {α : Type} {write : α → Bytes} {xs : List α}
    (hfits : Der.Fits (xs.flatMap write)) {x : α} (hx : x ∈ xs) : Der.Fits (write x) := by
  obtain ⟨before, after, rfl⟩ := List.append_of_mem hx
  rw [List.flatMap_append, List.flatMap_cons] at hfits
  exact hfits.append.2.append.1

/-- Parts that are not empty are no more than the octets of all. -/
theorem count_le_length_flatMap {α : Type} {write : α → Bytes} (hwrite : ∀ x, write x ≠ [])
    (xs : List α) : xs.length ≤ (xs.flatMap write).length := by
  induction xs with
  | nil => exact Nat.zero_le _
  | cons x xs ih =>
    have hpos := List.length_pos_iff.mpr (hwrite x)
    simp only [List.flatMap_cons, List.length_append, List.length_cons]
    omega

theorem readAttribute_encode {a : Attribute} (ha : a.IsReadable) (hfits : Der.Fits a.encode)
    (rest : Bytes) : readAttribute (a.encode ++ rest) = some (a, rest) := by
  have hcontent : Der.Fits (Der.writeObjectId a.type ++ a.value.encode) := hfits.content
  obtain ⟨htype, hvalue⟩ := hcontent.append
  have hinner := Der.readElement_encode ⟨ha.1, ha.2, hvalue.content⟩ []
  rw [List.append_nil] at hinner
  simp only [readAttribute, Attribute.encode, Der.readTagged_writeSequence hcontent,
    Der.readAnyPrimitive_writeObjectId htype.content, hinner, Bind.bind, Option.bind]

theorem readSet_encodeSet {s : AttributeSet} (hne : s ≠ []) (hs : ∀ a ∈ s, a.IsReadable)
    (hfits : Der.Fits (encodeSet s)) (rest : Bytes) :
    readSet (encodeSet s ++ rest) = some (s, rest) := by
  have hcontent : Der.Fits (s.flatMap Attribute.encode) := hfits.content
  have hattributes : readAttributes (s.flatMap Attribute.encode).length
      (s.flatMap Attribute.encode) = s := by
    refine readAttributes_flatMap ?_ ?_
    · intro a ha rest
      exact readAttribute_encode (hs a ha) (fits_of_mem_flatMap hcontent ha) rest
    · exact count_le_length_flatMap (fun a => Der.Element.encode_ne_nil _) s
  simp only [readSet, encodeSet, Der.readTagged_writeSet hcontent, hattributes, Bind.bind,
    Option.bind]

theorem readName_encodeName {name : Name} (hname : IsReadableName name)
    (hfits : Der.Fits (encodeName name)) (rest : Bytes) :
    readName (encodeName name ++ rest) = some (name, rest) := by
  have hcontent : Der.Fits (name.flatMap encodeSet) := hfits.content
  have hsets : readSets (name.flatMap encodeSet).length (name.flatMap encodeSet) = name := by
    refine readSets_flatMap ?_ ?_
    · intro s hs rest
      obtain ⟨hne, hattributes⟩ := hname s hs
      exact readSet_encodeSet hne hattributes (fits_of_mem_flatMap hcontent hs) rest
    · exact count_le_length_flatMap (fun s => Der.Element.encode_ne_nil _) name
  simp only [readName, encodeName, Der.readTagged_writeSequence hcontent, hsets, Bind.bind,
    Option.bind]

/-- A name of any sets is passed over. -/
theorem exists_readName (name : Name) (hfits : Der.Fits (encodeName name)) (rest : Bytes) :
    ∃ found, readName (encodeName name ++ rest) = some (found, rest) := by
  have hcontent : Der.Fits (name.flatMap encodeSet) := hfits.content
  simp only [readName, encodeName, Der.readTagged_writeSequence hcontent, Bind.bind, Option.bind]
  exact ⟨_, rfl⟩

/-! ### Algorithms and keys -/

/-- Whether the parameters of an algorithm are at most one element. -/
def Algorithm.IsReadable (a : Algorithm) : Prop :=
  a.parameters = [] ∨ (Der.readElement a.parameters).isSome = true

theorem readAlgorithm_encode {a : Algorithm} (ha : a.IsReadable) (hfits : Der.Fits a.encode)
    (rest : Bytes) : readAlgorithm (a.encode ++ rest) = some rest := by
  have hcontent : Der.Fits (Der.writeObjectId a.id ++ a.parameters) := hfits.content
  have hid := hcontent.append.1.content
  simp only [readAlgorithm, Algorithm.encode, Algorithm.content,
    Der.readTagged_writeSequence hcontent, Der.readAnyPrimitive_writeObjectId hid, Bind.bind,
    Option.bind]
  rcases ha with hnone | hsome
  · simp only [hnone, List.isEmpty_nil, if_true]
  · obtain ⟨found, hfound⟩ := Option.isSome_iff_exists.mp hsome
    simp only [hfound, Option.map_some, ite_self]

/-- An octet that a power of two divides has as many zero bits at its end. -/
theorem le_trailingZeros {b : UInt8} {k : Nat} (hk : k ≤ 8) (h : b.toNat % Nat.pow 2 k = 0) :
    k ≤ trailingZeros b := by
  have hall : ∀ i ∈ List.range k, decide (b.toNat % Nat.pow 2 (i + 1) = 0) = true := by
    intro i hi
    have hpow : 2 ^ (i + 1) ∣ 2 ^ k := Nat.pow_dvd_pow 2 (List.mem_range.mp hi)
    exact decide_eq_true (Nat.mod_eq_zero_of_dvd (Nat.dvd_trans hpow (Nat.dvd_of_mod_eq_zero h)))
  have hsub := (List.range_sublist.mpr hk).filter fun i =>
    decide (b.toNat % Nat.pow 2 (i + 1) = 0)
  rw [List.filter_eq_self.mpr hall] at hsub
  simpa [trailingZeros] using hsub.length_le

theorem isBitString_content (b : Der.BitString) : isBitString b.content = true := by
  have hunused : (UInt8.ofNat b.unused).toNat = b.unused := by
    have hlt := b.unused.isLt
    rw [UInt8.toNat_ofNat']
    omega
  have hle := le_trailingZeros (Nat.le_of_lt b.unused.isLt) b.zero
  unfold Der.BitString.content isBitString
  cases hoctets : b.octets with
  | nil =>
    rw [b.whole hoctets]
    rfl
  | cons c cs =>
    rw [hoctets] at hle
    simp only [hunused, decide_eq_true_eq]
    exact hle

theorem readBitString_writeBitString {b : Der.BitString} (hfits : Der.Fits (Der.writeBitString b))
    (rest : Bytes) : readBitString (Der.writeBitString b ++ rest) = some rest := by
  simp only [readBitString, Der.writeBitString, Der.readPrimitive_writePrimitive
    (show Der.bitString < 4294967296 by decide) hfits.content, isBitString_content, Bind.bind,
    Option.bind, if_true]

theorem readPublicKey_encode {k : KeyInfo} (hk : k.algorithm.IsReadable) (hfits : Der.Fits k.encode)
    (rest : Bytes) : readPublicKey (k.encode ++ rest) = some rest := by
  have hcontent : Der.Fits (k.algorithm.encode ++ Der.writeBitString k.key) := hfits.content
  obtain ⟨halgorithm, hkey⟩ := hcontent.append
  have hbits := readBitString_writeBitString hkey []
  rw [List.append_nil] at hbits
  simp only [readPublicKey, KeyInfo.encode, Der.readTagged_writeSequence hcontent,
    readAlgorithm_encode hk halgorithm, hbits, Bind.bind, Option.bind]

/-! ### The version and the unique identifiers -/

def encodeVersion (version : Nat) : Bytes :=
  if version = 0 then [] else Der.writeTagged 0 (Der.writeNatural version)

theorem readVersion_encodeVersion {version : Nat} (hversion : version ≤ 2) {serial : Bytes}
    (hserial : Der.Fits (Der.writePrimitive Der.integer serial)) (rest : Bytes) :
    readVersion (encodeVersion version ++ (Der.writePrimitive Der.integer serial ++ rest)) =
      some (Der.writePrimitive Der.integer serial ++ rest) := by
  by_cases hzero : version = 0
  · have hread := Der.readElement_writePrimitive (show Der.integer < 4294967296 by decide)
      hserial.content rest
    have htag : Der.integer ≠ 0 := by decide
    simp only [encodeVersion, hzero, if_true, List.nil_append, readVersion, hread, htag, Bind.bind,
      Option.bind, ne_eq, not_false_eq_true]
  · have hinner : Der.Fits (Der.writeNatural version) ∧
        ∃ v, Der.readPrimitive Der.integer (Der.writeNatural version) = some (v, []) ∧
          isVersion v = true := by
      obtain rfl | rfl : version = 1 ∨ version = 2 := by omega
      · exact ⟨by decide, [1], by decide, rfl⟩
      · exact ⟨by decide, [2], by decide, rfl⟩
    obtain ⟨hfits, v, hv, hsound⟩ := hinner
    have htagged := Der.isReadable_context true (show 0 < 4294967296 by decide) hfits
    have hread := Der.readElement_encode htagged (Der.writePrimitive Der.integer serial ++ rest)
    simp only [encodeVersion, hzero, if_false, Der.writeTagged, readVersion, hread, hv, hsound,
      Bind.bind, Option.bind, ne_eq, not_true_eq_false, if_true]

/-- Whether octets start with no element of a tag number. -/
def StartsApart (tag : Nat) (bs : Bytes) : Prop :=
  bs = [] ∨ ∃ e rest, Der.readElement bs = some (e, rest) ∧ e.number ≠ tag

theorem readUniqueId_encodeUniqueId {tag : Nat} (htag : tag < 4294967296)
    {id : Option Der.BitString} (hfits : Der.Fits (encodeUniqueId tag id)) {rest : Bytes} (hrest : StartsApart tag rest) :
    readUniqueId tag (encodeUniqueId tag id ++ rest) = some rest := by
  cases id with
  | none =>
    rcases hrest with rfl | ⟨e, after, hread, hnumber⟩
    · rfl
    · unfold readUniqueId
      simp only [encodeUniqueId, List.nil_append, hread, Bind.bind, Option.bind, hnumber, ne_eq,
        not_false_eq_true, if_true, ite_self]
  | some id =>
    have hread := Der.readElement_encode (Der.isReadable_context false htag hfits.content) rest
    have hne : (encodeUniqueId tag (some id) ++ rest).isEmpty = false := by
      simp [encodeUniqueId, Der.Element.encode_ne_nil]
    unfold readUniqueId
    rw [hne]
    have hcontent : id.content ≠ [] := List.cons_ne_nil _ _
    simp [encodeUniqueId, hread, hcontent]

/-! ### Extensions -/

theorem Extension.encode_ne_nil (x : Extension) : x.encode ≠ [] := Der.Element.encode_ne_nil _

theorem readExtension_encode {x : Extension} (hfits : Der.Fits x.encode) (rest : Bytes) :
    readExtension (x.encode ++ rest) = some rest := by
  have hcontent : Der.Fits (Der.writeObjectId x.type ++
      (if x.critical then Der.writePrimitive Der.boolean [0xFF] else []) ++
      Der.writeOctetString x.content) := hfits.content
  obtain ⟨hfront, hoctets⟩ := hcontent.append
  have htype := hfront.append.1.content
  have hoctets := hoctets.content
  have hnumber : Der.octetString < 4294967296 := by decide
  have hstring := Der.readPrimitive_writePrimitive hnumber hoctets []
  have helement := Der.readElement_writePrimitive hnumber hoctets []
  rw [List.append_nil] at hstring helement
  -- the mark is there or the octet string follows at once, and that is not taken for a mark
  have hmark : readCritical ((if x.critical then Der.writePrimitive Der.boolean [0xFF] else []) ++
      Der.writeOctetString x.content) = some (Der.writeOctetString x.content) := by
    cases x.critical with
    | false =>
      have htag : Der.octetString ≠ Der.boolean := by decide
      simp only [Bool.false_eq_true, if_false, List.nil_append, readCritical, Der.writeOctetString,
        helement, htag, Bind.bind, Option.bind, ne_eq, not_false_eq_true, if_true]
    | true =>
      have hread := Der.readElement_writePrimitive (show Der.boolean < 4294967296 by decide)
        (show Der.Fits ([0xFF] : Bytes) by decide) (Der.writeOctetString x.content)
      simp only [if_true, readCritical, hread, Bind.bind, Option.bind, ne_eq, not_true_eq_false,
        if_false, Bool.false_eq_true, List.length_singleton, or_self]
  rw [List.append_assoc] at hcontent
  simp only [readExtension, Extension.encode, List.append_assoc,
    Der.readTagged_writeSequence hcontent, Der.readAnyPrimitive_writeObjectId htype, hmark,
    Bind.bind, Option.bind]
  simp only [Der.writeOctetString, hstring]

theorem areExtensions_flatMap {xs : List Extension} {fuel : Nat} (hfuel : xs.length ≤ fuel)
    (hfits : Der.Fits (xs.flatMap Extension.encode)) :
    areExtensions fuel (xs.flatMap Extension.encode) = true := by
  induction xs generalizing fuel with
  | nil =>
    unfold areExtensions
    rfl
  | cons x xs ih =>
    obtain ⟨hx, hxs⟩ := hfits.append
    cases fuel with
    | zero => exact absurd hfuel (Nat.not_succ_le_zero _)
    | succ fuel =>
      have hread := readExtension_encode hx (xs.flatMap Extension.encode)
      have hne : x.encode ++ xs.flatMap Extension.encode ≠ [] := by
        simp [x.encode_ne_nil]
      rw [List.flatMap_cons]
      unfold areExtensions
      split
      · next hnil => exact absurd hnil hne
      · next hzero _ => cases hzero
      · next hsucc _ =>
        cases hsucc
        rw [hread]
        exact ih (Nat.le_of_succ_le_succ hfuel) hxs

theorem afterHeader_encode {e : Der.Element} (he : e.IsReadable) (rest : Bytes) :
    afterHeader (e.encode ++ rest) = some (e.number, e.content ++ rest) := by
  simp only [afterHeader, Der.Element.encode, List.append_assoc,
    Der.readIdentifier_writeIdentifier he.tagClass he.number, Der.readLength_writeLength he.content,
    Bind.bind, Option.bind]

theorem areFinalFields_encodeExtensions {xs : List Extension}
    (hfits : Der.Fits (encodeExtensions xs)) : areFinalFields (encodeExtensions xs) = true := by
  cases xs with
  | nil => rfl
  | cons x xs =>
    have hwrapped : Der.Fits (Der.writeSequence ((x :: xs).flatMap Extension.encode)) :=
      hfits.content
    have hcontent : Der.Fits ((x :: xs).flatMap Extension.encode) := hwrapped.content
    have hheader := afterHeader_encode
      (Der.isReadable_context true (show 3 < 4294967296 by decide) hwrapped) []
    have hsequence := Der.readTagged_writeSequence hcontent []
    have hall := areExtensions_flatMap
      (count_le_length_flatMap Extension.encode_ne_nil (x :: xs)) hcontent
    rw [List.append_nil, List.append_nil] at hheader
    rw [List.append_nil] at hsequence
    simp only [areFinalFields, encodeExtensions, Der.writeTagged, hheader, hsequence, hall,
      beq_self_eq_true, Bool.and_self, Bool.or_true]

/-! ### Signed fields -/

theorem startsApart_encodeExtensions {tag : Nat} (htag : tag ≠ 3) {xs : List Extension}
    (hfits : Der.Fits (encodeExtensions xs)) : StartsApart tag (encodeExtensions xs) := by
  cases xs with
  | nil => exact .inl rfl
  | cons x xs =>
    have hreadable := Der.isReadable_context true (show 3 < 4294967296 by decide) hfits.content
    have hread := Der.readElement_encode hreadable []
    rw [List.append_nil] at hread
    exact .inr ⟨_, _, hread, htag.symm⟩

theorem startsApart_encodeUniqueId {tag other : Nat} (hother : other < 4294967296)
    (hne : tag ≠ other) {id : Option Der.BitString} (hfits : Der.Fits (encodeUniqueId other id))
    {rest : Bytes} (hrest : StartsApart tag rest) :
    StartsApart tag (encodeUniqueId other id ++ rest) := by
  cases id with
  | none => exact hrest
  | some id =>
    have hreadable := Der.isReadable_context false hother hfits.content
    exact .inr ⟨_, _, Der.readElement_encode hreadable rest, hne.symm⟩

/-- Whether the fields of a certificate are those of the standard, and the subject can be read
back. -/
structure Fields.IsReadable (f : Fields) : Prop where
  version : f.version ≤ 2
  algorithm : f.algorithm.IsReadable
  notBefore : f.notBefore.IsWritable
  notAfter : f.notAfter.IsWritable
  subject : IsReadableName f.subject
  publicKey : f.publicKey.algorithm.IsReadable

theorem readSignedFields_encode {f : Fields} (hf : f.IsReadable) (hfits : Der.Fits f.encode)
    (rest : Bytes) : readSignedFields (f.encode ++ rest) = some (f.subject, rest) := by
  have hparts : f.encode = Der.writeSequence (encodeVersion f.version ++
      (Der.writePrimitive Der.integer f.serial ++ (f.algorithm.encode ++ (encodeName f.issuer ++
      (encodeValidity f.notBefore f.notAfter ++ (encodeName f.subject ++ (f.publicKey.encode ++
      (encodeUniqueId 1 f.issuerId ++ (encodeUniqueId 2 f.subjectId ++
      encodeExtensions f.extensions))))))))) := by
    simp only [Fields.encode, encodeVersion, List.append_assoc]
  rw [hparts] at hfits ⊢
  -- no part is longer than the whole
  have hcontent := hfits.content
  obtain ⟨-, hafterVersion⟩ := hcontent.append
  obtain ⟨hserial, hafterSerial⟩ := hafterVersion.append
  obtain ⟨halgorithm, hafterAlgorithm⟩ := hafterSerial.append
  obtain ⟨hissuer, hafterIssuer⟩ := hafterAlgorithm.append
  obtain ⟨hvalidity, hafterValidity⟩ := hafterIssuer.append
  obtain ⟨hsubject, hafterSubject⟩ := hafterValidity.append
  obtain ⟨hkey, hafterKey⟩ := hafterSubject.append
  obtain ⟨hissuerId, hafterIssuerId⟩ := hafterKey.append
  obtain ⟨hsubjectId, hextensions⟩ := hafterIssuerId.append
  -- a unique identifier that is not there is told from what stands in its place
  have hapart2 := startsApart_encodeExtensions (show 2 ≠ 3 by decide) hextensions
  have hapart1 := startsApart_encodeUniqueId (show 2 < 4294967296 by decide)
    (show 1 ≠ 2 by decide) hsubjectId
    (startsApart_encodeExtensions (show 1 ≠ 3 by decide) hextensions)
  obtain ⟨found, hfound⟩ := exists_readName f.issuer hissuer
    (encodeValidity f.notBefore f.notAfter ++ (encodeName f.subject ++ (f.publicKey.encode ++
      (encodeUniqueId 1 f.issuerId ++ (encodeUniqueId 2 f.subjectId ++
      encodeExtensions f.extensions)))))
  have htagged := Der.readTagged_encode (Der.isReadable_universal false
    (show Der.integer < 4294967296 by decide) hserial.content)
  simp only [readSignedFields, Der.readTagged_writeSequence hcontent,
    readVersion_encodeVersion hf.version hserial, Bind.bind, Option.bind]
  simp only [Der.writePrimitive, htagged, readAlgorithm_encode hf.algorithm halgorithm, hfound,
    readValidity_encodeValidity hf.notBefore hf.notAfter hvalidity,
    readName_encodeName hf.subject hsubject, readPublicKey_encode hf.publicKey hkey,
    readUniqueId_encodeUniqueId (show 1 < 4294967296 by decide) hissuerId hapart1,
    readUniqueId_encodeUniqueId (show 2 < 4294967296 by decide) hsubjectId hapart2,
    areFinalFields_encodeExtensions hextensions, if_true]

end Certificate

/-! ### Certificates -/

/-- Whether a certificate is one of the standard whose subject can be read back. -/
structure Certificate.IsReadable (c : Certificate) : Prop where
  fields : c.fields.IsReadable
  algorithm : c.algorithm.IsReadable
  fits : Der.Fits c.encode

/-- The subject of a certificate is read as it was written, whatever follows the certificate. -/
theorem Certificate.readSubject?_encode {c : Certificate} (hc : c.IsReadable) (rest : Bytes) :
    readSubject? (c.encode ++ rest) = some c.fields.subject := by
  have hfits := hc.fits
  have hparts : c.encode = Der.writeSequence (c.fields.encode ++ (c.algorithm.encode ++
      Der.writeBitString c.signature)) := by
    simp only [encode, List.append_assoc]
  rw [hparts] at hfits ⊢
  have hcontent := hfits.content
  obtain ⟨hfields, hafterFields⟩ := hcontent.append
  obtain ⟨halgorithm, hsignature⟩ := hafterFields.append
  have hbits := readBitString_writeBitString hsignature []
  rw [List.append_nil] at hbits
  simp only [readSubject?, Der.readTagged_writeSequence hcontent,
    readSignedFields_encode hc.fields hfields, readAlgorithm_encode hc.algorithm halgorithm, hbits,
    Bind.bind, Option.bind]

end DeviceGateway
