import DeviceGateway.Der.Element

/-!
# Written elements are read back

The reader takes an element that was written off the front of any octets, and leaves what follows
it. An element can be written if its tag number fits in 32 bits and its length in 64.
-/

namespace DeviceGateway.Der

/-- Whether octets can stand in an element, where at most eight octets say how many they are. -/
def Fits (bs : Bytes) : Prop := bs.length < 18446744073709551616

instance (bs : Bytes) : Decidable (Fits bs) :=
  inferInstanceAs (Decidable (bs.length < 18446744073709551616))

/-! ### Numbers -/

theorem toNat_ofNat_of_lt {n : Nat} (h : n < 256) : (UInt8.ofNat n).toNat = n :=
  UInt8.toNat_ofNat_of_lt' h

theorem ofBigEndian_append_singleton (bs : Bytes) (b : UInt8) :
    ofBigEndian (bs ++ [b]) = ofBigEndian bs * 256 + b.toNat := by
  simp [ofBigEndian, List.foldl_append]

theorem ofBigEndian_bigEndianDigits {fuel n : Nat} (hfuel : n ≤ fuel) :
    ofBigEndian (bigEndianDigits fuel n) = n := by
  induction fuel generalizing n with
  | zero =>
    obtain rfl : n = 0 := by omega
    rfl
  | succ fuel ih =>
    unfold bigEndianDigits
    split
    · next h =>
      subst h
      rfl
    · rw [ofBigEndian_append_singleton, ih (by omega), UInt8.toNat_ofNat']
      omega

theorem length_bigEndianDigits_le {fuel n k : Nat} (hn : n < Nat.pow 256 k) :
    (bigEndianDigits fuel n).length ≤ k := by
  induction fuel generalizing n k with
  | zero => exact Nat.zero_le k
  | succ fuel ih =>
    unfold bigEndianDigits
    split
    · exact Nat.zero_le k
    · next hpos =>
      cases k with
      | zero =>
        change n < 1 at hn
        omega
      | succ k =>
        change n < Nat.pow 256 k * 256 at hn
        have hlength := ih (Nat.div_lt_of_lt_mul (Nat.mul_comm _ 256 ▸ hn))
        simp only [List.length_append, List.length_singleton]
        omega

theorem bigEndianDigits_ne_nil {fuel n : Nat} (hfuel : n ≤ fuel) (hn : n ≠ 0) :
    bigEndianDigits fuel n ≠ [] := by
  intro h
  have hread := ofBigEndian_bigEndianDigits hfuel
  rw [h] at hread
  exact hn hread.symm

/-! ### Lengths -/

theorem readLength_writeLength {n : Nat} (hn : n < 18446744073709551616) (rest : Bytes) :
    readLength (writeLength n ++ rest) = some (n, rest) := by
  unfold writeLength
  split
  · next hshort =>
    have hoctet := toNat_ofNat_of_lt (show n < 256 by omega)
    simp only [List.cons_append, List.nil_append, readLength, hoctet, hshort, if_true]
  · next hlong =>
    have hcount : (toBigEndian n).length ≤ 8 := length_bigEndianDigits_le hn
    have hsome : (toBigEndian n).length ≠ 0 := by
      rw [Ne, List.length_eq_zero_iff]
      exact bigEndianDigits_ne_nil (Nat.le_refl n) (by omega)
    have hvalue : ofBigEndian (toBigEndian n) = n := ofBigEndian_bigEndianDigits (Nat.le_refl n)
    have hfirst := toNat_ofNat_of_lt (show 128 + (toBigEndian n).length < 256 by omega)
    have hbounds : ¬ ((toBigEndian n).length = 0 ∨ (toBigEndian n).length > 8 ∨
        (toBigEndian n ++ rest).length < (toBigEndian n).length) := by
      rw [List.length_append]
      omega
    simp only [List.cons_append, readLength, hfirst, Nat.not_lt.mpr (Nat.le_add_right 128 _),
      if_false, Nat.add_sub_cancel_left, hbounds, List.take_left, List.drop_left, hvalue]

/-! ### Identifiers -/

/-- The digits of a number that all announce another are read without coming to an end. -/
theorem readTagNumber_base128Digits {fuel n k : Nat} (hfuel : n < fuel) (hlimit : n < 4294967296)
    (hk : n < Nat.pow 128 (k + 1)) :
    ∃ used, used ≤ k + 1 ∧ ∀ left rest,
      readTagNumber (left + used) 0 (base128Digits fuel true n ++ rest) =
        readTagNumber left n rest := by
  induction fuel generalizing n k with
  | zero => omega
  | succ fuel ih =>
    have hdigit : (UInt8.ofNat (n % 128 + 128)).toNat = n % 128 + 128 :=
      toNat_ofNat_of_lt (by omega)
    by_cases hlast : n < 128
    · refine ⟨1, Nat.le_add_left 1 k, ?_⟩
      intro left rest
      simp only [base128Digits, hlast, if_true, List.nil_append, List.cons_append, readTagNumber,
        hdigit]
      rw [if_neg (by omega)]
      congr 1
      omega
    · cases k with
      | zero =>
        change n < 128 at hk
        omega
      | succ k =>
        change n < Nat.pow 128 (k + 1) * 128 at hk
        have hquotient := Nat.div_lt_of_lt_mul (Nat.mul_comm _ 128 ▸ hk)
        obtain ⟨used, hused, hread⟩ := ih (show n / 128 < fuel by omega) (by omega) hquotient
        refine ⟨used + 1, by omega, ?_⟩
        intro left rest
        simp only [base128Digits, hlast, if_false, if_true, List.append_assoc, List.cons_append,
          List.nil_append]
        rw [show left + (used + 1) = left + 1 + used by omega, hread, readTagNumber, hdigit,
          if_neg (by omega)]
        congr 1
        omega

theorem readTagNumber_toBase128 {n : Nat} (hn : n < 4294967296) (rest : Bytes) :
    readTagNumber 5 0 (toBase128 n ++ rest) = some (n, rest) := by
  have hdigit : (UInt8.ofNat (n % 128 + 0)).toNat = n % 128 := toNat_ofNat_of_lt (by omega)
  unfold toBase128
  by_cases hlast : n < 128
  · simp only [base128Digits, hlast, if_true, List.nil_append, List.cons_append, Bool.false_eq_true,
      if_false, readTagNumber, hdigit]
    rw [if_pos (by omega)]
    congr 2
    omega
  · obtain ⟨used, hused, hread⟩ := readTagNumber_base128Digits (k := 3)
      (show n / 128 < n by omega) (by omega) (show n / 128 < 268435456 by omega)
    simp only [base128Digits, hlast, if_false, List.append_assoc, List.cons_append,
      List.nil_append, Bool.false_eq_true]
    rw [show 5 = 4 - used + 1 + used by omega, hread, readTagNumber, hdigit, if_pos (by omega)]
    congr 2
    omega

/-- The parts of a first octet: a class, a mark and a short number. -/
theorem firstOctet_parts {tagClass short : Nat} (hclass : tagClass < 4) (hshort : short < 32)
    (constructed : Bool) :
    let b := UInt8.ofNat (tagClass * 64 + (if constructed then 32 else 0) + short)
    b.toNat / 64 = tagClass ∧ (b.toNat / 32 % 2 == 1) = constructed ∧ b.toNat % 32 = short := by
  intro b
  have hb : b.toNat = tagClass * 64 + (if constructed then 32 else 0) + short := by
    apply toNat_ofNat_of_lt
    split <;> omega
  rw [hb]
  cases constructed with
  | false =>
    simp only [Bool.false_eq_true, if_false, beq_eq_false_iff_ne]
    omega
  | true =>
    simp only [if_true, beq_iff_eq]
    omega

theorem readIdentifier_writeIdentifier {tagClass number : Nat} (hclass : tagClass < 4)
    (hnumber : number < 4294967296) (constructed : Bool) (rest : Bytes) :
    readIdentifier (writeIdentifier tagClass constructed number ++ rest) =
      some ((tagClass, constructed, number), rest) := by
  by_cases hshort : number < 31
  · obtain ⟨hpartClass, hmark, hpart⟩ :=
      firstOctet_parts hclass (show number < 32 by omega) constructed
    simp only [writeIdentifier, hshort, if_true, List.cons_append, List.nil_append, readIdentifier,
      hpartClass, hmark, hpart]
    rw [if_neg (by omega)]
  · obtain ⟨hpartClass, hmark, hpart⟩ := firstOctet_parts hclass (show 31 < 32 by omega) constructed
    simp only [writeIdentifier, hshort, if_false, List.cons_append, readIdentifier, hpartClass,
      hmark, hpart, if_true, readTagNumber_toBase128 hnumber, Option.map_some]

/-! ### Elements -/

/-- Whether the reader can take an element: its tag number fits in 32 bits and its length in 64. -/
structure Element.IsReadable (e : Element) : Prop where
  tagClass : e.tagClass < 4
  number : e.number < 4294967296
  content : Fits e.content

theorem Element.length_encode_ge (e : Element) : e.content.length + 2 ≤ e.encode.length := by
  have hidentifier : 1 ≤ (writeIdentifier e.tagClass e.constructed e.number).length := by
    simp only [writeIdentifier, List.length_pos_iff, Nat.succ_le_iff]
    by_cases hshort : e.number < 31 <;> simp [hshort]
  have hlength : 1 ≤ (writeLength e.content.length).length := by
    unfold writeLength
    split <;> simp
  simp only [encode, List.length_append]
  omega

theorem Fits.content {e : Element} (h : Fits e.encode) : Fits e.content := by
  have hlength := e.length_encode_ge
  unfold Fits at h ⊢
  omega

theorem Fits.append {as bs : Bytes} (h : Fits (as ++ bs)) : Fits as ∧ Fits bs := by
  unfold Fits at h ⊢
  rw [List.length_append] at h
  omega

theorem Element.encode_ne_nil (e : Element) : e.encode ≠ [] := by
  have hlength := e.length_encode_ge
  intro h
  rw [h, List.length_nil] at hlength
  omega

theorem readElement_encode {e : Element} (he : e.IsReadable) (rest : Bytes) :
    readElement (e.encode ++ rest) = some (e, rest) := by
  unfold Element.encode
  simp only [readElement, List.append_assoc, readIdentifier_writeIdentifier he.tagClass he.number,
    readLength_writeLength he.content, Bind.bind, Option.bind]
  rw [if_neg (by rw [List.length_append]; omega)]
  simp only [List.take_left, List.drop_left]

theorem readTagged_encode {e : Element} (he : e.IsReadable) (rest : Bytes) :
    readTagged e.number (e.encode ++ rest) = some (e, rest) := by
  simp only [readTagged, readElement_encode he, Bind.bind, Option.bind, if_true]

/-! ### Elements of universal types and of the context -/

section Types

variable {number : Nat} {content : Bytes}

theorem isReadable_universal (constructed : Bool) (hnumber : number < 4294967296)
    (hfits : Fits content) : (Element.mk 0 constructed number content).IsReadable :=
  ⟨show 0 < 4 by omega, hnumber, hfits⟩

theorem isReadable_context (constructed : Bool) (hnumber : number < 4294967296)
    (hfits : Fits content) : (Element.mk 2 constructed number content).IsReadable :=
  ⟨show 2 < 4 by omega, hnumber, hfits⟩

theorem readTagged_writeSequence (hfits : Fits content) (rest : Bytes) :
    readTagged sequence (writeSequence content ++ rest) =
      some (⟨0, true, sequence, content⟩, rest) :=
  readTagged_encode (isReadable_universal true (by decide) hfits) rest

theorem readTagged_writeSet (hfits : Fits content) (rest : Bytes) :
    readTagged set (writeSet content ++ rest) = some (⟨0, true, set, content⟩, rest) :=
  readTagged_encode (isReadable_universal true (by decide) hfits) rest

theorem readElement_writePrimitive (hnumber : number < 4294967296) (hfits : Fits content)
    (rest : Bytes) :
    readElement (writePrimitive number content ++ rest) =
      some (⟨0, false, number, content⟩, rest) :=
  readElement_encode (isReadable_universal false hnumber hfits) rest

theorem readPrimitive_writePrimitive (hnumber : number < 4294967296) (hfits : Fits content)
    (rest : Bytes) :
    readPrimitive number (writePrimitive number content ++ rest) = some (content, rest) := by
  simp only [readPrimitive, readTagged, readElement_writePrimitive hnumber hfits, Bind.bind,
    Option.bind, if_true, Bool.false_eq_true, if_false]

theorem readAnyPrimitive_writeObjectId (hfits : Fits content) (rest : Bytes) :
    readAnyPrimitive (writeObjectId content ++ rest) = some (content, rest) := by
  have hnumber : objectId < 4294967296 := by decide
  simp only [readAnyPrimitive, writeObjectId, readElement_writePrimitive hnumber hfits, Bind.bind,
    Option.bind, Bool.false_eq_true, if_false]

end Types

end DeviceGateway.Der
