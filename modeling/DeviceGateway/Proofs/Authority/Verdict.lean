import DeviceGateway.Authority.Scripted
import DeviceGateway.Proofs.Authority.Allowlist
import Mathlib

/-!
# The verdict of a registry by its entries

What a registry answers depends on the entries with the credential's id as a set: whether there is
one, whether any of them names a thumbprint, and whether one of those is the credential's. Neither
the order of entries and thumbprints nor how often they are given counts.
-/

namespace DeviceGateway

/-! ### Letter case of thumbprints -/

namespace Text

/-- Two texts are the same in upper case exactly if they differ at most in the case of letters. -/
theorem upperAscii_eq_iff (a b : String) :
    upperAscii a = upperAscii b ↔ sameIgnoringCase a b = true := by
  have hlower : ∀ cs : List Char, (cs.map Char.toUpper).map Char.toLower = cs.map Char.toLower := by
    intro cs
    simp [List.map_map, Function.comp_def]
  have hupper : ∀ cs : List Char, (cs.map Char.toLower).map Char.toUpper = cs.map Char.toUpper := by
    intro cs
    simp [List.map_map, Function.comp_def]
  rw [upperAscii, upperAscii, String.ofList_inj, sameIgnoringCase, beq_iff_eq]
  constructor
  · intro h
    have hmapped := congrArg (List.map Char.toLower) h
    rwa [hlower, hlower] at hmapped
  · intro h
    have hmapped := congrArg (List.map Char.toUpper) h
    rwa [hupper, hupper] at hmapped

end Text

theorem Bytes.toUpper_hexDigitUpper :
    ∀ n, n < 16 → (hexDigitUpper n).toUpper = hexDigitUpper n := by
  decide

theorem Bytes.upperAscii_toHexUpper (bs : Bytes) :
    Text.upperAscii (toHexUpper bs) = toHexUpper bs := by
  have hdigits : (hexChars hexDigitUpper bs).map Char.toUpper = hexChars hexDigitUpper bs := by
    induction bs with
    | nil => rfl
    | cons b rest ih =>
      have hb := b.toNat_lt
      have hhigh := toUpper_hexDigitUpper (b.toNat / 16) (by omega)
      have hlow := toUpper_hexDigitUpper (b.toNat % 16) (by omega)
      simp only [hexChars, List.map_cons, hhigh, hlow, ih]
  rw [Text.upperAscii, toHexUpper, String.toList_ofList, hdigits]

/-- A thumbprint is in upper case, so an entry's is compared with it without regard to case. -/
theorem upperAscii_eq_thumbprint_iff (print : String) (certificate : Bytes) :
    Text.upperAscii print = thumbprint certificate ↔
      Text.sameIgnoringCase print (thumbprint certificate) = true := by
  have hupper : Text.upperAscii (thumbprint certificate) = thumbprint certificate :=
    Bytes.upperAscii_toHexUpper _
  rw [← Text.upperAscii_eq_iff, hupper]

namespace Registry

/-! ### The entries of an id -/

theorem collected_eq_nil_iff (key : String) (entries : List RegisteredIdentity) :
    collected key entries = [] ↔ ∀ e ∈ entries, e.key = key → e.thumbprints = [] := by
  simp only [collected, List.flatMap_eq_nil_iff, List.mem_filter, beq_iff_eq, List.map_eq_nil_iff,
    and_imp]

theorem mem_collected_iff (key print : String) (entries : List RegisteredIdentity) :
    print ∈ collected key entries ↔
      ∃ e ∈ entries, e.key = key ∧ ∃ p ∈ e.thumbprints, Text.upperAscii p = print := by
  simp only [collected, List.mem_flatMap, List.mem_filter, beq_iff_eq, List.mem_map, and_assoc]

/-- A registry accepts a credential if its id is registered, and either no entry of that id has a
thumbprint or one of them has the credential's. -/
theorem accepts_iff_entries (entries : List RegisteredIdentity) (c : Credential) :
    (ofEntries entries).accepts c = true ↔
      (∃ e ∈ entries, e.key = c.identity.id) ∧
        ((∀ e ∈ entries, e.key = c.identity.id → e.thumbprints = []) ∨
          ∃ e ∈ entries, e.key = c.identity.id ∧ ∃ p ∈ e.thumbprints,
            Text.sameIgnoringCase p (thumbprint c.certificate) = true) := by
  rw [accepts_iff_collected, collected_eq_nil_iff, mem_collected_iff]
  simp only [Credential.thumbprint, upperAscii_eq_thumbprint_iff]

/-! ### The number of ids -/

def keysOf (slots : List (String × List String)) : List String := slots.map (·.1)

theorem mem_keysOf_extend (key k : String) (prints : List String)
    (slots : List (String × List String)) :
    k ∈ keysOf (extend key prints slots) ↔ k = key ∨ k ∈ keysOf slots := by
  induction slots with
  | nil => simp [extend, keysOf]
  | cons slot rest ih =>
    obtain ⟨k', ps⟩ := slot
    simp only [keysOf] at ih
    by_cases hk : k' = key
    · simp [extend, keysOf, hk]
    · simp only [extend, keysOf, if_neg hk, List.map_cons, List.mem_cons, ih]
      exact or_left_comm

theorem keysOf_extend_nodup (key : String) (prints : List String)
    (slots : List (String × List String)) (h : (keysOf slots).Nodup) :
    (keysOf (extend key prints slots)).Nodup := by
  induction slots with
  | nil => simp [extend, keysOf]
  | cons slot rest ih =>
    obtain ⟨k', ps⟩ := slot
    obtain ⟨hfresh, hrest⟩ := List.nodup_cons.mp h
    by_cases hk : k' = key
    · simpa [extend, keysOf, hk] using h
    · have hstill : k' ∉ keysOf (extend key prints rest) := by
        rw [mem_keysOf_extend]
        exact not_or.mpr ⟨hk, hfresh⟩
      simpa [extend, keysOf, hk] using And.intro hstill (ih hrest)

theorem keysOf_collect (entries : List RegisteredIdentity) (slots : List (String × List String))
    (h : (keysOf slots).Nodup) :
    let collected := entries.foldl
      (fun slots e => extend e.key (e.thumbprints.map Text.upperAscii) slots) slots
    (keysOf collected).Nodup ∧
      ∀ k, k ∈ keysOf collected ↔ k ∈ entries.map RegisteredIdentity.key ∨ k ∈ keysOf slots := by
  induction entries generalizing slots with
  | nil => simpa using h
  | cons e entries ih =>
    obtain ⟨hnodup, hmem⟩ := ih _ (keysOf_extend_nodup e.key (e.thumbprints.map Text.upperAscii)
      slots h)
    refine ⟨hnodup, ?_⟩
    intro k
    rw [List.foldl_cons, hmem, mem_keysOf_extend, List.map_cons, List.mem_cons]
    exact or_left_comm.trans or_assoc.symm

/-- A registry counts each id once. -/
theorem size_ofEntries (entries : List RegisteredIdentity) :
    (ofEntries entries).size = (entries.map RegisteredIdentity.key).dedup.length := by
  obtain ⟨hnodup, hmem⟩ : (keysOf (ofEntries entries).slots).Nodup ∧
      ∀ k, k ∈ keysOf (ofEntries entries).slots ↔
        k ∈ entries.map RegisteredIdentity.key ∨ k ∈ keysOf [] :=
    keysOf_collect entries [] List.nodup_nil
  have hsame : (keysOf (ofEntries entries).slots).Perm
      (entries.map RegisteredIdentity.key).dedup := by
    rw [List.perm_ext_iff_of_nodup hnodup (List.nodup_dedup _)]
    intro k
    rw [List.mem_dedup, hmem]
    exact or_iff_left List.not_mem_nil
  have hlength := hsame.length_eq
  rwa [keysOf, List.length_map] at hlength

end Registry

/-! ### The order of entries -/

/-- Whether two entries stand for one identity with the same thumbprints, in any order and however
often each is given. -/
structure RegisteredIdentity.AgreesWith (e f : RegisteredIdentity) : Prop where
  deviceId : e.deviceId = f.deviceId
  moduleId : e.moduleId = f.moduleId
  thumbprints : ∀ p, p ∈ e.thumbprints ↔ p ∈ f.thumbprints

namespace RegisteredIdentity.AgreesWith

variable {e f : RegisteredIdentity}

theorem symm (h : e.AgreesWith f) : f.AgreesWith e :=
  ⟨h.deviceId.symm, h.moduleId.symm, fun p => (h.thumbprints p).symm⟩

theorem key_eq (h : e.AgreesWith f) : e.key = f.key := by
  rw [key, key, h.deviceId, h.moduleId]

theorem thumbprints_eq_nil (h : e.AgreesWith f) (he : e.thumbprints = []) : f.thumbprints = [] := by
  rw [List.eq_nil_iff_forall_not_mem] at he ⊢
  intro p hp
  exact he p ((h.thumbprints p).mpr hp)

end RegisteredIdentity.AgreesWith

namespace Registry

/-- Whether each entry of a list has one in another list that agrees with it. -/
def Covers (covering covered : List RegisteredIdentity) : Prop :=
  ∀ e ∈ covered, ∃ f ∈ covering, e.AgreesWith f

/-- Lists of the same entries, in any order and however often each is given, cover each other. -/
theorem covers_of_subset {entries others : List RegisteredIdentity} (h : entries ⊆ others) :
    Covers others entries :=
  fun e he => ⟨e, h he, rfl, rfl, fun _ => Iff.rfl⟩

theorem accepts_of_covers {entries others : List RegisteredIdentity} (h : Covers others entries)
    (hback : Covers entries others) {c : Credential} (hc : (ofEntries entries).accepts c = true) :
    (ofEntries others).accepts c = true := by
  rw [accepts_iff_entries] at hc ⊢
  obtain ⟨⟨e, he, hkey⟩, hprints⟩ := hc
  obtain ⟨f, hf, hagree⟩ := h e he
  refine ⟨⟨f, hf, hagree.key_eq.symm.trans hkey⟩, ?_⟩
  rcases hprints with hnone | ⟨e', he', hkey', p, hp, hsame⟩
  · left
    intro g hg hgkey
    obtain ⟨e', he', hagree'⟩ := hback g hg
    have hkey' : e'.key = c.identity.id := hagree'.key_eq.symm.trans hgkey
    exact hagree'.symm.thumbprints_eq_nil (hnone e' he' hkey')
  · right
    obtain ⟨g, hg, hagree'⟩ := h e' he'
    exact ⟨g, hg, hagree'.key_eq.symm.trans hkey', p, (hagree'.thumbprints p).mp hp, hsame⟩

theorem keys_subset_of_covers {entries others : List RegisteredIdentity}
    (h : Covers others entries) :
    entries.map RegisteredIdentity.key ⊆ others.map RegisteredIdentity.key := by
  intro k hk
  obtain ⟨e, he, rfl⟩ := List.mem_map.mp hk
  obtain ⟨f, hf, hagree⟩ := h e he
  exact List.mem_map.mpr ⟨f, hf, hagree.key_eq.symm⟩

theorem size_eq_of_covers {entries others : List RegisteredIdentity} (h : Covers others entries)
    (hback : Covers entries others) : (ofEntries entries).size = (ofEntries others).size := by
  rw [size_ofEntries, size_ofEntries]
  apply List.Perm.length_eq
  rw [List.perm_ext_iff_of_nodup (List.nodup_dedup _) (List.nodup_dedup _)]
  intro k
  rw [List.mem_dedup, List.mem_dedup]
  exact ⟨fun hk => keys_subset_of_covers h hk, fun hk => keys_subset_of_covers hback hk⟩

/-- A registry always answers with a verdict. It accepts a credential exactly if an entry has the
credential's id, and either no entry of that id lists a thumbprint or one of them lists, in any
letter case, the digest of the leaf in hexadecimal digits. It counts each id once. Another list of
the same entries, in whatever order and however often entries and thumbprints are repeated, makes a
registry that answers and counts alike. -/
theorem verdict_by_entries (entries : List RegisteredIdentity) (c : Credential) :
    (∃ verdict, AuthorityScript.answerOf (.registry (ofEntries entries)) c = .verdict verdict ∧
      (verdict = true ↔
        (∃ e ∈ entries, e.key = c.identity.id) ∧
          ((∀ e ∈ entries, e.key = c.identity.id → e.thumbprints = []) ∨
            ∃ e ∈ entries, e.key = c.identity.id ∧ ∃ p ∈ e.thumbprints,
              Text.sameIgnoringCase p (Bytes.toHexUpper (Sha256.digest c.certificate)) = true))) ∧
    (ofEntries entries).size = (entries.map RegisteredIdentity.key).dedup.length ∧
    ∀ others, Covers others entries → Covers entries others →
      AuthorityScript.answerOf (.registry (ofEntries others)) c =
          AuthorityScript.answerOf (.registry (ofEntries entries)) c ∧
        (ofEntries others).size = (ofEntries entries).size := by
  refine ⟨⟨_, rfl, accepts_iff_entries entries c⟩, size_ofEntries entries, ?_⟩
  intro others h hback
  refine ⟨?_, size_eq_of_covers hback h⟩
  have haccepts : (ofEntries others).accepts c = (ofEntries entries).accepts c := by
    rw [Bool.eq_iff_iff]
    exact ⟨fun hc => accepts_of_covers hback h hc, fun hc => accepts_of_covers h hback hc⟩
  simp only [AuthorityScript.answerOf, haccepts]

end Registry
end DeviceGateway
