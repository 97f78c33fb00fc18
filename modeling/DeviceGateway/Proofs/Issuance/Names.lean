import Mathlib.Data.List.DropRight
import DeviceGateway.Proofs.Certificate.Claimed
import DeviceGateway.Proofs.Handshake.Provisioned

/-!
# Issued names are read as they were given

The names of a device, of a module and of a hub go into a certificate as they are given. Read
again, each is in its own field without the blanks around it, and a name of blanks only is absent.
-/

namespace DeviceGateway

open Certificate (nonBlank? nonBlank?_eq_some_iff_trim)

/-! ### Bare texts -/

namespace Text

/-- Whether a text is not empty, and neither starts nor ends with a blank. -/
def IsBare (s : String) : Prop :=
  ∃ h : s.toList ≠ [], isBlankChar (s.toList.head h) = false ∧
    isBlankChar (s.toList.getLast h) = false

theorem trimChars_eq_self_iff {cs : List Char} : trimChars cs = cs ↔
    trimStartChars cs = cs ∧ trimEndChars cs = cs := by
  constructor
  · intro h
    have hstart : trimStartChars cs <:+ cs := List.dropWhile_suffix _
    have hend : trimChars cs <+: trimStartChars cs := List.rdropWhile_prefix _ _
    rw [h] at hend
    have hwhole := hstart.eq_of_length_le hend.length_le
    rw [trimChars, hwhole] at h
    exact ⟨hwhole, h⟩
  · rintro ⟨hstart, hend⟩
    rw [trimChars, hstart, hend]

theorem trimStartChars_eq_self_iff {cs : List Char} (h : cs ≠ []) :
    trimStartChars cs = cs ↔ isBlankChar (cs.head h) = false := by
  have hpos := List.length_pos_iff.mpr h
  rw [trimStartChars, List.dropWhile_eq_self_iff, List.head_eq_getElem]
  simp only [hpos, forall_true_left, Bool.not_eq_true]

theorem trimEndChars_eq_self_iff {cs : List Char} (h : cs ≠ []) :
    trimEndChars cs = cs ↔ isBlankChar (cs.getLast h) = false := by
  have hdrop : trimEndChars cs = cs.rdropWhile isBlankChar := rfl
  rw [hdrop, List.rdropWhile_eq_self_iff]
  simp only [h, ne_eq, not_false_eq_true, forall_true_left, Bool.not_eq_true]

/-- The bare texts are those that trimming keeps, the empty one apart. -/
theorem isBare_iff_trim (s : String) : IsBare s ↔ trim s = s ∧ s ≠ "" := by
  have hempty : s ≠ "" ↔ s.toList ≠ [] := by
    rw [Ne, ← String.toList_inj]
    rfl
  have hchars : trim s = s ↔ trimChars s.toList = s.toList := by
    rw [← String.toList_inj, trim, String.toList_ofList]
  rw [hempty, hchars, trimChars_eq_self_iff, IsBare]
  constructor
  · rintro ⟨h, hfirst, hlast⟩
    exact ⟨⟨(trimStartChars_eq_self_iff h).mpr hfirst, (trimEndChars_eq_self_iff h).mpr hlast⟩, h⟩
  · rintro ⟨⟨hstart, hend⟩, h⟩
    exact ⟨h, (trimStartChars_eq_self_iff h).mp hstart, (trimEndChars_eq_self_iff h).mp hend⟩

/-- Trimming leaves a bare text, if it leaves any. -/
theorem isBare_trim {s : String} (h : trim s ≠ "") : IsBare (trim s) := by
  have hchars : (trim s).toList = trimChars s.toList := String.toList_ofList
  have hne : trimChars s.toList ≠ [] := by
    intro hnil
    exact h (String.toList_inj.mp (hchars.trans hnil))
  have hend : trimEndChars (trimChars s.toList) = trimChars s.toList :=
    List.rdropWhile_idempotent isBlankChar (trimStartChars s.toList)
  -- the first character is that of the text without the blanks at its start
  have hprefix : trimChars s.toList <+: trimStartChars s.toList := List.rdropWhile_prefix _ _
  have hstart : trimStartChars (trimChars s.toList) = trimChars s.toList := by
    rw [trimStartChars_eq_self_iff hne, hprefix.head hne]
    exact List.head_dropWhile_not isBlankChar _
  have htrim : trim (trim s) = trim s := by
    rw [← String.toList_inj, trim, String.toList_ofList, hchars]
    exact trimChars_eq_self_iff.mpr ⟨hstart, hend⟩
  exact (isBare_iff_trim _).mpr ⟨htrim, h⟩

end Text

/-! ### Names in their fields -/

/-- Whether a field holds what trimming leaves of a given name, and is absent if nothing is left or
no name is given. -/
def Keeps (given field : Option String) : Prop :=
  ∀ v, field = some v ↔ ∃ s, given = some s ∧ Text.trim s = v ∧ v ≠ ""

theorem keeps_bind_nonBlank? (given : Option String) : Keeps given (given.bind nonBlank?) := by
  intro v
  simp only [Option.bind_eq_some_iff, nonBlank?_eq_some_iff_trim]

theorem bind_nonBlank?_eq_self_iff (given : Option String) :
    given.bind nonBlank? = given ↔ ∀ s, given = some s → Text.IsBare s := by
  cases given with
  | none => simp
  | some s => simp [nonBlank?_eq_some_iff_trim, Text.isBare_iff_trim]

/-- The text of a certificate that is issued to a device holds one certificate. If that is short
enough for its length to be written, as is all that 64-bit addresses reach, each given name is in
its own field, trimmed, and the fields are the given names themselves exactly if these are bare. -/
theorem Issued.names_kept (now days : Nat) (deviceId : String) (moduleId hubName : Option String)
    (caCertificate caKey : String) (key : SigningKey) (issued : Issued)
    (hissued : fromAuthority (Template.device now deviceId moduleId hubName days) caCertificate
      caKey key = .ok issued) :
    ∃ leaf, Material.parseCertificates (Utf8.encodeText issued.certificate) = .ok [leaf] ∧
      (Der.Fits leaf → ∀ rest,
        let claimed := Certificate.identityOf (leaf ++ rest)
        Keeps (some deviceId) claimed.deviceId ∧ Keeps moduleId claimed.moduleId ∧
          Keeps hubName claimed.hubName ∧
          (claimed = ⟨hubName, some deviceId, moduleId⟩ ↔
            ∀ name ∈ [some deviceId, moduleId, hubName], ∀ s, name = some s → Text.IsBare s)) := by
  obtain ⟨leaf, hparse, -, hclaim⟩ := identityOf_device hissued
  refine ⟨leaf, hparse, ?_⟩
  intro hfits rest
  rw [hclaim hfits rest]
  refine ⟨keeps_bind_nonBlank? (some deviceId), keeps_bind_nonBlank? moduleId,
    keeps_bind_nonBlank? hubName, ?_⟩
  have hdevice := bind_nonBlank?_eq_self_iff (some deviceId)
  rw [Option.bind_some] at hdevice
  simp only [ClaimedIdentity.mk.injEq, hdevice, bind_nonBlank?_eq_self_iff, List.mem_cons,
    List.not_mem_nil, or_false, forall_eq_or_imp, forall_eq]
  exact ⟨fun ⟨h, d, m⟩ => ⟨d, m, h⟩, fun ⟨d, m, h⟩ => ⟨h, d, m⟩⟩

/-- A module's certificate for names in several scripts, one of them between blanks. -/
theorem Issued.names_kept_of_module :
    let r : RegisteredIdentity := ⟨"Gerät-1", some "\u3000模块\u00A0", []⟩
    ∃ leaf, Material.parseCertificates (Utf8.encodeText (Machine.sampleIssued r).certificate) =
        .ok [leaf] ∧
      Der.Fits leaf ∧ Keeps (some "Gerät-1") (Certificate.identityOf leaf).deviceId ∧
      Keeps (some "\u3000模块\u00A0") (Certificate.identityOf leaf).moduleId ∧
      Keeps (some "hub-a") (Certificate.identityOf leaf).hubName := by
  intro r
  obtain ⟨leaf, hparse, hkept⟩ := names_kept 0 30 r.deviceId r.moduleId (some "hub-a")
    Machine.sampleIssuerCertificate Machine.sampleIssuerKey Machine.sampleDeviceKey
    (Machine.sampleIssued r) (Machine.issued_sample r)
  have hfits : Der.Fits leaf := by
    rw [Machine.parse_sample hparse]
    decide +kernel
  have hwhole := hkept hfits []
  rw [List.append_nil] at hwhole
  exact ⟨leaf, hparse, hfits, hwhole.1, hwhole.2.1, hwhole.2.2.1⟩

end DeviceGateway
