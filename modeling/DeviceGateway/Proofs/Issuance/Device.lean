import DeviceGateway.Issuance.Issued
import DeviceGateway.Proofs.Certificate.Written
import DeviceGateway.Proofs.Material.Armour
import DeviceGateway.Proofs.Time.Calendar

/-!
# What an issued device certificate claims

An authority that issues a certificate writes one that the reader takes, whichever keys it has, and
puts the names of a device into it as they are given. The reader drops blanks around a name, and a
name of nothing else.
-/

namespace DeviceGateway

open Certificate (Name KeyInfo IsReadableName nonBlank?)
open Calendar (Instant)

/-! ### Keys -/

theorem readElement_nullParameters : (Der.readElement nullParameters).isSome = true := by decide

theorem curveKeyAlgorithm_isReadable (name : NamedCurve) : (curveKeyAlgorithm name).IsReadable := by
  cases name <;> exact .inr (by decide)

theorem SigningKey.algorithm_isReadable (key : SigningKey) : key.algorithm.IsReadable := by
  cases key with
  | curve name secret => exact .inl rfl
  | edwards seed => exact .inl rfl
  | rsa key => exact .inr readElement_nullParameters

theorem SigningKey.publicKey_isReadable (key : SigningKey) :
    key.publicKey.algorithm.IsReadable := by
  cases key with
  | curve name secret => exact curveKeyAlgorithm_isReadable name
  | edwards seed => exact .inl rfl
  | rsa key => exact .inr readElement_nullParameters

/-! ### Days -/

theorem Template.lastDay_isWritable {now days : Nat} {date : Calendar.Date}
    (h : lastDay now days = .ok date) : (Instant.midnight date).IsWritable := by
  simp only [lastDay] at h
  split at h
  · cases h
  · next hlast =>
    cases h
    obtain ⟨hreal, -, -⟩ := Calendar.Date.ofDays_spec
      ((Instant.secondsAfter (.ofNat now) (.ofNat days)).toNatClampNeg / 86400)
    refine ⟨?_, Instant.ofSeconds_year_lt (Nat.le_of_not_lt hlast)⟩
    simp [Instant.isReal, Instant.midnight, Instant.ofSeconds, hreal]

theorem Template.firstDay_isWritable : (Instant.midnight firstDay).IsWritable :=
  ⟨by decide, by decide⟩

/-! ### Certificates -/

/-- A certificate of a template can be read, whoever signs it for whichever key. -/
theorem Template.certify_isReadable {t : Template} (hsubject : IsReadableName t.subject)
    (hlast : (Instant.midnight t.notAfter).IsWritable) (key issuerKey : SigningKey) (issuer : Name)
    (hfits : Der.Fits (t.certify key.publicKey issuer issuerKey).encode) :
    (t.certify key.publicKey issuer issuerKey).IsReadable where
  fields := {
    version := Nat.le_refl 2
    algorithm := issuerKey.algorithm_isReadable
    notBefore := firstDay_isWritable
    notAfter := hlast
    subject := hsubject
    publicKey := key.publicKey_isReadable }
  algorithm := issuerKey.algorithm_isReadable
  fits := hfits

theorem Issuer.firstCertificate?_text (der : Bytes) :
    firstCertificate? (Pem.Section.mk .certificate der).text = some der := by
  simp only [firstCertificate?, Pem.read_text]
  rfl

theorem Issuer.ofTexts_eq_ok {certificate keyText : String} {keyDer der : Bytes} {key : SigningKey}
    {subject name : Name} (hblock : Pem.readBlock keyText = .ok keyDer)
    (hkey : SigningKey.ofGeneral? .issuing keyDer = some key)
    (hfirst : firstCertificate? certificate = some der)
    (hsubject : Certificate.readSubject? der = some subject) (hname : nameOf subject = .ok name) :
    ofTexts certificate keyText = .ok ⟨name, key⟩ := by
  simp only [ofTexts, hblock, hkey, hfirst, hsubject, hname, mapError_ok, Except.map, Bind.bind,
    Except.bind, Option.bind]

theorem Issued.fromAuthority_eq_ok_iff {t : Except GatewayError Template}
    {caCertificate caKey : String} {key : SigningKey} {issued : Issued} :
    fromAuthority t caCertificate caKey key = .ok issued ↔
      ∃ template issuer, t = .ok template ∧ Issuer.ofTexts caCertificate caKey = .ok issuer ∧
        signedBy issuer template key = issued := by
  cases t with
  | error e => simp [fromAuthority, Bind.bind, Except.bind]
  | ok template =>
    cases hissuer : Issuer.ofTexts caCertificate caKey with
    | error e => simp [fromAuthority, hissuer, Bind.bind, Except.bind]
    | ok issuer => simp [fromAuthority, hissuer, Bind.bind, Except.bind]

/-! ### Names of devices -/

theorem Template.deviceName_isReadable (deviceId : String) (moduleId hubName : Option String) :
    IsReadableName (deviceName deviceId moduleId hubName) := by
  have htext : ∀ type text, (Certificate.Attribute.ofText type text).IsReadable :=
    fun _ _ => ⟨show 0 < 4 by decide, show Der.utf8String < 4294967296 by decide⟩
  intro s hs
  simp only [deviceName, List.append_assoc, List.mem_append, List.mem_singleton, List.mem_map] at hs
  rcases hs with rfl | ⟨m, -, rfl⟩ | ⟨h, -, rfl⟩
  · simp [htext]
  · simp [htext]
  · simp [htext]

/-- What a subject of a device claims: its names without the blanks around them, in their places. -/
theorem claimedIdentity_deviceName (deviceId : String) (moduleId hubName : Option String) :
    Certificate.claimedIdentity (Template.deviceName deviceId moduleId hubName) =
      ⟨hubName.bind nonBlank?, nonBlank? deviceId, moduleId.bind nonBlank?⟩ := by
  have htext : ∀ type text, (Certificate.Attribute.ofText type text).text? = some text :=
    fun _ text => Utf8.decodeText?_encodeText text
  have htype : ∀ type text, (Certificate.Attribute.ofText type text).type = type := fun _ _ => rfl
  cases moduleId <;> cases hubName <;>
    simp [Certificate.claimedIdentity, Certificate.firstText, Template.deviceName, htype, htext,
      Certificate.commonName, Certificate.organizationalUnit, Certificate.organization]

theorem Template.device_eq_ok {now days : Nat} {deviceId : String}
    {moduleId hubName : Option String} {t : Template}
    (h : device now deviceId moduleId hubName days = .ok t) :
    t.subject = deviceName deviceId moduleId hubName ∧
      (Instant.midnight t.notAfter).IsWritable := by
  simp only [device, Bind.bind, Except.bind] at h
  split at h
  · cases h
  · next date hdate =>
    cases h
    exact ⟨rfl, lastDay_isWritable hdate⟩

/-- The text of a certificate that is issued to a device holds one certificate. It claims the names
that were asked for, without the blanks around them, if it has a length that can be written. -/
theorem Issued.identityOf_device {now days : Nat} {deviceId : String}
    {moduleId hubName : Option String} {caCertificate caKey : String} {key : SigningKey}
    {issued : Issued} (h : fromAuthority (Template.device now deviceId moduleId hubName days)
      caCertificate caKey key = .ok issued) :
    ∃ leaf, Material.parseCertificates (Utf8.encodeText issued.certificate) = .ok [leaf] ∧
      leaf ≠ [] ∧ (Der.Fits leaf → ∀ rest, Certificate.identityOf (leaf ++ rest) =
        ⟨hubName.bind nonBlank?, nonBlank? deviceId, moduleId.bind nonBlank?⟩) := by
  obtain ⟨t, issuer, htemplate, -, rfl⟩ := fromAuthority_eq_ok_iff.mp h
  obtain ⟨hsubject, hlast⟩ := Template.device_eq_ok htemplate
  refine ⟨_, Material.parseCertificates_text _, Der.Element.encode_ne_nil _, ?_⟩
  intro hfits rest
  have hname := Template.deviceName_isReadable deviceId moduleId hubName
  rw [← hsubject] at hname
  have hreadable := Template.certify_isReadable hname hlast key issuer.key issuer.name hfits
  have hread := Certificate.readSubject?_encode hreadable rest
  simp only [Certificate.identityOf, hread]
  rw [← claimedIdentity_deviceName, ← hsubject]
  rfl

end DeviceGateway
