import DeviceGateway.Authority.Exchange
import DeviceGateway.Proofs.Json.Written

/-!
# What an authority receives

The body that is posted reads back as the request, and the request holds the hub, the identity, the
client type and the leaf certificate of the credential, each of which can be told from it.
-/

namespace DeviceGateway

open Json (Field Value RecordShape)

namespace AuthenticationRequest

def entries (r : AuthenticationRequest) : List (Field × Value) := [
  (⟨"hubName", .text⟩, .str r.hubName), (⟨"deviceId", .text⟩, .str r.deviceId),
  (⟨"moduleId", .optionalText⟩, optionalValue r.moduleId),
  (⟨"clientType", .text⟩, .str r.clientType),
  (⟨"thumbprint", .text⟩, .str r.thumbprint), (⟨"certificate", .text⟩, .str r.certificate)]

theorem entries_fit (r : AuthenticationRequest) : ∀ e ∈ r.entries, e.1.type.Fits e.2 := by
  obtain ⟨hub, device, module?, client, print, certificate⟩ := r
  cases module? <;> simp [entries, optionalValue, Json.FieldType.Fits]

theorem ofValues?_entries (r : AuthenticationRequest) :
    ofValues? (r.entries.map (·.2)) = some r := by
  obtain ⟨hub, device, module?, client, print, certificate⟩ := r
  cases module? <;> rfl

theorem parse_text (r : AuthenticationRequest) : parse (Utf8.encodeText r.text) = .ok r := by
  have hfields : shape.fields = r.entries.map (·.1) := rfl
  have hnames : (shape.fields.map (·.name)).Nodup := by decide
  have hread := RecordShape.parse_written hfields hnames r.entries_fit
  have htext : (Value.obj (r.entries.map Json.memberOf)).compact = r.text := rfl
  rw [htext] at hread
  simp only [parse, hread, ofValues?_entries]

theorem text_injective {r s : AuthenticationRequest} (h : r.text = s.text) : r = s := by
  have hr := r.parse_text
  rw [h, s.parse_text] at hr
  exact (Except.ok.inj hr).symm

theorem decode?_certificate (c : Credential) :
    Base64.decode? (ofCredential c).certificate.toList = some c.certificate := by
  rw [ofCredential, Base64.encodeText, String.toList_ofList]
  exact Base64.decode?_encode c.certificate

theorem lookup_moduleId_eq_null_iff (r : AuthenticationRequest) :
    r.members.lookup "moduleId" = some .null ↔ r.moduleId = none := by
  have hlookup : r.members.lookup "moduleId" = some (optionalValue r.moduleId) := rfl
  rw [hlookup]
  cases r.moduleId with
  | none => exact ⟨fun _ => rfl, fun _ => rfl⟩
  | some m => exact ⟨fun h => (nomatch h), fun h => (nomatch h)⟩

theorem ofCredential_eq_iff (c d : Credential) :
    ofCredential c = ofCredential d ↔ c.hubName = d.hubName ∧ c.identity = d.identity ∧
      c.clientType = d.clientType ∧ c.certificate = d.certificate := by
  constructor
  · intro h
    have hdevice : c.identity.deviceId = d.identity.deviceId := congrArg deviceId h
    have hmodule : c.identity.moduleId = d.identity.moduleId := congrArg moduleId h
    have hidentity : c.identity = d.identity := by
      rw [← c.identity.ofIds_deviceId_moduleId, hdevice, hmodule,
        d.identity.ofIds_deviceId_moduleId]
    have hleaf : some c.certificate = some d.certificate := by
      rw [← decode?_certificate c, ← decode?_certificate d, h]
    exact ⟨congrArg hubName h, hidentity, congrArg clientType h, Option.some.inj hleaf⟩
  · rintro ⟨hhub, hidentity, htype, hleaf⟩
    simp only [ofCredential, Credential.thumbprint, hhub, hidentity, htype, hleaf]

/-- The text about a credential reads back as the request about it, which holds its hub, its ids
with no module exactly for a device, its client type, its leaf in Base64 and the thumbprint of the
leaf; and the texts about two credentials are equal only if these are. -/
theorem text_carries_credential (c : Credential) :
    parse (Utf8.encodeText (ofCredential c).text) = .ok (ofCredential c) ∧
      (ofCredential c).hubName = c.hubName ∧
      (ofCredential c).deviceId = c.identity.deviceId ∧
      (ofCredential c).moduleId = c.identity.moduleId ∧
      ((ofCredential c).members.lookup "moduleId" = some .null ↔
        c.identity = .device c.identity.deviceId) ∧
      (ofCredential c).clientType = c.clientType ∧
      Base64.decode? (ofCredential c).certificate.toList = some c.certificate ∧
      (ofCredential c).thumbprint = Bytes.toHexUpper (Sha256.digest c.certificate) ∧
      ∀ d : Credential, (ofCredential c).text = (ofCredential d).text ↔
        c.hubName = d.hubName ∧ c.identity = d.identity ∧ c.clientType = d.clientType ∧
          c.certificate = d.certificate := by
  have hnull : (ofCredential c).members.lookup "moduleId" = some .null ↔
      c.identity = .device c.identity.deviceId := by
    rw [lookup_moduleId_eq_null_iff, ofCredential]
    cases c.identity with
    | device d => exact ⟨fun _ => rfl, fun _ => rfl⟩
    | hosted d m => exact ⟨fun h => (nomatch h), fun h => (nomatch h)⟩
  have htext : ∀ d : Credential, (ofCredential c).text = (ofCredential d).text ↔
      c.hubName = d.hubName ∧ c.identity = d.identity ∧ c.clientType = d.clientType ∧
        c.certificate = d.certificate := by
    intro d
    rw [← ofCredential_eq_iff]
    exact ⟨text_injective, congrArg text⟩
  exact ⟨parse_text _, rfl, rfl, rfl, hnull, rfl, decode?_certificate c, rfl, htext⟩

end AuthenticationRequest
end DeviceGateway
