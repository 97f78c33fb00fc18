import DeviceGateway.Certificate.Basic
import DeviceGateway.Proofs.Handshake.Provenance

/-!
# Named modules

A subject names a module by its first organizational unit and a hub by its first organization. The
standard lets such a name be written in one of five string types, of which two are read. A name in
one of these is never passed over; one in another is taken for no name at all.
-/

namespace DeviceGateway

namespace Certificate

/-! ### Directory strings -/

def codePoint? (n : Nat) : Option Char := if n.isValidChar then some (Char.ofNat n) else none

def bmpChars? : Bytes → Option (List Char)
  | [] => some []
  | a :: b :: rest => do
    let c ← codePoint? (Der.ofBigEndian [a, b])
    (bmpChars? rest).map (c :: ·)
  | _ => none

def universalChars? : Bytes → Option (List Char)
  | [] => some []
  | a :: b :: c :: d :: rest => do
    let x ← codePoint? (Der.ofBigEndian [a, b, c, d])
    (universalChars? rest).map (x :: ·)
  | _ => none

def teletexChars (bs : Bytes) : List Char := bs.map fun b => Char.ofNat b.toNat

/-- The text of a directory string: one of the string types UTF8String, PrintableString,
TeletexString, UniversalString and BMPString. -/
def directoryText? (e : Der.Element) : Option String :=
  if e.tagClass = 0 ∧ e.constructed = false then
    match e.number with
    | 12 => Utf8.decodeText? e.content
    | 19 => Utf8.decodeText? e.content
    | 20 => some (String.ofList (teletexChars e.content))
    | 28 => (universalChars? e.content).map String.ofList
    | 30 => (bmpChars? e.content).map String.ofList
    | _ => none
  else none

def firstAttribute (type : Bytes) (name : Name) : Option Attribute :=
  name.flatten.find? (·.type == type)

theorem text?_of_directoryText? {a : Attribute} {text : String}
    (h : directoryText? a.value = some text) :
    a.text? = if isTextTag a.value.number then some text else none := by
  unfold directoryText? at h
  unfold Attribute.text?
  split at h
  · split at h
    · next hn => simpa [isTextTag, hn, Der.utf8String] using h
    · next hn => simpa [isTextTag, hn, Der.printableString] using h
    · next hn => simp [isTextTag, hn, Der.utf8String, Der.numericString, Der.printableString,
        Der.ia5String]
    · next hn => simp [isTextTag, hn, Der.utf8String, Der.numericString, Der.printableString,
        Der.ia5String]
    · next hn => simp [isTextTag, hn, Der.utf8String, Der.numericString, Der.printableString,
        Der.ia5String]
    · cases h
  · cases h

/-- A first attribute with a directory string that is not blank is an identity field exactly if its
string type is read. -/
theorem firstText_of_directoryText? {type : Bytes} {name : Name} {a : Attribute} {text : String}
    (ha : firstAttribute type name = some a) (htext : directoryText? a.value = some text)
    (hblank : Text.isBlank text = false) :
    firstText type name = if isTextTag a.value.number then some (Text.trim text) else none := by
  have hread := text?_of_directoryText? htext
  unfold firstText
  change ((firstAttribute type name).bind Attribute.text?).bind nonBlank? = _
  rw [ha, Option.bind_some, hread]
  split
  · simp [nonBlank?, hblank]
  · rfl

end Certificate

namespace Machine

open Certificate

variable {σ : Type}

/-- An authenticated credential is of the chain captured in idle, for the module that the leaf's
subject names, and for no module that names another hub. -/
theorem authenticated_names {ctx : AuthContext σ} {factoryHub : String}
    (hfactory : ctx.factory = x509Factory factoryHub) {w : σ} {ops : List Op} {c : Credential}
    (hc : (applyAll ctx (.fresh, w) ops).1.state = .authenticated c) {leaf : Bytes}
    {intermediates : List Bytes}
    (hcapture : (some leaf, intermediates) ∈ idleCaptures ctx (.fresh, w) ops) {subject : Name}
    (hsubject : readSubject? leaf = some subject) :
    c.identity.moduleId = firstText organizationalUnit subject ∧
      ∀ m h, firstText organizationalUnit subject = some m →
        firstText organization subject = some h → Text.sameIgnoringCase h ctx.hubName = true := by
  have hbacked := fresh_applyAll_backed ctx w ops
  rw [hc] at hbacked
  obtain ⟨⟨l, i, v, hcaptures, hmade⟩, -⟩ := hbacked
  rw [hcaptures] at hcapture
  cases List.mem_singleton.mp hcapture
  have haccepted := hmade.accepted
  have hbuilt := hmade.built
  simp only [identityOf, hsubject] at haccepted
  rw [hfactory] at hbuilt
  obtain ⟨-, hmodule, hhub⟩ := ClaimedIdentity.validate_eq_ok haccepted
  rw [x509Factory_eq_ok hbuilt, ClientIdentity.moduleId_ofIds]
  exact ⟨hmodule.symm, hhub⟩

/-- A leaf whose subject names a module by a directory string that is not blank authenticates only
as that module, and only in this hub if the hub is named likewise, exactly if the string types are
those that are read; a name in another type is taken for none. -/
theorem authenticated_module_of_read_type (ctx : AuthContext σ) (factoryHub : String)
    (hfactory : ctx.factory = x509Factory factoryHub) (w : σ) (ops : List Op) (c : Credential)
    (hc : (applyAll ctx (.fresh, w) ops).1.state = .authenticated c) (leaf : Bytes)
    (intermediates : List Bytes)
    (hcapture : (some leaf, intermediates) ∈ idleCaptures ctx (.fresh, w) ops) (subject : Name)
    (hsubject : readSubject? leaf = some subject) (unit : Attribute)
    (hunit : firstAttribute organizationalUnit subject = some unit) (m : String)
    (hm : directoryText? unit.value = some m) (hblank : Text.isBlank m = false) :
    c.identity.moduleId = (if isTextTag unit.value.number then some (Text.trim m) else none) ∧
      (isTextTag unit.value.number = true → ∀ org h,
        firstAttribute organization subject = some org → directoryText? org.value = some h →
        Text.isBlank h = false → isTextTag org.value.number = true →
        Text.sameIgnoringCase (Text.trim h) ctx.hubName = true) := by
  obtain ⟨hmodule, hhub⟩ := authenticated_names hfactory hc hcapture hsubject
  have hread := firstText_of_directoryText? hunit hm hblank
  refine ⟨hmodule.trans hread, ?_⟩
  intro htype org h horg hh hhblank horgtype
  rw [if_pos htype] at hread
  have horgread := firstText_of_directoryText? horg hh hhblank
  rw [if_pos horgtype] at horgread
  exact hhub _ _ hread horgread

/-! ### One certificate -/

/-- The subject of the device dev1 with a module and a hub. -/
def namingSubject (unit org : Der.Element) : Name :=
  [[.ofText commonName "dev1"], [⟨organizationalUnit, unit⟩], [⟨organization, org⟩]]

def namingLeaf (unit org : Der.Element) : Bytes :=
  Certificate.encode {
    fields := {
      serial := [1]
      algorithm := ⟨[0x2A, 0x86, 0x48, 0xCE, 0x3D, 0x04, 0x03, 0x02], []⟩
      issuer := [[.ofText commonName "ca"]]
      notBefore := ⟨⟨2024, 1, 1⟩, 0, 0, 0⟩
      notAfter := ⟨⟨2034, 1, 1⟩, 0, 0, 0⟩
      subject := namingSubject unit org
      publicKey := ⟨⟨[0x2A, 0x86, 0x48, 0xCE, 0x3D, 0x02, 0x01], []⟩, .ofOctets [4, 1, 2]⟩ }
    algorithm := ⟨[0x2A, 0x86, 0x48, 0xCE, 0x3D, 0x04, 0x03, 0x02], []⟩
    signature := .ofOctets [0x30, 0x00] }

def utf8Module : Der.Element := ⟨0, false, Der.utf8String, [0x6D, 0x6F, 0x64, 0x31]⟩

def bmpModule : Der.Element := ⟨0, false, 30, [0, 0x6D, 0, 0x6F, 0, 0x64, 0, 0x31]⟩

def utf8Hub : Der.Element := ⟨0, false, Der.utf8String, [0x68, 0x75, 0x62, 0x2D, 0x62]⟩

def accepting (hub : String) : AuthContext Unit :=
  ⟨hub, x509Factory hub, fun _ _ => (.heard (.ok true), ())⟩

def credentialOf (hub : String) (identity : ClientIdentity) (leaf : Bytes) : Credential :=
  ⟨hub, identity, "", .x509Certificate, leaf, [leaf]⟩

theorem authenticated_module_of_utf8 :
    let leaf := namingLeaf utf8Module utf8Hub
    let c := credentialOf "Hub-B" (.hosted "dev1" "mod1") leaf
    (applyAll (accepting "Hub-B") (.fresh, ()) [.run (some leaf) []]).1.state = .authenticated c ∧
      c.identity.moduleId = some "mod1" := by
  have hstate : (applyAll (accepting "Hub-B") (.fresh, ())
      [.run (some (namingLeaf utf8Module utf8Hub)) []]).1.state =
      .authenticated (credentialOf "Hub-B" (.hosted "dev1" "mod1")
        (namingLeaf utf8Module utf8Hub)) := by
    decide +kernel
  refine ⟨hstate, ?_⟩
  have h := authenticated_module_of_read_type (accepting "Hub-B") "Hub-B" rfl () _ _ hstate
    (namingLeaf utf8Module utf8Hub) [] (by decide +kernel) (namingSubject utf8Module utf8Hub)
    (by decide +kernel) ⟨organizationalUnit, utf8Module⟩ (by decide +kernel) "mod1"
    (by decide +kernel) (by decide +kernel)
  exact h.1

/-- A module of another hub that is named by a BMPString gets in as its host. -/
theorem authenticated_module_of_bmp :
    ¬ ∀ (ctx : AuthContext Unit) (factoryHub : String), ctx.factory = x509Factory factoryHub →
      ∀ (ops : List Op) (c : Credential),
      (applyAll ctx (.fresh, ()) ops).1.state = .authenticated c →
      ∀ (leaf : Bytes) (intermediates : List Bytes),
      (some leaf, intermediates) ∈ idleCaptures ctx (.fresh, ()) ops →
      ∀ (subject : Name), readSubject? leaf = some subject →
      ∀ (unit : Attribute) (m : String), firstAttribute organizationalUnit subject = some unit →
      directoryText? unit.value = some m → Text.isBlank m = false →
      c.identity.moduleId ≠ none ∧
        ∀ (org : Attribute) (h : String), firstAttribute organization subject = some org →
        directoryText? org.value = some h → Text.isBlank h = false →
        Text.sameIgnoringCase h ctx.hubName = true := by
  intro hclaim
  have hstate : (applyAll (accepting "hub-a") (.fresh, ())
      [.run (some (namingLeaf bmpModule utf8Hub)) []]).1.state =
      .authenticated (credentialOf "hub-a" (.device "dev1") (namingLeaf bmpModule utf8Hub)) := by
    decide +kernel
  have h := hclaim (accepting "hub-a") "hub-a" rfl _ _ hstate (namingLeaf bmpModule utf8Hub) []
    (by decide +kernel) (namingSubject bmpModule utf8Hub) (by decide +kernel)
    ⟨organizationalUnit, bmpModule⟩ "mod1" (by decide +kernel) (by decide +kernel)
    (by decide +kernel)
  exact h.1 rfl

end Machine
end DeviceGateway
