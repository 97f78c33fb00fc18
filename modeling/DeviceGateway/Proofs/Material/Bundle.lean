import DeviceGateway.Proofs.Material.Armour
import DeviceGateway.Proofs.Material.BodyGrammar

/-!
# Bundles

Certificates, private keys, revocation lists and sections of any other label may share one file,
with text between them. Each reader takes the sections of its own labels, all of them and in their
order, and the first one where it reads a single key. A certificate whose body is not base64 makes
the whole file malformed.
-/

namespace DeviceGateway

namespace Pem

/-! ### What the readers take -/

/-- The octets under a label. -/
def held (label : String) (entries : List Entry) : List Bytes :=
  (entries.filter (·.label == Utf8.encodeText label)).map (·.der)

/-- The encoding of private keys under a label. -/
def keyForm? (label : Bytes) : Option KeyForm :=
  if label = Utf8.encodeText "RSA PRIVATE KEY" then some .rsa
  else if label = Utf8.encodeText "EC PRIVATE KEY" then some .ec
  else if label = Utf8.encodeText "PRIVATE KEY" then some .general
  else none

def Entry.key? (e : Entry) : Option PrivateKey := (keyForm? e.label).map (PrivateKey.mk · e.der)

theorem map_der_filter_section (kind : Kind) (entries : List Entry) :
    ((entries.filterMap Entry.section?).filter (·.kind == kind)).map (·.der) =
      held kind.label entries := by
  induction entries with
  | nil => rfl
  | cons e entries ih =>
    have hlabel : (e.label == Utf8.encodeText kind.label) = (kindOf? e.label == some kind) := by
      rw [Bool.eq_iff_iff, beq_iff_eq, beq_iff_eq, kindOf?_eq_some_iff]
    unfold held at ih ⊢
    rw [List.filterMap_cons, Entry.section?, List.filter_cons, hlabel]
    cases kindOf? e.label with
    | none => exact ih
    | some k => cases hk : k == kind <;> simp [hk, ih]

theorem keyForm?_eq (label : Bytes) : keyForm? label = (kindOf? label).bind KeyForm.ofKind? := by
  cases hkind : kindOf? label with
  | some kind =>
    rw [kindOf?_eq_some_iff.mp hkind]
    cases kind <;> decide +kernel
  | none =>
    have hnot : ∀ kind : Kind, label ≠ Utf8.encodeText kind.label := by
      intro kind hlabel
      rw [kindOf?_eq_some_iff.mpr hlabel] at hkind
      cases hkind
    have hrsa : label ≠ Utf8.encodeText "RSA PRIVATE KEY" := hnot .rsaKey
    have hec : label ≠ Utf8.encodeText "EC PRIVATE KEY" := hnot .ecKey
    have hgeneral : label ≠ Utf8.encodeText "PRIVATE KEY" := hnot .pkcs8Key
    rw [keyForm?, if_neg hrsa, if_neg hec, if_neg hgeneral]
    rfl

theorem find_key_section (entries : List Entry) :
    ((entries.filterMap Entry.section?).find? (·.kind.isPrivateKey)).bind
        (fun s => (KeyForm.ofKind? s.kind).map (PrivateKey.mk · s.der)) =
      entries.findSome? Entry.key? := by
  induction entries with
  | nil => rfl
  | cons e entries ih =>
    -- a section is taken for a key exactly if its kind has an encoding
    rw [List.findSome?_cons, Entry.key?, keyForm?_eq, List.filterMap_cons, Entry.section?]
    cases kindOf? e.label with
    | none => exact ih
    | some kind => cases kind <;> first | rfl | exact ih

/-- A file is read to its end if and only if every body under a known label is base64. -/
theorem fault_eq_none_iff {content : Bytes} {es : List Enclosure} (h : IsFile content es) :
    (read content).2 = none ↔ ∀ e ∈ es, kindOf? e.label = none ∨ IsBase64 e.body := by
  rw [read_of_isFile h]
  clear h
  induction es with
  | nil => simp
  | cons e es ih =>
    rw [List.foldr_cons, conclude, List.forall_mem_cons, ← ih, ← exists_decodeBody_iff]
    cases kindOf? e.label with
    | none => simp
    | some kind => cases decodeBody e.body <;> simp

/-! ### Sections that were written -/

def bundle (last : Bytes) : List (Bytes × Enclosure) → Bytes
  | [] => last
  | (text, e) :: parts => text ++ (e.text 10 ++ 10 :: bundle last parts)

theorem IsFile.break_cons {content : Bytes} {es : List Enclosure} (h : IsFile content es)
    {b : UInt8} (hb : isBreak b = true) : IsFile (b :: content) es := by
  have hline := isWhole_singleton hb
  have hempty := isUnmarked_singleton hb
  cases h with
  | text hunmarked => exact .text (hempty.append hline hunmarked)
  | enclosed e hwhole hunmarked hbreak hends hrest =>
    exact .enclosed e (hline.append hwhole) (hempty.append hline hunmarked) hbreak hends hrest

/-- Whatever is written is a file of its sections. -/
theorem isFile_bundle {last : Bytes} (hlast : IsUnmarked last) {parts : List (Bytes × Enclosure)}
    (hparts : ∀ p ∈ parts, IsWhole p.1 ∧ IsUnmarked p.1) :
    IsFile (bundle last parts) (parts.map (·.2)) := by
  induction parts with
  | nil => exact .text hlast
  | cons p parts ih =>
    obtain ⟨hwhole, hunmarked⟩ := hparts p (List.mem_cons_self ..)
    have hrest := ih fun q hq => hparts q (List.mem_cons_of_mem p hq)
    exact .enclosed p.2 hwhole hunmarked rfl (by simp [EndsLine, isBreak]) (hrest.break_cons rfl)

end Pem

namespace Material

open Pem (Entry Enclosure IsFile IsBase64 held)

variable {content : Bytes} {entries : List Entry}

theorem readKind_of_entries (h : IsFile content (entries.map Entry.enclosure)) (kind : Pem.Kind) :
    Pem.readKind kind content = .ok (held kind.label entries) :=
  Pem.readKind_eq_ok_iff.mpr
    ⟨_, Pem.read_of_entries h, (Pem.map_der_filter_section kind entries).symm⟩

theorem parseCertificates_of_entries (h : IsFile content (entries.map Entry.enclosure)) :
    parseCertificates content =
      if held "CERTIFICATE" entries = [] then .error (.certificate "no certificates found")
      else .ok (held "CERTIFICATE" entries) := by
  have hread : Pem.readKind .certificate content = .ok (held "CERTIFICATE" entries) :=
    readKind_of_entries h .certificate
  rw [parseCertificates, hread]
  cases held "CERTIFICATE" entries <;> rfl

theorem parsePrivateKey_of_entries (h : IsFile content (entries.map Entry.enclosure)) :
    parsePrivateKey content =
      match entries.findSome? Entry.key? with
      | none => .error (.certificate "no private key found")
      | some key => .ok key := by
  have hread : Pem.readPrivateKey content =
      .ok ((entries.filterMap Entry.section?).find? (·.kind.isPrivateKey)) := by
    rw [Pem.readPrivateKey, Pem.read_of_entries h]
    simp only
    cases (entries.filterMap Entry.section?).find? (·.kind.isPrivateKey) <;> rfl
  rw [parsePrivateKey, hread]
  simp only [Pem.find_key_section]
  cases entries.findSome? Entry.key? <;> rfl

theorem loadRevocationLists_of_entries (h : IsFile content (entries.map Entry.enclosure))
    {files : FileTree} {path : String} (hfile : files.read path = .ok content) :
    loadRevocationLists files path = .ok (held "X509 CRL" entries) := by
  have hread : Pem.readKind .revocationList content = .ok (held "X509 CRL" entries) :=
    readKind_of_entries h .revocationList
  simp only [loadRevocationLists, readFile, hfile, mapError_ok, Bind.bind, Except.bind, hread]

theorem parseCertificates_of_not_isBase64 {es : List Enclosure} (h : IsFile content es)
    {e : Enclosure} (he : e ∈ es) (hlabel : e.label = Utf8.encodeText "CERTIFICATE")
    (hbody : ¬ IsBase64 e.body) :
    ∃ fault, parseCertificates content = .error (malformed fault) := by
  have hkind : Pem.kindOf? e.label = some .certificate := Pem.kindOf?_eq_some_iff.mpr hlabel
  have hstopped : (Pem.read content).2 ≠ none := by
    intro hnone
    rcases (Pem.fault_eq_none_iff h).mp hnone e he with hunknown | hbase64
    · rw [hkind] at hunknown
      cases hunknown
    · exact hbody hbase64
  obtain ⟨fault, hfault⟩ := Option.ne_none_iff_exists'.mp hstopped
  have hread : Pem.read content = ((Pem.read content).1, some fault) := by rw [← hfault]
  refine ⟨fault, ?_⟩
  rw [parseCertificates, Pem.readKind, hread]

/-- A bundle loads completely and in order, and not at all where a certificate is not base64. -/
theorem bundle_loads :
    (∀ (content : Bytes) (entries : List Entry), IsFile content (entries.map Entry.enclosure) →
      parseCertificates content =
        (if held "CERTIFICATE" entries = [] then .error (.certificate "no certificates found")
          else .ok (held "CERTIFICATE" entries)) ∧
      parsePrivateKey content =
        (match entries.findSome? Entry.key? with
          | none => .error (.certificate "no private key found")
          | some key => .ok key) ∧
      ∀ (files : FileTree) (path : String), files.read path = .ok content →
        loadRevocationLists files path = .ok (held "X509 CRL" entries)) ∧
    ∀ (content : Bytes) (es : List Enclosure), IsFile content es →
      (∃ e ∈ es, e.label = Utf8.encodeText "CERTIFICATE" ∧ ¬ IsBase64 e.body) →
        ∃ fault, parseCertificates content = .error (malformed fault) := by
  constructor
  · intro content entries h
    exact ⟨parseCertificates_of_entries h, parsePrivateKey_of_entries h,
      fun files path hfile => loadRevocationLists_of_entries h hfile⟩
  · rintro content es h ⟨e, he, hlabel, hbody⟩
    exact parseCertificates_of_not_isBase64 h he hlabel hbody

/-! ### A bundle -/

/-- Two certificates, parameters, a revocation list and two keys. -/
def sampleEntries : List Entry :=
  [Pem.Section.entry ⟨.certificate, [0x30, 0]⟩,
    .ofOctets (Utf8.encodeText "EC PARAMETERS") [6] (by decide +kernel),
    Pem.Section.entry ⟨.revocationList, [0x30, 3, 2, 1, 1]⟩,
    Pem.Section.entry ⟨.ecKey, [0x30, 1, 1]⟩,
    Pem.Section.entry ⟨.certificate, [0x30, 2, 5, 0]⟩,
    Pem.Section.entry ⟨.pkcs8Key, [0x30, 1, 0]⟩]

def sampleBundle : Bytes :=
  Pem.bundle [] (sampleEntries.map fun e => (Utf8.encodeText "next\n", e.enclosure))

theorem isFile_sampleBundle : IsFile sampleBundle (sampleEntries.map Entry.enclosure) := by
  have htext : Pem.IsWhole (Utf8.encodeText "next\n") ∧
      Pem.IsUnmarked (Utf8.encodeText "next\n") := by
    decide +kernel
  have h : IsFile sampleBundle
      ((sampleEntries.map fun e => (Utf8.encodeText "next\n", e.enclosure)).map (·.2)) :=
    Pem.isFile_bundle (by decide) (by simp [htext])
  rw [List.map_map] at h
  exact h

/-- A certificate that was cut off. -/
def sampleDamage : Enclosure where
  label := Utf8.encodeText "CERTIFICATE"
  body := Utf8.encodeText "MAIFA\n"
  isLabel := Pem.Kind.isLabel .certificate
  isWhole := by decide +kernel
  isInside := by decide +kernel

theorem not_isBase64_sampleDamage : ¬ IsBase64 sampleDamage.body := by
  intro h
  obtain ⟨der, hder⟩ := (Pem.exists_decodeBody_iff _).mpr h
  have hrefused : Pem.decodeBody sampleDamage.body = .error .invalidTrailingPadding := by
    decide +kernel
  rw [hrefused] at hder
  cases hder

/-- A whole certificate and one that was cut off. -/
def sampleDamagedBundle : Bytes :=
  Pem.bundle [] [([], (Pem.Section.entry ⟨.certificate, [0x30, 0]⟩).enclosure), ([], sampleDamage)]

theorem bundle_loads_sample :
    parseCertificates sampleBundle = .ok [[0x30, 0], [0x30, 2, 5, 0]] ∧
      parsePrivateKey sampleBundle = .ok ⟨.ec, [0x30, 1, 1]⟩ ∧
      loadRevocationLists ⟨[(["ca.pem"], .file sampleBundle)]⟩ "ca.pem" =
        .ok [[0x30, 3, 2, 1, 1]] ∧
      ∃ fault, parseCertificates sampleDamagedBundle = .error (malformed fault) := by
  have hheld : held "CERTIFICATE" sampleEntries = [[0x30, 0], [0x30, 2, 5, 0]] := by decide +kernel
  have hfirst : sampleEntries.findSome? Entry.key? = some ⟨.ec, [0x30, 1, 1]⟩ := by decide +kernel
  have hlists : held "X509 CRL" sampleEntries = [[0x30, 3, 2, 1, 1]] := by decide +kernel
  have hdamaged : IsFile sampleDamagedBundle
      [(Pem.Section.entry ⟨.certificate, [0x30, 0]⟩).enclosure, sampleDamage] :=
    Pem.isFile_bundle (by decide) (by decide +kernel)
  obtain ⟨hcertificates, hkey, hload⟩ := bundle_loads.1 _ _ isFile_sampleBundle
  rw [hheld] at hcertificates
  rw [hfirst] at hkey
  refine ⟨hcertificates, hkey, ?_, ?_⟩
  · rw [← hlists]
    exact hload _ "ca.pem" rfl
  · exact bundle_loads.2 _ _ hdamaged ⟨sampleDamage, by simp, rfl, not_isBase64_sampleDamage⟩

end Material
end DeviceGateway
