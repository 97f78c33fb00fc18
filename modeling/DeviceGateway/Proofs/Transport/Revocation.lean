import DeviceGateway.Proofs.Config.Settings
import DeviceGateway.Proofs.Transport.Startup

/-!
# Revocation lists of a configuration

Settings consult the lists that stand in the file their configuration names, all of them and in
their order. A file that cannot be read stops the start, and so does one that is malformed; a file
without a list does not, and then the settings are those of a configuration that names no file.
-/

namespace DeviceGateway

/-! ### Sections of a kind -/

namespace Pem

/-- A section that is read was open already, or a line starts it. -/
theorem exists_start_of_mem_readLines {x : Section} {ls : List Bytes} {label : Option Bytes}
    {body : Bytes} (h : x ∈ (readLines label body ls).1) :
    label = some (Utf8.encodeText x.kind.label) ∨
      ∃ line ∈ ls, startOf line = .label (Utf8.encodeText x.kind.label) := by
  induction ls generalizing label body with
  | nil => cases h
  | cons line ls ih =>
    have hlater : (∃ line ∈ ls, startOf line = .label (Utf8.encodeText x.kind.label)) →
        ∃ l ∈ line :: ls, startOf l = .label (Utf8.encodeText x.kind.label) := by
      rintro ⟨l, hl, hstart⟩
      exact ⟨l, List.mem_cons_of_mem line hl, hstart⟩
    -- a section that is closed leaves none open
    have hclosed : x ∈ (readLines none [] ls).1 →
        ∃ l ∈ line :: ls, startOf l = .label (Utf8.encodeText x.kind.label) := by
      intro hx
      rcases ih hx with hopen | hline
      · cases hopen
      · exact hlater hline
    unfold readLines at h
    cases hstart : startOf line with
    | illegal =>
      rw [hstart] at h
      cases h
    | label l =>
      rw [hstart] at h
      rcases ih h with hopen | hline
      · cases hopen
        exact .inr ⟨line, List.mem_cons_self .., hstart⟩
      · exact .inr (hlater hline)
    | none =>
      rw [hstart] at h
      cases label with
      | none => exact (ih h).imp_right hlater
      | some l =>
        simp only at h
        split at h
        · cases hkind : kindOf? l with
          | none =>
            rw [hkind] at h
            exact .inr (hclosed h)
          | some kind =>
            rw [hkind] at h
            cases hbody : decodeBody body with
            | error f =>
              rw [hbody] at h
              cases h
            | ok der =>
              simp only [hbody, List.mem_cons] at h
              rcases h with rfl | hx
              · exact .inl (congrArg some (kindOf?_eq_some_iff.mp hkind))
              · exact .inr (hclosed hx)
        · exact (ih h).imp_right hlater

/-- Without a line that starts a section of a kind there is none of it. -/
theorem filter_kind_eq_nil {kind : Kind} {content : Bytes}
    (hnone : ∀ line ∈ lines content, startOf line ≠ .label (Utf8.encodeText kind.label)) :
    (read content).1.filter (·.kind == kind) = [] := by
  rw [List.filter_eq_nil_iff]
  intro x hx hkind
  obtain rfl := beq_iff_eq.mp hkind
  rcases exists_start_of_mem_readLines hx with hopen | ⟨line, hline, hstart⟩
  · cases hopen
  · exact hnone line hline hstart

end Pem

/-! ### The lists that settings consult -/

/-- The lists of a policy are those that its octets encode, in their order. -/
theorem ChainPolicy.lists_of_create {authorities ders : List Bytes} {p : ChainPolicy}
    (h : create authorities ders = .ok p) :
    List.Forall₂ (fun der l => RevocationList.ofDer der = .ok l) ders p.lists := by
  obtain ⟨anchors, -, h⟩ := bind_eq_ok h
  simp only at h
  split at h
  · cases h
  · obtain ⟨lists, hlists, h⟩ := bind_eq_ok h
    cases h
    exact (forall₂_of_mapM_eq_ok hlists).imp fun _ _ h => mapError_eq_ok h

/-- The configuration without its file of revocation lists. -/
def Config.withoutLists (c : Config) : Config := { c with tls := { c.tls with crlPath := none } }

namespace TransportSettings

variable {files : FileTree} {c : Config} {path : String} {s : TransportSettings}

theorem loadClientAuth_of_ofConfig (h : ofConfig files c = .ok s) :
    loadClientAuth files c = .ok s.clientAuth := by
  obtain ⟨-, -, h⟩ := bind_eq_ok h
  obtain ⟨serverKey, -, h⟩ := bind_eq_ok h
  obtain ⟨clientAuth, hclientAuth, h⟩ := bind_eq_ok h
  have hbuild := mapError_eq_ok h
  simp only [TransportDraft.build] at hbuild
  split at hbuild
  · cases hbuild
  · split at hbuild
    · cases hbuild
    · cases hbuild
      exact hclientAuth

theorem loadPolicy_of_loadClientAuth {x : Option ClientAuth}
    (hclients : c.tls.clientCertAuth = true) (h : loadClientAuth files c = .ok x) :
    ∃ a, x = some a ∧ loadPolicy files c.tls = .ok a.policy := by
  unfold loadClientAuth at h
  rw [if_pos hclients] at h
  obtain ⟨policy, hpolicy, h⟩ := bind_eq_ok h
  obtain ⟨limits, -, h⟩ := bind_eq_ok h
  cases h
  exact ⟨_, rfl, mapError_eq_ok hpolicy⟩

theorem loadLists_of_path {t : TlsConfig} (hpath : t.crlPath = some path) {ders : List Bytes}
    (h : loadLists files t = .ok ders) :
    ∃ content, files.read path = .ok content ∧
      Pem.readKind .revocationList content = .ok ders := by
  simp only [loadLists, hpath] at h
  obtain ⟨content, hcontent, h⟩ := bind_eq_ok h
  exact ⟨content, mapError_eq_ok hcontent, mapError_eq_ok h⟩

theorem lists_of_loadPolicy {t : TlsConfig} (hpath : t.crlPath = some path) {p : ChainPolicy}
    (h : loadPolicy files t = .ok p) :
    ∃ content ders, files.read path = .ok content ∧
      Pem.readKind .revocationList content = .ok ders ∧
      List.Forall₂ (fun der l => RevocationList.ofDer der = .ok l) ders p.lists := by
  unfold loadPolicy at h
  split at h
  · cases h
  · obtain ⟨ders, hders, h⟩ := bind_eq_ok h
    obtain ⟨authorities, -, h⟩ := bind_eq_ok h
    obtain ⟨content, hread, hkind⟩ := loadLists_of_path hpath hders
    exact ⟨content, ders, hread, hkind, ChainPolicy.lists_of_create h⟩

/-- Settings of clients whose configuration names a file were made of a file that can be read and
is well-formed, and they consult its lists. -/
theorem lists_of_ofConfig (hclients : c.tls.clientCertAuth = true)
    (hpath : c.tls.crlPath = some path) (h : ofConfig files c = .ok s) :
    ∃ content ders a, files.read path = .ok content ∧
      Pem.readKind .revocationList content = .ok ders ∧ s.clientAuth = some a ∧
      List.Forall₂ (fun der l => RevocationList.ofDer der = .ok l) ders a.policy.lists := by
  obtain ⟨a, ha, hpolicy⟩ := loadPolicy_of_loadClientAuth hclients (loadClientAuth_of_ofConfig h)
  obtain ⟨content, ders, hread, hkind, hlists⟩ := lists_of_loadPolicy hpath hpolicy
  exact ⟨content, ders, a, hread, hkind, ha, hlists⟩

theorem ofConfig_of_no_lists (hpath : c.tls.crlPath = some path) {content : Bytes}
    (hread : files.read path = .ok content)
    (hnone : Pem.readKind .revocationList content = .ok []) :
    ofConfig files c = ofConfig files c.withoutLists := by
  have hlists : loadLists files c.tls = loadLists files c.withoutLists.tls := by
    simp only [loadLists, hpath, Config.withoutLists, Material.loadRevocationLists,
      Material.readFile, hread, mapError_ok, Bind.bind, Except.bind, hnone]
  have hpolicy : loadPolicy files c.tls = loadPolicy files c.withoutLists.tls := by
    simp only [loadPolicy, hlists]
    rfl
  have hclients : loadClientAuth files c = loadClientAuth files c.withoutLists := by
    simp only [loadClientAuth, hpolicy]
    rfl
  simp only [ofConfig, hclients]
  rfl

/-- Where clients must present certificates and a file of revocation lists is named, settings are
made only of a file that can be read and is well-formed. They consult its lists in their order, so
at least one exactly if the file holds one; a well-formed file without a line that starts a list
leaves the settings as they are when no file is named. -/
theorem lists_consulted (files : FileTree) (c : Config) (path : String)
    (hclients : c.tls.clientCertAuth = true) (hpath : c.tls.crlPath = some path) :
    (∀ s, ofConfig files c = .ok s → ∃ content sections a, files.read path = .ok content ∧
      Pem.read content = (sections, none) ∧ s.clientAuth = some a ∧
      List.Forall₂ (fun x l => RevocationList.ofDer x.der = .ok l)
        (sections.filter (·.kind == .revocationList)) a.policy.lists ∧
      (a.policy.lists ≠ [] ↔ ∃ x ∈ sections, x.kind = .revocationList)) ∧
    ∀ content, files.read path = .ok content → (Pem.read content).2 = none →
      (∀ line ∈ Pem.lines content, Pem.startOf line ≠ .label (Utf8.encodeText "X509 CRL")) →
      ofConfig files c = ofConfig files c.withoutLists := by
  constructor
  · intro s hs
    obtain ⟨content, ders, a, hread, hkind, ha, hlists⟩ := lists_of_ofConfig hclients hpath hs
    obtain ⟨sections, hsections, rfl⟩ := Pem.readKind_eq_ok_iff.mp hkind
    have hparsed := List.forall₂_map_left_iff.mp hlists
    refine ⟨content, sections, a, hread, hsections, ha, hparsed, ?_⟩
    have hlength := hparsed.length_eq
    rw [← List.length_pos_iff, ← hlength, List.length_pos_iff, Ne, List.filter_eq_nil_iff]
    simp only [beq_iff_eq, not_forall, not_not, exists_prop]
  · intro content hread hfault hnone
    apply ofConfig_of_no_lists hpath hread
    refine Pem.readKind_eq_ok_iff.mpr ⟨(Pem.read content).1, ?_, ?_⟩
    · rw [← hfault]
    · rw [@Pem.filter_kind_eq_nil .revocationList _ hnone]
      rfl

end TransportSettings

namespace Gateway

/-! ### A small gateway with a file of lists -/

theorem settings_of_ofConfig {files : FileTree} {c : Config} {g : Gateway}
    (h : ofConfig files c = .ok g) : TransportSettings.ofConfig files c = .ok g.settings := by
  obtain ⟨-, -, h⟩ := bind_eq_ok h
  obtain ⟨authority, -, h⟩ := bind_eq_ok h
  obtain ⟨settings, hsettings, h⟩ := bind_eq_ok h
  cases h
  exact hsettings

/-- A list of an authority that has revoked nothing; its signature is checked only when it is
consulted. -/
def sampleList : Bytes :=
  let algorithm : Certificate.Algorithm := ⟨[0x2A, 0x86, 0x48, 0xCE, 0x3D, 0x04, 0x03, 0x02], []⟩
  let fields := Der.writeSequence (Der.writeNatural 1 ++ algorithm.encode
    ++ Certificate.encodeName [[.ofText Certificate.commonName "ca"]]
    ++ Certificate.encodeTime ⟨⟨2024, 1, 1⟩, 0, 0, 0⟩
    ++ Certificate.encodeTime ⟨⟨2034, 1, 1⟩, 0, 0, 0⟩)
  Der.writeSequence (fields ++ algorithm.encode ++ Der.writeBitString (.ofOctets [0x30, 0x00]))

def sampleFilesWith (lists : Bytes) : FileTree :=
  ⟨(["crl.pem"], .file lists) :: sampleFiles.entries⟩

theorem read_sampleFilesWith (lists : Bytes) :
    (sampleFilesWith lists).read "crl.pem" = .ok lists := rfl

def listedConfig : Config where
  listener := .default
  tls := ⟨"server.crt", "server.key", some "ca.crt", some "crl.pem", true⟩
  auth := { AuthConfig.default with hubName := "hub-a" }

theorem listedConfig_starts {content : Bytes} {ders : List Bytes}
    (hkind : Pem.readKind .revocationList content = .ok ders)
    (hpolicy : (ChainPolicy.create [sampleAuthority] ders).toOption.isSome = true) :
    ∃ s, TransportSettings.ofConfig (sampleFilesWith content) listedConfig = .ok s := by
  have hauthorities :
      Material.loadCertificates (sampleFilesWith content) "ca.crt" = .ok [sampleAuthority] :=
    Material.loadCertificates_of_text rfl
  have hchain :
      Material.loadCertificates (sampleFilesWith content) "server.crt" = .ok [sampleAuthority] :=
    Material.loadCertificates_of_text rfl
  have hread : Material.loadPrivateKey (sampleFilesWith content) "server.key" =
      .ok ⟨.ec, sampleKey⟩ :=
    Material.loadPrivateKey_of_text rfl
  have hkey : SigningKey.ofPrivateKey? .serving ⟨.ec, sampleKey⟩ = some (.curve .p256 1) := by
    decide +kernel
  have hlists : TransportSettings.loadLists (sampleFilesWith content) listedConfig.tls =
      .ok ders := by
    simp only [TransportSettings.loadLists, listedConfig, Material.loadRevocationLists,
      Material.readFile, read_sampleFilesWith, mapError_ok, Bind.bind, Except.bind, hkind]
  obtain ⟨policy, hpolicy⟩ := Option.isSome_iff_exists.mp hpolicy
  have haccepted : listedConfig.tls.IsAccepted (sampleFilesWith content) := by
    constructor
    · exact ⟨_, loadServerKey_eq_ok hchain (List.cons_ne_nil _ _) hread hkey⟩
    · intro _ path hpath
      cases hpath
      exact ⟨ders, [sampleAuthority], policy, hlists, hauthorities, eq_ok_of_toOption hpolicy⟩
  have hvalid : listedConfig.validate = .ok () := rfl
  rcases loadClientAuth_of_validate hvalid haccepted with ⟨clientAuth, hload, -⟩ | ⟨-, -, hgt⟩
  · obtain ⟨g, hg⟩ := ofConfig_of_clientAuth hvalid haccepted hload
    exact ⟨g.settings, settings_of_ofConfig hg⟩
  · exact absurd hgt (by decide)

theorem sample_list_consulted :
    listedConfig.tls.clientCertAuth = true ∧ listedConfig.tls.crlPath = some "crl.pem" ∧
      ∃ s a, TransportSettings.ofConfig (sampleFilesWith
          (Utf8.encodeText (Pem.Section.mk .revocationList sampleList).text)) listedConfig = .ok s ∧
        s.clientAuth = some a ∧ a.policy.lists ≠ [] := by
  refine ⟨rfl, rfl, ?_⟩
  have hread := Pem.read_text ⟨.revocationList, sampleList⟩
  have hkind := (@Pem.readKind_eq_ok_iff .revocationList _ [sampleList]).mpr
    ⟨_, hread, rfl⟩
  obtain ⟨s, hs⟩ := listedConfig_starts hkind (by decide +kernel)
  obtain ⟨content, sections, a, hfile, hsections, ha, -, hiff⟩ :=
    (TransportSettings.lists_consulted _ listedConfig "crl.pem" rfl rfl).1 s hs
  refine ⟨s, a, hs, ha, hiff.mpr ?_⟩
  rw [read_sampleFilesWith] at hfile
  obtain rfl := Except.ok.inj hfile
  rw [hread] at hsections
  obtain rfl := (Prod.mk.inj hsections).1
  exact ⟨_, List.mem_singleton_self _, rfl⟩

/-- An empty file is named, and nothing is consulted. -/
theorem empty_file_disables_lists :
    ¬ ∀ (files : FileTree) (c : Config) (path : String), c.tls.clientCertAuth = true →
      c.tls.crlPath = some path → ∀ s, TransportSettings.ofConfig files c = .ok s →
        ∃ a, s.clientAuth = some a ∧ a.policy.lists ≠ [] := by
  intro hclaim
  have hkind : Pem.readKind .revocationList [] = .ok [] := rfl
  obtain ⟨s, hs⟩ := listedConfig_starts hkind (by decide +kernel)
  obtain ⟨a, ha, hne⟩ := hclaim _ listedConfig "crl.pem" rfl rfl s hs
  obtain ⟨content, ders, a', hread, hders, ha', hlists⟩ :=
    TransportSettings.lists_of_ofConfig rfl rfl hs
  cases hread
  cases hders
  rw [ha] at ha'
  cases ha'
  exact hne (List.forall₂_nil_left_iff.mp hlists)

end Gateway
end DeviceGateway
