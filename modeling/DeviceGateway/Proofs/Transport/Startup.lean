import DeviceGateway.Certificate.Basic
import DeviceGateway.Gateway
import DeviceGateway.Proofs.Material.Armour

/-!
# Starting from a validated configuration

Validation repeats the conditions of everything that a gateway is built from: the authority's
address, the limits of the bridge, the material that must be named and the settings themselves. All
of them but one: the number of permits has a largest value, which only the bridge knows.
-/

namespace DeviceGateway

/-! ### What validation requires -/

theorem requireText_eq_ok_iff {value name : String} :
    requireText value name = .ok () ↔ Text.isBlank value = false := by
  unfold requireText
  cases Text.isBlank value <;> simp

theorem requireThat_eq_ok_iff {holds : Bool} {text : String} :
    requireThat holds text = .ok () ↔ holds = true := by
  unfold requireThat
  cases holds <;> simp

theorem ListenerConfig.validate_eq_ok_iff (c : ListenerConfig) :
    c.validate = .ok () ↔ Text.isBlank c.scheme = false ∧ Text.isBlank c.host = false ∧
      c.port ≠ 0 ∧ c.handshakeTimeout.isZero = false := by
  simp [validate, check_eq_ok_iff, requireText_eq_ok_iff, requireThat_eq_ok_iff]

theorem TlsConfig.validate_eq_ok_iff (c : TlsConfig) :
    c.validate = .ok () ↔ Text.isBlank c.serverCert = false ∧ Text.isBlank c.serverKey = false ∧
      (c.clientCertAuth = true → ∃ path, c.caCert = some path ∧ Text.isBlank path = false) := by
  have hca : c.clientCertAuth = false ∨ c.caCert.all Text.isBlank = false ↔
      (c.clientCertAuth = true → ∃ path, c.caCert = some path ∧ Text.isBlank path = false) := by
    cases c.clientCertAuth <;> cases c.caCert <;> simp
  simp [validate, check_eq_ok_iff, requireText_eq_ok_iff, requireThat_eq_ok_iff, hca]

theorem AuthorityConfig.validate_registry_eq_ok_iff (identities : List RegisteredIdentity) :
    (registry identities).validate = .ok () ↔
      ∀ e ∈ identities, Text.isBlank e.deviceId = false := by
  induction identities with
  | nil => exact ⟨fun _ _ h => (nomatch h), fun _ => rfl⟩
  | cons e identities ih =>
    simp only [validate, List.forM_eq_forM] at ih ⊢
    rw [List.forM_cons, check_eq_ok_iff, requireText_eq_ok_iff, ih, List.forall_mem_cons]

theorem AuthConfig.validate_eq_ok_iff (c : AuthConfig) :
    c.validate = .ok () ↔ Text.isBlank c.hubName = false ∧ c.timeout.isZero = false ∧
      c.maxInflight ≠ 0 ∧ c.workerThreads ≠ 0 ∧ c.authority.validate = .ok () := by
  simp [validate, check_eq_ok_iff, requireText_eq_ok_iff, requireThat_eq_ok_iff]

theorem Config.validate_eq_ok_iff (c : Config) :
    c.validate = .ok () ↔
      c.listener.validate = .ok () ∧ c.tls.validate = .ok () ∧ c.auth.validate = .ok () := by
  simp only [validate, check_eq_ok_iff]

/-! ### The authority -/

theorem Url.eq_web_of_parse {text : String} {a : Url.Address} (h : Url.parse text = .ok a)
    (hhttp : a.isHttp = true) : ∃ w, a = .web w := by
  -- the web schemes are told apart by their default ports, and both of HTTP have one
  have hport : ∀ scheme, (Url.Address.other scheme).isHttp = true →
      (Url.defaultPort? scheme).isSome = true := by
    intro scheme hscheme
    simp only [Url.Address.isHttp, Url.Address.scheme, Bool.or_eq_true, beq_iff_eq] at hscheme
    rcases hscheme with rfl | rfl <;> rfl
  have hother : ∀ (scheme : String) (x : Except Url.Fault Unit),
      (Url.defaultPort? scheme).isSome ≠ true → x.map (fun _ => Url.Address.other scheme) = .ok a →
      ∃ w, a = .web w := by
    intro scheme x hscheme hx
    cases x with
    | error f => cases hx
    | ok u =>
      cases hx
      exact (hscheme (hport scheme hhttp)).elim
  unfold Url.parse at h
  split at h
  · cases h
  · next scheme rest _ =>
    split at h
    · cases hweb : Url.readWeb scheme (rest.dropWhile (Url.isSlash true)) with
      | error f =>
        rw [hweb] at h
        cases h
      | ok w =>
        rw [hweb] at h
        cases h
        exact ⟨w, rfl⟩
    · next hscheme =>
      split at h
      · exact hother scheme _ hscheme h
      · exact hother scheme _ hscheme h

/-- Every authority that passes validation can be made. -/
theorem Authority.ofConfig_of_validate {c : AuthorityConfig} (h : c.validate = .ok ()) :
    ∃ a, Authority.ofConfig c = .ok a := by
  cases c with
  | registry identities => exact ⟨_, rfl⟩
  | remote url =>
    simp only [AuthorityConfig.validate] at h
    split at h
    · cases h
    · next a hparse =>
      have hhttp := requireThat_eq_ok_iff.mp h
      obtain ⟨w, rfl⟩ := Url.eq_web_of_parse hparse hhttp
      refine ⟨.remote ⟨w⟩, ?_⟩
      simp only [Authority.ofConfig, RemoteAuthority.create, hparse, hhttp]
      rfl

/-! ### The limits of the bridge -/

/-- How a bridge with more permits than there can be ends. -/
def BridgeStartFault.tooManyPermits : BridgeStartFault :=
  .crash ("a semaphore may not have more than MAX_PERMITS permits (" ++ Text.natText maxPermits
    ++ ")")

theorem AuthConfig.counts_pos {c : AuthConfig} (h : c.validate = .ok ()) :
    0 < c.workerThreads.toNat ∧ 0 < c.maxInflight.toNat := by
  obtain ⟨-, -, hinflight, hworkers, -⟩ := c.validate_eq_ok_iff.mp h
  constructor
  · exact Nat.pos_of_ne_zero fun h0 => hworkers (UInt64.toNat_inj.mp h0)
  · exact Nat.pos_of_ne_zero fun h0 => hinflight (UInt64.toNat_inj.mp h0)

theorem bridgeLimits_of_le {c : AuthConfig} (h : c.validate = .ok ())
    (hle : c.maxInflight.toNat ≤ maxPermits) :
    ∃ l, TransportSettings.bridgeLimits c = .ok l := by
  obtain ⟨hworkers, hinflight⟩ := c.counts_pos h
  unfold TransportSettings.bridgeLimits BridgeLimits.create
  rw [dif_pos hworkers, dif_pos hinflight, dif_pos hle]
  exact ⟨_, rfl⟩

theorem bridgeLimits_of_gt {c : AuthConfig} (h : c.validate = .ok ())
    (hgt : maxPermits < c.maxInflight.toNat) :
    TransportSettings.bridgeLimits c = .error .tooManyPermits := by
  obtain ⟨hworkers, hinflight⟩ := c.counts_pos h
  unfold TransportSettings.bridgeLimits BridgeLimits.create
  rw [dif_pos hworkers, dif_pos hinflight, dif_neg (by omega)]
  rfl

/-! ### The settings -/

/-- The files of TLS settings hold a server key and, if clients must present certificates,
authorities and revocation lists that chains can be validated against. -/
structure TlsConfig.IsAccepted (files : FileTree) (c : TlsConfig) : Prop where
  server : ∃ k, TransportSettings.loadServerKey files c = .ok k
  clients : c.clientCertAuth = true → ∀ path, c.caCert = some path →
    ∃ lists authorities policy, TransportSettings.loadLists files c = .ok lists ∧
      Material.loadCertificates files path = .ok authorities ∧
      ChainPolicy.create authorities lists = .ok policy

theorem loadServerKey_eq_ok {files : FileTree} {c : TlsConfig} {chain : List Bytes}
    {key : PrivateKey} {k : SigningKey}
    (hchain : Material.loadCertificates files c.serverCert = .ok chain) (hne : chain ≠ [])
    (hread : Material.loadPrivateKey files c.serverKey = .ok key)
    (hkey : SigningKey.ofPrivateKey? .serving key = some k) :
    TransportSettings.loadServerKey files c = .ok ⟨chain, k⟩ := by
  have hempty : chain.isEmpty = false := by simpa using hne
  simp only [TransportSettings.loadServerKey, hchain, hread, Bind.bind, Except.bind,
    ServerKey.create, hempty, Bool.false_eq_true, if_false, hkey]

theorem TlsConfig.IsAccepted.loadPolicy {files : FileTree} {c : TlsConfig}
    (haccepted : c.IsAccepted files) (hvalid : c.validate = .ok ())
    (hauth : c.clientCertAuth = true) :
    ∃ policy, TransportSettings.loadPolicy files c = .ok policy := by
  obtain ⟨-, -, hca⟩ := c.validate_eq_ok_iff.mp hvalid
  obtain ⟨path, hpath, -⟩ := hca hauth
  obtain ⟨lists, authorities, policy, hlists, hauthorities, hpolicy⟩ :=
    haccepted.clients hauth path hpath
  refine ⟨policy, ?_⟩
  simp only [TransportSettings.loadPolicy, hpath, hlists, hauthorities, Bind.bind, Except.bind,
    hpolicy]

theorem TransportDraft.build_of_complete (d : TransportDraft) {key : ServerKey}
    (hkey : d.serverKey = some key) (hscheme : Text.isBlank d.scheme = false)
    (hhost : Text.isBlank d.host = false) (htimeout : d.handshakeTimeout.isZero = false) :
    ∃ s, d.build = .ok s := by
  simp only [build, hkey, hscheme, hhost, htimeout, Bool.or_self, Bool.false_eq_true, if_false]
  exact ⟨_, rfl⟩

theorem loadClientAuth_of_validate {files : FileTree} {c : Config} (h : c.validate = .ok ())
    (haccepted : c.tls.IsAccepted files) :
    (∃ clientAuth, TransportSettings.loadClientAuth files c = .ok clientAuth ∧
        (c.tls.clientCertAuth = true → c.auth.maxInflight.toNat ≤ maxPermits)) ∨
      (TransportSettings.loadClientAuth files c = .error .tooManyPermits ∧
        c.tls.clientCertAuth = true ∧ maxPermits < c.auth.maxInflight.toNat) := by
  obtain ⟨-, htls, hauth⟩ := c.validate_eq_ok_iff.mp h
  unfold TransportSettings.loadClientAuth
  cases hclients : c.tls.clientCertAuth with
  | false => exact .inl ⟨none, rfl, fun h => nomatch h⟩
  | true =>
    obtain ⟨policy, hpolicy⟩ := haccepted.loadPolicy htls hclients
    by_cases hle : c.auth.maxInflight.toNat ≤ maxPermits
    · obtain ⟨limits, hlimits⟩ := bridgeLimits_of_le hauth hle
      refine .inl ⟨some ⟨c.auth.hubName, policy, limits⟩, ?_, fun _ => hle⟩
      simp only [hpolicy, hlimits, if_true]
      rfl
    · have hlimits := bridgeLimits_of_gt hauth (Nat.lt_of_not_le hle)
      refine .inr ⟨?_, rfl, Nat.lt_of_not_le hle⟩
      simp only [hpolicy, hlimits, if_true]
      rfl

/-! ### The gateway -/

theorem Gateway.ofConfig_of_clientAuth {files : FileTree} {c : Config}
    (hvalid : c.validate = .ok ()) (haccepted : c.tls.IsAccepted files)
    {clientAuth : Option ClientAuth}
    (hload : TransportSettings.loadClientAuth files c = .ok clientAuth) :
    ∃ g, Gateway.ofConfig files c = .ok g := by
  obtain ⟨hlistener, -, hauth⟩ := c.validate_eq_ok_iff.mp hvalid
  obtain ⟨hscheme, hhost, -, htimeout⟩ := c.listener.validate_eq_ok_iff.mp hlistener
  obtain ⟨-, -, -, -, hauthority⟩ := c.auth.validate_eq_ok_iff.mp hauth
  obtain ⟨authority, hmade⟩ := Authority.ofConfig_of_validate hauthority
  obtain ⟨key, hkey⟩ := haccepted.server
  obtain ⟨settings, hbuild⟩ := TransportDraft.build_of_complete
    ⟨_, _, c.listener.port, _, some key, clientAuth⟩ rfl hscheme hhost htimeout
  refine ⟨⟨authority, settings⟩, ?_⟩
  simp only [Gateway.ofConfig, TransportSettings.ofConfig, hvalid, hmade, hkey, hload, hbuild,
    mapError_ok, Bind.bind, Except.bind]

theorem Gateway.ofConfig_of_crash {files : FileTree} {c : Config} (hvalid : c.validate = .ok ())
    (haccepted : c.tls.IsAccepted files) {fault : BridgeStartFault}
    (hload : TransportSettings.loadClientAuth files c = .error fault) :
    Gateway.ofConfig files c = .error fault := by
  obtain ⟨-, -, hauth⟩ := c.validate_eq_ok_iff.mp hvalid
  obtain ⟨-, -, -, -, hauthority⟩ := c.auth.validate_eq_ok_iff.mp hauth
  obtain ⟨authority, hmade⟩ := Authority.ofConfig_of_validate hauthority
  obtain ⟨key, hkey⟩ := haccepted.server
  simp only [Gateway.ofConfig, TransportSettings.ofConfig, hvalid, hmade, hkey, hload,
    mapError_ok, Bind.bind, Except.bind]

/-- A valid configuration of accepted material makes a gateway exactly if its bridge needs no more
permits than there can be; otherwise the start crashes. -/
theorem Gateway.starts_iff (files : FileTree) (c : Config) (hvalid : c.validate = .ok ())
    (haccepted : c.tls.IsAccepted files) :
    ((∃ g, Gateway.ofConfig files c = .ok g) ↔
        (c.tls.clientCertAuth = true → c.auth.maxInflight.toNat ≤ maxPermits)) ∧
      ∀ fault, Gateway.ofConfig files c = .error fault → fault = .tooManyPermits := by
  rcases loadClientAuth_of_validate hvalid haccepted with
    ⟨clientAuth, hload, hle⟩ | ⟨hload, hclients, hgt⟩
  · obtain ⟨g, hstart⟩ := Gateway.ofConfig_of_clientAuth hvalid haccepted hload
    refine ⟨⟨fun _ => hle, fun _ => ⟨g, hstart⟩⟩, ?_⟩
    intro fault hfault
    rw [hstart] at hfault
    cases hfault
  · have hstart := Gateway.ofConfig_of_crash hvalid haccepted hload
    refine ⟨⟨?_, ?_⟩, ?_⟩
    · rintro ⟨g, hg⟩
      rw [hstart] at hg
      cases hg
    · intro hle
      have hcount := hle hclients
      omega
    · intro fault hfault
      rw [hstart] at hfault
      cases hfault
      rfl

namespace Gateway

/-! ### A small gateway -/

def sampleAuthority : Bytes :=
  Certificate.encode {
    fields := {
      serial := [1]
      algorithm := ⟨[0x2A, 0x86, 0x48, 0xCE, 0x3D, 0x04, 0x03, 0x02], []⟩
      issuer := [[.ofText Certificate.commonName "ca"]]
      notBefore := ⟨⟨2024, 1, 1⟩, 0, 0, 0⟩
      notAfter := ⟨⟨2034, 1, 1⟩, 0, 0, 0⟩
      subject := [[.ofText Certificate.commonName "ca"]]
      publicKey := ⟨⟨[0x2A, 0x86, 0x48, 0xCE, 0x3D, 0x02, 0x01], []⟩, .ofOctets [4, 1, 2]⟩ }
    algorithm := ⟨[0x2A, 0x86, 0x48, 0xCE, 0x3D, 0x04, 0x03, 0x02], []⟩
    signature := .ofOctets [0x30, 0x00] }

/-- A curve key without its public half, of the smallest secret. -/
def sampleKey : Bytes :=
  Der.writeSequence (Der.writeNatural 1 ++ Der.writeOctetString (List.replicate 31 0 ++ [1]))

def sampleFiles : FileTree := ⟨[
  (["ca.crt"], .file (Utf8.encodeText (Pem.Section.mk .certificate sampleAuthority).text)),
  (["server.crt"], .file (Utf8.encodeText (Pem.Section.mk .certificate sampleAuthority).text)),
  (["server.key"], .file (Utf8.encodeText (Pem.Section.mk .ecKey sampleKey).text))]⟩

def sampleConfig (maxInflight : UInt64) : Config where
  listener := .default
  tls := ⟨"server.crt", "server.key", some "ca.crt", none, true⟩
  auth := { AuthConfig.default with hubName := "hub-a", maxInflight }

theorem sampleConfig_isAccepted (n : UInt64) : (sampleConfig n).tls.IsAccepted sampleFiles := by
  have hauthorities : Material.loadCertificates sampleFiles "ca.crt" = .ok [sampleAuthority] :=
    Material.loadCertificates_of_text rfl
  have hchain : Material.loadCertificates sampleFiles "server.crt" = .ok [sampleAuthority] :=
    Material.loadCertificates_of_text rfl
  have hread : Material.loadPrivateKey sampleFiles "server.key" = .ok ⟨.ec, sampleKey⟩ :=
    Material.loadPrivateKey_of_text rfl
  have hkey : SigningKey.ofPrivateKey? .serving ⟨.ec, sampleKey⟩ = some (.curve .p256 1) := by
    decide +kernel
  have hpolicy : (ChainPolicy.create [sampleAuthority] []).toOption.isSome = true := by
    decide +kernel
  obtain ⟨policy, hpolicy⟩ := Option.isSome_iff_exists.mp hpolicy
  constructor
  · exact ⟨_, loadServerKey_eq_ok hchain (List.cons_ne_nil _ _) hread hkey⟩
  · intro _ path hpath
    cases hpath
    exact ⟨[], [sampleAuthority], policy, rfl, hauthorities, eq_ok_of_toOption hpolicy⟩

/-- With the default number of permits the small gateway starts. -/
theorem starts_of_defaults :
    (sampleConfig 64).validate = .ok () ∧ (sampleConfig 64).tls.IsAccepted sampleFiles ∧
      ∃ g, Gateway.ofConfig sampleFiles (sampleConfig 64) = .ok g := by
  have hvalid : (sampleConfig 64).validate = .ok () := rfl
  have haccepted := sampleConfig_isAccepted 64
  have hstarts := starts_iff sampleFiles (sampleConfig 64) hvalid haccepted
  exact ⟨hvalid, haccepted, hstarts.1.mpr fun _ => by decide⟩

/-- With one permit more than there can be it is valid and crashes. -/
theorem valid_config_crashes :
    ¬ ∀ (files : FileTree) (c : Config), c.validate = .ok () → c.tls.IsAccepted files →
      ∃ g, Gateway.ofConfig files c = .ok g := by
  intro hclaim
  have hvalid : (sampleConfig 2305843009213693952).validate = .ok () := rfl
  have haccepted := sampleConfig_isAccepted 2305843009213693952
  obtain ⟨g, hg⟩ := hclaim sampleFiles (sampleConfig 2305843009213693952) hvalid haccepted
  rcases loadClientAuth_of_validate hvalid haccepted with ⟨_, -, hle⟩ | ⟨hload, -, -⟩
  · exact absurd (hle rfl) (by decide)
  · rw [ofConfig_of_crash hvalid haccepted hload] at hg
    cases hg

end Gateway
end DeviceGateway
