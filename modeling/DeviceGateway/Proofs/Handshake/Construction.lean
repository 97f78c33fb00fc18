import DeviceGateway.Proofs.Handshake.Decision
import DeviceGateway.Proofs.Handshake.Progress
import DeviceGateway.Proofs.Issuance.Names

/-!
# Building a credential cannot fail

What a certificate claims has no blanks around it and is never empty, so the factory of X.509
credentials has no reason to refuse an identity that the policy accepted. Only an explicit rejection
leaves a machine rejected for want of a credential, and every credential that a machine holds is
made of the chain as it was presented.
-/

namespace DeviceGateway

variable {σ : Type}

@[simp] theorem ClientIdentity.deviceId_ofIds (d : String) (m : Option String) :
    (ofIds d m).deviceId = d := by
  cases m <;> rfl

/-! ### Accepted identities -/

/-- Whether the names of an identity are bare. -/
structure ValidatedIdentity.IsBare (v : ValidatedIdentity) : Prop where
  device : Text.IsBare v.deviceId
  hosted : ∀ m, v.moduleId = some m → Text.IsBare m

namespace Certificate

theorem isBare_of_firstText {type : Bytes} {name : Name} {v : String}
    (h : firstText type name = some v) : Text.IsBare v := by
  obtain ⟨s, -, hs⟩ := Option.bind_eq_some_iff.mp h
  obtain ⟨rfl, hne⟩ := (nonBlank?_eq_some_iff_trim s v).mp hs
  exact Text.isBare_trim hne

/-- The names that any octets claim as a certificate are bare. -/
theorem isBare_of_identityOf (der : Bytes) :
    (∀ d, (identityOf der).deviceId = some d → Text.IsBare d) ∧
      ∀ m, (identityOf der).moduleId = some m → Text.IsBare m := by
  unfold identityOf
  cases readSubject? der with
  | none => exact ⟨nofun, nofun⟩
  | some subject => exact ⟨fun _ h => isBare_of_firstText h, fun _ h => isBare_of_firstText h⟩

end Certificate

theorem ValidatedIdentity.isBare_of_validate {leaf : Bytes} {hub : String} {v : ValidatedIdentity}
    (h : (Certificate.identityOf leaf).validate hub = .ok v) : v.IsBare := by
  obtain ⟨hdevice, hmodule, -⟩ := ClaimedIdentity.validate_eq_ok h
  obtain ⟨hdevices, hmodules⟩ := Certificate.isBare_of_identityOf leaf
  refine ⟨hdevices _ hdevice, ?_⟩
  intro m hm
  exact hmodules m (hmodule.trans hm)

theorem Text.isBlank_of_isBare {s : String} (h : IsBare s) : isBlank s = false := by
  obtain ⟨hne, hfirst, -⟩ := h
  rw [isBlank, List.all_eq_false]
  exact ⟨_, List.head_mem hne, by simp [hfirst]⟩

theorem x509Factory_of_isBare (hub : String) (chain : Chain) {v : ValidatedIdentity}
    (h : v.IsBare) :
    x509Factory hub (Machine.credentialRequest chain v) =
      .ok ⟨hub, .ofIds v.deviceId v.moduleId, "", .x509Certificate, chain.leaf, chain.toList⟩ := by
  have hdevice := Text.isBlank_of_isBare h.device
  have hmodule : v.moduleId.any Text.isBlank = false := by
    cases hm : v.moduleId with
    | none => rfl
    | some m => exact Text.isBlank_of_isBare (h.hosted m hm)
  simp only [x509Factory, Machine.credentialRequest, hdevice, hmodule, Chain.toList,
    List.isEmpty_cons, Bool.false_eq_true, if_false]

/-- A refusal by the policy is not one by the factory. -/
theorem ClaimedIdentity.validate_ne_credentialBuild (c : ClaimedIdentity) (hub text : String) :
    c.validate hub ≠ .error (.credentialBuild text) := by
  rw [← identify_eq_validate]
  unfold identify
  split
  · simp
  · simp
  · simp
  · simp
  · split <;> simp

def HandshakeState.credential? : HandshakeState → Option Credential
  | credentialBuilt c => some c
  | authenticated c => some c
  | _ => none

namespace Machine

def x509Context (hub factoryHub : String) (consult : Credential → σ → Delivery × σ) :
    AuthContext σ :=
  ⟨hub, x509Factory factoryHub, consult⟩

variable {hub factoryHub : String} {consult : Credential → σ → Delivery × σ}

/-! ### One operation -/

theorem decidedState_eq_rejected_iff (d : Except RejectReason Credential) (r : RejectReason) :
    decidedState d = .rejected r ↔ d = .error r := by
  cases d with
  | ok c => simp [decidedState]
  | error e => simp [decidedState]

theorem ruling_ne_credentialBuild (c : Credential) (answer : Except GatewayError Bool)
    (text : String) : ruling c answer ≠ .error (.credentialBuild text) := by
  cases answer with
  | error e => simp [ruling]
  | ok b => cases b <;> simp [ruling]

theorem captured_ne_credentialBuild (leaf : Option Bytes) (intermediates : List Bytes)
    (text : String) : captured leaf intermediates ≠ .rejected (.credentialBuild text) := by
  unfold captured
  cases leaf with
  | none => simp
  | some l =>
    simp only
    split <;> simp

theorem capture_ne_credentialBuild (m : Machine) (leaf : Option Bytes) (intermediates : List Bytes)
    (text : String) :
    (m.capture leaf intermediates).state ≠ .rejected (.credentialBuild text) := by
  by_cases hidle : m.state = .idle
  · rw [capture_of_idle m leaf intermediates hidle]
    exact captured_ne_credentialBuild leaf intermediates text
  · rw [capture_of_ne_idle m leaf intermediates hidle]
    simp

/-- Once the policy has accepted an identity, the next step builds its credential. -/
theorem advance_of_validated {m : Machine} {captures : List (Option Bytes × List Bytes)}
    {consulted : List Consultation} {chain : Chain} {v : ValidatedIdentity}
    (hbacked : Backed (x509Context hub factoryHub consult) captures consulted m.state)
    (hm : m.state = .validated chain v) (w : σ) :
    (m.advance (x509Context hub factoryHub consult) w).1.state =
      .credentialBuilt
        ⟨factoryHub, .ofIds v.deviceId v.moduleId, "", .x509Certificate, chain.leaf,
          chain.toList⟩ := by
  rw [hm] at hbacked
  have hbare := ValidatedIdentity.isBare_of_validate hbacked.2.2.1
  simp only [advance, hm, enter_state, built, x509Context,
    x509Factory_of_isBare factoryHub chain hbare]

theorem advance_credentialBuild {m : Machine} {captures : List (Option Bytes × List Bytes)}
    {consulted : List Consultation} {text : String}
    (hbacked : Backed (x509Context hub factoryHub consult) captures consulted m.state) {w : σ}
    (h : (m.advance (x509Context hub factoryHub consult) w).1.state =
      .rejected (.credentialBuild text)) : m.state = .rejected (.credentialBuild text) := by
  cases hm : m.state with
  | validated chain v =>
    rw [advance_of_validated hbacked hm] at h
    cases h
  | identityParsed chain claimed =>
    simp only [advance, hm, enter_state, judged] at h
    split at h
    · cases h
    · next r hr =>
      cases h
      exact (claimed.validate_ne_credentialBuild _ text hr).elim
  | credentialBuilt c =>
    simp only [advance, hm, enter_state, decided_eq_ruling, decidedState_eq_rejected_iff] at h
    exact (ruling_ne_credentialBuild _ _ text h).elim
  | rejected r =>
    simp only [advance, hm] at h
    exact h
  | _ =>
    simp only [advance, hm, enter_state] at h
    cases h

/-- No chain is refused by the factory. -/
theorem admission_ne_credentialBuild (hub factoryHub : String) (leaf : Option Bytes)
    (intermediates : List Bytes) (text : String) :
    admission hub (x509Factory factoryHub) leaf intermediates ≠ .error (.credentialBuild text) := by
  intro h
  unfold admission at h
  split at h
  · cases h
  · cases h
  · next b bs =>
    rw [identify_eq_validate, claimOf_eq_identityOf] at h
    cases hv : (Certificate.identityOf (b :: bs)).validate hub with
    | error r =>
      rw [hv] at h
      cases h
      exact ClaimedIdentity.validate_ne_credentialBuild _ hub text hv
    | ok v =>
      have hbare := ValidatedIdentity.isBare_of_validate hv
      have hbuilt := x509Factory_of_isBare factoryHub ⟨b :: bs, intermediates⟩ hbare
      simp only [credentialRequest, Chain.toList] at hbuilt
      simp only [hv, issue, hbuilt, Bind.bind, Except.bind] at h
      cases h

theorem run_ne_credentialBuild (m : Machine) (leaf : Option Bytes) (intermediates : List Bytes)
    (w : σ) (text : String) :
    (m.run (x509Context hub factoryHub consult) leaf intermediates w).1.state ≠
      .rejected (.credentialBuild text) := by
  by_cases hidle : m.state = .idle
  · rw [(run_concludes _ m leaf intermediates w hidle).1, Ne, decidedState_eq_rejected_iff]
    intro h
    change (admission hub (x509Factory factoryHub) leaf intermediates >>= _) = _ at h
    cases hadmitted : admission hub (x509Factory factoryHub) leaf intermediates with
    | error r =>
      rw [hadmitted] at h
      cases h
      exact admission_ne_credentialBuild hub factoryHub leaf intermediates text hadmitted
    | ok c =>
      rw [hadmitted] at h
      exact ruling_ne_credentialBuild c _ text h
  · rw [run_of_ne_idle _ m leaf intermediates w hidle]
    simp

/-! ### Many operations -/

/-- Whether an operation, after others, leaves a machine rejected for want of a credential. -/
theorem apply_credentialBuild {s : Machine × σ} {captures : List (Option Bytes × List Bytes)}
    {consulted : List Consultation} {text : String} {op : Op}
    (hbacked : Backed (x509Context hub factoryHub consult) captures consulted s.1.state)
    (h : (apply (x509Context hub factoryHub consult) s op).1.state =
      .rejected (.credentialBuild text)) :
    op = .reject (.credentialBuild text) ∨
      op = .advance ∧ s.1.state = .rejected (.credentialBuild text) := by
  cases op with
  | capture leaf intermediates =>
    exact (capture_ne_credentialBuild s.1 leaf intermediates text h).elim
  | advance => exact .inr ⟨rfl, advance_credentialBuild hbacked h⟩
  | run leaf intermediates =>
    exact (run_ne_credentialBuild s.1 leaf intermediates s.2 text h).elim
  | reject reason =>
    simp only [apply, reject, enter_state] at h
    cases h
    exact .inl rfl

theorem applyAll_replicate_advance (ctx : AuthContext σ) (s : Machine × σ) (n : Nat)
    (h : s.1.state.isTerminal = true) :
    applyAll ctx s (List.replicate n .advance) = s := by
  induction n with
  | zero => rfl
  | succ n ih =>
    have hstep : apply ctx s .advance = s := advance_of_terminal ctx s.1 s.2 h
    rw [List.replicate_succ, applyAll, List.foldl_cons, hstep]
    exact ih

/-- A machine is rejected for want of a credential exactly if it was told so, and nothing but
advances came after that. -/
theorem rejected_credentialBuild_iff (hub factoryHub : String)
    (consult : Credential → σ → Delivery × σ) (w : σ) (ops : List Op) (text : String) :
    (applyAll (x509Context hub factoryHub consult) (.fresh, w) ops).1.state =
        .rejected (.credentialBuild text) ↔
      ∃ before n, ops = before ++ .reject (.credentialBuild text) :: List.replicate n .advance := by
  constructor
  · -- from the last operation back: the state before it is rejected as well, or it is the rejection
    induction ops using List.reverseRecOn with
    | nil =>
      intro h
      cases h
    | append_singleton ops op ih =>
      intro h
      have hbacked := fresh_applyAll_backed (x509Context hub factoryHub consult) w ops
      rw [applyAll_append] at h
      rcases apply_credentialBuild hbacked h with rfl | ⟨rfl, hearlier⟩
      · exact ⟨ops, 0, rfl⟩
      · obtain ⟨before, n, rfl⟩ := ih hearlier
        refine ⟨before, n + 1, ?_⟩
        rw [List.replicate_succ', List.append_assoc, List.cons_append]
  · rintro ⟨before, n, rfl⟩
    set ctx := x509Context hub factoryHub consult
    let rejected := apply ctx (applyAll ctx (.fresh, w) before) (.reject (.credentialBuild text))
    have hlast : applyAll ctx rejected (List.replicate n .advance) = rejected :=
      applyAll_replicate_advance ctx rejected n rfl
    rw [applyAll_append]
    change (applyAll ctx rejected (List.replicate n .advance)).1.state = _
    rw [hlast]
    rfl

/-! ### Credentials that a machine holds -/

theorem made_of_credential? {state : HandshakeState} {c : Credential}
    {captures : List (Option Bytes × List Bytes)} {consulted : List Consultation}
    {ctx : AuthContext σ} (hbacked : Backed ctx captures consulted state)
    (h : state.credential? = some c) :
    ∃ leaf intermediates v, captures = [(some leaf, intermediates)] ∧
      ctx.Makes leaf intermediates v c := by
  cases state with
  | credentialBuilt d =>
    cases h
    exact hbacked.1
  | authenticated d =>
    cases h
    exact hbacked.1
  | _ => cases h

/-- Whatever is done with a fresh machine whose factory is that of X.509 credentials: it is rejected
for want of a credential exactly if it was told so and only advances came after; an identity that
the policy accepted is given its credential by the next advance; and every credential that it holds
is made of the chain that was presented, the leaf first and then the intermediates in their order,
for the hub of the factory and with bare names. -/
theorem construction_never_fails (hub factoryHub : String)
    (consult : Credential → σ → Delivery × σ) (w : σ) (ops : List Op) :
    let ctx := x509Context hub factoryHub consult
    let m := (applyAll ctx (.fresh, w) ops).1
    (∀ text, m.state = .rejected (.credentialBuild text) ↔ ∃ before n,
      ops = before ++ .reject (.credentialBuild text) :: List.replicate n .advance) ∧
    (∀ chain v world, m.state = .validated chain v →
      ∃ c, (m.advance ctx world).1.state = .credentialBuilt c) ∧
    ∀ c, m.state.credential? = some c → ∃ leaf intermediates,
      idleCaptures ctx (.fresh, w) ops = [(some leaf, intermediates)] ∧
      c.chain.head? = some c.certificate ∧ c.chain = leaf :: intermediates ∧
      c.thumbprint = Bytes.toHexUpper (Sha256.digest leaf) ∧ c.hubName = factoryHub ∧
      Text.IsBare c.identity.deviceId ∧
      ∀ name, c.identity.moduleId = some name → Text.IsBare name := by
  intro ctx m
  have hbacked := fresh_applyAll_backed ctx w ops
  refine ⟨rejected_credentialBuild_iff hub factoryHub consult w ops, ?_, ?_⟩
  · intro chain v world hm
    exact ⟨_, advance_of_validated hbacked hm world⟩
  · intro c hc
    obtain ⟨leaf, intermediates, v, hcaptures, hmade⟩ := made_of_credential? hbacked hc
    have hbare := ValidatedIdentity.isBare_of_validate hmade.accepted
    obtain rfl := x509Factory_eq_ok hmade.built
    refine ⟨leaf, intermediates, hcaptures, rfl, rfl, rfl, rfl, ?_, ?_⟩
    · rw [ClientIdentity.deviceId_ofIds]
      exact hbare.device
    · rw [ClientIdentity.moduleId_ofIds]
      exact hbare.hosted

end Machine
end DeviceGateway
