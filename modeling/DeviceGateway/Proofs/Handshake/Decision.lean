import DeviceGateway.Proofs.Handshake.Consultation

/-!
# What a run decides

The written policy as one decision: the first rule that a chain breaks refuses it, and the authority
has the last word. A run of an idle machine comes to that decision and has the authority asked only
about a chain that broke no rule; a run of any other machine is out of order.
-/

namespace DeviceGateway

/-! ### The written policy -/

/-- What a leaf claims; one that cannot be read claims nothing. -/
def claimOf (leaf : Bytes) : ClaimedIdentity :=
  match Certificate.readSubject? leaf with
  | some subject => Certificate.claimedIdentity subject
  | none => ⟨none, none, none⟩

/-- The table of the policy for a claim. -/
def identify (hub : String) (claim : ClaimedIdentity) : Except RejectReason ValidatedIdentity :=
  match claim.deviceId, claim.moduleId, claim.hubName with
  | none, none, _ => .error .missingDeviceId
  | none, some m, _ => .error (.moduleWithoutDevice m)
  | some d, none, _ => .ok ⟨d, none⟩
  | some d, some m, none => .ok ⟨d, some m⟩
  | some d, some m, some h =>
    if Text.sameIgnoringCase h hub then .ok ⟨d, some m⟩ else .error (.hubNameMismatch hub h)

/-- The credential that the factory builds for an accepted identity and its chain. -/
def issue (factory : CredentialFactory) (leaf : Bytes) (intermediates : List Bytes)
    (v : ValidatedIdentity) : Except RejectReason Credential :=
  match factory ⟨v.deviceId, v.moduleId, "", leaf, leaf :: intermediates⟩ with
  | .ok c => .ok c
  | .error e => .error (.credentialBuild e.message)

/-- The credential that a presented chain is admitted with, or the first rule that it breaks. -/
def admission (hub : String) (factory : CredentialFactory) (leaf : Option Bytes)
    (intermediates : List Bytes) : Except RejectReason Credential :=
  match leaf with
  | none => .error .noCertificate
  | some [] => .error .noCertificate
  | some (b :: bs) => do
    let v ← identify hub (claimOf (b :: bs))
    issue factory (b :: bs) intermediates v

/-- The authority's word on an admitted credential. -/
def ruling (c : Credential) : Except GatewayError Bool → Except RejectReason Credential
  | .ok true => .ok c
  | .ok false => .error .authenticatorDenied
  | .error e => .error (.authenticatorFault e.message)

/-- The decision on a presented chain, given what comes back about each credential. -/
def decision (hub : String) (factory : CredentialFactory)
    (answer : Credential → Except GatewayError Bool) (leaf : Option Bytes)
    (intermediates : List Bytes) : Except RejectReason Credential := do
  let c ← admission hub factory leaf intermediates
  ruling c (answer c)

/-- The state in which a decision leaves a machine. -/
def decidedState : Except RejectReason Credential → HandshakeState
  | .ok c => .authenticated c
  | .error r => .rejected r

theorem claimOf_eq_identityOf (leaf : Bytes) : claimOf leaf = Certificate.identityOf leaf := rfl

theorem identify_eq_validate (hub : String) (claim : ClaimedIdentity) :
    identify hub claim = claim.validate hub := by
  obtain ⟨hubName, deviceId, moduleId⟩ := claim
  cases deviceId with
  | none => cases moduleId <;> rfl
  | some d =>
    cases moduleId with
    | none => rfl
    | some m =>
      cases hubName with
      | none => rfl
      | some h =>
        simp only [identify, ClaimedIdentity.validate, ClaimedIdentity.foreignHub]
        split <;> rfl

/-- The letter case of a hub name does not matter. -/
example : identify "hub.example" ⟨some "Hub.Example", some "pump", some "meter"⟩ =
    .ok ⟨"pump", some "meter"⟩ := rfl

namespace Machine

variable {σ : Type}

/-! ### A run, stage by stage -/

theorem advance_of_terminal (ctx : AuthContext σ) (m : Machine) (w : σ)
    (h : m.state.isTerminal = true) : m.advance ctx w = (m, w) := by
  unfold advance
  cases hs : m.state with
  | authenticated c => rfl
  | rejected r => rfl
  | _ => simp [hs, HandshakeState.isTerminal] at h

theorem settle_of_terminal (ctx : AuthContext σ) (n : Nat) (m : Machine) (w : σ)
    (h : m.state.isTerminal = true) : settle ctx n m w = (m, w) := by
  cases n with
  | zero => rfl
  | succ n => simp only [settle, h, if_true]

theorem settle_succ (ctx : AuthContext σ) (n : Nat) (m : Machine) (w : σ)
    (h : m.state.isTerminal = false) :
    settle ctx (n + 1) m w = settle ctx n (m.advance ctx w).1 (m.advance ctx w).2 := by
  simp only [settle, h, Bool.false_eq_true, if_false]

/-- Once the end is reached, more steps change nothing. -/
theorem settle_add (ctx : AuthContext σ) (n k : Nat) (m : Machine) (w : σ)
    (h : (settle ctx n m w).1.state.isTerminal = true) :
    settle ctx (n + k) m w = settle ctx n m w := by
  induction n generalizing m w with
  | zero =>
    rw [Nat.zero_add]
    exact settle_of_terminal ctx k m w h
  | succ n ih =>
    cases hm : m.state.isTerminal with
    | true => rw [settle_of_terminal ctx _ m w hm, settle_of_terminal ctx _ m w hm]
    | false =>
      rw [settle_succ ctx n m w hm] at h ⊢
      rw [Nat.succ_add, settle_succ ctx (n + k) m w hm]
      exact ih _ _ h

theorem decidedState_isTerminal (d : Except RejectReason Credential) :
    (decidedState d).isTerminal = true := by
  cases d <;> rfl

theorem decidedState_isAuthenticated (d : Except RejectReason Credential) :
    (decidedState d).isAuthenticated = true ↔ ∃ c, d = .ok c := by
  cases d with
  | ok c => simp [decidedState, HandshakeState.isAuthenticated]
  | error r => simp [decidedState, HandshakeState.isAuthenticated]

theorem ruling_eq_ok_iff (c d : Credential) (answer : Except GatewayError Bool) :
    ruling c answer = .ok d ↔ c = d ∧ answer = .ok true := by
  cases answer with
  | error e => simp [ruling]
  | ok b => cases b <;> simp [ruling]

theorem decided_eq_ruling (c : Credential) (answer : Except GatewayError Bool) :
    decided c answer = decidedState (ruling c answer) := by
  cases answer with
  | error e => rfl
  | ok b => cases b <;> rfl

/-- The world once the authority has been asked about whom a chain admits, if it admits anyone. -/
def worldAfter (ctx : AuthContext σ) (w : σ) : Except RejectReason Credential → σ
  | .ok c => (ctx.consult c w).2
  | .error _ => w

/-- A machine goes on to what is decided on an admission. -/
def Concludes (ctx : AuthContext σ) (n : Nat) (m : Machine) (w : σ)
    (admitted : Except RejectReason Credential) : Prop :=
  (settle ctx n m w).1.state =
      decidedState (do let c ← admitted; ruling c (ctx.consult c w).1.result) ∧
    (settle ctx n m w).2 = worldAfter ctx w admitted

theorem concludes_of_rejected (ctx : AuthContext σ) (n : Nat) (m : Machine) (w : σ)
    (r : RejectReason) (h : m.state = .rejected r) : Concludes ctx n m w (.error r) := by
  have hsettle := settle_of_terminal ctx n m w (by rw [h]; rfl)
  exact ⟨by rw [hsettle]; exact h, by rw [hsettle]; rfl⟩

theorem concludes_of_step (ctx : AuthContext σ) (n : Nat) (m next : Machine) (w : σ)
    (admitted : Except RejectReason Credential) (h : m.state.isTerminal = false)
    (hstep : m.advance ctx w = (next, w)) (hnext : Concludes ctx n next w admitted) :
    Concludes ctx (n + 1) m w admitted := by
  unfold Concludes
  rw [settle_succ ctx n m w h, hstep]
  exact hnext

theorem concludes_of_credentialBuilt (ctx : AuthContext σ) (m : Machine) (w : σ) (c : Credential)
    (h : m.state = .credentialBuilt c) : Concludes ctx 1 m w (.ok c) := by
  have hsettle := settle_succ ctx 0 m w (by rw [h]; rfl)
  unfold Concludes
  rw [hsettle]
  simp only [settle, advance, h, enter_state, decided_eq_ruling]
  exact ⟨rfl, rfl⟩

theorem concludes_of_validated (ctx : AuthContext σ) (m : Machine) (w : σ) (chain : Chain)
    (v : ValidatedIdentity) (h : m.state = .validated chain v) :
    Concludes ctx 2 m w (issue ctx.factory chain.leaf chain.intermediates v) := by
  have hstep : m.advance ctx w = (m.enter (built ctx.factory chain v), w) := by
    simp only [advance, h]
  refine concludes_of_step ctx 1 m _ w _ (by rw [h]; rfl) hstep ?_
  unfold built issue
  change Concludes _ _ _ _ (match ctx.factory (credentialRequest chain v) with
    | .ok c => .ok c
    | .error e => .error (.credentialBuild e.message))
  cases ctx.factory (credentialRequest chain v) with
  | ok c => exact concludes_of_credentialBuilt ctx _ w c rfl
  | error e => exact concludes_of_rejected ctx 1 _ w _ rfl

theorem concludes_of_identityParsed (ctx : AuthContext σ) (m : Machine) (w : σ) (chain : Chain)
    (claimed : ClaimedIdentity) (h : m.state = .identityParsed chain claimed) :
    Concludes ctx 3 m w (do
      let v ← identify ctx.hubName claimed
      issue ctx.factory chain.leaf chain.intermediates v) := by
  have hstep : m.advance ctx w = (m.enter (judged ctx.hubName chain claimed), w) := by
    simp only [advance, h]
  refine concludes_of_step ctx 2 m _ w _ (by rw [h]; rfl) hstep ?_
  unfold judged
  rw [identify_eq_validate]
  cases claimed.validate ctx.hubName with
  | ok v => exact concludes_of_validated ctx _ w chain v rfl
  | error r => exact concludes_of_rejected ctx 2 _ w r rfl

theorem concludes_of_chainCaptured (ctx : AuthContext σ) (m : Machine) (w : σ) (chain : Chain)
    (h : m.state = .chainCaptured chain) :
    Concludes ctx 4 m w (do
      let v ← identify ctx.hubName (claimOf chain.leaf)
      issue ctx.factory chain.leaf chain.intermediates v) := by
  have hstep : m.advance ctx w = ((m.note (parseLog chain.leaf)).enter
      (.identityParsed chain (Certificate.identityOf chain.leaf)), w) := by
    simp only [advance, h]
  refine concludes_of_step ctx 3 m _ w _ (by rw [h]; rfl) hstep ?_
  rw [claimOf_eq_identityOf]
  exact concludes_of_identityParsed ctx _ w chain _ rfl

/-- A run of an idle machine comes to the decision on what it is given. -/
theorem run_concludes (ctx : AuthContext σ) (m : Machine) (leaf : Option Bytes)
    (intermediates : List Bytes) (w : σ) (h : m.state = .idle) :
    (m.run ctx leaf intermediates w).1.state = decidedState (decision ctx.hubName ctx.factory
        (fun c => (ctx.consult c w).1.result) leaf intermediates) ∧
      (m.run ctx leaf intermediates w).2 =
        worldAfter ctx w (admission ctx.hubName ctx.factory leaf intermediates) := by
  unfold run
  rw [capture_of_idle m leaf intermediates h]
  cases leaf with
  | none => exact concludes_of_rejected ctx _ _ w .noCertificate rfl
  | some l =>
    cases l with
    | nil => exact concludes_of_rejected ctx _ _ w .noCertificate rfl
    | cons b bs => exact concludes_of_chainCaptured ctx _ w ⟨b :: bs, intermediates⟩ rfl

/-- A run of any other machine is out of order and asks nobody. -/
theorem run_of_ne_idle (ctx : AuthContext σ) (m : Machine) (leaf : Option Bytes)
    (intermediates : List Bytes) (w : σ) (h : m.state ≠ .idle) :
    m.run ctx leaf intermediates w = (m.enter (.rejected .outOfOrder), w) := by
  unfold run
  rw [capture_of_ne_idle m leaf intermediates h]
  exact settle_of_terminal ctx _ _ w rfl

theorem run_isTerminal (ctx : AuthContext σ) (m : Machine) (leaf : Option Bytes)
    (intermediates : List Bytes) (w : σ) :
    (m.run ctx leaf intermediates w).1.state.isTerminal = true := by
  by_cases hidle : m.state = .idle
  · rw [(run_concludes ctx m leaf intermediates w hidle).1]
    exact decidedState_isTerminal _
  · rw [run_of_ne_idle ctx m leaf intermediates w hidle]
    rfl

/-! ### Whom the authority is asked about -/

/-- What comes back about a credential over a bridge: the end of the authority's work if the call
gets a permit, and else the passing of its deadline. -/
def bridged (traffic : Credential → BridgedWorld σ → Traffic (Except GatewayError Bool))
    (deadline : Duration) (ask : Credential → σ → AuthorityEnd × σ) (w : BridgedWorld σ)
    (c : Credential) : Except GatewayError Bool :=
  if w.pool.permits deadline (traffic c w) then (ask c w.authority).1.result deadline
  else .error (.authenticationTimeout deadline)

theorem consultAmid_result
    (traffic : Credential → BridgedWorld σ → Traffic (Except GatewayError Bool))
    (deadline : Duration) (ask : Credential → σ → AuthorityEnd × σ) (w : BridgedWorld σ)
    (c : Credential) :
    (consultAmid traffic deadline ask c w).1.result = bridged traffic deadline ask w c := by
  rw [consultAmid_delivery]
  unfold bridged
  split <;> rfl

/-- Whom a run has an authority asked about that keeps it. -/
theorem run_recordingAsk (hub : String) (factory : CredentialFactory)
    (traffic : Credential → BridgedWorld σ → Traffic (Except GatewayError Bool))
    (deadline : Duration) (ask : Credential → σ → AuthorityEnd × σ) (m : Machine)
    (leaf : Option Bytes) (intermediates : List Bytes) (v : BridgedWorld (σ × List Credential)) :
    let kept := m.run ⟨hub, factory,
      consultAmid (fun c v => traffic c v.unrecorded) deadline (recordingAsk ask)⟩
      leaf intermediates v
    (kept.1, kept.2.unrecorded) =
      m.run ⟨hub, factory, consultAmid traffic deadline ask⟩ leaf intermediates v.unrecorded ∧
    kept.2.authority.2 = v.authority.2 ++
      (if m.state = .idle then
        match admission hub factory leaf intermediates with
        | .ok c => if v.pool.permits deadline (traffic c v.unrecorded) then [c] else []
        | .error _ => []
      else []) := by
  intro kept
  have hconsult := consultAmid_recordingAsk traffic deadline ask
  have hover : AuthContext.Over
      ⟨hub, factory, consultAmid (fun c v => traffic c v.unrecorded) deadline (recordingAsk ask)⟩
      BridgedWorld.unrecorded ⟨hub, factory, consultAmid traffic deadline ask⟩ :=
    ⟨rfl, rfl, fun c v => (hconsult c v).1⟩
  refine ⟨run_over hover m leaf intermediates v, ?_⟩
  split
  · next h =>
    rw [show kept.2 = _ from (run_concludes _ m leaf intermediates v h).2]
    cases hadmitted : admission hub factory leaf intermediates with
    | error r => exact (List.append_nil _).symm
    | ok c => exact (hconsult c v).2
  · next h =>
    rw [show kept = _ from run_of_ne_idle _ m leaf intermediates v h, List.append_nil]

theorem run_state (hub : String) (factory : CredentialFactory)
    (traffic : Credential → BridgedWorld σ → Traffic (Except GatewayError Bool))
    (deadline : Duration) (ask : Credential → σ → AuthorityEnd × σ) (m : Machine)
    (leaf : Option Bytes) (intermediates : List Bytes) (w : BridgedWorld σ) :
    (m.run ⟨hub, factory, consultAmid traffic deadline ask⟩ leaf intermediates w).1.state =
      if m.state = .idle then
        decidedState (decision hub factory (bridged traffic deadline ask w) leaf intermediates)
      else .rejected .outOfOrder := by
  split
  · next h =>
    rw [(run_concludes _ m leaf intermediates w h).1]
    have hresult : (fun c => (consultAmid traffic deadline ask c w).1.result) =
        bridged traffic deadline ask w :=
      funext (consultAmid_result traffic deadline ask w)
    rw [hresult]
  · next h => rw [run_of_ne_idle _ m leaf intermediates w h, enter_state]

theorem decision_eq_ok_iff (hub : String) (factory : CredentialFactory)
    (answer : Credential → Except GatewayError Bool) (leaf : Option Bytes)
    (intermediates : List Bytes) (c : Credential) :
    decision hub factory answer leaf intermediates = .ok c ↔
      admission hub factory leaf intermediates = .ok c ∧ answer c = .ok true := by
  unfold decision
  cases admission hub factory leaf intermediates with
  | error r => simp [bind, Except.bind]
  | ok d =>
    change ruling d (answer d) = .ok c ↔ _
    rw [ruling_eq_ok_iff]
    constructor
    · rintro ⟨rfl, ha⟩
      exact ⟨rfl, ha⟩
    · rintro ⟨hd, ha⟩
      cases hd
      exact ⟨rfl, ha⟩

/-- Over a bridge with any traffic, a run of an idle machine comes to the decision of the written
policy, and an authority that keeps whom it is asked about has been asked once about a credential
that broke no rule and whose call got a permit, and else not at all. A run of any other machine is
out of order and asks nobody. The machine is then at its end, where more steps change nothing, and
authenticated only if the authority said yes. -/
theorem run_eq_decision (hub : String) (factory : CredentialFactory)
    (traffic : Credential → BridgedWorld σ → Traffic (Except GatewayError Bool))
    (deadline : Duration) (ask : Credential → σ → AuthorityEnd × σ) (m : Machine)
    (leaf : Option Bytes) (intermediates : List Bytes) (w : BridgedWorld σ) :
    let ctx : AuthContext (BridgedWorld σ) := ⟨hub, factory, consultAmid traffic deadline ask⟩
    let captured := m.capture leaf intermediates
    let after := (m.run ctx leaf intermediates w).1
    let kept := m.run ⟨hub, factory,
      consultAmid (fun c v => traffic c v.unrecorded) deadline (recordingAsk ask)⟩
      leaf intermediates ⟨w.pool, (w.authority, [])⟩
    after.state =
      (if m.state = .idle then
        decidedState (decision hub factory (bridged traffic deadline ask w) leaf intermediates)
      else .rejected .outOfOrder) ∧
    after.state.isTerminal = true ∧
    (∀ k, settle ctx (captured.state.stepsLeft + k) captured w =
      m.run ctx leaf intermediates w) ∧
    (after.state.isAuthenticated = true ↔ m.state = .idle ∧
      ∃ c, admission hub factory leaf intermediates = .ok c ∧
        bridged traffic deadline ask w c = .ok true) ∧
    (kept.1, kept.2.unrecorded) = m.run ctx leaf intermediates w ∧
    kept.2.authority.2 =
      (if m.state = .idle then
        match admission hub factory leaf intermediates with
        | .ok c => if w.pool.permits deadline (traffic c w) then [c] else []
        | .error _ => []
      else []) := by
  intro ctx captured after kept
  have hstate := run_state hub factory traffic deadline ask m leaf intermediates w
  have hterminal := run_isTerminal ⟨hub, factory, consultAmid traffic deadline ask⟩ m leaf
    intermediates w
  refine ⟨hstate, hterminal, ?_, ?_, ?_⟩
  · intro k
    exact settle_add ctx _ k captured w hterminal
  · change (m.run ctx leaf intermediates w).1.state.isAuthenticated = true ↔ _
    rw [hstate]
    split
    · next h =>
      simp only [decidedState_isAuthenticated, decision_eq_ok_iff, h, true_and]
    · next h =>
      simp only [HandshakeState.isAuthenticated, h, false_and, Bool.false_eq_true]
  · exact run_recordingAsk hub factory traffic deadline ask m leaf intermediates
      ⟨w.pool, (w.authority, [])⟩

end Machine
end DeviceGateway
