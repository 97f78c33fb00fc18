import DeviceGateway.Proofs.Handshake.Consultation

/-!
# Where an authenticated credential comes from

Every state of a machine says something of its past: which chain was captured while the machine was
idle, what was made of it, and whom the authority was asked about. One step keeps this, hence so
does every sequence of operations, in whatever order they come.
-/

namespace DeviceGateway

variable {σ : Type}

/-- A credential that a context makes of a chain: the leaf claims an identity that the policy
accepts, and the factory builds the credential of it and of the chain, leaf first. -/
structure AuthContext.Makes (ctx : AuthContext σ) (leaf : Bytes) (intermediates : List Bytes)
    (v : ValidatedIdentity) (c : Credential) : Prop where
  leaf_ne_nil : leaf ≠ []
  accepted : (Certificate.identityOf leaf).validate ctx.hubName = .ok v
  built : ctx.factory ⟨v.deviceId, v.moduleId, "", leaf, leaf :: intermediates⟩ = .ok c

namespace Machine

/-- The chain that an operation presents, if it captures one. -/
def Op.presented? : Op → Option (Option Bytes × List Bytes)
  | capture leaf intermediates => some (leaf, intermediates)
  | run leaf intermediates => some (leaf, intermediates)
  | _ => none

/-- The chains that an operation presents to a machine that is idle. -/
def captureInIdle (m : Machine) (op : Op) : List (Option Bytes × List Bytes) :=
  if m.state = .idle then op.presented?.toList else []

/-- The chains that operations present to a machine while it is idle. -/
def idleCaptures (ctx : AuthContext σ) : Machine × σ → List Op → List (Option Bytes × List Bytes)
  | _, [] => []
  | s, op :: ops => captureInIdle s.1 op ++ idleCaptures ctx (apply ctx s op) ops

/-! ### What a state says of the past -/

/-- What a state says of the chains captured while idle and of the consultations. -/
def Backed (ctx : AuthContext σ) (captures : List (Option Bytes × List Bytes))
    (consulted : List Consultation) : HandshakeState → Prop
  | .idle => captures = [] ∧ consulted = []
  | .chainCaptured chain =>
    captures = [(some chain.leaf, chain.intermediates)] ∧ chain.leaf ≠ [] ∧ consulted = []
  | .identityParsed chain claimed =>
    captures = [(some chain.leaf, chain.intermediates)] ∧ chain.leaf ≠ [] ∧
      claimed = Certificate.identityOf chain.leaf ∧ consulted = []
  | .validated chain v =>
    captures = [(some chain.leaf, chain.intermediates)] ∧ chain.leaf ≠ [] ∧
      (Certificate.identityOf chain.leaf).validate ctx.hubName = .ok v ∧ consulted = []
  | .credentialBuilt c =>
    (∃ leaf intermediates v, captures = [(some leaf, intermediates)] ∧
      ctx.Makes leaf intermediates v c) ∧ consulted = []
  | .authenticating => False
  | .authenticated c =>
    (∃ leaf intermediates v, captures = [(some leaf, intermediates)] ∧
      ctx.Makes leaf intermediates v c) ∧ consulted = [⟨c, .heard (.ok true)⟩]
  | .rejected _ => consulted.length ≤ 1

variable {ctx : AuthContext σ} {captures : List (Option Bytes × List Bytes)}
  {consulted : List Consultation}

theorem Backed.length_le {state : HandshakeState} (h : Backed ctx captures consulted state) :
    consulted.length ≤ 1 := by
  cases state with
  | idle => simp [h.2]
  | chainCaptured chain => simp [h.2.2]
  | identityParsed chain claimed => simp [h.2.2.2]
  | validated chain v => simp [h.2.2.2]
  | credentialBuilt c => simp [h.2]
  | authenticating => exact h.elim
  | authenticated c => simp [h.2]
  | rejected r => exact h

/-! ### One step -/

theorem captured_backed (leaf : Option Bytes) (intermediates : List Bytes) :
    Backed ctx [(leaf, intermediates)] [] (captured leaf intermediates) := by
  unfold captured
  cases leaf with
  | none => exact Nat.zero_le 1
  | some l =>
    simp only
    split
    · exact Nat.zero_le 1
    · next hl => exact ⟨rfl, by simpa using hl, rfl⟩

theorem capture_backed (m : Machine) (leaf : Option Bytes) (intermediates : List Bytes)
    (h : Backed ctx captures consulted m.state) :
    Backed ctx (captures ++ captureInIdle m (.capture leaf intermediates)) consulted
      (m.capture leaf intermediates).state := by
  by_cases hi : m.state = .idle
  · rw [hi] at h
    obtain ⟨hcaptures, hconsulted⟩ := h
    rw [capture_of_idle m leaf intermediates hi, hcaptures, hconsulted]
    simp only [captureInIdle, hi, if_true, enter_state]
    exact captured_backed leaf intermediates
  · rw [capture_of_ne_idle m leaf intermediates hi]
    exact h.length_le

theorem judged_backed (chain : Chain)
    (hcaptures : captures = [(some chain.leaf, chain.intermediates)]) (hleaf : chain.leaf ≠ []) :
    Backed ctx captures [] (judged ctx.hubName chain (Certificate.identityOf chain.leaf)) := by
  unfold judged
  cases hv : (Certificate.identityOf chain.leaf).validate ctx.hubName with
  | ok v => exact ⟨hcaptures, hleaf, hv, rfl⟩
  | error r => exact Nat.zero_le 1

theorem built_backed (chain : Chain) (v : ValidatedIdentity)
    (hcaptures : captures = [(some chain.leaf, chain.intermediates)]) (hleaf : chain.leaf ≠ [])
    (hv : (Certificate.identityOf chain.leaf).validate ctx.hubName = .ok v) :
    Backed ctx captures [] (built ctx.factory chain v) := by
  unfold built
  cases hc : ctx.factory (credentialRequest chain v) with
  | ok c => exact ⟨⟨chain.leaf, chain.intermediates, v, hcaptures, ⟨hleaf, hv, hc⟩⟩, rfl⟩
  | error e => exact Nat.zero_le 1

theorem decided_backed (c : Credential) (delivery : Delivery)
    (hmade : ∃ leaf intermediates v, captures = [(some leaf, intermediates)] ∧
      ctx.Makes leaf intermediates v c) :
    Backed ctx captures [⟨c, delivery⟩] (decided c delivery.result) := by
  cases hr : delivery.result with
  | ok b =>
    have hd := (delivery.result_eq_ok_iff b).mp hr
    cases b with
    | true => exact ⟨hmade, by rw [hd]⟩
    | false => exact Nat.le_refl 1
  | error e => exact Nat.le_refl 1

theorem advance_backed (m : Machine) (w : σ × List Consultation)
    (h : Backed ctx captures w.2 m.state) :
    Backed ctx captures (m.advance ctx.recording w).2.2 (m.advance ctx.recording w).1.state := by
  unfold advance
  cases hs : m.state with
  | idle =>
    rw [hs] at h
    exact h.length_le
  | chainCaptured chain =>
    rw [hs] at h
    exact ⟨h.1, h.2.1, rfl, h.2.2⟩
  | identityParsed chain claimed =>
    rw [hs] at h
    obtain ⟨hcaptures, hleaf, hclaimed, hconsulted⟩ := h
    simp only [enter_state, hclaimed, hconsulted]
    exact judged_backed chain hcaptures hleaf
  | validated chain v =>
    rw [hs] at h
    obtain ⟨hcaptures, hleaf, hv, hconsulted⟩ := h
    simp only [enter_state, hconsulted]
    exact built_backed chain v hcaptures hleaf hv
  | credentialBuilt c =>
    rw [hs] at h
    obtain ⟨hmade, hconsulted⟩ := h
    simp only [AuthContext.recording, enter_state, hconsulted, List.nil_append]
    exact decided_backed c _ hmade
  | authenticating =>
    rw [hs] at h
    exact h.elim
  | authenticated c =>
    rw [hs] at h
    simpa only [hs] using h
  | rejected r =>
    rw [hs] at h
    simpa only [hs] using h

/-! ### Many steps -/

theorem settle_backed (n : Nat) (m : Machine) (w : σ × List Consultation)
    (h : Backed ctx captures w.2 m.state) :
    Backed ctx captures (settle ctx.recording n m w).2.2
      (settle ctx.recording n m w).1.state := by
  induction n generalizing m w with
  | zero => exact h
  | succ n ih =>
    simp only [settle]
    split
    · exact h
    · exact ih _ _ (advance_backed m w h)

theorem apply_backed (s : Machine × (σ × List Consultation)) (op : Op)
    (h : Backed ctx captures s.2.2 s.1.state) :
    Backed ctx (captures ++ captureInIdle s.1 op) (apply ctx.recording s op).2.2
      (apply ctx.recording s op).1.state := by
  cases op with
  | capture leaf intermediates => exact capture_backed s.1 leaf intermediates h
  | advance =>
    have hnone : captureInIdle s.1 .advance = [] := by simp [captureInIdle, Op.presented?]
    rw [hnone, List.append_nil]
    exact advance_backed s.1 s.2 h
  | run leaf intermediates =>
    exact settle_backed _ _ _ (capture_backed s.1 leaf intermediates h)
  | reject reason => exact h.length_le

theorem applyAll_backed (s : Machine × (σ × List Consultation)) (ops : List Op)
    (h : Backed ctx captures s.2.2 s.1.state) :
    Backed ctx (captures ++ idleCaptures ctx (unrecorded s) ops)
      (applyAll ctx.recording s ops).2.2 (applyAll ctx.recording s ops).1.state := by
  induction ops generalizing s captures with
  | nil => simpa [idleCaptures, applyAll] using h
  | cons op ops ih =>
    have hstep := apply_backed s op h
    have hrest := ih (apply ctx.recording s op) hstep
    rw [apply_recording, List.append_assoc] at hrest
    exact hrest

/-- The state of a fresh machine after any operations is backed by the chains captured while idle
and by the consultations. -/
theorem fresh_applyAll_backed (ctx : AuthContext σ) (w : σ) (ops : List Op) :
    Backed ctx (idleCaptures ctx (.fresh, w) ops) (consultations ctx w ops)
      (applyAll ctx (.fresh, w) ops).1.state := by
  have hfresh : Backed ctx [] [] (Machine.fresh).state := ⟨rfl, rfl⟩
  have hall := applyAll_backed (.fresh, (w, [])) ops hfresh
  have hsame := applyAll_recording ctx (.fresh, (w, [])) ops
  have hstate := congrArg (fun s : Machine × σ => s.1.state) hsame
  simp only [unrecorded] at hstate
  rw [hstate] at hall
  exact hall

/-- One run of a fresh machine: what it authenticates was made of the chain that the run took. -/
theorem fresh_run_authenticated (ctx : AuthContext σ) (leaf : Bytes) (intermediates : List Bytes)
    (w : σ) (c : Credential)
    (h : (fresh.run ctx (some leaf) intermediates w).1.state = .authenticated c) :
    (∃ v, ctx.Makes leaf intermediates v c) ∧
      (fresh.run ctx.recording (some leaf) intermediates (w, [])).2.2 =
        [⟨c, .heard (.ok true)⟩] := by
  have hsame := run_recording ctx .fresh (some leaf) intermediates (w, [])
  have hstate := congrArg (fun s : Machine × σ => s.1.state) hsame
  simp only [unrecorded, h] at hstate
  have hbacked : Backed ctx [(some leaf, intermediates)]
      (fresh.run ctx.recording (some leaf) intermediates (w, [])).2.2
      (fresh.run ctx.recording (some leaf) intermediates (w, [])).1.state :=
    settle_backed _ _ _ (captured_backed (some leaf) intermediates)
  rw [hstate] at hbacked
  obtain ⟨⟨l, i, v, hcaptures, hmade⟩, hconsulted⟩ := hbacked
  cases hcaptures
  exact ⟨⟨v, hmade⟩, hconsulted⟩

/-- However the operations on a fresh machine come, a credential that it authenticated was made of
the chain of the one capture in idle, and the authority was asked once, about it, and said yes. The
outcome hands out that credential then, and fails in all other states. -/
theorem authenticated_provenance (ctx : AuthContext σ) (w : σ) (ops : List Op) :
    let m := (applyAll ctx (.fresh, w) ops).1
    (∀ c, m.state = .authenticated c → ∃ leaf intermediates v,
      leaf ≠ [] ∧
      idleCaptures ctx (.fresh, w) ops = [(some leaf, intermediates)] ∧
      (Certificate.identityOf leaf).validate ctx.hubName = .ok v ∧
      ctx.factory ⟨v.deviceId, v.moduleId, "", leaf, leaf :: intermediates⟩ = .ok c ∧
      consultations ctx w ops = [⟨c, .heard (.ok true)⟩]) ∧
    (∀ c, m.outcome = .succeeded c ↔ m.state = .authenticated c) ∧
    (m.outcome = .failed ↔ ∀ c, m.state ≠ .authenticated c) := by
  intro m
  refine ⟨?_, m.outcome_eq_succeeded_iff, m.outcome_eq_failed_iff⟩
  intro c hc
  have hbacked := fresh_applyAll_backed ctx w ops
  rw [show (applyAll ctx (.fresh, w) ops).1.state = .authenticated c from hc] at hbacked
  obtain ⟨⟨leaf, intermediates, v, hcaptures, hmade⟩, hconsulted⟩ := hbacked
  exact ⟨leaf, intermediates, v, hmade.leaf_ne_nil, hcaptures, hmade.accepted, hmade.built,
    hconsulted⟩

end Machine
end DeviceGateway
