import DeviceGateway.Proofs.Transport.Acceptance
import DeviceGateway.Proofs.Transport.Overlap

/-!
# Whom a connection lets in

Whatever the order of the pieces of its calls, a connection has the authority asked once at most,
and a credential that is on its way to a principal is the one that was asked about and granted. One
step keeps this, hence so does every sequence of steps.
-/

namespace DeviceGateway

variable {σ : Type} {ctx : AuthContext σ}

/-! ### The credential of one call -/

theorem Machine.identity_eq_some_iff (m : Machine) (c : Credential) :
    m.outcome.identity = some c ↔ m.state = .authenticated c := by
  rw [← m.outcome_eq_succeeded_iff]
  cases m.outcome with
  | mk identity => simp [AuthenticationOutcome.succeeded]

namespace HookPhase

/-- The credential that a call will park unless the TLS library objects. -/
def carried? : HookPhase → Option Credential
  | validating m => m.outcome.identity
  | writing (.park m) _ => m.outcome.identity
  | _ => none

theorem reached_asked? (m : Machine) (c : Credential) :
    (reached m).asked? = some c ↔ m.state = .credentialBuilt c := by
  unfold reached
  cases hs : m.state with
  | credentialBuilt d => simp [asked?]
  | _ => simp [asked?]

theorem reached_carried? (m : Machine) (c : Credential) :
    (reached m).carried? = some c ↔ m.state = .authenticated c := by
  rw [← Machine.identity_eq_some_iff]
  unfold reached
  cases hs : m.state with
  | credentialBuilt d => simp [carried?, Machine.identity_eq_some_iff, hs]
  | _ => rfl

variable {s : VerifierSlot} {call : HookCall} {c : Credential}

/-- Only a validation that finds the machine goes on with it. -/
theorem start_phase (ctx : AuthContext σ) (s : VerifierSlot) (call : HookCall) :
    (∃ m leaf intermediates, s.machine = some m ∧ call = .verify leaf intermediates ∧
      (start ctx s call).1 = reached (m.prepare ctx leaf intermediates)) ∨
    ((start ctx s call).1.asked? = none ∧ (start ctx s call).1.carried? = none) := by
  cases call with
  | verify leaf intermediates =>
    cases hm : s.machine with
    | none => exact .inr (by simp [start, VerifierSlot.takeMachine, hm, asked?, carried?])
    | some m =>
      refine .inl ⟨m, leaf, intermediates, rfl, rfl, ?_⟩
      simp only [start, VerifierSlot.takeMachine, hm]
  | checkSignature version leaf => exact .inr ⟨rfl, rfl⟩

theorem start_asked? (h : (start ctx s call).1.asked? = some c) :
    ∃ m leaf intermediates, s.machine = some m ∧ call = .verify leaf intermediates ∧
      (m.prepare ctx leaf intermediates).state = .credentialBuilt c := by
  rcases start_phase ctx s call with ⟨m, leaf, intermediates, hm, hcall, hphase⟩ | ⟨hnone, -⟩
  · rw [hphase] at h
    exact ⟨m, leaf, intermediates, hm, hcall, (reached_asked? _ c).mp h⟩
  · rw [hnone] at h
    cases h

theorem start_carried? (h : (start ctx s call).1.carried? = some c) :
    ∃ m leaf intermediates, s.machine = some m ∧ call = .verify leaf intermediates ∧
      (m.prepare ctx leaf intermediates).state = .authenticated c := by
  rcases start_phase ctx s call with ⟨m, leaf, intermediates, hm, hcall, hphase⟩ | ⟨-, hnone⟩
  · rw [hphase] at h
    exact ⟨m, leaf, intermediates, hm, hcall, (reached_carried? _ c).mp h⟩
  · rw [hnone] at h
    cases h

@[simp] theorem start_outcome : (start ctx s call).2.outcome = s.outcome := by
  cases call with
  | verify leaf intermediates => cases hm : s.machine <;> simp [start, VerifierSlot.takeMachine, hm]
  | checkSignature version leaf => rfl

theorem start_machine {m : Machine} (h : (start ctx s call).2.machine = some m) :
    s.machine = some m ∧ (start ctx s call).1.asked? = none := by
  cases call with
  | verify leaf intermediates =>
    cases hm : s.machine <;> simp [start, VerifierSlot.takeMachine, hm] at h
  | checkSignature version leaf => exact ⟨h, rfl⟩

@[simp] theorem resume_machine (phase : HookPhase) (event : HookEvent) :
    (phase.resume s event).2.machine = s.machine := by
  cases phase with
  | writing write answer =>
    cases event with
    | written => cases write <;> rfl
    | _ => rfl
  | _ =>
    cases event with
    | judged judgement => cases judgement <;> rfl
    | _ => rfl

/-- No call begins to ask once it is under way. -/
theorem resume_asked? {phase : HookPhase} {event : HookEvent}
    (h : (phase.resume s event).1.asked? = some c) : phase.asked? = some c := by
  cases phase with
  | asking m d =>
    cases event with
    | answered answer =>
      -- told the answer, the machine is at its end
      have hbuilt := (reached_asked? _ c).mp h
      have hend := m.heed_isTerminal d answer
      simp [hbuilt, HandshakeState.isTerminal] at hend
    | _ => exact h
  | _ =>
    cases event with
    | judged judgement => cases judgement <;> cases h
    | _ => cases h

/-- A call carries a credential only after the authority said yes to it. -/
theorem resume_carried? {phase : HookPhase} {event : HookEvent}
    (h : (phase.resume s event).1.carried? = some c) :
    phase.carried? = some c ∨ phase.asked? = some c ∧ event = .answered (.ok true) := by
  cases phase with
  | asking m d =>
    cases event with
    | answered answer =>
      have hstate := (reached_carried? _ c).mp h
      cases answer with
      | error e => cases hstate
      | ok b =>
        cases b with
        | false => cases hstate
        | true =>
          cases hstate
          exact .inr ⟨rfl, rfl⟩
    | _ => cases h
  | validating m =>
    cases event with
    | judged judgement =>
      cases judgement with
      | ok u => exact .inl h
      | error e => cases h
    | _ => exact .inl h
  | checking =>
    cases event with
    | judged judgement => cases judgement <;> cases h
    | _ => cases h
  | writing write answer =>
    cases event with
    | written => cases h
    | _ => exact .inl h
  | ended answer => cases event <;> cases h

theorem resume_outcome {phase : HookPhase} {event : HookEvent}
    (h : (phase.resume s event).2.outcome = some (.succeeded c)) :
    s.outcome = some (.succeeded c) ∨ phase.carried? = some c := by
  cases phase with
  | writing write answer =>
    cases event with
    | written =>
      cases write with
      | refusal => cases h
      | park m => exact .inr (congrArg AuthenticationOutcome.identity (Option.some.inj h))
      | drop e => cases h
    | _ => exact .inl h
  | _ =>
    cases event with
    | judged judgement => cases judgement <;> exact .inl h
    | _ => exact .inl h

end HookPhase

/-! ### One connection -/

namespace LiveConnection

/-- The only question of a connection is about a credential made of the chain that the call was
given. -/
def Asks (ctx : AuthContext σ) (l : LiveConnection) (n : Nat) (c : Credential) : Prop :=
  ∃ leaf intermediates v, (l.hooks[n]?).map HookRun.call = some (.verify leaf intermediates) ∧
    ctx.Makes leaf intermediates v c ∧ l.asked = [(n, c)]

/-- The authority said yes to the only question of a connection. -/
def Granted (ctx : AuthContext σ) (past : List ConnectionStep) (l : LiveConnection)
    (c : Credential) : Prop :=
  ∃ n, l.Asks ctx n c ∧ .resume n (.answered (.ok true)) ∈ past

/-- What a connection says of its past: it asks once at most, and a credential that is on its way to
a principal was granted. -/
structure Sound (ctx : AuthContext σ) (past : List ConnectionStep) (l : LiveConnection) :
    Prop where
  unused : ∀ m, l.slot.machine = some m → m = .fresh ∧ l.asked = []
  asking : ∀ (n : Nat) (r : HookRun) (c : Credential), l.hooks[n]? = some r →
    r.phase.asked? = some c → l.Asks ctx n c
  carried : ∀ (n : Nat) (r : HookRun) (c : Credential), l.hooks[n]? = some r →
    r.phase.carried? = some c → l.Granted ctx past c
  parked : ∀ c, l.slot.outcome = some (.succeeded c) → l.Granted ctx past c
  created : ∀ p, some p ∈ l.principals → ∃ c, p = ⟨.succeeded c⟩ ∧ l.Granted ctx past c

variable {past : List ConnectionStep} {l : LiveConnection} {n : Nat} {c : Credential}

theorem fresh_sound (ctx : AuthContext σ) : Sound ctx [] fresh where
  unused := by
    intro m hm
    cases hm
    exact ⟨rfl, rfl⟩
  asking := by simp [fresh]
  carried := by simp [fresh]
  parked := by simp [fresh, VerifierSlot.fresh]
  created := by simp [fresh]

theorem Sound.inquiry_eq_nil (h : Sound ctx past l) (hasks : l.Asks ctx n c)
    (step : ConnectionStep) : l.inquiry ctx step = [] := by
  obtain ⟨-, -, -, -, -, hasked⟩ := hasks
  unfold inquiry
  cases hd : l.asks? ctx step with
  | none => rfl
  | some d =>
    cases step with
    | call call =>
      obtain ⟨m, -, -, hm, -⟩ := HookPhase.start_asked? hd
      have hnone := (h.unused m hm).2
      rw [hasked] at hnone
      cases hnone
    | _ => cases hd

theorem asked_step (ctx : AuthContext σ) (l : LiveConnection) (step : ConnectionStep) :
    (l.step ctx step).asked = l.asked ++ l.inquiry ctx step := by
  cases step with
  | call call => rfl
  | resume n event =>
    simp only [LiveConnection.step, inquiry, asks?]
    cases l.hooks[n]? <;> simp
  | createPrincipal => simp [LiveConnection.step, inquiry, asks?]

theorem hookCall_step (step : ConnectionStep) {call : HookCall}
    (h : (l.hooks[n]?).map HookRun.call = some call) :
    ((l.step ctx step).hooks[n]?).map HookRun.call = some call := by
  cases step with
  | call new =>
    obtain ⟨run, hrun, hcall⟩ := Option.map_eq_some_iff.mp h
    have hn : n < l.hooks.length := (List.getElem?_eq_some_iff.mp hrun).1
    simp only [LiveConnection.step]
    rw [List.getElem?_append_left hn]
    exact h
  | resume m event =>
    cases hm : l.hooks[m]? with
    | none =>
      simp only [LiveConnection.step, hm]
      exact h
    | some run =>
      rw [step_resume ctx l m run event hm]
      by_cases hmn : m = n
      · subst hmn
        rw [hm] at h
        have hlt : m < l.hooks.length := (List.getElem?_eq_some_iff.mp hm).1
        simpa [List.getElem?_set_self hlt] using h
      · simpa only [List.getElem?_set_ne hmn] using h
  | createPrincipal => exact h

theorem Asks.step (h : Sound ctx past l) (hasks : l.Asks ctx n c) (step : ConnectionStep) :
    (l.step ctx step).Asks ctx n c := by
  have hnone := h.inquiry_eq_nil hasks step
  obtain ⟨leaf, intermediates, v, hcall, hmade, hasked⟩ := hasks
  refine ⟨leaf, intermediates, v, hookCall_step step hcall, hmade, ?_⟩
  rw [asked_step, hnone, hasked]
  rfl

theorem Granted.step (h : Sound ctx past l) (hgranted : l.Granted ctx past c)
    (step : ConnectionStep) : (l.step ctx step).Granted ctx (past ++ [step]) c := by
  obtain ⟨n, hasks, hyes⟩ := hgranted
  exact ⟨n, hasks.step h step, List.mem_append_left _ hyes⟩

theorem hooks_call {call : HookCall} {r : HookRun}
    (h : (l.step ctx (.call call)).hooks[n]? = some r) :
    l.hooks[n]? = some r ∨
      n = l.hooks.length ∧ r = ⟨call, (HookPhase.start ctx l.slot call).1⟩ := by
  simp only [LiveConnection.step] at h
  rcases Nat.lt_trichotomy n l.hooks.length with hn | hn | hn
  · rw [List.getElem?_append_left hn] at h
    exact .inl h
  · rw [hn, List.getElem?_concat_length] at h
    exact .inr ⟨hn, (Option.some.inj h).symm⟩
  · rw [List.getElem?_append_right (Nat.le_of_lt hn)] at h
    have hlast := (List.getElem?_eq_some_iff.mp h).1
    rw [List.length_singleton] at hlast
    omega

theorem call_sound (h : Sound ctx past l) (call : HookCall) :
    Sound ctx (past ++ [.call call]) (l.step ctx (.call call)) := by
  have hkeep : ∀ c, l.Granted ctx past c →
      (l.step ctx (.call call)).Granted ctx (past ++ [.call call]) c :=
    fun c hc => hc.step h _
  refine ⟨?_, ?_, ?_, ?_, ?_⟩
  · intro m hm
    obtain ⟨hmachine, hquiet⟩ := HookPhase.start_machine hm
    obtain ⟨hfresh, hnone⟩ := h.unused m hmachine
    refine ⟨hfresh, ?_⟩
    rw [asked_step, hnone]
    simp [inquiry, asks?, hquiet]
  · intro n r c hr hc
    rcases hooks_call hr with hold | ⟨rfl, rfl⟩
    · exact (h.asking n r c hold hc).step h _
    · -- the machine was still there, so this is the first question
      obtain ⟨m, leaf, intermediates, hm, rfl, hbuilt⟩ := HookPhase.start_asked? hc
      obtain ⟨rfl, hnone⟩ := h.unused m hm
      obtain ⟨v, hmade⟩ := (Machine.fresh_prepare ctx leaf intermediates c).1 hbuilt
      refine ⟨leaf, intermediates, v, by rw [hr]; rfl, hmade, ?_⟩
      rw [asked_step, hnone]
      simp only [inquiry, asks?, hc]
      rfl
  · intro n r c hr hc
    rcases hooks_call hr with hold | ⟨rfl, rfl⟩
    · exact hkeep c (h.carried n r c hold hc)
    · obtain ⟨m, leaf, intermediates, hm, rfl, hstate⟩ := HookPhase.start_carried? hc
      obtain ⟨rfl, -⟩ := h.unused m hm
      exact ((Machine.fresh_prepare ctx leaf intermediates c).2 hstate).elim
  · intro c hc
    simp only [LiveConnection.step, HookPhase.start_outcome] at hc
    exact hkeep c (h.parked c hc)
  · intro p hp
    obtain ⟨c, hc, hgranted⟩ := h.created p hp
    exact ⟨c, hc, hkeep c hgranted⟩

theorem hooks_resume {m : Nat} {event : HookEvent} {r : HookRun}
    (h : (l.step ctx (.resume n event)).hooks[m]? = some r) :
    l.hooks[m]? = some r ∨ m = n ∧ ∃ before : HookRun, l.hooks[n]? = some before ∧
      r = ⟨before.call, (before.phase.resume l.slot event).1⟩ := by
  cases hn : l.hooks[n]? with
  | none =>
    simp only [LiveConnection.step, hn] at h
    exact .inl h
  | some before =>
    rw [step_resume ctx l n before event hn] at h
    by_cases hmn : n = m
    · subst hmn
      have hlt : n < l.hooks.length := (List.getElem?_eq_some_iff.mp hn).1
      rw [List.getElem?_set_self hlt] at h
      exact .inr ⟨rfl, before, rfl, (Option.some.inj h).symm⟩
    · rw [List.getElem?_set_ne hmn] at h
      exact .inl h

/-- The slot after a call went on: the machine stays, and what is newly parked was carried. -/
theorem slot_resume (ctx : AuthContext σ) (l : LiveConnection) (n : Nat) (event : HookEvent) :
    (l.step ctx (.resume n event)).slot.machine = l.slot.machine ∧
      ∀ c, (l.step ctx (.resume n event)).slot.outcome = some (.succeeded c) →
        l.slot.outcome = some (.succeeded c) ∨
          ∃ r : HookRun, l.hooks[n]? = some r ∧ r.phase.carried? = some c := by
  cases hn : l.hooks[n]? with
  | none =>
    simp only [LiveConnection.step, hn]
    exact ⟨trivial, fun c hc => .inl hc⟩
  | some r =>
    rw [step_resume ctx l n r event hn]
    refine ⟨HookPhase.resume_machine r.phase event, ?_⟩
    intro c hc
    exact (HookPhase.resume_outcome hc).imp_right fun hcarried => ⟨r, rfl, hcarried⟩

theorem resume_sound (h : Sound ctx past l) (n : Nat) (event : HookEvent) :
    Sound ctx (past ++ [.resume n event]) (l.step ctx (.resume n event)) := by
  have hkeep : ∀ c, l.Granted ctx past c →
      (l.step ctx (.resume n event)).Granted ctx (past ++ [.resume n event]) c :=
    fun c hc => hc.step h _
  have hasked : (l.step ctx (.resume n event)).asked = l.asked := by
    rw [asked_step]
    exact List.append_nil _
  obtain ⟨hmachine, hparked⟩ := slot_resume ctx l n event
  refine ⟨?_, ?_, ?_, ?_, ?_⟩
  · intro m hm
    rw [hasked]
    exact h.unused m (hmachine ▸ hm)
  · intro m r c hr hc
    rcases hooks_resume hr with hold | ⟨rfl, before, hbefore, rfl⟩
    · exact (h.asking m r c hold hc).step h _
    · exact (h.asking m before c hbefore (HookPhase.resume_asked? hc)).step h _
  · intro m r c hr hc
    rcases hooks_resume hr with hold | ⟨rfl, before, hbefore, rfl⟩
    · exact hkeep c (h.carried m r c hold hc)
    · rcases HookPhase.resume_carried? hc with hcarried | ⟨hwaits, rfl⟩
      · exact hkeep c (h.carried m before c hbefore hcarried)
      · exact ⟨m, (h.asking m before c hbefore hwaits).step h _,
          List.mem_append_right _ (List.mem_singleton_self _)⟩
  · intro c hc
    rcases hparked c hc with hold | ⟨r, hr, hcarried⟩
    · exact hkeep c (h.parked c hold)
    · exact hkeep c (h.carried n r c hr hcarried)
  · intro p hp
    have hsame : (l.step ctx (.resume n event)).principals = l.principals := by
      simp only [LiveConnection.step]
      cases l.hooks[n]? <;> rfl
    obtain ⟨c, hc, hgranted⟩ := h.created p (hsame ▸ hp)
    exact ⟨c, hc, hkeep c hgranted⟩

theorem createPrincipal_sound (h : Sound ctx past l) :
    Sound ctx (past ++ [.createPrincipal]) (l.step ctx .createPrincipal) := by
  have hkeep : ∀ c, l.Granted ctx past c →
      (l.step ctx .createPrincipal).Granted ctx (past ++ [.createPrincipal]) c :=
    fun c hc => hc.step h _
  refine ⟨h.unused, ?_, ?_, ?_, ?_⟩
  · intro n r c hr hc
    exact (h.asking n r c hr hc).step h _
  · intro n r c hr hc
    exact hkeep c (h.carried n r c hr hc)
  · intro c hc
    cases hc
  · intro p hp
    rcases List.mem_append.mp hp with hp | hp
    · obtain ⟨c, hc, hgranted⟩ := h.created p hp
      exact ⟨c, hc, hkeep c hgranted⟩
    · obtain ⟨c, hc, hparked⟩ :=
        Transport.createPrincipal_eq_some l.slot p (List.mem_singleton.mp hp).symm
      exact ⟨c, hc, hkeep c (h.parked c hparked)⟩

theorem step_sound (h : Sound ctx past l) (step : ConnectionStep) :
    Sound ctx (past ++ [step]) (l.step ctx step) := by
  cases step with
  | call call => exact call_sound h call
  | resume n event => exact resume_sound h n event
  | createPrincipal => exact createPrincipal_sound h

theorem run_sound (h : Sound ctx past l) (steps : List ConnectionStep) :
    Sound ctx (past ++ steps) (l.run ctx steps) := by
  induction steps generalizing past l with
  | nil =>
    rw [List.append_nil]
    exact h
  | cons step steps ih =>
    have hrest := ih (step_sound h step)
    rw [List.append_assoc] at hrest
    exact hrest

end LiveConnection

end DeviceGateway
