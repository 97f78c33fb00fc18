import Mathlib.Data.List.Induction
import DeviceGateway.Proofs.Handshake.Decision
import DeviceGateway.Proofs.Handshake.Parking

/-!
# What a verifier says of a call

A call of a verifier can be judged in three ways: by what it returns, by what is parked after it and
by the refusal that is recorded. The three agree after every call, in whatever order the calls come,
and nobody is asked about a client that is refused already.
-/

namespace DeviceGateway

variable {σ τ : Type}

/-- What is parked goes with the recorded refusal. -/
def VerifierSlot.Agrees (s : VerifierSlot) : Prop :=
  (∀ c, s.outcome = some (.succeeded c) → s.rejection = none) ∧
    (s.outcome = some .failed → ∃ r, s.rejection = some r)

/-- A validation whose world also keeps the chains that it was asked about, earliest first. -/
def BaseVerifier.recording (base : BaseVerifier τ) : BaseVerifier (τ × List Chain) where
  validateChain := fun leaf intermediates w =>
    let (answer, t) := base.validateChain leaf intermediates w.1
    (answer, (t, w.2 ++ [⟨leaf, intermediates⟩]))
  checkSignature := fun version leaf w =>
    let (answer, t) := base.checkSignature version leaf w.1
    (answer, (t, w.2))
  hints := base.hints
  schemes := base.schemes

namespace Verifier

def Op.isVerify : Op → Bool
  | verify _ _ => true
  | _ => false

/-- The error and the recorded reason when the TLS library objects. -/
def objection : Except TlsError Unit → Option (TlsError × RejectReason)
  | .ok _ => none
  | .error e => some (e, .certificateInvalid e.message)

/-- Why a call must fail, as the error that it returns and the reason that is recorded. The
machine's own reason comes before the TLS library's, and a second validation is out of order. -/
def failure? (ctx : AuthContext σ) (base : BaseVerifier τ) (repeated : Bool) (w : σ × τ) :
    Op → Option (TlsError × RejectReason)
  | .verify leaf intermediates =>
    if repeated then some (.refused, .outOfOrder)
    else
      match (Machine.fresh.run ctx (some leaf) intermediates w.1).1.state.rejection with
      | some r => some (.refused, r)
      | none => objection (base.validateChain leaf intermediates w.2).1
  | .checkSignature version leaf => objection (base.checkSignature version leaf w.2).1
  | .takeOutcome => none

/-- The chain that a call has the TLS library validate, if it has: a first validation does so once
its machine authenticated. -/
def chainAsked (ctx : AuthContext σ) (repeated : Bool) (w : σ) : Op → List Chain
  | .verify leaf intermediates =>
    if !repeated && (Machine.fresh.run ctx (some leaf) intermediates w).1.state.isAuthenticated then
      [⟨leaf, intermediates⟩]
    else []
  | _ => []

/-- A call that must fail says so in three ways: it returns the error, a failure is parked and the
reason is recorded. -/
def Reports (answer : Except TlsError Unit) (s : VerifierSlot) :
    Option (TlsError × RejectReason) → Prop
  | some (e, reason) => answer = .error e ∧ s.outcome = some .failed ∧ s.rejection = some reason
  | none => answer = .ok ()

/-! ### One call -/

/-- A first validation reports the machine's own reason, or else the TLS library's. -/
theorem examine_reports (ctx : AuthContext σ) (base : BaseVerifier τ) (s : VerifierSlot)
    (leaf : Bytes) (intermediates : List Bytes) (w : σ × τ) :
    let r := examine ctx base .fresh leaf intermediates w
    r.2.1.state.isTerminal = true ∧
      Reports r.1 (s.finish r.2.1) (failure? ctx base false w (.verify leaf intermediates)) := by
  have hterminal := Machine.run_isTerminal ctx .fresh (some leaf) intermediates w.1
  simp only [examine, failure?, Bool.false_eq_true, if_false]
  cases hm : (Machine.fresh.run ctx (some leaf) intermediates w.1).1.state with
  | rejected r =>
    simp [HandshakeState.isAuthenticated, HandshakeState.isTerminal, HandshakeState.rejection,
      VerifierSlot.finish, Machine.outcome, Reports, hm]
  | authenticated c =>
    cases (base.validateChain leaf intermediates w.2).1 with
    | ok u =>
      simp [HandshakeState.isAuthenticated, HandshakeState.isTerminal, HandshakeState.rejection,
        objection, Reports, hm]
    | error e =>
      simp [HandshakeState.isAuthenticated, HandshakeState.isTerminal, HandshakeState.rejection,
        VerifierSlot.finish, Machine.outcome, Machine.reject, objection, Reports]
  | _ =>
    -- a machine that ran is at its end
    rw [hm] at hterminal
    cases hterminal

theorem agrees_of_failed {s : VerifierSlot} {r : RejectReason} (ho : s.outcome = some .failed)
    (hr : s.rejection = some r) : s.Agrees := by
  refine ⟨?_, fun _ => ⟨r, hr⟩⟩
  intro c hc
  rw [ho] at hc
  cases hc

theorem agrees_of_empty {s : VerifierSlot} (ho : s.outcome = none) : s.Agrees := by
  constructor
  · intro c hc
    rw [ho] at hc
    cases hc
  · intro hc
    rw [ho] at hc
    cases hc

theorem finish_agrees (s : VerifierSlot) (m : Machine) (h : m.state.isTerminal = true) :
    (s.finish m).Agrees := by
  cases hm : m.state with
  | rejected r =>
    refine agrees_of_failed (r := r) ?_ ?_
    · simp only [VerifierSlot.finish, Machine.outcome, hm]
    · simp only [VerifierSlot.finish, HandshakeState.rejection, hm]
  | authenticated c =>
    refine ⟨fun _ _ => ?_, fun hfailed => ?_⟩
    · simp only [VerifierSlot.finish, HandshakeState.rejection, hm]
    · simp [VerifierSlot.finish, Machine.outcome, AuthenticationOutcome.succeeded,
        AuthenticationOutcome.failed, hm] at hfailed
  | _ =>
    rw [hm] at h
    cases h

section
variable {s : VerifierSlot} {repeated : Bool}

theorem apply_machine (ctx : AuthContext σ) (base : BaseVerifier τ) (w : σ × τ) (op : Op)
    (hs : s.machine = if repeated then none else some .fresh) :
    (apply ctx base s w op).2.1.machine =
      if repeated || op.isVerify then none else some .fresh := by
  cases op with
  | verify leaf intermediates =>
    simp only [apply, verify, VerifierSlot.takeMachine, Op.isVerify, Bool.or_true, if_true]
    cases s.machine <;> rfl
  | checkSignature version leaf =>
    simp only [apply, checkSignature, Op.isVerify, Bool.or_false]
    cases (base.checkSignature version leaf w.2).1 <;> exact hs
  | takeOutcome =>
    simp only [Op.isVerify, Bool.or_false]
    exact hs

theorem apply_agrees (ctx : AuthContext σ) (base : BaseVerifier τ) (w : σ × τ) (op : Op)
    (hs : s.machine = if repeated then none else some .fresh) (h : s.Agrees) :
    (apply ctx base s w op).2.1.Agrees := by
  cases op with
  | verify leaf intermediates =>
    simp only [apply]
    cases repeated with
    | true =>
      rw [verify_of_no_machine ctx base s leaf intermediates w hs]
      exact agrees_of_failed rfl rfl
    | false =>
      rw [verify_of_machine ctx base s .fresh leaf intermediates w hs]
      exact finish_agrees _ _ (examine_reports ctx base s leaf intermediates w).1
  | checkSignature version leaf =>
    simp only [apply, checkSignature]
    cases (base.checkSignature version leaf w.2).1 with
    | ok u => exact h
    | error e => exact agrees_of_failed rfl rfl
  | takeOutcome => exact agrees_of_empty rfl

theorem apply_reports (ctx : AuthContext σ) (base : BaseVerifier τ) (w : σ × τ) (op : Op)
    (hs : s.machine = if repeated then none else some .fresh) (answer : Except TlsError Unit)
    (hanswer : (apply ctx base s w op).1 = .answer answer) :
    Reports answer (apply ctx base s w op).2.1 (failure? ctx base repeated w op) := by
  cases op with
  | verify leaf intermediates =>
    cases hanswer
    simp only [apply]
    cases repeated with
    | true =>
      rw [verify_of_no_machine ctx base s leaf intermediates w hs]
      exact ⟨rfl, rfl, rfl⟩
    | false =>
      rw [verify_of_machine ctx base s .fresh leaf intermediates w hs]
      exact (examine_reports ctx base _ leaf intermediates w).2
  | checkSignature version leaf =>
    cases hanswer
    simp only [apply, checkSignature, failure?]
    cases (base.checkSignature version leaf w.2).1 with
    | ok u => exact rfl
    | error e => exact ⟨rfl, rfl, rfl⟩
  | takeOutcome => cases hanswer

end

/-! ### Any number of calls -/

/-- The slot and the world of a new verifier after calls. -/
def reached (ctx : AuthContext σ) (base : BaseVerifier τ) (w : σ × τ) (ops : List Op) :
    VerifierSlot × (σ × τ) :=
  (applyAll ctx base .fresh w ops).2

theorem applyAll_concat (ctx : AuthContext σ) (base : BaseVerifier τ) (s : VerifierSlot)
    (w : σ × τ) (ops : List Op) (op : Op) :
    let run := applyAll ctx base s w ops
    let call := apply ctx base run.2.1 run.2.2 op
    applyAll ctx base s w (ops ++ [op]) = (run.1 ++ [call.1], call.2) := by
  induction ops generalizing s w with
  | nil => rfl
  | cons first ops ih =>
    have hrest := ih (apply ctx base s w first).2.1 (apply ctx base s w first).2.2
    rw [List.cons_append]
    simp only [applyAll, hrest, List.cons_append]

theorem reached_concat (ctx : AuthContext σ) (base : BaseVerifier τ) (w : σ × τ) (ops : List Op)
    (op : Op) :
    reached ctx base w (ops ++ [op]) =
      (apply ctx base (reached ctx base w ops).1 (reached ctx base w ops).2 op).2 := by
  unfold reached
  rw [applyAll_concat]

theorem reached_machine (ctx : AuthContext σ) (base : BaseVerifier τ) (w : σ × τ)
    (ops : List Op) :
    (reached ctx base w ops).1.machine = if ops.any Op.isVerify then none else some .fresh := by
  induction ops using List.reverseRecOn with
  | nil => rfl
  | append_singleton ops op ih =>
    rw [reached_concat, apply_machine ctx base _ op ih, List.any_append]
    simp

theorem reached_agrees (ctx : AuthContext σ) (base : BaseVerifier τ) (w : σ × τ)
    (ops : List Op) : (reached ctx base w ops).1.Agrees := by
  induction ops using List.reverseRecOn with
  | nil => exact agrees_of_empty rfl
  | append_singleton ops op ih =>
    rw [reached_concat]
    exact apply_agrees ctx base _ op (reached_machine ctx base w ops) ih

/-! ### Who is asked -/

/-- A world without the consultations and the chains that are kept. -/
def unrecorded (w : (σ × List Consultation) × (τ × List Chain)) : σ × τ := (w.1.1, w.2.1)

theorem examine_recorded (ctx : AuthContext σ) (base : BaseVerifier τ) (m : Machine) (leaf : Bytes)
    (intermediates : List Bytes) (w : (σ × List Consultation) × (τ × List Chain)) :
    let r := examine ctx.recording base.recording m leaf intermediates w
    (r.1, r.2.1, unrecorded r.2.2) = examine ctx base m leaf intermediates (unrecorded w) := by
  have hrun := Machine.run_recording ctx m (some leaf) intermediates w.1
  simp only [examine, unrecorded, ← hrun, Machine.unrecorded, BaseVerifier.recording]
  split
  · cases (base.validateChain leaf intermediates w.2.1).1 <;> rfl
  · rfl

theorem apply_recorded (ctx : AuthContext σ) (base : BaseVerifier τ) (s : VerifierSlot)
    (w : (σ × List Consultation) × (τ × List Chain)) (op : Op) :
    let r := apply ctx.recording base.recording s w op
    (r.1, r.2.1, unrecorded r.2.2) = apply ctx base s (unrecorded w) op := by
  cases op with
  | verify leaf intermediates =>
    simp only [apply, verify, VerifierSlot.takeMachine]
    cases s.machine with
    | none => rfl
    | some m =>
      have h := examine_recorded ctx base m leaf intermediates w
      simp only [← h]
  | checkSignature version leaf =>
    simp only [apply, checkSignature, BaseVerifier.recording, unrecorded]
    cases (base.checkSignature version leaf w.2.1).1 <;> rfl
  | takeOutcome => rfl

/-- What was asked during calls on a new verifier. -/
def recorded (ctx : AuthContext σ) (base : BaseVerifier τ) (w : σ × τ) (ops : List Op) :
    (σ × List Consultation) × (τ × List Chain) :=
  (reached ctx.recording base.recording ((w.1, []), (w.2, [])) ops).2

def consultations (ctx : AuthContext σ) (base : BaseVerifier τ) (w : σ × τ) (ops : List Op) :
    List Consultation :=
  (recorded ctx base w ops).1.2

def validations (ctx : AuthContext σ) (base : BaseVerifier τ) (w : σ × τ) (ops : List Op) :
    List Chain :=
  (recorded ctx base w ops).2.2

theorem unrecorded_recorded (ctx : AuthContext σ) (base : BaseVerifier τ) (w : σ × τ)
    (ops : List Op) :
    (reached ctx.recording base.recording ((w.1, []), (w.2, [])) ops).1 =
        (reached ctx base w ops).1 ∧
      unrecorded (recorded ctx base w ops) = (reached ctx base w ops).2 := by
  unfold recorded
  induction ops using List.reverseRecOn with
  | nil => exact ⟨rfl, rfl⟩
  | append_singleton ops op ih =>
    rw [reached_concat, reached_concat, ih.1, ← ih.2, ← apply_recorded]
    exact ⟨rfl, rfl⟩

theorem examine_validations (ctx : AuthContext σ) (base : BaseVerifier τ) (leaf : Bytes)
    (intermediates : List Bytes) (w : (σ × List Consultation) × (τ × List Chain)) :
    (examine ctx.recording base.recording .fresh leaf intermediates w).2.2.2.2 =
      w.2.2 ++ chainAsked ctx false w.1.1 (.verify leaf intermediates) := by
  have hrun := Machine.run_recording ctx .fresh (some leaf) intermediates w.1
  simp only [examine, chainAsked, ← hrun, Machine.unrecorded, BaseVerifier.recording]
  cases (Machine.fresh.run ctx.recording (some leaf) intermediates w.1).1.state.isAuthenticated with
  | false => simp
  | true => cases (base.validateChain leaf intermediates w.2.1).1 <;> rfl

theorem apply_validations {s : VerifierSlot} {repeated : Bool} (ctx : AuthContext σ)
    (base : BaseVerifier τ) (w : (σ × List Consultation) × (τ × List Chain)) (op : Op)
    (hs : s.machine = if repeated then none else some .fresh) :
    (apply ctx.recording base.recording s w op).2.2.2.2 =
      w.2.2 ++ chainAsked ctx repeated w.1.1 op := by
  cases op with
  | verify leaf intermediates =>
    simp only [apply]
    cases repeated with
    | true =>
      rw [verify_of_no_machine ctx.recording base.recording s leaf intermediates w hs]
      exact (List.append_nil _).symm
    | false =>
      rw [verify_of_machine ctx.recording base.recording s .fresh leaf intermediates w hs]
      exact examine_validations ctx base leaf intermediates w
  | checkSignature version leaf =>
    simp only [apply, checkSignature, BaseVerifier.recording, chainAsked, List.append_nil]
    cases (base.checkSignature version leaf w.2.1).1 <;> rfl
  | takeOutcome => exact (List.append_nil _).symm

theorem validations_concat (ctx : AuthContext σ) (base : BaseVerifier τ) (w : σ × τ)
    (ops : List Op) (op : Op) :
    validations ctx base w (ops ++ [op]) = validations ctx base w ops ++
      chainAsked ctx (ops.any Op.isVerify) (reached ctx base w ops).2.1 op := by
  obtain ⟨hslot, hworld⟩ := unrecorded_recorded ctx base w ops
  have hmachine := reached_machine ctx base w ops
  rw [← hslot] at hmachine
  have hstep := apply_validations ctx base (recorded ctx base w ops) op hmachine
  rw [← hworld]
  simp only [validations, recorded, reached_concat] at hstep ⊢
  exact hstep

/-- Until a validation nobody asks the authority. -/
theorem apply_consultations {s : VerifierSlot} {repeated : Bool} (ctx : AuthContext σ)
    (base : BaseVerifier τ) (w : (σ × List Consultation) × (τ × List Chain)) (op : Op)
    (hs : s.machine = if repeated then none else some .fresh)
    (hw : w.1.2.length ≤ if repeated then 1 else 0) :
    (apply ctx.recording base.recording s w op).2.2.1.2.length ≤
      if repeated || op.isVerify then 1 else 0 := by
  cases op with
  | verify leaf intermediates =>
    simp only [apply, Op.isVerify, Bool.or_true, if_true]
    cases repeated with
    | true =>
      rw [verify_of_no_machine ctx.recording base.recording s leaf intermediates w hs]
      exact hw
    | false =>
      rw [verify_of_machine ctx.recording base.recording s .fresh leaf intermediates w hs]
      change (examine ctx.recording base.recording .fresh leaf intermediates w).2.2.1.2.length ≤ 1
      rw [examine_world]
      obtain ⟨⟨v, consulted⟩, t⟩ := w
      obtain rfl : consulted = [] := List.eq_nil_of_length_eq_zero (Nat.le_zero.mp hw)
      have hcaptured : Machine.Backed ctx [(some leaf, intermediates)] []
          (Machine.fresh.capture (some leaf) intermediates).state :=
        Machine.captured_backed (some leaf) intermediates
      exact (Machine.settle_backed _ _ (v, []) hcaptured).length_le
  | checkSignature version leaf =>
    simp only [apply, checkSignature, BaseVerifier.recording, Op.isVerify, Bool.or_false]
    cases (base.checkSignature version leaf w.2.1).1 <;> exact hw
  | takeOutcome =>
    simp only [Op.isVerify, Bool.or_false]
    exact hw

theorem consultations_length_le (ctx : AuthContext σ) (base : BaseVerifier τ) (w : σ × τ)
    (ops : List Op) :
    (consultations ctx base w ops).length ≤ if ops.any Op.isVerify then 1 else 0 := by
  induction ops using List.reverseRecOn with
  | nil => exact Nat.zero_le _
  | append_singleton ops op ih =>
    have hmachine := reached_machine ctx base w ops
    rw [← (unrecorded_recorded ctx base w ops).1] at hmachine
    have hstep := apply_consultations ctx base (recorded ctx base w ops) op hmachine ih
    simp only [consultations, recorded, reached_concat, List.any_append, List.any_cons,
      List.any_nil, Bool.or_false] at hstep ⊢
    exact hstep

/-- A first validation accepts exactly if its machine authenticates and the TLS library takes the
chain. -/
theorem verify_eq_ok_iff (ctx : AuthContext σ) (base : BaseVerifier τ) (s : VerifierSlot)
    (leaf : Bytes) (intermediates : List Bytes) (w : σ × τ) (hs : s.machine = some .fresh) :
    (verify ctx base s leaf intermediates w).answer = .ok () ↔
      (Machine.fresh.run ctx (some leaf) intermediates w.1).1.state.isAuthenticated = true ∧
        (base.validateChain leaf intermediates w.2).1 = .ok () := by
  rw [verify_of_machine ctx base s .fresh leaf intermediates w hs]
  simp only [examine]
  cases (Machine.fresh.run ctx (some leaf) intermediates w.1).1.state.isAuthenticated with
  | false => simp
  | true => cases (base.validateChain leaf intermediates w.2).1 <;> simp

/-- After any calls on a new verifier, what is parked goes with the recorded refusal, and a call that
fails returns its error, parks a failure and records its reason. A first validation accepts exactly
if both the machine and the TLS library do; the TLS library is asked about the chain only after the
machine authenticated, and the authority at most once in all. -/
theorem calls_agree (ctx : AuthContext σ) (base : BaseVerifier τ) (w : σ × τ) (before : List Op)
    (op : Op) :
    let run := applyAll ctx base .fresh w before
    let call := apply ctx base run.2.1 run.2.2 op
    let repeated := before.any Op.isVerify
    applyAll ctx base .fresh w (before ++ [op]) = (run.1 ++ [call.1], call.2) ∧
    run.2.1.Agrees ∧
    (∀ answer, call.1 = .answer answer →
      Reports answer call.2.1 (failure? ctx base repeated run.2.2 op)) ∧
    (∀ leaf intermediates, op = .verify leaf intermediates → repeated = false →
      (call.1 = .answer (.ok ()) ↔
        (Machine.fresh.run ctx (some leaf) intermediates run.2.2.1).1.state.isAuthenticated = true ∧
          (base.validateChain leaf intermediates run.2.2.2).1 = .ok ())) ∧
    validations ctx base w (before ++ [op]) =
      validations ctx base w before ++ chainAsked ctx repeated run.2.2.1 op ∧
    (consultations ctx base w before).length ≤ 1 := by
  intro run call repeated
  have hmachine : run.2.1.machine = if repeated then none else some .fresh :=
    reached_machine ctx base w before
  refine ⟨applyAll_concat .., reached_agrees ctx base w before, ?_, ?_,
    validations_concat ctx base w before op, ?_⟩
  · exact apply_reports ctx base run.2.2 op hmachine
  · intro leaf intermediates hop hfirst
    have hfresh : run.2.1.machine = some .fresh := by
      rw [hfirst] at hmachine
      exact hmachine
    have hiff := verify_eq_ok_iff ctx base run.2.1 leaf intermediates run.2.2 hfresh
    simp only [call, hop, apply, Result.answer.injEq]
    exact hiff
  · have hle := consultations_length_le ctx base w before
    split at hle <;> omega

end Verifier
end DeviceGateway
