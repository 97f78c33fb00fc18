import DeviceGateway.Proofs.Authority.Permits
import DeviceGateway.Proofs.Handshake.NamedModule
import DeviceGateway.Proofs.Transport.Granted

/-!
# Refusals

A refused call parks a failure, but a validation that ends later does not look at what is parked.
A connection has one machine. Once it is used up nothing can be accepted any more, so a refusal
stands from then on; a refusal that comes earlier lasts until the validation accepts, if it does.
-/

namespace DeviceGateway

variable {σ : Type}

/-! ### One call -/

namespace HookPhase

/-- Whether a call has the machine of its connection. -/
def holds : HookPhase → Bool
  | asking _ _ => true
  | validating _ => true
  | writing (.park _) _ => true
  | _ => false

/-- A call parks an authenticated machine exactly if it accepts. -/
def Sincere : HookPhase → Prop
  | validating m => m.state.isAuthenticated = true
  | writing (.park m) answer => m.state.isAuthenticated = true ↔ answer = .ok ()
  | writing _ answer => answer ≠ .ok ()
  | _ => True

/-- A call is about to park a credential and to accept. -/
def Accepts (phase : HookPhase) (c : Credential) : Prop :=
  ∃ m, phase = writing (.park m) (.ok ()) ∧ m.state = .authenticated c

variable {s : VerifierSlot} {phase : HookPhase} {event : HookEvent} {c : Credential}

theorem reached_holds (m : Machine) : (reached m).holds = true := by
  unfold reached
  cases m.state <;> rfl

theorem reached_sincere (m : Machine) : (reached m).Sincere := by
  unfold reached
  cases hs : m.state <;> simp [Sincere, hs, HandshakeState.isAuthenticated]

theorem start_sincere (ctx : AuthContext σ) (s : VerifierSlot) (call : HookCall) :
    (start ctx s call).1.Sincere := by
  cases call with
  | verify leaf intermediates =>
    cases hm : s.machine with
    | none => simp [start, VerifierSlot.takeMachine, hm, Sincere]
    | some m =>
      simp only [start, VerifierSlot.takeMachine, hm]
      exact reached_sincere _
  | checkSignature version leaf => trivial

theorem resume_sincere (h : phase.Sincere) : (phase.resume s event).1.Sincere := by
  cases phase with
  | asking m d =>
    cases event with
    | answered answer => exact reached_sincere _
    | _ => trivial
  | validating m =>
    cases event with
    | judged judgement =>
      cases judgement with
      | ok u => exact iff_of_true h rfl
      | error e => exact iff_of_false Bool.false_ne_true (by simp)
    | _ => exact h
  | checking =>
    cases event with
    | judged judgement =>
      cases judgement with
      | ok u => trivial
      | error e => simp [resume, Sincere]
    | _ => trivial
  | writing write answer =>
    cases event with
    | written => trivial
    | _ => exact h
  | ended answer => cases event <;> trivial

/-- A machine that is taken goes from the slot to the call that took it. -/
theorem start_holds (ctx : AuthContext σ) (s : VerifierSlot) (call : HookCall) :
    (start ctx s call).2.machine.toList.length + (if (start ctx s call).1.holds then 1 else 0) =
      s.machine.toList.length := by
  cases call with
  | verify leaf intermediates =>
    cases hm : s.machine with
    | none => simp [start, VerifierSlot.takeMachine, hm, holds]
    | some m => simp [start, VerifierSlot.takeMachine, hm, reached_holds]
  | checkSignature version leaf => rfl

theorem resume_holds (h : (phase.resume s event).1.holds = true) : phase.holds = true := by
  cases phase with
  | checking =>
    cases event with
    | judged judgement => cases judgement <;> cases h
    | _ => cases h
  | writing write answer =>
    cases event with
    | written => cases h
    | _ => exact h
  | ended answer => cases event <;> cases h
  | _ => rfl

/-- Only an accepting call parks a success. -/
theorem resume_succeeded (hphase : phase.Sincere)
    (h : (phase.resume s event).2.outcome = some (.succeeded c)) :
    s.outcome = some (.succeeded c) ∨ event = .written ∧ phase.Accepts c := by
  cases phase with
  | writing write answer =>
    cases event with
    | written =>
      cases write with
      | refusal => cases h
      | park m =>
        have hstate := (m.outcome_eq_succeeded_iff c).mp (Option.some.inj h)
        have hanswer : answer = .ok () := hphase.mp (by rw [hstate]; rfl)
        exact .inr ⟨rfl, m, by rw [hanswer], hstate⟩
      | drop e => cases h
    | _ => exact .inl h
  | _ =>
    cases event with
    | judged judgement => cases judgement <;> exact .inl h
    | _ => exact .inl h

/-- A call that returns an error has just parked a failure. -/
theorem resume_refused {e : TlsError} (hphase : phase.Sincere) (hopen : ∀ a, phase ≠ .ended a)
    (h : (phase.resume s event).1 = .ended (.error e)) :
    (phase.resume s event).2.outcome = some .failed := by
  cases phase with
  | asking m d =>
    cases event with
    | answered answer =>
      have hholds := congrArg holds h
      cases (reached_holds _).symm.trans hholds
    | _ => cases h
  | validating m =>
    cases event with
    | judged judgement => cases judgement <;> cases h
    | _ => cases h
  | checking =>
    cases event with
    | judged judgement => cases judgement <;> cases h
    | _ => cases h
  | writing write answer =>
    cases event with
    | written =>
      cases h
      cases write with
      | refusal => rfl
      | park m =>
        have hfailed : m.outcome = .failed := by
          rw [m.outcome_eq_failed_iff]
          intro c hc
          cases hphase.mp (by rw [hc]; rfl)
        exact congrArg some hfailed
      | drop d => rfl
    | _ => cases h
  | ended answer => exact (hopen answer rfl).elim

end HookPhase

/-! ### One connection -/

namespace LiveConnection

/-- With this event a call returns. -/
def Returns (l : LiveConnection) (n : Nat) (event : HookEvent) (answer : Except TlsError Unit) :
    Prop :=
  ∃ r : HookRun, l.hooks[n]? = some r ∧ (∀ a, r.phase ≠ .ended a) ∧
    (r.phase.resume l.slot event).1 = .ended answer

/-- The machine is neither in the slot nor with a call. -/
def Spent (l : LiveConnection) : Prop :=
  l.slot.machine = none ∧ ∀ (n : Nat) (r : HookRun), l.hooks[n]? = some r → r.phase.holds = false

def Sincere (l : LiveConnection) : Prop :=
  ∀ (n : Nat) (r : HookRun), l.hooks[n]? = some r → r.phase.Sincere

/-- How many machines there are, in the slot and with calls. -/
def machines (l : LiveConnection) : Nat :=
  l.slot.machine.toList.length + l.hooks.countP (·.phase.holds)

variable {ctx : AuthContext σ} {l : LiveConnection} {n : Nat} {event : HookEvent} {c : Credential}

theorem spent_iff (l : LiveConnection) : l.Spent ↔ l.machines = 0 := by
  have hholders : (∀ (n : Nat) (r : HookRun), l.hooks[n]? = some r → r.phase.holds = false) ↔
      l.hooks.countP (·.phase.holds) = 0 := by
    simp only [List.countP_eq_zero, List.mem_iff_getElem?, Bool.not_eq_true, forall_exists_index]
    exact forall_comm
  rw [Spent, machines, hholders]
  cases l.slot.machine with
  | none => simp
  | some m => simp

theorem fresh_sincere : fresh.Sincere := by
  intro n r hr
  cases hr

theorem step_sincere (h : l.Sincere) (step : ConnectionStep) : (l.step ctx step).Sincere := by
  intro n r hr
  cases step with
  | call call =>
    rcases hooks_call hr with hold | ⟨-, rfl⟩
    · exact h n r hold
    · exact HookPhase.start_sincere ctx l.slot call
  | resume m event =>
    rcases hooks_resume hr with hold | ⟨-, before, hbefore, rfl⟩
    · exact h n r hold
    · exact HookPhase.resume_sincere (h m before hbefore)
  | createPrincipal => exact h n r hr

theorem run_sincere (h : l.Sincere) (steps : List ConnectionStep) : (l.run ctx steps).Sincere := by
  induction steps generalizing l with
  | nil => exact h
  | cons step steps ih => exact ih (step_sincere h step)

/-- A call that goes on keeps the machine or gives it up. -/
theorem machines_resume (ctx : AuthContext σ) (event : HookEvent) {r : HookRun}
    (hr : l.hooks[n]? = some r) :
    (l.step ctx (.resume n event)).machines + (if r.phase.holds then 1 else 0) =
      l.machines + if (r.phase.resume l.slot event).1.holds then 1 else 0 := by
  have hcount := countP_set_add (fun h : HookRun => h.phase.holds)
    ⟨r.call, (r.phase.resume l.slot event).1⟩ hr
  rw [step_resume ctx l n r event hr]
  simp only [machines, HookPhase.resume_machine, Nat.add_assoc, hcount]

theorem step_machines_le (ctx : AuthContext σ) (l : LiveConnection) (step : ConnectionStep) :
    (l.step ctx step).machines ≤ l.machines := by
  cases step with
  | call call =>
    have hstart := HookPhase.start_holds ctx l.slot call
    simp only [LiveConnection.step, machines, List.countP_append, List.countP_singleton]
    omega
  | resume n event =>
    cases hr : l.hooks[n]? with
    | none => simp only [LiveConnection.step, hr, Nat.le_refl]
    | some r =>
      have hmachines := machines_resume ctx event hr
      have hholds : (if (r.phase.resume l.slot event).1.holds then 1 else 0) ≤
          if r.phase.holds then 1 else 0 := by
        split
        · next h => exact Nat.le_of_eq (if_pos (HookPhase.resume_holds h)).symm
        · exact Nat.zero_le _
      omega
  | createPrincipal => exact Nat.le_refl _

theorem run_machines_le (ctx : AuthContext σ) (l : LiveConnection) (steps : List ConnectionStep) :
    (l.run ctx steps).machines ≤ l.machines := by
  induction steps generalizing l with
  | nil => exact Nat.le_refl _
  | cons step steps ih => exact Nat.le_trans (ih (l.step ctx step)) (step_machines_le ctx l step)

/-- A success is parked when an accepting call returns, and at no other step. -/
theorem step_succeeded (h : l.Sincere) (step : ConnectionStep)
    (hparked : (l.step ctx step).slot.outcome = some (.succeeded c)) :
    l.slot.outcome = some (.succeeded c) ∨ ∃ n r, step = .resume n .written ∧
      l.hooks[n]? = some r ∧ r.phase.Accepts c := by
  cases step with
  | call call =>
    simp only [LiveConnection.step, HookPhase.start_outcome] at hparked
    exact .inl hparked
  | resume n event =>
    cases hr : l.hooks[n]? with
    | none =>
      simp only [LiveConnection.step, hr] at hparked
      exact .inl hparked
    | some r =>
      rw [step_resume ctx l n r event hr] at hparked
      rcases HookPhase.resume_succeeded (h n r hr) hparked with hold | ⟨rfl, haccepts⟩
      · exact .inl hold
      · exact .inr ⟨n, r, rfl, hr, haccepts⟩
  | createPrincipal => cases hparked

theorem run_succeeded (h : l.Sincere) (steps : List ConnectionStep)
    (hparked : (l.run ctx steps).slot.outcome = some (.succeeded c)) :
    l.slot.outcome = some (.succeeded c) ∨ ∃ early n late r,
      steps = early ++ .resume n .written :: late ∧ (l.run ctx early).hooks[n]? = some r ∧
      r.phase.Accepts c := by
  induction steps generalizing l with
  | nil => exact .inl hparked
  | cons step steps ih =>
    rcases ih (step_sincere h step) hparked with hstep | ⟨early, n, late, r, rfl, hr, haccepts⟩
    · rcases step_succeeded h step hstep with hold | ⟨n, r, rfl, hr, haccepts⟩
      · exact .inl hold
      · exact .inr ⟨[], n, steps, r, rfl, hr, haccepts⟩
    · exact .inr ⟨step :: early, n, late, r, rfl, hr, haccepts⟩

theorem run_spent (h : l.Spent) (steps : List ConnectionStep) : (l.run ctx steps).Spent := by
  rw [spent_iff] at h ⊢
  exact Nat.le_zero.mp (h ▸ run_machines_le ctx l steps)

section
variable {r : HookRun}

/-- A call that accepts still has the machine. -/
theorem not_spent_of_accepts (hr : l.hooks[n]? = some r) (haccepts : r.phase.Accepts c) :
    ¬ l.Spent := by
  rintro ⟨-, hnone⟩
  obtain ⟨m, hphase, -⟩ := haccepts
  have hfalse := hnone n r hr
  rw [hphase] at hfalse
  cases hfalse

theorem returns_of_accepts (hr : l.hooks[n]? = some r) (haccepts : r.phase.Accepts c) :
    l.Returns n .written (.ok ()) ∧
      (l.step ctx (.resume n .written)).slot.outcome = some (.succeeded c) := by
  obtain ⟨m, hphase, hstate⟩ := haccepts
  constructor
  · refine ⟨r, hr, ?_, by rw [hphase]; rfl⟩
    intro a ha
    rw [hphase] at ha
    cases ha
  · rw [step_resume ctx l n r .written hr, hphase]
    exact congrArg some ((m.outcome_eq_succeeded_iff c).mpr hstate)

end

/-- A call that returns an error parks a failure, however calls overlap. If the machine is used up
then, in particular if it was this call that had it, no outcome that is taken later is a success.
Otherwise a later success was parked by a validation that accepted after the error. -/
theorem refusal_stands (ctx : AuthContext σ) (before : List ConnectionStep) (n : Nat)
    (event : HookEvent) (e : TlsError)
    (h : (fresh.run ctx before).Returns n event (.error e)) :
    let refused := fresh.run ctx (before ++ [.resume n event])
    refused.slot.outcome = some .failed ∧
    (refused.Spent → ∀ since c,
      (refused.run ctx since).slot.takeOutcome.1 ≠ some (.succeeded c)) ∧
    (∀ r : HookRun, (fresh.run ctx before).hooks[n]? = some r → r.phase.holds = true →
      refused.Spent) ∧
    ∀ since c, (refused.run ctx since).slot.takeOutcome.1 = some (.succeeded c) →
      ∃ early m late, since = early ++ .resume m .written :: late ∧
        (refused.run ctx early).Returns m .written (.ok ()) ∧
        ((refused.run ctx early).step ctx (.resume m .written)).slot.outcome =
          some (.succeeded c) := by
  intro refused
  have hrefused : refused = (fresh.run ctx before).step ctx (.resume n event) :=
    run_append ctx fresh before [.resume n event]
  have hsincere : (fresh.run ctx before).Sincere := run_sincere fresh_sincere before
  obtain ⟨r, hr, hopen, hends⟩ := h
  have hfailed : refused.slot.outcome = some .failed := by
    rw [hrefused, step_resume ctx _ n r event hr]
    exact HookPhase.resume_refused (hsincere n r hr) hopen hends
  -- what is taken later was parked after the refusal
  have hlater : ∀ since c, (refused.run ctx since).slot.takeOutcome.1 = some (.succeeded c) →
      ∃ early m late a, since = early ++ .resume m .written :: late ∧
        (refused.run ctx early).hooks[m]? = some a ∧ a.phase.Accepts c := by
    intro since c hparked
    rcases run_succeeded (hrefused ▸ step_sincere hsincere _) since hparked with hold | hnew
    · rw [hfailed] at hold
      cases hold
    · exact hnew
  refine ⟨hfailed, ?_, ?_, ?_⟩
  · intro hspent since c hparked
    obtain ⟨early, m, late, a, -, ha, haccepts⟩ := hlater since c hparked
    exact not_spent_of_accepts ha haccepts (run_spent hspent early)
  · intro q hq hholds
    cases hr.symm.trans hq
    have hmachines := machines_resume ctx event hr
    have hone : (fresh.run ctx before).machines ≤ 1 := run_machines_le ctx fresh before
    rw [hends, if_pos hholds] at hmachines
    rw [spent_iff, hrefused]
    simp only [HookPhase.holds, Bool.false_eq_true, if_false] at hmachines
    omega
  · intro since c hparked
    obtain ⟨early, m, late, a, hsince, ha, haccepts⟩ := hlater since c hparked
    exact ⟨early, m, late, hsince, returns_of_accepts ha haccepts⟩

/-- A client that presents an empty certificate stays refused. -/
theorem refusal_stands_without_certificate :
    let before : List ConnectionStep := [.call (.verify [] [])]
    let refused := fresh.run (Machine.accepting "hub-b") (before ++ [.resume 0 .written])
    refused.slot.rejection = some .noCertificate ∧
      ∀ since c, (refused.run (Machine.accepting "hub-b") since).slot.takeOutcome.1 ≠
        some (.succeeded c) := by
  have hreturns : (fresh.run (Machine.accepting "hub-b") [.call (.verify [] [])]).Returns 0
      .written (.error .refused) := by
    refine ⟨_, rfl, ?_, rfl⟩
    intro a ha
    cases ha
  obtain ⟨-, hstands, hown, -⟩ := refusal_stands (Machine.accepting "hub-b") _ 0 .written _ hreturns
  exact ⟨rfl, hstands (hown _ rfl rfl)⟩

/-- A signature that failed before the validation does not keep the validation from accepting. -/
theorem accepted_after_failed_signature :
    ¬ ∀ (ctx : AuthContext Unit) (before : List ConnectionStep) (n : Nat) (event : HookEvent)
      (e : TlsError), (fresh.run ctx before).Returns n event (.error e) →
      ∀ since c, ((fresh.run ctx (before ++ [.resume n event])).run ctx since).slot.takeOutcome.1 ≠
        some (.succeeded c) := by
  intro hnever
  let leaf := Machine.namingLeaf Machine.utf8Module Machine.utf8Hub
  let e : TlsError := .invalidCertificate .badSignature
  have hreturns : (fresh.run (Machine.accepting "hub-b")
      [.call (.checkSignature .tls13 leaf), .resume 0 (.judged (.error e))]).Returns 0 .written
      (.error e) := by
    refine ⟨_, rfl, ?_, rfl⟩
    intro a ha
    cases ha
  refine hnever _ _ _ _ _ hreturns [.call (.verify leaf []), .resume 1 (.answered (.ok true)),
    .resume 1 (.judged (.ok ())), .resume 1 .written]
    (Machine.credentialOf "hub-b" (.hosted "dev1" "mod1") leaf) ?_
  decide +kernel

/-- The first validation is about to accept when a second one comes. -/
def secondValidation (leaf : Bytes) : List ConnectionStep :=
  [.call (.verify leaf []), .resume 0 (.answered (.ok true)), .resume 0 (.judged (.ok ())),
    .call (.verify leaf []), .resume 1 .written]

-- the second validation is refused, and then the first one accepts
example :
    let leaf := Machine.namingLeaf Machine.utf8Module Machine.utf8Hub
    let refused := fresh.run (Machine.accepting "hub-b") (secondValidation leaf)
    refused.slot.rejection = some .outOfOrder ∧ refused.slot.outcome = some .failed ∧
      (refused.step (Machine.accepting "hub-b") (.resume 0 .written)).slot.outcome =
        some (.succeeded (Machine.credentialOf "hub-b" (.hosted "dev1" "mod1") leaf)) := by
  decide +kernel

end LiveConnection

end DeviceGateway
