import DeviceGateway.Transport.Connection
import DeviceGateway.Proofs.Handshake.Parking

/-!
# Who is at the other end

Clients must present certificates to a guarded transport: whatever the TLS library calls and however
its handshake ends, there is a connection only with a principal that the authority accepted on this
very transport. A refused handshake leaves no principal behind, and its reason stays.
-/

namespace DeviceGateway

variable {σ τ : Type}

/-- A guard whose world also keeps the consultations. -/
def ClientGuard.recording (g : ClientGuard σ τ) : ClientGuard (σ × List Consultation) τ :=
  ⟨g.context.recording, g.base⟩

/-- A world without the consultations that are kept. -/
def unrecordedWorld (w : (σ × List Consultation) × τ) : σ × τ := (w.1.1, w.2)

namespace Verifier

theorem examine_recording (ctx : AuthContext σ) (base : BaseVerifier τ) (m : Machine)
    (leaf : Bytes) (intermediates : List Bytes) (w : (σ × List Consultation) × τ) :
    let r := examine ctx.recording base m leaf intermediates w
    (r.1, r.2.1, unrecordedWorld r.2.2) =
      examine ctx base m leaf intermediates (unrecordedWorld w) := by
  have hrun := Machine.run_recording ctx m (some leaf) intermediates w.1
  simp only [examine, unrecordedWorld, ← hrun, Machine.unrecorded]
  split
  · cases (base.validateChain leaf intermediates w.2).1 with
    | ok u => rfl
    | error e => rfl
  · rfl

end Verifier

namespace Transport

/-- One call of the TLS library, without the consultations that are kept. -/
theorem hook_recording (g : ClientGuard σ τ) (s : VerifierSlot)
    (w : (σ × List Consultation) × τ) (call : HookCall) :
    (hook g.recording s w call).slot = (hook g s (unrecordedWorld w) call).slot ∧
      unrecordedWorld (hook g.recording s w call).world =
        (hook g s (unrecordedWorld w) call).world := by
  cases call with
  | verify leaf intermediates =>
    simp only [hook, Verifier.verify, VerifierSlot.takeMachine]
    cases s.machine with
    | none => exact ⟨rfl, rfl⟩
    | some m =>
      have h := Verifier.examine_recording g.context g.base m leaf intermediates w
      simp only [← h]
      exact ⟨rfl, rfl⟩
  | checkSignature version leaf =>
    simp only [hook, Verifier.checkSignature]
    cases hb : (g.base.checkSignature version leaf w.2).1 with
    | ok u => simp [ClientGuard.recording, unrecordedWorld, hb]
    | error e => simp [ClientGuard.recording, unrecordedWorld, hb]

theorem runHooks_recording (g : ClientGuard σ τ) (s : VerifierSlot)
    (w : (σ × List Consultation) × τ) (calls : List HookCall) :
    (runHooks g.recording s w calls).1 = (runHooks g s (unrecordedWorld w) calls).1 := by
  induction calls generalizing s w with
  | nil => rfl
  | cons call calls ih =>
    obtain ⟨hslot, hworld⟩ := hook_recording g s w call
    simp only [runHooks]
    rw [ih, hslot, hworld]

/-! ### During the handshake -/

/-- What a slot says of the consultations: a parked credential is what the one consultation was
about, and was accepted. -/
structure Vouched (consulted : List Consultation) (s : VerifierSlot) : Prop where
  unused : ∀ m, s.machine = some m →
    m = .fresh ∧ consulted = [] ∧ ∀ c, s.outcome ≠ some (.succeeded c)
  parked : ∀ c, s.outcome = some (.succeeded c) → consulted = [⟨c, .heard (.ok true)⟩]

variable {s : VerifierSlot} {w : (σ × List Consultation) × τ}

theorem fresh_vouched : Vouched [] .fresh where
  unused := by
    intro m hm
    cases hm
    exact ⟨rfl, rfl, by simp [VerifierSlot.fresh]⟩
  parked := by simp [VerifierSlot.fresh]

theorem verify_vouched (g : ClientGuard σ τ) (leaf : Bytes) (intermediates : List Bytes)
    (h : Vouched w.1.2 s) :
    Vouched (hook g.recording s w (.verify leaf intermediates)).world.1.2
      (hook g.recording s w (.verify leaf intermediates)).slot := by
  obtain ⟨⟨v, kept⟩, u⟩ := w
  simp only [hook]
  cases hm : s.machine with
  | none =>
    rw [Verifier.verify_of_no_machine _ _ s leaf intermediates _ hm]
    refine ⟨?_, ?_⟩
    · intro m hnone
      cases hnone
    · intro c hc
      cases hc
  | some m =>
    -- the first validation: nobody was asked before
    obtain ⟨rfl, rfl, -⟩ := h.unused m hm
    rw [Verifier.verify_of_machine _ _ s .fresh leaf intermediates _ hm]
    refine ⟨?_, ?_⟩
    · intro m hm
      cases hm
    · intro c hc
      have hstate := (Machine.outcome_eq_succeeded_iff _ c).mp (Option.some.inj hc)
      have hrun := Verifier.run_of_examine _ _ _ _ _ _ c hstate
      have hsame := Machine.run_recording g.context .fresh (some leaf) intermediates (v, [])
      have hplain : (Machine.fresh.run g.context (some leaf) intermediates v).1.state =
          .authenticated c := by
        rw [← hsame]
        exact hrun
      have hkept := (Machine.fresh_run_authenticated _ _ _ _ c hplain).2
      change (Verifier.examine g.context.recording g.base .fresh leaf intermediates
        ((v, []), u)).2.2.1.2 = _
      rw [Verifier.examine_world]
      exact hkept

theorem checkSignature_vouched (g : ClientGuard σ τ) (version : TlsVersion) (leaf : Bytes)
    (h : Vouched w.1.2 s) :
    Vouched (hook g.recording s w (.checkSignature version leaf)).world.1.2
      (hook g.recording s w (.checkSignature version leaf)).slot := by
  simp only [hook, Verifier.checkSignature]
  cases hb : (g.recording.base.checkSignature version leaf w.2).1 with
  | ok u => exact h
  | error e =>
    refine ⟨?_, ?_⟩
    · intro m hm
      obtain ⟨hfresh, hnone, -⟩ := h.unused m hm
      exact ⟨hfresh, hnone, by simp [VerifierSlot.discard, AuthenticationOutcome.failed,
        AuthenticationOutcome.succeeded]⟩
    · intro c hc
      cases hc

theorem runHooks_vouched (g : ClientGuard σ τ) (calls : List HookCall) (h : Vouched w.1.2 s) :
    Vouched (runHooks g.recording s w calls).2.1.2 (runHooks g.recording s w calls).1 := by
  induction calls generalizing s w with
  | nil => exact h
  | cons call calls ih =>
    simp only [runHooks]
    apply ih
    cases call with
    | verify leaf intermediates => exact verify_vouched g leaf intermediates h
    | checkSignature version leaf => exact checkSignature_vouched g version leaf h

/-- Without a validation the machine stays unused. -/
theorem runHooks_machine (g : ClientGuard σ τ) (s : VerifierSlot) (w : σ × τ)
    (calls : List HookCall) (hcalls : ∀ leaf intermediates, .verify leaf intermediates ∉ calls) :
    (runHooks g s w calls).1.machine = s.machine := by
  induction calls generalizing s w with
  | nil => rfl
  | cons call calls ih =>
    have hrest : ∀ leaf intermediates, .verify leaf intermediates ∉ calls := by
      intro leaf intermediates hmem
      exact hcalls leaf intermediates (List.mem_cons_of_mem _ hmem)
    simp only [runHooks]
    rw [ih _ _ hrest]
    cases call with
    | verify leaf intermediates => exact (hcalls leaf intermediates (List.mem_cons_self ..)).elim
    | checkSignature version leaf =>
      simp only [hook, Verifier.checkSignature]
      cases hb : (g.base.checkSignature version leaf w.2).1 with
      | ok u => rfl
      | error e => rfl

/-! ### After the handshake -/

def parked (t : Transport) : Option AuthenticationOutcome := t.slot.bind (·.outcome)

@[simp] theorem createPrincipal_rejection (t : Transport) :
    t.createPrincipal.2.rejection = t.rejection := by
  unfold createPrincipal
  cases h : t.slot with
  | none => rfl
  | some s => simp [rejection, h, VerifierSlot.takeOutcome]

@[simp] theorem createPrincipal_parked (t : Transport) : t.createPrincipal.2.parked = none := by
  unfold createPrincipal
  cases h : t.slot with
  | none => simp [parked, h]
  | some s => rfl

@[simp] theorem discard_rejection (t : Transport) : t.discard.rejection = t.rejection := by
  obtain ⟨slot⟩ := t
  cases slot with
  | none => rfl
  | some s => rfl

@[simp] theorem discard_parked (t : Transport) : t.discard.parked = none := by
  obtain ⟨slot⟩ := t
  cases slot with
  | none => rfl
  | some s => rfl

theorem createPrincipal_of_not_parked (t : Transport) (h : t.parked = none) :
    t.createPrincipal.1 = none := by
  obtain ⟨slot⟩ := t
  cases slot with
  | none => rfl
  | some s =>
    have hnone : s.outcome = none := h
    simp only [createPrincipal, VerifierSlot.takeOutcome, hnone]
    rfl

def later : Nat → Transport → Transport
  | 0, t => t
  | n + 1, t => later n t.createPrincipal.2

theorem later_spec (n : Nat) (t : Transport) (h : t.parked = none) :
    (later n t).parked = none ∧ (later n t).rejection = t.rejection := by
  induction n generalizing t with
  | zero => exact ⟨h, rfl⟩
  | succ n ih =>
    obtain ⟨hparked, hrejection⟩ := ih t.createPrincipal.2 (createPrincipal_parked t)
    exact ⟨hparked, hrejection.trans (createPrincipal_rejection t)⟩

theorem settle_rejection (deadline : Duration) (t : Transport) (ending : HandshakeEnd) :
    (settle deadline t ending).2.rejection = t.rejection := by
  cases ending with
  | unstarted e => rfl
  | completed =>
    simp only [settle]
    split
    · exact createPrincipal_rejection t
    · exact createPrincipal_rejection t
  | failed e => exact discard_rejection t
  | timedOut => exact discard_rejection t

/-- However it ends, a handshake that was started leaves nothing parked. -/
theorem settle_parked (deadline : Duration) (t : Transport) (ending : HandshakeEnd)
    (h : ∀ e, ending = .unstarted e → t.parked = none) :
    (settle deadline t ending).2.parked = none := by
  cases ending with
  | unstarted e => exact h e rfl
  | completed =>
    simp only [settle]
    split
    · exact createPrincipal_parked t
    · exact createPrincipal_parked t
  | failed e => exact discard_parked t
  | timedOut => exact discard_parked t

theorem createPrincipal_eq_some (s : VerifierSlot) (p : Principal)
    (h : (createPrincipal ⟨some s⟩).1 = some p) :
    ∃ c, p = ⟨.succeeded c⟩ ∧ s.outcome = some (.succeeded c) := by
  obtain ⟨machine, outcome, rejection⟩ := s
  simp only [createPrincipal, VerifierSlot.takeOutcome, Option.map_eq_some_iff,
    Option.filter_eq_some_iff] at h
  obtain ⟨⟨identity⟩, ⟨ho, hs⟩, rfl⟩ := h
  cases identity with
  | none => cases hs
  | some c => exact ⟨c, rfl, ho⟩

/-- A guarded transport that is settled has the principal that was parked. -/
theorem settle_eq_ok (deadline : Duration) (s : VerifierSlot) (ending : HandshakeEnd)
    (conn : Connection) (h : (settle deadline ⟨some s⟩ ending).1 = .ok conn) :
    ∃ c, conn.principal = some ⟨.succeeded c⟩ ∧ s.outcome = some (.succeeded c) := by
  cases ending with
  | unstarted e => cases h
  | failed e => cases h
  | timedOut => cases h
  | completed =>
    cases hp : (createPrincipal ⟨some s⟩).1 with
    | none =>
      simp only [settle, hp] at h
      cases h
    | some p =>
      obtain ⟨c, rfl, hc⟩ := createPrincipal_eq_some s p hp
      simp only [settle, hp, Option.isNone_some, Bool.and_false, Bool.false_eq_true, if_false] at h
      cases h
      exact ⟨c, rfl, hc⟩

theorem settle_unguarded_eq_ok (deadline : Duration) (ending : HandshakeEnd) (conn : Connection)
    (h : (settle deadline ⟨none⟩ ending).1 = .ok conn) : conn.principal = none := by
  cases ending with
  | completed =>
    cases h
    rfl
  | _ => cases h

/-! ### A whole handshake -/

/-- The transport once the TLS library has made its calls. -/
def reached (guard : Option (ClientGuard σ τ)) (w : σ × τ) (calls : List HookCall)
    (ending : HandshakeEnd) : Transport :=
  ⟨guard.map fun g => (runHooks g .fresh w (ending.preceding calls)).1⟩

/-- Whom the authority was asked about during a handshake, and what came back. -/
def consultations (g : ClientGuard σ τ) (w : σ × τ) (calls : List HookCall)
    (ending : HandshakeEnd) : List Consultation :=
  (runHooks g.recording .fresh ((w.1, []), w.2) (ending.preceding calls)).2.1.2

theorem accept_eq_settle (guard : Option (ClientGuard σ τ)) (deadline : Duration) (w : σ × τ)
    (calls : List HookCall) (ending : HandshakeEnd) :
    (accept guard deadline w calls ending).1 =
        (settle deadline (reached guard w calls ending) ending).1 ∧
      (accept guard deadline w calls ending).2.1 =
        (settle deadline (reached guard w calls ending) ending).2 := by
  cases guard with
  | none => exact ⟨rfl, rfl⟩
  | some g => exact ⟨rfl, rfl⟩

theorem reached_vouched (g : ClientGuard σ τ) (w : σ × τ) (calls : List HookCall)
    (ending : HandshakeEnd) :
    Vouched (consultations g w calls ending)
      (runHooks g .fresh w (ending.preceding calls)).1 := by
  have hsame := runHooks_recording g .fresh ((w.1, []), w.2) (ending.preceding calls)
  change _ = (runHooks g .fresh w (ending.preceding calls)).1 at hsame
  rw [← hsame]
  exact runHooks_vouched g (ending.preceding calls) fresh_vouched

theorem mem_of_mem_preceding {call : HookCall} {calls : List HookCall} {ending : HandshakeEnd}
    (h : call ∈ ending.preceding calls) : call ∈ calls := by
  cases ending with
  | unstarted e => cases h
  | _ => exact h

theorem reached_not_parked (g : ClientGuard σ τ) (w : σ × τ) (calls : List HookCall)
    (ending : HandshakeEnd) (hcalls : ∀ leaf intermediates, .verify leaf intermediates ∉ calls)
    (c : Credential) :
    (runHooks g .fresh w (ending.preceding calls)).1.outcome ≠ some (.succeeded c) := by
  have hpreceding : ∀ leaf intermediates,
      .verify leaf intermediates ∉ ending.preceding calls := by
    intro leaf intermediates hmem
    exact hcalls leaf intermediates (mem_of_mem_preceding hmem)
  have hmachine := runHooks_machine g .fresh w (ending.preceding calls) hpreceding
  exact ((reached_vouched g w calls ending).unused .fresh hmachine).2.2 c

/-- A handshake that is not started has parked nothing. -/
theorem reached_unstarted_parked (guard : Option (ClientGuard σ τ)) (w : σ × τ)
    (calls : List HookCall) (e : TlsError) :
    (reached guard w calls (.unstarted e)).parked = none := by
  cases guard with
  | none => rfl
  | some g => rfl

theorem accept_parked (guard : Option (ClientGuard σ τ)) (deadline : Duration) (w : σ × τ)
    (calls : List HookCall) (ending : HandshakeEnd) :
    (accept guard deadline w calls ending).2.1.parked = none := by
  rw [(accept_eq_settle guard deadline w calls ending).2]
  apply settle_parked
  rintro e rfl
  exact reached_unstarted_parked guard w calls e

theorem accept_rejection (guard : Option (ClientGuard σ τ)) (deadline : Duration) (w : σ × τ)
    (calls : List HookCall) (ending : HandshakeEnd) :
    (accept guard deadline w calls ending).2.1.rejection =
      (reached guard w calls ending).rejection := by
  rw [(accept_eq_settle guard deadline w calls ending).2, settle_rejection]

theorem settle_failed (deadline : Duration) (t : Transport) (e : TlsError) (r : RejectReason)
    (h : t.rejection = some r) :
    (settle deadline t (.failed e)).1 = .error (.handshake r.message) := by
  simp only [settle, discard_rejection, h, Option.map_some, Option.getD_some]

/-- Whatever the TLS library calls and however the handshake ends: a guarded transport is connected
only to a principal that its own authority accepted, and never if no certificate was validated; an
unguarded one has no principal. A transport that refused has no principal ever after and keeps its
reason, which is the text of a failure. -/
theorem accept_authenticated (guard : Option (ClientGuard σ τ)) (deadline : Duration) (w : σ × τ)
    (calls : List HookCall) (ending : HandshakeEnd) :
    let result := (accept guard deadline w calls ending).1
    let t := (accept guard deadline w calls ending).2.1
    let recorded := (reached guard w calls ending).rejection
    (∀ conn, result = .ok conn →
      match guard with
      | none => conn.principal = none
      | some g => ∃ c, conn.principal = some ⟨.succeeded c⟩ ∧
          consultations g w calls ending = [⟨c, .heard (.ok true)⟩]) ∧
    (guard.isSome → (∀ leaf intermediates, .verify leaf intermediates ∉ calls) →
      ∃ e, result = .error e) ∧
    (∀ e, result = .error e →
      ∀ n, (later n t).createPrincipal.1 = none ∧ (later n t).rejection = recorded) ∧
    (∀ e r, ending = .failed e → recorded = some r → result = .error (.handshake r.message)) := by
  intro result t recorded
  have hresult := (accept_eq_settle guard deadline w calls ending).1
  refine ⟨?_, ?_, ?_, ?_⟩
  · intro conn hok
    have hok := hresult.symm.trans hok
    cases guard with
    | none => exact settle_unguarded_eq_ok deadline ending conn hok
    | some g =>
      obtain ⟨c, hprincipal, hparked⟩ := settle_eq_ok deadline _ ending conn hok
      exact ⟨c, hprincipal, (reached_vouched g w calls ending).parked c hparked⟩
  · intro hguard hcalls
    cases guard with
    | none => cases hguard
    | some g =>
      cases hr : result with
      | error e => exact ⟨e, rfl⟩
      | ok conn =>
        obtain ⟨c, -, hparked⟩ := settle_eq_ok deadline _ ending conn (hresult.symm.trans hr)
        exact (reached_not_parked g w calls ending hcalls c hparked).elim
  · intro e _ n
    obtain ⟨hparked, hrejection⟩ := later_spec n t (accept_parked guard deadline w calls ending)
    exact ⟨createPrincipal_of_not_parked _ hparked,
      hrejection.trans (accept_rejection guard deadline w calls ending)⟩
  · rintro e r rfl hr
    exact hresult.trans (settle_failed deadline _ e r hr)

end Transport
end DeviceGateway
