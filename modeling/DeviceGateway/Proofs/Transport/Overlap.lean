import DeviceGateway.Transport.Connection
import DeviceGateway.Proofs.Handshake.Decision
import DeviceGateway.Proofs.Handshake.Parking
import DeviceGateway.Proofs.Handshake.Progress

/-!
# Calls of the hook that overlap

A call of the hook touches the slot of its connection twice at most: it takes the machine, and it
writes down what it came to. In between it waits for the authority and for the TLS library, and
other calls on the connection go on. Here each call is the pieces it consists of, and the pieces of
all calls come in any order; pieces that nothing comes between make up the hook itself.
-/

namespace DeviceGateway

variable {σ τ : Type}

/-- A context whose authority is never heard. -/
def AuthContext.silent (ctx : AuthContext σ) : AuthContext Unit :=
  ⟨ctx.hubName, ctx.factory, fun _ _ => (.unheard Pool.lostError, ())⟩

namespace Machine

/-! ### A run that stops to ask -/

/-- A machine that took a chain and went on until only the authority can tell. -/
def prepare (ctx : AuthContext σ) (m : Machine) (leaf : Bytes) (intermediates : List Bytes) :
    Machine :=
  (settle ctx.silent 3 (m.capture (some leaf) intermediates) ()).1

def heed (m : Machine) (c : Credential) (answer : Except GatewayError Bool) : Machine :=
  (m.note (consultLog answer)).enter (decided c answer)

theorem heed_isTerminal (m : Machine) (c : Credential) (answer : Except GatewayError Bool) :
    (m.heed c answer).state.isTerminal = true := by
  rw [heed, enter_state, decided_eq_ruling]
  exact decidedState_isTerminal _

/-- At the end, or this many steps before asking the authority, which is done in stage 4. -/
def Nears (n : Nat) (s : HandshakeState) : Prop := s.isTerminal = true ∨ s.stage + n = 4

/-- Before the authority is asked, a step does not depend on the authority. -/
theorem advance_unasked (ctx : AuthContext σ) (m : Machine) (w : σ) (h : m.state.stage < 4) :
    m.advance ctx w = ((m.advance ctx.silent ()).1, w) := by
  unfold advance
  cases hs : m.state with
  | credentialBuilt c => simp [hs, HandshakeState.stage] at h
  | _ => rfl

theorem advance_nears (ctx : AuthContext σ) (m : Machine) (w : σ) (n : Nat)
    (h : m.state.stage + (n + 1) = 4) : Nears n (m.advance ctx w).1.state := by
  unfold advance
  cases hs : m.state with
  | idle => exact .inl rfl
  | chainCaptured chain =>
    rw [hs] at h
    exact .inr (by simp only [enter_state, HandshakeState.stage] at h ⊢; omega)
  | identityParsed chain claimed =>
    rw [hs] at h
    simp only [enter_state, judged]
    cases claimed.validate ctx.hubName with
    | ok v => exact .inr (by simp only [HandshakeState.stage] at h ⊢; omega)
    | error r => exact .inl rfl
  | validated chain v =>
    rw [hs] at h
    simp only [enter_state, built]
    cases ctx.factory (credentialRequest chain v) with
    | ok c => exact .inr (by simp only [HandshakeState.stage] at h ⊢; omega)
    | error e => exact .inl rfl
  | authenticating => exact .inl rfl
  | _ =>
    simp only [hs, HandshakeState.stage] at h
    omega

theorem settle_nears (ctx : AuthContext σ) (n : Nat) (m : Machine) (w : σ)
    (h : Nears n m.state) :
    let q := (settle ctx.silent n m ()).1
    Nears 0 q.state ∧ settle ctx n m w = (q, w) ∧ settle ctx (n + 1) m w = q.advance ctx w := by
  intro q
  -- the world is handed on as it is until the authority is asked
  induction n generalizing m w with
  | zero =>
    refine ⟨h, rfl, ?_⟩
    cases hm : m.state.isTerminal with
    | true =>
      exact (settle_of_terminal ctx 1 m w hm).trans (advance_of_terminal ctx m w hm).symm
    | false => exact settle_succ ctx 0 m w hm
  | succ n ih =>
    cases hm : m.state.isTerminal with
    | true =>
      have hq : q = m := congrArg Prod.fst (settle_of_terminal _ (n + 1) m () hm)
      rw [hq, settle_of_terminal ctx _ m w hm, settle_of_terminal ctx _ m w hm,
        advance_of_terminal ctx m w hm]
      exact ⟨.inl hm, rfl, rfl⟩
    | false =>
      have hstage : m.state.stage + (n + 1) = 4 := h.resolve_left (by simp [hm])
      have hquiet := advance_unasked ctx m w (by omega)
      have hnext := advance_nears ctx.silent m () n hstage
      have hq : q = (settle ctx.silent n (m.advance ctx.silent ()).1 ()).1 :=
        congrArg Prod.fst (settle_succ _ n m () hm)
      rw [settle_succ ctx _ m w hm, settle_succ ctx _ m w hm, hquiet, hq]
      exact ih _ w hnext

theorem capture_nears (m : Machine) (leaf : Bytes) (intermediates : List Bytes) :
    Nears 3 (m.capture (some leaf) intermediates).state := by
  by_cases hi : m.state = .idle
  · rw [capture_of_idle m _ intermediates hi, enter_state]
    simp only [captured]
    split
    · exact .inl rfl
    · exact .inr rfl
  · rw [capture_of_ne_idle m _ intermediates hi]
    exact .inl rfl

theorem prepare_nears (ctx : AuthContext σ) (m : Machine) (leaf : Bytes)
    (intermediates : List Bytes) : Nears 0 (m.prepare ctx leaf intermediates).state :=
  (settle_nears ctx.silent 3 _ () (capture_nears m leaf intermediates)).1

/-- A run is its preparation and the step that may ask the authority. -/
theorem run_eq_advance_prepare (ctx : AuthContext σ) (m : Machine) (leaf : Bytes)
    (intermediates : List Bytes) (w : σ) :
    m.run ctx (some leaf) intermediates w = (m.prepare ctx leaf intermediates).advance ctx w := by
  have hnears := capture_nears m leaf intermediates
  obtain ⟨-, -, hsettle⟩ := settle_nears ctx 3 _ w hnears
  change settle ctx _ (m.capture (some leaf) intermediates) w = _
  refine Eq.trans ?_ hsettle
  cases hs : (m.capture (some leaf) intermediates).state with
  | chainCaptured chain => rfl
  | _ =>
    -- what is at its end has no steps left, and more change nothing
    have hend : (m.capture (some leaf) intermediates).state.isTerminal = true :=
      hnears.resolve_right (by simp [hs, HandshakeState.stage])
    exact (settle_of_terminal ctx _ _ w hend).trans (settle_of_terminal ctx _ _ w hend).symm

theorem advance_of_credentialBuilt (ctx : AuthContext σ) (m : Machine) (w : σ) (c : Credential)
    (h : m.state = .credentialBuilt c) :
    m.advance ctx w = (m.heed c (ctx.consult c w).1.result, (ctx.consult c w).2) := by
  simp only [advance, h, heed]

/-- What a fresh machine is about to ask about was made of the chain that it took; it has not
authenticated yet. -/
theorem fresh_prepare (ctx : AuthContext σ) (leaf : Bytes) (intermediates : List Bytes)
    (c : Credential) :
    ((fresh.prepare ctx leaf intermediates).state = .credentialBuilt c →
      ∃ v, ctx.Makes leaf intermediates v c) ∧
    (fresh.prepare ctx leaf intermediates).state ≠ .authenticated c := by
  have hnears := capture_nears .fresh leaf intermediates
  have hsettle := (settle_nears ctx.silent.recording 3 _ ((), []) hnears).2.1
  have hbacked : Backed ctx.silent [(some leaf, intermediates)] _ _ :=
    settle_backed 3 (fresh.capture (some leaf) intermediates) ((), [])
      (captured_backed (some leaf) intermediates)
  rw [hsettle] at hbacked
  change Backed _ _ [] (fresh.prepare ctx leaf intermediates).state at hbacked
  constructor
  · intro hc
    rw [hc] at hbacked
    obtain ⟨⟨l, i, v, hcaptures, hmade⟩, -⟩ := hbacked
    cases hcaptures
    exact ⟨v, hmade.leaf_ne_nil, hmade.accepted, hmade.built⟩
  · intro hc
    rw [hc] at hbacked
    cases hbacked.2

end Machine

/-! ### A call in pieces -/

inductive SlotWrite where
  | refusal
  | park (machine : Machine)
  | drop (error : TlsError)

def SlotWrite.apply : SlotWrite → VerifierSlot → VerifierSlot
  | refusal, s => s.refuseRepeat
  | park m, s => s.finish m
  | drop e, s => s.discard e

/-- How far a call has come: what it waits for, and what it will do then. -/
inductive HookPhase where
  | asking (machine : Machine) (credential : Credential)
  | validating (machine : Machine)
  | checking
  | writing (write : SlotWrite) (answer : Except TlsError Unit)
  | ended (answer : Except TlsError Unit)

inductive HookEvent where
  | answered (answer : Except GatewayError Bool)
  | judged (judgement : Except TlsError Unit)
  | written

namespace HookPhase

def reached (m : Machine) : HookPhase :=
  match m.state with
  | .credentialBuilt c => asking m c
  | .authenticated _ => validating m
  | _ => writing (.park m) (.error .refused)

def start (ctx : AuthContext σ) (s : VerifierSlot) : HookCall → HookPhase × VerifierSlot
  | .verify leaf intermediates =>
    -- the slot is free again while the machine is out
    match s.takeMachine with
    | (none, s) => (writing .refusal (.error .refused), s)
    | (some m, s) => (reached (m.prepare ctx leaf intermediates), s)
  | .checkSignature _ _ => (checking, s)

def asked? : HookPhase → Option Credential
  | asking _ c => some c
  | _ => none

/-- The next piece of a call, once it happens what the call waits for; anything else changes
nothing. -/
def resume (s : VerifierSlot) : HookPhase → HookEvent → HookPhase × VerifierSlot
  | asking m c, .answered answer => (reached (m.heed c answer), s)
  | validating m, .judged (.ok _) => (writing (.park m) (.ok ()), s)
  | validating m, .judged (.error e) =>
    (writing (.park (m.reject (.certificateInvalid e.message))) (.error e), s)
  | checking, .judged (.ok _) => (ended (.ok ()), s)
  | checking, .judged (.error e) => (writing (.drop e) (.error e), s)
  | writing write answer, .written => (ended answer, write.apply s)
  | phase, _ => (phase, s)

end HookPhase

structure HookRun where
  call : HookCall
  phase : HookPhase

/-- A connection during its handshake: the slot of its verifier, its calls of the hook in the order
of their start, whom they asked the authority about, and what came of each attempt to create a
principal. -/
structure LiveConnection where
  slot : VerifierSlot
  hooks : List HookRun
  asked : List (Nat × Credential)
  principals : List (Option Principal)

inductive ConnectionStep where
  | call (call : HookCall)
  | resume (n : Nat) (event : HookEvent)
  | createPrincipal

namespace LiveConnection

variable (ctx : AuthContext σ)

def fresh : LiveConnection := ⟨.fresh, [], [], []⟩

def asks? (l : LiveConnection) : ConnectionStep → Option Credential
  | .call call => (HookPhase.start ctx l.slot call).1.asked?
  | _ => none

/-- Whom a step asks the authority about, with the number of the call that it starts. -/
def inquiry (l : LiveConnection) (step : ConnectionStep) : List (Nat × Credential) :=
  ((l.asks? ctx step).map (Prod.mk l.hooks.length)).toList

def step (l : LiveConnection) : ConnectionStep → LiveConnection
  | .call call =>
    let (phase, slot) := HookPhase.start ctx l.slot call
    { l with slot := slot, hooks := l.hooks ++ [⟨call, phase⟩],
             asked := l.asked ++ l.inquiry ctx (.call call) }
  | .resume n event =>
    match l.hooks[n]? with
    | some h =>
      let (phase, slot) := h.phase.resume l.slot event
      { l with slot := slot, hooks := l.hooks.set n ⟨h.call, phase⟩ }
    | none => l
  | .createPrincipal =>
    { l with slot := l.slot.takeOutcome.2,
             principals := l.principals ++ [(Transport.createPrincipal ⟨some l.slot⟩).1] }

def run (l : LiveConnection) (steps : List ConnectionStep) : LiveConnection :=
  steps.foldl (step ctx) l

theorem run_cons (l : LiveConnection) (step : ConnectionStep) (steps : List ConnectionStep) :
    l.run ctx (step :: steps) = (l.step ctx step).run ctx steps := rfl

theorem run_append (l : LiveConnection) (before since : List ConnectionStep) :
    l.run ctx (before ++ since) = (l.run ctx before).run ctx since :=
  List.foldl_append ..

theorem step_resume (l : LiveConnection) (n : Nat) (h : HookRun) (event : HookEvent)
    (hn : l.hooks[n]? = some h) :
    l.step ctx (.resume n event) =
      ⟨(h.phase.resume l.slot event).2,
        l.hooks.set n ⟨h.call, (h.phase.resume l.slot event).1⟩, l.asked, l.principals⟩ := by
  simp only [step, hn]

theorem step_resume_last (s : VerifierSlot) (hooks : List HookRun) (call : HookCall)
    (phase : HookPhase) (asked : List (Nat × Credential)) (principals : List (Option Principal))
    (event : HookEvent) :
    (⟨s, hooks ++ [⟨call, phase⟩], asked, principals⟩ : LiveConnection).step ctx
        (.resume hooks.length event) =
      ⟨(phase.resume s event).2, hooks ++ [⟨call, (phase.resume s event).1⟩], asked,
        principals⟩ := by
  rw [step_resume ctx _ _ ⟨call, phase⟩ event List.getElem?_concat_length]
  simp

end LiveConnection

/-! ### Pieces that nothing comes between -/

namespace HookPhase

def through (answer : Except GatewayError Bool) (judgement : Except TlsError Unit)
    (s : HookPhase × VerifierSlot) : HookPhase × VerifierSlot :=
  let s := s.1.resume s.2 (.answered answer)
  let s := s.1.resume s.2 (.judged judgement)
  s.1.resume s.2 .written

theorem resume_reached (m : Machine) (s : VerifierSlot) (answer : Except GatewayError Bool)
    (hm : m.state.isTerminal = true) :
    (reached m).resume s (.answered answer) = (reached m, s) := by
  unfold reached
  cases hs : m.state with
  | authenticated c => rfl
  | rejected r => rfl
  | _ => simp [hs, HandshakeState.isTerminal] at hm

theorem through_asking (answer : Except GatewayError Bool) (judgement : Except TlsError Unit)
    (m : Machine) (c : Credential) (s : VerifierSlot) :
    through answer judgement (asking m c, s) =
      through answer judgement (reached (m.heed c answer), s) := by
  unfold through
  rw [resume_reached (m.heed c answer) s answer (m.heed_isTerminal c answer)]
  rfl

/-- A validation whose machine is at its end comes to what the hook makes of such a machine. -/
theorem through_reached (answer : Except GatewayError Bool) (judgement : Except TlsError Unit)
    (m : Machine) (s : VerifierSlot) (hm : m.state.isTerminal = true) :
    through answer judgement (reached m, s) =
      if m.state.isAuthenticated then
        match judgement with
        | .ok _ => (ended (.ok ()), s.finish m)
        | .error e => (ended (.error e), s.finish (m.reject (.certificateInvalid e.message)))
      else (ended (.error .refused), s.finish m) := by
  unfold reached
  cases hs : m.state with
  | authenticated c => cases judgement <;> rfl
  | rejected r => rfl
  | _ => simp [hs, HandshakeState.isTerminal] at hm

end HookPhase

namespace Transport

variable (guard : ClientGuard σ τ)

/-- What a call is told by the authority, if it asks. -/
def answerDue (s : VerifierSlot) (w : σ × τ) (call : HookCall) : Except GatewayError Bool :=
  match (HookPhase.start guard.context s call).1 with
  | .asking _ c => (guard.context.consult c w.1).1.result
  | _ => .ok false

def judgementDue (w : σ × τ) : HookCall → Except TlsError Unit
  | .verify leaf intermediates => (guard.base.validateChain leaf intermediates w.2).1
  | .checkSignature version leaf => (guard.base.checkSignature version leaf w.2).1

theorem through_reached_eq_hook (s : VerifierSlot) (w : σ × τ) (leaf : Bytes)
    (intermediates : List Bytes) (m after : Machine) (v : σ) (answer : Except GatewayError Bool)
    (hm : s.machine = some m)
    (hrun : m.run guard.context (some leaf) intermediates w.1 = (after, v))
    (hafter : after.state.isTerminal = true) :
    HookPhase.through answer (judgementDue guard w (.verify leaf intermediates))
        (.reached after, s.takeMachine.2) =
      (.ended (hook guard s w (.verify leaf intermediates)).answer,
        (hook guard s w (.verify leaf intermediates)).slot) := by
  rw [HookPhase.through_reached answer _ after _ hafter]
  simp only [hook, judgementDue, Verifier.verify_of_machine _ _ s m leaf intermediates w hm,
    Verifier.examine, hrun]
  split
  · cases (guard.base.validateChain leaf intermediates w.2).1 <;> rfl
  · rfl

theorem through_verify (s : VerifierSlot) (w : σ × τ) (leaf : Bytes) (intermediates : List Bytes) :
    HookPhase.through (answerDue guard s w (.verify leaf intermediates))
        (judgementDue guard w (.verify leaf intermediates))
        (HookPhase.start guard.context s (.verify leaf intermediates)) =
      (.ended (hook guard s w (.verify leaf intermediates)).answer,
        (hook guard s w (.verify leaf intermediates)).slot) := by
  cases hm : s.machine with
  | none =>
    simp only [hook, Verifier.verify_of_no_machine _ _ s leaf intermediates w hm,
      HookPhase.start, VerifierSlot.takeMachine, hm]
    rfl
  | some m =>
    have hrun := Machine.run_eq_advance_prepare guard.context m leaf intermediates w.1
    have hnears := Machine.prepare_nears guard.context m leaf intermediates
    have hstart : HookPhase.start guard.context s (.verify leaf intermediates) =
        (.reached (m.prepare guard.context leaf intermediates), s.takeMachine.2) := by
      simp only [HookPhase.start, VerifierSlot.takeMachine, hm]
    unfold answerDue
    rw [hstart]
    generalize m.prepare guard.context leaf intermediates = q at hrun hnears ⊢
    -- refused before anyone is asked, or about to ask
    rcases hnears with hend | hstage
    · rw [Machine.advance_of_terminal _ q w.1 hend] at hrun
      exact through_reached_eq_hook guard s w leaf intermediates m q w.1 _ hm hrun hend
    · obtain ⟨c, hc⟩ : ∃ c, q.state = .credentialBuilt c := by
        cases hs : q.state with
        | credentialBuilt c => exact ⟨c, rfl⟩
        | _ => simp [hs, HandshakeState.stage] at hstage
      rw [Machine.advance_of_credentialBuilt _ q w.1 c hc] at hrun
      have hasking : HookPhase.reached q = .asking q c := by
        simp only [HookPhase.reached, hc]
      rw [hasking, HookPhase.through_asking]
      exact through_reached_eq_hook guard s w leaf intermediates m _ _ _ hm hrun
        (q.heed_isTerminal c _)

theorem through_checkSignature (s : VerifierSlot) (w : σ × τ) (version : TlsVersion)
    (leaf : Bytes) :
    HookPhase.through (answerDue guard s w (.checkSignature version leaf))
        (judgementDue guard w (.checkSignature version leaf))
        (HookPhase.start guard.context s (.checkSignature version leaf)) =
      (.ended (hook guard s w (.checkSignature version leaf)).answer,
        (hook guard s w (.checkSignature version leaf)).slot) := by
  simp only [hook, Verifier.checkSignature, judgementDue, HookPhase.start]
  cases (guard.base.checkSignature version leaf w.2).1 <;> rfl

def pieces (l : LiveConnection) (w : σ × τ) (call : HookCall) : List ConnectionStep :=
  [.call call, .resume l.hooks.length (.answered (answerDue guard l.slot w call)),
    .resume l.hooks.length (.judged (judgementDue guard w call)),
    .resume l.hooks.length .written]

/-- The pieces of a call that nothing comes between make up the call. -/
theorem run_pieces (l : LiveConnection) (w : σ × τ) (call : HookCall) :
    l.run guard.context (pieces guard l w call) =
      ⟨(hook guard l.slot w call).slot,
        l.hooks ++ [⟨call, .ended (hook guard l.slot w call).answer⟩],
        l.asked ++ l.inquiry guard.context (.call call), l.principals⟩ := by
  have hthrough : HookPhase.through (answerDue guard l.slot w call) (judgementDue guard w call)
      (HookPhase.start guard.context l.slot call) =
      (.ended (hook guard l.slot w call).answer, (hook guard l.slot w call).slot) := by
    cases call with
    | verify leaf intermediates => exact through_verify guard l.slot w leaf intermediates
    | checkSignature version leaf => exact through_checkSignature guard l.slot w version leaf
  have hstart : l.step guard.context (.call call) =
      ⟨(HookPhase.start guard.context l.slot call).2,
        l.hooks ++ [⟨call, (HookPhase.start guard.context l.slot call).1⟩],
        l.asked ++ l.inquiry guard.context (.call call), l.principals⟩ := rfl
  simp only [HookPhase.through] at hthrough
  simp only [pieces, LiveConnection.run_cons]
  rw [hstart, LiveConnection.step_resume_last, LiveConnection.step_resume_last,
    LiveConnection.step_resume_last, hthrough]
  rfl

def piecesAll (l : LiveConnection) (w : σ × τ) : List HookCall → List ConnectionStep
  | [] => []
  | call :: calls =>
    pieces guard l w call ++
      piecesAll (l.run guard.context (pieces guard l w call)) (hook guard l.slot w call).world
        calls

/-- Calls that do not overlap are the calls of a handshake, one after another. -/
theorem run_piecesAll (l : LiveConnection) (w : σ × τ) (calls : List HookCall) :
    (l.run guard.context (piecesAll guard l w calls)).slot =
      (runHooks guard l.slot w calls).1 := by
  induction calls generalizing l w with
  | nil => rfl
  | cons call calls ih =>
    simp only [piecesAll, LiveConnection.run_append, runHooks]
    rw [ih, run_pieces]

end Transport

end DeviceGateway
