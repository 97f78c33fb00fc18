import DeviceGateway.Proofs.Handshake.Decision
import DeviceGateway.Proofs.Handshake.Progress

/-!
# The log of a machine tells its walk

The transition events of a machine, one after the other, lead from the idle state to the state that
it is in. A single step adds one event, at the end of the walk none; a run is a capture and the
advances that it takes. Apart from these events, errors are logged for consultations that failed by
no fault of the authority, and for nothing else.
-/

namespace DeviceGateway

variable {σ : Type}

/-! ### What events tell -/

def LogEvent.isTransition (e : LogEvent) : Bool :=
  e.area == .handshake &&
    (e.message == "Handshake state" || e.message == "Client authentication rejected")

/-- The names that the states go by. -/
inductive HandshakeState.IsNamed : HandshakeState → String → Prop
  | idle : IsNamed .idle "idle"
  | chainCaptured (chain : Chain) : IsNamed (.chainCaptured chain) "chain_captured"
  | identityParsed (chain : Chain) (claimed : ClaimedIdentity) :
      IsNamed (.identityParsed chain claimed) "identity_parsed"
  | validated (chain : Chain) (v : ValidatedIdentity) : IsNamed (.validated chain v) "validated"
  | credentialBuilt (c : Credential) : IsNamed (.credentialBuilt c) "credential_built"
  | authenticating : IsNamed .authenticating "authenticating"
  | authenticated (c : Credential) : IsNamed (.authenticated c) "authenticated"
  | rejected (r : RejectReason) : IsNamed (.rejected r) "rejected"

/-- The words in which the reasons are given. -/
inductive RejectReason.IsWorded : RejectReason → String → Prop
  | noCertificate : IsWorded .noCertificate "no client certificate presented"
  | missingDeviceId : IsWorded .missingDeviceId "certificate carries no device id"
  | moduleWithoutDevice (m : String) :
      IsWorded (.moduleWithoutDevice m) ("module id '" ++ m ++ "' presented without a device id")
  | hubNameMismatch (expected presented : String) :
      IsWorded (.hubNameMismatch expected presented)
        ("hub name '" ++ presented ++ "' does not match '" ++ expected ++ "'")
  | credentialBuild (text : String) :
      IsWorded (.credentialBuild text) ("credential could not be built: " ++ text)
  | authenticatorDenied :
      IsWorded .authenticatorDenied "identity authority denied the credential"
  | authenticatorFault (text : String) :
      IsWorded (.authenticatorFault text) ("identity authority fault: " ++ text)
  | certificateInvalid (text : String) :
      IsWorded (.certificateInvalid text) ("certificate chain rejected: " ++ text)
  | outOfOrder : IsWorded .outOfOrder "handshake step out of order"

/-- An event tells of entering a state from another one: it is a warning with the reason if the
state is a rejection, and else it is for debugging and names the state. -/
structure LogEvent.Tells (e : LogEvent) (source target : HandshakeState) : Prop where
  source : ∃ name, source.IsNamed name ∧ e.fields.lookup "from" = some (.literal name)
  rejected : ∀ r, target = .rejected r →
    e.level = .warn ∧ ∃ words, r.IsWorded words ∧ e.fields.lookup "reason" = some (.text words)
  entered : (∀ r, target ≠ .rejected r) →
    e.level = .debug ∧
      ∃ name, target.IsNamed name ∧ e.fields.lookup "to" = some (.literal name)

/-- Events that tell of a walk from one state to another, each from where the one before led. -/
inductive Walk : HandshakeState → Log → HandshakeState → Prop
  | here (s : HandshakeState) : Walk s [] s
  | step {s t u : HandshakeState} {e : LogEvent} {es : Log} (h : e.Tells s t) (rest : Walk t es u) :
    Walk s (e :: es) u

/-- Whether an event names a state, as the one that was left or as the one that was entered. -/
def LogEvent.Names (e : LogEvent) (name : String) : Prop :=
  ("from", .literal name) ∈ e.fields ∨ ("to", .literal name) ∈ e.fields

/-- The error that a consultation came back with, if it is no fault of the authority. -/
def Consultation.failure? (c : Consultation) : Option GatewayError :=
  match c.delivery.result with
  | .ok _ => none
  | .error (.authentication _) => none
  | .error (.authenticationTimeout _) => none
  | .error (.http _) => none
  | .error (.json _) => none
  | .error e => some e

/-- The event of an error that is no fault of the authority. -/
def failureEvent (e : GatewayError) : LogEvent where
  area := .handshake
  level := .error
  message := "Authentication bridge failed"
  fields := [("error", e.message)]

theorem Walk.concat {s t u : HandshakeState} {e : LogEvent} {es : Log} (h : Walk s es t)
    (he : e.Tells t u) : Walk s (es ++ [e]) u := by
  induction h with
  | here s => exact .step he (.here u)
  | step hfirst _ ih => exact .step hfirst (ih he)

theorem HandshakeState.isNamed_name (s : HandshakeState) : s.IsNamed s.name := by
  cases s <;> constructor

theorem RejectReason.isWorded_message (r : RejectReason) : r.IsWorded r.message := by
  cases r <;> constructor

theorem HandshakeState.name_ne_authenticating {s : HandshakeState} (h : s ≠ .authenticating) :
    s.name ≠ "authenticating" := by
  cases s with
  | authenticating => exact (h rfl).elim
  | _ => simp [name]

namespace Machine

def transitions (m : Machine) : Log := m.log.filter (·.isTransition)

def errors (m : Machine) : Log := m.log.filter (·.level == .error)

/-! ### Single events -/

theorem transitionEvent_tells (source target : HandshakeState) :
    (transitionEvent source.name target).Tells source target := by
  have hsource := source.isNamed_name
  have htarget := target.isNamed_name
  cases target with
  | rejected r =>
    refine ⟨⟨_, hsource, rfl⟩, ?_, fun h => (h r rfl).elim⟩
    rintro _ ⟨⟩
    exact ⟨rfl, _, r.isWorded_message, rfl⟩
  | _ => exact ⟨⟨_, hsource, rfl⟩, nofun, fun _ => ⟨rfl, _, htarget, rfl⟩⟩

theorem transitionEvent_isTransition (source : String) (target : HandshakeState) :
    (transitionEvent source target).isTransition = true := by
  cases target <;> rfl

theorem transitionEvent_level (source : String) (target : HandshakeState) :
    ((transitionEvent source target).level == .error) = false := by
  cases target <;> rfl

theorem transitionEvent_names {source target : HandshakeState} (hs : source ≠ .authenticating)
    (ht : target ≠ .authenticating) :
    ¬ (transitionEvent source.name target).Names "authenticating" := by
  have hsource := HandshakeState.name_ne_authenticating hs
  have htarget := HandshakeState.name_ne_authenticating ht
  cases target <;> simp_all [LogEvent.Names, transitionEvent, eq_comm]

theorem enter_transitions (m : Machine) (next : HandshakeState) :
    (m.enter next).transitions = m.transitions ++ [transitionEvent m.state.name next] := by
  simp only [transitions, enter, List.filter_append, List.filter_cons,
    transitionEvent_isTransition, if_true, List.filter_nil]

theorem enter_errors (m : Machine) (next : HandshakeState) :
    (m.enter next).errors = m.errors := by
  simp only [errors, enter, List.filter_append, List.filter_cons, transitionEvent_level,
    Bool.false_eq_true, if_false, List.filter_nil, List.append_nil]

/-! ### Notes between transitions -/

/-- Notes that tell of no transition and name no state, and whose errors are given. -/
structure AreNotes (notes errors : Log) : Prop where
  transitions : notes.filter (·.isTransition) = []
  errors : notes.filter (·.level == .error) = errors
  names : ∀ e ∈ notes, ∀ name, ¬ e.Names name

theorem areNotes_nil : AreNotes [] [] := ⟨rfl, rfl, by simp⟩

theorem areNotes_parseLog (leaf : Bytes) : AreNotes (parseLog leaf) [] := by
  unfold parseLog
  split
  · exact areNotes_nil
  · exact ⟨rfl, rfl, by simp [LogEvent.Names]⟩

theorem areNotes_consultLog (c : Consultation) :
    AreNotes (consultLog c.delivery.result) (c.failure?.toList.map failureEvent) := by
  unfold Consultation.failure?
  cases c.delivery.result with
  | ok b => exact areNotes_nil
  | error e =>
    cases e with
    | authentication t => exact areNotes_nil
    | authenticationTimeout d => exact areNotes_nil
    | http t => exact areNotes_nil
    | json t => exact areNotes_nil
    | _ =>
      refine ⟨rfl, rfl, ?_⟩
      simp [consultLog, LogEvent.Names, GatewayError.isAuthenticationFault]

theorem AreNotes.note_transitions {notes errors : Log} (h : AreNotes notes errors) (m : Machine) :
    (m.note notes).transitions = m.transitions := by
  simp only [Machine.transitions, note, List.filter_append, h.transitions, List.append_nil]

/-! ### Single steps -/

theorem capture_eq_enter (m : Machine) (leaf : Option Bytes) (intermediates : List Bytes) :
    ∃ next, m.capture leaf intermediates = m.enter next := by
  by_cases hidle : m.state = .idle
  · exact ⟨_, capture_of_idle m leaf intermediates hidle⟩
  · exact ⟨_, capture_of_ne_idle m leaf intermediates hidle⟩

/-- An advance before the end makes notes and enters a state; its errors are those of the
consultation that it makes, if it makes one. -/
theorem advance_eq_enter (ctx : AuthContext σ) (m : Machine) (w : σ)
    (consulted : List Consultation) (h : m.state.isTerminal = false) :
    ∃ notes next made, (m.advance ctx.recording (w, consulted)).1 = (m.note notes).enter next ∧
      (m.advance ctx.recording (w, consulted)).2.2 = consulted ++ made ∧
      AreNotes notes ((made.filterMap Consultation.failure?).map failureEvent) := by
  have hquiet : ∀ next, m.advance ctx.recording (w, consulted) = (m.enter next, (w, consulted)) →
      ∃ notes next made, (m.advance ctx.recording (w, consulted)).1 = (m.note notes).enter next ∧
        (m.advance ctx.recording (w, consulted)).2.2 = consulted ++ made ∧
        AreNotes notes ((made.filterMap Consultation.failure?).map failureEvent) := by
    intro next hnext
    refine ⟨[], next, [], ?_, ?_, areNotes_nil⟩
    · rw [hnext, note, List.append_nil]
    · rw [hnext, List.append_nil]
  cases hs : m.state with
  | idle => exact hquiet (.rejected .outOfOrder) (by simp only [advance, hs])
  | chainCaptured chain =>
    refine ⟨parseLog chain.leaf, .identityParsed chain (Certificate.identityOf chain.leaf), [],
      ?_, ?_, areNotes_parseLog chain.leaf⟩
    · simp only [advance, hs]
    · simp only [advance, hs, List.append_nil]
  | identityParsed chain claimed =>
    exact hquiet (judged ctx.hubName chain claimed) (by simp only [advance, hs]; rfl)
  | validated chain v =>
    exact hquiet (built ctx.factory chain v) (by simp only [advance, hs]; rfl)
  | credentialBuilt c =>
    have hnotes := areNotes_consultLog ⟨c, (ctx.consult c w).1⟩
    refine ⟨consultLog (ctx.consult c w).1.result, decided c (ctx.consult c w).1.result,
      [⟨c, (ctx.consult c w).1⟩], ?_, ?_, ?_⟩
    · simp only [advance, hs]
      rfl
    · simp only [advance, hs]
      rfl
    · cases hfailure : (Consultation.mk c (ctx.consult c w).1).failure? with
      | none => simpa [hfailure] using hnotes
      | some e => simpa [hfailure] using hnotes
  | authenticating => exact hquiet (.rejected .outOfOrder) (by simp only [advance, hs])
  | authenticated c =>
    rw [hs] at h
    cases h
  | rejected r =>
    rw [hs] at h
    cases h

/-! ### What the log tells -/

/-- What the log of a machine tells: the walk to the state that it is in, and the consultations that
failed by no fault of the authority. -/
structure Told (m : Machine) (consulted : List Consultation) : Prop where
  walk : Walk .idle m.transitions m.state
  awake : m.state ≠ .authenticating
  names : ∀ e ∈ m.log, ¬ e.Names "authenticating"
  errors : m.errors = (consulted.filterMap Consultation.failure?).map failureEvent

variable {ctx : AuthContext σ} {m : Machine} {consulted : List Consultation}

theorem fresh_told : Told .fresh [] := ⟨.here .idle, by simp [fresh], by simp [fresh], rfl⟩

theorem Told.note {notes : Log} {made : List Consultation} (h : Told m consulted)
    (hnotes : AreNotes notes ((made.filterMap Consultation.failure?).map failureEvent)) :
    Told (m.note notes) (consulted ++ made) where
  walk := by
    rw [hnotes.note_transitions, note_state]
    exact h.walk
  awake := h.awake
  names := by
    intro e he
    rcases List.mem_append.mp he with he | he
    · exact h.names e he
    · exact hnotes.names e he _
  errors := by
    rw [List.filterMap_append, List.map_append, ← h.errors, ← hnotes.errors]
    exact List.filter_append ..

theorem Told.enter {next : HandshakeState} (h : Told m consulted) (hnext : next ≠ .authenticating) :
    Told (m.enter next) consulted where
  walk := by
    rw [enter_transitions]
    exact h.walk.concat (transitionEvent_tells m.state next)
  awake := hnext
  names := by
    intro e he
    rcases List.mem_append.mp he with he | he
    · exact h.names e he
    · rw [List.mem_singleton.mp he]
      exact transitionEvent_names h.awake hnext
  errors := by
    rw [enter_errors]
    exact h.errors

theorem Told.capture (h : Told m consulted) (leaf : Option Bytes) (intermediates : List Bytes) :
    Told (m.capture leaf intermediates) consulted := by
  have hafter := (capture_follows m leaf intermediates).2
  obtain ⟨next, hnext⟩ := capture_eq_enter m leaf intermediates
  rw [hnext] at hafter ⊢
  exact h.enter hafter

theorem Told.advance {w : σ × List Consultation} (h : Told m w.2) :
    Told (m.advance ctx.recording w).1 (m.advance ctx.recording w).2.2 := by
  cases hm : m.state.isTerminal with
  | true =>
    rw [advance_of_terminal ctx.recording m w hm]
    exact h
  | false =>
    have hafter := (advance_follows ctx.recording m w).2
    obtain ⟨notes, next, made, hmachine, hmade, hnotes⟩ := advance_eq_enter ctx m w.1 w.2 hm
    rw [hmachine] at hafter ⊢
    rw [hmade]
    exact (h.note hnotes).enter hafter

theorem Told.settle (n : Nat) {w : σ × List Consultation} (h : Told m w.2) :
    Told (settle ctx.recording n m w).1 (settle ctx.recording n m w).2.2 := by
  induction n generalizing m w with
  | zero => exact h
  | succ n ih =>
    simp only [Machine.settle]
    split
    · exact h
    · exact ih h.advance

theorem Told.apply {s : Machine × (σ × List Consultation)} (h : Told s.1 s.2.2) (op : Op) :
    Told (apply ctx.recording s op).1 (apply ctx.recording s op).2.2 := by
  cases op with
  | capture leaf intermediates => exact h.capture leaf intermediates
  | advance => exact h.advance
  | run leaf intermediates => exact (h.capture leaf intermediates).settle _
  | reject reason => exact h.enter (by simp)

theorem Told.applyAll {s : Machine × (σ × List Consultation)} (h : Told s.1 s.2.2)
    (ops : List Op) :
    Told (applyAll ctx.recording s ops).1 (applyAll ctx.recording s ops).2.2 := by
  induction ops generalizing s with
  | nil => exact h
  | cons op ops ih => exact ih (h.apply op)

theorem fresh_applyAll_told (ctx : AuthContext σ) (w : σ) (ops : List Op) :
    Told (Machine.applyAll ctx (.fresh, w) ops).1 (consultations ctx w ops) := by
  have hsame := congrArg Prod.fst (applyAll_recording ctx (.fresh, (w, [])) ops)
  have htold : Told (Machine.applyAll ctx.recording (.fresh, (w, [])) ops).1
      (consultations ctx w ops) := fresh_told.applyAll ops
  simp only [unrecorded] at hsame
  rwa [hsame] at htold

/-! ### How many events a step adds -/

/-- A machine that went on and told of a number of transitions meanwhile. -/
def Adds (n : Nat) (before after : Machine) : Prop :=
  ∃ added : Log, after.transitions = before.transitions ++ added ∧ added.length = n

theorem Adds.refl (m : Machine) : Adds 0 m m := ⟨[], (List.append_nil _).symm, rfl⟩

theorem Adds.trans {j k : Nat} {a b c : Machine} (hab : Adds j a b) (hbc : Adds k b c) :
    Adds (j + k) a c := by
  obtain ⟨first, hb, rfl⟩ := hab
  obtain ⟨second, hc, rfl⟩ := hbc
  exact ⟨first ++ second, by rw [hc, hb, List.append_assoc], List.length_append⟩

theorem adds_enter (m : Machine) (next : HandshakeState) : Adds 1 m (m.enter next) :=
  ⟨_, enter_transitions m next, rfl⟩

theorem adds_capture (m : Machine) (leaf : Option Bytes) (intermediates : List Bytes) :
    Adds 1 m (m.capture leaf intermediates) := by
  obtain ⟨next, hnext⟩ := capture_eq_enter m leaf intermediates
  rw [hnext]
  exact adds_enter m next

theorem adds_advance (ctx : AuthContext σ) (m : Machine) (w : σ) :
    Adds (if m.state.isTerminal then 0 else 1) m (m.advance ctx w).1 := by
  cases hm : m.state.isTerminal with
  | true =>
    rw [advance_of_terminal ctx m w hm]
    exact .refl m
  | false =>
    obtain ⟨notes, next, made, hmachine, -, hnotes⟩ := advance_eq_enter ctx m w [] hm
    have hsame : (m.advance ctx.recording (w, [])).1 = (m.advance ctx w).1 :=
      congrArg Prod.fst (advance_recording ctx m (w, []))
    have hnoted : Adds 0 m (m.note notes) := ⟨[], by rw [hnotes.note_transitions, List.append_nil],
      rfl⟩
    rw [← hsame, hmachine]
    exact hnoted.trans (adds_enter _ next)

/-- Going on to the end is as many advances as it takes, none of them at the end. -/
theorem settle_eq_advances (ctx : AuthContext σ) (n : Nat) (m : Machine) (w : σ) :
    ∃ k, settle ctx n m w = applyAll ctx (m, w) (List.replicate k .advance) ∧
      (∀ j < k, (applyAll ctx (m, w) (List.replicate j .advance)).1.state.isTerminal = false) ∧
      Adds k m (settle ctx n m w).1 := by
  induction n generalizing m w with
  | zero => exact ⟨0, rfl, nofun, .refl m⟩
  | succ n ih =>
    cases hm : m.state.isTerminal with
    | true =>
      rw [settle_of_terminal ctx _ m w hm]
      exact ⟨0, rfl, nofun, .refl m⟩
    | false =>
      have hfirst := adds_advance ctx m w
      obtain ⟨k, hsettle, hbefore, hadds⟩ := ih (m.advance ctx w).1 (m.advance ctx w).2
      rw [hm] at hfirst
      rw [settle_succ ctx n m w hm]
      refine ⟨k + 1, hsettle, ?_, ?_⟩
      · intro j hj
        cases j with
        | zero => exact hm
        | succ j => exact hbefore j (Nat.lt_of_succ_lt_succ hj)
      · rw [Nat.add_comm]
        exact hfirst.trans hadds

/-- Whatever is done with a fresh machine, its transition events tell of a walk from the idle state
to the state that it is in, without naming the wait for the authority anywhere; and it logged an
error for each consultation that failed by no fault of the authority, and no other. The next advance
does nothing at the end of the walk and adds a transition event before it, a capture or a rejection
adds one, and a run is a capture and then advances up to the end, each adding one. -/
theorem log_tells_walk (ctx : AuthContext σ) (w : σ) (ops : List Op) :
    let s := applyAll ctx (.fresh, w) ops
    Walk .idle s.1.transitions s.1.state ∧
    (∀ e ∈ s.1.log, ¬ e.Names "authenticating") ∧
    s.1.errors = ((consultations ctx w ops).filterMap Consultation.failure?).map failureEvent ∧
    (s.1.state.isTerminal = true → apply ctx s .advance = s) ∧
    Adds (if s.1.state.isTerminal then 0 else 1) s.1 (apply ctx s .advance).1 ∧
    (∀ leaf intermediates, Adds 1 s.1 (apply ctx s (.capture leaf intermediates)).1) ∧
    (∀ reason, Adds 1 s.1 (apply ctx s (.reject reason)).1) ∧
    (∀ leaf intermediates,
      let captured := apply ctx s (.capture leaf intermediates)
      let after := apply ctx s (.run leaf intermediates)
      ∃ k, after = applyAll ctx captured (List.replicate k .advance) ∧
        (∀ j < k,
          (applyAll ctx captured (List.replicate j .advance)).1.state.isTerminal = false) ∧
        after.1.state.isTerminal = true ∧ Adds (1 + k) s.1 after.1) := by
  intro s
  have htold := fresh_applyAll_told ctx w ops
  refine ⟨htold.walk, htold.names, htold.errors, advance_of_terminal ctx s.1 s.2,
    adds_advance ctx s.1 s.2, adds_capture s.1, fun reason => adds_enter s.1 _, ?_⟩
  intro leaf intermediates captured after
  have hcapture := adds_capture s.1 leaf intermediates
  obtain ⟨k, hsettle, hbefore, hadds⟩ :=
    settle_eq_advances ctx captured.1.state.stepsLeft captured.1 captured.2
  exact ⟨k, hsettle, hbefore, run_isTerminal ctx s.1 leaf intermediates s.2,
    hcapture.trans hadds⟩

end Machine
end DeviceGateway
