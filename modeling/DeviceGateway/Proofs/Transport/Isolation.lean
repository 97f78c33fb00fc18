import Mathlib.Data.List.Nodup
import DeviceGateway.Proofs.Handshake.NamedModule
import DeviceGateway.Proofs.Transport.Granted

/-!
# Connections side by side

All connections of a listener share the hub and the factory of their context and the bridge to the
authority, which is heard over the bridge alone; the pieces of their calls come in any order. Each
connection goes its own way all the same: it is what its own pieces make of it, with the answer to
its own question and the judgements of its own chain, and a principal comes from the chain and the
question of its own connection.
-/

namespace DeviceGateway

variable {σ : Type} (ctx : AuthContext σ)

/-- A question to the authority: which call of which connection asks it, about whom, and as which
call of the bridge. -/
structure Inquiry where
  connection : Nat
  hook : Nat
  credential : Credential
  number : Nat
  deriving DecidableEq

/-- The connections of a listener, by number: the bridge that they share, and what was asked over
it. -/
structure Fleet where
  bridge : Pool (Except GatewayError Bool)
  inquiries : List Inquiry
  connection : Nat → LiveConnection

inductive OwnEvent where
  | call (call : HookCall)
  | answered (n : Nat)
  | judged (n : Nat) (judgement : Except TlsError Unit)
  | written (n : Nat)
  | createPrincipal

inductive FleetEvent where
  | own (i : Nat) (event : OwnEvent)
  | bridge (event : PoolEvent (Except GatewayError Bool))

namespace Fleet

variable (deadline : Duration)

/-- A listener without connections yet; a new one is fresh. -/
def create (limit : Nat) : Fleet := ⟨.create limit, [], fun _ => .fresh⟩

def inquiriesOf (f : Fleet) (i : Nat) : List Inquiry := f.inquiries.filter (·.connection == i)

/-- What the bridge has handed to a call of a connection, if it has. -/
def answerTo (f : Fleet) (i n : Nat) : Option (Except GatewayError Bool) := do
  let q ← f.inquiries.find? fun q => q.connection == i && q.hook == n
  let r ← f.bridge.delivered.lookup q.number
  return (Delivery.ofCall true r).result

/-- The step that an event is on its connection; an answer that is not there yet is none. -/
def stepOf (f : Fleet) (i : Nat) : OwnEvent → Option ConnectionStep
  | .call call => some (.call call)
  | .answered n => (f.answerTo i n).map fun r => .resume n (.answered r)
  | .judged n judgement => some (.resume n (.judged judgement))
  | .written n => some (.resume n .written)
  | .createPrincipal => some .createPrincipal

def bridgeAfter (f : Fleet) : Option Credential → Pool (Except GatewayError Bool)
  | some _ => f.bridge.step (.spawned deadline)
  | none => f.bridge

def act (f : Fleet) (i : Nat) (step : ConnectionStep) : Fleet where
  bridge := f.bridgeAfter deadline ((f.connection i).asks? ctx step)
  inquiries := f.inquiries ++ ((f.connection i).inquiry ctx step).map fun q =>
    ⟨i, q.1, q.2, f.bridge.calls.length⟩
  connection := Function.update f.connection i ((f.connection i).step ctx step)

def step (f : Fleet) : FleetEvent → Fleet
  | .own i event =>
    match f.stepOf i event with
    | some step => f.act ctx deadline i step
    | none => f
  | .bridge event => { f with bridge := f.bridge.step event }

def run (f : Fleet) (events : List FleetEvent) : Fleet :=
  events.foldl (step ctx deadline) f

theorem run_cons (f : Fleet) (e : FleetEvent) (es : List FleetEvent) :
    f.run ctx deadline (e :: es) = (f.step ctx deadline e).run ctx deadline es := rfl

def ownStep (f : Fleet) (i : Nat) : FleetEvent → Option ConnectionStep
  | .own j event => if j = i then f.stepOf i event else none
  | .bridge _ => none

/-- The steps of one connection among events, with what it was told. -/
def ownSteps (i : Nat) : Fleet → List FleetEvent → List ConnectionStep
  | _, [] => []
  | f, e :: es => (f.ownStep i e).toList ++ ownSteps i (f.step ctx deadline e) es

variable {ctx deadline}

/-! ### Each connection by itself -/

theorem step_connection (f : Fleet) (i : Nat) (e : FleetEvent) :
    (f.step ctx deadline e).connection i = (f.connection i).run ctx (f.ownStep i e).toList := by
  cases e with
  | own j event =>
    simp only [step, ownStep]
    cases hs : f.stepOf j event with
    | none =>
      by_cases hj : j = i
      · subst hj
        simp [hs, LiveConnection.run]
      · simp [hj, LiveConnection.run]
    | some step =>
      simp only [act]
      by_cases hj : j = i
      · subst hj
        simp [hs, LiveConnection.run]
      · simp [hj, Function.update_of_ne (Ne.symm hj), LiveConnection.run]
  | bridge event => rfl

theorem run_connection (f : Fleet) (i : Nat) (events : List FleetEvent) :
    (f.run ctx deadline events).connection i =
      (f.connection i).run ctx (ownSteps ctx deadline i f events) := by
  induction events generalizing f with
  | nil => rfl
  | cons e es ih =>
    rw [run_cons, ih, step_connection, ← LiveConnection.run_append]
    rfl

/-! ### The questions of each connection -/

/-- What the questions over the bridge are: each connection's are its own, and no two are the same
call of the bridge. -/
structure Numbered (f : Fleet) : Prop where
  started : ∀ q ∈ f.inquiries, q.number < f.bridge.calls.length
  distinct : (f.inquiries.map Inquiry.number).Nodup
  own : ∀ i, (f.inquiriesOf i).map (fun q => (q.hook, q.credential)) = (f.connection i).asked

theorem create_numbered (limit : Nat) : Numbered (create limit) where
  started := by simp [create]
  distinct := by simp [create]
  own := by simp [create, inquiriesOf, LiveConnection.fresh]

variable {f : Fleet}

theorem act_bridge (ctx : AuthContext σ) (deadline : Duration) (f : Fleet) (i : Nat)
    (step : ConnectionStep) :
    ((f.act ctx deadline i step).inquiries = f.inquiries ∧
      (f.act ctx deadline i step).bridge = f.bridge) ∨
    ∃ q : Inquiry, q.number = f.bridge.calls.length ∧
      (f.act ctx deadline i step).inquiries = f.inquiries ++ [q] ∧
      (f.act ctx deadline i step).bridge = f.bridge.step (.spawned deadline) := by
  simp only [act, LiveConnection.inquiry]
  cases (f.connection i).asks? ctx step with
  | none => exact .inl ⟨List.append_nil _, rfl⟩
  | some c => exact .inr ⟨⟨i, _, c, f.bridge.calls.length⟩, rfl, rfl, rfl⟩

theorem act_own (h : Numbered f) (i j : Nat) (step : ConnectionStep) :
    ((f.act ctx deadline i step).inquiriesOf j).map (fun q => (q.hook, q.credential)) =
      ((f.act ctx deadline i step).connection j).asked := by
  have hown := h.own j
  unfold inquiriesOf at hown
  simp only [inquiriesOf, act, List.filter_append, List.map_append, hown, List.filter_map,
    List.map_map]
  -- what is new is asked by the connection that takes the step
  by_cases hj : j = i
  · subst hj
    rw [Function.update_self, LiveConnection.asked_step]
    simp [Function.comp_def]
  · simp [Function.update_of_ne hj, Function.comp_def, Ne.symm hj]

theorem act_numbered (h : Numbered f) (i : Nat) (step : ConnectionStep) :
    Numbered (f.act ctx deadline i step) := by
  rcases act_bridge ctx deadline f i step with
    ⟨hinquiries, hbridge⟩ | ⟨new, hnew, hinquiries, hbridge⟩
  -- nobody is asked
  · refine ⟨?_, ?_, fun j => act_own h i j step⟩
    · rw [hinquiries, hbridge]
      exact h.started
    · rw [hinquiries]
      exact h.distinct
  -- a new call of the bridge has a number that no call has had
  · have hlength : (f.bridge.step (.spawned deadline)).calls.length = f.bridge.calls.length + 1 :=
      List.length_append
    refine ⟨?_, ?_, fun j => act_own h i j step⟩
    · intro q hq
      rw [hinquiries] at hq
      rw [hbridge]
      rcases List.mem_append.mp hq with hq | hq
      · have hold := h.started q hq
        omega
      · rw [List.mem_singleton.mp hq]
        omega
    · rw [hinquiries, List.map_append, List.map_singleton, ← List.concat_eq_append,
        List.nodup_concat]
      refine ⟨?_, h.distinct⟩
      intro hmem
      obtain ⟨q, hq, hsame⟩ := List.mem_map.mp hmem
      have hold := h.started q hq
      omega

theorem step_numbered (h : Numbered f) (e : FleetEvent) :
    Numbered (f.step ctx deadline e) := by
  cases e with
  | own i event =>
    simp only [step]
    cases f.stepOf i event with
    | none => exact h
    | some step => exact act_numbered h i step
  | bridge event =>
    refine ⟨?_, h.distinct, h.own⟩
    intro q hq
    exact Nat.lt_of_lt_of_le (h.started q hq) (f.bridge.length_calls_le_step event)

theorem run_numbered (h : Numbered f) (events : List FleetEvent) :
    Numbered (f.run ctx deadline events) := by
  induction events generalizing f with
  | nil => exact h
  | cons e es ih => exact ih (step_numbered h e)

theorem Numbered.inquiriesOf_eq (h : Numbered f) {i n : Nat} {c : Credential}
    (hasked : (f.connection i).asked = [(n, c)]) : ∃ k, f.inquiriesOf i = [⟨i, n, c, k⟩] := by
  have hlisted := h.own i
  rw [hasked] at hlisted
  obtain ⟨⟨j, m, d, k⟩, hsingle, hsame⟩ := List.map_eq_singleton_iff.mp hlisted
  obtain ⟨rfl, rfl⟩ := Prod.mk.inj hsame.symm
  have hmem : (⟨j, n, c, k⟩ : Inquiry) ∈ f.inquiriesOf i := by
    rw [hsingle]
    exact List.mem_singleton_self _
  obtain rfl : j = i := by simpa using (List.mem_filter.mp hmem).2
  exact ⟨k, hsingle⟩

/-! ### The answers to them -/

theorem act_delivered (f : Fleet) (i : Nat) (step : ConnectionStep) :
    (f.act ctx deadline i step).bridge.delivered = f.bridge.delivered := by
  simp only [act]
  cases (f.connection i).asks? ctx step <;> rfl

theorem subset_step (ctx : AuthContext σ) (deadline : Duration) (f : Fleet) (e : FleetEvent) :
    f.inquiries ⊆ (f.step ctx deadline e).inquiries ∧
      f.bridge.delivered ⊆ (f.step ctx deadline e).bridge.delivered := by
  cases e with
  | own i event =>
    simp only [step]
    cases f.stepOf i event with
    | none => exact ⟨List.Subset.refl _, List.Subset.refl _⟩
    | some step =>
      refine ⟨List.subset_append_left _ _, ?_⟩
      rw [act_delivered]
      exact List.Subset.refl _
  | bridge event => exact ⟨List.Subset.refl _, f.bridge.delivered_subset_step event⟩

theorem subset_run (ctx : AuthContext σ) (deadline : Duration) (f : Fleet)
    (events : List FleetEvent) :
    f.inquiries ⊆ (f.run ctx deadline events).inquiries ∧
      f.bridge.delivered ⊆ (f.run ctx deadline events).bridge.delivered := by
  induction events generalizing f with
  | nil => exact ⟨List.Subset.refl _, List.Subset.refl _⟩
  | cons e es ih =>
    obtain ⟨hinquiries, hdelivered⟩ := subset_step ctx deadline f e
    obtain ⟨hrest, hdeliveredRest⟩ := ih (f.step ctx deadline e)
    exact ⟨List.Subset.trans hinquiries hrest, List.Subset.trans hdelivered hdeliveredRest⟩

def Answered (f : Fleet) (i n : Nat) (r : Except GatewayError Bool) : Prop :=
  ∃ q ∈ f.inquiriesOf i, q.hook = n ∧
    ∃ d, (q.number, d) ∈ f.bridge.delivered ∧ (Delivery.ofCall true d).result = r

theorem answerTo_answered {i n : Nat} {r : Except GatewayError Bool}
    (h : f.answerTo i n = some r) : f.Answered i n r := by
  simp only [answerTo, Option.bind_eq_bind, Option.bind_eq_some_iff] at h
  obtain ⟨q, hfind, d, hlookup, hr⟩ := h
  have hq := List.mem_of_find?_eq_some hfind
  have hmatch := List.find?_some hfind
  simp only [Bool.and_eq_true, beq_iff_eq] at hmatch
  obtain ⟨newer, older, hdelivered, -⟩ := List.lookup_eq_some_iff.mp hlookup
  refine ⟨q, List.mem_filter.mpr ⟨hq, by simp [hmatch.1]⟩, hmatch.2, d, ?_, Option.some.inj hr⟩
  rw [hdelivered]
  exact List.mem_append_right _ List.mem_cons_self

theorem ownStep_answered {e : FleetEvent} {i n : Nat} {r : Except GatewayError Bool}
    (h : f.ownStep i e = some (.resume n (.answered r))) : f.Answered i n r := by
  cases e with
  | bridge event => cases h
  | own j event =>
    simp only [ownStep] at h
    split at h
    · next hj =>
      subst hj
      cases event with
      | answered m =>
        obtain ⟨d, hd, hsame⟩ := Option.map_eq_some_iff.mp h
        cases hsame
        exact answerTo_answered hd
      | _ => simp [stepOf] at h
    · cases h

theorem Answered.run {i n : Nat} {r : Except GatewayError Bool} (h : f.Answered i n r)
    (events : List FleetEvent) : (f.run ctx deadline events).Answered i n r := by
  obtain ⟨q, hq, hn, d, hd, hr⟩ := h
  obtain ⟨hinquiries, hdelivered⟩ := subset_run ctx deadline f events
  exact ⟨q, List.filter_subset _ hinquiries hq, hn, d, hdelivered hd, hr⟩

/-- What a connection was told is what the bridge answered to its own question. -/
theorem answered_of_mem_ownSteps {i n : Nat} {r : Except GatewayError Bool} (f : Fleet)
    (events : List FleetEvent) (h : .resume n (.answered r) ∈ ownSteps ctx deadline i f events) :
    (f.run ctx deadline events).Answered i n r := by
  induction events generalizing f with
  | nil => cases h
  | cons e es ih =>
    rcases List.mem_append.mp h with hhead | hrest
    · have hstep : f.ownStep i e = some (.resume n (.answered r)) := by simpa using hhead
      exact (ownStep_answered hstep).run (e :: es)
    · exact ih _ hrest

theorem returned_of_delivered_step {k : Nat} {v : Except GatewayError Bool} {e : FleetEvent}
    (h : (k, .ok v) ∈ (f.step ctx deadline e).bridge.delivered) :
    (k, .ok v) ∈ f.bridge.delivered ∨ .bridge (.returned k v) = e := by
  cases e with
  | own i event =>
    simp only [step] at h
    cases hs : f.stepOf i event with
    | none =>
      rw [hs] at h
      exact .inl h
    | some step =>
      rw [hs] at h
      exact .inl (act_delivered f i step ▸ h)
  | bridge event =>
    rcases f.bridge.step_delivered event with hsame | ⟨n, r, hnew, hreturned⟩
    · rw [← hsame]
      exact .inl h
    · have h : (k, .ok v) ∈ (f.bridge.step event).delivered := h
      rw [hnew] at h
      rcases List.mem_cons.mp h with heq | hold
      · cases heq
        exact .inr (congrArg FleetEvent.bridge (hreturned v rfl).symm)
      · exact .inl hold

/-- A value that the bridge handed out was returned by the authority. -/
theorem returned_of_delivered {k : Nat} {v : Except GatewayError Bool} (f : Fleet)
    (events : List FleetEvent) (h : (k, .ok v) ∈ (f.run ctx deadline events).bridge.delivered) :
    (k, .ok v) ∈ f.bridge.delivered ∨ .bridge (.returned k v) ∈ events := by
  induction events generalizing f with
  | nil => exact .inl h
  | cons e es ih =>
    rcases ih _ h with hstep | hrest
    · rcases returned_of_delivered_step hstep with hold | rfl
      · exact .inl hold
      · exact .inr List.mem_cons_self
    · exact .inr (List.mem_cons_of_mem _ hrest)

theorem result_ofCall_eq_ok {d : Except GatewayError (Except GatewayError Bool)} {b : Bool}
    (h : (Delivery.ofCall true d).result = .ok b) : d = .ok (.ok b) := by
  cases d with
  | ok answer => exact congrArg Except.ok h
  | error e => cases h

/-- However the pieces of all calls come, and whatever happens at the bridge: a principal of a
connection carries the chain that was presented on this connection, in the credential made of it,
and the authority said yes to that credential when this connection asked, which it did once. A
connection is what its own pieces make of it, in their order and with what they were told; with it
are all answers of its calls and its principals. -/
theorem own_identity (ctx : AuthContext σ) (deadline : Duration) (limit : Nat)
    (events : List FleetEvent) (i : Nat) :
    let f := (create limit).run ctx deadline events
    (∀ p, some p ∈ (f.connection i).principals → ∃ n leaf intermediates v c k,
      p = ⟨.succeeded c⟩ ∧
      ((f.connection i).hooks[n]?).map HookRun.call = some (.verify leaf intermediates) ∧
      (Certificate.identityOf leaf).validate ctx.hubName = .ok v ∧
      ctx.factory ⟨v.deviceId, v.moduleId, "", leaf, leaf :: intermediates⟩ = .ok c ∧
      (∀ factoryHub, ctx.factory = x509Factory factoryHub →
        c.certificate = leaf ∧ c.chain = leaf :: intermediates) ∧
      f.inquiriesOf i = [⟨i, n, c, k⟩] ∧
      (∀ q ∈ f.inquiries, q.number = k → q.connection = i) ∧
      .bridge (.returned k (.ok true)) ∈ events) ∧
    f.connection i =
      LiveConnection.fresh.run ctx (ownSteps ctx deadline i (create limit) events) := by
  intro f
  have hown : f.connection i =
      LiveConnection.fresh.run ctx (ownSteps ctx deadline i (create limit) events) :=
    run_connection (create limit) i events
  refine ⟨?_, hown⟩
  intro p hp
  have hnumbered : Numbered f := run_numbered (create_numbered limit) events
  have hsound := LiveConnection.run_sound (LiveConnection.fresh_sound ctx)
    (ownSteps ctx deadline i (create limit) events)
  rw [← hown, List.nil_append] at hsound
  obtain ⟨c, rfl, n, ⟨leaf, intermediates, v, hcall, hmade, hasked⟩, hyes⟩ := hsound.created p hp
  obtain ⟨k, hsingle⟩ := hnumbered.inquiriesOf_eq hasked
  have hmem : (⟨i, n, c, k⟩ : Inquiry) ∈ f.inquiries :=
    List.filter_subset_self _ (hsingle ▸ List.mem_singleton_self _)
  -- the question that was answered is the only one
  obtain ⟨q, hq, -, d, hd, hresult⟩ := answered_of_mem_ownSteps _ events hyes
  obtain rfl : q = ⟨i, n, c, k⟩ := List.mem_singleton.mp (hsingle ▸ hq)
  cases result_ofCall_eq_ok hresult
  have hreturned := returned_of_delivered _ events hd
  refine ⟨n, leaf, intermediates, v, c, k, rfl, hcall, hmade.accepted, hmade.built, ?_, hsingle,
    ?_, ?_⟩
  · intro factoryHub hfactory
    have hbuilt := hmade.built
    rw [hfactory] at hbuilt
    rw [x509Factory_eq_ok hbuilt]
    exact ⟨rfl, rfl⟩
  · intro q hq hk
    have hsame := List.inj_on_of_nodup_map hnumbered.distinct hq hmem hk
    rw [hsame]
  · exact hreturned.resolve_left (by simp [create, Pool.create])

/-- Two clients at once; the authority denies the first and accepts the second. -/
def twoClients (first second : Bytes) : List FleetEvent :=
  [.own 0 (.call (.verify first [])), .own 1 (.call (.verify second [])),
    .bridge (.granted 1), .bridge (.granted 0),
    .bridge (.returned 1 (.ok true)), .bridge (.returned 0 (.ok false)),
    .own 0 (.answered 0), .own 1 (.answered 0), .own 1 (.judged 0 (.ok ())),
    .own 0 (.written 0), .own 1 (.written 0), .own 0 .createPrincipal, .own 1 .createPrincipal]

theorem own_identity_of_two :
    let first := Machine.namingLeaf Machine.utf8Module Machine.utf8Hub
    let second := Machine.namingLeaf Machine.bmpModule Machine.utf8Hub
    let c := Machine.credentialOf "hub-b" (.device "dev1") second
    let f := (create 2).run (Machine.accepting "hub-b") .zero (twoClients first second)
    (f.connection 0).principals = [none] ∧
      (f.connection 1).principals = [some ⟨.succeeded c⟩] ∧
      ∃ n leaf intermediates k, c.chain = leaf :: intermediates ∧
        ((f.connection 1).hooks[n]?).map HookRun.call = some (.verify leaf intermediates) ∧
        f.inquiriesOf 1 = [⟨1, n, c, k⟩] := by
  intro first second c f
  have hfirst : (f.connection 0).principals = [none] := by decide +kernel
  have hsecond : (f.connection 1).principals = [some ⟨.succeeded c⟩] := by decide +kernel
  have hcreated : some ⟨.succeeded c⟩ ∈ (f.connection 1).principals :=
    hsecond ▸ List.mem_singleton_self _
  obtain ⟨n, leaf, intermediates, v, d, k, hd, hcall, -, -, hchain, hinquiries, -, -⟩ :=
    (own_identity (Machine.accepting "hub-b") .zero 2 (twoClients first second) 1).1 _ hcreated
  cases hd
  exact ⟨hfirst, hsecond, n, leaf, intermediates, k, (hchain _ rfl).2, hcall, hinquiries⟩

end Fleet
end DeviceGateway
