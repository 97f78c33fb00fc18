import DeviceGateway.Handshake.Machine
import DeviceGateway.Proofs.Authority.CallResult

/-!
# Consultations

What a machine has the authority asked is kept by running it in a context whose world also keeps the
consultations. Such a run is a run of the machine itself: what is kept is never read. Over a bridge
a consultation reaches the authority exactly if its call gets a permit; an authority that keeps whom
it is asked about tells so itself.
-/

namespace DeviceGateway

/-- One consultation: whom it was about, and what came back. -/
structure Consultation where
  credential : Credential
  delivery : Delivery

theorem Delivery.result_eq_ok_iff (d : Delivery) (b : Bool) :
    d.result = .ok b ↔ d = .heard (.ok b) := by
  cases d with
  | unheard e => simp [result]
  | heard r => simp [result]

variable {σ τ : Type}

/-- One context in a larger world: it comes to the same, and to the same of the smaller world. -/
structure AuthContext.Over (big : AuthContext τ) (proj : τ → σ) (ctx : AuthContext σ) : Prop where
  hubName : big.hubName = ctx.hubName
  factory : big.factory = ctx.factory
  consult : ∀ c v, ((big.consult c v).1, proj (big.consult c v).2) = ctx.consult c (proj v)

/-- A context whose world also keeps the consultations, earliest first. -/
def AuthContext.recording (ctx : AuthContext σ) : AuthContext (σ × List Consultation) where
  hubName := ctx.hubName
  factory := ctx.factory
  consult := fun c w =>
    let (delivery, v) := ctx.consult c w.1
    (delivery, (v, w.2 ++ [⟨c, delivery⟩]))

theorem AuthContext.recording_over (ctx : AuthContext σ) : ctx.recording.Over Prod.fst ctx :=
  ⟨rfl, rfl, fun _ _ => rfl⟩

namespace Machine

section Over

variable {big : AuthContext τ} {proj : τ → σ} {ctx : AuthContext σ}

theorem advance_over (h : big.Over proj ctx) (m : Machine) (v : τ) :
    ((m.advance big v).1, proj (m.advance big v).2) = m.advance ctx (proj v) := by
  unfold advance
  cases m.state with
  | identityParsed chain claimed => simp only [h.hubName]
  | validated chain identity => simp only [h.factory]
  | credentialBuilt c => simp only [← h.consult c v]
  | _ => rfl

theorem settle_over (h : big.Over proj ctx) (n : Nat) (m : Machine) (v : τ) :
    ((settle big n m v).1, proj (settle big n m v).2) = settle ctx n m (proj v) := by
  induction n generalizing m v with
  | zero => rfl
  | succ n ih =>
    simp only [settle]
    split
    · rfl
    · rw [ih, ← advance_over h m v]

/-- A run in the larger world is a run in the smaller one. -/
theorem run_over (h : big.Over proj ctx) (m : Machine) (leaf : Option Bytes)
    (intermediates : List Bytes) (v : τ) :
    ((m.run big leaf intermediates v).1, proj (m.run big leaf intermediates v).2) =
      m.run ctx leaf intermediates (proj v) :=
  settle_over h _ _ v

end Over

/-- A machine and its world, without the consultations that are kept. -/
def unrecorded (s : Machine × (σ × List Consultation)) : Machine × σ := (s.1, s.2.1)

theorem advance_recording (ctx : AuthContext σ) (m : Machine) (w : σ × List Consultation) :
    unrecorded (m.advance ctx.recording w) = m.advance ctx w.1 :=
  advance_over ctx.recording_over m w

theorem run_recording (ctx : AuthContext σ) (m : Machine) (leaf : Option Bytes)
    (intermediates : List Bytes) (w : σ × List Consultation) :
    unrecorded (m.run ctx.recording leaf intermediates w) = m.run ctx leaf intermediates w.1 :=
  run_over ctx.recording_over m leaf intermediates w

theorem apply_recording (ctx : AuthContext σ) (s : Machine × (σ × List Consultation)) (op : Op) :
    unrecorded (apply ctx.recording s op) = apply ctx (unrecorded s) op := by
  cases op with
  | capture leaf intermediates => rfl
  | advance => exact advance_recording ctx s.1 s.2
  | run leaf intermediates => exact run_recording ctx s.1 leaf intermediates s.2
  | reject reason => rfl

theorem applyAll_recording (ctx : AuthContext σ) (s : Machine × (σ × List Consultation))
    (ops : List Op) :
    unrecorded (applyAll ctx.recording s ops) = applyAll ctx (unrecorded s) ops := by
  induction ops generalizing s with
  | nil => rfl
  | cons op ops ih =>
    simp only [applyAll, List.foldl_cons] at ih ⊢
    rw [ih, apply_recording]

/-- The consultations of operations on a fresh machine, earliest first. -/
def consultations (ctx : AuthContext σ) (w : σ) (ops : List Op) : List Consultation :=
  (applyAll ctx.recording (.fresh, (w, [])) ops).2.2

end Machine

/-! ### Over a bridge -/

/-- What a consultation comes back with once the authority is asked under a deadline. -/
def AuthorityEnd.result (deadline : Duration) : AuthorityEnd → Except GatewayError Bool
  | verdict b => .ok b
  | fault e => .error e
  | panics => .error (.authentication "authenticator panicked")
  | hangs => .error (.authenticationTimeout deadline)
  | panicsWhenDropped => .error (.internal "authentication task ended without a result")

theorem ofCall_task (deadline : Duration) (ending : AuthorityEnd) :
    Delivery.ofCall true (ending.task.result deadline) = .heard (ending.result deadline) := by
  cases ending with
  | verdict b => rfl
  | fault e => rfl
  | panics => rfl
  | hangs => rfl
  | panicsWhenDropped => rfl

/-- Over a bridge with any traffic the authority is asked exactly if the call gets a permit. -/
theorem consultAmid_delivery
    (traffic : Credential → BridgedWorld σ → Traffic (Except GatewayError Bool))
    (deadline : Duration) (ask : Credential → σ → AuthorityEnd × σ) (c : Credential)
    (w : BridgedWorld σ) :
    (consultAmid traffic deadline ask c w).1 =
      if w.pool.permits deadline (traffic c w) then
        .heard ((ask c w.authority).1.result deadline)
      else .unheard (.authenticationTimeout deadline) := by
  simp only [consultAmid, Pool.performAmid_result]
  split
  · next hp => rw [hp, ofCall_task]
  · next hp => simp only [hp, Delivery.ofCall, Bool.false_eq_true, if_false]

/-- An authority that also keeps whom it is asked about, earliest first. -/
def recordingAsk (ask : Credential → σ → AuthorityEnd × σ) (c : Credential)
    (v : σ × List Credential) : AuthorityEnd × (σ × List Credential) :=
  let (ending, authority) := ask c v.1
  (ending, (authority, v.2 ++ [c]))

/-- A bridge and the authority behind it, without whom the authority was asked about. -/
def BridgedWorld.unrecorded (v : BridgedWorld (σ × List Credential)) : BridgedWorld σ :=
  ⟨v.pool, v.authority.1⟩

theorem consultAmid_recordingAsk
    (traffic : Credential → BridgedWorld σ → Traffic (Except GatewayError Bool))
    (deadline : Duration) (ask : Credential → σ → AuthorityEnd × σ) (c : Credential)
    (v : BridgedWorld (σ × List Credential)) :
    let r := consultAmid (fun c v => traffic c v.unrecorded) deadline (recordingAsk ask) c v
    (r.1, r.2.unrecorded) = consultAmid traffic deadline ask c v.unrecorded ∧
      r.2.authority.2 = v.authority.2 ++
        (if v.pool.permits deadline (traffic c v.unrecorded) then [c] else []) := by
  have hpermits := Bool.eq_false_or_eq_true (v.pool.permits deadline (traffic c v.unrecorded))
  unfold BridgedWorld.unrecorded at hpermits ⊢
  rcases hpermits with hp | hp
  · simp [consultAmid, recordingAsk, hp]
  · simp [consultAmid, hp]

end DeviceGateway
