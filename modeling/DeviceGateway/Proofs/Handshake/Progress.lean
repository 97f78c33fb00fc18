import DeviceGateway.Proofs.Handshake.Provenance

/-!
# A machine only moves forward

The states of a machine come in stages. No operation leads back to an earlier stage, and a machine
that rejected stays rejected and asks nobody any more, whatever is done with it.
-/

namespace DeviceGateway

/-- How far a state is along the walk of a machine. -/
def HandshakeState.stage : HandshakeState → Nat
  | idle => 0
  | chainCaptured _ => 1
  | identityParsed _ _ => 2
  | validated _ _ => 3
  | credentialBuilt _ => 4
  | authenticating => 5
  | authenticated _ => 6
  | rejected _ => 7

def HandshakeState.isRejected : HandshakeState → Bool
  | rejected _ => true
  | _ => false

theorem HandshakeState.stage_le (s : HandshakeState) : s.stage ≤ 7 := by
  cases s <;> simp [stage]

theorem HandshakeState.isRejected_iff (s : HandshakeState) :
    s.isRejected = true ↔ ∃ r, s = .rejected r := by
  cases s <;> simp [isRejected]

namespace Machine

variable {σ : Type}

/-- A state that is later than another, and in which a call may end. -/
def Follows (before after : HandshakeState) : Prop :=
  before.stage ≤ after.stage ∧ after ≠ .authenticating

theorem follows_rejected (before : HandshakeState) (r : RejectReason) :
    Follows before (.rejected r) :=
  ⟨before.stage_le, by simp⟩

theorem Follows.trans {a b c : HandshakeState} (hab : Follows a b) (hbc : Follows b c) :
    Follows a c :=
  ⟨Nat.le_trans hab.1 hbc.1, hbc.2⟩

/-! ### One operation -/

theorem capture_follows (m : Machine) (leaf : Option Bytes) (intermediates : List Bytes) :
    Follows m.state (m.capture leaf intermediates).state := by
  by_cases hi : m.state = .idle
  · rw [capture_of_idle m leaf intermediates hi, hi, enter_state]
    unfold captured
    cases leaf with
    | none => exact follows_rejected _ _
    | some l =>
      simp only
      split
      · exact follows_rejected _ _
      · exact ⟨Nat.zero_le _, by simp⟩
  · rw [capture_of_ne_idle m leaf intermediates hi]
    exact follows_rejected _ _

theorem advance_follows (ctx : AuthContext σ) (m : Machine) (w : σ) :
    Follows m.state (m.advance ctx w).1.state := by
  unfold advance
  cases hs : m.state with
  | idle => exact follows_rejected _ _
  | chainCaptured chain => exact ⟨Nat.le_succ 1, by simp⟩
  | identityParsed chain claimed =>
    simp only [enter_state, judged]
    cases claimed.validate ctx.hubName with
    | ok v => exact ⟨Nat.le_succ 2, by simp⟩
    | error r => exact follows_rejected _ _
  | validated chain v =>
    simp only [enter_state, built]
    cases ctx.factory (credentialRequest chain v) with
    | ok c => exact ⟨Nat.le_succ 3, by simp⟩
    | error e => exact follows_rejected _ _
  | credentialBuilt c =>
    simp only [enter_state]
    cases (ctx.consult c w).1.result with
    | error e => exact follows_rejected _ _
    | ok b =>
      cases b with
      | true => exact ⟨Nat.le_add_right 4 2, by simp [decided]⟩
      | false => exact follows_rejected _ _
  | authenticating => exact follows_rejected _ _
  | authenticated c =>
    simp only [hs]
    exact ⟨Nat.le_refl _, by simp⟩
  | rejected r =>
    simp only [hs]
    exact follows_rejected _ _

theorem settle_follows (ctx : AuthContext σ) (n : Nat) (m : Machine) (w : σ)
    (hm : m.state ≠ .authenticating) : Follows m.state (settle ctx n m w).1.state := by
  induction n generalizing m w with
  | zero => exact ⟨Nat.le_refl _, hm⟩
  | succ n ih =>
    simp only [settle]
    split
    · exact ⟨Nat.le_refl _, hm⟩
    · have hstep := advance_follows ctx m w
      exact hstep.trans (ih _ _ hstep.2)

/-- No operation leads back to an earlier stage or leaves a machine waiting for the authority. -/
theorem apply_follows (ctx : AuthContext σ) (s : Machine × σ) (op : Op) :
    Follows s.1.state (apply ctx s op).1.state := by
  cases op with
  | capture leaf intermediates => exact capture_follows s.1 leaf intermediates
  | advance => exact advance_follows ctx s.1 s.2
  | run leaf intermediates =>
    have hcapture := capture_follows s.1 leaf intermediates
    exact hcapture.trans (settle_follows ctx _ _ s.2 hcapture.2)
  | reject reason => exact follows_rejected _ _

/-- After a rejection an operation leaves the world as it is and the machine rejected. -/
theorem apply_of_rejected (ctx : AuthContext σ) (s : Machine × σ) (op : Op)
    (h : s.1.state.isRejected = true) :
    (apply ctx s op).1.state.isRejected = true ∧ (apply ctx s op).2 = s.2 := by
  obtain ⟨r, hr⟩ := (HandshakeState.isRejected_iff _).mp h
  have hidle : s.1.state ≠ .idle := by simp [hr]
  cases op with
  | capture leaf intermediates =>
    simp only [apply, capture_of_ne_idle s.1 leaf intermediates hidle]
    exact ⟨rfl, trivial⟩
  | advance =>
    simp only [apply, advance, hr]
    exact ⟨rfl, trivial⟩
  | run leaf intermediates =>
    simp only [apply, run, capture_of_ne_idle s.1 leaf intermediates hidle]
    exact ⟨rfl, rfl⟩
  | reject reason => exact ⟨rfl, rfl⟩

/-! ### Many operations -/

theorem applyAll_append (ctx : AuthContext σ) (s : Machine × σ) (before since : List Op) :
    applyAll ctx s (before ++ since) = applyAll ctx (applyAll ctx s before) since :=
  List.foldl_append ..

theorem applyAll_follows (ctx : AuthContext σ) (s : Machine × σ) (ops : List Op)
    (hs : s.1.state ≠ .authenticating) : Follows s.1.state (applyAll ctx s ops).1.state := by
  induction ops generalizing s with
  | nil => exact ⟨Nat.le_refl _, hs⟩
  | cons op ops ih =>
    have hstep := apply_follows ctx s op
    exact hstep.trans (ih _ hstep.2)

theorem applyAll_of_rejected (ctx : AuthContext σ) (s : Machine × σ) (ops : List Op)
    (h : s.1.state.isRejected = true) :
    (applyAll ctx s ops).1.state.isRejected = true ∧ (applyAll ctx s ops).2 = s.2 := by
  induction ops generalizing s with
  | nil => exact ⟨h, rfl⟩
  | cons op ops ih =>
    obtain ⟨hstep, hworld⟩ := apply_of_rejected ctx s op h
    obtain ⟨hlast, hrest⟩ := ih _ hstep
    exact ⟨hlast, hrest.trans hworld⟩

theorem consultations_of_rejected (ctx : AuthContext σ) (w : σ) (before since : List Op)
    (h : (applyAll ctx (.fresh, w) before).1.state.isRejected = true) :
    consultations ctx w (before ++ since) = consultations ctx w before := by
  have hsame := applyAll_recording ctx (.fresh, (w, [])) before
  have hstate := congrArg (fun s : Machine × σ => s.1.state) hsame
  simp only [unrecorded] at hstate
  unfold consultations
  rw [applyAll_append, (applyAll_of_rejected ctx.recording _ since (by rw [hstate]; exact h)).2]

/-- Whatever is done with a fresh machine, and wherever one looks at it on the way: it has not come
back to an earlier stage since, it does not wait for the authority, and it consulted at most once;
once it rejected it stays rejected, consults no more and hands out nobody. -/
theorem forward_only (ctx : AuthContext σ) (w : σ) (before since : List Op) :
    let earlier := (applyAll ctx (.fresh, w) before).1
    let now := (applyAll ctx (.fresh, w) (before ++ since)).1
    earlier.state.stage ≤ now.state.stage ∧
    now.state ≠ .authenticating ∧
    (consultations ctx w (before ++ since)).length ≤ 1 ∧
    (earlier.state.isRejected = true →
      now.state.isRejected = true ∧
      now.outcome = .failed ∧
      consultations ctx w (before ++ since) = consultations ctx w before) := by
  intro earlier now
  have hbefore := applyAll_follows ctx (.fresh, w) before (by simp [fresh])
  have hsince := applyAll_follows ctx (applyAll ctx (.fresh, w) before) since hbefore.2
  rw [← applyAll_append] at hsince
  refine ⟨hsince.1, hsince.2, (fresh_applyAll_backed ctx w (before ++ since)).length_le, ?_⟩
  intro hrejected
  have hlast := (applyAll_of_rejected ctx _ since hrejected).1
  rw [← applyAll_append] at hlast
  refine ⟨hlast, ?_, consultations_of_rejected ctx w before since hrejected⟩
  obtain ⟨r, hr⟩ := (HandshakeState.isRejected_iff _).mp hlast
  refine (now.outcome_eq_failed_iff).mpr ?_
  intro c hc
  rw [show now.state = .rejected r from hr] at hc
  cases hc

end Machine
end DeviceGateway
