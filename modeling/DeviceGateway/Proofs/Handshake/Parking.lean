import DeviceGateway.Handshake.Verifier
import DeviceGateway.Proofs.Handshake.Provenance

/-!
# What a verifier hands out

The calls of a verifier and what each returned are its history. A taken outcome is a success exactly
if the history says so, whatever the order of the calls, and no history says so twice.
-/

namespace DeviceGateway
namespace Verifier

variable {σ τ : Type}

/-! ### Histories -/

/-- A call that has returned. -/
structure Call where
  op : Op
  result : Result

namespace Call

def isVerify (c : Call) : Bool :=
  match c.op with
  | .verify _ _ => true
  | _ => false

def isFailedCheck (c : Call) : Bool :=
  match c.op, c.result with
  | .checkSignature _ _, .answer (.error _) => true
  | _, _ => false

def handsOut (c : Call) : Bool :=
  match c.result with
  | .outcome (some o) => o.isSucceeded
  | _ => false

/-- The call that accepts a chain. -/
def acceptance (leaf : Bytes) (intermediates : List Bytes) : Call :=
  ⟨.verify leaf intermediates, .answer (.ok ())⟩

end Call

/-- The calls of a run, each with what it returned. -/
def history (ctx : AuthContext σ) (base : BaseVerifier τ) (s : VerifierSlot) (w : σ × τ)
    (ops : List Op) : List Call :=
  List.zipWith Call.mk ops (applyAll ctx base s w ops).1

/-- The only validation of a history is of this chain and accepted it, and since then no signature
failed and nothing was taken. -/
def Standing (past : List Call) (leaf : Bytes) (intermediates : List Bytes) : Prop :=
  past.countP Call.isVerify = 1 ∧
    ∃ before since, past = before ++ .acceptance leaf intermediates :: since ∧
      (∀ c ∈ since, c.isFailedCheck = false) ∧ ∀ c ∈ since, c.op ≠ .takeOutcome

theorem history_cons (ctx : AuthContext σ) (base : BaseVerifier τ) (s : VerifierSlot) (w : σ × τ)
    (op : Op) (ops : List Op) :
    history ctx base s w (op :: ops) = ⟨op, (apply ctx base s w op).1⟩ ::
      history ctx base (apply ctx base s w op).2.1 (apply ctx base s w op).2.2 ops := rfl

theorem map_op_history (ctx : AuthContext σ) (base : BaseVerifier τ) (s : VerifierSlot)
    (w : σ × τ) (ops : List Op) : (history ctx base s w ops).map Call.op = ops := by
  induction ops generalizing s w with
  | nil => rfl
  | cons op ops ih =>
    rw [history_cons, List.map_cons, ih]

theorem countP_concat (past : List Call) (c : Call) :
    (past ++ [c]).countP Call.isVerify =
      past.countP Call.isVerify + if c.isVerify then 1 else 0 := by
  rw [List.countP_append, List.countP_singleton]

theorem isVerify_eq_false_of_countP {before since : List Call} {c : Call} {leaf : Bytes}
    {intermediates : List Bytes}
    (h : (before ++ .acceptance leaf intermediates :: since ++ [c]).countP Call.isVerify = 1) :
    c.isVerify = false := by
  rw [countP_concat, List.countP_append, List.countP_cons_of_pos rfl] at h
  cases hc : c.isVerify with
  | false => rfl
  | true =>
    rw [hc, if_pos rfl] at h
    omega

/-- How one more call changes whether a chain stands. -/
theorem standing_concat (past : List Call) (c : Call) (leaf : Bytes) (intermediates : List Bytes) :
    Standing (past ++ [c]) leaf intermediates ↔
      (past.countP Call.isVerify = 0 ∧ c = .acceptance leaf intermediates) ∨
      (Standing past leaf intermediates ∧ c.isVerify = false ∧ c.isFailedCheck = false ∧
        c.op ≠ .takeOutcome) := by
  constructor
  · rintro ⟨hcount, before, since, hsplit, hchecks, htakes⟩
    rcases List.eq_nil_or_concat since with rfl | ⟨since, d, rfl⟩
    · obtain ⟨rfl, hc⟩ := List.append_inj' hsplit rfl
      cases hc
      rw [countP_concat] at hcount
      exact .inl ⟨Nat.succ.inj hcount, rfl⟩
    · rw [List.concat_eq_append, ← List.cons_append, ← List.append_assoc] at hsplit
      obtain ⟨rfl, hc⟩ := List.append_inj' hsplit rfl
      cases hc
      have hverify := isVerify_eq_false_of_countP hcount
      rw [countP_concat, hverify] at hcount
      simp only [List.concat_eq_append, List.forall_mem_append, List.forall_mem_singleton]
        at hchecks htakes
      exact .inr ⟨⟨hcount, before, since, rfl, hchecks.1, htakes.1⟩, hverify, hchecks.2, htakes.2⟩
  · rintro (⟨hnone, rfl⟩ | ⟨⟨hcount, before, since, rfl, hchecks, htakes⟩, hverify, hcheck, htake⟩)
    · refine ⟨?_, past, [], rfl, by simp, by simp⟩
      rw [countP_concat, hnone]
      rfl
    · refine ⟨?_, before, since ++ [c], by simp, ?_, ?_⟩
      · rw [countP_concat, hcount, hverify]
        rfl
      · simpa only [List.forall_mem_append, List.forall_mem_singleton] using ⟨hchecks, hcheck⟩
      · simpa only [List.forall_mem_append, List.forall_mem_singleton] using ⟨htakes, htake⟩

/-! ### One call -/

/-- What a slot says of the past: the machine is there until the first validation, and a credential
is parked exactly while a chain stands that it was made of. -/
structure Accounts (ctx : AuthContext σ) (past : List Call) (s : VerifierSlot) : Prop where
  machine : s.machine = if past.countP Call.isVerify = 0 then some .fresh else none
  parked : ∀ c, s.outcome = some (.succeeded c) →
    ∃ leaf intermediates v, Standing past leaf intermediates ∧ ctx.Makes leaf intermediates v c
  standing : ∀ leaf intermediates, Standing past leaf intermediates →
    ∃ c, s.outcome = some (.succeeded c)

variable {ctx : AuthContext σ} {past : List Call} {s : VerifierSlot}

theorem fresh_accounts (ctx : AuthContext σ) : Accounts ctx [] .fresh where
  machine := rfl
  parked := by simp [VerifierSlot.fresh]
  standing := by
    rintro leaf intermediates ⟨hcount, -⟩
    simp at hcount

/-- After a call that leaves no credential no chain may stand. -/
theorem accounts_of_cleared {past : List Call} {s : VerifierSlot}
    (hmachine : s.machine = if past.countP Call.isVerify = 0 then some .fresh else none)
    (hparked : ∀ c, s.outcome ≠ some (.succeeded c))
    (hpast : ∀ leaf intermediates, ¬ Standing past leaf intermediates) : Accounts ctx past s where
  machine := hmachine
  parked := fun c hc => (hparked c hc).elim
  standing := fun leaf intermediates hs => (hpast leaf intermediates hs).elim

/-- A validation accepts exactly if the machine stays authenticated, with what it came to. -/
theorem examine_spec (ctx : AuthContext σ) (base : BaseVerifier τ) (m : Machine) (leaf : Bytes)
    (intermediates : List Bytes) (w : σ × τ) :
    ((examine ctx base m leaf intermediates w).1 = .ok () ∧
      ∃ c, (examine ctx base m leaf intermediates w).2.1.state = .authenticated c ∧
        (m.run ctx (some leaf) intermediates w.1).1.state = .authenticated c) ∨
    ((∃ e, (examine ctx base m leaf intermediates w).1 = .error e) ∧
      ∀ c, (examine ctx base m leaf intermediates w).2.1.state ≠ .authenticated c) := by
  unfold examine
  cases hm : (m.run ctx (some leaf) intermediates w.1).1.state with
  | authenticated c =>
    cases hb : (base.validateChain leaf intermediates w.2).1 with
    | ok u => simp [hm, hb, HandshakeState.isAuthenticated]
    | error e => simp [hm, hb, HandshakeState.isAuthenticated, Machine.reject]
  | _ => simp [hm, HandshakeState.isAuthenticated]

theorem run_of_examine (ctx : AuthContext σ) (base : BaseVerifier τ) (m : Machine) (leaf : Bytes)
    (intermediates : List Bytes) (w : σ × τ) (c : Credential)
    (h : (examine ctx base m leaf intermediates w).2.1.state = .authenticated c) :
    (m.run ctx (some leaf) intermediates w.1).1.state = .authenticated c := by
  rcases examine_spec ctx base m leaf intermediates w with ⟨-, d, hd, hrun⟩ | ⟨-, hnone⟩
  · rw [hd] at h
    cases h
    exact hrun
  · exact (hnone c h).elim

theorem examine_world (ctx : AuthContext σ) (base : BaseVerifier τ) (m : Machine) (leaf : Bytes)
    (intermediates : List Bytes) (w : σ × τ) :
    (examine ctx base m leaf intermediates w).2.2.1 =
      (m.run ctx (some leaf) intermediates w.1).2 := by
  simp only [examine]
  split
  · cases (base.validateChain leaf intermediates w.2).1 <;> rfl
  · rfl

theorem not_standing_of_refused (past : List Call) (leaf : Bytes) (intermediates : List Bytes)
    (e : TlsError) (l : Bytes) (i : List Bytes) :
    ¬ Standing (past ++ [⟨.verify leaf intermediates, .answer (.error e)⟩]) l i := by
  rw [standing_concat]
  rintro (⟨-, h⟩ | ⟨-, h, -⟩)
  · cases h
  · cases h

theorem not_standing_of_failedCheck (past : List Call) (version : TlsVersion) (leaf : Bytes)
    (e : TlsError) (l : Bytes) (i : List Bytes) :
    ¬ Standing (past ++ [⟨.checkSignature version leaf, .answer (.error e)⟩]) l i := by
  rw [standing_concat]
  rintro (⟨-, h⟩ | ⟨-, -, h, -⟩)
  · cases h
  · cases h

theorem not_standing_of_taken (past : List Call) (r : Result) (l : Bytes) (i : List Bytes) :
    ¬ Standing (past ++ [⟨.takeOutcome, r⟩]) l i := by
  rw [standing_concat]
  rintro (⟨-, h⟩ | ⟨-, -, -, h⟩)
  · cases h
  · exact h rfl

theorem standing_of_passedCheck (past : List Call) (version : TlsVersion) (leaf l : Bytes)
    (i : List Bytes) :
    Standing (past ++ [⟨.checkSignature version leaf, .answer (.ok ())⟩]) l i ↔
      Standing past l i := by
  rw [standing_concat]
  constructor
  · rintro (⟨-, h⟩ | ⟨h, -⟩)
    · cases h
    · exact h
  · intro h
    exact .inr ⟨h, rfl, rfl, by simp⟩

theorem verify_of_machine (ctx : AuthContext σ) (base : BaseVerifier τ) (s : VerifierSlot)
    (m : Machine) (leaf : Bytes) (intermediates : List Bytes) (w : σ × τ)
    (hm : s.machine = some m) :
    verify ctx base s leaf intermediates w =
      ⟨(examine ctx base m leaf intermediates w).1,
        s.takeMachine.2.finish (examine ctx base m leaf intermediates w).2.1,
        (examine ctx base m leaf intermediates w).2.2,
        (examine ctx base m leaf intermediates w).2.1.log.drop m.log.length⟩ := by
  simp only [verify, VerifierSlot.takeMachine, hm]

theorem verify_of_no_machine (ctx : AuthContext σ) (base : BaseVerifier τ) (s : VerifierSlot)
    (leaf : Bytes) (intermediates : List Bytes) (w : σ × τ) (hm : s.machine = none) :
    verify ctx base s leaf intermediates w =
      ⟨.error .refused, s.takeMachine.2.refuseRepeat, w, []⟩ := by
  simp only [verify, VerifierSlot.takeMachine, hm]

theorem machine_after_verify (past : List Call) (leaf : Bytes) (intermediates : List Bytes)
    (r : Result) :
    (none : Option Machine) =
      if (past ++ [Call.mk (.verify leaf intermediates) r]).countP Call.isVerify = 0 then
        some .fresh
      else none := by
  rw [countP_concat, if_neg]
  exact Nat.succ_ne_zero _

theorem Accounts.machine_after_other (h : Accounts ctx past s) (c : Call)
    (hc : c.isVerify = false) :
    s.machine = if (past ++ [c]).countP Call.isVerify = 0 then some .fresh else none := by
  rw [countP_concat, hc]
  exact h.machine

/-- The first validation parks the credential that it made of the chain, if it accepted. -/
theorem examine_accounts (base : BaseVerifier τ) (s : VerifierSlot)
    (hnone : past.countP Call.isVerify = 0) (leaf : Bytes) (intermediates : List Bytes)
    (w : σ × τ) :
    Accounts ctx (past ++ [⟨.verify leaf intermediates,
      .answer (examine ctx base .fresh leaf intermediates w).1⟩])
      (s.takeMachine.2.finish (examine ctx base .fresh leaf intermediates w).2.1) := by
  rcases examine_spec ctx base .fresh leaf intermediates w with ⟨hok, c, hc, hrun⟩ | ⟨⟨e, he⟩, hc⟩
  · obtain ⟨⟨v, hmade⟩, -⟩ := Machine.fresh_run_authenticated ctx leaf intermediates w.1 c hrun
    have houtcome := (Machine.outcome_eq_succeeded_iff _ c).mpr hc
    have hstands : Standing (past ++ [.acceptance leaf intermediates]) leaf intermediates :=
      (standing_concat ..).mpr (.inl ⟨hnone, rfl⟩)
    rw [hok]
    refine ⟨machine_after_verify .., ?_, ?_⟩
    · intro d hd
      simp only [VerifierSlot.finish, houtcome, Option.some.injEq] at hd
      cases hd
      exact ⟨leaf, intermediates, v, hstands, hmade⟩
    · intro _ _ _
      exact ⟨c, congrArg some houtcome⟩
  · rw [he]
    refine accounts_of_cleared (machine_after_verify ..) ?_
      (not_standing_of_refused past leaf intermediates e)
    intro d hd
    exact hc d ((Machine.outcome_eq_succeeded_iff _ d).mp (Option.some.inj hd))

theorem verify_accounts (base : BaseVerifier τ) (h : Accounts ctx past s) (leaf : Bytes)
    (intermediates : List Bytes) (w : σ × τ) :
    Accounts ctx (past ++ [⟨.verify leaf intermediates,
      .answer (verify ctx base s leaf intermediates w).answer⟩])
      (verify ctx base s leaf intermediates w).slot := by
  have hmachine := h.machine
  split at hmachine
  · next hnone =>
    rw [verify_of_machine ctx base s .fresh leaf intermediates w hmachine]
    exact examine_accounts base s hnone leaf intermediates w
  · rw [verify_of_no_machine ctx base s leaf intermediates w hmachine]
    refine accounts_of_cleared (machine_after_verify ..) ?_
      (not_standing_of_refused past leaf intermediates _)
    intro d hd
    cases hd

theorem checkSignature_accounts (base : BaseVerifier τ) (h : Accounts ctx past s)
    (version : TlsVersion) (leaf : Bytes) (w : σ × τ) :
    Accounts ctx (past ++ [⟨.checkSignature version leaf,
      .answer (checkSignature base s leaf w version).answer⟩])
      (checkSignature base s leaf w version).slot := by
  cases hb : (base.checkSignature version leaf w.2).1 with
  | ok u =>
    simp only [checkSignature, hb]
    refine ⟨h.machine_after_other _ rfl, ?_, ?_⟩
    · intro c hc
      simpa only [standing_of_passedCheck] using h.parked c hc
    · intro l i hs
      exact h.standing l i ((standing_of_passedCheck ..).mp hs)
  | error e =>
    simp only [checkSignature, hb]
    refine accounts_of_cleared (h.machine_after_other _ rfl) ?_
      (not_standing_of_failedCheck past version leaf e)
    intro d hd
    cases hd

theorem takeOutcome_accounts (h : Accounts ctx past s) :
    Accounts ctx (past ++ [⟨.takeOutcome, .outcome s.takeOutcome.1⟩]) s.takeOutcome.2 := by
  refine accounts_of_cleared (h.machine_after_other _ rfl) ?_ (not_standing_of_taken past _)
  intro d hd
  cases hd

/-- Every call keeps the accounts. -/
theorem apply_accounts (base : BaseVerifier τ) (h : Accounts ctx past s) (w : σ × τ) (op : Op) :
    Accounts ctx (past ++ [⟨op, (apply ctx base s w op).1⟩]) (apply ctx base s w op).2.1 := by
  cases op with
  | verify leaf intermediates => exact verify_accounts base h leaf intermediates w
  | checkSignature version leaf => exact checkSignature_accounts base h version leaf w
  | takeOutcome => exact takeOutcome_accounts h

/-! ### Many calls -/

/-- Every call of a run was made on a slot that accounts for the calls before it. -/
theorem history_accounts (base : BaseVerifier τ) (h : Accounts ctx past s) (w : σ × τ)
    (ops : List Op) (n : Nat) (c : Call) (hc : (history ctx base s w ops)[n]? = some c) :
    ∃ t v, Accounts ctx (past ++ (history ctx base s w ops).take n) t ∧
      c.result = (apply ctx base t v c.op).1 := by
  induction ops generalizing past s w n with
  | nil => cases hc
  | cons op ops ih =>
    rw [history_cons] at hc ⊢
    cases n with
    | zero =>
      cases hc
      exact ⟨s, w, by simpa using h, rfl⟩
    | succ n =>
      have hstep := apply_accounts base h w op
      obtain ⟨t, v, ht, hr⟩ := ih hstep _ n hc
      rw [List.append_assoc] at ht
      exact ⟨t, v, ht, hr⟩

/-- How many credentials a slot may still hand out: one for the machine, one for what is parked. -/
def credits (s : VerifierSlot) : Nat :=
  s.machine.toList.length + (s.outcome.filter (·.isSucceeded)).toList.length

/-- A credential that is handed out is no longer in the slot, and no call makes up for it. -/
theorem apply_credits (ctx : AuthContext σ) (base : BaseVerifier τ) (s : VerifierSlot) (w : σ × τ)
    (op : Op) :
    (if (Call.mk op (apply ctx base s w op).1).handsOut then 1 else 0) +
      credits (apply ctx base s w op).2.1 ≤ credits s := by
  cases op with
  | verify leaf intermediates =>
    change 0 + credits (verify ctx base s leaf intermediates w).slot ≤ credits s
    cases hm : s.machine with
    | none =>
      rw [verify_of_no_machine ctx base s leaf intermediates w hm]
      exact Nat.zero_le _
    | some m =>
      rw [verify_of_machine ctx base s m leaf intermediates w hm]
      have hparked : ((some (examine ctx base m leaf intermediates w).2.1.outcome).filter
          (·.isSucceeded)).toList.length ≤ 1 := Option.length_toList_le
      simp only [credits, hm, VerifierSlot.finish, VerifierSlot.takeMachine]
      simp only [Option.toList_none, Option.toList_some, List.length_nil, List.length_singleton]
      omega
  | checkSignature version leaf =>
    change 0 + credits (checkSignature base s leaf w version).slot ≤ credits s
    cases hb : (base.checkSignature version leaf w.2).1 with
    | ok u =>
      simp only [checkSignature, hb]
      omega
    | error e =>
      simp only [checkSignature, hb, VerifierSlot.discard, credits]
      have hfailed : (some AuthenticationOutcome.failed).filter (·.isSucceeded) = none := rfl
      rw [hfailed, Option.toList_none, List.length_nil]
      omega
  | takeOutcome =>
    obtain ⟨machine, outcome, rejection⟩ := s
    simp only [apply, VerifierSlot.takeOutcome, credits]
    cases outcome with
    | none => simp [Call.handsOut]
    | some o =>
      cases hs : o.isSucceeded with
      | true => simp [Call.handsOut, hs, Option.filter, Nat.add_comm]
      | false => simp [Call.handsOut, hs, Option.filter]

theorem countP_handsOut_le (ctx : AuthContext σ) (base : BaseVerifier τ) (s : VerifierSlot)
    (w : σ × τ) (ops : List Op) :
    (history ctx base s w ops).countP Call.handsOut ≤ credits s := by
  induction ops generalizing s w with
  | nil => exact Nat.zero_le _
  | cons op ops ih =>
    have hstep := apply_credits ctx base s w op
    have hrest := ih (apply ctx base s w op).2.1 (apply ctx base s w op).2.2
    rw [history_cons, List.countP_cons]
    omega

/-- However the calls on a verifier come, an outcome that is taken is a success exactly if a chain
stands then, and its credential was made of that chain. No more than one is handed out. -/
theorem takeOutcome_succeeded_iff (ctx : AuthContext σ) (base : BaseVerifier τ) (w : σ × τ)
    (ops : List Op) :
    let calls := history ctx base .fresh w ops
    calls.map Call.op = ops ∧
    (∀ n r, calls[n]? = some ⟨.takeOutcome, r⟩ →
      ((∃ c, r = .outcome (some (.succeeded c))) ↔
        ∃ leaf intermediates, Standing (calls.take n) leaf intermediates) ∧
      ∀ c, r = .outcome (some (.succeeded c)) →
        ∃ leaf intermediates v, Standing (calls.take n) leaf intermediates ∧
          ctx.Makes leaf intermediates v c) ∧
    calls.countP Call.handsOut ≤ 1 := by
  intro calls
  refine ⟨map_op_history ctx base .fresh w ops, ?_, countP_handsOut_le ctx base .fresh w ops⟩
  intro n r hn
  obtain ⟨s, v, hs, hr⟩ := history_accounts base (fresh_accounts ctx) w ops n _ hn
  rw [List.nil_append] at hs
  -- the take returns what is parked
  have hr : r = .outcome s.outcome := hr
  refine ⟨⟨?_, ?_⟩, ?_⟩
  · rintro ⟨c, hc⟩
    rw [hr, Result.outcome.injEq] at hc
    obtain ⟨leaf, intermediates, v, hstands, -⟩ := hs.parked c hc
    exact ⟨leaf, intermediates, hstands⟩
  · rintro ⟨leaf, intermediates, hstands⟩
    obtain ⟨c, hc⟩ := hs.standing leaf intermediates hstands
    exact ⟨c, by rw [hr, hc]⟩
  · intro c hc
    rw [hr, Result.outcome.injEq] at hc
    exact hs.parked c hc

end Verifier
end DeviceGateway
