import DeviceGateway.Authority.Bridge

/-!
# The result of a call amid other calls

Whatever the other calls of a bridge do meanwhile, a call that gets a permit comes back with what
its own task came to, and a call that gets none with the passing of its deadline.
-/

namespace DeviceGateway

/-- What a task comes to under a deadline. -/
def PoolTask.result {α : Type} (deadline : Duration) : PoolTask α → Except GatewayError α
  | returns value => .ok value
  | panics => .error Pool.panicError
  | hangs => .error (.authenticationTimeout deadline)
  | panicsWhenDropped => .error Pool.lostError

namespace Pool

variable {α : Type}

/-! ### Events of other calls -/

theorem endRunning_calls (p : Pool α) (n : Nat) (result : Except GatewayError α) :
    (p.endRunning n result).calls = p.calls ∨
      ∃ c, (p.endRunning n result).calls = p.calls.set n c := by
  unfold endRunning
  split
  · split
    · exact .inr ⟨_, finish_calls ..⟩
    · exact .inl rfl
  · exact .inl rfl

/-- An event about a call changes at most that call. -/
theorem step_calls (p : Pool α) (e : PoolEvent α) (n : Nat) (he : e.call? = some n) :
    (p.step e).calls = p.calls ∨ ∃ c, (p.step e).calls = p.calls.set n c := by
  cases e with
  | spawned deadline => cases he
  | granted m =>
    cases he
    simp only [step, setPhase]
    split
    · split
      · exact .inr ⟨_, rfl⟩
      · exact .inl rfl
    · exact .inl rfl
  | returned m value =>
    cases he
    exact endRunning_calls ..
  | panicked m =>
    cases he
    exact endRunning_calls ..
  | expired m =>
    cases he
    simp only [step]
    split
    · split
      · exact .inl rfl
      · exact .inr ⟨_, finish_calls ..⟩
    · exact .inl rfl
  | lost m =>
    cases he
    exact endRunning_calls ..
  | abandoned m =>
    cases he
    simp only [step]
    split
    · exact .inr ⟨_, rfl⟩
    · exact .inl rfl

theorem step_other (p : Pool α) (e : PoolEvent α) (n : Nat) (c : PoolCall)
    (he : e.call? ≠ some n) (hc : p.calls[n]? = some c) : (p.step e).calls[n]? = some c := by
  cases hm : e.call? with
  | none =>
    -- only a new call is about no call, and it comes after all others
    cases e with
    | spawned deadline =>
      have hn : n < p.calls.length := (List.getElem?_eq_some_iff.mp hc).1
      simp only [step]
      rw [List.getElem?_append_left hn, hc]
    | _ => cases hm
  | some m =>
    have hmn : m ≠ n := by
      intro hmn
      exact he (hmn ▸ hm)
    rcases step_calls p e m hm with h | ⟨d, h⟩
    · rw [h, hc]
    · rw [h, List.getElem?_set_ne hmn, hc]

theorem run_other (p : Pool α) (events : List (PoolEvent α)) (n : Nat) (c : PoolCall)
    (he : ∀ e ∈ events, e.call? ≠ some n) (hc : p.calls[n]? = some c) :
    (p.run events).calls[n]? = some c := by
  induction events generalizing p with
  | nil => exact hc
  | cons e es ih =>
    rw [run_cons]
    have hstep := step_other p e n c (he e (List.mem_cons_self ..)) hc
    exact ih (p.step e) (fun x hx => he x (List.mem_cons_of_mem _ hx)) hstep

theorem runOthers_call (p : Pool α) (events : List (PoolEvent α)) (n : Nat) (c : PoolCall)
    (hc : p.calls[n]? = some c) : (p.runOthers n events).calls[n]? = some c := by
  refine run_other p _ n c ?_ hc
  intro e he
  simpa using (List.mem_filter.mp he).2

theorem length_calls_le_step (p : Pool α) (e : PoolEvent α) :
    p.calls.length ≤ (p.step e).calls.length := by
  cases he : e.call? with
  | none =>
    cases e with
    | spawned deadline => simp [step]
    | _ => cases he
  | some n =>
    rcases step_calls p e n he with h | ⟨c, h⟩
    · exact Nat.le_of_eq (congrArg List.length h.symm)
    · exact Nat.le_of_eq (by rw [h, List.length_set])

theorem endRunning_delivers (p : Pool α) (n : Nat) (result : Except GatewayError α) :
    (p.endRunning n result).delivered = p.delivered ∨
      (p.endRunning n result).delivered = (n, result) :: p.delivered := by
  unfold endRunning
  split
  · split
    · rw [finish_delivered]
      split
      · exact .inr rfl
      · exact .inl rfl
    · exact .inl rfl
  · exact .inl rfl

/-- An event hands out at most one result, and a value only if the task of that call returned
it. -/
theorem step_delivered (p : Pool α) (e : PoolEvent α) :
    (p.step e).delivered = p.delivered ∨
      ∃ n r, (p.step e).delivered = (n, r) :: p.delivered ∧ ∀ v, r = .ok v → e = .returned n v := by
  cases e with
  | spawned deadline => exact .inl rfl
  | granted n =>
    simp only [step, setPhase]
    split
    · split <;> exact .inl rfl
    · exact .inl rfl
  | returned n value =>
    refine (endRunning_delivers p n (.ok value)).imp_right fun h => ⟨n, _, h, ?_⟩
    rintro v hv
    cases hv
    rfl
  | panicked n =>
    exact (endRunning_delivers p n (.error panicError)).imp_right fun h =>
      ⟨n, _, h, by simp⟩
  | expired n =>
    simp only [step]
    split
    · split
      · exact .inl rfl
      · rw [finish_delivered]
        split
        · exact .inr ⟨n, _, rfl, by simp⟩
        · exact .inl rfl
    · exact .inl rfl
  | lost n =>
    exact (endRunning_delivers p n (.error lostError)).imp_right fun h => ⟨n, _, h, by simp⟩
  | abandoned n =>
    simp only [step]
    split <;> exact .inl rfl

theorem delivered_subset_step (p : Pool α) (e : PoolEvent α) :
    p.delivered ⊆ (p.step e).delivered := by
  rcases step_delivered p e with h | ⟨n, r, h, -⟩
  · rw [h]
    exact List.Subset.refl _
  · rw [h]
    exact List.subset_cons_self _ _

/-! ### The call itself -/

theorem waited_call (p : Pool α) (deadline : Duration) (t : Traffic α) :
    (p.waited deadline t).calls[p.calls.length]? = some ⟨deadline, .waiting, true⟩ := by
  apply runOthers_call
  simp only [step, List.getElem?_concat_length]

theorem granted_call (p : Pool α) (n : Nat) (c : PoolCall) (hc : p.calls[n]? = some c)
    (hw : c.phase = .waiting) (hf : 0 < p.free) :
    (p.step (.granted n)).calls[n]? = some { c with phase := .running } := by
  have hn : n < p.calls.length := (List.getElem?_eq_some_iff.mp hc).1
  simp only [step, hc, hw, hf, and_self, if_true, setPhase]
  rw [List.getElem?_set_self hn]

theorem endRunning_delivered (p : Pool α) (n : Nat) (deadline : Duration)
    (result : Except GatewayError α) (hc : p.calls[n]? = some ⟨deadline, .running, true⟩) :
    (p.endRunning n result).delivered = (n, result) :: p.delivered := by
  simp only [endRunning, hc, if_true, finish_delivered]

theorem expired_delivered (p : Pool α) (n : Nat) (c : PoolCall) (hc : p.calls[n]? = some c)
    (hp : c.phase ≠ .ended) (ha : c.awaited = true) :
    (p.step (.expired n)).delivered =
      (n, .error (.authenticationTimeout c.deadline)) :: p.delivered := by
  simp only [step, hc, hp, if_false, finish_delivered, ha, if_true]

/-- The end of a running call hands its waiter what the task came to. -/
theorem ended_delivered (p : Pool α) (n : Nat) (deadline : Duration) (task : PoolTask α)
    (hc : p.calls[n]? = some ⟨deadline, .running, true⟩) :
    (p.step (task.ending n)).delivered = (n, task.result deadline) :: p.delivered := by
  cases task with
  | returns value => exact endRunning_delivered p n deadline _ hc
  | panics => exact endRunning_delivered p n deadline _ hc
  | hangs => exact expired_delivered p n _ hc (by simp) rfl
  | panicsWhenDropped => exact endRunning_delivered p n deadline _ hc

/-- A call amid any traffic: the result of its own task if it gets a permit, and else the passing of
its deadline. -/
theorem performAmid_result (p : Pool α) (deadline : Duration) (t : Traffic α) (task : PoolTask α) :
    (p.performAmid deadline t task).1 =
      if p.permits deadline t then task.result deadline
      else .error (.authenticationTimeout deadline) := by
  have hwait := waited_call p deadline t
  simp only [performAmid, afterCall]
  split
  · next hp =>
    have hfree : 0 < (p.waited deadline t).free := by
      simp only [permits, Bool.and_eq_true, decide_eq_true_eq] at hp
      exact hp.2
    have hrun := granted_call _ _ _ hwait rfl hfree
    have hheld := runOthers_call _ t.whileRunning _ _ hrun
    rw [ended_delivered _ _ deadline task hheld, List.lookup_cons_self, Option.getD_some]
  · rw [expired_delivered _ _ _ hwait (by simp) rfl, List.lookup_cons_self, Option.getD_some]

end Pool
end DeviceGateway
