import Mathlib.Data.List.Induction
import DeviceGateway.Proofs.Authority.CallResult

/-!
# Permits of a bridge

Calls of any number overlap at a bridge, and each may end while it waits or while it runs, in
several ways. What one event can do is said once. From it follows, after any events: as many calls
run as permits are in use, every end gives back what was held, and nobody gets a second result.
-/

namespace DeviceGateway

variable {α : Type}

namespace CallPhase

/-- How far a phase is along the way of a call. -/
def rank : CallPhase → Nat
  | waiting => 0
  | running => 1
  | ended => 2

/-- The permits that a call holds in a phase. -/
def held : CallPhase → Nat
  | running => 1
  | _ => 0

end CallPhase

namespace PoolEvent

def deadline? : PoolEvent α → Option Duration
  | spawned deadline => some deadline
  | _ => none

/-- What an event about a call ends it with, if it ends it. One that waits ends by its deadline
only. -/
def result? (c : PoolCall) : PoolEvent α → Option (Except GatewayError α)
  | returned _ value => if c.phase = .running then some (.ok value) else none
  | panicked _ =>
    if c.phase = .running then some (.error (.authentication "authenticator panicked")) else none
  | expired _ =>
    if c.phase = .ended then none else some (.error (.authenticationTimeout c.deadline))
  | lost _ =>
    if c.phase = .running then
      some (.error (.internal "authentication task ended without a result"))
    else none
  | _ => none

theorem result?_of_ended {c : PoolCall} (h : c.phase = .ended) (e : PoolEvent α) :
    e.result? c = none := by
  cases e <;> simp [result?, h]

end PoolEvent

/-- When one entry of a list changes, so does the count by that entry. -/
theorem countP_set_add {β : Type} (p : β → Bool) {l : List β} {n : Nat} {a : β} (b : β)
    (h : l[n]? = some a) :
    (l.set n b).countP p + (if p a then 1 else 0) = l.countP p + if p b then 1 else 0 := by
  obtain ⟨hn, hget⟩ := List.getElem?_eq_some_iff.mp h
  have hle : (if p a then 1 else 0) ≤ l.countP p := by
    split
    · next ha => exact List.countP_pos_iff.mpr ⟨a, List.mem_of_getElem? h, ha⟩
    · exact Nat.zero_le _
  rw [List.countP_set hn, hget]
  omega

namespace Pool

def resultsOf (p : Pool α) (n : Nat) : List (Except GatewayError α) :=
  (p.delivered.filter (·.1 == n)).map (·.2)

/-! ### What one event can do -/

/-- A pool before and after an event. -/
inductive Change (p : Pool α) : PoolEvent α → Pool α → Prop
  | spawned (deadline : Duration) :
      Change p (.spawned deadline) { p with calls := p.calls ++ [⟨deadline, .waiting, true⟩] }
  | granted (n : Nat) (c : PoolCall) (hc : p.calls[n]? = some c) (hw : c.phase = .waiting)
      (hf : 0 < p.free) :
      Change p (.granted n) ({ p with free := p.free - 1 }.setPhase n c .running)
  | finished (e : PoolEvent α) (n : Nat) (c : PoolCall) (result : Except GatewayError α)
      (he : e.call? = some n) (hc : p.calls[n]? = some c) (hr : e.result? c = some result) :
      Change p e (p.finish n c result)
  | abandoned (n : Nat) (c : PoolCall) (hc : p.calls[n]? = some c) :
      Change p (.abandoned n) { p with calls := p.calls.set n { c with awaited := false } }
  | nothing (e : PoolEvent α) (he : e.deadline? = none)
      (hn : ∀ n c, e.call? = some n → p.calls[n]? = some c → e.result? c = none) : Change p e p

theorem endRunning_change (p : Pool α) (e : PoolEvent α) (n : Nat) (result : Except GatewayError α)
    (he : e.call? = some n) (hd : e.deadline? = none)
    (hr : ∀ c, e.result? c = if c.phase = .running then some result else none) :
    Change p e (p.endRunning n result) := by
  unfold endRunning
  cases hc : p.calls[n]? with
  | none =>
    refine .nothing e hd ?_
    intro m c hm hmc
    obtain rfl : n = m := Option.some.inj (he.symm.trans hm)
    rw [hc] at hmc
    cases hmc
  | some c =>
    by_cases hrun : c.phase = .running
    · simp only [hrun, if_true]
      exact .finished e n c result he hc (by rw [hr, if_pos hrun])
    · simp only [hrun, if_false]
      refine .nothing e hd ?_
      intro m d hm hmd
      obtain rfl : n = m := Option.some.inj (he.symm.trans hm)
      obtain rfl : c = d := Option.some.inj (hc.symm.trans hmd)
      rw [hr, if_neg hrun]

theorem step_change (p : Pool α) (e : PoolEvent α) : Change p e (p.step e) := by
  cases e with
  | spawned deadline => exact .spawned deadline
  | granted n =>
    have hquiet : Change p (.granted n) p := .nothing _ rfl fun _ _ _ _ => rfl
    simp only [step]
    cases hc : p.calls[n]? with
    | none => exact hquiet
    | some c =>
      by_cases hgo : c.phase = .waiting ∧ 0 < p.free
      · simp only [if_pos hgo]
        exact .granted n c hc hgo.1 hgo.2
      · simp only [if_neg hgo]
        exact hquiet
  | returned n value => exact endRunning_change p _ n _ rfl rfl fun _ => rfl
  | panicked n => exact endRunning_change p _ n _ rfl rfl fun _ => rfl
  | expired n =>
    simp only [step]
    cases hc : p.calls[n]? with
    | none =>
      refine .nothing _ rfl ?_
      intro m c hm hmc
      cases hm
      rw [hc] at hmc
      cases hmc
    | some c =>
      by_cases hended : c.phase = .ended
      · simp only [if_pos hended]
        refine .nothing _ rfl ?_
        intro m d hm hmd
        cases hm
        obtain rfl : c = d := Option.some.inj (hc.symm.trans hmd)
        exact PoolEvent.result?_of_ended hended _
      · simp only [if_neg hended]
        exact .finished _ n c _ rfl hc (by rw [PoolEvent.result?, if_neg hended])
  | lost n => exact endRunning_change p _ n _ rfl rfl fun _ => rfl
  | abandoned n =>
    simp only [step]
    cases hc : p.calls[n]? with
    | none => exact .nothing _ rfl fun _ _ _ _ => rfl
    | some c => exact .abandoned n c hc

theorem finish_free (p : Pool α) (n : Nat) (c : PoolCall) (result : Except GatewayError α) :
    (p.finish n c result).free = p.free + c.phase.held := by
  simp only [finish, setPhase]
  cases c.phase <;> split <;> rfl

theorem finish_limit (p : Pool α) (n : Nat) (c : PoolCall) (result : Except GatewayError α) :
    (p.finish n c result).limit = p.limit := by
  simp only [finish, setPhase]
  split <;> split <;> rfl

theorem resultsOf_finish (p : Pool α) (n m : Nat) (c : PoolCall)
    (result : Except GatewayError α) :
    (p.finish n c result).resultsOf m =
      if c.awaited = true ∧ n = m then result :: p.resultsOf m else p.resultsOf m := by
  unfold resultsOf
  rw [finish_delivered]
  by_cases ha : c.awaited = true
  · by_cases hn : n = m
    · simp [ha, hn]
    · simp [ha, hn]
  · simp [ha]

variable {p q : Pool α} {e : PoolEvent α} {n : Nat} {c d : PoolCall}

theorem Change.limit_eq (h : Change p e q) : q.limit = p.limit := by
  cases h with
  | finished e n c result he hc hr => exact finish_limit ..
  | _ => rfl

/-! ### The permits -/

theorem length_running (p : Pool α) :
    p.running.length = p.calls.countP (·.phase == .running) :=
  List.countP_eq_length_filter.symm

/-- A call that goes over to another phase takes along the permits that it holds. -/
theorem running_set (hc : p.calls[n]? = some c)
    (hq : q.calls = p.calls.set n d) :
    q.running.length + c.phase.held = p.running.length + d.phase.held := by
  have hheld : ∀ b : PoolCall, b.phase.held = if b.phase == .running then 1 else 0 := by
    intro b
    cases b.phase <;> rfl
  rw [length_running, length_running, hq, hheld, hheld]
  exact countP_set_add _ d hc

/-- Every permit is free or held by a call that runs. -/
def Balanced (p : Pool α) : Prop := p.free + p.running.length = p.limit

theorem Change.balanced (h : Change p e q) (hp : p.Balanced) : q.Balanced := by
  unfold Balanced at *
  cases h with
  | spawned deadline => simpa [running] using hp
  | granted n c hc hw hf =>
    have hrunning := running_set (q := { p with free := p.free - 1 }.setPhase n c .running) hc rfl
    rw [hw] at hrunning
    simp only [setPhase, CallPhase.held] at hrunning ⊢
    omega
  | finished e n c result he hc hr =>
    have hrunning := running_set hc (finish_calls p n c result)
    rw [finish_free, finish_limit]
    simp only [CallPhase.held] at hrunning ⊢
    omega
  | abandoned n c hc =>
    have hrunning := running_set
      (q := { p with calls := p.calls.set n { c with awaited := false } }) hc rfl
    simp only at hrunning ⊢
    omega
  | nothing e he hn => exact hp

theorem run_balanced (p : Pool α) (events : List (PoolEvent α)) (h : p.Balanced) :
    (p.run events).Balanced := by
  induction events generalizing p with
  | nil => exact h
  | cons e es ih => exact ih (p.step e) ((step_change p e).balanced h)

theorem run_limit (p : Pool α) (events : List (PoolEvent α)) : (p.run events).limit = p.limit := by
  induction events generalizing p with
  | nil => rfl
  | cons e es ih => rw [run_cons, ih, (step_change p e).limit_eq]

theorem create_balanced (limit : Nat) : (create limit : Pool α).Balanced := rfl

theorem Balanced.running_eq (h : p.Balanced) : p.running.length = p.inFlight := by
  unfold Balanced at h
  unfold inFlight
  omega

/-! ### One call -/

/-- A call before and after an event: it stays in its phase, starts, or ends. -/
inductive Passage (p q : Pool α) (e : PoolEvent α) (n : Nat) (c d : PoolCall) : Prop
  | stays (phase : d.phase = c.phase) (awaited : d.awaited = true → c.awaited = true)
      (results : q.resultsOf n = p.resultsOf n)
      (quiet : e.call? = some n → e.result? c = none)
  | starts (event : e = .granted n) (waiting : c.phase = .waiting)
      (running : d = { c with phase := .running }) (permit : q.free + 1 = p.free)
      (results : q.resultsOf n = p.resultsOf n)
  | ends (result : Except GatewayError α) (about : e.call? = some n)
      (how : e.result? c = some result) (ended : d = { c with phase := .ended })
      (permit : q.free = p.free + c.phase.held)
      (results : q.resultsOf n = if c.awaited then result :: p.resultsOf n else p.resultsOf n)

theorem Change.passage (h : Change p e q) (hc : p.calls[n]? = some c) :
    ∃ d, q.calls[n]? = some d ∧ d.deadline = c.deadline ∧ Passage p q e n c d := by
  have hn : n < p.calls.length := (List.getElem?_eq_some_iff.mp hc).1
  cases h with
  | spawned deadline =>
    refine ⟨c, ?_, rfl, .stays rfl id rfl (by simp [PoolEvent.call?])⟩
    rw [List.getElem?_append_left hn, hc]
  | granted m b hb hw hf =>
    by_cases hm : m = n
    · subst hm
      obtain rfl : b = c := Option.some.inj (hb.symm.trans hc)
      refine ⟨{ b with phase := .running }, List.getElem?_set_self hn, rfl,
        .starts rfl hw rfl ?_ rfl⟩
      simp only [setPhase]
      omega
    · refine ⟨c, ?_, rfl, .stays rfl id rfl fun _ => rfl⟩
      simp only [setPhase]
      rw [List.getElem?_set_ne hm, hc]
  | finished e m b result he hb hr =>
    by_cases hm : m = n
    · subst hm
      obtain rfl : b = c := Option.some.inj (hb.symm.trans hc)
      refine ⟨{ b with phase := .ended }, ?_, rfl,
        .ends result he hr rfl (finish_free ..) ?_⟩
      · rw [finish_calls, List.getElem?_set_self hn]
      · rw [resultsOf_finish]
        simp only [and_true]
    · refine ⟨c, ?_, rfl, .stays rfl id ?_ ?_⟩
      · rw [finish_calls, List.getElem?_set_ne hm, hc]
      · rw [resultsOf_finish]
        simp only [hm, and_false, if_false]
      · intro hen
        exact (hm (Option.some.inj (he.symm.trans hen))).elim
  | abandoned m b hb =>
    by_cases hm : m = n
    · subst hm
      obtain rfl : b = c := Option.some.inj (hb.symm.trans hc)
      exact ⟨{ b with awaited := false }, List.getElem?_set_self hn, rfl,
        .stays rfl (by simp) rfl fun _ => rfl⟩
    · refine ⟨c, ?_, rfl, .stays rfl id rfl fun _ => rfl⟩
      simp only
      rw [List.getElem?_set_ne hm, hc]
  | nothing e he hnone => exact ⟨c, hc, rfl, .stays rfl id rfl fun hen => hnone n c hen hc⟩

theorem Passage.rank_le (h : Passage p q e n c d) : c.phase.rank ≤ d.phase.rank := by
  cases h with
  | stays phase awaited results quiet => exact Nat.le_of_eq (congrArg _ phase.symm)
  | starts event waiting running permit results => simp [running, waiting, CallPhase.rank]
  | ends result about how ended permit results =>
    cases hp : c.phase <;> simp [ended, CallPhase.rank]

theorem Change.ends (h : Change p e q) (hc : p.calls[n]? = some c) (he : e.call? = some n)
    {result : Except GatewayError α} (hr : e.result? c = some result) :
    q.calls[n]? = some { c with phase := .ended } ∧ q.free = p.free + c.phase.held ∧
      q.resultsOf n = if c.awaited then result :: p.resultsOf n else p.resultsOf n := by
  obtain ⟨d, hd, -, hpassage⟩ := h.passage hc
  cases hpassage with
  | stays phase awaited results quiet =>
    rw [quiet he] at hr
    cases hr
  | starts event waiting running permit results =>
    rw [event] at hr
    cases hr
  | ends other about how ended permit results =>
    obtain rfl : other = result := Option.some.inj (how.symm.trans hr)
    exact ⟨ended ▸ hd, permit, results⟩

/-- No call goes back to an earlier phase. -/
theorem run_rank (events : List (PoolEvent α)) (hc : p.calls[n]? = some c) :
    ∃ d, (p.run events).calls[n]? = some d ∧ c.phase.rank ≤ d.phase.rank := by
  induction events generalizing p c with
  | nil => exact ⟨c, hc, Nat.le_refl _⟩
  | cons e es ih =>
    obtain ⟨b, hb, -, hpassage⟩ := (step_change p e).passage hc
    obtain ⟨d, hd, hle⟩ := ih hb
    exact ⟨d, hd, Nat.le_trans hpassage.rank_le hle⟩

theorem run_of_ended (events : List (PoolEvent α)) (hc : p.calls[n]? = some c)
    (hended : c.phase = .ended) : ∃ d, (p.run events).calls[n]? = some d ∧ d.phase = .ended := by
  obtain ⟨d, hd, hle⟩ := run_rank events hc
  refine ⟨d, hd, ?_⟩
  rw [hended] at hle
  cases hp : d.phase with
  | ended => rfl
  | _ => simp [hp, CallPhase.rank] at hle

theorem deadlines_set (hc : p.calls[n]? = some c) (hd : d.deadline = c.deadline) :
    (p.calls.set n d).map (·.deadline) = p.calls.map (·.deadline) ++ [] := by
  have hsame : (p.calls.map (·.deadline))[n]? = some d.deadline := by
    rw [List.getElem?_map, hc, hd]
    rfl
  obtain ⟨hn, hget⟩ := List.getElem?_eq_some_iff.mp hsame
  rw [List.map_set, ← hget, List.set_getElem_self, List.append_nil]

theorem Change.deadlines (h : Change p e q) :
    q.calls.map (·.deadline) = p.calls.map (·.deadline) ++ e.deadline?.toList := by
  cases h with
  | spawned deadline => exact List.map_append
  | granted n c hc hw hf => exact deadlines_set (d := { c with phase := .running }) hc rfl
  | finished e n c result he hc hr =>
    have hnone : e.deadline? = none := by
      cases e with
      | spawned deadline => cases he
      | _ => rfl
    rw [finish_calls, hnone]
    exact deadlines_set hc rfl
  | abandoned n c hc => exact deadlines_set (d := { c with awaited := false }) hc rfl
  | nothing e he hn =>
    rw [he]
    exact (List.append_nil _).symm

theorem run_deadlines (p : Pool α) (events : List (PoolEvent α)) :
    (p.run events).calls.map (·.deadline) =
      p.calls.map (·.deadline) ++ events.filterMap PoolEvent.deadline? := by
  induction events generalizing p with
  | nil => exact (List.append_nil _).symm
  | cons e es ih =>
    rw [run_cons, ih, (step_change p e).deadlines, List.append_assoc]
    cases hd : e.deadline? with
    | none => rw [List.filterMap_cons_none hd, Option.toList_none, List.nil_append]
    | some deadline => rw [List.filterMap_cons_some hd, Option.toList_some, List.singleton_append]

/-! ### The history of a call -/

theorem run_append (p : Pool α) (before since : List (PoolEvent α)) :
    p.run (before ++ since) = (p.run before).run since :=
  List.foldl_append ..

theorem run_concat (p : Pool α) (before : List (PoolEvent α)) (e : PoolEvent α) :
    p.run (before ++ [e]) = (p.run before).step e :=
  run_append p before [e]

def Runs (p : Pool α) (n : Nat) : Prop := ∃ c, p.calls[n]? = some c ∧ c.phase = .running

/-- A number that is no call yet gets no result, and a new call waits. -/
theorem Change.of_none (h : Change p e q) (hp : p.calls[n]? = none) :
    q.resultsOf n = p.resultsOf n ∧ ∀ d, q.calls[n]? = some d → d.phase = .waiting := by
  have hset : ∀ (m : Nat) (b d : PoolCall),
      (p.calls.set m b)[n]? = some d → d.phase = .waiting := by
    intro m b d hd
    have hn := (List.getElem?_eq_some_iff.mp hd).1
    have hle := List.getElem?_eq_none_iff.mp hp
    rw [List.length_set] at hn
    omega
  cases h with
  | spawned deadline =>
    refine ⟨rfl, ?_⟩
    intro d hd
    simp only [List.getElem?_append_right (List.getElem?_eq_none_iff.mp hp)] at hd
    rw [List.mem_singleton.mp (List.mem_of_getElem? hd)]
  | granted m c hc hw hf => exact ⟨rfl, hset m _⟩
  | finished e m c result he hc hr =>
    have hm : m ≠ n := by
      rintro rfl
      rw [hp] at hc
      cases hc
    rw [resultsOf_finish, finish_calls]
    simp only [hm, and_false, if_false]
    exact ⟨trivial, hset m _⟩
  | abandoned m c hc => exact ⟨rfl, hset m _⟩
  | nothing e he hn =>
    refine ⟨rfl, ?_⟩
    intro d hd
    rw [hp] at hd
    cases hd

/-- Only a permit starts a task. -/
theorem Change.starts (h : Change p e q) (hp : ¬ p.Runs n) (hq : q.Runs n) :
    e = .granted n ∧ q.free + 1 = p.free := by
  obtain ⟨d, hd, hrun⟩ := hq
  cases hc : p.calls[n]? with
  | none =>
    have hwaiting := (h.of_none hc).2 d hd
    rw [hrun] at hwaiting
    cases hwaiting
  | some c =>
    obtain ⟨b, hb, -, hpassage⟩ := h.passage hc
    obtain rfl : b = d := Option.some.inj (hb.symm.trans hd)
    cases hpassage with
    | stays phase awaited results quiet => exact (hp ⟨c, hc, phase.symm.trans hrun⟩).elim
    | starts event waiting running permit results => exact ⟨event, permit⟩
    | ends result about how ended permit results =>
      rw [ended] at hrun
      cases hrun

/-- How a call came to its end among events: by this event, at which it gave back what it held, and
its waiter got this result and no other. -/
structure EndedBy (limit : Nat) (events : List (PoolEvent α)) (n : Nat)
    (before : List (PoolEvent α)) (e : PoolEvent α) (c : PoolCall)
    (result : Except GatewayError α) : Prop where
  occurred : ∃ since, events = before ++ e :: since
  about : e.call? = some n
  found : ((create limit).run before).calls[n]? = some c
  how : e.result? c = some result
  permit : ((create limit).run (before ++ [e])).free =
    ((create limit).run before).free + c.phase.held
  results : ((create limit).run events).resultsOf n = if c.awaited then [result] else []

theorem EndedBy.concat {limit : Nat} {events before : List (PoolEvent α)} {e x : PoolEvent α}
    {result : Except GatewayError α} (h : EndedBy limit events n before e c result)
    (hx : ((create limit).run (events ++ [x])).resultsOf n =
      ((create limit).run events).resultsOf n) :
    EndedBy limit (events ++ [x]) n before e c result where
  occurred := by
    obtain ⟨since, hsplit⟩ := h.occurred
    exact ⟨since ++ [x], by rw [hsplit, List.append_assoc, List.cons_append]⟩
  about := h.about
  found := h.found
  how := h.how
  permit := h.permit
  results := hx.trans h.results

/-- Where a call stands after events: it has not ended and has no result, or one event ended it. -/
def Settled (limit : Nat) (events : List (PoolEvent α)) (n : Nat) : Prop :=
  ((∀ d, ((create limit).run events).calls[n]? = some d → d.phase ≠ .ended) ∧
    ((create limit).run events).resultsOf n = []) ∨
  ∃ d, ((create limit).run events).calls[n]? = some d ∧ d.phase = .ended ∧
    ∃ before e c result, EndedBy limit events n before e c result ∧ c.deadline = d.deadline ∧
      (d.awaited = true → c.awaited = true)

theorem settled_concat {limit : Nat} {events : List (PoolEvent α)} (e : PoolEvent α)
    (h : Settled limit events n) : Settled limit (events ++ [e]) n := by
  have hchange := step_change ((create limit).run events) e
  rw [← run_concat] at hchange
  rcases h with ⟨hopen, hnone⟩ | ⟨d, hd, hended, before, x, b, result, hby, hdeadline, hawaited⟩
  · cases hc : ((create limit).run events).calls[n]? with
    | none =>
      obtain ⟨hresults, hwaits⟩ := hchange.of_none hc
      refine .inl ⟨?_, hresults.trans hnone⟩
      intro d hd
      simp [hwaits d hd]
    | some c =>
      obtain ⟨d, hd, -, hpassage⟩ := hchange.passage hc
      cases hpassage with
      | stays phase awaited results quiet =>
        refine .inl ⟨?_, results.trans hnone⟩
        intro b hb
        obtain rfl : d = b := Option.some.inj (hd.symm.trans hb)
        rw [phase]
        exact hopen c hc
      | starts event waiting running permit results =>
        refine .inl ⟨?_, results.trans hnone⟩
        intro b hb
        obtain rfl : d = b := Option.some.inj (hd.symm.trans hb)
        simp [running]
      | ends result about how ended permit results =>
        rw [hnone] at results
        refine .inr ⟨d, hd, by rw [ended], events, e, c, result, ?_, by rw [ended], by simp [ended]⟩
        exact ⟨⟨[], rfl⟩, about, hc, how, permit, results⟩
  · -- the end is behind: nothing about it changes any more
    obtain ⟨c, hc, hkept, hpassage⟩ := hchange.passage hd
    cases hpassage with
    | stays phase awaited results quiet =>
      exact .inr ⟨c, hc, phase.trans hended, before, x, b, result, hby.concat results,
        hdeadline.trans hkept.symm, fun hwaits => hawaited (awaited hwaits)⟩
    | starts event waiting running permit results =>
      rw [hended] at waiting
      cases waiting
    | ends result about how ended permit results =>
      rw [PoolEvent.result?_of_ended hended] at how
      cases how

theorem run_settled (limit : Nat) (events : List (PoolEvent α)) (n : Nat) :
    Settled limit events n := by
  induction events using List.reverseRecOn with
  | nil => exact .inl ⟨by simp [run, create], rfl⟩
  | append_singleton events e ih => exact settled_concat e ih

theorem resultsOf_of_open {limit : Nat} {events : List (PoolEvent α)}
    (hd : ((create limit).run events).calls[n]? = some d) (hphase : d.phase ≠ .ended) :
    ((create limit).run events).resultsOf n = [] := by
  rcases run_settled limit events n with ⟨-, hnone⟩ | ⟨b, hb, hended, -⟩
  · exact hnone
  · obtain rfl : b = d := Option.some.inj (hb.symm.trans hd)
    exact (hphase hended).elim

theorem endedBy_of_ended {limit : Nat} {events : List (PoolEvent α)}
    (hd : ((create limit).run events).calls[n]? = some d) (hphase : d.phase = .ended) :
    ∃ before e c result, EndedBy limit events n before e c result ∧ c.deadline = d.deadline ∧
      (d.awaited = true → c.awaited = true) := by
  rcases run_settled limit events n with ⟨hopen, -⟩ | ⟨b, hb, -, hby⟩
  · exact (hopen d hd hphase).elim
  · obtain rfl : b = d := Option.some.inj (hb.symm.trans hd)
    exact hby

theorem EndedBy.ended {limit : Nat} {events before : List (PoolEvent α)} {e : PoolEvent α}
    {result : Except GatewayError α} (h : EndedBy limit events n before e c result) :
    ∃ d, ((create limit).run (before ++ [e])).calls[n]? = some d ∧ d.phase = .ended := by
  rw [run_concat]
  exact ⟨_, ((step_change _ e).ends h.found h.about h.how).1, rfl⟩

/-- A call that ends while it waits does not run, neither before nor afterwards. -/
theorem EndedBy.not_runs {limit : Nat} {events before earlier later : List (PoolEvent α)}
    {e : PoolEvent α} {result : Except GatewayError α}
    (h : EndedBy limit events n before e c result) (hwaits : c.phase = .waiting)
    (hsplit : events = earlier ++ later) : ¬ ((create limit).run earlier).Runs n := by
  rintro ⟨b, hb, hrun⟩
  obtain ⟨since, hsince⟩ := h.occurred
  rw [List.append_cons] at hsince
  rcases List.append_eq_append_iff.mp (hsplit.symm.trans hsince) with
    ⟨rest, hupto, -⟩ | ⟨rest, hearlier, -⟩
  · rcases List.eq_nil_or_concat rest with rfl | ⟨rest, x, rfl⟩
    · -- right after its end
      obtain ⟨d, hd, hended⟩ := h.ended
      rw [hupto, List.append_nil, hb] at hd
      cases hd
      rw [hrun] at hended
      cases hended
    · -- before its end it still waits
      rw [List.concat_eq_append, ← List.append_assoc] at hupto
      obtain ⟨hbefore, -⟩ := List.append_inj' hupto rfl
      obtain ⟨d, hd, hle⟩ := run_rank rest hb
      rw [← run_append, ← hbefore, h.found] at hd
      cases hd
      rw [hrun, hwaits] at hle
      cases hle
  · -- later on it stays ended
    obtain ⟨d, hd, hended⟩ := h.ended
    obtain ⟨a, ha, hstays⟩ := run_of_ended rest hd hended
    rw [← run_append, ← hearlier, hb] at ha
    cases ha
    rw [hrun] at hstays
    cases hstays

/-- An event ends a call: it gives back what it held, and the one who waits for it, if there still
is one, has the result. -/
structure EndsCall (p : Pool α) (e : PoolEvent α) (n : Nat) (c : PoolCall)
    (result : Except GatewayError α) : Prop where
  ended : (p.step e).calls[n]? = some { c with phase := .ended }
  permit : (p.step e).free = p.free + c.phase.held
  results : (p.step e).resultsOf n = if c.awaited then [result] else []

theorem endsCall_of_result (hc : p.calls[n]? = some c) (hnone : p.resultsOf n = [])
    (he : e.call? = some n) {result : Except GatewayError α} (hr : e.result? c = some result) :
    p.EndsCall e n c result := by
  obtain ⟨hended, hpermit, hresults⟩ := (step_change p e).ends hc he hr
  exact ⟨hended, hpermit, hnone ▸ hresults⟩

theorem step_granted_free (hc : p.calls[n]? = some c) (hw : c.phase = .waiting) (hf : 0 < p.free) :
    (p.step (.granted n)).free + 1 = p.free := by
  simp only [step, hc, hw, hf, and_self, if_true, setPhase]
  omega

theorem step_abandoned_call (hc : p.calls[n]? = some c) :
    (p.step (.abandoned n)).calls[n]? = some { c with awaited := false } := by
  simp only [step, hc]
  exact List.getElem?_set_self (List.getElem?_eq_some_iff.mp hc).1

theorem step_abandoned_free (hc : p.calls[n]? = some c) :
    (p.step (.abandoned n)).free = p.free := by
  simp only [step, hc]

/-- Whatever happens to the calls of a bridge, and in whatever order: as many of them run as permits
are in use, which are never more than there are, and none is in use once all calls have ended. A
task starts only when its call takes a permit, and a call that waits takes one that is free. A call
that has not ended has no result, and its deadline ends it; one that runs is also ended by the value
that its task returns, by a panic and by the loss of its task. When nobody waits any more a call
goes on and keeps what it holds. A call that has ended did so by one event, gave back what it held,
and the one who waits for it has the result of that end and no other; if it ended while it waited,
its task never runs. -/
theorem permits_accounted (limit : Nat) (events : List (PoolEvent α)) :
    let after : List (PoolEvent α) → Pool α := (create limit).run
    let p := after events
    (p.running.length = p.inFlight ∧ p.inFlight ≤ limit ∧ p.free ≤ p.limit ∧ p.limit = limit) ∧
    ((∀ c ∈ p.calls, c.phase = .ended) → p.inFlight = 0) ∧
    (∀ before e since n, events = before ++ e :: since →
      ¬ (after before).Runs n → (after (before ++ [e])).Runs n →
      e = .granted n ∧ (after (before ++ [e])).free + 1 = (after before).free) ∧
    p.calls.map (·.deadline) = events.filterMap PoolEvent.deadline? ∧
    ∀ n d, p.calls[n]? = some d →
      (d.phase ≠ .ended → p.resultsOf n = [] ∧
        p.EndsCall (.expired n) n d (.error (.authenticationTimeout d.deadline))) ∧
      (d.phase = .waiting → 0 < p.free →
        (p.step (.granted n)).calls[n]? = some { d with phase := .running } ∧
        (p.step (.granted n)).free + 1 = p.free) ∧
      (d.phase = .running →
        (∀ value, p.EndsCall (.returned n value) n d (.ok value)) ∧
        p.EndsCall (.panicked n) n d (.error (.authentication "authenticator panicked")) ∧
        p.EndsCall (.lost n) n d
          (.error (.internal "authentication task ended without a result"))) ∧
      ((p.step (.abandoned n)).calls[n]? = some { d with awaited := false } ∧
        (p.step (.abandoned n)).free = p.free) ∧
      (d.phase = .ended → ∃ before e c result,
        EndedBy limit events n before e c result ∧ c.deadline = d.deadline ∧
        (d.awaited = true → p.resultsOf n = [result]) ∧
        (c.phase = .waiting → ∀ earlier later, events = earlier ++ later →
          ¬ (after earlier).Runs n)) := by
  intro after p
  have hlimit : p.limit = limit := run_limit (create limit) events
  have hbalanced : p.Balanced := run_balanced _ events (create_balanced limit)
  have hrunning : p.running.length = p.inFlight := hbalanced.running_eq
  have hfree : p.free ≤ p.limit := Nat.le.intro hbalanced
  refine ⟨⟨hrunning, ?_, hfree, hlimit⟩, ?_, ?_, ?_, ?_⟩
  · rw [← hlimit]
    exact Nat.sub_le _ _
  · intro hended
    rw [← hrunning, length_running, List.countP_eq_zero]
    intro c hc
    simp [hended c hc]
  · intro before e since n _ hbefore hafter
    rw [show after (before ++ [e]) = (after before).step e from run_concat ..] at hafter ⊢
    exact (step_change (after before) e).starts hbefore hafter
  · exact run_deadlines (create limit) events
  · intro n d hd
    refine ⟨?_, fun hw hf => ⟨granted_call p n d hd hw hf, step_granted_free hd hw hf⟩, ?_,
      ⟨step_abandoned_call hd, step_abandoned_free hd⟩, ?_⟩
    · intro hphase
      have hnone := resultsOf_of_open hd hphase
      exact ⟨hnone, endsCall_of_result hd hnone rfl (if_neg hphase)⟩
    · intro hruns
      have hnone := resultsOf_of_open hd (by simp [hruns])
      exact ⟨fun value => endsCall_of_result hd hnone rfl (if_pos hruns),
        endsCall_of_result hd hnone rfl (if_pos hruns),
        endsCall_of_result hd hnone rfl (if_pos hruns)⟩
    · intro hphase
      obtain ⟨before, e, c, result, hby, hdeadline, hawaited⟩ := endedBy_of_ended hd hphase
      refine ⟨before, e, c, result, hby, hdeadline, ?_, ?_⟩
      · intro hwaits
        have hresults := hby.results
        rw [if_pos (hawaited hwaits)] at hresults
        exact hresults
      · intro hwaits earlier later hsplit
        exact hby.not_runs hwaits hsplit

/-- One permit for three calls: the second gives up waiting while the first runs. -/
example :
    let p : Pool Nat := (create 1).run [.spawned .zero, .spawned .zero, .spawned .zero,
      .granted 0, .granted 1, .expired 1, .panicked 0, .granted 2, .returned 2 7]
    p.inFlight = 0 ∧ p.resultsOf 0 = [.error panicError] ∧
      p.resultsOf 1 = [.error (.authenticationTimeout .zero)] ∧ p.resultsOf 2 = [.ok 7] :=
  ⟨rfl, rfl, rfl, rfl⟩

end Pool
end DeviceGateway
