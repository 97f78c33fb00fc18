import Mathlib.Data.List.TakeWhile
import DeviceGateway.Transport.Listener
import DeviceGateway.Proofs.Transport.Acceptance

/-!
# What a listener hands over

Whatever becomes of its tasks, a listener goes on until the first event of its shutdown channel. A
task gets its connection once, from a handshake that succeeded on a transport of its own. What one
event can do is said once, and what a run does follows from it.
-/

namespace DeviceGateway

variable {σ τ : Type}

/-- What comes over the shutdown channel with an event. -/
def ListenerEvent.shutdown? : ListenerEvent → Option ShutdownEvent
  | shutdown s => some s
  | _ => none

theorem ListenerEvent.of_ofTask {e : ListenerEvent} (h : e.ofTask = true) :
    e ≠ .accepted ∧ e.shutdown? = none := by
  cases e with
  | accepted => cases h
  | shutdown s => cases h
  | _ => exact ⟨nofun, rfl⟩

namespace Listener

variable (guard : Option (ClientGuard σ τ)) (deadline : Duration)

/-! ### What one event can do -/

/-- The connection that an event hands over, with the number of its task. -/
def handover? (l : Listener (σ × τ)) : ListenerEvent → Option (Nat × Connection)
  | .handshaken n calls ending =>
    if l.tasks[n]? = some .handshaking then
      (Transport.accept guard deadline l.world calls ending).1.toOption.map (Prod.mk n)
    else none
  | _ => none

theorem handover?_eq_some (l : Listener (σ × τ)) (e : ListenerEvent) (n : Nat)
    (conn : Connection) :
    l.handover? guard deadline e = some (n, conn) ↔ ∃ calls ending,
      e = .handshaken n calls ending ∧ l.tasks[n]? = some .handshaking ∧
      (Transport.accept guard deadline l.world calls ending).1 = .ok conn := by
  cases e with
  | handshaken m calls ending =>
    simp only [handover?, ListenerEvent.handshaken.injEq]
    constructor
    · intro h
      split at h
      · next hm =>
        cases hr : (Transport.accept guard deadline l.world calls ending).1 with
        | error e =>
          rw [hr] at h
          cases h
        | ok c =>
          rw [hr] at h
          cases h
          exact ⟨calls, ending, ⟨rfl, rfl, rfl⟩, hm, hr⟩
      · cases h
    · rintro ⟨_, _, ⟨rfl, rfl, rfl⟩, hm, hok⟩
      rw [if_pos hm, hok]
      rfl
  | _ => simp [handover?]

/-- A listener before and after an event. -/
inductive Change (l : Listener (σ × τ)) (e : ListenerEvent) : Listener (σ × τ) → Prop
  | accepted (he : e = .accepted) (hl : l.result = none) :
      Change l e { l with tasks := l.tasks ++ [.handshaking] }
  | stopped (s : ShutdownEvent) (he : e = .shutdown s) (hl : l.result = none) :
      Change l e { l with result := some s.result }
  | handedOver (n : Nat) (conn : Connection) (world : σ × τ)
      (hconn : l.handover? guard deadline e = some (n, conn)) :
      Change l e ⟨l.tasks.set n (.handling conn), (n, conn) :: l.handedOver, world, l.result⟩
  | moved (n : Nat) (t : ListenerTask) (world : σ × τ) (he : e.ofTask = true)
      (ht : t ≠ .handshaking) (hnone : l.handover? guard deadline e = none) :
      Change l e ⟨l.tasks.set n t, l.handedOver, world, l.result⟩
  | nothing (he : l.result = none → e ≠ .accepted ∧ e.shutdown? = none)
      (hnone : l.handover? guard deadline e = none) : Change l e l

theorem quiet_change (l : Listener (σ × τ)) (e : ListenerEvent) (he : e.ofTask = true)
    (hnone : l.handover? guard deadline e = none) : Change guard deadline l e l :=
  .nothing (fun _ => ListenerEvent.of_ofTask he) hnone

theorem handshaken_change (l : Listener (σ × τ)) (n : Nat) (calls : List HookCall)
    (ending : HandshakeEnd) :
    Change guard deadline l (.handshaken n calls ending)
      (l.serveEvent guard deadline (.handshaken n calls ending)) := by
  have hquiet (h : l.tasks[n]? ≠ some .handshaking) :
      Change guard deadline l (.handshaken n calls ending) l :=
    quiet_change guard deadline l _ rfl (if_neg h)
  simp only [serveEvent]
  cases ht : l.tasks[n]? with
  | none => exact hquiet (by simp [ht])
  | some t =>
    cases t with
    | handshaking =>
      simp only
      cases hr : (Transport.accept guard deadline l.world calls ending).1 with
      | ok conn =>
        refine .handedOver n conn _ ?_
        exact (handover?_eq_some guard deadline l _ n conn).mpr ⟨calls, ending, rfl, ht, hr⟩
      | error e =>
        refine .moved n (.dropped e) _ rfl nofun ?_
        rw [handover?, if_pos ht, hr]
        rfl
    | _ => exact hquiet (by simp [ht])

theorem step_change (l : Listener (σ × τ)) (e : ListenerEvent) :
    Change guard deadline l e (l.step guard deadline e) := by
  unfold step
  cases e with
  | accepted =>
    cases hl : l.result with
    | none => exact .accepted rfl hl
    | some r => exact .nothing (fun h => nomatch hl.symm.trans h) rfl
  | acceptFailed text =>
    have hquiet : Change guard deadline l (.acceptFailed text) l :=
      .nothing (fun _ => ⟨nofun, rfl⟩) rfl
    split <;> exact hquiet
  | shutdown s =>
    cases hl : l.result with
    | none => exact .stopped s rfl hl
    | some r => exact .nothing (fun h => nomatch hl.symm.trans h) rfl
  | handshaken n calls ending =>
    simp only [ListenerEvent.ofTask, Bool.not_true, Bool.and_false, Bool.false_eq_true, if_false]
    exact handshaken_change guard deadline l n calls ending
  | handled n ending =>
    simp only [ListenerEvent.ofTask, Bool.not_true, Bool.and_false, Bool.false_eq_true, if_false,
      serveEvent]
    cases l.tasks[n]? with
    | none => exact quiet_change guard deadline l _ rfl rfl
    | some t =>
      cases t with
      | handling conn => exact .moved n .ended l.world rfl nofun rfl
      | _ => exact quiet_change guard deadline l _ rfl rfl
  | crashed n =>
    simp only [ListenerEvent.ofTask, Bool.not_true, Bool.and_false, Bool.false_eq_true, if_false,
      serveEvent]
    cases l.tasks[n]? with
    | none => exact quiet_change guard deadline l _ rfl rfl
    | some t =>
      simp only
      split
      · exact .moved n .ended l.world rfl nofun rfl
      · exact quiet_change guard deadline l _ rfl rfl

variable {guard : Option (ClientGuard σ τ)} {deadline : Duration} {l k : Listener (σ × τ)}
  {e : ListenerEvent} {n : Nat} {conn : Connection}

/-- The first event of the shutdown channel is what a listener ends with. -/
theorem Change.result_eq (h : Change guard deadline l e k) :
    k.result = l.result.or (e.shutdown?.map ShutdownEvent.result) := by
  cases h with
  | accepted he hl =>
    rw [he, hl]
    rfl
  | stopped s he hl =>
    rw [he, hl]
    rfl
  | handedOver n conn world hconn =>
    obtain ⟨calls, ending, rfl, -⟩ := (handover?_eq_some guard deadline l e n conn).mp hconn
    exact (Option.or_none).symm
  | moved n t world he ht hnone =>
    rw [(ListenerEvent.of_ofTask he).2]
    exact (Option.or_none).symm
  | nothing he hnone =>
    cases hl : l.result with
    | some r => rfl
    | none =>
      rw [(he hl).2]
      rfl

/-- Only a socket makes a task, and it makes one. -/
theorem Change.tasks_length (h : Change guard deadline l e k) :
    k.tasks.length = l.tasks.length + if l.result = none ∧ e = .accepted then 1 else 0 := by
  cases h with
  | accepted he hl => rw [if_pos ⟨hl, he⟩, List.length_append, List.length_singleton]
  | stopped s he hl => rw [if_neg (by simp [he]), Nat.add_zero]
  | handedOver n conn world hconn =>
    obtain ⟨calls, ending, rfl, -⟩ := (handover?_eq_some guard deadline l e n conn).mp hconn
    rw [if_neg (by simp), List.length_set, Nat.add_zero]
  | moved n t world he ht hnone =>
    rw [if_neg fun h => (ListenerEvent.of_ofTask he).1 h.2, List.length_set, Nat.add_zero]
  | nothing he hnone => rw [if_neg fun h => (he h.1).1 h.2, Nat.add_zero]

theorem Change.handedOver_eq (h : Change guard deadline l e k) :
    k.handedOver = (l.handover? guard deadline e).toList ++ l.handedOver := by
  cases h with
  | accepted he hl =>
    rw [he]
    rfl
  | stopped s he hl =>
    rw [he]
    rfl
  | handedOver n conn world hconn =>
    rw [hconn]
    rfl
  | moved n t world he ht hnone =>
    rw [hnone]
    rfl
  | nothing he hnone =>
    rw [hnone]
    rfl

/-- A task is past its handshake. -/
def Past (l : Listener (σ × τ)) (n : Nat) : Prop :=
  ∃ t, l.tasks[n]? = some t ∧ t ≠ .handshaking

theorem past_set (m : Nat) {t : ListenerTask} (handed : List (Nat × Connection)) (world : σ × τ)
    (ht : t ≠ .handshaking) (h : l.Past n) :
    (⟨l.tasks.set m t, handed, world, l.result⟩ : Listener (σ × τ)).Past n := by
  obtain ⟨s, hs, hpast⟩ := h
  by_cases hmn : m = n
  · subst hmn
    exact ⟨t, List.getElem?_set_self (List.getElem?_eq_some_iff.mp hs).1, ht⟩
  · exact ⟨s, (List.getElem?_set_ne hmn).trans hs, hpast⟩

theorem Change.past (h : Change guard deadline l e k) (hn : l.Past n) : k.Past n := by
  cases h with
  | accepted he hl =>
    obtain ⟨t, ht, hpast⟩ := hn
    exact ⟨t, (List.getElem?_append_left (List.getElem?_eq_some_iff.mp ht).1).trans ht, hpast⟩
  | stopped s he hl => exact hn
  | handedOver n conn world hconn => exact past_set _ _ world nofun hn
  | moved n t world he ht hnone => exact past_set _ _ world ht hn
  | nothing he hnone => exact hn

theorem Change.past_of_handover (h : Change guard deadline l e k)
    (hconn : l.handover? guard deadline e = some (n, conn)) : k.Past n := by
  obtain ⟨calls, ending, he, hn, -⟩ := (handover?_eq_some guard deadline l e n conn).mp hconn
  have hlt := (List.getElem?_eq_some_iff.mp hn).1
  cases h with
  | handedOver m d world hd =>
    cases hconn.symm.trans hd
    exact ⟨.handling conn, List.getElem?_set_self hlt, nofun⟩
  | accepted ha hl => cases he.symm.trans ha
  | stopped s hs hl => cases he.symm.trans hs
  | moved m t world ht hpast hnone => cases hconn.symm.trans hnone
  | nothing hq hnone => cases hconn.symm.trans hnone

/-! ### What a run does -/

/-- Every task that got a connection got one, and is past its handshake. -/
def Served (l : Listener (σ × τ)) : Prop :=
  (l.handedOver.map Prod.fst).Nodup ∧ ∀ n ∈ l.handedOver.map Prod.fst, l.Past n

theorem Change.served (h : Change guard deadline l e k) (hl : l.Served) : k.Served := by
  unfold Served
  rw [h.handedOver_eq]
  cases hconn : l.handover? guard deadline e with
  | none => exact ⟨hl.1, fun n hn => h.past (hl.2 n hn)⟩
  | some handed =>
    obtain ⟨n, conn⟩ := handed
    obtain ⟨calls, ending, he, hn, -⟩ := (handover?_eq_some guard deadline l e n conn).mp hconn
    -- the task was in its handshake until now
    have hnew : n ∉ l.handedOver.map Prod.fst := by
      intro hmem
      obtain ⟨t, ht, hpast⟩ := hl.2 n hmem
      exact hpast (Option.some.inj (ht.symm.trans hn))
    simp only [Option.toList_some, List.singleton_append, List.map_cons, List.nodup_cons,
      List.forall_mem_cons]
    exact ⟨⟨hnew, hl.1⟩, h.past_of_handover hconn, fun m hm => h.past (hl.2 m hm)⟩

variable (guard deadline)

theorem run_served (l : Listener (σ × τ)) (events : List ListenerEvent) (h : l.Served) :
    (l.run guard deadline events).Served := by
  induction events generalizing l with
  | nil => exact h
  | cons e es ih => exact ih (l.step guard deadline e) ((step_change guard deadline l e).served h)

theorem run_result (l : Listener (σ × τ)) (events : List ListenerEvent) :
    (l.run guard deadline events).result =
      l.result.or ((events.findSome? ListenerEvent.shutdown?).map ShutdownEvent.result) := by
  induction events generalizing l with
  | nil => exact (Option.or_none).symm
  | cons e es ih =>
    change ((l.step guard deadline e).run guard deadline es).result = _
    rw [ih, (step_change guard deadline l e).result_eq, Option.or_assoc]
    cases hs : e.shutdown? with
    | none => simp [List.findSome?, hs]
    | some s => simp [List.findSome?, hs]

theorem run_tasks_length (l : Listener (σ × τ)) (events : List ListenerEvent) :
    (l.run guard deadline events).tasks.length = l.tasks.length +
      if l.result = none then (events.takeWhile (·.shutdown?.isNone)).count .accepted else 0 := by
  induction events generalizing l with
  | nil => simp [run]
  | cons e es ih =>
    have hstep := step_change guard deadline l e
    change ((l.step guard deadline e).run guard deadline es).tasks.length = _
    rw [ih, hstep.tasks_length, hstep.result_eq]
    cases hl : l.result with
    | some r => simp
    | none =>
      cases e with
      | shutdown s => simp [ListenerEvent.shutdown?]
      | accepted => simp [ListenerEvent.shutdown?]; omega
      | _ => simp [ListenerEvent.shutdown?]

theorem mem_run_handedOver (l : Listener (σ × τ)) (events : List ListenerEvent) (n : Nat)
    (conn : Connection) :
    (n, conn) ∈ (l.run guard deadline events).handedOver ↔ (n, conn) ∈ l.handedOver ∨
      ∃ before e since, events = before ++ e :: since ∧
        (l.run guard deadline before).handover? guard deadline e = some (n, conn) := by
  induction events generalizing l with
  | nil => simp [run]
  | cons e es ih =>
    have hstep := (step_change guard deadline l e).handedOver_eq
    change (n, conn) ∈ ((l.step guard deadline e).run guard deadline es).handedOver ↔ _
    rw [ih, hstep, List.mem_append, Option.mem_toList, or_comm (a := _ = _), or_assoc]
    refine or_congr_right ?_
    -- it was this event or a later one
    constructor
    · rintro (hnow | ⟨before, d, since, rfl, hd⟩)
      · exact ⟨[], e, es, rfl, hnow⟩
      · exact ⟨e :: before, d, since, rfl, hd⟩
    · rintro ⟨before, d, since, hsplit, hd⟩
      cases before with
      | nil =>
        cases hsplit
        exact .inl hd
      | cons first before =>
        cases hsplit
        exact .inr ⟨before, d, since, rfl, hd⟩

theorem principal_of_accept (w : σ × τ) (calls : List HookCall) (ending : HandshakeEnd)
    (conn : Connection) :
    (Transport.accept guard deadline w calls ending).1 = .ok conn →
      match guard with
      | none => conn.principal = none
      | some _ => ∃ c, conn.principal = some ⟨.succeeded c⟩ := by
  intro h
  rw [(Transport.accept_eq_settle guard deadline w calls ending).1] at h
  cases guard with
  | none => exact Transport.settle_unguarded_eq_ok deadline ending conn h
  | some g =>
    obtain ⟨c, hprincipal, -⟩ := Transport.settle_eq_ok deadline _ ending conn h
    exact ⟨c, hprincipal⟩

/-! ### From the start -/

theorem start_run_tasks_length (world : σ × τ) (events : List ListenerEvent) :
    ((start world).run guard deadline events).tasks.length =
      (events.takeWhile (·.shutdown?.isNone)).count .accepted := by
  have hlength := run_tasks_length guard deadline (start world) events
  simpa [start] using hlength

theorem mem_start_run_handedOver (world : σ × τ) (events : List ListenerEvent) (n : Nat)
    (conn : Connection) :
    (n, conn) ∈ ((start world).run guard deadline events).handedOver ↔
      ∃ before calls ending since, events = before ++ .handshaken n calls ending :: since ∧
        ((start world).run guard deadline before).tasks[n]? = some .handshaking ∧
        (Transport.accept guard deadline ((start world).run guard deadline before).world calls
          ending).1 = .ok conn := by
  rw [mem_run_handedOver, or_iff_right (show (n, conn) ∉ (start world).handedOver from nofun)]
  constructor
  · rintro ⟨before, e, since, rfl, he⟩
    obtain ⟨calls, ending, rfl, hn, hok⟩ := (handover?_eq_some guard deadline _ e n conn).mp he
    exact ⟨before, calls, ending, since, rfl, hn, hok⟩
  · rintro ⟨before, calls, ending, since, rfl, hn, hok⟩
    refine ⟨before, _, since, rfl, ?_⟩
    exact (handover?_eq_some guard deadline _ _ n conn).mpr ⟨calls, ending, rfl, hn, hok⟩

/-- Until the shutdown channel speaks, a socket gets the next task. -/
theorem start_run_accepted (world : σ × τ) (before : List ListenerEvent)
    (hbefore : ∀ e ∈ before, e.shutdown? = none) :
    ((start world).run guard deadline before).tasks.length = before.count .accepted ∧
      ((start world).run guard deadline (before ++ [.accepted])).tasks =
        ((start world).run guard deadline before).tasks ++ [.handshaking] := by
  have hall : before.takeWhile (·.shutdown?.isNone) = before := by
    rw [List.takeWhile_eq_self_iff]
    intro e he
    rw [hbefore e he]
    rfl
  have hopen : ((start world).run guard deadline before).result = none := by
    rw [run_result, List.findSome?_eq_none_iff.mpr hbefore]
    rfl
  constructor
  · rw [start_run_tasks_length, hall]
  · have hlast : (start world).run guard deadline (before ++ [.accepted]) =
        ((start world).run guard deadline before).step guard deadline .accepted :=
      List.foldl_append ..
    rw [hlast, step, hopen]
    rfl

/-- Whatever the events and their order: a listener ends with the first event of its shutdown
channel and with nothing else, in an error only if the channel was closed, and until then every
socket gets one task. A task hands over a
connection exactly if its handshake on a fresh transport succeeds. It does so once, and the
connection has an authenticated principal if clients must present certificates. -/
theorem serves_until_shutdown (guard : Option (ClientGuard σ τ)) (deadline : Duration)
    (world : σ × τ) (events : List ListenerEvent) :
    let after := run guard deadline (start world)
    let l := after events
    l.result =
      (match events.findSome? ListenerEvent.shutdown? with
      | none => none
      | some .signal => some (.ok ())
      | some .lagged => some (.ok ())
      | some .closed => some (.error .shutdown)) ∧
    l.tasks.length = (events.takeWhile (·.shutdown?.isNone)).count .accepted ∧
    (∀ before since, events = before ++ .accepted :: since →
      (∀ e ∈ before, e.shutdown? = none) →
      (after before).tasks.length = before.count .accepted ∧
        (after (before ++ [.accepted])).tasks = (after before).tasks ++ [.handshaking]) ∧
    (l.handedOver.map Prod.fst).Nodup ∧
    (∀ n conn, (n, conn) ∈ l.handedOver ↔ ∃ before calls ending since,
      events = before ++ .handshaken n calls ending :: since ∧
      (after before).tasks[n]? = some .handshaking ∧
      (Transport.accept guard deadline (after before).world calls ending).1 = .ok conn) ∧
    (∀ n conn, (n, conn) ∈ l.handedOver →
      match guard with
      | none => conn.principal = none
      | some _ => ∃ c, conn.principal = some ⟨.succeeded c⟩) := by
  intro after l
  have hhanded := mem_start_run_handedOver guard deadline world events
  refine ⟨?_, start_run_tasks_length guard deadline world events, ?_, ?_, hhanded, ?_⟩
  · rw [show l.result = _ from run_result guard deadline (start world) events]
    cases events.findSome? ListenerEvent.shutdown? with
    | none => rfl
    | some s => cases s <;> rfl
  · intro before since _ hbefore
    exact start_run_accepted guard deadline world before hbefore
  · exact (run_served guard deadline (start world) events ⟨List.nodup_nil, nofun⟩).1
  · intro n conn hmem
    obtain ⟨before, calls, ending, since, -, -, hok⟩ := (hhanded n conn).mp hmem
    exact principal_of_accept guard deadline _ calls ending conn hok

-- the first client crashes, the second one is served
example :
    let l := run (none : Option (ClientGuard Unit Unit)) .zero (start ((), ()))
      [.accepted, .acceptFailed "", .accepted, .crashed 0, .handshaken 1 [] .completed,
        .handshaken 1 [] .completed, .shutdown .lagged, .accepted, .shutdown .closed]
    l.handedOver = [(1, ⟨none⟩)] ∧ l.tasks = [.ended, .handling ⟨none⟩] ∧
      l.result = some (.ok ()) := ⟨rfl, rfl, rfl⟩

end Listener
end DeviceGateway
