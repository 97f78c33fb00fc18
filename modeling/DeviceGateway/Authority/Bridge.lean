import DeviceGateway.Error

/-!
# The bridge to the authority

Calls to the authority run under a limit. A call waits for a permit, runs while it holds one, and
ends by a value, a panic or its deadline; every end gives back the permit that the call holds, and
the one who waits for the call gets exactly one result. Calls of any number overlap: a pool takes
the events of all of them, one at a time, in whatever order they come.
-/

namespace DeviceGateway

def maxPermits : Nat := 2305843009213693951

structure BridgeLimits where
  workers : Nat
  maxInflight : Nat
  timeout : Duration
  workers_pos : 0 < workers
  maxInflight_pos : 0 < maxInflight
  maxInflight_le : maxInflight ≤ maxPermits
  deriving DecidableEq, Repr

/-- Why a bridge does not start: a refused setting, or a crash. -/
inductive BridgeStartFault where
  | refused (error : GatewayError)
  | crash (text : String)
  deriving DecidableEq, Repr

def BridgeLimits.create (workers maxInflight : Nat) (timeout : Duration) :
    Except BridgeStartFault BridgeLimits :=
  if hw : 0 < workers then
    if hm : 0 < maxInflight then
      if hp : maxInflight ≤ maxPermits then .ok ⟨workers, maxInflight, timeout, hw, hm, hp⟩
      else .error (.crash ("a semaphore may not have more than MAX_PERMITS permits ("
        ++ Text.natText maxPermits ++ ")"))
    else .error (.refused (.config "auth max_inflight must be > 0"))
  else .error (.refused (.config "auth worker_threads must be > 0"))

inductive CallPhase where
  | waiting
  | running
  | ended
  deriving DecidableEq, Repr

/-- A call: its deadline, how far it has come, and whether someone still waits for it. -/
structure PoolCall where
  deadline : Duration
  phase : CallPhase
  awaited : Bool
  deriving DecidableEq, Repr

/-- The calls of a bridge, the permits that are free, and the results handed out, latest first. -/
structure Pool (α : Type) where
  limit : Nat
  free : Nat
  calls : List PoolCall
  delivered : List (Nat × Except GatewayError α)

/-- What can happen to the call of a given number. -/
inductive PoolEvent (α : Type) where
  | spawned (deadline : Duration)
  | granted (call : Nat)
  | returned (call : Nat) (value : α)
  | panicked (call : Nat)
  | expired (call : Nat)
  | lost (call : Nat)
  | abandoned (call : Nat)

namespace Pool

variable {α : Type}

def create (limit : Nat) : Pool α := ⟨limit, limit, [], []⟩

def inFlight (p : Pool α) : Nat := p.limit - p.free

def running (p : Pool α) : List PoolCall := p.calls.filter (·.phase == .running)

def setPhase (p : Pool α) (n : Nat) (c : PoolCall) (phase : CallPhase) : Pool α :=
  { p with calls := p.calls.set n { c with phase := phase } }

/-- A call ended: its permit comes back if it holds one, and its waiter gets the result. -/
def finish (p : Pool α) (n : Nat) (c : PoolCall) (result : Except GatewayError α) : Pool α :=
  let p := if c.phase = .running then { p with free := p.free + 1 } else p
  let p := p.setPhase n c .ended
  if c.awaited then { p with delivered := (n, result) :: p.delivered } else p

theorem finish_calls (p : Pool α) (n : Nat) (c : PoolCall) (result : Except GatewayError α) :
    (p.finish n c result).calls = p.calls.set n { c with phase := .ended } := by
  simp only [finish, setPhase]
  split <;> split <;> rfl

theorem finish_delivered (p : Pool α) (n : Nat) (c : PoolCall) (result : Except GatewayError α) :
    (p.finish n c result).delivered =
      if c.awaited then (n, result) :: p.delivered else p.delivered := by
  simp only [finish, setPhase]
  split <;> split <;> rfl

def panicError : GatewayError := .authentication "authenticator panicked"

def lostError : GatewayError := .internal "authentication task ended without a result"

/-- A running call ended by itself; a call that does not run stays as it is. -/
def endRunning (p : Pool α) (n : Nat) (result : Except GatewayError α) : Pool α :=
  match p.calls[n]? with
  | some c => if c.phase = .running then p.finish n c result else p
  | none => p

/-- One event. An event that cannot happen changes nothing. -/
def step (p : Pool α) : PoolEvent α → Pool α
  | .spawned deadline => { p with calls := p.calls ++ [⟨deadline, .waiting, true⟩] }
  | .granted n =>
    match p.calls[n]? with
    | some c =>
      if c.phase = .waiting ∧ 0 < p.free then { p with free := p.free - 1 }.setPhase n c .running
      else p
    | none => p
  | .returned n value => p.endRunning n (.ok value)
  | .panicked n => p.endRunning n (.error panicError)
  | .expired n =>
    match p.calls[n]? with
    | some c =>
      if c.phase = .ended then p else p.finish n c (.error (.authenticationTimeout c.deadline))
    | none => p
  | .lost n => p.endRunning n (.error lostError)
  | .abandoned n =>
    match p.calls[n]? with
    | some c => { p with calls := p.calls.set n { c with awaited := false } }
    | none => p

def run (p : Pool α) (events : List (PoolEvent α)) : Pool α := events.foldl step p

theorem run_cons (p : Pool α) (e : PoolEvent α) (es : List (PoolEvent α)) :
    p.run (e :: es) = (p.step e).run es := rfl

end Pool

inductive PoolTask (α : Type) where
  | returns (value : α)
  | panics
  | hangs
  | panicsWhenDropped

def PoolTask.ending {α : Type} (call : Nat) : PoolTask α → PoolEvent α
  | returns value => .returned call value
  | panics => .panicked call
  | hangs => .expired call
  | panicsWhenDropped => .lost call

/-- The call that an event is about; a new call is none of those there are. -/
def PoolEvent.call? {α : Type} : PoolEvent α → Option Nat
  | spawned _ => none
  | granted n => some n
  | returned n _ => some n
  | panicked n => some n
  | expired n => some n
  | lost n => some n
  | abandoned n => some n

/-- What the other calls do during one call: while it waits and while it runs. A permit that is free
may be granted too late. -/
structure Traffic (α : Type) where
  whileWaiting : List (PoolEvent α) := []
  inTime : Bool := true
  whileRunning : List (PoolEvent α) := []

namespace Pool

variable {α : Type}

/-- Events in order, those of one call left out. -/
def runOthers (p : Pool α) (n : Nat) (events : List (PoolEvent α)) : Pool α :=
  p.run (events.filter fun e => e.call? != some n)

/-- The pool after a new call has waited; the call is the one after those there were. -/
def waited (p : Pool α) (deadline : Duration) (t : Traffic α) : Pool α :=
  (p.step (.spawned deadline)).runOthers p.calls.length t.whileWaiting

/-- Whether a new call gets a permit before its deadline. -/
def permits (p : Pool α) (deadline : Duration) (t : Traffic α) : Bool :=
  t.inTime && decide (0 < (p.waited deadline t).free)

/-- The pool after a new call has ended: it runs its task if it gets a permit, and waits until its
deadline otherwise. -/
def afterCall (p : Pool α) (deadline : Duration) (t : Traffic α) (task : PoolTask α) : Pool α :=
  let n := p.calls.length
  let q := p.waited deadline t
  if p.permits deadline t then
    ((q.step (.granted n)).runOthers n t.whileRunning).step (task.ending n)
  else q.step (.expired n)

def performAmid (p : Pool α) (deadline : Duration) (t : Traffic α) (task : PoolTask α) :
    Except GatewayError α × Pool α :=
  let q := p.afterCall deadline t task
  ((q.delivered.lookup p.calls.length).getD (.error lostError), q)

/-- A call that nothing else overlaps, and its result. -/
def perform (p : Pool α) (deadline : Duration) (task : PoolTask α) :
    Except GatewayError α × Pool α :=
  p.performAmid deadline {} task

/-- A call that keeps its permit, by number. -/
def hold (p : Pool α) (deadline : Duration) : Nat × Pool α :=
  (p.calls.length, p.run [.spawned deadline, .granted p.calls.length])

end Pool
end DeviceGateway
