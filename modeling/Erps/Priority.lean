import Erps.Ports

/-!
# Priority logic and timers

Which request reaches the state machine, what the node remembers of it, and the
guard, wait-to-restore and wait-to-block timers. Starting a timer posts a running
signal to the state machine, which posts nothing further; here the signal's own
pass through `erps_fsm_post_locked` stands in for the call, and
`fsmPostLocked_running` shows that it is what that call does.
-/
namespace Erps

open Calls

def fsmTransition (next : NodeState) : M Unit :=
  write fun s => s.modNode fun n => { n with state := next }

/-- The request with the higher priority, `MIN` of the two numbers. -/
def Request.min (a b : Request) : Request := if a.toNat ≤ b.toNat then a else b

/-- Section 10.1.9 of the specification. -/
def Node.localClearValid (n : Node) (req : Request) : Bool :=
  match n.localTopreq with
  -- always if a local forced or manual switch is in effect
  | .fs | .ms => true
  | _ =>
    -- never if a remote one is the top request
    match req.min n.localTopreq with
    | .rapsFs | .rapsMs => false
    -- otherwise for the RPL owner
    | _ => n.rplOwner

/-- What a request that passes leaves as the local top priority request. -/
def Request.remembered : Request → Request
  | .sf => .sf
  | .fs => .fs
  | .ms => .ms
  | .wtrRunning => .wtrRunning
  | .wtbRunning => .wtbRunning
  -- a local command that is overridden is forgotten
  | _ => .invalid

/-- Sections 10.1.1 and 10.1.9 of the specification. -/
def fsmResolveReqPrio (req : Request) : M Int := do
  let n ← read Sys.node
  if req = .clear ∧ n.localClearValid req = false then
    return -EBUSY
  -- a clear SF is let through while SF is active
  write fun s => s.modNode fun n =>
    if req = .clearSf ∧ n.localTopreq = .sf then { n with localTopreq := .invalid } else n
  let topreq ← read fun s => s.node.localTopreq
  -- the top request itself passes again
  if req.toNat ≤ topreq.toNat then
    write fun s => s.modNode fun n => { n with localTopreq := req.remembered }
    return 0
  return -EBUSY

def nodeStartGuardTimer : M Unit :=
  write fun s => s.modNode fun n =>
    { n with guardTimerExpiry := s.uptime + n.guardTimerDuration.toNat }

/-- `sys_timepoint_expired` on the guard timer. -/
def Sys.guardExpired (s : Sys) : Bool := s.node.guardTimerExpiry ≤ s.uptime

/-- `erps_fsm_post_locked` with a running signal: every state answers one with no
action, so only the priority logic can have an effect. -/
def fsmPostRunning (req : Request) : M Int := do
  let _ ← fsmResolveReqPrio req
  return 0

/-- Wait-to-restore or wait-to-block. -/
inductive Timer where
  | wtr | wtb
  deriving DecidableEq, Repr

def Timer.item : Timer → WorkItem
  | wtr => .wtr
  | wtb => .wtb

def Timer.running : Timer → Request
  | wtr => .wtrRunning
  | wtb => .wtbRunning

/-- Guard timer and five seconds, in milliseconds. -/
def Node.wtbDuration (n : Node) : Nat := n.guardTimerDuration.toNat + 5000

/-- The expiry in microseconds: minutes for WTR, milliseconds for WTB. -/
def Node.timerExpiry (n : Node) : Timer → Nat
  | .wtr => n.wtrDuration.toNat * 60000000
  | .wtb => n.wtbDuration * 1000

def nodeStartTimer (t : Timer) : M Int := do
  let n ← read Sys.node
  -- a handler that is running counts as pending
  if (n.work t.item).isPending then
    return 0
  -- an error is logged and otherwise ignored
  let _ ← fsmPostRunning t.running
  let ret ← kWorkReschedule t.item (n.timerExpiry t)
  return if ret < 0 then ret else 0

def nodeStartWtr : M Int := nodeStartTimer .wtr

def nodeStartWtb : M Int := nodeStartTimer .wtb

def nodeStopWtr : M Unit := kWorkCancelDelayable .wtr

def nodeStopWtb : M Unit := kWorkCancelDelayable .wtb

end Erps
