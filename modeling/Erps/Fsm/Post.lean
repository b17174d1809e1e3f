import Erps.Fsm.States

/-!
# Posting requests

`erps_fsm_post_locked` and everything that calls it from outside the state
machine: the external events of `erps-ctl.c`, the handlers of the timers, and the
initialisation of the state machine.
-/
namespace Erps

open Calls

def fsmPostLocked (lnk : PortIdx) (req : Request) (pdu : Option RapsPdu) : M Int := do
  -- a local clear SF means carrier is on
  if req = .clearSf then
    kWorkCancelDelayable (.linkDown lnk)
  let ret ← fsmResolveReqPrio req
  -- a request that is outranked is no error
  if ret = -EBUSY then
    return 0
  write fun s => if req = .sf then s.modLink lnk fun l => { l with failed := true } else s
  let s ← read id
  -- a clear SF on the RPL must not unblock it, unless the node is in protection
  if req = .clearSf ∧ (s.link lnk).rpl ∧ s.node.state ≠ .protection then
    return 0
  match s.node.state with
  | .idle => fsmPostIdle lnk req pdu
  | .protection => fsmPostProtection lnk req
  | .manualSwitch => fsmPostManualSwitch lnk req
  | .forcedSwitch => fsmPostForcedSwitch lnk req
  | .pending => fsmPostPending lnk req pdu
  -- no state has been reached that could answer
  | .uninit => return ret

/-- `erps_fsm_post`: nothing happens unless the mutex is obtained within 250 ms. -/
def fsmPost (lnk : PortIdx) (req : Request) (pdu : Option RapsPdu) : M Int := do
  let ret ← call .kMutexLock
  if ret ≠ 0 then
    return ret
  fsmPostLocked lnk req pdu

/-- The valid values of `enum erps_event`. -/
inductive ErpsEvent where
  | signalFail | clearSignalFail | admClear | admForcedSwitch | admManualSwitch
  deriving DecidableEq, Repr

def ErpsEvent.request : ErpsEvent → Request
  | signalFail => .sf
  | clearSignalFail => .clearSf
  | admClear => .clear
  | admForcedSwitch => .fs
  | admManualSwitch => .ms

/-- `net_erps_ctl` on the interface of a link. -/
def netErpsCtl (lnk : PortIdx) (ev : ErpsEvent) : M Int := fsmPost lnk ev.request none

/-! ### Timer handlers -/

-- an error from the state machine is logged and otherwise ignored
def wtrWork : M Unit := do
  let _ ← fsmPost .port0 .wtrExpires none

def wtbWork : M Unit := do
  let _ ← fsmPost .port0 .wtbExpires none

def linkDownWork (lnk : PortIdx) : M Unit := do
  let dev ← linkDev lnk
  -- without an interface nothing is posted
  if ← netIfLookupByDev dev then
    let _ ← fsmPost lnk .sf none

/-! ### Initialisation -/

def fsmInitRpl (rplOwner : Bool) (rpl nonRpl : PortIdx) : M Int := do
  let ret ← linkBlock rpl
  -- the port may be disabled although the flag says it is open
  let ret ← ifOk ret (linkUnblockForce nonRpl)
  let ret ← ifOk ret (nodeSchedTx rapsNr 0 0)
  let revertive ← read fun s => s.node.revertive
  if ret = 0 ∧ rplOwner ∧ revertive then nodeStartWtr else pure ret

def fsmInitPlain : M Int := do
  let ret ← linkBlock .port0
  let ret ← ifOk ret (linkUnblockForce .port1)
  ifOk ret (nodeSchedTx rapsNr 0 0)

-- the node leaves the uninitialised state whether or not a call failed
def fsmInit : M Int := do
  -- a time point that has passed
  write fun s => s.modNode fun n => { n with guardTimerExpiry := 0 }
  let n ← read Sys.node
  let ret ← if n.rplOwner ∨ n.rplNbr then
      match n.getRpl, nodeOtherLink n.getRpl with
      | some rpl, some nonRpl => fsmInitRpl n.rplOwner rpl nonRpl
      | _, _ => assertFails
    else
      fsmInitPlain
  fsmTransition .pending
  return ret

end Erps
