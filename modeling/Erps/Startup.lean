import Erps.Events

/-!
# Starting a node

`erps_node_init` and what it calls before and after the initialisation of the state
machine, and the pass over the ports that goes before it. `linkFailTimeout` is
`CONFIG_NET_ERPS_LINK_FAIL_TIMEOUT`, in milliseconds.
-/
namespace Erps

open Calls

def netEthVlanEnable (dev : Device) (vid : UInt16) : M Int := call (.netEthVlanEnable dev vid)

def linkConfigureVlan (lnk : PortIdx) : M Int := do
  let n ← read Sys.node
  let dev ← linkDev lnk
  if !(← netIfLookupByDev dev) then
    return -ENODEV
  let ret ← netEthVlanEnable dev n.ctrlVid
  if ret ≠ 0 then
    return ret
  let ret ← netEthVlanEnable dev n.trafficVid
  if ret ≠ 0 then
    return ret
  -- the interface of the traffic VLAN is only logged
  let _ ← netEthGetVlanIface dev n.trafficVid
  if !(← netEthGetVlanIface dev n.ctrlVid) then
    return -ENODEV
  netIfSetUp dev n.ctrlVid true
  return 0

def startLinkDownTimer (linkFailTimeout : Nat) (lnk : PortIdx) : M Int := do
  kWorkInitDelayable (.linkDown lnk)
  let ret ← kWorkReschedule (.linkDown lnk) (linkFailTimeout * 1000)
  if ret < 0 then
    return ret
  -- for the log
  let dev ← linkDev lnk
  let _ ← netIfLookupByDev dev
  return 0

def linkInit (linkFailTimeout : Nat) (lnk : PortIdx) : M Int := do
  kWorkInitDelayable (.tx lnk)
  let ret ← linkConfigureVlan lnk
  if ret ≠ 0 then
    return ret
  -- the RPL is not watched
  if !(← read fun s => (s.link lnk).rpl) then
    startLinkDownTimer linkFailTimeout lnk
  else
    return ret

/-- `erps_node_init` up to the state machine. -/
def nodePrepare (linkFailTimeout : Nat) : M Int := do
  kWorkInitDelayable .wtr
  kWorkInitDelayable .wtb
  write fun s => s.modNode fun n => { n with localTopreq := .invalid }
  let ret ← call .kMutexInit
  let ret ← ifOk ret (linkInit linkFailTimeout .port0)
  ifOk ret (linkInit linkFailTimeout .port1)

/-- One round of the loop that makes up for interfaces that went up before the callback was
added: the status so far or that of the work scheduled, and `none` without an interface. -/
def linkStartTx (ret : Int) (lnk : PortIdx) : M (Option Int) := do
  let dev ← linkDev lnk
  if !(← netIfLookupByDev dev) then
    return none
  let up ← netIfIsUp dev true
  let l ← read fun s => s.link lnk
  if up && !l.txDwork.isPending then
    -- an error is logged, and the next round writes over it
    let ret ← kWorkReschedule (.tx lnk)
      (if l.txBurst ≠ 0 then erpsTxBurstPeriod else erpsTxPeriod)
    return some ret
  else
    return some ret

/-- The interfaces `cameUp` go up. -/
def ifacesUp (cameUp : Ports Bool) : M Unit :=
  write fun s => { s with hw := fun d => { s.hw d with
    ifUp := (s.hw d).ifUp || (cameUp.port0 && d == s.node.ports.port0.dev) ||
      (cameUp.port1 && d == s.node.ports.port1.dev) } }

/-- The loop of `erps_node_init` after the state machine. -/
def nodeStartTx : M Int := do
  match ← linkStartTx 0 .port0 with
  | none => return -ENODEV
  | some ret => do
    match ← linkStartTx ret .port1 with
    | none => return -ENODEV
    | some ret => return ret

/-- `erps_node_init`; `cameUp` are the interfaces that go up before the callback is added. -/
def nodeInit (linkFailTimeout : Nat) (cameUp : Ports Bool) : M Int := do
  let ret ← nodePrepare linkFailTimeout
  if ret ≠ 0 then
    return ret
  let ret ← fsmInit
  if ret ≠ 0 then
    return ret
  ifacesUp cameUp
  write fun s => s.modNode fun n => { n with mgmtCb := true }
  nodeStartTx

def linkBlockPort (lnk : PortIdx) : M Int := do
  let dev ← linkDev lnk
  if !(← netIfLookupByDev dev) then
    return -ENODEV
  netEthPortSetEnabled dev false

/-- `erps_node_block_all`: whatever the flags say, both ports are disabled. -/
def nodeBlockAll : M Int := do
  let ret ← linkBlockPort .port0
  ifOk ret (linkBlockPort .port1)

end Erps
