import Erps.Kernel

/-!
# Blocking, flushing and transmitting

The operations of `erps.c` on links: blocking and unblocking a port, flushing the
forwarding database, scheduling and stopping the transmission of R-APS PDUs. A
link pointer is the index of the link in the node, so `erps_link_get_node` is the
node of the state.
-/
namespace Erps

open Calls

def linkDev (lnk : PortIdx) : M Device := read fun s => (s.link lnk).dev

def flushFdb (lnk : PortIdx) : M Int := do
  let dev ← linkDev lnk
  if !(← netIfLookupByDev dev) then
    return -ENODEV
  netEthMacFlush dev

/-- The address of link 0. -/
def Sys.nodeId (s : Sys) : EthAddr := s.node.ports.port0.dev.addr

/-- `erps_link_get_node_id`: the address of link 0, or an error. -/
def linkGetNodeId : M (Int × EthAddr) := do
  let dev ← linkDev .port0
  if !(← netIfLookupByDev dev) then
    return (-ENODEV, dev.addr)
  if !(← netIfGetLinkAddr dev) then
    return (- ENXIO, dev.addr)
  return (0, dev.addr)

def zeroAddr : EthAddr := Vector.replicate 6 0

def Link.deleteNodeIdBpr (l : Link) : Link := { l with bpr := 0, lastNodeId := zeroAddr }

def linkDeleteNodeIdBpr (lnk : PortIdx) : M Unit :=
  write fun s => s.modLink lnk Link.deleteNodeIdBpr

/-- `erps_node_get_rpl`: the RPL, if present, is always at index 1. -/
def Node.getRpl (n : Node) : Option PortIdx := if n.ports.port1.rpl then some .port1 else none

/-- `erps_node_other_link`: `NULL` for `NULL`. -/
def nodeOtherLink (lnk : Option PortIdx) : Option PortIdx := lnk.map PortIdx.other

def linkIsBlocked (lnk : PortIdx) : M Bool := read fun s => (s.link lnk).blocked

def Node.anyLinkBlocked (n : Node) : Bool := n.ports.port0.blocked || n.ports.port1.blocked

def linkBlock (lnk : PortIdx) : M Int := do
  if ← linkIsBlocked lnk then
    return 0
  let dev ← linkDev lnk
  if !(← netIfLookupByDev dev) then
    return -ENODEV
  let ret ← netEthPortSetEnabled dev false
  if ret ≠ 0 then
    return ret
  write fun s => s.modLink lnk fun l => { l with blocked := true }
  -- Section 10.1.10 of the specification
  linkDeleteNodeIdBpr lnk
  linkDeleteNodeIdBpr lnk.other
  let vid ← read fun s => s.node.trafficVid
  -- the port is blocked, whatever becomes of the VLAN interface
  if !(← netEthGetVlanIface dev vid) then
    return -ENODEV
  netIfSetUp dev vid false
  return 0

def linkUnblock (lnk : PortIdx) : M Int := do
  -- the failed flag goes even when the port was open already
  write fun s => s.modLink lnk fun l => { l with failed := false }
  if !(← linkIsBlocked lnk) then
    return 0
  let dev ← linkDev lnk
  if !(← netIfLookupByDev dev) then
    return -ENODEV
  let ret ← netEthPortSetEnabled dev true
  if ret ≠ 0 then
    return ret
  write fun s => s.modLink lnk fun l => { l with blocked := false }
  let vid ← read fun s => s.node.trafficVid
  if !(← netEthGetVlanIface dev vid) then
    return -ENODEV
  netIfSetUp dev vid true
  return 0

def linkUnblockForce (lnk : PortIdx) : M Int := do
  -- so that the driver is called
  write fun s => s.modLink lnk fun l => { l with blocked := true }
  linkUnblock lnk

def nodeUnblockAll : M Int := do
  let ret ← linkUnblock .port0
  -- the loop ends at the first error
  ifOk ret (linkUnblock .port1)

def linkUnblockNonFailed (lnk : PortIdx) : M Int := do
  if !(← read fun s => (s.link lnk).failed) then
    linkUnblock lnk
  else
    return 0

def nodeUnblockNonFailed : M Int := do
  let ret ← linkUnblockNonFailed .port0
  ifOk ret (linkUnblockNonFailed .port1)

/-! ### Transmission -/

def erpsRapsBurst : UInt8 := 2
def erpsTxPeriod : Nat := 5000000
def erpsTxBurstPeriod : Nat := 1

/-- The request/states `erps_node_sched_tx` accepts. -/
def validReqState (reqState : UInt8) : Bool :=
  reqState == rapsNr || reqState == rapsMs || reqState == rapsSf || reqState == rapsFs ||
    reqState == rapsEvent

theorem validReqState_shift {reqState : UInt8} (valid : validReqState reqState = true) :
    (reqState <<< rapsRsShift) >>> rapsRsShift = reqState := by
  refine nibble_shift ?_
  simp only [validReqState, Bool.or_eq_true, beq_iff_eq] at valid
  obtain (((rfl | rfl) | rfl) | rfl) | rfl := valid <;> decide

/-- One round of the loop over the ports; a port whose interface is down is deferred. -/
def linkSchedTx (ret : Int) (lnk : PortIdx) : M Int := do
  let dev ← linkDev lnk
  let iface ← netIfLookupByDev dev
  if !(← netIfIsUp dev iface) then
    return ret
  let burst ← read fun s => (s.link lnk).txBurst
  kWorkReschedule (.tx lnk) (if burst ≠ 0 then erpsTxBurstPeriod else erpsTxPeriod)

def nodeSchedTx (reqState subcode status : UInt8) : M Int := do
  if !validReqState reqState then
    return -EINVAL
  if subcode ≠ 0 ∧ reqState ≠ rapsEvent then
    return -EINVAL
  -- cancelled before what they send is written
  kWorkCancelDelayable (.tx .port0)
  kWorkCancelDelayable (.tx .port1)
  let rsSc := (reqState <<< rapsRsShift) ||| subcode
  let pdu ← read fun s => s.node.pduMut
  -- a burst announces a change
  let burst := if pdu.rsSc ≠ rsSc ∨ pdu.status ≠ status then erpsRapsBurst else 0
  write fun s => (s.modNode fun n => { n with
    pduMut := ⟨rsSc, status⟩
    ports := n.ports.map fun l => { l with txBurst := burst } }).note .schedTx
  let ret ← linkSchedTx 0 .port0
  -- the loop ends at the first error
  let ret ← if 0 ≤ ret then linkSchedTx ret .port1 else pure ret
  return if ret < 0 then ret else 0

/-- TX is scheduled on at least one port. -/
def Node.txActive (n : Node) : Bool :=
  n.ports.port0.txDwork.scheduled || n.ports.port1.txDwork.scheduled

def nodeStopTx : M Unit := do
  kWorkCancelDelayable (.tx .port0)
  kWorkCancelDelayable (.tx .port1)
  write fun s => s.note .stopTx

end Erps
