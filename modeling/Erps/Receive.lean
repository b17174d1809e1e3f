import Erps.Events

/-!
# Sending and receiving R-APS PDUs

What `erps.c` puts into a PDU and what it does with one it has read from a frame.
The packet buffer the PDU is built in is an argument of `rapsCreate`, with its prior
contents.
-/
namespace Erps

open Calls

def erpsRapsVer1 : UInt8 := 0

/-- `enum net_verdict`, the values that are returned. -/
inductive NetVerdict where
  | ok | cont | drop
  deriving DecidableEq, Repr

/-! ### Sending -/

def rapsMel (n : Node) : UInt8 := (n.rapsMel <<< rapsMelShift) ||| n.rapsVer

/-- `erps_raps_create` on a buffer; every member that is not named keeps its contents. -/
def rapsCreate (buf : RapsPdu) : M (Int × RapsPdu) := do
  let n ← read Sys.node
  let status := if n.state = .protection ∧ n.ports.port1.blocked then n.pduMut.status ||| rapsBpr
    else n.pduMut.status
  let cfmHdr : RapsCfmPduHdr := {
    melVer := rapsMel n
    opcode := rapsOpcode
    flags := rapsFlags
    tlvOff := 32 }
  let (ret, nodeId) ← linkGetNodeId
  if ret ≠ 0 then
    return (ret, { buf with
      cfmHdr := cfmHdr
      rapsInfo := { buf.rapsInfo with rsSc := n.pduMut.rsSc, status := status } })
  return (0, { buf with
    cfmHdr := cfmHdr
    rapsInfo := {
      rsSc := n.pduMut.rsSc
      status := status
      nodeId := nodeId
      rfu := Vector.replicate 24 0 } })

/-! ### Receiving -/

/-- A frame of the node itself, which a ring brings back. -/
def isLocalRapsFrame (pdu : RapsPdu) : M Bool := do
  let (ret, mac) ← linkGetNodeId
  -- better to keep going than to risk discarding PDUs
  if ret ≠ 0 then
    return false
  return memcmp mac.toList pdu.rapsInfo.nodeId.toList == 0

/-- Conditional FDB flush, Section 10.1.10 of the specification. -/
def rapsNodeIdBprFlush (lnk : PortIdx) (req : Request) (pdu : RapsPdu) : M Int := do
  let bpr : UInt8 := if pdu.bpr then 1 else 0
  let pduNodeId := pdu.rapsInfo.nodeId
  -- R-APS(NR) does nothing but delete the (node ID, BPR) pair
  if req = .rapsNr then
    linkDeleteNodeIdBpr lnk
    return 0
  let l ← read fun s => s.link lnk
  let nodeIdChgd := memcmp l.lastNodeId.toList pduNodeId.toList ≠ 0
  if bpr = l.bpr ∨ ¬nodeIdChgd then
    return 0
  write fun s => s.modLink lnk fun l => { l with
    bpr := bpr
    lastNodeId := if nodeIdChgd then pduNodeId else l.lastNodeId }
  let (ret, nodeId) ← linkGetNodeId
  if ret ≠ 0 then
    return ret
  -- the polarity of DNF is as in the code
  if ¬pdu.dnf ∨ memcmp nodeId.toList pduNodeId.toList = 0 then
    return 0
  let other ← read fun s => s.link lnk.other
  -- neither link has seen this pair last
  if bpr ≠ other.bpr ∨ memcmp other.lastNodeId.toList pduNodeId.toList ≠ 0 then
    flushFdb lnk
  else
    return 0

def handleRapsEvent (lnk : PortIdx) (pdu : RapsPdu) : M Int := do
  if pdu.getSubcode ≠ rapsScFlushReq then
    return -EINVAL
  -- a flush event has no status bits
  if pdu.status ≠ 0 then
    return -EINVAL
  flushFdb lnk

/-- The switch of `erps_raps_recv` without its event case: the request a PDU is, if any.
Version 1 knows neither manual nor forced switch. -/
def rapsRequest (rapsVer : UInt8) (pdu : RapsPdu) : Option RapsRequest :=
  let reqState := pdu.getReqState
  if reqState = rapsNr then
    -- R-APS(NR) and R-APS(NR,RB) share a request/state
    some (if pdu.rb then .nrRb else .nr)
  else if reqState = rapsMs then
    if rapsVer = erpsRapsVer1 then none else some .ms
  else if reqState = rapsSf then
    some .sf
  else if reqState = rapsFs then
    if rapsVer = erpsRapsVer1 then none else some .fs
  else
    none

def rapsRecv (lnk : PortIdx) (pdu : RapsPdu) : M NetVerdict := do
  let n ← read Sys.node
  if pdu.cfmHdr.opcode ≠ rapsOpcode then
    return .drop
  if pdu.getReqState = rapsEvent then
    let ret ← handleRapsEvent lnk pdu
    return if ret ≠ 0 then .drop else .ok
  match rapsRequest n.rapsVer pdu with
  | none => return .drop
  | some req => do
    -- old PDUs are kept out while the guard timer runs
    if !(← read Sys.guardExpired) then
      return .drop
    -- an error from the flush is logged and otherwise ignored
    let _ ← rapsNodeIdBprFlush lnk req.request pdu
    let ret ← fsmPost lnk req.request (some pdu)
    return if ret ≠ 0 then .drop else .ok

/-- The end of `erps_eth_recv`, for a PDU that was read from a frame with the VLAN header
of the ring. -/
def pduRecv (lnk : PortIdx) (pdu : RapsPdu) : M NetVerdict := do
  if ← isLocalRapsFrame pdu then
    return .drop
  rapsRecv lnk pdu

end Erps
