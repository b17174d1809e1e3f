import Erps.Packet
import Erps.Receive

/-!
# Receiving frames

`erps_recv` from the packet to the post. Reception has two steps, the filter with all that
precedes the post to the state machine, and the post itself: `erpsRecv_eq` says that the
program is the one after the other.
-/
namespace Erps

open Calls Packed

/-! ### Reading a frame -/

/-- `erps_is_stray_raps_pdu`. -/
def isStrayRapsPdu (n : Node) (hdr : NetEthVlanHdr) : Bool := n.ringId ≠ hdr.dst[5]

-- the inner type is only logged
def readVlanHdr (pkt : NetPkt) : M (Except Int NetEthVlanHdr × NetPkt) := do
  if pkt.remainingData < vlanHdrLayout.size then
    return (.error (- ENODATA), pkt)
  match pkt.read vlanHdrLayout with
  | (none, pkt) => return (.error (- ENOBUFS), pkt)
  | (some hdr, pkt) =>
    if hdr.vlan.tpid ≠ netEthPtypeVlan then
      return (.error (- EINVAL), pkt)
    let ctrlVid ← read fun s => s.node.ctrlVid
    if netEthVlanGetVid hdr.vlan.tci ≠ ctrlVid then
      return (.error (- EINVAL), pkt)
    return (.ok hdr, pkt)

/-- `erps_eth_recv` up to the PDU. -/
def ethRead (pkt : NetPkt) : M (Option RapsPdu × NetPkt) := do
  match ← readVlanHdr pkt with
  | (.error _, pkt) => return (none, pkt)
  | (.ok hdr, pkt) =>
    let n ← read Sys.node
    if isStrayRapsPdu n hdr then
      return (none, pkt)
    return pkt.read rapsPduLayout

def ethRecv (lnk : PortIdx) (pkt : NetPkt) : M (NetVerdict × NetPkt) := do
  match ← ethRead pkt with
  | (none, pkt) => return (.drop, pkt)
  | (some pdu, pkt) =>
    let vdct ← pduRecv lnk pdu
    return (vdct, pkt)

/-- `erps_link_lookup_by_iface`, by the device of the interface. -/
def Node.linkLookupByIface (n : Node) (dev : Device) : Option PortIdx :=
  if n.ports.port0.dev = dev then some .port0
  else if n.ports.port1.dev = dev then some .port1
  else none

/-- The packet with its cursor where it was, unless it has been consumed. -/
def handBack (pkt : NetPkt) : NetVerdict × NetPkt → NetVerdict × NetPkt
  | (.ok, after) => (.ok, after)
  | (vdct, _) => (vdct, pkt)

def erpsRecv (dev : Device) (pkt : NetPkt) : M (NetVerdict × NetPkt) := do
  let n ← read Sys.node
  match n.linkLookupByIface dev with
  | none => return (.drop, pkt)
  | some lnk =>
    let res ← if rapsPduLayout.size ≤ pkt.getLen then ethRecv lnk pkt else pure (.cont, pkt)
    return handBack pkt res

/-! ### The filter -/

/-- What becomes of a frame before the state machine is involved: it is given a verdict, or
the request it is to be posted as. -/
inductive Filtered where
  | verdict (v : NetVerdict)
  | request (req : RapsRequest) (pdu : RapsPdu)
  deriving DecidableEq, Repr

/-- The step after the filter. -/
def Filtered.post (lnk : PortIdx) : Filtered → M NetVerdict
  | verdict v => return v
  | request req pdu => do
    let ret ← fsmPost lnk req.request (some pdu)
    return if ret ≠ 0 then .drop else .ok

/-- `erps_raps_recv` up to the post. -/
def rapsFilter (lnk : PortIdx) (pdu : RapsPdu) : M Filtered := do
  let n ← read Sys.node
  if pdu.cfmHdr.opcode ≠ rapsOpcode then
    return .verdict .drop
  if pdu.getReqState = rapsEvent then
    let ret ← handleRapsEvent lnk pdu
    return .verdict (if ret ≠ 0 then .drop else .ok)
  match rapsRequest n.rapsVer pdu with
  | none => return .verdict .drop
  | some req => do
    if !(← read Sys.guardExpired) then
      return .verdict .drop
    let _ ← rapsNodeIdBprFlush lnk req.request pdu
    return .request req pdu

def pduFilter (lnk : PortIdx) (pdu : RapsPdu) : M Filtered := do
  if ← isLocalRapsFrame pdu then
    return .verdict .drop
  rapsFilter lnk pdu

def ethFilter (lnk : PortIdx) (pkt : NetPkt) : M (Filtered × NetPkt) := do
  match ← ethRead pkt with
  | (none, pkt) => return (.verdict .drop, pkt)
  | (some pdu, pkt) =>
    let res ← pduFilter lnk pdu
    return (res, pkt)

/-- `erps_recv` on the interface of a link up to the post. -/
def erpsFilter (lnk : PortIdx) (pkt : NetPkt) : M (Filtered × NetPkt) :=
  if rapsPduLayout.size ≤ pkt.getLen then ethFilter lnk pkt else pure (.verdict .cont, pkt)

theorem rapsRecv_eq (lnk : PortIdx) (pdu : RapsPdu) :
    rapsRecv lnk pdu = rapsFilter lnk pdu >>= Filtered.post lnk := by
  unfold rapsRecv rapsFilter
  rw [bind_assoc]
  congr 1
  funext n
  rw [ite_bind, ite_bind, bind_assoc]
  congr 2
  cases rapsRequest n.rapsVer pdu with
  | none => rfl
  | some req =>
    simp only [bind_assoc, ite_bind]
    rfl

theorem pduRecv_eq (lnk : PortIdx) (pdu : RapsPdu) :
    pduRecv lnk pdu = pduFilter lnk pdu >>= Filtered.post lnk := by
  unfold pduRecv pduFilter
  rw [bind_assoc]
  congr 1
  funext own
  rw [ite_bind, rapsRecv_eq]
  rfl

theorem ethRecv_eq (lnk : PortIdx) (pkt : NetPkt) :
    ethRecv lnk pkt = do
      let (res, after) ← ethFilter lnk pkt
      let vdct ← res.post lnk
      return (vdct, after) := by
  unfold ethRecv ethFilter
  rw [bind_assoc]
  congr 1
  funext p
  rcases p with ⟨_ | pdu, after⟩
  · rfl
  · simp only [pduRecv_eq, bind_assoc]
    rfl

/-- `erps_recv` is the filter and then the post. -/
theorem erpsRecv_eq (dev : Device) (pkt : NetPkt) :
    erpsRecv dev pkt = do
      let n ← read Sys.node
      match n.linkLookupByIface dev with
      | none => return (.drop, pkt)
      | some lnk =>
        let (res, after) ← erpsFilter lnk pkt
        let vdct ← res.post lnk
        return handBack pkt (vdct, after) := by
  unfold erpsRecv erpsFilter
  congr 1
  funext n
  cases n.linkLookupByIface dev with
  | none => rfl
  | some lnk =>
    simp only [ite_bind, ethRecv_eq, bind_assoc]
    rfl

/-! ### A frame to receive -/

/-- R-APS(NR) of a node with the given octet in its ID, as a frame of the sample ring with the
given inner type. -/
def samplePdu (octet : UInt8) : RapsPdu :=
  ⟨⟨0xe1, rapsOpcode, rapsFlags, 32⟩,
    ⟨0, 0, (sampleDevice 0 octet).addr, Vector.replicate 24 0⟩, 0⟩

def sampleHdr (type : UInt16) : NetEthVlanHdr :=
  ⟨#v[0x01, 0x19, 0xa7, 0x00, 0x00, 1], zeroAddr, ⟨netEthPtypeVlan, 4093⟩, type⟩

def samplePkt (type : UInt16) : NetPkt :=
  ⟨vlanHdrLayout.bytes (sampleHdr type) ++ rapsPduLayout.bytes (samplePdu 9), 0, Nat.zero_le _⟩

end Erps
