import Erps.Packet
import Erps.Receive

/-!
# Sending frames

The TX work of a link: build a PDU in a packet, hand it to the control VLAN interface,
schedule the work again. `padRapsPdus` is `CONFIG_NET_ERPS_PAD_RAPS_PDUS`, and the memory
the PDU is built in is an argument, with its prior contents.
-/
namespace Erps

open Calls

/-- `ERPS_MCAST_MAC` with the ring identifier in its last octet. -/
def nodeDstMac (n : Node) : EthAddr := #v[0x01, 0x19, 0xa7, 0x00, 0x00, n.ringId]

/-- The padding that brings a frame with a VLAN tag to the minimal size. -/
def rapsPadding : List UInt8 :=
  List.replicate (netEthMinimalFrameSize - vlanHdrLayout.size - rapsPduLayout.size) 0

/-- All of `erps_raps_create`; `rapsCreate` is the part between `net_pkt_get_data` and
`net_pkt_set_data`. -/
def rapsCreatePkt (padRapsPdus : Bool) (buf : RapsPdu) (pkt : NetPkt) : M (Int × NetPkt) := do
  let data ← call .netPktGetData
  if data = 0 then
    return (-ENOBUFS, pkt)
  let (ret, pdu) ← rapsCreate buf
  if ret ≠ 0 then
    return (ret, pkt)
  let ret ← call .netPktSetData
  if ret ≠ 0 then
    return (-ENOBUFS, pkt)
  let pkt := pkt.write (rapsPduLayout.bytes pdu)
  -- the status is that of the last write
  if padRapsPdus then
    let ret ← call (.netPktWrite rapsPadding.length)
    return (ret, pkt.write rapsPadding)
  return (0, pkt)

/-- The PDU of a packet that is not dropped has been sent. -/
def netIfTrySendData (lnk : PortIdx) (dev : Device) (pkt : NetPkt) : M Int := do
  let vdct ← call (.netIfTrySendData dev)
  if vdct = netDrop then
    return - EIO
  write fun s => s.note (.sent lnk pkt.octets)
  return 0

-- releasing the packet after an error has no effect on the node
def linkSendPdu (padRapsPdus : Bool) (buf : RapsPdu) (lnk : PortIdx) (dev : Device) : M Int := do
  let frameSize := if padRapsPdus then netEthMinimalFrameSize else rapsPduLayout.size
  let pkt ← call (.netPktAllocWithBuffer dev frameSize)
  if pkt = 0 then
    return -ENOMEM
  let ret ← call (.netLinkaddrCopy dev)
  let n ← read Sys.node
  let ret ← if ret = 0 then call (.netLinkaddrSet (nodeDstMac n)) else pure ret
  if ret ≠ 0 then
    return ret
  let (ret, pkt) ← rapsCreatePkt padRapsPdus buf .empty
  ifOk ret (netIfTrySendData lnk dev pkt)

/-- `erps_link_tx_single_pdu`; a VLAN interface that was not found is passed on as `NULL`,
for which the kernel has no link address. -/
def linkTxSinglePdu (padRapsPdus : Bool) (buf : RapsPdu) (lnk : PortIdx) : M Unit := do
  let dev ← linkDev lnk
  let iface ← netIfLookupByDev dev
  if !iface then
    return ()
  if !(← netIfIsUp dev iface) then
    return ()
  let vid ← read fun s => s.node.ctrlVid
  let _ ← netEthGetVlanIface dev vid
  let _ ← linkSendPdu padRapsPdus buf lnk dev

def txWork (padRapsPdus : Bool) (buf : RapsPdu) (lnk : PortIdx) : M Unit := do
  linkTxSinglePdu padRapsPdus buf lnk
  let burst ← read fun s => (s.link lnk).txBurst
  write fun s => s.modLink lnk fun l =>
    -- one PDU of the burst is done
    if l.txBurst ≠ 0 then { l with txBurst := l.txBurst - 1 } else l
  let _ ← kWorkReschedule (.tx lnk) (if burst ≠ 0 then erpsTxBurstPeriod else erpsTxPeriod)

/-- `erps_iface_up_cb` for the interface of a device. -/
def ifaceUpCb (dev : Device) : M Unit := do
  let dev0 ← linkDev .port0
  let dev1 ← linkDev .port1
  let iface0 ← netIfLookupByDev dev0
  let iface1 ← netIfLookupByDev dev1
  if ¬(iface0 ∧ dev = dev0) ∧ ¬(iface1 ∧ dev = dev1) then
    return ()
  -- `&node->ports[iface == iface1]`
  let lnk : PortIdx := if iface1 ∧ dev = dev1 then .port1 else .port0
  let burst ← read fun s => (s.link lnk).txBurst
  -- whether TX has been stopped meanwhile is not asked
  let _ ← kWorkReschedule (.tx lnk) (if burst ≠ 0 then erpsTxBurstPeriod else erpsTxPeriod)

end Erps
