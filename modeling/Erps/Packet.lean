import Erps.Packed.Layout
import Erps.RAps

/-!
# Packets

A packet buffer with its cursor, and the structures that are read from it and written
to it: the Ethernet header with a VLAN tag and the R-APS PDU.
-/
namespace Erps

open Packed

/-- `struct net_pkt`: its octets and the cursor, which is inside or at the end. -/
structure NetPkt where
  octets : List UInt8
  pos : Nat
  inside : pos ≤ octets.length

namespace NetPkt

variable {α : Type}

/-- A new packet, with nothing written to it. -/
def empty : NetPkt := ⟨[], 0, Nat.zero_le _⟩

/-- What is left to read. -/
def ahead (pkt : NetPkt) : List UInt8 := pkt.octets.drop pkt.pos

def getLen (pkt : NetPkt) : Nat := pkt.octets.length

def remainingData (pkt : NetPkt) : Nat := pkt.octets.length - pkt.pos

theorem length_ahead (pkt : NetPkt) : pkt.ahead.length = pkt.remainingData := List.length_drop

def skipTo (pkt : NetPkt) (pos : Nat) (inside : pos ≤ pkt.octets.length) : NetPkt :=
  ⟨pkt.octets, pos, inside⟩

/-- `net_pkt_read`: with too little left, the cursor is moved to the end all the same. -/
def read (pkt : NetPkt) (f : Layout α) : Option α × NetPkt :=
  match f.read pkt.ahead with
  | some (a, rest) => (some a, pkt.skipTo (pkt.octets.length - rest.length) (Nat.sub_le _ _))
  | none => (none, pkt.skipTo pkt.octets.length (Nat.le_refl _))

/-- Octets written at the end of the packet, where the cursor stays. -/
def write (pkt : NetPkt) (octets : List UInt8) : NetPkt :=
  ⟨pkt.octets ++ octets, (pkt.octets ++ octets).length, Nat.le_refl _⟩

/-- What is left after a value has been read. -/
theorem ahead_read {pkt : NetPkt} {f : Layout α} {a : α} {rest : List UInt8}
    (split : pkt.ahead = f.bytes a ++ rest) :
    (pkt.read f).1 = some a ∧ (pkt.read f).2.ahead = rest := by
  have found : f.read pkt.ahead = some (a, rest) := (f.read_iff _ _ _).mpr split
  obtain ⟨front, whole⟩ : ∃ front, pkt.octets = front ++ rest := by
    refine ⟨pkt.octets.take pkt.pos ++ f.bytes a, ?_⟩
    rw [List.append_assoc, ← split]
    exact (List.take_append_drop pkt.pos pkt.octets).symm
  have shift : pkt.octets.length - rest.length = front.length := by
    rw [whole, List.length_append, Nat.add_sub_cancel]
  unfold read
  rw [found]
  refine ⟨rfl, ?_⟩
  change pkt.octets.drop (pkt.octets.length - rest.length) = rest
  rw [shift, whole, List.drop_left]

/-- Two members at once are one after the other. -/
theorem read_andThen {β : Type} (pkt : NetPkt) (f : Layout α) (g : Layout β) (a : α) (b : β) :
    (pkt.read (f.andThen g)).1 = some (a, b) ↔
      (pkt.read f).1 = some a ∧ ((pkt.read f).2.read g).1 = some b := by
  have value {γ : Type} (p : NetPkt) (h : Layout γ) : (p.read h).1 = (h.read p.ahead).map Prod.fst := by
    unfold read
    split <;> simp_all
  cases first : f.read pkt.ahead with
  | none => simp [value, first, Layout.andThen]
  | some p =>
    obtain ⟨a', rest⟩ := p
    have ahead : (pkt.read f).2.ahead = rest :=
      (ahead_read ((f.read_iff _ _ _).mp first)).2
    simp only [value, first, Layout.andThen, ahead]
    cases second : g.read rest <;> simp [second]

theorem read_none_iff (pkt : NetPkt) (f : Layout α) :
    (pkt.read f).1 = none ↔ pkt.remainingData < f.size := by
  rw [← length_ahead, ← f.read_eq_none_iff]
  unfold read
  split <;> simp_all

end NetPkt

/-! ### Headers -/

def netEthPtypeVlan : UInt16 := 0x8100
def netEthPtypeOam : UInt16 := 0x8902

/-- `NET_ETH_MINIMAL_FRAME_SIZE`, without the frame check sequence. -/
def netEthMinimalFrameSize : Nat := 60

/-- `struct net_eth_vlan`. -/
structure NetEthVlan where
  tpid : UInt16
  tci : UInt16
  deriving DecidableEq, Repr

/-- `struct net_eth_vlan_hdr`. -/
structure NetEthVlanHdr where
  dst : EthAddr
  src : EthAddr
  vlan : NetEthVlan
  type : UInt16
  deriving DecidableEq, Repr

/-- `net_eth_vlan_get_vid`. -/
def netEthVlanGetVid (tci : UInt16) : UInt16 := tci &&& 0x0fff

/-- The members of the header in their order. -/
def NetEthVlanHdr.members : NetEthVlanHdr ≃ EthAddr × EthAddr × UInt16 × UInt16 × UInt16 where
  toFun h := (h.dst, h.src, h.vlan.tpid, h.vlan.tci, h.type)
  invFun m := ⟨m.1, m.2.1, ⟨m.2.2.1, m.2.2.2.1⟩, m.2.2.2.2⟩
  left_inv _ := rfl
  right_inv _ := rfl

def vlanHdrLayout : Layout NetEthVlanHdr :=
  ((Layout.octets 6).andThen ((Layout.octets 6).andThen
    (Layout.be16.andThen (Layout.be16.andThen Layout.be16)))).via NetEthVlanHdr.members

/-- The members of the PDU in their order, without the grouping. -/
def RapsPdu.members : RapsPdu ≃
    UInt8 × UInt8 × UInt8 × UInt8 × UInt8 × UInt8 × EthAddr × Vector UInt8 24 × UInt8 where
  toFun p := (p.cfmHdr.melVer, p.cfmHdr.opcode, p.cfmHdr.flags, p.cfmHdr.tlvOff, p.rapsInfo.rsSc,
    p.rapsInfo.status, p.rapsInfo.nodeId, p.rapsInfo.rfu, p.endTlv)
  invFun m := ⟨⟨m.1, m.2.1, m.2.2.1, m.2.2.2.1⟩,
    ⟨m.2.2.2.2.1, m.2.2.2.2.2.1, m.2.2.2.2.2.2.1, m.2.2.2.2.2.2.2.1⟩, m.2.2.2.2.2.2.2.2⟩
  left_inv _ := rfl
  right_inv _ := rfl

def rapsPduLayout : Layout RapsPdu :=
  (Layout.octet.andThen (Layout.octet.andThen (Layout.octet.andThen (Layout.octet.andThen
    (Layout.octet.andThen (Layout.octet.andThen ((Layout.octets 6).andThen
      ((Layout.octets 24).andThen Layout.octet)))))))).via RapsPdu.members

end Erps
