import Erps.RAps

/-!
# Ring nodes and links

The data of `erps-internal.h`, `erps-fsm.h` and the structures of `erps.c`: the
requests with their priority, the states of the node, a link, a node, and around
the node the parts of the system it acts on (the ports, their VLAN interfaces,
the clock).
-/
namespace Erps

/-- `enum erps_request`; an earlier constructor has the higher priority. -/
inductive Request where
  | clear | fs | rapsFs | sf | clearSf | rapsSf | rapsMs | ms
  | wtrExpires | wtrRunning | wtbExpires | wtbRunning
  | rapsNrRb | rapsNr | invalid
  deriving DecidableEq, Repr

/-- The number C gives the request; the lower, the higher its priority. -/
def Request.toNat : Request → Nat
  | clear => 0 | fs => 1 | rapsFs => 2 | sf => 3 | clearSf => 4 | rapsSf => 5
  | rapsMs => 6 | ms => 7 | wtrExpires => 8 | wtrRunning => 9 | wtbExpires => 10
  | wtbRunning => 11 | rapsNrRb => 12 | rapsNr => 13 | invalid => 14

/-- `enum erps_node_state`, states A to E of the specification and the placeholder
for a node that is not initialised. -/
inductive NodeState where
  | idle | protection | manualSwitch | forcedSwitch | pending | uninit
  deriving DecidableEq, Repr

/-- A link of a node: `&node->ports[0]` or `&node->ports[1]`. -/
inductive PortIdx where
  | port0 | port1
  deriving DecidableEq, Repr

def PortIdx.other : PortIdx → PortIdx
  | port0 => port1
  | port1 => port0

@[simp] theorem PortIdx.other_other (i : PortIdx) : i.other.other = i := by
  cases i <;> rfl

/-- An array of two, one entry for each port. -/
structure Ports (α : Type) where
  port0 : α
  port1 : α
  deriving DecidableEq, Repr

namespace Ports

variable {α β : Type}

def get (p : Ports α) : PortIdx → α
  | .port0 => p.port0
  | .port1 => p.port1

def modify (p : Ports α) (f : α → α) : PortIdx → Ports α
  | .port0 => { p with port0 := f p.port0 }
  | .port1 => { p with port1 := f p.port1 }

def map (f : α → β) (p : Ports α) : Ports β := ⟨f p.port0, f p.port1⟩

@[simp] theorem get_modify (p : Ports α) (f : α → α) (i : PortIdx) :
    (p.modify f i).get i = f (p.get i) := by
  cases i <;> rfl

end Ports

/-- The device of a port with the link address of its interface. -/
structure Device where
  id : Nat
  addr : EthAddr
  deriving DecidableEq, Repr

/-- `struct k_work_delayable`: the delay in microseconds it was scheduled with, if
it is scheduled, and whether its handler has started and not returned. -/
structure DelayableWork where
  timeout : Option Nat
  running : Bool
  deriving DecidableEq, Repr

namespace DelayableWork

def init : DelayableWork := ⟨none, false⟩

def scheduled (w : DelayableWork) : Bool := w.timeout.isSome

/-- `k_work_delayable_is_pending`: the work is not idle, so a handler that is
running counts. -/
def isPending (w : DelayableWork) : Bool := w.scheduled || w.running

/-- `k_work_cancel_delayable`: a handler that has started is not waited for. -/
def cancel (w : DelayableWork) : DelayableWork := { w with timeout := none }

end DelayableWork

/-- `struct erps_link`. -/
structure Link where
  failed : Bool
  blocked : Bool
  -- blocked port reference, the second half of the (node ID, BPR) pair
  bpr : UInt8
  -- PDUs remaining in the burst
  txBurst : UInt8
  rpl : Bool
  idx : UInt8
  -- node ID of the last PDU received, the first half of the pair
  lastNodeId : EthAddr
  linkDownDwork : DelayableWork
  txDwork : DelayableWork
  dev : Device
  deriving DecidableEq, Repr

/-- `struct raps_pdu_mut`. -/
structure RapsPduMut where
  rsSc : UInt8
  status : UInt8
  deriving DecidableEq, Repr

/-- `struct erps_node`. The guard timer's expiry is a time in milliseconds. -/
structure Node where
  revertive : Bool
  localTopreq : Request
  rplOwner : Bool
  rplNbr : Bool
  rapsVer : UInt8
  ringId : UInt8
  -- maintenance entity group level
  rapsMel : UInt8
  -- in minutes
  wtrDuration : UInt8
  state : NodeState
  -- in milliseconds
  guardTimerDuration : UInt16
  ctrlVid : UInt16
  trafficVid : UInt16
  -- whether the callback for interfaces that come up has been added
  mgmtCb : Bool
  -- what sent PDUs carry
  pduMut : RapsPduMut
  guardTimerExpiry : Nat
  ports : Ports Link
  wtrDwork : DelayableWork
  wtbDwork : DelayableWork
  deriving DecidableEq, Repr

/-- What the driver and the network stack hold for one device: whether the port
forwards, which of its VLAN interfaces are up, whether its interface is up. -/
structure PortHw where
  enabled : Bool
  vlanUp : UInt16 → Bool
  ifUp : Bool

/-- A work item of the node. -/
inductive WorkItem where
  | tx (i : PortIdx)
  | linkDown (i : PortIdx)
  | wtr
  | wtb
  deriving DecidableEq, Repr

/-- What has happened to the transmission and the timers of a node: the calls that schedule
and stop TX and cancel timers, the timers that have fired, the PDUs that have been sent. -/
inductive NodeOp where
  | schedTx
  | stopTx
  | sent (i : PortIdx) (octets : List UInt8)
  | fire (w : WorkItem)
  | cancel (w : WorkItem)
  deriving DecidableEq, Repr

/-- A node and its surroundings: the ports, the number of flushes of the forwarding
database, the milliseconds since start, and whether an assertion has failed. No program
reads the record of operations, which has the latest one first. -/
structure Sys where
  node : Node
  hw : Device → PortHw
  fdbFlushes : Nat
  uptime : Nat
  faulted : Bool
  log : List NodeOp

namespace Sys

def link (s : Sys) (i : PortIdx) : Link := s.node.ports.get i

def modNode (s : Sys) (f : Node → Node) : Sys := { s with node := f s.node }

def modLink (s : Sys) (i : PortIdx) (f : Link → Link) : Sys :=
  s.modNode fun n => { n with ports := n.ports.modify f i }

def modHw (s : Sys) (dev : Device) (f : PortHw → PortHw) : Sys :=
  { s with hw := fun d => if d = dev then f (s.hw d) else s.hw d }

@[simp] theorem modLink_node (s : Sys) (i : PortIdx) (f : Link → Link) :
    (s.modLink i f).node = { s.node with ports := s.node.ports.modify f i } := rfl

@[simp] theorem modLink_hw (s : Sys) (i : PortIdx) (f : Link → Link) :
    (s.modLink i f).hw = s.hw := rfl

@[simp] theorem modHw_node (s : Sys) (dev : Device) (f : PortHw → PortHw) :
    (s.modHw dev f).node = s.node := rfl

def note (s : Sys) (op : NodeOp) : Sys := { s with log := op :: s.log }

@[simp] theorem note_node (s : Sys) (op : NodeOp) : (s.note op).node = s.node := rfl

@[simp] theorem note_hw (s : Sys) (op : NodeOp) : (s.note op).hw = s.hw := rfl

end Sys

end Erps
