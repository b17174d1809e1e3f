import Mathlib.Data.List.FinRange
import Mathlib.Logic.Function.Basic
import Erps.Calls.History
import Erps.Reception
import Erps.Startup

/-!
# All ring nodes of an image

The nodes of the section `erps_node` in their order, with the surroundings they share, what
starts them, and the functions other code calls with an interface. A node is a part of the
image, and a program of the node runs on that part.
-/
namespace Erps

open Calls

/-- The image; `faulted` says that an assertion has failed or a null pointer was followed. -/
structure Rings (n : Nat) where
  nodes : Fin n → Node
  logs : Fin n → List NodeOp
  hw : Device → PortHw
  fdbFlushes : Nat
  uptime : Nat
  faulted : Bool

/-- An interface pointer by the device of the interface, with `none` for `NULL`. -/
abbrev Iface := Option Device

/-- The index of a port in `ports`. -/
def PortIdx.index : PortIdx → UInt8
  | port0 => 0
  | port1 => 1

/-- `net_if_get_device`, which is `NULL` for `NULL`. -/
def netIfGetDevice (iface : Iface) : Option Device := iface

namespace Rings

variable {n : Nat}

/-- The system of one node. -/
def sys (r : Rings n) (i : Fin n) : Sys where
  node := r.nodes i
  hw := r.hw
  fdbFlushes := r.fdbFlushes
  uptime := r.uptime
  faulted := r.faulted
  log := r.logs i

/-- The image with a node and its surroundings changed. -/
def put (i : Fin n) (r : Rings n) (s : Sys) : Rings n where
  nodes := Function.update r.nodes i s.node
  logs := Function.update r.logs i s.log
  hw := s.hw
  fdbFlushes := s.fdbFlushes
  uptime := s.uptime
  faulted := s.faulted

/-- The device of a port. -/
def dev (r : Rings n) (i : Fin n) (lnk : PortIdx) : Device := ((r.nodes i).ports.get lnk).dev

theorem put_sys (r : Rings n) (i : Fin n) : r.put i (r.sys i) = r := by
  simp [put, sys]

/-- Only the node's own part can be told apart. -/
theorem put_nodes_of_ne {i j : Fin n} (other : j ≠ i) (r : Rings n) (s : Sys) :
    (r.put i s).nodes j = r.nodes j :=
  Function.update_of_ne other _ _

theorem put_nodes_self (i : Fin n) (r : Rings n) (s : Sys) : (r.put i s).nodes i = s.node :=
  Function.update_self i _ _

theorem sys_put (r : Rings n) (i : Fin n) (s : Sys) : (r.put i s).sys i = s := by
  simp [put, sys]

/-- The links stay where they are if those of the node do. -/
theorem put_dev {i : Fin n} {r : Rings n} {s : Sys} (kept : ∀ lnk, (s.link lnk).dev = r.dev i lnk) :
    (r.put i s).dev = r.dev := by
  refine funext fun j => funext fun lnk => ?_
  show (((r.put i s).nodes j).ports.get lnk).dev = _
  by_cases here : j = i
  · subst here
    rw [put_nodes_self]
    exact kept lnk
  · rw [put_nodes_of_ne here]
    rfl

/-- A program of the image. -/
abbrev Prog (n : Nat) (α : Type) : Type := Calls.Prog KernelCall (Rings n) α

def onRing {α : Type} (i : Fin n) (m : M α) : Prog n α := zoom (fun r => r.sys i) (put i) m

/-! ### Start-up -/

/-- The first pass of `erps_init` on a node. -/
def blockRing (i : Fin n) : Prog n Int := do
  let node ← read fun r => r.nodes i
  if node.ringId = erpsInvalidRing then
    return -EINVAL
  onRing i nodeBlockAll

/-- `erps_init`; `cameUp` are the interfaces of each node that go up before its callback is
added. -/
def erpsInit (linkFailTimeout : Nat) (cameUp : Fin n → Ports Bool) : Prog n Int := do
  -- all rings are blocked before any is started, as they may share a switch
  let ret ← untilError blockRing (List.finRange n)
  ifOk ret do
    -- the other rings may still be fine where one is not
    forEach (fun i => do
      let _ ← onRing i (nodeInit linkFailTimeout (cameUp i))
      return ()) (List.finRange n)
    return 0

/-! ### Calls with an interface -/

/-- `erps_link_lookup_by_iface`: the first node and link with the device. -/
def linkLookupByIface (r : Rings n) (iface : Iface) : Option (Fin n × PortIdx) :=
  match netIfGetDevice iface with
  | none => none
  | some dev => (List.finRange n).findSome? fun i =>
    ((r.nodes i).linkLookupByIface dev).map fun lnk => (i, lnk)

/-- `erps_link_get_node` of `NULL`, which reads the index of a link that is not there. -/
def nullLink : Prog n Int := do
  write fun r => { r with faulted := true }
  return 0

/-- `net_erps_fsm_post`, with the event that becomes the request. -/
def netErpsCtl (iface : Iface) (ev : ErpsEvent) : Prog n Int := do
  match ← read fun r => r.linkLookupByIface iface with
  | none => return -ENODEV
  | some (i, lnk) => onRing i (Erps.netErpsCtl lnk ev)

/-- A change of a node that has a status. -/
def configure (i : Fin n) (f : Node → Int × Node) : Prog n Int := do
  let res ← read fun r => f (r.nodes i)
  write fun r => { r with nodes := Function.update r.nodes i res.2 }
  return res.1

def netErpsSetAsRpl (iface : Iface) (isOwner : Bool) : Prog n Int := do
  match ← read fun r => r.linkLookupByIface iface with
  | none => return -ENODEV
  | some (i, lnk) => configure i fun node => node.netErpsSetAsRpl lnk isOwner

def netErpsUnsetRpl (iface : Iface) : Prog n Int := do
  let lnk ← read fun r => r.linkLookupByIface iface
  -- it is the interface that is checked, and not the link
  if iface = none then
    return -ENODEV
  match lnk with
  | none => nullLink
  | some (i, lnk) => configure i fun node => node.netErpsUnsetRpl lnk

def netErpsSetRingId (iface : Iface) (ringId : UInt8) : Prog n Int := do
  match ← read fun r => r.linkLookupByIface iface with
  | none => return -ENODEV
  | some (i, _) => configure i fun node => node.netErpsSetRingId ringId

/-- `struct erps_ring_info`. -/
structure RingInfo where
  ringId : UInt8
  reverting : Bool
  blocked : Ports Bool
  requesterIndex : PortIdx
  -- `none` for -1
  rplIndex : Option PortIdx
  ctrlVid : UInt16
  trafficVid : UInt16
  ifacePort : Ports Iface
  deriving DecidableEq, Repr

/-- `net_erps_ring_info_by_iface` on a structure with prior contents; its loop over the
nodes finds what `erps_link_lookup_by_iface` does. -/
def netErpsRingInfoByIface (iface : Iface) (info : RingInfo) : Prog n (Int × RingInfo) := do
  match ← read fun r => r.linkLookupByIface iface with
  | none => return (-ENODEV, info)
  | some (i, lnk) => do
    let node ← read fun r => r.nodes i
    let info := { info with
      ringId := node.ringId
      reverting := node.wtrDwork.isPending
      ctrlVid := node.ctrlVid
      trafficVid := node.trafficVid
      requesterIndex := lnk
      blocked := node.ports.map Link.blocked }
    let dev0 := node.ports.port0.dev
    let found0 ← onRing i (netIfLookupByDev dev0)
    let info := { info with
      ifacePort := { info.ifacePort with port0 := if found0 then some dev0 else none } }
    if !found0 then
      return (-ENODEV, info)
    let dev1 := node.ports.port1.dev
    let found1 ← onRing i (netIfLookupByDev dev1)
    let info := { info with
      ifacePort := { info.ifacePort with port1 := if found1 then some dev1 else none } }
    if !found1 then
      return (-ENODEV, info)
    -- always 1 or -1 in the source, as `getRpl` finds no RPL but at index 1
    return (0, { info with rplIndex := node.getRpl })

/-- `net_erps_lookup_iface`: on the first node with the ring identifier. -/
def netErpsLookupIface (ringId port : UInt8) : Prog n Iface := do
  if 2 ≤ port then
    return none
  match ← read fun r => (List.finRange n).find? fun i => (r.nodes i).ringId == ringId with
  | none => return none
  | some i => do
    let dev ← read fun r => r.dev i (if port = 0 then .port0 else .port1)
    let found ← onRing i (netIfLookupByDev dev)
    return if found then some dev else none

/-- `net_erps_ring_get_other_link`, with the prior contents of its `info`. -/
def netErpsRingGetOtherLink (info : RingInfo) (iface : Iface) : Prog n Iface := do
  let (ret, info) ← netErpsRingInfoByIface iface info
  if ret ≠ 0 then
    return none
  return if info.ifacePort.port0 = iface then info.ifacePort.port1 else info.ifacePort.port0

end Rings

end Erps
