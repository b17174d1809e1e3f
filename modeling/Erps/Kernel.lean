import Erps.Calls.Prog
import Erps.Node

/-!
# Calls into the kernel and the drivers

Each call the FSM makes to code outside the repository, as a program: the answer
is free, and the effect on the system follows the answer. A call that fails
leaves ports and VLAN interfaces as they are. Pointers are answered as numbers,
with zero for `NULL`.
-/
namespace Erps

open Calls

def EBUSY : Int := 16
def ENODEV : Int := 19
def EINVAL : Int := 22
def ENXIO : Int := 6
def ENOMEM : Int := 12
def EIO : Int := 5
def ENODATA : Int := 61
def ENOBUFS : Int := 105

/-- `NET_DROP`, as a number. -/
def netDrop : Int := 2

inductive KernelCall where
  | netIfLookupByDev (dev : Device)
  | netEthPortSetEnabled (dev : Device) (enable : Bool)
  | netEthGetVlanIface (dev : Device) (vid : UInt16)
  | netEthVlanEnable (dev : Device) (vid : UInt16)
  | netEthMacFlush (dev : Device)
  | netIfGetLinkAddr (dev : Device)
  | kWorkReschedule (w : WorkItem)
  | kMutexInit
  | kMutexLock
  | netPktAllocWithBuffer (dev : Device) (size : Nat)
  | netLinkaddrCopy (dev : Device)
  | netLinkaddrSet (addr : EthAddr)
  | netPktGetData
  | netPktSetData
  | netPktWrite (size : Nat)
  | netIfTrySendData (dev : Device)
  deriving DecidableEq, Repr

/-- The answers that mean success: a pointer, a zero status, from `k_work_reschedule` any
status that is not negative, and any verdict but a drop. -/
def Success : KernelCall → Int → Prop
  | .netIfLookupByDev _, v => v ≠ 0
  | .netEthPortSetEnabled _ _, v => v = 0
  | .netEthGetVlanIface _ _, v => v ≠ 0
  | .netEthVlanEnable _ _, v => v = 0
  | .netEthMacFlush _, v => v = 0
  | .netIfGetLinkAddr _, v => v ≠ 0
  | .kWorkReschedule _, v => 0 ≤ v
  | .kMutexInit, v => v = 0
  | .kMutexLock, v => v = 0
  | .netPktAllocWithBuffer _ _, v => v ≠ 0
  | .netLinkaddrCopy _, v => v = 0
  | .netLinkaddrSet _, v => v = 0
  | .netPktGetData, v => v ≠ 0
  | .netPktSetData, v => v = 0
  | .netPktWrite _, v => v = 0
  | .netIfTrySendData _, v => v ≠ netDrop

/-- A program of the ERPS code. -/
abbrev M (α : Type) := Prog KernelCall Sys α

/-- `__ASSERT_NO_MSG` or `CODE_UNREACHABLE` where the condition does not hold. -/
def assertFails : M Int := do
  write fun s => { s with faulted := true }
  return 0

/-! ### Work items -/

def Node.work (n : Node) : WorkItem → DelayableWork
  | .tx i => (n.ports.get i).txDwork
  | .linkDown i => (n.ports.get i).linkDownDwork
  | .wtr => n.wtrDwork
  | .wtb => n.wtbDwork

def Node.modWork (n : Node) (f : DelayableWork → DelayableWork) : WorkItem → Node
  | .tx i => { n with ports := n.ports.modify (fun l => { l with txDwork := f l.txDwork }) i }
  | .linkDown i =>
    { n with ports := n.ports.modify (fun l => { l with linkDownDwork := f l.linkDownDwork }) i }
  | .wtr => { n with wtrDwork := f n.wtrDwork }
  | .wtb => { n with wtbDwork := f n.wtbDwork }

def Sys.modWork (s : Sys) (w : WorkItem) (f : DelayableWork → DelayableWork) : Sys :=
  s.modNode fun n => n.modWork f w

/-- `k_work_init_delayable`. -/
def kWorkInitDelayable (w : WorkItem) : M Unit := write fun s => s.modWork w fun _ => .init

-- `k_work_cancel_delayable_sync` also waits for a running handler; here handlers
-- of TX work are atomic, so the two cancels have the same effect.
def kWorkCancelDelayable (w : WorkItem) : M Unit :=
  write fun s => (s.modWork w DelayableWork.cancel).note (.cancel w)

/-- `k_work_reschedule`: what was scheduled is removed first, so nothing is scheduled
after a failure. -/
def kWorkReschedule (w : WorkItem) (delay : Nat) : M Int := do
  let ret ← call (.kWorkReschedule w)
  write fun s => s.modWork w fun d => { d with timeout := if ret < 0 then none else some delay }
  return ret

/-! ### Interfaces and ports -/

def netIfLookupByDev (dev : Device) : M Bool := do
  let iface ← call (.netIfLookupByDev dev)
  return iface != 0

def netEthPortSetEnabled (dev : Device) (enable : Bool) : M Int := do
  let ret ← call (.netEthPortSetEnabled dev enable)
  if ret ≠ 0 then
    return ret
  write fun s => s.modHw dev fun p => { p with enabled := enable }
  return 0

def netEthGetVlanIface (dev : Device) (vid : UInt16) : M Bool := do
  let iface ← call (.netEthGetVlanIface dev vid)
  return iface != 0

/-- `net_if_up` and `net_if_down` on a VLAN interface. -/
def netIfSetUp (dev : Device) (vid : UInt16) (up : Bool) : M Unit :=
  write fun s => s.modHw dev fun p =>
    { p with vlanUp := fun v => if v = vid then up else p.vlanUp v }

/-- `net_if_is_up`, which is false for an interface that was not found. -/
def netIfIsUp (dev : Device) (iface : Bool) : M Bool := read fun s => iface && (s.hw dev).ifUp

def netEthMacFlush (dev : Device) : M Int := do
  let ret ← call (.netEthMacFlush dev)
  if ret ≠ 0 then
    return ret
  write fun s => { s with fdbFlushes := s.fdbFlushes + 1 }
  return 0

/-- `net_if_get_link_addr`: whether there is an address of the length of a MAC
address, which is the one of the device. -/
def netIfGetLinkAddr (dev : Device) : M Bool := do
  let addr ← call (.netIfGetLinkAddr dev)
  return addr != 0

end Erps
