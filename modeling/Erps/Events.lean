import Erps.Config
import Erps.Fsm.Post
import Erps.Runs

/-!
# Runs of a node

What can happen to an initialised node between two interface-up notifications,
and the system after a list of such events. A timer's expiry is two events, the
timer firing and its handler running, which may be taken in one or apart; a
handler may also run without its timer having been scheduled, so that the runs
include more than what the kernel does.
-/
namespace Erps

open Calls

/-- The requests a received PDU can be. -/
inductive RapsRequest where
  | fs | sf | ms | nrRb | nr
  deriving DecidableEq, Repr

def RapsRequest.request : RapsRequest → Request
  | fs => .rapsFs
  | sf => .rapsSf
  | ms => .rapsMs
  | nrRb => .rapsNrRb
  | nr => .rapsNr

/-- The timers whose handlers post to the state machine. -/
inductive Expiry where
  | wtr | wtb
  | linkDown (lnk : PortIdx)
  deriving DecidableEq, Repr

namespace Expiry

def item : Expiry → WorkItem
  | wtr => .wtr
  | wtb => .wtb
  | linkDown lnk => .linkDown lnk

def handler : Expiry → M Unit
  | wtr => wtrWork
  | wtb => wtbWork
  | linkDown lnk => linkDownWork lnk

/-- The timer fires: it is no longer scheduled and its handler has started. -/
def fire (t : Expiry) : M Unit :=
  write fun s => (s.modWork t.item fun _ => ⟨none, true⟩).note (.fire t.item)

def finish (t : Expiry) : M Unit :=
  write fun s => s.modWork t.item fun w => { w with running := false }

/-- The handler runs to its end. -/
def handle (t : Expiry) : M Unit := do
  t.handler
  t.finish

end Expiry

inductive Event where
  | ctl (lnk : PortIdx) (ev : ErpsEvent)
  | raps (lnk : PortIdx) (req : RapsRequest) (pdu : RapsPdu)
  | expiry (t : Expiry)
  | fire (t : Expiry)
  | handle (t : Expiry)
  | elapse (ms : Nat)
  | iface (lnk : PortIdx) (up : Bool)

namespace Event

def prog : Event → M Unit
  | ctl lnk ev => do
    let _ ← netErpsCtl lnk ev
  | raps lnk req pdu => do
    let _ ← fsmPost lnk req.request (some pdu)
  | expiry t => do
    t.fire
    t.handle
  | fire t => t.fire
  | handle t => t.handle
  | elapse ms => write fun s => { s with uptime := s.uptime + ms }
  | iface lnk up => write fun s => s.modHw (s.link lnk).dev fun p => { p with ifUp := up }

/-- A handler runs as soon as its timer fires. -/
def prompt : Event → Bool
  | fire _ | handle _ => false
  | _ => true

/-- The request the event posts, with the link. -/
def posts : Event → Option (PortIdx × Request)
  | ctl lnk ev => some (lnk, ev.request)
  | raps lnk req _ => some (lnk, req.request)
  | expiry t | handle t =>
    match t with
    | .wtr => some (.port0, .wtrExpires)
    | .wtb => some (.port0, .wtbExpires)
    | .linkDown lnk => some (lnk, .sf)
  | fire _ | elapse _ | iface _ _ => none

end Event

/-- An event with the answers to the calls made while it is processed. -/
abbrev Step := Event × Answers KernelCall

def Sys.step (s : Sys) (x : Step) : Sys := x.1.prog.final x.2 s

abbrev Sys.run (s : Sys) (xs : List Step) : Sys := Runs.run Sys.step s xs

/-- Every call of the step succeeds. -/
def Step.Succeeds (x : Step) : Prop := Respects Success x.2

/-- What `erps_node_init` makes of a configured node before it initialises the state
machine; the link-down timers are those of the two links. -/
def Node.prepared (n : Node) (linkDown : Ports DelayableWork) : Node := { n with
  wtrDwork := .init
  wtbDwork := .init
  localTopreq := .invalid
  ports := {
    port0 := { n.ports.port0 with txDwork := .init, linkDownDwork := linkDown.port0 }
    port1 := { n.ports.port1 with txDwork := .init, linkDownDwork := linkDown.port1 } } }

/-- The system as `erps_fsm_init` finds it. -/
def Sys.Booted (s : Sys) : Prop :=
  ∃ n linkDown, Configured n ∧ s.node = n.prepared linkDown ∧ s.faulted = false ∧ s.log = []

/-- The system as `erps_fsm_init` leaves it. -/
def Sys.initialise (s : Sys) (ans : Answers KernelCall) : Sys := fsmInit.final ans s

/-- `erps_fsm_init` has run on a configured node, with the calls made answered by any of
the `good` answers. -/
def InitialisedWith (good : KernelCall → Int → Prop) (s : Sys) : Prop :=
  ∃ boot ans, Sys.Booted boot ∧ Respects good ans ∧ s = boot.initialise ans

theorem InitialisedWith.any {good : KernelCall → Int → Prop} {s : Sys}
    (init : InitialisedWith good s) : InitialisedWith anyAnswer s := by
  obtain ⟨boot, ans, booted, -, same⟩ := init
  exact ⟨boot, ans, booted, respects_any ans, same⟩

/-- After an `erps_fsm_init` in which every call succeeded. -/
abbrev Initialised : Sys → Prop := InitialisedWith Success

/-! ### Systems to run -/

/-- A kernel that answers every call with success. -/
def allSucceed : Answers KernelCall
  | _, .netIfLookupByDev _ | _, .netEthGetVlanIface _ _ | _, .netIfGetLinkAddr _
  | _, .netPktAllocWithBuffer _ _ | _, .netPktGetData => 1
  | _, _ => 0

theorem allSucceed_respects : Respects Success allSucceed := by
  intro n c
  cases c <;> simp [Success, allSucceed, netDrop]

/-- A driver that refuses to open ports. -/
def refusesOpening : Answers KernelCall
  | _, .netEthPortSetEnabled _ true => -EINVAL
  | n, c => allSucceed n c

/-- A mutex that is not obtained in time. -/
def missesMutex : Answers KernelCall
  | _, .kMutexLock => -EBUSY
  | n, c => allSucceed n c

namespace DtNode

/-- A devicetree node at boot: both ports forward and both interfaces are up. -/
def boot (d : DtNode) : Sys where
  node := d.node.prepared ⟨.init, .init⟩
  hw := fun _ => ⟨true, fun _ => true, true⟩
  fdbFlushes := 0
  uptime := 0
  faulted := false
  log := []

theorem boot_booted (d : DtNode) : d.boot.Booted := ⟨d.node, ⟨.init, .init⟩, .dt d, rfl, rfl, rfl⟩

def started (d : DtNode) : Sys := d.boot.initialise allSucceed

/-- Any devicetree node can be initialised. -/
theorem started_initialised (d : DtNode) : Initialised d.started :=
  ⟨d.boot, allSucceed, d.boot_booted, allSucceed_respects, rfl⟩

end DtNode

/-- Events handled one after the other, with every call succeeding. -/
def succeeding (es : List Event) : List Step := es.map fun e => (e, allSucceed)

theorem succeeding_succeeds (es : List Event) : ∀ x ∈ succeeding es, x.Succeeds := by
  intro x member
  obtain ⟨e, _, rfl⟩ := List.mem_map.mp member
  exact allSucceed_respects

/-- The node of the RPL sample, with the defaults of the binding; of the other nodes of
its ring, the links are both ordinary ones. -/
def sampleNode (rplOwner nonRevertive : Bool) (dev0 dev1 : Device) : DtNode where
  nonRevertive := nonRevertive
  rplOwner := rplOwner
  ringProtectionLink := if rplOwner then some dev1 else none
  ringLinks := if rplOwner then [dev0] else [dev0, dev1]
  rapsVersion := 1
  ringId := some 1
  rapsMel := 7
  wtrTimerDuration := 5
  guardTimerDuration := 500
  controlVlanIdentifier := 4093
  trafficVlanIdentifier := 4092
  ownerHasLink := by rintro rfl; rfl
  twoLinks := by cases rplOwner <;> rfl
  ringIdInRange := by rintro i h; cases h; decide
  guardInRange := by decide
  guardInTens := by decide

/-- Port `k` of the switch with the last octet of its address. -/
def sampleDevice (k : Nat) (octet : UInt8) : Device := ⟨k, #v[2, 0, 0, 0, 0, octet]⟩

/-- A node of the ring that is neither the owner nor the neighbour of its RPL. -/
def samplePlain : Sys := (sampleNode false false (sampleDevice 0 1) (sampleDevice 1 2)).started

theorem samplePlain_initialised : Initialised samplePlain := DtNode.started_initialised _

def zeroPdu : RapsPdu := ⟨⟨0, 0, 0, 0⟩, ⟨0, 0, zeroAddr, Vector.replicate 24 0⟩, 0⟩

end Erps
