import Erps.Properties.Stopped
import Erps.Wiring

/-!
# The roles and the RPL

From the devicetree on, through configuration, start-up and everything a node does
after it, and in any order of these: the RPL is port 1 and is there exactly if the node
has one role, the two ports have the devices they had, and no assertion fails.
-/
namespace Erps

open Calls Runs

/-- A call into a node or an event on it; what is called with an interface is called on the
one of the link. -/
inductive LifeCall where
  | setAsRpl (lnk : PortIdx) (isOwner : Bool)
  | unsetRpl (lnk : PortIdx)
  | init (cameUp : Ports Bool)
  | recv (dev : Device) (pkt : NetPkt)
  | event (e : TxEvent)

/-- `CONFIG_NET_ERPS_PAD_RAPS_PDUS` and `CONFIG_NET_ERPS_LINK_FAIL_TIMEOUT`. -/
structure Kconfig where
  padRapsPdus : Bool
  linkFailTimeout : Nat

def LifeCall.prog (k : Kconfig) : LifeCall → M Unit
  | setAsRpl lnk isOwner => write fun s => s.modNode fun n => (n.netErpsSetAsRpl lnk isOwner).2
  | unsetRpl lnk => write fun s => s.modNode fun n => (n.netErpsUnsetRpl lnk).2
  | init cameUp => do
    let _ ← nodeInit k.linkFailTimeout cameUp
  | recv dev pkt => do
    let _ ← erpsRecv dev pkt
  | event e => e.prog k.padRapsPdus

/-- A call with the answers to the calls made in it. -/
abbrev LifeStep := LifeCall × Answers KernelCall

def LifeStep.step (k : Kconfig) (s : Sys) (x : LifeStep) : Sys := (x.1.prog k).final x.2 s

/-- The ports have the two devices, in one order or the other. -/
def Node.HasDevices (n : Node) (devs : Ports Device) : Prop :=
  n.ports.map Link.dev = devs ∨ n.ports.map Link.dev = ⟨devs.port1, devs.port0⟩

structure Sys.Sound (s : Sys) (devs : Ports Device) : Prop where
  wellFormed : s.node.WellFormed
  devices : s.node.HasDevices devs
  unfaulted : s.faulted = false

section
variable {n : Node} {s t : Sys} {devs : Ports Device}

theorem Node.HasDevices.setAsRpl (h : n.HasDevices devs) (lnk : PortIdx) (isOwner : Bool) :
    (n.netErpsSetAsRpl lnk isOwner).2.HasDevices devs := by
  unfold netErpsSetAsRpl
  split
  · exact h
  · split
    · exact h
    · cases lnk with
      -- the links are swapped, and what was one order is the other
      | port0 =>
        rcases h with rfl | swapped
        · exact .inr rfl
        · left
          obtain ⟨first, second⟩ := Ports.mk.inj swapped
          exact congrArg₂ Ports.mk second first
      | port1 => exact h

theorem Node.HasDevices.unsetRpl (h : n.HasDevices devs) (lnk : PortIdx) :
    (n.netErpsUnsetRpl lnk).2.HasDevices devs := by
  unfold netErpsUnsetRpl
  split
  · exact h
  · split
    · cases lnk <;> exact h
    · exact h

theorem Sys.Sound.formed (h : s.Sound devs) : s.wiring.Formed :=
  ⟨h.wellFormed.notPort0, h.wellFormed.role, h.wellFormed.oneRole, h.unfaulted⟩

/-- All of it is about the wiring. -/
theorem Sys.Sound.sameWiring (h : s.Sound devs) (same : t.wiring = s.wiring) : t.Sound devs := by
  obtain ⟨owner, nbr, rpl, idx, dev, faulted⟩ := Wiring.mk.inj same
  obtain ⟨rpl0, rpl1⟩ := Ports.mk.inj rpl
  obtain ⟨idx0, idx1⟩ := Ports.mk.inj idx
  have formed := h.wellFormed
  refine ⟨⟨?_, ?_, ?_, ?_, ?_⟩, ?_, faulted.trans h.unfaulted⟩
  · exact rpl0.trans formed.notPort0
  · rw [owner, nbr]
    exact rpl1.trans formed.role
  · rw [owner, nbr]
    exact formed.oneRole
  · exact idx0.trans formed.idx0
  · exact idx1.trans formed.idx1
  · rw [Node.HasDevices, dev]
    exact h.devices

theorem txEvent_wiring {w : Wiring} (formed : w.Formed) {pad : Bool} (e : TxEvent) :
    KeepsWiring w (e.prog pad) := by
  cases e with
  | event e => exact event_wiring formed e
  | txWork lnk buf =>
    refine keeps_read fun scheduled => keeps_ite (fun _ => ?_) fun _ => keeps_pure
    have fires : KeepsWiring w (write fun s =>
        (s.modWork (.tx lnk) fun _ => ⟨none, true⟩).note (.fire (.tx lnk))) :=
      frames_keepsWiring (frames_write fun s => wiring_modWork s (.tx lnk) _)
    refine fires.bind fun _ => (frames_keepsWiring txWork_wiring).bind fun _ => ?_
    exact frames_keepsWiring (frames_write fun s => wiring_modWork s (.tx lnk) _)
  | ifaceUp lnk =>
    refine keeps_read fun dev => Keeps.bind (frames_keepsWiring (frames_write fun s => rfl)) fun _ => ?_
    exact frames_keepsWiring ifaceUpCb_wiring

theorem lifeStep_sound {k : Kconfig} (h : s.Sound devs) (x : LifeStep) :
    (LifeStep.step k s x).Sound devs := by
  obtain ⟨c, ans⟩ := x
  have kept (m : M Unit) (keeps : KeepsWiring s.wiring m) : (m.final ans s).Sound devs :=
    h.sameWiring ((keeps s rfl).post ans (respects_any ans))
  cases c with
  | setAsRpl lnk isOwner =>
    exact ⟨h.wellFormed.setAsRpl lnk isOwner, h.devices.setAsRpl lnk isOwner, h.unfaulted⟩
  | unsetRpl lnk => exact ⟨h.wellFormed.unsetRpl lnk, h.devices.unsetRpl lnk, h.unfaulted⟩
  | init cameUp => exact kept _ ((nodeInit_wiring h.formed).bind fun _ => keeps_pure)
  | recv dev pkt => exact kept _ ((erpsRecv_wiring h.formed).bind fun _ => keeps_pure)
  | event e => exact kept _ (txEvent_wiring h.formed e)

end

/-- Whatever is called on a node from the devicetree on and whatever happens to it, in any
order and whatever the calls answer: its RPL and its roles stay well formed, its two ports
keep their devices, and no assertion fails. -/
theorem roles_sound {k : Kconfig} (d : DtNode) {s : Sys} (xs : List LifeStep)
    (fresh : s.node = d.node) (unfaulted : s.faulted = false) :
    EachState (LifeStep.step k) s xs fun _ t =>
      t.Sound ⟨d.linkDevice .port0, d.linkDevice .port1⟩ := by
  have start : s.Sound ⟨d.linkDevice .port0, d.linkDevice .port1⟩ := by
    refine ⟨?_, ?_, unfaulted⟩
    · rw [fresh]
      exact d.node_wellFormed
    · rw [fresh]
      exact .inl rfl
  have always : EachStep (LifeStep.step k) s xs fun _ _ _ => True :=
    eachStep_of_forall fun _ _ => trivial
  exact eachState_of_eachStep start always fun _ _ x _ _ now => lifeStep_sound now x

/-- A node becomes the neighbour through its other link, is started and hears that the ring
is blocked by its owner. -/
theorem roles_sound_swap :
    let d := sampleNode false false (sampleDevice 0 1) (sampleDevice 1 2)
    let calls : List LifeCall := [.setAsRpl .port0 false, .init ⟨true, true⟩,
      .event (.event (.raps .port0 .nrRb zeroPdu)), .unsetRpl .port1]
    EachState (LifeStep.step ⟨true, 10000⟩) { d.boot with node := d.node }
      (calls.map fun c => (c, allSucceed)) fun _ t => t.Sound ⟨d.linkDevice .port0, d.linkDevice .port1⟩ :=
  roles_sound _ _ rfl rfl

end Erps
