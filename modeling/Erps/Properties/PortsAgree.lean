import Erps.Properties.PortSync
import Erps.Properties.WireRefines

/-!
# Flags and ports along a run

With every call succeeding, the flag of a link, its port and its traffic VLAN interface agree
whenever no post is under way: the initialisation brings them together, whatever it finds,
and nothing that the node does later separates them.
-/
namespace Erps

open Calls Runs

/-- Each link has a port of its own, and its flag, the port and the traffic VLAN interface
agree. -/
structure Sys.Agrees (s : Sys) : Prop where
  apart : s.node.ports.port0.dev ≠ s.node.ports.port1.dev
  synced : ∀ lnk, (s.port lnk).Synced

/-- The devices of the links and what the links see of their ports. -/
def Sys.ringPorts (s : Sys) : Ports Device × (PortIdx → Port) := (s.node.ports.map Link.dev, s.port)

theorem Sys.Agrees.same {s t : Sys} (h : s.Agrees) (same : t.ringPorts = s.ringPorts) : t.Agrees := by
  obtain ⟨devs, ports⟩ := Prod.mk.inj same
  obtain ⟨dev0, dev1⟩ := Ports.mk.inj devs
  refine ⟨?_, fun lnk => ?_⟩
  · rw [dev0, dev1]
    exact h.apart
  · have port : t.port lnk = s.port lnk := congrFun ports lnk
    rw [port]
    exact h.synced lnk

/-- A port that is in step with its flag forwards nothing exactly if the flag is set. -/
theorem Port.Synced.disabled_iff {p : Port} (h : p.Synced) : p.enabled = false ↔ p.blocked = true := by
  rw [h.1, Bool.not_eq_false']

section
variable {s : Sys} {lnk : PortIdx}

/-! ### Blocking and unblocking -/

/-- The other link has another device. -/
theorem Sys.other_dev (apart : s.node.ports.port0.dev ≠ s.node.ports.port1.dev) (lnk : PortIdx) :
    (s.link lnk.other).dev ≠ (s.link lnk).dev := by
  cases lnk
  · exact apart.symm
  · exact apart

/-- The operation leaves one link synced, and the other one and the devices alone. -/
abbrev Settles (m : M Int) (lnk : PortIdx) (s : Sys) : Prop :=
  wp Success anyState m (fun ret t => ret = 0 ∧ (t.port lnk).Synced ∧
    t.port lnk.other = s.port lnk.other ∧ t.node.ports.map Link.dev = s.node.ports.map Link.dev) s

theorem linkBlock_settles (apart : s.node.ports.port0.dev ≠ s.node.ports.port1.dev)
    (flag : (s.link lnk).blocked = true → (s.port lnk).Synced) : Settles (linkBlock lnk) lnk s := by
  have other := s.other_dev apart lnk
  refine wp_bind (wp_read (wp_ite (fun blocked => wp_pure ⟨rfl, flag blocked, rfl, rfl⟩) fun _ => ?_))
  refine wp_bind (wp_read (wp_bind (wp_lookup (wp_ite (by simp) fun _ => ?_))))
  refine wp_bind (wp_setEnabled (wp_ite (by simp) fun _ => wp_bind (wp_write trivial ?_)))
  refine wp_bind (wp_write trivial (wp_bind (wp_write trivial (wp_bind (wp_read ?_)))))
  refine wp_bind (wp_vlanIface (wp_ite (by simp) fun _ => wp_bind (wp_write trivial (wp_pure ?_))))
  refine ⟨rfl, ?_, ?_, ?_⟩
  · cases lnk <;> simp [Sys.port, Port.Synced, Port.Follows, Sys.link, Sys.modHw, Ports.get,
      Ports.modify, PortIdx.other, Link.deleteNodeIdBpr]
  · cases lnk <;> simp_all [Sys.port, Sys.link, Sys.modHw, Ports.get, Ports.modify, PortIdx.other,
      Link.deleteNodeIdBpr]
  · cases lnk <;> rfl

theorem linkUnblock_settles (apart : s.node.ports.port0.dev ≠ s.node.ports.port1.dev)
    (flag : (s.link lnk).blocked = false → (s.port lnk).Synced) : Settles (linkUnblock lnk) lnk s := by
  have other := s.other_dev apart lnk
  refine wp_bind (wp_write trivial (wp_bind (wp_read (wp_ite (fun opened => wp_pure ?_) fun _ => ?_))))
  · have flag' : (s.link lnk).blocked = false := by cases lnk <;> simpa [Sys.link] using opened
    have synced := flag flag'
    refine ⟨rfl, ?_, ?_, ?_⟩ <;> cases lnk <;> first | exact synced | rfl
  refine wp_bind (wp_read (wp_bind (wp_lookup (wp_ite (by simp) fun _ => ?_))))
  refine wp_bind (wp_setEnabled (wp_ite (by simp) fun _ => wp_bind (wp_write trivial ?_)))
  refine wp_bind (wp_read (wp_bind (wp_vlanIface (wp_ite (by simp) fun _ => ?_))))
  refine wp_bind (wp_write trivial (wp_pure ⟨rfl, ?_, ?_, ?_⟩))
  · cases lnk <;> simp [Sys.port, Port.Synced, Port.Follows, Sys.link, Sys.modHw, Ports.get, Ports.modify]
  · cases lnk <;> simp_all [Sys.port, Sys.link, Sys.modHw, Ports.get, Ports.modify, PortIdx.other]
  · cases lnk <;> rfl

/-- The flag is set first, so the port is opened whatever it was. -/
theorem linkUnblockForce_settles (apart : s.node.ports.port0.dev ≠ s.node.ports.port1.dev) :
    Settles (linkUnblockForce lnk) lnk s := by
  refine wp_bind (wp_write trivial ?_)
  have apart' : (s.modLink lnk fun l => { l with blocked := true }).node.ports.port0.dev ≠
      (s.modLink lnk fun l => { l with blocked := true }).node.ports.port1.dev := by
    cases lnk <;> exact apart
  refine wp_mono (linkUnblock_settles apart' fun opened => ?_) ?_
  · cases lnk <;> cases opened
  · rintro ret t ⟨ok, synced, other, devs⟩
    refine ⟨ok, synced, other.trans ?_, devs.trans ?_⟩ <;> cases lnk <;> rfl

theorem Settles.agrees {m : M Int} (h : Settles m lnk s)
    (apart : s.node.ports.port0.dev ≠ s.node.ports.port1.dev) (other : (s.port lnk.other).Synced) :
    wp Success anyState m (fun ret t => ret = 0 ∧ t.Agrees) s := by
  refine wp_mono h ?_
  rintro ret t ⟨ok, synced, kept, devs⟩
  obtain ⟨dev0, dev1⟩ := Ports.mk.inj devs
  refine ⟨ok, ?_, fun l => ?_⟩
  · have dev0' : t.node.ports.port0.dev = s.node.ports.port0.dev := dev0
    have dev1' : t.node.ports.port1.dev = s.node.ports.port1.dev := dev1
    rw [dev0', dev1']
    exact apart
  · have other' : (t.port lnk.other).Synced := kept ▸ other
    cases lnk <;> cases l <;> assumption

/-! ### All other operations -/

/-- Of a link only the flag and the device are seen. -/
theorem ringPorts_modLink (s : Sys) (lnk : PortIdx) {f : Link → Link}
    (kept : ∀ l, (f l).dev = l.dev ∧ (f l).blocked = l.blocked) :
    (s.modLink lnk f).ringPorts = s.ringPorts := by
  refine Prod.ext ?_ (funext fun l => ?_)
  · cases lnk <;> simp [Sys.ringPorts, Ports.modify, Ports.map, (kept _).1]
  · cases lnk <;> cases l <;>
      simp [Sys.ringPorts, Sys.port, Sys.link, Ports.get, Ports.modify, (kept _).1, (kept _).2]

theorem offTx_ringPorts : OffTx Sys.ringPorts where
  flush _ := rfl
  work s lnk f := ringPorts_modLink s lnk fun _ => ⟨rfl, rfl⟩
  pdu s pdu burst := by
    refine Prod.ext rfl (funext fun l => ?_)
    cases l <;> rfl
  note _ _ _ := rfl

theorem ringPorts_modWork (s : Sys) (w : WorkItem) (f : DelayableWork → DelayableWork) :
    (s.modWork w f).ringPorts = s.ringPorts := by
  cases w with
  | tx lnk => exact offTx_ringPorts.work s lnk f
  | linkDown lnk => exact ringPorts_modLink s lnk fun _ => ⟨rfl, rfl⟩
  | wtr | wtb => rfl

theorem offPriority_ringPorts : OffPriority Sys.ringPorts where
  topreq _ _ := rfl
  failed s lnk := ringPorts_modLink s lnk fun _ => ⟨rfl, rfl⟩
  cancel s lnk := ringPorts_modWork s (.linkDown lnk) _

variable {guard : Prop} {α : Type} {m : M α}

theorem agrees_frames (h : Frames Success Sys.ringPorts m) (now : s.Agrees) :
    wp Success anyState m (fun _ t => t.Agrees) s :=
  wp_mono (h.ends s) fun _ _ same => now.same same

theorem fsmOp_agrees (op : FsmOp guard α m) (s : Sys) (now : s.Agrees) :
    wp Success anyState m (fun _ t => t.Agrees) s := by
  have settles {m : M Int} {lnk : PortIdx} (h : Settles m lnk s) :
      wp Success anyState m (fun _ t => t.Agrees) s :=
    wp_mono (h.agrees now.apart (now.synced _)) fun _ _ agrees => agrees.2
  cases op with
  | block lnk => exact settles (linkBlock_settles now.apart fun _ => now.synced lnk)
  | unblock lnk => exact settles (linkUnblock_settles now.apart fun _ => now.synced lnk)
  | unblockForce lnk => exact settles (linkUnblockForce_settles now.apart)
  | markFailed lnk req => exact agrees_frames offPriority_ringPorts.marks now
  | flush lnk => exact agrees_frames offTx_ringPorts.flushFdb now
  | schedTx reqState subcode status => exact agrees_frames offTx_ringPorts.nodeSchedTx now
  | stopTx => exact agrees_frames offTx_ringPorts.nodeStopTx now
  | startGuard allowed => exact agrees_frames (frames_write fun _ => rfl) now
  | startTimer t =>
    exact agrees_frames (nodeStartTimer_frames offPriority_ringPorts.topreq
      fun s f => ringPorts_modWork s t.item f) now
  | stopTimer t => exact agrees_frames (frames_write fun s => ringPorts_modWork s t.item _) now
  | resolve req => exact agrees_frames offPriority_ringPorts.resolve now
  | goto next => exact agrees_frames (frames_write fun _ => rfl) now
  | fault => exact agrees_frames (Frames.bind (frames_write fun _ => rfl) fun _ => frames_pure) now

theorem built_agrees (h : FsmBuilt guard m) (now : s.Agrees) :
    wp Success anyState m (fun _ t => t.Agrees) s :=
  h.ends (fun _ _ op => fsmOp_agrees op) s now

/-! ### What a node does -/

theorem event_agrees (e : Event) (now : s.Agrees) : wp Success anyState e.prog (fun _ t => t.Agrees) s := by
  have fires (t : Expiry) (s : Sys) (now : s.Agrees) : wp Success anyState t.fire (fun _ t => t.Agrees) s :=
    agrees_frames (frames_write fun s => ringPorts_modWork s t.item _) now
  have handles (t : Expiry) (s : Sys) (now : s.Agrees) :
      wp Success anyState t.handle (fun _ t => t.Agrees) s := by
    refine wp_bind (wp_mono (built_agrees handler_built now) fun _ u now' => ?_)
    exact agrees_frames (frames_write fun s => ringPorts_modWork s t.item _) now'
  cases e with
  | ctl lnk ev => exact wp_bind (wp_mono (built_agrees fsmPost_built now) fun _ _ now' => wp_pure now')
  | raps lnk req pdu =>
    exact wp_bind (wp_mono (built_agrees fsmPost_built now) fun _ _ now' => wp_pure now')
  | expiry t => exact wp_bind (wp_mono (fires t s now) fun _ u now' => handles t u now')
  | fire t => exact fires t s now
  | handle t => exact handles t s now
  | elapse ms => exact agrees_frames (frames_write fun _ => rfl) now
  | iface lnk up =>
    refine agrees_frames (frames_write fun s => Prod.ext rfl (funext fun l => ?_)) now
    have hw (dev : Device) : ((s.modHw (s.link lnk).dev fun p => { p with ifUp := up }).hw dev).enabled =
        (s.hw dev).enabled ∧ ((s.modHw (s.link lnk).dev fun p => { p with ifUp := up }).hw dev).vlanUp =
          (s.hw dev).vlanUp := by
      unfold Sys.modHw
      by_cases here : dev = (s.link lnk).dev <;> simp [here]
    obtain ⟨enabled, vlanUp⟩ := hw (s.link l).dev
    exact congrArg₂ (Port.mk _) enabled (congrFun vlanUp _)

theorem erpsRecv_agrees {dev : Device} {pkt : NetPkt} (now : s.Agrees) :
    wp Success anyState (erpsRecv dev pkt) (fun _ t => t.Agrees) s := by
  rw [erpsRecv_eq]
  refine wp_bind (wp_read ?_)
  cases s.node.linkLookupByIface dev with
  | none => exact wp_pure now
  | some lnk =>
    have filters : Frames Success Sys.ringPorts (erpsFilter lnk pkt) :=
      erpsFilter_still (fun s lnk _ _ => ringPorts_modLink s lnk fun _ => ⟨rfl, rfl⟩) fun _ => rfl
    refine wp_bind (wp_mono (agrees_frames filters now) fun got t now' => ?_)
    have posts : wp Success anyState (got.1.post lnk) (fun _ t => t.Agrees) t := by
      cases got.1 with
      | verdict v => exact wp_pure now'
      | request req pdu =>
        exact wp_bind (wp_mono (built_agrees fsmPost_built now') fun _ _ now'' => wp_pure now'')
    exact wp_bind (wp_mono posts fun _ _ now'' => wp_pure now'')

/-- The TX work of a link sees to its own scheduling only. -/
theorem runTxWork_agrees {pad : Bool} {buf : RapsPdu} (now : s.Agrees) :
    wp Success anyState (runTxWork pad buf lnk) (fun _ t => t.Agrees) s := by
  refine wp_bind (wp_read (wp_ite (fun _ => wp_bind (wp_write trivial ?_)) fun _ => wp_pure now))
  have fired : (s.fired lnk).Agrees := now.same (ringPorts_modWork s (.tx lnk) _)
  refine wp_bind (wp_bind (wp_mono (linkTxSinglePdu_notes (s.fired lnk)) ?_))
  rintro _ u rfl
  have sent : (if (s.fired lnk).linkUp lnk then (s.fired lnk).note (.sent lnk ((s.fired lnk).sends pad buf))
      else s.fired lnk).Agrees := by
    split
    · exact fired.same rfl
    · exact fired
  refine wp_bind (wp_read (wp_bind (wp_write trivial (wp_bind (wp_reschedule fun _ _ => wp_pure ?_)))))
  refine wp_write trivial (sent.same ?_)
  refine (ringPorts_modWork _ _ _).trans ((ringPorts_modWork _ _ _).trans ?_)
  refine ringPorts_modLink _ lnk fun l => ?_
  split <;> exact ⟨rfl, rfl⟩

/-! ### Starting -/

/-- The port that is blocked and the one that is opened are the two of the node. -/
theorem bringUp_agrees (apart : s.node.ports.port0.dev ≠ s.node.ports.port1.dev)
    (opened : (s.link lnk).blocked = false) {next : Int → M Int} (rest : ∀ ret, FsmBuilt True (next ret)) :
    wp Success anyState (do
      let ret ← linkBlock lnk
      let ret ← ifOk ret (linkUnblockForce lnk.other)
      next ret) (fun _ t => t.Agrees) s := by
  have blocks : Settles (linkBlock lnk) lnk s :=
    linkBlock_settles apart fun blocked => absurd (opened.symm.trans blocked) (by decide)
  refine wp_bind (wp_mono blocks ?_)
  rintro ret t ⟨rfl, synced, -, devs⟩
  obtain ⟨dev0, dev1⟩ := Ports.mk.inj devs
  have apart' : t.node.ports.port0.dev ≠ t.node.ports.port1.dev := by
    have dev0' : t.node.ports.port0.dev = s.node.ports.port0.dev := dev0
    have dev1' : t.node.ports.port1.dev = s.node.ports.port1.dev := dev1
    rwa [dev0', dev1']
  have opens : Settles (linkUnblockForce lnk.other) lnk.other t := linkUnblockForce_settles apart'
  have other : (t.port lnk.other.other).Synced := by cases lnk <;> exact synced
  refine wp_bind (wp_ifOk (fun _ => ?_) fun failed => absurd rfl failed)
  refine wp_mono (opens.agrees apart' other) fun ret' u agrees => ?_
  exact built_agrees (rest ret') agrees.2

theorem fsmInitRpl_agrees {rplOwner : Bool} (apart : s.node.ports.port0.dev ≠ s.node.ports.port1.dev)
    (opened : (s.link .port1).blocked = false) :
    wp Success anyState (fsmInitRpl rplOwner .port1 .port0) (fun _ t => t.Agrees) s := by
  refine bringUp_agrees apart opened fun ret => ?_
  refine Built.bind (.ifOk (.op (.schedTx ..))) fun ret => Built.bind (.read _) fun _ => ?_
  exact .ite (fun _ => .op (.startTimer .wtr)) fun _ => .pure _

theorem fsmInitPlain_agrees (apart : s.node.ports.port0.dev ≠ s.node.ports.port1.dev)
    (opened : (s.link .port0).blocked = false) :
    wp Success anyState fsmInitPlain (fun _ t => t.Agrees) s :=
  bringUp_agrees apart opened fun _ => .ifOk (.op (.schedTx ..))

theorem fsmInit_agrees (formed : s.setup.WellFormed) (apart : s.node.ports.port0.dev ≠ s.node.ports.port1.dev)
    (opened : ∀ lnk, (s.link lnk).blocked = false) :
    wp Success anyState fsmInit (fun _ t => t.Agrees) s := by
  have last (ret : Int) : FsmBuilt True (do fsmTransition .pending; return ret) :=
    Built.bind (.op (.goto .pending)) fun _ => .pure ret
  have formed' : (s.modNode fun n => { n with guardTimerExpiry := 0 }).setup.WellFormed := formed
  refine wp_bind (wp_write trivial (wp_bind (wp_read ?_)))
  generalize started : (s.modNode fun n => { n with guardTimerExpiry := 0 }) = t at formed'
  have apart' : t.node.ports.port0.dev ≠ t.node.ports.port1.dev := started ▸ apart
  have opened' (lnk : PortIdx) : (t.link lnk).blocked = false := started ▸ opened lnk
  simp only [Sys.ringRole_iff, t.getRpl_eq formed']
  refine wp_ite (fun ringRole => ?_) fun plain => ?_
  · rw [if_neg ringRole]
    refine wp_bind (wp_mono (fsmInitRpl_agrees apart' (opened' .port1)) fun ret u now => ?_)
    exact built_agrees (last ret) now
  · refine wp_bind (wp_mono (fsmInitPlain_agrees apart' (opened' .port0)) fun ret u now => ?_)
    exact built_agrees (last ret) now

end

theorem Sys.opened_of_flags {s : Sys} (flags : s.node.ports.map Link.blocked = ⟨false, false⟩)
    (lnk : PortIdx) : (s.link lnk).blocked = false := by
  obtain ⟨flag0, flag1⟩ := Ports.mk.inj flags
  cases lnk <;> assumption

/-- A successful initialisation brings them together, whatever it finds. -/
theorem Initialised.agrees {s : Sys} (init : Initialised s)
    (apart : s.node.ports.port0.dev ≠ s.node.ports.port1.dev) : s.Agrees := by
  obtain ⟨boot, ans, booted, succeeds, rfl⟩ := init
  have formed := booted.formed
  have fresh := booted.fresh
  obtain ⟨-, -, setup⟩ := (fsmInit_leads boot formed fresh).post ans succeeds
  have devs : (boot.initialise ans).node.ports.map Link.dev = boot.node.ports.map Link.dev :=
    congrArg Setup.dev setup
  have apart' : boot.node.ports.port0.dev ≠ boot.node.ports.port1.dev := by
    obtain ⟨dev0, dev1⟩ := Ports.mk.inj devs
    exact fun same => apart (dev0.trans (same.trans dev1.symm))
  exact (fsmInit_agrees formed apart' (Sys.opened_of_flags fresh.blocked)).post ans succeeds

/-! ### Rings -/

section
variable {n : Nat} {w : Wire n}

theorem Wire.update_agrees {i : Fin n} {s : Sys} (now : ∀ j, (w.nodes j).Agrees) (agrees : s.Agrees)
    (j : Fin n) : ((w.update i s).nodes j).Agrees := by
  rw [Wire.update_nodes]
  split
  · exact agrees
  · exact now j

theorem Wire.step_agrees {x : WireStep n} (now : ∀ i, (w.nodes i).Agrees) (permits : Wire.Permits x)
    (i : Fin n) : ((w.step x).nodes i).Agrees := by
  cases x with
  | event j x => exact update_agrees now ((event_agrees x.1 (now j)).post x.2 permits.1) i
  | transmit j lnk pad buf hdr ans => exact update_agrees now ((runTxWork_agrees (now j)).post ans permits) i
  | receive j dev k ans =>
    cases found : w.inFlight[k]? with
    | none => simpa only [Wire.step, found] using now i
    | some f =>
      have receives : wp Success anyState (erpsRecv dev f.pkt) (fun _ t => t.Agrees) (w.nodes j) :=
        erpsRecv_agrees (now j)
      simpa only [Wire.step, found] using update_agrees now (receives.post ans permits) i
  | lose k => exact now i
  | elapse ms => exact (event_agrees (.elapse ms) (now i)).post allSucceed allSucceed_respects

/-- What every ring that has been initialised keeps. -/
structure Wire.Sound (w : Wire n) : Prop where
  formed : ∀ i, (w.nodes i).setup.WellFormed
  names : ∀ i, (w.nodes i).ctl.Names
  agrees : ∀ i, (w.nodes i).Agrees

theorem Wire.Sound.disabled_iff (h : w.Sound) (i : Fin n) (lnk : PortIdx) :
    ((w.nodes i).port lnk).enabled = false ↔ (w.nodes i).ctl.blocked.get lnk = true := by
  rw [((h.agrees i).synced lnk).disabled_iff]
  cases lnk <;> rfl

theorem Wire.sound_of_initialised {xs : List (WireStep n)} (init : ∀ i, Initialised (w.nodes i))
    (apart : ∀ i, (w.nodes i).node.ports.port0.dev ≠ (w.nodes i).node.ports.port1.dev)
    (quiet : w.inFlight = []) (permits : ∀ x ∈ xs, Wire.Permits x) :
    EachState Wire.step w xs fun _ v => v.Sound := by
  have along : EachState Wire.step w xs fun _ v => (∃ p, v.Shows p) ∧ ∀ i, (v.nodes i).Agrees := by
    refine eachState_of_eachStep ⟨⟨_, Wire.shown_of_initialised init quiet⟩, fun i => (init i).agrees (apart i)⟩
      (eachStep_of_forall permits) ?_
    rintro pre v x - permits ⟨⟨p, shown⟩, agree⟩
    obtain ⟨y, -, -, after⟩ := shown.step permits
    exact ⟨⟨_, after⟩, Wire.step_agrees agree permits⟩
  exact along.mono fun pre v ⟨⟨p, shown⟩, agree⟩ => ⟨shown.formed, shown.names, agree⟩

/-- In a ring in which every call succeeds, each node has its flags, ports and traffic VLAN
interfaces in agreement in every state. -/
theorem ports_agree {xs : List (WireStep n)} (init : ∀ i, Initialised (w.nodes i))
    (apart : ∀ i, (w.nodes i).node.ports.port0.dev ≠ (w.nodes i).node.ports.port1.dev)
    (permits : ∀ x ∈ xs, Wire.Permits x) :
    EachState Wire.step w xs fun _ v => ∀ i, (v.nodes i).Agrees := by
  have steps : EachStep Wire.step w xs fun _ _ x => Wire.Permits x := eachStep_of_forall permits
  refine eachState_of_eachStep (fun i => (init i).agrees (apart i)) steps ?_
  intro pre v x _ taken before
  exact Wire.step_agrees before taken

end

theorem ports_agree_sample : EachState Wire.step (Wire.sample false) Wire.sampleSteps
    fun _ v => ∀ i, (v.nodes i).Agrees :=
  ports_agree (Ring.sample_started false).initialised (by decide) Wire.sampleSteps_permits

end Erps
