import Erps.Footprints
import Erps.Wiring

/-!
# Stopped TX stays stopped

Once TX has been stopped no PDU is sent until it is scheduled again. The state machine and
the TX work keep to it: neither arms the work of a node that has stopped. The notification
that an interface is up arms it whatever the node has been asked to do.
-/
namespace Erps

open Calls Runs

/-- TX has been stopped and has not been scheduled since, by the record of operations. -/
def stoppedIn : List NodeOp → Bool
  | [] => false
  | .schedTx :: _ => false
  | .stopTx :: _ => true
  | .sent _ _ :: log | .fire _ :: log | .cancel _ :: log => stoppedIn log

/-- No PDU has been sent while TX was stopped. -/
def Quiet : List NodeOp → Prop
  | [] => True
  | .sent _ _ :: log => stoppedIn log = false ∧ Quiet log
  | .schedTx :: log | .stopTx :: log | .fire _ :: log | .cancel _ :: log => Quiet log

instance decidableQuiet : (log : List NodeOp) → Decidable (Quiet log)
  | [] => .isTrue trivial
  | .sent _ _ :: log => have := decidableQuiet log; inferInstanceAs (Decidable (_ ∧ Quiet log))
  | .schedTx :: log | .stopTx :: log | .fire _ :: log | .cancel _ :: log => decidableQuiet log

def Sys.stopped (s : Sys) : Bool := stoppedIn s.log

/-- What happens to a node and its interfaces: an event, the TX work of a link running, if it
is scheduled, in memory that holds `buf`, or the interface of a link coming up. -/
inductive TxEvent where
  | event (e : Event)
  | txWork (lnk : PortIdx) (buf : RapsPdu)
  | ifaceUp (lnk : PortIdx)

/-- The TX work of a link as the work queue runs it. -/
def runTxWork (padRapsPdus : Bool) (buf : RapsPdu) (lnk : PortIdx) : M Unit := do
  if ← read fun s => (s.link lnk).txDwork.scheduled then
    write fun s => (s.modWork (.tx lnk) fun _ => ⟨none, true⟩).note (.fire (.tx lnk))
    txWork padRapsPdus buf lnk
    write fun s => s.modWork (.tx lnk) fun w => { w with running := false }

/-- The interface of a link comes up, and the node is notified. -/
def notifyIfaceUp (lnk : PortIdx) : M Unit := do
  let dev ← linkDev lnk
  write fun s => s.modHw dev fun p => { p with ifUp := true }
  ifaceUpCb dev

def TxEvent.prog (padRapsPdus : Bool) : TxEvent → M Unit
  | event e => e.prog
  | txWork lnk buf => runTxWork padRapsPdus buf lnk
  | ifaceUp lnk => notifyIfaceUp lnk

/-- A step with the answers to the calls made in it. -/
abbrev TxStep := TxEvent × Answers KernelCall

def TxStep.step (padRapsPdus : Bool) (s : Sys) (x : TxStep) : Sys :=
  (x.1.prog padRapsPdus).final x.2 s

/-- No notification finds TX stopped. -/
def NotifiesInTime (s : Sys) (x : TxStep) : Prop := ∀ lnk, x.1 = .ifaceUp lnk → s.stopped = false

/-! ### The invariant -/

/-- What the invariant is about: the record, and on which ports TX is scheduled. -/
def Sys.air (s : Sys) : List NodeOp × Ports Bool := (s.log, s.ctl.tx)

/-- The work of a node that has stopped is not scheduled. -/
structure Hushed (a : List NodeOp × Ports Bool) : Prop where
  idle : stoppedIn a.1 = true → a.2 = ⟨false, false⟩
  quiet : Quiet a.1

/-- A node that has not stopped and has always been quiet when it had. -/
def Active (log : List NodeOp) : Prop := stoppedIn log = false ∧ Quiet log

theorem Active.hushed {s : Sys} (h : Active s.log) : Hushed s.air := by
  refine ⟨fun stopped => ?_, h.2⟩
  rw [Sys.air, h.1] at stopped
  cases stopped

section
variable {good : KernelCall → Int → Prop} {lnk : PortIdx} {s : Sys}

/-- The invariant at every point while `m` runs and after it. -/
abbrev KeepsHushed {α : Type} (good : KernelCall → Int → Prop) (m : M α) : Prop :=
  Keeps good (fun s => Hushed s.air) m

/-! ### The operations of the state machine -/

theorem offPorts_air : OffPorts Sys.air where
  link s lnk f kept := by
    have tx : (s.modLink lnk f).ctl.tx = s.ctl.tx := by
      cases lnk <;> simp [Sys.ctl, Ports.modify, Ports.map, (kept _).2.2.1]
    exact congrArg (Prod.mk s.log) tx
  hw _ _ _ _ := rfl

/-- `kWorkCancelDelayable` on the TX work of a link. -/
def Sys.cancelTx (s : Sys) (lnk : PortIdx) : Sys :=
  (s.modWork (.tx lnk) DelayableWork.cancel).note (.cancel (.tx lnk))

theorem Hushed.cancelTx (now : Hushed s.air) (lnk : PortIdx) : Hushed (s.cancelTx lnk).air := by
  refine ⟨fun stopped => ?_, now.quiet⟩
  have idle : s.ctl.tx = ⟨false, false⟩ := now.idle stopped
  simp only [Sys.ctl, Ports.map, Ports.mk.injEq] at idle
  -- one port is cancelled, and the other one was idle already
  cases lnk
  · exact congrArg₂ Ports.mk rfl idle.2
  · exact congrArg₂ Ports.mk idle.1 rfl

theorem cancelTx_hushed : KeepsHushed good (kWorkCancelDelayable (.tx lnk)) :=
  fun _ now => wp_write (now.cancelTx lnk) (now.cancelTx lnk)

/-- While TX has not been stopped its work may be scheduled. -/
theorem rescheduleTx_active {delay : Nat} (now : Active s.log) :
    wp good (fun t => Hushed t.air) (kWorkReschedule (.tx lnk) delay) (fun _ t => Active t.log) s := by
  refine wp_bind (wp_call fun ret _ => ?_)
  have after (f : DelayableWork → DelayableWork) : Active (s.modWork (.tx lnk) f).log := now
  exact wp_bind (wp_write (after _).hushed (wp_pure (after _)))

theorem linkSchedTx_active {ret : Int} (now : Active s.log) :
    wp good (fun t => Hushed t.air) (linkSchedTx ret lnk) (fun _ t => Active t.log) s := by
  have looksUp {dev : Device} : Frames good Sys.air (netIfLookupByDev dev) := netIfLookupByDev_frames
  refine wp_bind (wp_read (looksUp.wp_bind now.hushed fun iface t same => ?_))
  have log : t.log = s.log := congrArg Prod.fst same
  rw [← log] at now
  refine wp_bind (wp_read (wp_ite (fun _ => wp_pure now) fun _ => ?_))
  exact wp_bind (wp_read (rescheduleTx_active now))

theorem nodeSchedTx_hushed {reqState subcode status : UInt8} :
    KeepsHushed good (nodeSchedTx reqState subcode status) := by
  unfold nodeSchedTx
  refine keeps_ite (fun _ => keeps_pure) fun _ => keeps_ite (fun _ => keeps_pure) fun _ => ?_
  refine cancelTx_hushed.bind fun _ => cancelTx_hushed.bind fun _ => keeps_read fun pdu => ?_
  intro s now
  -- the record says now that TX is scheduled, so both ports may be
  have active : Active ((s.modNode fun n => { n with
      pduMut := ⟨(reqState <<< rapsRsShift) ||| subcode, status⟩
      ports := n.ports.map fun l => { l with txBurst :=
        if pdu.rsSc ≠ (reqState <<< rapsRsShift) ||| subcode ∨ pdu.status ≠ status then erpsRapsBurst
        else 0 } }).note .schedTx).log := ⟨rfl, now.quiet⟩
  refine wp_bind (wp_write active.hushed ?_)
  refine wp_bind (wp_mono (linkSchedTx_active active) fun ret t active => ?_)
  have last (u : Sys) (active : Active u.log) (ret : Int) :
      wp good (fun t => Hushed t.air) (pure (if ret < 0 then ret else 0) : M Int)
        (fun _ t => Hushed t.air) u := wp_pure active.hushed
  refine wp_bindIte (wp_ite (fun _ => ?_) fun _ => wp_pure (last t active ret))
  exact wp_mono (linkSchedTx_active active) fun ret u active => last u active ret

theorem nodeStopTx_hushed : KeepsHushed good nodeStopTx := by
  intro s now
  have first := now.cancelTx .port0
  have second := first.cancelTx .port1
  -- the record speaks of a stop only once both works are cancelled
  have last : Hushed (((s.cancelTx .port0).cancelTx .port1).note .stopTx).air :=
    ⟨fun _ => rfl, second.quiet⟩
  exact wp_bind (wp_write first (wp_bind (wp_write second (wp_write last last))))

theorem fsmOp_hushed {guard : Prop} {α : Type} {m : M α} (op : FsmOp guard α m) : KeepsHushed good m := by
  cases op with
  | block lnk => exact offPorts_air.linkBlock.keeps
  | unblock lnk => exact offPorts_air.linkUnblock.keeps
  | unblockForce lnk => exact offPorts_air.linkUnblockForce.keeps
  | markFailed lnk req =>
    refine Frames.keeps (frames_write fun s => ?_)
    split
    · exact offPorts_air.link s lnk _ fun _ => ⟨rfl, rfl, rfl, rfl, rfl⟩
    · rfl
  | flush lnk =>
    have flushes : Frames good Sys.air (flushFdb lnk) := flushFdb_frames fun _ => rfl
    exact flushes.keeps
  | schedTx => exact nodeSchedTx_hushed
  | stopTx => exact nodeStopTx_hushed
  | startGuard | goto next => exact Frames.keeps (frames_write fun _ => rfl)
  | fault =>
    have faults : Frames good Sys.air assertFails :=
      Frames.bind (frames_write fun _ => rfl) fun _ => frames_pure
    exact faults.keeps
  | startTimer t =>
    exact (nodeStartTimer_frames (fun _ _ => rfl) fun _ _ => by cases t <;> rfl).keeps
  | stopTimer t =>
    intro s now
    -- no timer is a TX work
    have after : Hushed ((s.modWork t.item DelayableWork.cancel).note (.cancel t.item)).air := by
      refine ⟨fun stopped => ?_, now.quiet⟩
      have idle := now.idle stopped
      cases t with
      | wtr | wtb => exact idle
      | linkDown lnk => cases lnk <;> exact idle
    exact wp_write after after
  | resolve req => exact (fsmResolveReqPrio_frames fun _ _ => rfl).keeps

/-! ### One step -/

theorem fsmPost_hushed {req : Request} {pdu : Option RapsPdu} :
    KeepsHushed good (fsmPost lnk req pdu) :=
  fsmPost_built.keeps fun _ _ op => fsmOp_hushed op

theorem fire_hushed {t : Expiry} : KeepsHushed good t.fire := by
  intro s now
  have after : Hushed ((s.modWork t.item fun _ => ⟨none, true⟩).note (.fire t.item)).air := by
    refine ⟨fun stopped => ?_, now.quiet⟩
    have idle := now.idle stopped
    cases t with
    | wtr | wtb => exact idle
    | linkDown lnk => cases lnk <;> exact idle
  exact wp_write after after

theorem handle_hushed {t : Expiry} : KeepsHushed good t.handle := by
  have handler : KeepsHushed good t.handler := handler_built.keeps fun _ _ op => fsmOp_hushed op
  refine handler.bind fun _ => Frames.keeps (frames_write fun s => ?_)
  cases t with
  | wtr | wtb => rfl
  | linkDown lnk => cases lnk <;> rfl

theorem event_hushed (e : Event) : KeepsHushed good e.prog := by
  cases e with
  | ctl lnk ev => exact fsmPost_hushed.bind fun _ => keeps_pure
  | raps lnk req pdu => exact fsmPost_hushed.bind fun _ => keeps_pure
  | expiry t => exact fire_hushed.bind fun _ => handle_hushed
  | fire t => exact fire_hushed
  | handle t => exact handle_hushed
  | elapse ms => exact Frames.keeps (frames_write fun _ => rfl)
  | iface lnk up => exact Frames.keeps (frames_write fun _ => rfl)

/-- Neither stopped nor ever heard while stopped, at every point while `m` runs and after it. -/
abbrev KeepsActive {α : Type} (good : KernelCall → Int → Prop) (m : M α) : Prop :=
  Keeps good (fun s => Active s.log) m

theorem netIfTrySendData_active {dev : Device} {pkt : NetPkt} :
    KeepsActive good (netIfTrySendData lnk dev pkt) := by
  intro s now
  refine wp_bind (wp_call fun vdct _ => wp_ite (fun _ => wp_pure now) fun _ => ?_)
  -- what is sent while TX is active is no offence
  have after : Active (s.note (.sent lnk pkt.octets)).log := ⟨now.1, now⟩
  exact wp_bind (wp_write after (wp_pure after))

theorem linkSendPdu_active {pad : Bool} {buf : RapsPdu} {dev : Device} :
    KeepsActive good (linkSendPdu pad buf lnk dev) := by
  have calls {c : KernelCall} : KeepsActive good (call c) := by
    have same : Frames good Sys.log (call c) := frames_call
    exact same.keeps
  refine calls.bind fun pkt => keeps_ite (fun _ => keeps_pure) fun _ => ?_
  have rest (ret : Int) : KeepsActive good (do
      if ret ≠ 0 then
        return ret
      let created ← rapsCreatePkt pad buf .empty
      ifOk created.1 (netIfTrySendData lnk dev created.2)) := by
    refine keeps_ite (fun _ => keeps_pure) fun _ => ?_
    have creates : Frames good Sys.log (rapsCreatePkt pad buf .empty) := rapsCreatePkt_frames
    exact Keeps.bind creates.keeps fun _ => netIfTrySendData_active.ifOk
  refine calls.bind fun ret => keeps_read fun n => keeps_ite (fun _ => ?_) fun _ => ?_
  · exact calls.bind rest
  · exact keeps_pure.bind rest

theorem txWork_active {pad : Bool} {buf : RapsPdu} : KeepsActive good (txWork pad buf lnk) := by
  have reschedules {delay : Nat} : Frames good Sys.log (kWorkReschedule (.tx lnk) delay) :=
    kWorkReschedule_frames fun _ _ => rfl
  have looksUp {dev : Device} : Frames good Sys.log (netIfLookupByDev dev) := netIfLookupByDev_frames
  have finds {dev : Device} {vid : UInt16} : Frames good Sys.log (netEthGetVlanIface dev vid) :=
    netEthGetVlanIface_frames
  have sends : KeepsActive good (linkTxSinglePdu pad buf lnk) := by
    refine keeps_read fun dev => looksUp.keeps.bind fun iface => ?_
    refine keeps_ite (fun _ => keeps_pure) fun _ => keeps_read fun up => ?_
    refine keeps_ite (fun _ => keeps_pure) fun _ => keeps_read fun vid => ?_
    exact finds.keeps.bind fun _ => linkSendPdu_active.bind fun _ => keeps_pure
  refine sends.bind fun _ => keeps_read fun burst => ?_
  have counts : Frames good Sys.log (write fun s => s.modLink lnk fun l =>
    if l.txBurst ≠ 0 then { l with txBurst := l.txBurst - 1 } else l) := frames_write fun _ => rfl
  exact counts.keeps.bind fun _ => reschedules.keeps.bind fun _ => keeps_pure

/-- The TX work runs only if it is scheduled, and then TX has not been stopped. -/
theorem runTxWork_hushed {pad : Bool} {buf : RapsPdu} {ans : Answers KernelCall}
    (now : Hushed s.air) : Hushed ((runTxWork pad buf lnk).final ans s).air := by
  by_cases scheduled : (s.link lnk).txDwork.scheduled = true
  case neg =>
    have skips : wp anyAnswer anyState (runTxWork pad buf lnk) (fun _ t => Hushed t.air) s :=
      wp_bind (wp_read (wp_ite (fun yes => absurd yes scheduled) fun _ => wp_pure now))
    exact skips.post ans (respects_any ans)
  have active : Active s.log := by
    refine ⟨?_, now.quiet⟩
    -- had TX been stopped, this work would not be scheduled
    by_contra stopped
    have idle : s.ctl.tx = ⟨false, false⟩ := now.idle (eq_true_of_ne_false stopped)
    simp only [Sys.ctl, Ports.map, Ports.mk.injEq] at idle
    cases lnk <;> simp_all [Sys.link, Ports.get]
  have fires : KeepsActive anyAnswer (write fun s =>
      (s.modWork (.tx lnk) fun _ => ⟨none, true⟩).note (.fire (.tx lnk))) :=
    fun _ now => wp_write now now
  have finishes : Frames anyAnswer Sys.log (write fun s =>
      s.modWork (.tx lnk) fun w => { w with running := false } : M Unit) := frames_write fun _ => rfl
  have runs : KeepsActive anyAnswer (runTxWork pad buf lnk) := by
    refine keeps_read fun _ => keeps_ite (fun _ => ?_) fun _ => keeps_pure
    exact fires.bind fun _ => txWork_active.bind fun _ => finishes.keeps
  exact ((runs s active).post ans (respects_any ans)).hushed

theorem notifyIfaceUp_active : KeepsActive good (notifyIfaceUp lnk) := by
  have looksUp {dev : Device} : Frames good Sys.log (netIfLookupByDev dev) := netIfLookupByDev_frames
  have goesUp {dev : Device} : Frames good Sys.log (write fun s =>
    s.modHw dev fun p => { p with ifUp := true }) := frames_write fun _ => rfl
  have reschedules {lnk : PortIdx} {delay : Nat} :
    Frames good Sys.log (kWorkReschedule (.tx lnk) delay) := kWorkReschedule_frames fun _ _ => rfl
  refine keeps_read fun dev => goesUp.keeps.bind fun _ => ?_
  refine keeps_read fun dev0 => keeps_read fun dev1 => looksUp.keeps.bind fun iface0 => ?_
  refine looksUp.keeps.bind fun iface1 => keeps_ite (fun _ => keeps_pure) fun _ => ?_
  -- the work is scheduled without a word in the record, which does not matter
  -- while TX is active
  exact keeps_read fun burst => reschedules.keeps.bind fun _ => keeps_pure

theorem txStep_hushed {pad : Bool} {x : TxStep} (now : Hushed s.air) (inTime : NotifiesInTime s x) :
    Hushed (TxStep.step pad s x).air := by
  obtain ⟨e, ans⟩ := x
  cases e with
  | event e => exact (event_hushed e s now).post ans (respects_any ans)
  | txWork lnk buf => exact runTxWork_hushed now
  | ifaceUp lnk =>
    have active : Active s.log := ⟨inTime lnk rfl, now.quiet⟩
    exact ((notifyIfaceUp_active s active).post ans (respects_any ans)).hushed

theorem InitialisedWith.hushed (init : InitialisedWith good s) : Hushed s.air := by
  obtain ⟨boot, ans, ⟨n, linkDown, -, -, -, log⟩, answers, rfl⟩ := init
  have active : Active boot.log := by
    rw [log]
    exact ⟨rfl, trivial⟩
  have resets : Frames good Sys.air (write fun s => s.modNode fun n =>
    { n with guardTimerExpiry := 0 }) := frames_write fun _ => rfl
  have keeps : KeepsHushed good fsmInit := fsmInit_keeps resets.keeps fun _ _ op => fsmOp_hushed op
  exact (keeps boot active.hushed).post ans answers

end

/-! ### Runs -/

/-- In a run in which no notification finds TX stopped, no PDU is sent from the time TX is
stopped to the time it is next scheduled, whatever the calls answer. -/
theorem stopped_stays_silent {pad : Bool} {s : Sys} {xs : List TxStep}
    (init : InitialisedWith anyAnswer s)
    (inTime : EachStep (TxStep.step pad) s xs fun _ t x => NotifiesInTime t x) :
    EachState (TxStep.step pad) s xs fun _ t => Quiet t.log := by
  have hushed : EachState (TxStep.step pad) s xs fun _ t => Hushed t.air :=
    eachState_of_eachStep init.hushed inTime fun _ t x _ inTime now => txStep_hushed now inTime
  exact hushed.mono fun _ _ now => now.quiet

/-- A plain node that sends, hears that the ring is blocked by its owner, and stops. -/
def sampleTxRun (next : List TxEvent) : List TxStep :=
  let first : List TxEvent :=
    [.ifaceUp .port0, .txWork .port0 zeroPdu, .event (.raps .port0 .nrRb zeroPdu)]
  (first ++ next).map fun e => (e, allSucceed)

theorem stopped_stays_silent_sample :
    EachState (TxStep.step false) samplePlain (sampleTxRun [.txWork .port0 zeroPdu])
      fun _ t => Quiet t.log := by
  refine stopped_stays_silent samplePlain_initialised.any ?_
  refine eachStep_cons (fun _ _ => by decide) (eachStep_cons ?_ (eachStep_cons ?_ ?_))
  · intro lnk same
    cases same
  · intro lnk same
    cases same
  · refine eachStep_cons (fun lnk same => ?_) eachStep_nil
    cases same

/-- The link flaps once TX has been stopped, and the old PDU is sent again. -/
theorem iface_up_resumes : ¬∀ (pad : Bool) (s : Sys) (xs : List TxStep), InitialisedWith anyAnswer s →
    EachState (TxStep.step pad) s xs fun _ t => Quiet t.log := by
  intro silent
  have here := silent false samplePlain (sampleTxRun [.event (.iface .port0 false), .ifaceUp .port0,
    .txWork .port0 zeroPdu]) samplePlain_initialised.any
  exact absurd here.last (by decide)

end Erps
