import Erps.Ctl.Reacts
import Erps.Timing.Posts

/-!
# Late expiries

A handler that has fired waits for the mutex, and cancelling its timer does not call it
back. What a late handler does when it obtains the mutex is decided by the state and the
remembered request it finds there and by nothing that remembers the cancel.
-/
namespace Erps

open Calls Runs

/-- The timer has been cancelled since it last fired, by the record of operations. -/
def cancelledIn (w : WorkItem) : List NodeOp → Bool
  | [] => false
  | .cancel v :: log => v == w || cancelledIn w log
  | .fire v :: log => v != w && cancelledIn w log
  | .schedTx :: log | .stopTx :: log | .sent _ _ :: log => cancelledIn w log

namespace Sys

/-- The handler of the timer waits for the mutex, and its timer has been cancelled. -/
structure Late (s : Sys) (t : Expiry) : Prop where
  waits : (s.node.work t.item).running = true
  cancelled : cancelledIn t.item s.log = true

/-- What a late handler is not to change: the state, the blocked flags, the PDU. -/
def shown (s : Sys) : NodeState × Ports Bool × RapsPduMut := (s.node.state, s.blocked, s.node.pduMut)

/-- Should the handler obtain the mutex now, it changes nothing of that, whatever the calls
answer. -/
def Harmless (s : Sys) (t : Expiry) : Prop :=
  ∀ ans, (t.handle.final ans s).shown = s.shown

/-- The failure of the link is what the node is in protection for and announces. -/
structure InForce (s : Sys) (lnk : PortIdx) : Prop where
  state : s.node.state = .protection
  blocked : s.blocked.get lnk = true
  other : s.blocked.get lnk.other = false
  pdu : s.node.pduMut = ⟨rapsSf <<< rapsRsShift, rapsDnf⟩

/-- The priority logic stops what the handler posts, or the state has no answer to it. -/
def Spent (s : Sys) : Expiry → Prop
  | .wtr => ¬(s.ctl.Passes .wtrExpires ∧ s.node.state = .pending ∧ s.node.rplOwner = true)
  | .wtb => ¬(s.ctl.Passes .wtbExpires ∧ s.node.state = .pending ∧ s.node.rplOwner = true)
  | .linkDown lnk => s.ctl.Passes .sf →
    s.node.state = .forcedSwitch ∨ s.node.state = .uninit ∨ s.InForce lnk

end Sys

/-- Timers fire when they are scheduled, and a handler runs once it has fired. -/
def Event.enabled (s : Sys) : Event → Bool
  | .expiry t | .fire t =>
    (s.node.work t.item).scheduled && !(s.node.work t.item).running
  | .handle t => (s.node.work t.item).running
  | _ => true

/-- What cannot happen yet does not happen. -/
def Sys.stepEnabled (s : Sys) (x : Step) : Sys := if x.1.enabled s then s.step x else s

variable {good : KernelCall → Int → Prop} {s : Sys}

/-! ### A spent handler does nothing -/

theorem offPriority_shown : OffPriority fun s : Sys => (s.shown, s.node.rplOwner) where
  topreq _ _ := rfl
  failed _ lnk := by cases lnk <;> rfl
  cancel _ lnk := by cases lnk <;> rfl

/-- The expiry of a timer has no effect but where the RPL owner is in pending. -/
theorem expires_shown {t : Timer}
    (spent : ¬(s.ctl.Passes t.expires ∧ s.node.state = .pending ∧ s.node.rplOwner = true)) :
    wp good anyState (fsmPost .port0 t.expires none) (fun _ u => u.shown = s.shown) s := by
  refine offPriority_shown.post (fun _ u same => congrArg Prod.fst same) ?_
  intro passes u same state
  obtain ⟨shown, owner⟩ := Prod.mk.inj same
  have notOwner (pending : s.node.state = .pending) : ¬u.node.rplOwner = true := by
    rw [owner]
    exact fun owner => spent ⟨passes, pending, owner⟩
  have idles : wp good anyState (pure 0 : M Int) (fun _ v => v.shown = s.shown) u := wp_pure shown
  cases now : s.node.state with
  | idle | protection | manualSwitch | forcedSwitch | uninit => cases t <;> exact idles
  | pending =>
    -- pending asks whether the node is the RPL owner, and it is not
    have skips {m : M Int} : wp good anyState (do
        if ← read fun s => s.node.rplOwner then
          m
        else
          return 0) (fun _ v => v.shown = s.shown) u :=
      wp_bind (wp_read (wp_ite (fun owner => absurd owner (notOwner now)) fun _ => idles))
    cases t <;> exact skips

/-- Scheduling the PDU that is being sent. -/
theorem nodeSchedTx_shown {reqState status : UInt8}
    (sent : s.node.pduMut = ⟨reqState <<< rapsRsShift, status⟩) :
    wp good anyState (nodeSchedTx reqState 0 status) (fun _ t => t.shown = s.shown) s := by
  have cancels {lnk : PortIdx} : Frames good Sys.shown (kWorkCancelDelayable (.tx lnk)) :=
    frames_write fun _ => by cases lnk <;> rfl
  have rest : Frames good Sys.shown (do
      let ret ← linkSchedTx 0 .port0
      let ret ← if 0 ≤ ret then linkSchedTx ret .port1 else pure ret
      return if ret < 0 then ret else 0) :=
    schedPorts_frames fun _ lnk _ => by cases lnk <;> rfl
  unfold nodeSchedTx
  refine wp_ite (fun _ => wp_pure rfl) fun _ => wp_ite (fun _ => wp_pure rfl) fun _ => ?_
  refine wp_bind (wp_mono (cancels.ends s) fun _ t first => ?_)
  refine wp_bind (wp_mono (cancels.ends t) fun _ u second => wp_bind (wp_read ?_))
  have same : u.shown = s.shown := second.trans first
  refine wp_bind (wp_write trivial (wp_mono (rest.ends _) fun _ v last => last.trans ?_))
  -- writing the PDU that is there already
  have pdu : (⟨(reqState <<< rapsRsShift) ||| 0, status⟩ : RapsPduMut) = u.node.pduMut := by
    have kept : u.node.pduMut = s.node.pduMut := congrArg (fun w => w.2.2) same
    rw [kept, sent, UInt8.or_zero]
  exact (congrArg (fun p => (u.node.state, u.blocked, p)) pdu).trans same

/-- A port that is open already. -/
theorem linkUnblock_shown {lnk : PortIdx} (open_ : s.blocked.get lnk = false) :
    wp good anyState (linkUnblock lnk) (fun _ t => t.shown = s.shown) s := by
  have fails : Frames good Sys.shown (write fun s =>
      s.modLink lnk fun l => { l with failed := false }) :=
    frames_write fun s => by cases lnk <;> rfl
  refine wp_bind (wp_mono (fails.ends s) fun _ t same => ?_)
  refine wp_bind (wp_read (wp_ite (fun _ => wp_pure same) fun shut => absurd ?_ shut))
  have ports : t.blocked = s.blocked := congrArg (fun v => v.2.1) same
  have flag : (t.link lnk).blocked = t.blocked.get lnk := t.link_blocked lnk
  rw [flag, ports, open_]
  rfl

theorem Sys.InForce.congr {t : Sys} {lnk : PortIdx} (inForce : s.InForce lnk)
    (same : t.shown = s.shown) : t.InForce lnk := by
  obtain ⟨state, blocked, other, pdu⟩ := inForce
  obtain ⟨state', rest⟩ := Prod.mk.inj same
  obtain ⟨blocked', pdu'⟩ := Prod.mk.inj rest
  exact ⟨state'.trans state, blocked' ▸ blocked, blocked' ▸ other, pdu'.trans pdu⟩

/-- A failure that is in force already. -/
theorem fsmSf_shown {lnk : PortIdx} (inForce : s.InForce lnk) :
    wp good anyState (fsmFsSfMs lnk rapsSf .protection) (fun _ t => t.shown = s.shown) s := by
  have flag : (s.link lnk).blocked = s.blocked.get lnk := s.link_blocked lnk
  have flushes : Frames good Sys.shown (flushFdb lnk) := flushFdb_frames fun _ => rfl
  have last {t : Sys} (same : t.shown = s.shown) (ret : Int) : wp good anyState (ifOk ret do
      fsmTransition .protection
      return 0) (fun _ u => u.shown = s.shown) t := by
    refine wp_ifOk (fun _ => wp_bind (wp_write trivial (wp_pure ?_))) fun _ => same
    have state : NodeState.protection = t.node.state := (inForce.congr same).state.symm
    exact (congrArg (fun st => (st, t.blocked, t.node.pduMut)) state).trans same
  refine wp_bind (wp_read (wp_ite (fun blocked => ?_) fun open_ => absurd ?_ open_))
  swap
  · rw [flag, inForce.blocked]
  -- the PDU is the one that is sent and the other port is open
  have sends (ret : Int) : wp good anyState (ifOk ret (nodeSchedTx rapsSf 0 rapsDnf))
      (fun _ t => t.shown = s.shown) s :=
    wp_ifOk (fun _ => nodeSchedTx_shown inForce.pdu) fun _ => rfl
  rw [if_pos blocked]
  refine wp_bind (wp_pure (wp_bind (wp_mono (sends _) fun ret t same => ?_)))
  have opens : wp good anyState (ifOk ret (linkUnblock lnk.other)) (fun _ u => u.shown = s.shown) t :=
    wp_ifOk (fun _ => wp_mono (linkUnblock_shown (inForce.congr same).other)
      fun _ u same' => same'.trans same) fun _ => same
  refine wp_bind (wp_mono opens fun ret u same => ?_)
  refine wp_ite (fun _ => ?_) fun _ => wp_bind (wp_pure (last same ret))
  exact wp_bind (wp_mono (flushes.ends u) fun ret v same' => last (same'.trans same) ret)

theorem fails_shown {lnk : PortIdx} (spent : s.Spent (.linkDown lnk)) :
    wp good anyState (fsmPost lnk .sf none) (fun _ u => u.shown = s.shown) s := by
  refine offPriority_shown.post (fun _ u same => congrArg Prod.fst same) ?_
  intro passes u same state
  have shown : u.shown = s.shown := congrArg Prod.fst same
  rcases spent passes with forced | uninit | inForce
  · rw [forced]
    exact wp_pure shown
  · rw [uninit]
    exact wp_pure shown
  · rw [inForce.state]
    refine wp_mono (fsmSf_shown (inForce.congr shown)) fun _ v same' => ?_
    exact same'.trans shown

theorem Sys.Spent.harmless {t : Expiry} (spent : s.Spent t) : s.Harmless t := by
  have finishes : Frames anyAnswer Sys.shown t.finish := frames_write fun s => by
    cases t with
    | wtr | wtb => rfl
    | linkDown lnk => cases lnk <;> rfl
  have handler : wp anyAnswer anyState t.handler (fun _ u => u.shown = s.shown) s := by
    cases t with
    | wtr =>
      have expires : ¬(s.ctl.Passes Timer.wtr.expires ∧ _) := spent
      exact wp_bind (wp_mono (expires_shown expires) fun _ _ same => wp_pure same)
    | wtb =>
      have expires : ¬(s.ctl.Passes Timer.wtb.expires ∧ _) := spent
      exact wp_bind (wp_mono (expires_shown expires) fun _ _ same => wp_pure same)
    | linkDown lnk =>
      refine wp_bind (wp_read (wp_bind (wp_bind (wp_call fun found _ => wp_pure ?_))))
      refine wp_ite (fun _ => ?_) fun _ => wp_pure rfl
      exact wp_bind (wp_mono (fails_shown spent) fun _ _ same => wp_pure same)
  intro ans
  have handles : wp anyAnswer anyState t.handle (fun _ u => u.shown = s.shown) s :=
    wp_bind (wp_mono handler fun _ u same => wp_mono (finishes.ends u) fun _ v same' =>
      same'.trans same)
  exact handles.post ans (respects_any ans)

/-! ### Any other does something when all calls succeed -/

namespace Ctl

variable {c : Ctl} {o : Seen}

def shown (c : Ctl) : NodeState × Ports Bool × RapsPduMut := (c.state, c.blocked, ⟨c.rsSc, c.status⟩)

theorem expires_idle {t : Timer} (passes : c.Passes t.expires) (state : c.state = .pending)
    (owner : c.role = .owner) : (c.post o .port0 t.expires).state = .idle := by
  rw [post, if_pos passes]
  cases t <;> simp [Timer.expires, ignores, react, take, state, postPending, timerExpiresPending,
    owner, goto]

end Ctl

theorem Sys.shown_eq (s : Sys) : s.shown = s.ctl.shown := rfl

/-- In a well-formed node, a handler is harmless exactly if it is spent. -/
theorem Sys.harmless_iff (formed : s.setup.WellFormed) (t : Expiry) : s.Harmless t ↔ s.Spent t := by
  refine ⟨fun harmless => ?_, fun spent => spent.harmless⟩
  -- the state machine says what one harmless run, with all calls succeeding, means
  have same : (s.ctl.handle (s.setup.seen (.handle t)) t).shown = s.ctl.shown := by
    have unchanged : (s.step (.handle t, allSucceed)).shown = s.shown := harmless allSucceed
    have succeeds : Step.Succeeds (Event.handle t, allSucceed) := allSucceed_respects
    rwa [Sys.shown_eq, Sys.shown_eq, Sys.step_ctl formed succeeds] at unchanged
  have state : (s.ctl.handle (s.setup.seen (.handle t)) t).state = s.node.state :=
    congrArg Prod.fst same
  generalize s.setup.seen (.handle t) = o at same state
  have expires (u : Timer) (handles : (s.ctl.handle o t).state =
      (s.ctl.post o .port0 u.expires).state) :
      ¬(s.ctl.Passes u.expires ∧ s.node.state = .pending ∧ s.node.rplOwner = true) := by
    rintro ⟨passes, pending, owner⟩
    rw [Sys.owner_eq] at owner
    -- the expiry would have led from pending to idle
    rw [handles, Ctl.expires_idle passes pending (beq_iff_eq.mp owner), pending] at state
    cases state
  cases t with
  | wtr => exact expires .wtr rfl
  | wtb => exact expires .wtb rfl
  | linkDown lnk =>
    intro passes
    by_cases forced : s.node.state = .forcedSwitch
    · exact .inl forced
    by_cases uninit : s.node.state = .uninit
    · exact .inr (.inl uninit)
    obtain ⟨protection, blocked, other, rsSc, status⟩ :=
      Ctl.fails_protects o lnk passes forced uninit
    -- what the failure leads to is what there was
    have ports : (s.ctl.post o lnk .sf).blocked = s.blocked := congrArg (fun v => v.2.1) same
    have pdu : (⟨(s.ctl.post o lnk .sf).rsSc, (s.ctl.post o lnk .sf).status⟩ : RapsPduMut) =
        s.node.pduMut := congrArg (fun v => v.2.2) same
    rw [ports] at blocked other
    have blocked' : s.ctl.blocked.get lnk = true := blocked
    rw [blocked', if_pos rfl] at status
    rw [rsSc, status] at pdu
    exact .inr (.inr ⟨state.symm.trans protection, blocked, other, pdu.symm⟩)

/-! ### Runs -/

theorem Sys.stepEnabled_formed {x : Step} (formed : s.setup.WellFormed) :
    (s.stepEnabled x).setup.WellFormed := by
  unfold Sys.stepEnabled
  split
  · exact ((event_happens s x.1 formed).post x.2 (respects_any x.2)).1
  · exact formed

/-- All along a run, whatever the calls answer, late handlers are harmless if and only if
they are spent. -/
theorem late_harmless_iff {s : Sys} {xs : List Step} (init : InitialisedWith anyAnswer s) :
    EachState Sys.stepEnabled s xs (fun _ t => ∀ e, t.Late e → t.Harmless e) ↔
      EachState Sys.stepEnabled s xs fun _ t => ∀ e, t.Late e → t.Spent e := by
  have formed : EachState Sys.stepEnabled s xs fun _ t => t.setup.WellFormed :=
    eachState_of_eachStep init.formed (C := fun _ _ _ => True) (fun _ _ _ => trivial)
      fun _ _ _ _ _ before => Sys.stepEnabled_formed before
  constructor
  · intro harmless pre member e late
    exact (Sys.harmless_iff (formed pre member) e).mp (harmless pre member e late)
  · intro spent pre member e late
    exact (spent pre member e late).harmless

/-- WTR fires, and while its handler waits the RPL owner is in protection and back. -/
def sampleLateRun : List Step :=
  succeeding [.fire .wtr, .ctl .port0 .signalFail, .ctl .port0 .clearSignalFail]

theorem late_harmless_iff_owner :
    let s := (sampleNode true false (sampleDevice 0 1) (sampleDevice 1 2)).started
    EachState Sys.stepEnabled s sampleLateRun (fun _ t => ∀ e, t.Late e → t.Harmless e) ↔
      EachState Sys.stepEnabled s sampleLateRun fun _ t => ∀ e, t.Late e → t.Spent e :=
  late_harmless_iff (DtNode.started_initialised _).any

/-- The ring reverts at once, without waiting to restore. -/
theorem late_expiry_reverts : ¬∀ (s : Sys) (xs : List Step), InitialisedWith anyAnswer s →
    EachState Sys.stepEnabled s xs fun _ t => ∀ e, t.Late e → t.Harmless e := by
  intro harmless
  have last := (harmless (sampleNode true false (sampleDevice 0 1) (sampleDevice 1 2)).started
    sampleLateRun (DtNode.started_initialised _).any).last .wtr ⟨by decide, by decide⟩ allSucceed
  exact absurd (congrArg Prod.fst last) (by decide)

end Erps
