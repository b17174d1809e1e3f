import Erps.Ctl.Guards
import Erps.Properties.Acceptance
import Erps.Properties.GuardPeriod
import Erps.Protocol
import Erps.Sending
import Erps.Wire

/-!
# Nodes as stations

What the protocol keeps of a node, and what a step of the node does to it when all calls
succeed: an event, a frame that is received, the TX work of a link, time that passes.
-/
namespace Erps

open Calls Packed

/-- What is left of the guard timer. -/
def Guard.left (g : Guard) : Nat := g.expiry - g.uptime

theorem Guard.start_left (g : Guard) : g.start.left = g.duration.toNat := by
  simp [Guard.start, Guard.left]

theorem Guard.expired_iff (g : Guard) : g.expired = true ↔ g.left = 0 := by
  simp only [Guard.expired, Guard.left, decide_eq_true_eq]
  omega

/-- What the protocol keeps of a node. -/
def Sys.station (s : Sys) : Station where
  ctl := s.ctl
  nodeId := s.nodeId
  guardTimerDuration := s.guard.duration.toNat
  guard := s.guard.left

section
variable {s t : Sys} {lnk : PortIdx} {pdu : RapsPdu}

theorem Sys.station_eq {a : Station} (ctl : t.ctl = a.ctl) (nodeId : t.nodeId = a.nodeId)
    (duration : t.guard.duration.toNat = a.guardTimerDuration) (guard : t.guard.left = a.guard) :
    t.station = a := by
  cases a
  simp only [Sys.station, ctl, nodeId, duration, guard]

theorem Sys.nodeId_setup (same : t.setup = s.setup) : t.nodeId = s.nodeId :=
  congrArg (fun u => u.dev.port0.addr) same

/-! ## Events -/

/-- An event of the node starts the guard timer exactly if the request it posts does. -/
theorem event_guards (s : Sys) {e : Event} (own : e.isOwn = true) :
    wp Success anyState e.prog (fun _ t => t.guard = match e.posts with
      | some (_, req) => if s.ctl.startsGuard req then s.guard.start else s.guard
      | none => s.guard) s := by
  have fires {t : Expiry} : Frames Success Sys.guard t.fire := frames_write fun s => by
    cases t with
    | wtr | wtb => rfl
    | linkDown lnk => cases lnk <;> rfl
  -- none of the timers posts what starts the guard timer
  have calm {req : Request} (never : ∀ st : NodeState, st.startsGuard req = false) :
      ¬s.ctl.startsGuard req := fun starts => by simpa [never] using starts.2.1
  have quiet (t : Expiry) : (match (Event.expiry t).posts with
      | some (_, req) => if s.ctl.startsGuard req then s.guard.start else s.guard
      | none => s.guard) = s.guard := by
    cases t <;> exact if_neg (calm fun st => by cases st <;> rfl)
  cases e with
  | ctl lnk ev =>
    exact wp_bind (wp_mono (fsmPost_guards s) fun _ t same => wp_pure same)
  | raps lnk req pdu => cases own
  | elapse ms => cases own
  | expiry t =>
    refine wp_bind (wp_mono (fires.ends s) fun _ u same => wp_mono (handle_guard u t) ?_)
    intro _ v same'
    rw [quiet, same', same]
  | fire t => exact wp_mono (fires.ends s) fun _ u same => same
  | handle t =>
    refine wp_mono (handle_guard s t) fun _ u same => ?_
    exact same.trans (quiet t).symm
  | iface lnk up =>
    unfold Event.prog
    exact wp_write trivial rfl

/-! ## Reception -/

/-- The filter leaves alone what neither a flush nor a change of a (node ID, BPR) pair
touches. -/
theorem erpsFilter_still {good : KernelCall → Int → Prop} {α : Type} {view : Sys → α}
    {pkt : NetPkt}
    (pair : ∀ (s : Sys) lnk bpr (nodeId : Link → EthAddr), view (s.modLink lnk fun l =>
      { l with bpr := bpr, lastNodeId := nodeId l }) = view s)
    (flush : ∀ s : Sys, view { s with fdbFlushes := s.fdbFlushes + 1 } = view s) :
    Frames good view (erpsFilter lnk pkt) := by
  have flushes : Frames good view (flushFdb lnk) := flushFdb_frames flush
  have replaces {req : Request} {pdu : RapsPdu} :
      Frames good view (rapsNodeIdBprFlush lnk req pdu) := by
    refine frames_ite (fun _ => ?_) fun _ => frames_read.bind fun l => ?_
    · exact Frames.bind (frames_write fun s => pair s _ _ _) fun _ => frames_pure
    refine frames_ite (fun _ => frames_pure) fun _ => ?_
    refine Frames.bind (frames_write fun s => pair s _ _ _) fun _ => ?_
    refine linkGetNodeId_frames.bind fun id => frames_ite (fun _ => frames_pure) fun _ => ?_
    refine frames_ite (fun _ => frames_pure) fun _ => frames_read.bind fun other => ?_
    exact frames_ite (fun _ => flushes) fun _ => frames_pure
  have handles {pdu : RapsPdu} : Frames good view (handleRapsEvent lnk pdu) :=
    frames_ite (fun _ => frames_pure) fun _ => frames_ite (fun _ => frames_pure) fun _ => flushes
  have filters {pdu : RapsPdu} : Frames good view (rapsFilter lnk pdu) := by
    refine frames_read.bind fun n => frames_ite (fun _ => frames_pure) fun _ => ?_
    refine frames_ite (fun _ => handles.bind fun _ => frames_pure) fun _ => ?_
    cases rapsRequest n.rapsVer pdu with
    | none => exact frames_pure
    | some req =>
      refine frames_read.bind fun expired => frames_ite (fun _ => frames_pure) fun _ => ?_
      exact replaces.bind fun _ => frames_pure
  refine frames_ite (fun _ => ethRead_frames.bind fun got => ?_) fun _ => frames_pure
  rcases got with ⟨_ | pdu, rest⟩
  · exact frames_pure
  · refine Frames.bind (isLocalRapsFrame_frames.bind fun own => ?_) fun _ => frames_pure
    exact frames_ite (fun _ => frames_pure) fun _ => filters

/-- What a reception may change, with what it depends on. -/
def Sys.seenThrough (s : Sys) : (Ctl × Setup) × Guard := ((s.ctl, s.setup), s.guard)

theorem erpsFilter_seenThrough {pkt : NetPkt} :
    Frames Success Sys.seenThrough (erpsFilter lnk pkt) := by
  refine erpsFilter_still (fun s lnk bpr nodeId => ?_) fun _ => rfl
  have ctl : (s.modLink lnk fun l => { l with bpr := bpr, lastNodeId := nodeId l }).ctl = s.ctl := by
    cases lnk <;> rfl
  have setup := s.modLink_setup lnk (fun l => { l with bpr := bpr, lastNodeId := nodeId l })
    fun _ => ⟨rfl, rfl⟩
  have guard : (s.modLink lnk fun l => { l with bpr := bpr, lastNodeId := nodeId l }).guard = s.guard :=
    rfl
  simp only [Sys.seenThrough, ctl, setup, guard]

/-- The frame is one of another node of the ring, and its request reaches the state machine. -/
structure Sys.Takes (s : Sys) (dev : Device) (pkt : NetPkt) (lnk : PortIdx) (req : RapsRequest)
    (pdu : RapsPdu) : Prop where
  link : s.node.linkLookupByIface dev = some lnk
  frame : ∃ hdr, Frame s pkt hdr pdu
  asks : Requests s pdu req

/-- With every call succeeding, a frame changes nothing, or its request is posted. -/
theorem erpsRecv_takes {dev : Device} {pkt : NetPkt} (s : Sys) (formed : s.setup.WellFormed) :
    wp Success anyState (erpsRecv dev pkt) (fun _ t => t.setup = s.setup ∧
      ((t.ctl = s.ctl ∧ t.guard = s.guard ∧ ∀ lnk req pdu, ¬s.Takes dev pkt lnk req pdu) ∨
        ∃ lnk req pdu, s.Takes dev pkt lnk req pdu ∧
          t.ctl = s.ctl.post (s.setup.seenWith (some pdu)) lnk req.request ∧
          t.guard = if s.ctl.startsGuard req.request then s.guard.start else s.guard)) s := by
  rw [erpsRecv_eq]
  refine wp_bind (wp_read ?_)
  cases link : s.node.linkLookupByIface dev with
  | none =>
    refine wp_pure ⟨rfl, .inl ⟨rfl, rfl, fun lnk req pdu takes => ?_⟩⟩
    exact absurd (link.symm.trans takes.link) (by simp)
  | some lnk =>
    have readable := success_readable s.node.ports.port0.dev
    have filters := (erpsFilter_outcome s lnk pkt readable).and (erpsFilter_seenThrough.ends s)
    refine wp_bind (wp_mono filters ?_)
    rintro ⟨res, after⟩ t ⟨outcome, seen⟩
    obtain ⟨⟨ctl, setup⟩, guard⟩ : (t.ctl = s.ctl ∧ t.setup = s.setup) ∧ t.guard = s.guard := by
      simpa only [Sys.seenThrough, Prod.mk.injEq] using seen
    rcases outcome with ⟨req, hdr, pdu, rfl, frame, asks⟩ | ⟨v, rfl, verdict⟩
    · have valid : req.request ≠ .invalid := by cases req <;> decide
      have posts := (fsmPost_leads t lnk req.request (some pdu) (fun _ => rfl) valid
        (setup ▸ formed)).and (fsmPost_guards t)
      refine wp_bind (wp_bind (wp_mono posts ?_))
      rintro ret u ⟨⟨-, posted, setup'⟩, guard'⟩
      refine wp_pure (wp_pure ⟨setup'.trans setup, .inr ⟨lnk, req, pdu, ⟨link, ⟨hdr, frame⟩, asks⟩, ?_, ?_⟩⟩)
      · rw [posted, ctl, setup]
      · rw [guard', ctl, guard]
    · refine wp_bind (wp_pure (wp_pure ⟨setup, .inl ⟨ctl, guard, fun l req pdu takes => ?_⟩⟩))
      obtain ⟨hdr, frame⟩ := takes.frame
      exact verdict.noRequest req ⟨hdr, pdu, frame, takes.asks⟩

theorem NamedBy.same {ver ver' : UInt8} {pdu : RapsPdu} {req req' : RapsRequest}
    (h : NamedBy ver pdu req) (h' : NamedBy ver' pdu req') : req = req' := by
  have apart := Ctl.reqState_ne
  cases h <;> cases h' <;> first | rfl | simp_all

/-- A node takes one request from a frame, on one link. -/
theorem Sys.Takes.unique {s : Sys} {dev : Device} {pkt : NetPkt} {lnk lnk' : PortIdx}
    {req req' : RapsRequest} {pdu pdu' : RapsPdu} (h : s.Takes dev pkt lnk req pdu)
    (h' : s.Takes dev pkt lnk' req' pdu') : lnk = lnk' ∧ req = req' ∧ pdu = pdu' := by
  obtain ⟨hdr, frame⟩ := h.frame
  obtain ⟨hdr', frame'⟩ := h'.frame
  obtain ⟨rfl, rfl⟩ := frame.unique frame'.whole
  exact ⟨Option.some.inj (h.link.symm.trans h'.link), h.asks.named.same h'.asks.named, rfl⟩

/-- What a node takes is posted. -/
theorem erpsRecv_posts {dev : Device} {pkt : NetPkt} {req : RapsRequest} {pdu : RapsPdu} (s : Sys)
    (formed : s.setup.WellFormed) (takes : s.Takes dev pkt lnk req pdu) :
    wp Success anyState (erpsRecv dev pkt)
      (fun _ t => t.ctl = s.ctl.post (s.setup.seenWith (some pdu)) lnk req.request) s := by
  refine wp_mono (erpsRecv_takes s formed) ?_
  rintro _ t ⟨-, ⟨-, -, none⟩ | ⟨lnk', req', pdu', takes', ctl, -⟩⟩
  · exact absurd takes (none lnk req pdu)
  · obtain ⟨rfl, rfl, rfl⟩ := takes.unique takes'
    exact ctl

/-! ## Transmission -/

/-- The octets a node hands to its interface. -/
def Sys.sends (s : Sys) (padRapsPdus : Bool) (buf : RapsPdu) : List UInt8 :=
  rapsPduLayout.bytes (s.filled buf) ++ padding padRapsPdus

theorem linkSendPdu_notes {pad : Bool} {buf : RapsPdu} {dev : Device} (s : Sys) :
    wp Success anyState (linkSendPdu pad buf lnk dev)
      (fun _ t => t = s.note (.sent lnk (s.sends pad buf))) s := by
  refine wp_bind (wp_call fun pkt found => wp_ite (fun none => absurd none found) fun _ => ?_)
  refine wp_bind (wp_call fun ret copied => wp_bind (wp_read ?_))
  refine wp_bindIte (wp_ite (fun _ => wp_call fun ret set => ?_) fun failed => absurd copied failed)
  refine wp_ite (fun failed => absurd set failed) fun _ => ?_
  have creates := (rapsCreatePkt_succeeds s).and (rapsCreatePkt_octets s pad buf .empty)
  refine wp_bind (wp_mono creates ?_)
  rintro ⟨ret, pkt⟩ t ⟨⟨rfl, rfl⟩, octets, -⟩
  refine wp_ifOk (fun _ => ?_) fun failed => absurd rfl failed
  refine wp_bind (wp_call fun vdct passed => wp_ite (fun drop => absurd drop passed) fun _ => ?_)
  refine wp_bind (wp_write trivial (wp_pure ?_))
  have octets_eq : pkt.octets = t.sends pad buf := octets rfl
  rw [octets_eq]

/-- The interface of the link is up. -/
def Sys.linkUp (s : Sys) (lnk : PortIdx) : Bool := (s.hw (s.link lnk).dev).ifUp

theorem linkTxSinglePdu_notes {pad : Bool} {buf : RapsPdu} (s : Sys) :
    wp Success anyState (linkTxSinglePdu pad buf lnk)
      (fun _ t => t = if s.linkUp lnk then s.note (.sent lnk (s.sends pad buf)) else s) s := by
  refine wp_bind (wp_read (wp_bind (wp_lookup (wp_ite (by simp) fun _ => wp_bind (wp_read ?_)))))
  have up_eq : (true && (s.hw (s.link lnk).dev).ifUp) = s.linkUp lnk := rfl
  rw [up_eq]
  refine wp_ite (fun down => wp_pure ?_) fun up => ?_
  · have down' : ¬s.linkUp lnk = true := by simpa using down
    exact (if_neg down').symm
  · have up' : s.linkUp lnk = true := by simpa using up
    refine wp_bind (wp_read (wp_bind (wp_vlanIface (wp_bind (wp_mono (linkSendPdu_notes s) ?_)))))
    rintro ret t rfl
    exact wp_pure (if_pos up').symm

/-- After the TX work, which counts the burst and is scheduled again. -/
def Sys.worked (u : Sys) (lnk : PortIdx) (burst : Link → UInt8) (delay : Nat) : Sys :=
  ((u.modLink lnk fun l => { l with txBurst := burst l }).modWork (.tx lnk) fun d =>
    { d with timeout := some delay }).modWork (.tx lnk) fun d => { d with running := false }

theorem work_setup (v : Sys) (g : DelayableWork → DelayableWork) :
    (v.modWork (.tx lnk) g).setup = v.setup :=
  v.modLink_setup lnk (fun l => { l with txDwork := g l.txDwork }) fun _ => ⟨rfl, rfl⟩

theorem worked_setup (u : Sys) (burst : Link → UInt8) (delay : Nat) :
    (u.worked lnk burst delay).setup = u.setup := by
  unfold Sys.worked
  rw [work_setup, work_setup]
  exact u.modLink_setup lnk _ fun _ => ⟨rfl, rfl⟩

theorem worked_ctl (u : Sys) (burst : Link → UInt8) (delay : Nat) : (u.worked lnk burst delay).ctl =
    { u.ctl with tx := u.ctl.tx.modify (fun _ => true) lnk } := by
  cases lnk <;> rfl

theorem worked_guard (u : Sys) (burst : Link → UInt8) (delay : Nat) :
    (u.worked lnk burst delay).guard = u.guard := by
  cases lnk <;> rfl

theorem worked_log (u : Sys) (burst : Link → UInt8) (delay : Nat) :
    (u.worked lnk burst delay).log = u.log := by
  cases lnk <;> rfl

/-- The TX work has been taken from the queue. -/
def Sys.fired (s : Sys) (lnk : PortIdx) : Sys :=
  (s.modWork (.tx lnk) fun _ => ⟨none, true⟩).note (.fire (.tx lnk))

theorem fired_sends (s : Sys) (pad : Bool) (buf : RapsPdu) :
    (s.fired lnk).sends pad buf = s.sends pad buf := by
  cases lnk <;> rfl

theorem fired_up (s : Sys) : (s.fired lnk).linkUp lnk = s.linkUp lnk := by
  cases lnk <;> rfl

/-- What the TX work of a link puts on the wire, if it runs. -/
def Sys.puts (s : Sys) (lnk : PortIdx) (pad : Bool) (buf : RapsPdu) : List (List UInt8) :=
  if (s.link lnk).txDwork.scheduled ∧ s.linkUp lnk then [s.sends pad buf] else []

theorem sentSince_self (s : Sys) : s.sentSince s = [] := by simp [Sys.sentSince]

theorem sentSince_append {new : List NodeOp} (same : t.log = new ++ s.log) :
    t.sentSince s = new.filterMap NodeOp.octets? := by
  unfold Sys.sentSince
  rw [same, List.length_append, Nat.add_sub_cancel, List.take_left]

/-- A node whose TX work has run, and has sent or not, looks the same. -/
theorem worked_same {v : Sys} (scheduled : (s.link lnk).txDwork.scheduled = true)
    (noted : v = s.fired lnk ∨ ∃ op, v = (s.fired lnk).note op) (burst : Link → UInt8) (delay : Nat) :
    (v.worked lnk burst delay).ctl = s.ctl ∧ (v.worked lnk burst delay).setup = s.setup ∧
      (v.worked lnk burst delay).guard = s.guard := by
  have tx : s.ctl.tx.get lnk = true := by cases lnk <;> exact scheduled
  have ctl : { v.ctl with tx := v.ctl.tx.modify (fun _ => true) lnk } =
      { s.ctl with tx := s.ctl.tx.modify (fun _ => true) lnk } := by
    rcases noted with rfl | ⟨op, rfl⟩ <;> cases lnk <;> rfl
  rw [worked_ctl, worked_setup, worked_guard, ctl, Ports.modify_same tx]
  refine ⟨rfl, ?_, ?_⟩
  · rcases noted with rfl | ⟨op, rfl⟩ <;> exact work_setup s _
  · rcases noted with rfl | ⟨op, rfl⟩ <;> cases lnk <;> rfl

theorem worked_puts {v : Sys} {pad : Bool} {buf : RapsPdu}
    (scheduled : (s.link lnk).txDwork.scheduled = true)
    (sent : v = if s.linkUp lnk then (s.fired lnk).note (.sent lnk (s.sends pad buf)) else s.fired lnk)
    (burst : Link → UInt8) (delay : Nat) :
    (v.worked lnk burst delay).ctl = s.ctl ∧ (v.worked lnk burst delay).setup = s.setup ∧
      (v.worked lnk burst delay).guard = s.guard ∧
        (v.worked lnk burst delay).sentSince s = s.puts lnk pad buf := by
  by_cases up : s.linkUp lnk = true
  · rw [if_pos up] at sent
    obtain ⟨ctl, setup, guard⟩ := worked_same scheduled (.inr ⟨_, sent⟩) burst delay
    have log : (v.worked lnk burst delay).log =
        [.sent lnk (s.sends pad buf), .fire (.tx lnk)] ++ s.log := by
      rw [worked_log, sent]
      rfl
    refine ⟨ctl, setup, guard, ?_⟩
    rw [sentSince_append log, Sys.puts, if_pos ⟨scheduled, up⟩]
    rfl
  · rw [if_neg up] at sent
    obtain ⟨ctl, setup, guard⟩ := worked_same scheduled (.inl sent) burst delay
    have log : (v.worked lnk burst delay).log = [.fire (.tx lnk)] ++ s.log := by
      rw [worked_log, sent]
      rfl
    refine ⟨ctl, setup, guard, ?_⟩
    rw [sentSince_append log, Sys.puts, if_neg fun both => up both.2]
    rfl

/-- The TX work puts one frame on the wire, if it is scheduled and the interface is up, and
changes nothing else. -/
theorem runTxWork_puts {pad : Bool} {buf : RapsPdu} (s : Sys) :
    wp Success anyState (runTxWork pad buf lnk) (fun _ t => t.ctl = s.ctl ∧ t.setup = s.setup ∧
      t.guard = s.guard ∧ t.sentSince s = s.puts lnk pad buf) s := by
  refine wp_bind (wp_read (wp_ite (fun scheduled => wp_bind (wp_write trivial ?_)) fun idle =>
    wp_pure ⟨rfl, rfl, rfl, ?_⟩))
  swap
  · rw [sentSince_self, Sys.puts, if_neg fun both => idle both.1]
  have fired : (s.modWork (.tx lnk) fun _ => ⟨none, true⟩).note (.fire (.tx lnk)) = s.fired lnk := rfl
  rw [fired]
  refine wp_bind (wp_bind (wp_mono (linkTxSinglePdu_notes (s.fired lnk)) ?_))
  rw [fired_sends, fired_up]
  rintro _ u sent
  refine wp_bind (wp_read (wp_bind (wp_write trivial (wp_bind (wp_reschedule fun _ _ => wp_pure ?_)))))
  -- the count of the burst, whatever it is
  have counts : (fun l : Link => if l.txBurst ≠ 0 then { l with txBurst := l.txBurst - 1 } else l) =
      fun l => { l with txBurst := if l.txBurst ≠ 0 then l.txBurst - 1 else l.txBurst } := by
    funext l
    split <;> rfl
  rw [counts]
  exact wp_write trivial (worked_puts scheduled sent _ _)

/-! ## Stations -/

/-- An event of the node is the same event of the station. -/
theorem station_event {x : Step} (formed : s.setup.WellFormed) (succeeds : x.Succeeds)
    (own : x.1.isOwn = true) : (s.step x).station = s.station.act s.setup.up x.1 := by
  have ctl := Sys.step_ctl formed succeeds
  have guards := (event_guards s own).post x.2 succeeds
  have seen : s.setup.seen x.1 = ⟨false, s.setup.up⟩ := by
    cases event : x.1 <;> rw [event] at own <;> first | rfl | cases own
  have nodeId : (s.step x).nodeId = s.nodeId := by
    obtain ⟨e, ans⟩ := x
    by_cases iface : ∃ lnk up, e = .iface lnk up
    · obtain ⟨lnk, up, rfl⟩ := iface
      rfl
    · exact Sys.nodeId_setup (Sys.step_setup formed succeeds fun lnk up same => iface ⟨lnk, up, same⟩)
  have guard : (s.step x).guard.duration = s.guard.duration ∧
      (s.step x).guard.left = (s.station.act s.setup.up x.1).guard := by
    have same : (s.step x).guard = _ := guards
    rw [same]
    unfold Station.act
    cases x.1.posts with
    | none => exact ⟨rfl, rfl⟩
    | some posted =>
      obtain ⟨lnk, req⟩ := posted
      have left : s.station.guardAfter req =
          if s.ctl.startsGuard req then s.guard.duration.toNat else s.guard.left := rfl
      simp only [left]
      split
      · exact ⟨rfl, s.guard.start_left⟩
      · exact ⟨rfl, rfl⟩
  refine Sys.station_eq ?_ nodeId (congrArg UInt16.toNat guard.1) guard.2
  rw [ctl, seen]
  rfl

theorem station_elapse (ms : Nat) :
    (s.step (.elapse ms, allSucceed)).station = s.station.wait ms := by
  refine Sys.station_eq rfl rfl rfl ?_
  change s.node.guardTimerExpiry - (s.uptime + ms) = s.node.guardTimerExpiry - s.uptime - ms
  omega

theorem station_same (ctl : t.ctl = s.ctl) (setup : t.setup = s.setup) (guard : t.guard = s.guard) :
    t.station = s.station :=
  Sys.station_eq ctl (Sys.nodeId_setup setup) (by rw [guard]; rfl) (by rw [guard]; rfl)

end

end Erps
