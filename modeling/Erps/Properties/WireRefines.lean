import Erps.Nets.Simulation
import Erps.Properties.Election
import Erps.Properties.LoopFree
import Erps.Properties.Stations

/-!
# The wire refines the protocol

Every run of a ring on the wire in which all calls succeed is a run of the protocol: a frame
is a message, and what a node makes of a frame it receives is what it makes of the message,
or nothing.
-/
namespace Erps

open Calls Packed Runs

/-! ## Frames -/

/-- The frame carries the message, behind some header. -/
structure Flight.Carries (f : Flight) (m : Message) : Prop where
  age : f.age = m.age
  pdu : ∃ hdr pdu, f.pkt.frame = some (hdr, pdu) ∧ pdu.rapsInfo.nodeId = m.nodeId ∧
    ∃ ver, NamedBy ver pdu m.req

/-- A frame says one thing only. -/
theorem Flight.Carries.req_eq {f : Flight} {m m' : Message} (h : f.Carries m) (h' : f.Carries m') :
    m.req = m'.req := by
  obtain ⟨hdr, pdu, frame, -, ver, named⟩ := h.pdu
  obtain ⟨hdr', pdu', frame', -, ver', named'⟩ := h'.pdu
  obtain rfl : pdu = pdu' := (Prod.mk.inj (Option.some.inj (frame.symm.trans frame'))).2
  exact named.same named'

/-- The frame at a place carries the message at that place. -/
theorem carried {fs : List Flight} {ms : List Message} {k : Nat} {f : Flight}
    (matched : List.Forall₂ Flight.Carries fs ms) (found : fs[k]? = some f) :
    ∃ m, ms[k]? = some m ∧ f.Carries m := by
  obtain ⟨here, rfl⟩ := List.getElem?_eq_some_iff.mp found
  have here' : k < ms.length := matched.length_eq ▸ here
  exact ⟨ms[k], List.getElem?_eq_getElem here', matched.get here here'⟩

/-- The message at a place is carried by the frame at that place. -/
theorem carrier {fs : List Flight} {ms : List Message} {k : Nat} {m : Message}
    (matched : List.Forall₂ Flight.Carries fs ms) (found : ms[k]? = some m) :
    ∃ f, fs[k]? = some f ∧ f.Carries m := by
  obtain ⟨here, rfl⟩ := List.getElem?_eq_some_iff.mp found
  have here' : k < fs.length := matched.length_eq ▸ here
  exact ⟨fs[k], List.getElem?_eq_getElem here', matched.get here' here⟩

theorem exists_carried {fs : List Flight} {P : Message → Prop}
    (each : ∀ f ∈ fs, ∃ m, f.Carries m ∧ P m) :
    ∃ ms, List.Forall₂ Flight.Carries fs ms ∧ ∀ m ∈ ms, P m := by
  induction fs with
  | nil => exact ⟨[], .nil, by simp⟩
  | cons f fs ih =>
    obtain ⟨m, carries, holds⟩ := each f List.mem_cons_self
    obtain ⟨ms, matched, all⟩ := ih fun g member => each g (List.mem_cons_of_mem f member)
    refine ⟨m :: ms, .cons carries matched, fun m' member => ?_⟩
    rcases List.mem_cons.mp member with rfl | later
    · exact holds
    · exact all m' later

/-- A request/state that names a request is announced. -/
theorem Ctl.Names.announces {c : Ctl} (names : c.Names) : ∃ req, c.announced = some req := by
  unfold Ctl.announced
  obtain nr | sf | ms | fs : _ ∨ _ ∨ _ ∨ _ := by
    simpa only [Ctl.Names, List.mem_cons, List.not_mem_nil, or_false] using names
  · exact ⟨_, if_pos nr⟩
  · exact ⟨.sf, by rw [sf]; rfl⟩
  · exact ⟨.ms, by rw [ms]; rfl⟩
  · exact ⟨.fs, by rw [fs]; rfl⟩

/-- What a node hands to its interface carries what it announces. -/
theorem carries_sends {s : Sys} {pad : Bool} {buf : RapsPdu} {hdr : NetEthVlanHdr}
    {req : RapsRequest} (announced : s.ctl.announced = some req) :
    Flight.Carries ⟨vlanHdrLayout.bytes hdr ++ s.sends pad buf, 0⟩ ⟨s.nodeId, req, 0⟩ := by
  refine ⟨rfl, hdr, s.filled buf, ?_, rfl, 1, ?_⟩
  · have split : (Flight.pkt ⟨vlanHdrLayout.bytes hdr ++ s.sends pad buf, 0⟩).ahead =
        (vlanHdrLayout.andThen rapsPduLayout).bytes (hdr, s.filled buf) ++ padding pad :=
      (List.append_assoc _ _ _).symm
    exact (NetPkt.ahead_read split).1
  · have version2 : (1 : UInt8) ≠ erpsRapsVer1 := by decide
    have rb : (s.filled buf).rb = (s.node.pduMut.status &&& rapsRb != 0) := (sentStatus_flags s).1
    have state : (s.filled buf).getReqState = s.ctl.rsSc >>> rapsRsShift := rfl
    have status : s.ctl.status = s.node.pduMut.status := rfl
    unfold Ctl.announced at announced
    rw [← rapsRequest_iff]
    unfold rapsRequest
    rw [state, rb, ← status]
    simp only [version2, if_false]
    rw [← announced]
    simp [bne_iff_ne]

/-! ## Rings -/

theorem Sys.setup_owner (s : Sys) (role : s.ctl.role = .owner) : s.setup.rplOwner = true :=
  s.owner_eq.trans (by simp [role])

namespace Wire

variable {n : Nat} {w : Wire n} {p : Protocol n} {x : WireStep n}

/-- The steps of a wire on which every call succeeds. Frames and time are not events of a
node. -/
def Permits : WireStep n → Prop
  | .event _ x => x.Succeeds ∧ x.1.isOwn = true
  | .transmit _ _ _ _ _ ans | .receive _ _ _ ans => Respects Success ans
  | .lose _ | .elapse _ => True

/-- A state of the protocol and what it is on the wire. -/
structure Shows (w : Wire n) (p : Protocol n) : Prop where
  formed : ∀ i, (w.nodes i).setup.WellFormed
  names : ∀ i, (w.nodes i).ctl.Names
  stations : ∀ i, p.stations i = (w.nodes i).station
  inFlight : List.Forall₂ Flight.Carries w.inFlight p.inFlight

/-- The step of the protocol that a step on the wire can be: a node may have nothing to send,
or not act on a frame. -/
inductive Matches : WireStep n → ProtocolStep n → Prop where
  | act (i : Fin n) (up : Ports Bool) (x : Step) : Matches (.event i x) (.act i up x.1)
  | announce (i : Fin n) (lnk : PortIdx) (pad : Bool) (buf : RapsPdu) (hdr : NetEthVlanHdr)
      (ans : Answers KernelCall) : Matches (.transmit i lnk pad buf hdr ans) (.announce i)
  | silent (i : Fin n) (lnk : PortIdx) (pad : Bool) (buf : RapsPdu) (hdr : NetEthVlanHdr)
      (ans : Answers KernelCall) : Matches (.transmit i lnk pad buf hdr ans) .pass
  | hear (i : Fin n) (up : Ports Bool) (lnk : PortIdx) (dev : Device) (k : Nat)
      (ans : Answers KernelCall) : Matches (.receive i dev k ans) (.hear i up lnk k)
  | ignore (i : Fin n) (dev : Device) (k : Nat) (ans : Answers KernelCall) :
      Matches (.receive i dev k ans) .pass
  | lose (k : Nat) : Matches (.lose k) (.lose k)
  | wait (ms : Nat) : Matches (.elapse ms) (.wait ms)

theorem update_nodes (w : Wire n) (i j : Fin n) (s : Sys) :
    (w.update i s).nodes j = if j = i then s else w.nodes j := by
  by_cases here : j = i
  · subst here
    simp [update]
  · simp [update, here]

/-- One node changes, on the wire and in the protocol. -/
theorem Shows.update {i : Fin n} {s : Sys} {a : Station} (h : w.Shows p) (formed : s.setup.WellFormed)
    (names : s.ctl.Names) (same : a = s.station) : (w.update i s).Shows (p.update i a) := by
  refine ⟨fun j => ?_, fun j => ?_, fun j => ?_, h.inFlight⟩ <;> rw [update_nodes]
  · split
    · exact formed
    · exact h.formed j
  · split
    · exact names
    · exact h.names j
  · by_cases here : j = i
    · subst here
      rw [if_pos rfl, Protocol.update_self, same]
    · rw [if_neg here, Protocol.update_other p _ here, h.stations j]

/-- A node that looks the same, as far as the protocol is concerned, has not changed. -/
theorem Shows.quiet {i : Fin n} {s : Sys} (h : w.Shows p) (ctl : s.ctl = (w.nodes i).ctl)
    (setup : s.setup = (w.nodes i).setup) (guard : s.guard = (w.nodes i).guard) :
    (w.update i s).Shows p := by
  have same : p.update i (p.stations i) = p := by
    simp only [Protocol.update, Function.update_eq_self]
  rw [← same]
  refine h.update (setup ▸ h.formed i) (ctl ▸ h.names i) ?_
  rw [h.stations i, station_same ctl setup guard]

theorem Shows.event {i : Fin n} {x : Step} (h : w.Shows p) (succeeds : x.Succeeds)
    (own : x.1.isOwn = true) :
    (w.step (.event i x)).Shows (p.step (.act i (w.nodes i).setup.up x.1)) := by
  refine h.update (Sys.step_formed (h.formed i) succeeds) ?_ ?_
  · rw [Sys.step_ctl (h.formed i) succeeds]
    exact (h.names i).step
  · rw [h.stations i, station_event (h.formed i) succeeds own]

theorem Shows.transmit {i : Fin n} {lnk : PortIdx} {pad : Bool} {buf : RapsPdu}
    {hdr : NetEthVlanHdr} {ans : Answers KernelCall} (h : w.Shows p) (answers : Respects Success ans) :
    ∃ y, Matches (.transmit i lnk pad buf hdr ans) y ∧ p.Permits y ∧
      (w.step (.transmit i lnk pad buf hdr ans)).Shows (p.step y) := by
  have works : wp Success anyState (runTxWork pad buf lnk) _ _ := runTxWork_puts (w.nodes i)
  obtain ⟨ctl, setup, guard, puts⟩ := works.post ans answers
  have quiet := h.quiet ctl setup guard
  by_cases runs : ((w.nodes i).link lnk).txDwork.scheduled = true ∧ (w.nodes i).linkUp lnk = true
  · rw [Sys.puts, if_pos runs] at puts
    have active : (p.stations i).ctl.txActive = true := by
      rw [h.stations i]
      have tx : (w.nodes i).ctl.tx.get lnk = true := by cases lnk <;> exact runs.1
      cases lnk
      · exact Bool.or_eq_true_iff.mpr (.inl tx)
      · exact Bool.or_eq_true_iff.mpr (.inr tx)
    refine ⟨.announce i, .announce .., active, ?_⟩
    obtain ⟨req, announced⟩ := (h.names i).announces
    have announced' : (p.stations i).ctl.announced = some req := by
      rw [h.stations i]
      exact announced
    simp only [Protocol.step, announced', step, puts]
    refine ⟨quiet.formed, quiet.names, quiet.stations, .cons ?_ h.inFlight⟩
    rw [h.stations i]
    exact carries_sends announced
  · rw [Sys.puts, if_neg runs] at puts
    refine ⟨.pass, .silent .., trivial, ?_⟩
    simp only [Protocol.step, step, puts]
    exact quiet

/-- A request that reaches the state machine is one the station listens to. -/
theorem station_takes {s t : Sys} {dev : Device} {lnk : PortIdx} {req : RapsRequest}
    {pdu : RapsPdu} {f : Flight} {m : Message} (carries : f.Carries m)
    (takes : s.Takes dev f.pkt lnk req pdu) (setup : t.setup = s.setup)
    (ctl : t.ctl = s.ctl.post (s.setup.seenWith (some pdu)) lnk req.request)
    (guard : t.guard = if s.ctl.startsGuard req.request then s.guard.start else s.guard) :
    t.station = s.station.hear s.setup.up lnk m := by
  obtain ⟨hdr, frame⟩ := takes.frame
  obtain ⟨hdr', pdu', whole, sender, ver, named⟩ := carries.pdu
  obtain rfl : pdu = pdu' := (Prod.mk.inj (Option.some.inj (frame.whole.symm.trans whole))).2
  obtain rfl : req = m.req := takes.asks.named.same named
  have listens : ¬(m.nodeId = s.station.nodeId ∨ s.station.guard ≠ 0) := by
    rintro (own | guarded)
    · exact frame.foreign (sender.trans own)
    · exact guarded (s.guard.expired_iff.mp takes.asks.unguarded)
  have outranked : s.setup.outranked pdu = decide (s.station.nodeId.toList < m.nodeId.toList) := by
    rw [Bool.eq_iff_iff, decide_eq_true_eq, Sys.outranked_iff, sender]
    rfl
  have seen : s.setup.seenWith (some pdu) =
      ⟨decide (s.station.nodeId.toList < m.nodeId.toList), s.setup.up⟩ := by
    rw [← outranked]
    rfl
  rw [Station.hear, if_neg listens]
  refine Sys.station_eq ?_ (Sys.nodeId_setup setup) ?_ ?_
  · rw [ctl, seen]
    rfl
  · rw [guard]
    split <;> rfl
  · have left : (s.station.post ⟨decide (s.station.nodeId.toList < m.nodeId.toList), s.setup.up⟩ lnk
        m.req.request).guard =
          if s.ctl.startsGuard m.req.request then s.guard.duration.toNat else s.guard.left := rfl
    rw [guard, left]
    split
    · exact s.guard.start_left
    · rfl

/-- What a node makes of a frame it makes of the message, or nothing. -/
theorem Shows.receive {i : Fin n} {dev : Device} {k : Nat} {ans : Answers KernelCall}
    (h : w.Shows p) (answers : Respects Success ans) :
    ∃ y, Matches (.receive i dev k ans) y ∧ p.Permits y ∧
      (w.step (.receive i dev k ans)).Shows (p.step y) := by
  cases found : w.inFlight[k]? with
  | none =>
    refine ⟨.pass, .ignore .., trivial, ?_⟩
    simp only [step, found]
    exact h
  | some f =>
    have receives : wp Success anyState (erpsRecv dev f.pkt) _ _ :=
      erpsRecv_takes (w.nodes i) (h.formed i)
    obtain ⟨setup, ⟨ctl, guard, -⟩ | ⟨lnk, req, pdu, takes, ctl, guard⟩⟩ := receives.post ans answers
    · refine ⟨.pass, .ignore .., trivial, ?_⟩
      simp only [step, found]
      exact h.quiet ctl setup guard
    · obtain ⟨m, found', carries⟩ := carried h.inFlight found
      refine ⟨.hear i (w.nodes i).setup.up lnk k, .hear .., trivial, ?_⟩
      simp only [step, found, Protocol.step, found']
      refine h.update (setup ▸ h.formed i) ?_ ?_
      · rw [ctl]
        exact (h.names i).post
      · rw [h.stations i]
        exact (station_takes carries takes setup ctl guard).symm

theorem Shows.lose (h : w.Shows p) (k : Nat) : (w.step (.lose k)).Shows (p.step (.lose k)) := by
  refine ⟨h.formed, h.names, h.stations, ?_⟩
  simp only [step, Protocol.step, List.eraseIdx_eq_take_drop_succ]
  exact List.rel_append (List.forall₂_take k h.inFlight) (List.forall₂_drop (k + 1) h.inFlight)

theorem Shows.elapse (h : w.Shows p) (ms : Nat) : (w.step (.elapse ms)).Shows (p.step (.wait ms)) := by
  refine ⟨h.formed, h.names, fun i => ?_, ?_⟩
  · simp only [step, Protocol.step]
    rw [h.stations i, station_elapse]
  · refine List.rel_map ?_ h.inFlight
    rintro f m ⟨age, pdu⟩
    exact ⟨congrArg (· + ms) age, pdu⟩

/-- Each step on the wire is a step of the protocol. -/
theorem Shows.step (h : w.Shows p) (permits : Permits x) :
    ∃ y, Matches x y ∧ p.Permits y ∧ (w.step x).Shows (p.step y) := by
  cases x with
  | event i x => exact ⟨.act i _ x.1, .act .., permits.2, h.event permits.1 permits.2⟩
  | transmit i lnk pad buf hdr ans => exact h.transmit permits
  | receive i dev k ans => exact h.receive permits
  | lose k => exact ⟨.lose k, .lose k, trivial, h.lose k⟩
  | elapse ms => exact ⟨.wait ms, .wait ms, trivial, h.elapse ms⟩

theorem simulates : Simulates (Wire.step (n := n)) Protocol.step Shows Matches (fun _ x => Permits x)
    Protocol.Permits := fun _ _ _ shown permits => shown.step permits

/-- The events of the nodes meet a condition. -/
def Meets (w : Wire n) (C : Fin n → Ctl → Event → Prop) : WireStep n → Prop
  | .event i x => C i (w.nodes i).ctl x.1
  | _ => True

theorem Shows.meets {C : Fin n → Ctl → Event → Prop} {y : ProtocolStep n} (h : w.Shows p)
    (matched : Matches x y) (meets : w.Meets C x) : p.Meets C y := by
  cases matched with
  | act i up x =>
    have ctl : (p.stations i).ctl = (w.nodes i).ctl := congrArg Station.ctl (h.stations i)
    rw [Protocol.Meets, ctl]
    exact meets
  | _ => trivial

theorem meets_simulates {C : Fin n → Ctl → Event → Prop} :
    Simulates (Wire.step (n := n)) Protocol.step Shows Matches (fun w x => Permits x ∧ w.Meets C x)
      fun p y => p.Permits y ∧ p.Meets C y := by
  rintro w p x shown ⟨permits, meets⟩
  obtain ⟨y, matched, taken, next⟩ := shown.step permits
  exact ⟨y, matched, ⟨taken, shown.meets matched meets⟩, next⟩

theorem permits_meets {xs : List (WireStep n)} (permits : ∀ x ∈ xs, Permits x) :
    EachStep Wire.step w xs fun _ v x => Permits x ∧ v.Meets (fun _ _ _ => True) x := by
  intro pre x member
  refine ⟨permits x (member.subset (by simp)), ?_⟩
  cases x <;> trivial

/-- What every station and message keeps to holds along every run on the wire. -/
theorem Shows.holds {I : Fin n → Station → Prop} {J : Message → Prop} {C : Fin n → Ctl → Event → Prop}
    {xs : List (WireStep n)} (h : w.Shows p) (holds : p.Holds I J) (kept : Protocol.Kept I J C)
    (steps : EachStep Wire.step w xs fun _ v x => Permits x ∧ v.Meets C x) :
    EachState Wire.step w xs fun _ v => ∃ q, v.Shows q ∧ q.Holds I J :=
  meets_simulates.related h steps fun _ => holds.run kept

/-- The protocol of a ring that has been initialised. -/
theorem shown_of_initialised (init : ∀ i, Initialised (w.nodes i)) (quiet : w.inFlight = []) :
    w.Shows ⟨fun i => (w.nodes i).station, []⟩ := by
  refine ⟨fun i => (init i).booted.1, fun i => ?_, fun i => rfl, ?_⟩
  · rw [(init i).booted.2]
    exact (Ctl.Speaks.booted _ _ _).names
  · rw [quiet]
    exact .nil

end Wire

/-- Each step of a ring on the wire is the step of the protocol that it looks like, or none at
all, and the protocol shows what every node and every frame has become. -/
theorem wire_refines {n : Nat} {w : Wire n} {p : Protocol n} {xs : List (WireStep n)}
    (starts : w.Shows p) (permits : ∀ x ∈ xs, Wire.Permits x) :
    ∃ ys, List.Forall₂ Wire.Matches xs ys ∧
      (EachStep Protocol.step p ys fun _ q y => q.Permits y) ∧
        ∀ k, (run Wire.step w (xs.take k)).Shows (run Protocol.step p (ys.take k)) :=
  Wire.simulates.run starts (eachStep_of_forall permits)

namespace Wire

/-- The RPL owner of the sample and the other node of a ring of two. -/
def sample (nonRevertive : Bool) : Wire 2 := ⟨Ring.sample nonRevertive, []⟩

/-- A signal fail on the RPL owner, whose frame the other node receives 80 ms later. -/
def sampleSteps : List (WireStep 2) := [
  .event ⟨0, Nat.two_pos⟩ (.ctl .port0 .signalFail, allSucceed),
  .transmit ⟨0, Nat.two_pos⟩ .port1 false zeroPdu (sampleHdr netEthPtypeOam) allSucceed,
  .elapse 80,
  .receive ⟨1, Nat.one_lt_two⟩ (sampleDevice 2 3) 0 allSucceed]

theorem sampleSteps_permits : ∀ x ∈ sampleSteps, Permits x := by
  intro x member
  simp only [sampleSteps, List.mem_cons, List.not_mem_nil, or_false] at member
  rcases member with rfl | rfl | rfl | rfl
  · exact ⟨allSucceed_respects, rfl⟩
  · exact allSucceed_respects
  · trivial
  · exact allSucceed_respects

end Wire

theorem wire_refines_sample :
    let p : Protocol 2 := ⟨fun i => ((Wire.sample false).nodes i).station, []⟩
    ∃ ys, List.Forall₂ Wire.Matches Wire.sampleSteps ys ∧
      (EachStep Protocol.step p ys fun _ q y => q.Permits y) ∧
        ∀ k, (run Wire.step (Wire.sample false) (Wire.sampleSteps.take k)).Shows
          (run Protocol.step p (ys.take k)) :=
  wire_refines (Wire.shown_of_initialised (Ring.sample_started false).initialised rfl)
    Wire.sampleSteps_permits

end Erps
