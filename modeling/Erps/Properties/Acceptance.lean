import Erps.Footprints
import Erps.Reception

/-!
# Which frames are accepted

The requests `erps_recv` posts, against the frames that are R-APS frames of the ring. The
checks are spread over four functions; one of them, for the inner type of the frame, only
logs. All else being equal the receiver is exact, so it is right about a frame unless that
check decides about it.
-/
namespace Erps

open Calls Packed

/-- The header and the PDU of a frame that is long enough for both. -/
def NetPkt.frame (pkt : NetPkt) : Option (NetEthVlanHdr × RapsPdu) :=
  (pkt.read (vlanHdrLayout.andThen rapsPduLayout)).1

/-- The request a request/state names; version 1 knows neither manual nor forced switch. -/
inductive NamedBy (rapsVer : UInt8) (pdu : RapsPdu) : RapsRequest → Prop where
  | nr (state : pdu.getReqState = rapsNr) (notBlocked : pdu.rb = false) : NamedBy rapsVer pdu .nr
  | nrRb (state : pdu.getReqState = rapsNr) (blocked : pdu.rb = true) : NamedBy rapsVer pdu .nrRb
  | sf (state : pdu.getReqState = rapsSf) : NamedBy rapsVer pdu .sf
  | ms (state : pdu.getReqState = rapsMs) (version : rapsVer ≠ erpsRapsVer1) :
      NamedBy rapsVer pdu .ms
  | fs (state : pdu.getReqState = rapsFs) (version : rapsVer ≠ erpsRapsVer1) :
      NamedBy rapsVer pdu .fs

/-- The tag and the destination are those of the ring. -/
structure OnRing (s : Sys) (hdr : NetEthVlanHdr) : Prop where
  tpid : hdr.vlan.tpid = netEthPtypeVlan
  vid : netEthVlanGetVid hdr.vlan.tci = s.node.ctrlVid
  ring : getElem hdr.dst 5 (by decide) = s.node.ringId

/-- The packet holds a frame of the ring with an R-APS PDU of another node, whatever its
inner type. -/
structure Frame (s : Sys) (pkt : NetPkt) (hdr : NetEthVlanHdr) (pdu : RapsPdu) : Prop where
  whole : pkt.frame = some (hdr, pdu)
  onRing : OnRing s hdr
  foreign : pdu.rapsInfo.nodeId ≠ s.nodeId
  opcode : pdu.cfmHdr.opcode = rapsOpcode

/-- The PDU is a request, and the guard timer does not keep it out. -/
structure Requests (s : Sys) (pdu : RapsPdu) (req : RapsRequest) : Prop where
  named : NamedBy s.node.rapsVer pdu req
  unguarded : s.guardExpired = true

/-- A valid flush event. -/
structure Flushes (pdu : RapsPdu) : Prop where
  event : pdu.getReqState = rapsEvent
  subcode : pdu.getSubcode = rapsScFlushReq
  status : pdu.status = 0

/-- The frames that are to be posted, with the request. -/
def Accepted (s : Sys) (pkt : NetPkt) (req : RapsRequest) (pdu : RapsPdu) : Prop :=
  ∃ hdr, Frame s pkt hdr pdu ∧ hdr.type = netEthPtypeOam ∧ Requests s pdu req

def FlushEvent (s : Sys) (pkt : NetPkt) : Prop :=
  ∃ hdr pdu, Frame s pkt hdr pdu ∧ hdr.type = netEthPtypeOam ∧ Flushes pdu

/-- The receiver is right about a packet. -/
structure AcceptsExactly (s : Sys) (dev : Device) (lnk : PortIdx) (pkt : NetPkt)
    (ans : Answers KernelCall) : Prop where
  posts : ∀ req pdu,
    ((erpsFilter lnk pkt).result ans s).1 = .request req pdu ↔ Accepted s pkt req pdu
  quiet : (∀ req pdu, ¬Accepted s pkt req pdu) →
    ((erpsRecv dev pkt).final ans s).node = s.node ∧ ((erpsRecv dev pkt).final ans s).hw = s.hw
  verdict : (∀ req pdu, ¬Accepted s pkt req pdu) → ¬FlushEvent s pkt →
    ((erpsRecv dev pkt).result ans s).1 ≠ .ok ∧ ((erpsRecv dev pkt).result ans s).2 = pkt

/-- The inner type of the frame is the OAM type, or it is one that is not accepted anyway. -/
def TypeIrrelevant (s : Sys) (pkt : NetPkt) : Prop :=
  ∀ hdr pdu, Frame s pkt hdr pdu →
    hdr.type = netEthPtypeOam ∨ ((∀ req, ¬Requests s pdu req) ∧ ¬Flushes pdu)

/-- The address of a device, and so the node ID of a node whose link 0 it is, can be read. -/
def Readable (dev : Device) : KernelCall → Int → Prop
  | .netIfLookupByDev d, v => d = dev → v ≠ 0
  | .netIfGetLinkAddr d, v => d = dev → v ≠ 0
  | _, _ => True

theorem success_readable (dev : Device) (c : KernelCall) (v : Int) (ok : Success c v) :
    Readable dev c v := by
  cases c with
  | netIfLookupByDev d | netIfGetLinkAddr d => exact fun _ => ok
  | _ => trivial

theorem rapsRequest_iff {rapsVer : UInt8} {pdu : RapsPdu} {req : RapsRequest} :
    rapsRequest rapsVer pdu = some req ↔ NamedBy rapsVer pdu req := by
  simp only [rapsRequest]
  constructor
  · intro named
    by_cases nr : pdu.getReqState = rapsNr
    · rw [if_pos nr] at named
      cases blocked : pdu.rb <;> rw [blocked] at named <;> cases named
      · exact .nr nr blocked
      · exact .nrRb nr blocked
    rw [if_neg nr] at named
    by_cases ms : pdu.getReqState = rapsMs
    · rw [if_pos ms] at named
      by_cases version : rapsVer = erpsRapsVer1
      · rw [if_pos version] at named
        cases named
      · rw [if_neg version] at named
        cases named
        exact .ms ms version
    rw [if_neg ms] at named
    by_cases sf : pdu.getReqState = rapsSf
    · rw [if_pos sf] at named
      cases named
      exact .sf sf
    rw [if_neg sf] at named
    by_cases fs : pdu.getReqState = rapsFs
    · rw [if_pos fs] at named
      by_cases version : rapsVer = erpsRapsVer1
      · rw [if_pos version] at named
        cases named
      · rw [if_neg version] at named
        cases named
        exact .fs fs version
    · rw [if_neg fs] at named
      cases named
  · intro named
    cases named with
    | nr state notBlocked => simp [state, notBlocked]
    | nrRb state blocked => simp [state, blocked]
    | sf state => simp [state, rapsSf, rapsNr, rapsMs]
    | ms state version => simp [state, version, rapsMs, rapsNr]
    | fs state version => simp [state, version, rapsFs, rapsNr, rapsMs, rapsSf]

/-! ### The checks, one after the other -/

section
variable {good : KernelCall → Int → Prop} {s : Sys} {lnk : PortIdx} {pkt : NetPkt} {pdu : RapsPdu}

/-- A header of the control VLAN has been read, or there is none. -/
theorem readVlanHdr_reads (s : Sys) (pkt : NetPkt) : wp good anyState (readVlanHdr pkt)
    (fun p t => t = s ∧ ((∃ hdr, p = (.ok hdr, (pkt.read vlanHdrLayout).2) ∧
        (pkt.read vlanHdrLayout).1 = some hdr ∧ hdr.vlan.tpid = netEthPtypeVlan ∧
          netEthVlanGetVid hdr.vlan.tci = s.node.ctrlVid) ∨
      ((∃ err, p.1 = .error err) ∧ ∀ hdr, (pkt.read vlanHdrLayout).1 = some hdr →
        hdr.vlan.tpid = netEthPtypeVlan → netEthVlanGetVid hdr.vlan.tci ≠ s.node.ctrlVid))) s := by
  unfold readVlanHdr
  refine wp_ite (fun short => wp_pure ⟨rfl, .inr ⟨⟨_, rfl⟩, ?_⟩⟩) fun _ => ?_
  · intro hdr found
    rw [(pkt.read_none_iff _).mpr short] at found
    cases found
  rcases found : pkt.read vlanHdrLayout with ⟨_ | hdr, after⟩
  · refine wp_pure ⟨rfl, .inr ⟨⟨_, rfl⟩, ?_⟩⟩
    intro hdr some
    cases some
  · refine wp_ite (fun other => wp_pure ⟨rfl, .inr ⟨⟨_, rfl⟩, ?_⟩⟩) fun tpid => ?_
    · rintro _ ⟨⟩ tpid
      exact absurd tpid other
    refine wp_bind (wp_read (wp_ite (fun other => wp_pure ⟨rfl, .inr ⟨⟨_, rfl⟩, ?_⟩⟩) fun vid => ?_))
    · rintro _ ⟨⟩ _
      exact other
    · exact wp_pure ⟨rfl, .inl ⟨hdr, rfl, rfl, not_not.mp tpid, not_not.mp vid⟩⟩

theorem ethRead_reads (s : Sys) (pkt : NetPkt) : wp good anyState (ethRead pkt)
    (fun p t => t = s ∧ ((∃ hdr pdu, p.1 = some pdu ∧ pkt.frame = some (hdr, pdu) ∧ OnRing s hdr) ∨
      (p.1 = none ∧ ∀ hdr pdu, pkt.frame = some (hdr, pdu) → ¬OnRing s hdr))) s := by
  refine wp_bind (wp_mono (readVlanHdr_reads s pkt) ?_)
  rintro ⟨res, after⟩ t ⟨rfl, ⟨hdr, same, first, tpid, vid⟩ | ⟨⟨err, rfl⟩, other⟩⟩
  · cases same
    refine wp_bind (wp_read (wp_ite (fun stray => wp_pure ⟨rfl, .inr ⟨rfl, ?_⟩⟩) fun ours => ?_))
    · rintro hdr' pdu whole onRing
      obtain ⟨first', -⟩ := (pkt.read_andThen _ _ _ _).mp whole
      obtain rfl : hdr = hdr' := Option.some.inj (first.symm.trans first')
      simp [isStrayRapsPdu, onRing.ring] at stray
    · have ring : hdr.dst[5] = t.node.ringId := by
        simp only [isStrayRapsPdu, ne_eq, decide_eq_true_eq, not_not] at ours
        exact ours.symm
      refine wp_pure ⟨rfl, ?_⟩
      cases second : ((pkt.read vlanHdrLayout).2.read rapsPduLayout).1 with
      | some pdu =>
        exact .inl ⟨hdr, pdu, rfl, (pkt.read_andThen _ _ _ _).mpr ⟨first, second⟩, tpid, vid, ring⟩
      | none =>
        refine .inr ⟨rfl, fun hdr' pdu whole _ => ?_⟩
        rw [((pkt.read_andThen _ _ _ _).mp whole).2] at second
        cases second
  · refine wp_pure ⟨rfl, .inr ⟨rfl, fun hdr pdu whole onRing => ?_⟩⟩
    exact other hdr ((pkt.read_andThen _ _ _ _).mp whole).1 onRing.tpid onRing.vid

theorem linkGetNodeId_readable (s : Sys)
    (readable : ∀ c v, good c v → Readable s.node.ports.port0.dev c v) :
    wp good anyState linkGetNodeId (fun p t => p = (0, s.nodeId) ∧ t = s) s := by
  refine wp_bind (wp_read (wp_bind (wp_bind (wp_call fun found answered => wp_pure ?_))))
  have there : found ≠ 0 := readable _ found answered rfl
  refine wp_ite (fun missing => ?_) fun _ => ?_
  · simp [there] at missing
  refine wp_bind (wp_bind (wp_call fun addr answered' => wp_pure ?_))
  have has : addr ≠ 0 := readable _ addr answered' rfl
  refine wp_ite (fun missing => ?_) fun _ => wp_pure ⟨rfl, rfl⟩
  simp [has] at missing

theorem isLocalRapsFrame_tells (s : Sys) (pdu : RapsPdu)
    (readable : ∀ c v, good c v → Readable s.node.ports.port0.dev c v) :
    wp good anyState (isLocalRapsFrame pdu)
      (fun own t => t = s ∧ (own = true ↔ pdu.rapsInfo.nodeId = s.nodeId)) s := by
  have lengths : s.nodeId.toList.length = pdu.rapsInfo.nodeId.toList.length := by simp
  refine wp_bind (wp_mono (linkGetNodeId_readable s readable) ?_)
  rintro _ t ⟨rfl, rfl⟩
  refine wp_ite (fun failed => absurd rfl failed) fun _ => wp_pure ⟨rfl, ?_⟩
  rw [beq_iff_eq, memcmp_eq_zero_iff lengths, Vector.toList_inj]
  exact eq_comm

theorem flushFdb_seen : Frames good (fun s : Sys => (s.node, s.hw)) (flushFdb lnk) :=
  flushFdb_frames fun _ => rfl

/-- An event is carried out if it is valid and the calls succeed. -/
theorem handleRapsEvent_flushes (s : Sys) (pdu : RapsPdu) (event : pdu.getReqState = rapsEvent) :
    wp good anyState (handleRapsEvent lnk pdu) (fun ret t => t.node = s.node ∧ t.hw = s.hw ∧
      (ret = 0 → Flushes pdu) ∧ ((∀ c v, good c v → Success c v) → Flushes pdu → ret = 0)) s := by
  have bad : (- EINVAL : Int) ≠ 0 := by decide
  refine wp_ite (fun subcode => wp_pure ?_) fun subcode => ?_
  · exact ⟨rfl, rfl, fun ok => absurd ok bad, fun _ valid => absurd valid.subcode subcode⟩
  refine wp_ite (fun status => wp_pure ?_) fun status => ?_
  · exact ⟨rfl, rfl, fun ok => absurd ok bad, fun _ valid => absurd valid.status status⟩
  have valid : Flushes pdu := ⟨event, not_not.mp subcode, not_not.mp status⟩
  have succeeds : wp good anyState (flushFdb lnk)
      (fun ret _ => (∀ c v, good c v → Success c v) → ret = 0) s := by
    by_cases successes : ∀ c v, good c v → Success c v
    · refine wp_mono ((flushFdb_leads s lnk).answers successes) ?_
      exact fun ret t led _ => led.1
    · refine wp_mono (flushFdb_seen.ends s) ?_
      exact fun ret t _ successes' => absurd successes' successes
  refine wp_mono ((flushFdb_seen.ends s).and succeeds) ?_
  rintro ret t ⟨same, ok⟩
  obtain ⟨node, hw⟩ := Prod.mk.inj same
  exact ⟨node, hw, fun _ => valid, fun successes _ => ok successes⟩

theorem NamedBy.notEvent {rapsVer : UInt8} {req : RapsRequest} (named : NamedBy rapsVer pdu req) :
    pdu.getReqState ≠ rapsEvent := by
  intro event
  cases named with
  | nr state _ | nrRb state _ | sf state | ms state _ | fs state _ =>
    rw [state] at event
    exact absurd event (by decide)

/-- A verdict that leaves node and ports as they were: there is no request here, and the
verdict is to accept only if there is a flush event, which is carried out. -/
structure Verdict (good : KernelCall → Int → Prop) (s : Sys) (here : RapsRequest → Prop)
    (flush : Prop) (v : NetVerdict) (t : Sys) : Prop where
  node : t.node = s.node
  hw : t.hw = s.hw
  noRequest : ∀ req, ¬here req
  flushed : v = .ok → flush
  carriedOut : (∀ c v, good c v → Success c v) → flush → v = .ok

/-- Nothing has happened to what is neither a request nor an event. -/
theorem Verdict.refused {here : RapsRequest → Prop} {flush : Prop} {v : NetVerdict}
    (noRequest : ∀ req, ¬here req) (noFlush : ¬flush) (refused : v ≠ .ok) :
    Verdict good s here flush v s :=
  ⟨rfl, rfl, noRequest, fun ok => absurd ok refused, fun _ flush => absurd flush noFlush⟩

theorem rapsFilter_outcome (s : Sys) (pdu : RapsPdu) (opcode : pdu.cfmHdr.opcode = rapsOpcode) :
    wp good anyState (rapsFilter lnk pdu) (fun f t =>
      (∃ req, f = .request req pdu ∧ Requests s pdu req) ∨
        ∃ v, f = .verdict v ∧ Verdict good s (Requests s pdu) (Flushes pdu) v t) s := by
  refine wp_bind (wp_read (wp_ite (fun other => absurd opcode other) fun _ => ?_))
  refine wp_ite (fun event => ?_) fun noEvent => ?_
  · refine wp_bind (wp_mono (handleRapsEvent_flushes s pdu event) ?_)
    rintro ret t ⟨node, hw, flushed, carriedOut⟩
    refine wp_pure (.inr ⟨_, rfl, node, hw, fun req asks => asks.named.notEvent event, ?_, ?_⟩)
    · intro ok
      by_cases zero : ret = 0
      · exact flushed zero
      · rw [if_pos zero] at ok
        cases ok
    · intro successes flushes
      rw [if_neg (not_not.mpr (carriedOut successes flushes))]
  -- from here on the PDU is no event
  have noFlush : ¬Flushes pdu := fun flushes => noEvent flushes.event
  cases named : rapsRequest s.node.rapsVer pdu with
  | none =>
    refine wp_pure (.inr ⟨_, rfl, .refused (fun req asks => ?_) noFlush (by decide)⟩)
    rw [rapsRequest_iff.mpr asks.named] at named
    cases named
  | some req =>
    refine wp_bind (wp_read (wp_ite (fun guarded => ?_) fun unguarded => ?_))
    · refine wp_pure (.inr ⟨_, rfl, .refused (fun req asks => ?_) noFlush (by decide)⟩)
      simp [asks.unguarded] at guarded
    · have unguarded' : s.guardExpired = true := by simpa using unguarded
      refine wp_bind (wp_mono wp_ends fun _ t _ => wp_pure (.inl ⟨req, rfl, ?_, unguarded'⟩))
      exact rapsRequest_iff.mp named

theorem Frame.unique {hdr hdr' : NetEthVlanHdr} {pdu' : RapsPdu} (h : Frame s pkt hdr' pdu')
    (whole : pkt.frame = some (hdr, pdu)) : hdr' = hdr ∧ pdu' = pdu :=
  Prod.mk.inj (Option.some.inj (h.whole.symm.trans whole))

theorem Frame.long {hdr : NetEthVlanHdr} (h : Frame s pkt hdr pdu) :
    rapsPduLayout.size ≤ pkt.getLen := by
  by_contra short
  -- the length check of the receiver is weaker than that of the two reads
  have short' : pkt.remainingData < (vlanHdrLayout.andThen rapsPduLayout).size := by
    have size : (vlanHdrLayout.andThen rapsPduLayout).size = 18 + rapsPduLayout.size := rfl
    have less : pkt.remainingData ≤ pkt.getLen := Nat.sub_le _ _
    omega
  have none : pkt.frame = none := (pkt.read_none_iff _).mpr short'
  rw [h.whole] at none
  cases none

/-- What the filter makes of a packet, whatever the inner type of the frame. -/
theorem erpsFilter_outcome (s : Sys) (lnk : PortIdx) (pkt : NetPkt)
    (readable : ∀ c v, good c v → Readable s.node.ports.port0.dev c v) :
    wp good anyState (erpsFilter lnk pkt) (fun p t =>
      (∃ req hdr pdu, p.1 = .request req pdu ∧ Frame s pkt hdr pdu ∧ Requests s pdu req) ∨
        ∃ v, p.1 = .verdict v ∧
          Verdict good s (fun req => ∃ hdr pdu, Frame s pkt hdr pdu ∧ Requests s pdu req)
            (∃ hdr pdu, Frame s pkt hdr pdu ∧ Flushes pdu) v t) s := by
  have refused {v : NetVerdict} (noFrame : ∀ hdr pdu, ¬Frame s pkt hdr pdu) (refused : v ≠ .ok) :
      Verdict good s (fun req => ∃ hdr pdu, Frame s pkt hdr pdu ∧ Requests s pdu req)
        (∃ hdr pdu, Frame s pkt hdr pdu ∧ Flushes pdu) v s := by
    refine .refused ?_ ?_ refused
    · rintro req ⟨hdr, pdu, frame, -⟩
      exact noFrame hdr pdu frame
    · rintro ⟨hdr, pdu, frame, -⟩
      exact noFrame hdr pdu frame
  unfold erpsFilter
  refine wp_ite (fun _ => ?_) fun short => wp_pure (.inr ⟨_, rfl, refused ?_ (by decide)⟩)
  swap
  · exact fun hdr pdu frame => short frame.long
  refine wp_bind (wp_mono (ethRead_reads s pkt) ?_)
  rintro ⟨res, after⟩ t ⟨rfl, ⟨hdr, pdu, read, whole, onRing⟩ | ⟨read, other⟩⟩ <;> cases read
  swap
  · refine wp_pure (.inr ⟨_, rfl, refused (fun hdr pdu frame => ?_) (by decide)⟩)
    exact other hdr pdu frame.whole frame.onRing
  refine wp_bind (wp_bind (wp_mono (isLocalRapsFrame_tells t pdu readable) ?_))
  rintro own u ⟨rfl, own_iff⟩
  refine wp_ite (fun own => wp_pure (wp_pure (.inr ⟨_, rfl, refused ?_ (by decide)⟩))) fun notOwn => ?_
  · intro hdr' pdu' frame
    obtain ⟨rfl, rfl⟩ := frame.unique whole
    exact frame.foreign (own_iff.mp own)
  -- the frame is one of the ring, and not the node's own
  by_cases opcode : pdu.cfmHdr.opcode = rapsOpcode
  · have frame : Frame u pkt hdr pdu := ⟨whole, onRing, mt own_iff.mpr notOwn, opcode⟩
    refine wp_mono (rapsFilter_outcome u pdu opcode) ?_
    rintro f w (⟨req, rfl, asks⟩ | ⟨v, rfl, node, hw, noRequest, flushed, carriedOut⟩)
    · exact wp_pure (.inl ⟨req, hdr, pdu, rfl, frame, asks⟩)
    · refine wp_pure (.inr ⟨v, rfl, node, hw, ?_, fun ok => ⟨hdr, pdu, frame, flushed ok⟩, ?_⟩)
      · rintro req ⟨hdr', pdu', frame', asks⟩
        obtain ⟨rfl, rfl⟩ := frame'.unique whole
        exact noRequest req asks
      · rintro successes ⟨hdr', pdu', frame', flushes⟩
        obtain ⟨rfl, rfl⟩ := frame'.unique whole
        exact carriedOut successes flushes
  · refine wp_bind (wp_read (wp_ite (fun _ => wp_pure (wp_pure ?_)) fun same => absurd opcode same))
    refine .inr ⟨_, rfl, refused (fun hdr' pdu' frame => ?_) (by decide)⟩
    obtain ⟨rfl, rfl⟩ := frame.unique whole
    exact opcode frame.opcode

end

/-! ### The receiver -/

section
variable {s : Sys} {dev : Device} {lnk : PortIdx} {pkt : NetPkt} {ans : Answers KernelCall}

/-- A frame that gets a verdict from the filter is handed back with it. -/
theorem erpsRecv_verdict {v : NetVerdict}
    (ring : s.node.linkLookupByIface dev = some lnk)
    (given : ((erpsFilter lnk pkt).result ans s).1 = .verdict v) :
    (erpsRecv dev pkt).result ans s = handBack pkt (v, ((erpsFilter lnk pkt).result ans s).2) ∧
      (erpsRecv dev pkt).final ans s = (erpsFilter lnk pkt).final ans s := by
  have after : erpsRecv dev pkt ans ⟨s, 0, []⟩ = (do
      let res ← erpsFilter lnk pkt
      let vdct ← res.1.post lnk
      return handBack pkt (vdct, res.2) : M _) ans ⟨s, 0, []⟩ := by
    have node : (Calls.read Sys.node ans ⟨s, 0, []⟩).1 = s.node := rfl
    rw [erpsRecv_eq, bind_apply, node, ring]
    rfl
  unfold Prog.result at given ⊢
  unfold Prog.final
  rw [after, bind_apply]
  generalize erpsFilter lnk pkt ans ⟨s, 0, []⟩ = p at given ⊢
  obtain ⟨⟨res, rest⟩, r⟩ := p
  cases given
  exact ⟨rfl, rfl⟩

theorem handBack_refused {v : NetVerdict} {after : NetPkt} (refused : v ≠ .ok) :
    handBack pkt (v, after) = (v, pkt) := by
  cases v with
  | ok => exact absurd rfl refused
  | cont | drop => rfl

theorem Accepted.unique {req req' : RapsRequest} {pdu pdu' : RapsPdu}
    (h : Accepted s pkt req pdu) (h' : Accepted s pkt req' pdu') : req = req' ∧ pdu = pdu' := by
  obtain ⟨hdr, frame, -, asks⟩ := h
  obtain ⟨hdr', frame', -, asks'⟩ := h'
  obtain ⟨rfl, rfl⟩ := frame.unique frame'.whole
  have same : some req = some req' :=
    (rapsRequest_iff.mpr asks.named).symm.trans (rapsRequest_iff.mpr asks'.named)
  exact ⟨Option.some.inj same, rfl⟩

theorem acceptsExactly_of_request {req : RapsRequest} {pdu : RapsPdu}
    (posted : ((erpsFilter lnk pkt).result ans s).1 = .request req pdu)
    (accepted : Accepted s pkt req pdu) : AcceptsExactly s dev lnk pkt ans := by
  refine ⟨fun req' pdu' => ?_, fun none => absurd accepted (none req pdu),
    fun none => absurd accepted (none req pdu)⟩
  rw [posted]
  constructor
  · rintro ⟨⟩
    exact accepted
  · intro accepted'
    obtain ⟨rfl, rfl⟩ := accepted.unique accepted'
    rfl

theorem acceptsExactly_of_verdict {v : NetVerdict} (irrelevant : TypeIrrelevant s pkt)
    (ring : s.node.linkLookupByIface dev = some lnk)
    (given : ((erpsFilter lnk pkt).result ans s).1 = .verdict v)
    (verdict : Verdict (Readable s.node.ports.port0.dev) s
      (fun req => ∃ hdr pdu, Frame s pkt hdr pdu ∧ Requests s pdu req)
      (∃ hdr pdu, Frame s pkt hdr pdu ∧ Flushes pdu) v ((erpsFilter lnk pkt).final ans s)) :
    AcceptsExactly s dev lnk pkt ans := by
  have noRequest : ∀ req pdu, ¬Accepted s pkt req pdu := by
    rintro req pdu ⟨hdr, frame, -, asks⟩
    exact verdict.noRequest req ⟨hdr, pdu, frame, asks⟩
  obtain ⟨result, final⟩ := erpsRecv_verdict ring given
  refine ⟨fun req pdu => ?_, fun _ => ?_, fun _ noEvent => ?_⟩
  · rw [given]
    exact iff_of_false (fun posted => nomatch posted) (noRequest req pdu)
  · rw [final]
    exact ⟨verdict.node, verdict.hw⟩
  · -- a flush event that is carried out is a frame of the OAM type
    have refused : v ≠ .ok := by
      intro ok
      obtain ⟨hdr, pdu, frame, flushes⟩ := verdict.flushed ok
      have oam : hdr.type = netEthPtypeOam :=
        (irrelevant hdr pdu frame).resolve_right fun unwanted => unwanted.2 flushes
      exact noEvent ⟨hdr, pdu, frame, oam, flushes⟩
    rw [result, handBack_refused refused]
    exact ⟨refused, rfl⟩

/-- A frame of another type that would be accepted, were it of the OAM type, is. -/
theorem typeIrrelevant_of_exactly (ring : s.node.linkLookupByIface dev = some lnk)
    (right : AcceptsExactly s dev lnk pkt allSucceed) : TypeIrrelevant s pkt := by
  intro hdr pdu frame
  by_contra decides
  obtain ⟨notOam, wanted⟩ := not_or.mp decides
  have noRequest : ∀ req pdu', ¬Accepted s pkt req pdu' := by
    rintro req pdu' ⟨hdr', frame', oam, -⟩
    obtain ⟨rfl, rfl⟩ := frame'.unique frame.whole
    exact notOam oam
  have noEvent : ¬FlushEvent s pkt := by
    rintro ⟨hdr', pdu', frame', oam, -⟩
    obtain ⟨rfl, rfl⟩ := frame'.unique frame.whole
    exact notOam oam
  have succeeds := success_readable s.node.ports.port0.dev
  obtain ⟨req, hdr', pdu', posted, -⟩ | ⟨v, given, verdict⟩ :=
    (erpsFilter_outcome s lnk pkt succeeds).post allSucceed allSucceed_respects
  · exact noRequest req pdu' ((right.posts req pdu').mp posted)
  -- no request, so it was the flush event
  · have flushes : Flushes pdu := by
      by_contra noFlush
      refine wanted ⟨fun req asks => ?_, noFlush⟩
      exact verdict.noRequest req ⟨hdr, pdu, frame, asks⟩
    have ok : v = .ok := verdict.carriedOut (fun _ _ h => h) ⟨hdr, pdu, frame, flushes⟩
    have recv := (erpsRecv_verdict ring given).1
    rw [ok] at recv
    exact (right.verdict noRequest noEvent).1 (congrArg Prod.fst recv)

/-- The receiver is right about a packet, whatever the calls answer, if and only if the check
of the inner type does not decide about it. -/
theorem accepts_exactly_iff (ring : s.node.linkLookupByIface dev = some lnk) :
    (∀ ans, Respects (Readable s.node.ports.port0.dev) ans → AcceptsExactly s dev lnk pkt ans) ↔
      TypeIrrelevant s pkt := by
  constructor
  · intro exactly
    refine typeIrrelevant_of_exactly ring (exactly allSucceed fun n c => ?_)
    exact success_readable _ c _ (allSucceed_respects n c)
  · intro irrelevant ans readable
    have outcome := (erpsFilter_outcome s lnk pkt fun _ _ h => h).post ans readable
    obtain ⟨req, hdr, pdu, posted, frame, asks⟩ | ⟨v, given, verdict⟩ := outcome
    · have oam : hdr.type = netEthPtypeOam :=
        (irrelevant hdr pdu frame).resolve_right fun unwanted => unwanted.1 req asks
      exact acceptsExactly_of_request posted ⟨hdr, frame, oam, asks⟩
    · exact acceptsExactly_of_verdict irrelevant ring given verdict

end

theorem accepts_exactly_iff_sample :
    let s := (sampleNode true false (sampleDevice 0 1) (sampleDevice 1 2)).started
    (∀ ans, Respects (Readable s.node.ports.port0.dev) ans →
      AcceptsExactly s (sampleDevice 0 1) .port0 (samplePkt netEthPtypeOam) ans) ↔
      TypeIrrelevant s (samplePkt netEthPtypeOam) :=
  accepts_exactly_iff (by decide)

/-- An IPv4 type does not keep a frame out. -/
theorem inner_type_ignored : ¬∀ (s : Sys) (dev : Device) (lnk : PortIdx) (pkt : NetPkt)
    (ans : Answers KernelCall), Initialised s → s.node.linkLookupByIface dev = some lnk →
      Respects (Readable s.node.ports.port0.dev) ans → AcceptsExactly s dev lnk pkt ans := by
  intro exactly
  have right := exactly (sampleNode true false (sampleDevice 0 1) (sampleDevice 1 2)).started
    (sampleDevice 0 1) .port0 (samplePkt 0x0800) allSucceed (DtNode.started_initialised _) (by decide)
    fun n c => success_readable _ c _ (allSucceed_respects n c)
  obtain ⟨hdr, frame, oam, -⟩ := (right.posts .nr (samplePdu 9)).mp (by decide)
  have whole : (samplePkt 0x0800).frame = some (sampleHdr 0x0800, samplePdu 9) := by decide
  obtain ⟨rfl, -⟩ := frame.unique whole
  exact absurd oam (by decide)

end Erps
