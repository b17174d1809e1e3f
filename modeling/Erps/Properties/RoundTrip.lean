import Erps.Properties.Acceptance
import Erps.Properties.Encoding

/-!
# A peer decodes what was sent

From `erps_node_sched_tx` on one node over the octets of a frame to the request that
`erps_recv` posts on another.
-/
namespace Erps

open Calls Packed

/-- The request/state a request is announced with. -/
def RapsRequest.reqState : RapsRequest → UInt8
  | fs => rapsFs
  | sf => rapsSf
  | ms => rapsMs
  | nrRb | nr => rapsNr

section
variable {good : KernelCall → Int → Prop} {s : Sys} {lnk : PortIdx} {pkt : NetPkt}
  {hdr : NetEthVlanHdr} {pdu : RapsPdu} {req : RapsRequest}

/-! ### What is scheduled -/

/-- What is accepted is what is announced from then on. -/
theorem nodeSchedTx_stores {reqState : UInt8} (s : Sys) (status : UInt8)
    (accepted : validReqState reqState = true) :
    wp good anyState (nodeSchedTx reqState 0 status)
      (fun _ t => t.node.pduMut = ⟨reqState <<< rapsRsShift, status⟩) s := by
  have noSubcode : reqState <<< rapsRsShift ||| 0 = reqState <<< rapsRsShift := UInt8.or_zero
  refine wp_ite (fun bad => by simp [accepted] at bad) fun _ => ?_
  refine wp_ite (fun bad => absurd rfl bad.1) fun _ => ?_
  refine wp_bind (wp_write trivial (wp_bind (wp_write trivial (wp_bind (wp_read ?_)))))
  rw [noSubcode]
  -- the PDU is written before the ports are looked at, which leave it alone
  have ports : Frames good (fun s : Sys => s.node.pduMut) (do
      let ret ← linkSchedTx 0 .port0
      let ret ← if 0 ≤ ret then linkSchedTx ret .port1 else pure ret
      return if ret < 0 then ret else 0) := schedPorts_frames fun _ _ _ => rfl
  exact wp_bind (wp_write trivial (wp_mono (ports.ends _) fun ret t same => same))

theorem flagBits : ∀ (status : BitVec 8) (port : Bool),
    let sent : UInt8 := if port then .ofBitVec status ||| rapsBpr else .ofBitVec status
    (sent &&& rapsRb != 0) = (.ofBitVec status &&& rapsRb != 0) ∧
      (sent &&& rapsDnf != 0) = (.ofBitVec status &&& rapsDnf != 0) ∧
        (sent &&& rapsBpr != 0) = (.ofBitVec status &&& rapsBpr != 0 || port) := by
  decide +kernel

/-- RB and DNF are sent as scheduled, BPR also for a node in protection whose port 1 is
blocked. -/
theorem sentStatus_flags (s : Sys) :
    (s.sentStatus &&& rapsRb != 0) = (s.node.pduMut.status &&& rapsRb != 0) ∧
      (s.sentStatus &&& rapsDnf != 0) = (s.node.pduMut.status &&& rapsDnf != 0) ∧
        (s.sentStatus &&& rapsBpr != 0) = (s.node.pduMut.status &&& rapsBpr != 0 ||
          (s.node.state = .protection && s.node.ports.port1.blocked)) := by
  have bits := flagBits s.node.pduMut.status.toBitVec
    (s.node.state = .protection && s.node.ports.port1.blocked)
  simpa only [Sys.sentStatus, Bool.and_eq_true, decide_eq_true_eq] using bits

/-! ### What is heard -/

theorem isLocalRapsFrame_own (s : Sys) (pdu : RapsPdu) : wp good anyState (isLocalRapsFrame pdu)
    (fun own t => t = s ∧ (own = true → pdu.rapsInfo.nodeId = s.nodeId)) s := by
  have lengths : s.nodeId.toList.length = pdu.rapsInfo.nodeId.toList.length := by simp
  refine wp_bind (wp_mono (linkGetNodeId_eq s) ?_)
  rintro ⟨ret, mac⟩ t ⟨read, rfl⟩
  refine wp_ite (fun _ => wp_pure ⟨rfl, fun own => Bool.noConfusion own⟩) fun ok => wp_pure ⟨rfl, ?_⟩
  have mac_eq : mac = t.nodeId := read (not_not.mp ok)
  rw [mac_eq, beq_iff_eq, memcmp_eq_zero_iff lengths, Vector.toList_inj]
  exact Eq.symm

/-- A frame of the ring with a request is posted, whatever the calls answer. -/
theorem erpsFilter_requests (frame : Frame s pkt hdr pdu) (asks : Requests s pdu req) :
    wp good anyState (erpsFilter lnk pkt) (fun p _ => p.1 = .request req pdu) s := by
  unfold erpsFilter
  refine wp_ite (fun _ => ?_) fun short => absurd frame.long short
  refine wp_bind (wp_mono (ethRead_reads s pkt) ?_)
  rintro ⟨res, after⟩ t ⟨rfl, ⟨hdr', pdu', read, whole, -⟩ | ⟨-, other⟩⟩
  swap
  · exact absurd frame.onRing (other hdr pdu frame.whole)
  cases read
  obtain ⟨rfl, rfl⟩ := frame.unique whole
  refine wp_bind (wp_bind (wp_mono (isLocalRapsFrame_own t pdu) ?_))
  rintro own u ⟨rfl, own_nodeId⟩
  refine wp_ite (fun own => absurd (own_nodeId own) frame.foreign) fun _ => ?_
  refine wp_bind (wp_read (wp_ite (fun other => absurd frame.opcode other) fun _ => ?_))
  refine wp_ite (fun event => absurd event asks.named.notEvent) fun _ => ?_
  rw [rapsRequest_iff.mpr asks.named]
  refine wp_bind (wp_read (wp_ite (fun guarded => ?_) fun _ => ?_))
  · simp [asks.unguarded] at guarded
  · exact wp_bind (wp_mono wp_ends fun _ _ _ => wp_pure (wp_pure rfl))

/-! ### The round trip -/

theorem named_of_reqState {rapsVer : UInt8} (version2 : rapsVer ≠ erpsRapsVer1)
    (valid : validReqState pdu.getReqState = true) (notEvent : pdu.getReqState ≠ rapsEvent) :
    ∃ req, NamedBy rapsVer pdu req ∧ req.reqState = pdu.getReqState ∧
      (pdu.getReqState = rapsNr → (req = .nrRb ↔ pdu.rb = true)) := by
  have cases : pdu.getReqState = rapsNr ∨ pdu.getReqState = rapsMs ∨ pdu.getReqState = rapsSf ∨
      pdu.getReqState = rapsFs := by
    simp only [validReqState, Bool.or_eq_true, beq_iff_eq] at valid
    tauto
  obtain nr | ms | sf | fs := cases
  · cases blocked : pdu.rb with
    | true => exact ⟨.nrRb, .nrRb nr blocked, nr.symm, fun _ => by simp⟩
    | false => exact ⟨.nr, .nr nr blocked, nr.symm, fun _ => by simp⟩
  · exact ⟨.ms, .ms ms version2, ms.symm, fun nr => by rw [ms] at nr; exact absurd nr (by decide)⟩
  · exact ⟨.sf, .sf sf, sf.symm, fun nr => by rw [sf] at nr; exact absurd nr (by decide)⟩
  · exact ⟨.fs, .fs fs version2, fs.symm, fun nr => by rw [fs] at nr; exact absurd nr (by decide)⟩

end

/-- A header of the control VLAN of a node, with the destination of its ring. -/
structure HeaderOf (n : Node) (hdr : NetEthVlanHdr) : Prop where
  dst : hdr.dst = nodeDstMac n
  tpid : hdr.vlan.tpid = netEthPtypeVlan
  vid : netEthVlanGetVid hdr.vlan.tci = n.ctrlVid
  type : hdr.type = netEthPtypeOam

/-- Another version 2 node of the ring, with its guard timer expired. -/
structure PeerOf (sender peer : Sys) : Prop where
  ring : peer.node.ringId = sender.node.ringId
  vlan : peer.node.ctrlVid = sender.node.ctrlVid
  other : peer.nodeId ≠ sender.nodeId
  version2 : peer.node.rapsVer ≠ erpsRapsVer1
  unguarded : peer.guardExpired = true

/-- What the peer posts: the request scheduled, with its flags and the node ID of the sender. -/
structure Decodes (sender : Sys) (reqState status : UInt8) (req : RapsRequest) (pdu : RapsPdu) :
    Prop where
  named : req.reqState = reqState
  nrRb : reqState = rapsNr → (req = .nrRb ↔ status &&& rapsRb ≠ 0)
  rb : pdu.rb = (status &&& rapsRb != 0)
  dnf : pdu.dnf = (status &&& rapsDnf != 0)
  bpr : pdu.bpr = (status &&& rapsBpr != 0 ||
    (sender.node.state = .protection && sender.node.ports.port1.blocked))
  nodeId : pdu.rapsInfo.nodeId = sender.nodeId

/-- What a node has scheduled is what a peer posts when it receives it, whatever the calls
answer. -/
theorem peer_decodes {reqState status : UInt8} {before sender peer : Sys}
    {sched build recv : Answers KernelCall} {padRapsPdus : Bool} {buf : RapsPdu}
    {hdr : NetEthVlanHdr} {lnk : PortIdx} {pkt : NetPkt}
    (accepted : validReqState reqState = true) (notEvent : reqState ≠ rapsEvent)
    (scheduled : sender.node.pduMut =
      ((nodeSchedTx reqState 0 status).final sched before).node.pduMut)
    (builds : Builds padRapsPdus build sender) (header : HeaderOf sender.node hdr)
    (received : pkt.ahead =
      vlanHdrLayout.bytes hdr ++ sentOctets padRapsPdus build sender buf)
    (peers : PeerOf sender peer) :
    ∃ req pdu, ((erpsFilter lnk pkt).result recv peer).1 = .request req pdu ∧
      Decodes sender reqState status req pdu := by
  have stored : sender.node.pduMut = ⟨reqState <<< rapsRsShift, status⟩ :=
    scheduled.trans ((nodeSchedTx_stores before status accepted).post sched (respects_any sched))
  have status_eq : sender.node.pduMut.status = status := congrArg RapsPduMut.status stored
  have state_eq : (sender.filled buf).getReqState = reqState := by
    change sender.node.pduMut.rsSc >>> rapsRsShift = reqState
    rw [stored]
    exact validReqState_shift accepted
  obtain ⟨rb, dnf, bpr⟩ := sentStatus_flags sender
  rw [status_eq] at rb dnf bpr
  have octets : sentOctets padRapsPdus build sender buf =
      rapsPduLayout.bytes (sender.filled buf) ++ padding padRapsPdus :=
    ((rapsCreatePkt_octets sender padRapsPdus buf .empty).post build (respects_any build)).1
      (builds buf)
  have whole : pkt.frame = some (hdr, sender.filled buf) := by
    have split : pkt.ahead = (vlanHdrLayout.andThen rapsPduLayout).bytes (hdr, sender.filled buf) ++
        padding padRapsPdus := by
      rw [received, octets, ← List.append_assoc]
      rfl
    exact (NetPkt.ahead_read split).1
  have frame : Frame peer pkt hdr (sender.filled buf) := by
    refine ⟨whole, ⟨header.tpid, header.vid.trans peers.vlan.symm, ?_⟩, peers.other.symm, rfl⟩
    rw [header.dst, peers.ring]
    rfl
  obtain ⟨req, named, req_state, nrRb⟩ := named_of_reqState peers.version2
    (state_eq.symm ▸ accepted) (state_eq.symm ▸ notEvent)
  rw [state_eq] at req_state nrRb
  have requests : wp anyAnswer anyState (erpsFilter lnk pkt)
      (fun p _ => p.1 = .request req (sender.filled buf)) peer :=
    erpsFilter_requests frame ⟨named, peers.unguarded⟩
  have posts := requests.post recv (respects_any recv)
  refine ⟨req, sender.filled buf, posts, req_state, fun nr => ?_, rb, dnf, bpr, rfl⟩
  rw [nrRb nr, ← bne_iff_ne, ← rb]
  exact Iff.rfl

/-- The frame the RPL owner of the sample sends. -/
def sentPkt : NetPkt :=
  ⟨vlanHdrLayout.bytes (sampleHdr netEthPtypeOam) ++ sentOctets true allSucceed
    (sampleNode true false (sampleDevice 0 1) (sampleDevice 1 2)).started (memory 0), 0,
    Nat.zero_le _⟩

theorem peer_decodes_sample :
    let sender := (sampleNode true false (sampleDevice 0 1) (sampleDevice 1 2)).started
    let peer := (sampleNode false false (sampleDevice 0 3) (sampleDevice 1 4)).started
    ∃ req pdu, ((erpsFilter .port0 sentPkt).result allSucceed peer).1 = .request req pdu ∧
      Decodes sender rapsNr 0 req pdu := by
  intro sender peer
  have scheduled : sender.node.pduMut =
      ((nodeSchedTx rapsNr 0 0).final allSucceed sender).node.pduMut := by decide
  exact peer_decodes (by decide) (by decide) scheduled (fun _ => rfl)
    ⟨by decide, rfl, by decide, rfl⟩ rfl ⟨rfl, rfl, by decide, by decide, by decide⟩

end Erps
