import Erps.Transmit

/-!
# The octets of a PDU

What `erps_raps_create` puts into a packet, against the layout of an R-APS PDU in
`scripts/r_aps.py`. The encoder fills every member but the end TLV, which keeps what the
memory held before.
-/
namespace Erps

open Calls Packed

/-- The fields of `R_APS` in `scripts/r_aps.py` that are not constant, with their widths. -/
structure RAps where
  mel : BitVec 3
  ver : BitVec 5
  requestState : BitVec 4
  subcode : BitVec 4
  rb : Bool
  dnf : Bool
  bpr : Bool
  rfuStatus : BitVec 5
  nodeId : EthAddr

namespace RAps

def statusOctet (p : RAps) : UInt8 :=
  .ofBitVec (BitVec.ofBool p.rb ++ (BitVec.ofBool p.dnf ++ (BitVec.ofBool p.bpr ++ p.rfuStatus)))

/-- The octets before `tlv_end`. -/
def fields (p : RAps) : List UInt8 :=
  [.ofBitVec (p.mel ++ p.ver), 0x28, 0, 0x20, .ofBitVec (p.requestState ++ p.subcode),
    p.statusOctet] ++ p.nodeId.toList ++ List.replicate 24 0

/-- The PDU as the script builds it. -/
def octets (p : RAps) : List UInt8 := p.fields ++ [0]

end RAps

namespace Sys

/-- The status octet that is sent: the scheduled one, with BPR for a node in protection
whose port 1 is blocked. -/
def sentStatus (s : Sys) : UInt8 :=
  if s.node.state = .protection ∧ s.node.ports.port1.blocked then s.node.pduMut.status ||| rapsBpr
  else s.node.pduMut.status

/-- The PDU a node announces, in the fields of the script. -/
def rAps (s : Sys) : RAps where
  mel := s.node.rapsMel.toBitVec.setWidth 3
  ver := s.node.rapsVer.toBitVec.setWidth 5
  requestState := s.node.pduMut.rsSc.toBitVec.extractLsb' 4 4
  subcode := s.node.pduMut.rsSc.toBitVec.extractLsb' 0 4
  rb := s.node.pduMut.status.toBitVec.getLsbD 7
  dnf := s.node.pduMut.status.toBitVec.getLsbD 6
  bpr := s.node.pduMut.status.toBitVec.getLsbD 5 ||
    (s.node.state = .protection && s.node.ports.port1.blocked)
  rfuStatus := s.node.pduMut.status.toBitVec.setWidth 5
  nodeId := s.nodeId

/-- The PDU as the encoder fills it in. -/
def filled (s : Sys) (buf : RapsPdu) : RapsPdu where
  cfmHdr := ⟨rapsMel s.node, rapsOpcode, rapsFlags, 32⟩
  rapsInfo := ⟨s.node.pduMut.rsSc, s.sentStatus, s.nodeId, Vector.replicate 24 0⟩
  endTlv := buf.endTlv

end Sys

/-! ### Bits -/

/-- A version that fits its five bits leaves the MEL alone. -/
theorem melVer_eq (mel ver : UInt8) (fits : ver < 32) :
    (mel <<< rapsMelShift) ||| ver =
      .ofBitVec (mel.toBitVec.setWidth 3 ++ ver.toBitVec.setWidth 5) := by
  have small : ver.toNat < 2 ^ 5 := UInt8.lt_iff_toNat_lt.mp fits
  have mod : ver.toNat % 2 ^ 5 = ver.toNat := Nat.mod_eq_of_lt small
  apply UInt8.toNat_inj.mp
  -- the version keeps to the lower five bits, the MEL to the three above
  have shift : rapsMelShift.toNat % 8 = 5 := by decide
  rw [UInt8.toNat_or, UInt8.toNat_shiftLeft, shift]
  change _ = (mel.toBitVec.setWidth 3 ++ ver.toBitVec.setWidth 5).toNat
  rw [BitVec.toNat_append, BitVec.toNat_setWidth, BitVec.toNat_setWidth, UInt8.toNat_toBitVec,
    UInt8.toNat_toBitVec, mod, Nat.shiftLeft_eq, Nat.shiftLeft_eq]
  congr 1
  omega

theorem rsSc_eq (rsSc : UInt8) :
    rsSc = .ofBitVec (rsSc.toBitVec.extractLsb' 4 4 ++ rsSc.toBitVec.extractLsb' 0 4) := by
  apply UInt8.toBitVec_inj.mp
  exact (@BitVec.extractLsb'_append_extractLsb' 4 4 rsSc.toBitVec).symm

theorem statusBits : ∀ (status : BitVec 8) (port : Bool),
    (if port then status ||| 0x20 else status) =
      BitVec.ofBool (status.getLsbD 7) ++ (BitVec.ofBool (status.getLsbD 6) ++
        (BitVec.ofBool (status.getLsbD 5 || port) ++ status.setWidth 5)) := by
  decide +kernel

/-! ### The encoder -/

section
variable {good : KernelCall → Int → Prop} {s : Sys}

theorem linkGetNodeId_eq (s : Sys) : wp good anyState linkGetNodeId
    (fun p t => (p.1 = 0 → p.2 = s.nodeId) ∧ t = s) s := by
  refine wp_bind (wp_read (wp_bind (wp_bind (wp_call fun found _ => wp_pure ?_))))
  refine wp_ite (fun _ => wp_pure ⟨fun _ => rfl, rfl⟩) fun _ => ?_
  refine wp_bind (wp_bind (wp_call fun addr _ => wp_pure ?_))
  exact wp_ite (fun _ => wp_pure ⟨fun _ => rfl, rfl⟩) fun _ => wp_pure ⟨fun _ => rfl, rfl⟩

theorem rapsCreate_fills (buf : RapsPdu) : wp good anyState (rapsCreate buf)
    (fun p t => (p.1 = 0 → p.2 = s.filled buf) ∧ t = s) s := by
  unfold rapsCreate
  refine wp_bind (wp_read (wp_bind (wp_mono (linkGetNodeId_eq s) ?_)))
  rintro ⟨ret, nodeId⟩ t ⟨read, rfl⟩
  refine wp_ite (fun failed => wp_pure ⟨fun ok => absurd ok failed, rfl⟩) fun ok => wp_pure ?_
  refine ⟨fun _ => ?_, rfl⟩
  have nodeId_eq : nodeId = t.nodeId := read (not_not.mp ok)
  rw [nodeId_eq]
  rfl

/-- What follows the PDU. -/
def padding (padRapsPdus : Bool) : List UInt8 := if padRapsPdus then rapsPadding else []

theorem rapsCreatePkt_octets (s : Sys) (padRapsPdus : Bool) (buf : RapsPdu) (pkt : NetPkt) :
    wp good anyState (rapsCreatePkt padRapsPdus buf pkt) (fun p t => (p.1 = 0 → p.2.octets =
      pkt.octets ++ rapsPduLayout.bytes (s.filled buf) ++ padding padRapsPdus) ∧ t = s) s := by
  have noBufs : (-ENOBUFS : Int) ≠ 0 := by decide
  refine wp_bind (wp_call fun data _ => ?_)
  refine wp_ite (fun _ => wp_pure ⟨fun ok => absurd ok noBufs, rfl⟩) fun _ => ?_
  refine wp_bind (wp_mono (rapsCreate_fills buf) ?_)
  rintro ⟨ret, pdu⟩ t ⟨fills, rfl⟩
  refine wp_ite (fun failed => wp_pure ⟨fun ok => absurd ok failed, rfl⟩) fun ok => ?_
  have pdu_eq : pdu = t.filled buf := fills (not_not.mp ok)
  refine wp_bind (wp_call fun set _ => ?_)
  refine wp_ite (fun _ => wp_pure ⟨fun ok => absurd ok noBufs, rfl⟩) fun _ => ?_
  rw [pdu_eq]
  refine wp_ite (fun pads => wp_bind (wp_call fun padded _ => wp_pure ⟨fun _ => ?_, rfl⟩))
    fun plain => wp_pure ⟨fun _ => ?_, rfl⟩
  · rw [padding, if_pos pads]
    rfl
  · rw [padding, if_neg plain, List.append_nil]
    rfl

end

theorem sentStatus_eq (s : Sys) : s.sentStatus = s.rAps.statusOctet := by
  have bits := statusBits s.node.pduMut.status.toBitVec
    (s.node.state = .protection && s.node.ports.port1.blocked)
  apply UInt8.toBitVec_inj.mp
  refine Eq.trans ?_ bits
  simp only [Sys.sentStatus, Bool.and_eq_true, decide_eq_true_eq]
  split <;> rfl

/-- The octets of a filled PDU: those of the script, but for the last. -/
theorem bytes_filled (s : Sys) (buf : RapsPdu) (version : s.node.rapsVer < 32) :
    rapsPduLayout.bytes (s.filled buf) = s.rAps.fields ++ [buf.endTlv] := by
  have melVer : rapsMel s.node = .ofBitVec (s.rAps.mel ++ s.rAps.ver) :=
    melVer_eq s.node.rapsMel s.node.rapsVer version
  have rsSc : s.node.pduMut.rsSc = .ofBitVec (s.rAps.requestState ++ s.rAps.subcode) :=
    rsSc_eq s.node.pduMut.rsSc
  have rfu : (Vector.replicate 24 (0 : UInt8)).toList = List.replicate 24 0 := rfl
  change [rapsMel s.node, rapsOpcode, rapsFlags, 32, s.node.pduMut.rsSc, s.sentStatus] ++
    (s.nodeId.toList ++ ((Vector.replicate 24 (0 : UInt8)).toList ++ [buf.endTlv])) = _
  rw [melVer, sentStatus_eq, rfu]
  conv_lhs => rw [rsSc]
  simp only [RAps.fields, List.append_assoc]
  rfl

/-- The PDU sent when the memory handed to the encoder holds `buf`. -/
def sentOctets (padRapsPdus : Bool) (ans : Answers KernelCall) (s : Sys) (buf : RapsPdu) :
    List UInt8 :=
  ((rapsCreatePkt padRapsPdus buf .empty).result ans s).2.octets

/-- The PDU could be built, whatever the memory held. -/
def Builds (padRapsPdus : Bool) (ans : Answers KernelCall) (s : Sys) : Prop :=
  ∀ buf, ((rapsCreatePkt padRapsPdus buf .empty).result ans s).1 = 0

/-- Of two prior contents of the memory, the PDUs sent are the same and the one of the
script, if and only if both held a zero in the place of the end TLV. -/
theorem sent_octets_iff {padRapsPdus : Bool} {ans : Answers KernelCall} {s : Sys}
    (builds : Builds padRapsPdus ans s) (version : s.node.rapsVer < 32) (buf buf' : RapsPdu) :
    (sentOctets padRapsPdus ans s buf = sentOctets padRapsPdus ans s buf' ∧
      sentOctets padRapsPdus ans s buf = s.rAps.octets ++ padding padRapsPdus) ↔
      buf.endTlv = 0 ∧ buf'.endTlv = 0 := by
  have sent (buf : RapsPdu) : sentOctets padRapsPdus ans s buf =
      s.rAps.fields ++ [buf.endTlv] ++ padding padRapsPdus := by
    have octets := ((rapsCreatePkt_octets s padRapsPdus buf .empty).post ans
      (respects_any ans)).1 (builds buf)
    rw [bytes_filled s buf version] at octets
    exact octets
  rw [sent buf, sent buf', RAps.octets]
  simp only [List.append_left_inj, List.append_right_inj, List.cons.injEq, and_true]
  constructor
  · rintro ⟨same, zero⟩
    exact ⟨zero, same ▸ zero⟩
  · rintro ⟨zero, zero'⟩
    exact ⟨zero.trans zero'.symm, zero⟩

/-- Memory of which every octet is `b`. -/
def memory (b : UInt8) : RapsPdu :=
  ⟨⟨b, b, b, b⟩, ⟨b, b, Vector.replicate 6 b, Vector.replicate 24 b⟩, b⟩

theorem sent_octets_iff_sample :
    let s := (sampleNode true false (sampleDevice 0 1) (sampleDevice 1 2)).started
    (sentOctets true allSucceed s (memory 0) = sentOctets true allSucceed s (memory 0xa5) ∧
      sentOctets true allSucceed s (memory 0) = s.rAps.octets ++ padding true) ↔
      (memory 0).endTlv = 0 ∧ (memory 0xa5).endTlv = 0 :=
  sent_octets_iff (fun _ => rfl) (by decide) (memory 0) (memory 0xa5)

/-- The last octet of the memory is sent as the end TLV. -/
theorem end_tlv_leaks : ¬∀ (s : Sys) (ans : Answers KernelCall) (buf buf' : RapsPdu),
    Builds false ans s → sentOctets false ans s buf = sentOctets false ans s buf' := by
  intro same
  have here := same (sampleNode true false (sampleDevice 0 1) (sampleDevice 1 2)).started
    allSucceed (memory 0) (memory 0xa5) fun _ => rfl
  exact absurd here (by decide)

end Erps
