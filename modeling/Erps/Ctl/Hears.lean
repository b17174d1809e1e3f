import Erps.Ctl.Refines
import Erps.Footprints
import Erps.Receive

/-!
# What a node says and what it hears

PDUs as the state machine sees them, when every call succeeds: a PDU that is sent
carries the request/state and the status the state machine announces, and one that is
received is at most one request to it.
-/
namespace Erps

open Calls

variable {s : Sys} {lnk : PortIdx} {pdu : RapsPdu}

/-! ### Sending -/

theorem bpr_noRb (status : UInt8) : (status ||| rapsBpr) &&& rapsRb = status &&& rapsRb := by
  have apart : rapsBpr.toNat &&& rapsRb.toNat = 0 := by decide
  apply UInt8.toNat_inj.mp
  rw [UInt8.toNat_and, UInt8.toNat_or, Nat.and_or_distrib_right, apart, Nat.or_zero,
    UInt8.toNat_and]

/-- The PDU carries what the node announces, whatever the calls answer; the status may
have the BPR bit set. -/
theorem rapsCreate_carries {good : KernelCall → Int → Prop} (s : Sys) (buf : RapsPdu) :
    wp good anyState (rapsCreate buf) (fun p _ => p.2.rapsInfo.rsSc = s.ctl.rsSc ∧
      p.2.rapsInfo.status &&& rapsRb = s.ctl.status &&& rapsRb) s := by
  unfold rapsCreate
  have status : (if s.node.state = .protection ∧ s.node.ports.port1.blocked = true then
      s.node.pduMut.status ||| rapsBpr else s.node.pduMut.status) &&& rapsRb =
        s.ctl.status &&& rapsRb := by
    split
    · exact bpr_noRb _
    · rfl
  have looks : Frames good Sys.ctl linkGetNodeId := linkGetNodeId_frames
  refine wp_bind (wp_read (wp_bind (wp_mono (looks.ends s) ?_)))
  intro got t _
  exact wp_ite (fun _ => wp_pure ⟨rfl, status⟩) fun _ => wp_pure ⟨rfl, status⟩

/-! ### Receiving -/

/-- Nothing reaches the state machine, or the request the PDU is. -/
def Heard (lnk : PortIdx) (pdu : RapsPdu) (s t : Sys) : Prop :=
  t.setup = s.setup ∧ (t.ctl = s.ctl ∨ ∃ req, rapsRequest s.node.rapsVer pdu = some req ∧
    t.ctl = s.ctl.post (s.setup.seenWith (some pdu)) lnk req.request)

theorem heard_nothing {t : Sys} (same : t.ctl = s.ctl) (setup : t.setup = s.setup) :
    Heard lnk pdu s t := ⟨setup, .inl same⟩

theorem isLocalRapsFrame_frames {α : Type} {good : KernelCall → Int → Prop} {view : Sys → α} :
    Frames good view (isLocalRapsFrame pdu) :=
  linkGetNodeId_frames.bind fun _ => frames_ite (fun _ => frames_pure) fun _ => frames_pure

theorem rapsNodeIdBprFlush_leads (s : Sys) (lnk : PortIdx) (req : Request) (pdu : RapsPdu) :
    Leads (rapsNodeIdBprFlush lnk req pdu) s 0 s.ctl := by
  unfold rapsNodeIdBprFlush
  refine Leads.ite (fun _ => ?_) fun _ => ?_
  · have deletes : Leads (linkDeleteNodeIdBpr lnk) s () s.ctl := by
      refine wp_write trivial ⟨rfl, ?_, s.modLink_setup lnk _ fun _ => ⟨rfl, rfl⟩⟩
      cases lnk <;> rfl
    exact deletes.bind fun t same _ => leads_pure same
  refine leads_read (Leads.ite (fun _ => leads_pure rfl) fun _ => ?_)
  have replaces (bpr : UInt8) (nodeId : Link → EthAddr) : Leads (write fun s => s.modLink lnk
      fun l => { l with bpr := bpr, lastNodeId := nodeId l }) s () s.ctl := by
    refine wp_write trivial ⟨rfl, ?_, s.modLink_setup lnk _ fun _ => ⟨rfl, rfl⟩⟩
    cases lnk <;> rfl
  refine (replaces _ _).bind fun t same _ => (linkGetNodeId_leads t).bind fun u same' _ => ?_
  have kept : u.ctl = s.ctl := same'.trans same
  refine Leads.ite (fun failed => absurd rfl failed) fun _ => ?_
  refine Leads.ite (fun _ => leads_pure kept) fun _ => ?_
  exact leads_read (Leads.ite (fun _ => (flushFdb_leads u lnk).cast kept) fun _ => leads_pure kept)

theorem handleRapsEvent_silent (s : Sys) (lnk : PortIdx) (pdu : RapsPdu) :
    wp Success anyState (handleRapsEvent lnk pdu) (fun _ t => t.ctl = s.ctl ∧ t.setup = s.setup) s := by
  refine wp_ite (fun _ => wp_pure ⟨rfl, rfl⟩) fun _ => ?_
  refine wp_ite (fun _ => wp_pure ⟨rfl, rfl⟩) fun _ => ?_
  exact wp_mono (flushFdb_leads s lnk) fun _ t h => h.2

theorem rapsRecv_heard (lnk : PortIdx) (pdu : RapsPdu) (formed : s.setup.WellFormed) :
    wp Success anyState (rapsRecv lnk pdu) (fun _ t => Heard lnk pdu s t) s := by
  refine wp_bind (wp_read ?_)
  refine wp_ite (fun _ => wp_pure (heard_nothing rfl rfl)) fun _ => ?_
  refine wp_ite (fun _ => ?_) fun _ => ?_
  · refine wp_bind (wp_mono (handleRapsEvent_silent s lnk pdu) ?_)
    exact fun _ t h => wp_pure (heard_nothing h.1 h.2)
  cases named : rapsRequest s.node.rapsVer pdu with
  | none => exact wp_pure (heard_nothing rfl rfl)
  | some req =>
    refine wp_bind (wp_read (wp_ite (fun _ => wp_pure (heard_nothing rfl rfl)) fun _ => ?_))
    refine wp_bind (wp_mono (rapsNodeIdBprFlush_leads s lnk req.request pdu) ?_)
    rintro _ t ⟨-, same, setup⟩
    have valid : req.request ≠ .invalid := by cases req <;> decide
    refine wp_bind (wp_mono (fsmPost_leads t lnk req.request (some pdu) (fun _ => rfl) valid
      (setup ▸ formed)) ?_)
    rintro _ u ⟨-, posted, setup'⟩
    refine wp_pure ⟨setup'.trans setup, .inr ⟨req, named, ?_⟩⟩
    rw [posted, same, setup]

theorem pduRecv_heard (lnk : PortIdx) (pdu : RapsPdu) (formed : s.setup.WellFormed) :
    wp Success anyState (pduRecv lnk pdu) (fun _ t => Heard lnk pdu s t) s := by
  have looks : Frames Success (fun s : Sys => s) (isLocalRapsFrame pdu) := isLocalRapsFrame_frames
  refine wp_bind (wp_mono (looks.ends s) ?_)
  rintro own t rfl
  exact wp_ite (fun _ => wp_pure (heard_nothing rfl rfl)) fun _ => rapsRecv_heard lnk pdu formed

/-- Only a PDU with the RB bit is an R-APS(NR,RB). -/
theorem rapsRequest_nrRb {ver : UInt8} (named : rapsRequest ver pdu = some .nrRb) :
    pdu.rapsInfo.status &&& rapsRb ≠ 0 := by
  unfold rapsRequest at named
  grind [RapsPdu.rb]

end Erps
