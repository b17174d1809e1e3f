import Erps.Operations
import Erps.Properties.Acceptance
import Mathlib.Logic.Function.Basic

/-!
# The (node ID, BPR) pairs

Each link remembers the pair of the last R-APS PDU, and a PDU with another pair flushes the
forwarding database. What is remembered is what was last received as long as a PDU changes
both halves of the pair or neither; the decision to flush has, besides, the polarity of DNF
the wrong way round.
-/
namespace Erps

open Calls Runs

/-- The pair of a PDU, or the one a link remembers. -/
structure NodeIdBpr where
  nodeId : EthAddr
  bpr : UInt8
  deriving DecidableEq

namespace NodeIdBpr

/-- No pair. -/
def none : NodeIdBpr := ⟨zeroAddr, 0⟩

/-- What a link that remembers `old` remembers after a PDU with the pair `new`. -/
def replaced (old new : NodeIdBpr) : NodeIdBpr :=
  if new.bpr = old.bpr ∨ new.nodeId = old.nodeId then old else new

/-- Both halves differ, or neither. -/
def WholeChange (old new : NodeIdBpr) : Prop := new.bpr = old.bpr ↔ new.nodeId = old.nodeId

theorem replaced_eq_iff {old new : NodeIdBpr} : old.replaced new = new ↔ old.WholeChange new := by
  obtain ⟨oldId, oldBpr⟩ := old
  obtain ⟨newId, newBpr⟩ := new
  simp only [replaced, WholeChange]
  by_cases sameBpr : newBpr = oldBpr
  · by_cases sameId : newId = oldId
    · simp [sameBpr, sameId]
    · simp [sameBpr, sameId, Ne.symm sameId]
  · by_cases sameId : newId = oldId
    · simp [sameBpr, sameId, Ne.symm sameBpr]
    · simp [sameBpr, sameId]

end NodeIdBpr

def RapsPdu.nodeIdBpr (pdu : RapsPdu) : NodeIdBpr := ⟨pdu.rapsInfo.nodeId, if pdu.bpr then 1 else 0⟩

def Link.nodeIdBpr (l : Link) : NodeIdBpr := ⟨l.lastNodeId, l.bpr⟩

/-- The pairs the links remember. -/
def Sys.seen (s : Sys) (lnk : PortIdx) : NodeIdBpr := (s.link lnk).nodeIdBpr

section
variable {good : KernelCall → Int → Prop} {s : Sys} {lnk : PortIdx}

theorem seen_modLink (s : Sys) (lnk : PortIdx) (f : Link → Link) :
    (s.modLink lnk f).seen = Function.update s.seen lnk (f (s.link lnk)).nodeIdBpr := by
  funext l
  cases lnk <;> cases l <;> rfl

theorem seen_modLink_same (s : Sys) (lnk : PortIdx) {f : Link → Link}
    (same : ∀ l, (f l).nodeIdBpr = l.nodeIdBpr) : (s.modLink lnk f).seen = s.seen := by
  rw [seen_modLink, same]
  exact Function.update_eq_self lnk s.seen

theorem seen_deleteBoth (s : Sys) (lnk : PortIdx) :
    ((s.modLink lnk Link.deleteNodeIdBpr).modLink lnk.other Link.deleteNodeIdBpr).seen =
      fun _ => .none := by
  funext l
  cases lnk <;> cases l <;> rfl

theorem linkUnblock_seen : Frames good Sys.seen (linkUnblock lnk) := by
  have flag (f : Link → Link) (same : ∀ l, (f l).nodeIdBpr = l.nodeIdBpr) :
      Frames good Sys.seen (write fun s => s.modLink lnk f) :=
    frames_write fun s => seen_modLink_same s lnk same
  refine Frames.bind (flag _ fun _ => rfl) fun _ => ?_
  refine frames_read.bind fun blocked => frames_ite (fun _ => frames_pure) fun _ => ?_
  refine frames_read.bind fun dev => netIfLookupByDev_frames.bind fun found => ?_
  refine frames_ite (fun _ => frames_pure) fun _ => ?_
  refine Frames.bind (netEthPortSetEnabled_frames fun _ => rfl) fun ret => ?_
  refine frames_ite (fun _ => frames_pure) fun _ => ?_
  refine Frames.bind (flag _ fun _ => rfl) fun _ => ?_
  refine frames_read.bind fun vid => netEthGetVlanIface_frames.bind fun found => ?_
  refine frames_ite (fun _ => frames_pure) fun _ => ?_
  exact Frames.bind (frames_write fun _ => rfl) fun _ => frames_pure

/-- A link that is blocked forgets both pairs, and one that stays as it is, neither. -/
theorem linkBlock_seen (s : Sys) (lnk : PortIdx) : wp good anyState (linkBlock lnk) (fun _ t =>
    t.seen = if !(s.link lnk).blocked && (t.link lnk).blocked then fun _ => .none else s.seen) s := by
  refine wp_bind (wp_read (wp_ite (fun blocked => wp_pure ?_) fun opened => ?_))
  · simp [blocked]
  have flag : (s.link lnk).blocked = false := Bool.eq_false_iff.mpr opened
  have stays : s.seen = if !(s.link lnk).blocked && (s.link lnk).blocked then fun _ => .none
      else s.seen := by
    simp
  refine wp_bind (wp_read (wp_bind (wp_bind (wp_call fun found _ => wp_pure ?_))))
  refine wp_ite (fun _ => wp_pure stays) fun _ => ?_
  refine wp_bind (wp_bind (wp_call fun ret _ => ?_))
  refine wp_ite (fun failed => wp_pure ?_) fun _ => wp_bind (wp_write trivial (wp_pure ?_))
  · exact wp_ite (fun _ => wp_pure stays) fun ok => absurd failed ok
  refine wp_ite (fun failed => absurd rfl failed) fun _ => ?_
  refine wp_bind (wp_write trivial (wp_bind (wp_write trivial (wp_bind (wp_write trivial ?_)))))
  generalize now : Sys.modLink _ lnk.other Link.deleteNodeIdBpr = t
  have forgotten : t.seen = if !(s.link lnk).blocked && (t.link lnk).blocked then fun _ => .none
      else s.seen := by
    have both : t.seen = fun _ => .none := by
      rw [← now]
      exact seen_deleteBoth _ lnk
    have blocked : (t.link lnk).blocked = true := by
      rw [← now]
      cases lnk <;> rfl
    simp [both, flag, blocked]
  refine wp_bind (wp_read (wp_bind (wp_bind (wp_call fun vlan _ => wp_pure ?_))))
  exact wp_ite (fun _ => wp_pure forgotten) fun _ => wp_bind (wp_write trivial (wp_pure forgotten))

theorem memcmp_addr {a b : EthAddr} : memcmp a.toList b.toList = 0 ↔ a = b := by
  rw [memcmp_eq_zero_iff (by simp)]
  exact Vector.toList_inj

/-- What a PDU does to the pairs, whatever becomes of the flush. -/
theorem rapsNodeIdBprFlush_seen (s : Sys) (lnk : PortIdx) (req : Request) (pdu : RapsPdu) :
    wp good anyState (rapsNodeIdBprFlush lnk req pdu) (fun _ t =>
      t.seen = Function.update s.seen lnk
        (if req = .rapsNr then .none else (s.seen lnk).replaced pdu.nodeIdBpr)) s := by
  refine wp_ite (fun nr => ?_) fun other => ?_
  · refine wp_bind (wp_write trivial (wp_pure ?_))
    rw [seen_modLink, if_pos nr]
    rfl
  rw [if_neg other]
  have changed : memcmp (s.link lnk).lastNodeId.toList pdu.rapsInfo.nodeId.toList ≠ 0 ↔
      pdu.nodeIdBpr.nodeId ≠ (s.seen lnk).nodeId := by
    rw [Ne, memcmp_addr]
    exact not_congr eq_comm
  have unchanged_iff : ((if pdu.bpr then 1 else 0) = (s.link lnk).bpr ∨
      ¬memcmp (s.link lnk).lastNodeId.toList pdu.rapsInfo.nodeId.toList ≠ 0) ↔
      (pdu.nodeIdBpr.bpr = (s.seen lnk).bpr ∨ pdu.nodeIdBpr.nodeId = (s.seen lnk).nodeId) := by
    rw [changed, not_not]
    rfl
  refine wp_bind (wp_read (wp_ite (fun unchanged => wp_pure ?_) fun differs => ?_))
  · rw [NodeIdBpr.replaced, if_pos (unchanged_iff.mp unchanged)]
    exact (Function.update_eq_self lnk s.seen).symm
  refine wp_bind (wp_write trivial ?_)
  generalize now : s.modLink lnk _ = t
  have replaced : t.seen = Function.update s.seen lnk ((s.seen lnk).replaced pdu.nodeIdBpr) := by
    rw [← now, seen_modLink, NodeIdBpr.replaced, if_neg (mt unchanged_iff.mpr differs)]
    simp only [not_or, not_not] at differs
    simp only [differs.2, ne_eq, not_false_eq_true, if_true]
    rfl
  rw [← replaced]
  -- what is left reads and flushes
  have flushes : Frames good Sys.seen (flushFdb lnk) := flushFdb_frames fun _ => rfl
  refine Frames.ends (Frames.bind linkGetNodeId_frames fun id => ?_) t
  refine frames_ite (fun _ => frames_pure) fun _ => frames_ite (fun _ => frames_pure) fun _ => ?_
  exact frames_read.bind fun other => frames_ite (fun _ => flushes) fun _ => frames_pure

end

/-! ## What is remembered -/

/-- What the pairs of a node go through: PDUs of its ring that get past the guard timer,
and ports that are blocked or opened. -/
inductive PairCall where
  | recv (lnk : PortIdx) (req : RapsRequest) (pdu : RapsPdu)
  | block (lnk : PortIdx)
  | unblock (lnk : PortIdx)

def PairCall.prog : PairCall → M Int
  | .recv lnk req pdu => rapsNodeIdBprFlush lnk req.request pdu
  | .block lnk => linkBlock lnk
  | .unblock lnk => linkUnblock lnk

/-- A call with the answers to the calls made in it. -/
abbrev PairStep := PairCall × Answers KernelCall

namespace PairStep

def step (s : Sys) (x : PairStep) : Sys := x.1.prog.final x.2 s

/-- An R-APS(NR) on the link, or a new block of either port. -/
def deletes (lnk : PortIdx) (x : Sys × PairStep) : Bool :=
  match x.2.1 with
  | .recv there req _ => there = lnk ∧ req = .nr
  | .block there => !(x.1.link there).blocked && ((step x.1 x.2).link there).blocked
  | .unblock _ => false

/-- The pair of a PDU other than R-APS(NR) on the link. -/
def shows (lnk : PortIdx) (x : Sys × PairStep) : Option NodeIdBpr :=
  match x.2.1 with
  | .recv there req pdu => if there = lnk ∧ req ≠ .nr then some pdu.nodeIdBpr else none
  | .block _ | .unblock _ => none

/-- A PDU other than R-APS(NR) has a pair that differs from the one its link remembers in
both halves or in neither. -/
def WholeChange (s : Sys) (x : PairStep) : Prop :=
  match x.1 with
  | .recv lnk req pdu => req ≠ .nr → (s.seen lnk).WholeChange pdu.nodeIdBpr
  | .block _ | .unblock _ => True

end PairStep

/-- The pair last seen on a link since it was last deleted. -/
def lastSeen (lnk : PortIdx) (past : List (Sys × PairStep)) : NodeIdBpr :=
  (latestSince (PairStep.deletes lnk) (PairStep.shows lnk) past).getD .none

theorem lastSeen_concat (lnk : PortIdx) (past : List (Sys × PairStep)) (x : Sys × PairStep) :
    lastSeen lnk (past ++ [x]) = if PairStep.deletes lnk x then .none
      else (PairStep.shows lnk x).getD (lastSeen lnk past) := by
  unfold lastSeen
  rw [latestSince_concat]
  cases PairStep.deletes lnk x with
  | true => rfl
  | false => cases shown : PairStep.shows lnk x <;> simp

section
variable {s : Sys} {lnk there : PortIdx} {ans : Answers KernelCall}

theorem pduStep_seen (req : RapsRequest) (pdu : RapsPdu) :
    (PairStep.step s (.recv there req pdu, ans)).seen lnk = if lnk = there then
      (if req = .nr then .none else (s.seen there).replaced pdu.nodeIdBpr) else s.seen lnk := by
  have seen := (rapsNodeIdBprFlush_seen s there req.request pdu).post ans (respects_any ans)
  have isNr : req.request = .rapsNr ↔ req = .nr := by cases req <;> decide
  simp only [isNr] at seen
  exact (congrFun seen lnk).trans (Function.update_apply _ _ _ _)

theorem blockStep_seen : (PairStep.step s (.block there, ans)).seen lnk =
    if PairStep.deletes lnk (s, .block there, ans) then .none else s.seen lnk := by
  have seen := (linkBlock_seen s there).post ans (respects_any ans)
  rw [PairStep.step, PairCall.prog, seen]
  exact apply_ite (fun pairs : PortIdx → NodeIdBpr => pairs lnk) _ _ _

theorem unblockStep_seen : (PairStep.step s (.unblock there, ans)).seen = s.seen :=
  (linkUnblock_seen.ends s).post ans (respects_any ans)

/-- A step from a state in which what is remembered is what was last seen. -/
theorem stores_step_iff {past : List (Sys × PairStep)} (stored : ∀ lnk, s.seen lnk = lastSeen lnk past)
    (x : PairStep) : (∀ lnk, (PairStep.step s x).seen lnk = lastSeen lnk (past ++ [(s, x)])) ↔
      x.WholeChange s := by
  simp only [lastSeen_concat, ← stored]
  obtain ⟨c, ans⟩ := x
  cases c with
  | recv there req pdu =>
    simp only [pduStep_seen, PairStep.deletes, PairStep.shows, PairStep.WholeChange]
    by_cases nr : req = .nr
    · refine iff_of_true (fun lnk => ?_) fun other => absurd nr other
      by_cases here : lnk = there
      · simp [nr, here]
      · simp [nr, here, Ne.symm here]
    · constructor
      · intro all _
        have here := all there
        simp only [nr, ne_eq, not_false_eq_true, and_false, and_self, if_true, if_false,
          decide_false, Bool.false_eq_true, Option.getD_some] at here
        exact NodeIdBpr.replaced_eq_iff.mp here
      · intro whole lnk
        by_cases here : lnk = there
        · subst here
          simp [nr, NodeIdBpr.replaced_eq_iff.mpr (whole nr)]
        · simp [nr, here, Ne.symm here]
  | block there =>
    refine iff_of_true (fun lnk => ?_) trivial
    rw [blockStep_seen]
    rfl
  | unblock there =>
    refine iff_of_true (fun lnk => ?_) trivial
    rw [unblockStep_seen]
    rfl

end

/-! ### The state machine -/

theorem offTx_seen : OffTx Sys.seen where
  flush _ := rfl
  work s lnk f := by
    funext l
    cases lnk <;> cases l <;> rfl
  pdu _ _ _ := by
    funext l
    cases l <;> rfl
  note _ _ _ := rfl

/-- Each link remembers what it does in `pairs`, or nothing. -/
def Sys.Forgets (pairs : PortIdx → NodeIdBpr) (s : Sys) : Prop :=
  ∀ lnk, s.seen lnk = pairs lnk ∨ s.seen lnk = .none

section
variable {good : KernelCall → Int → Prop} {pairs : PortIdx → NodeIdBpr} {lnk : PortIdx}

theorem frames_forgets {α : Type} {m : M α} (h : Frames good Sys.seen m) :
    Keeps good (Sys.Forgets pairs) m :=
  h.keeps (P := fun seen : PortIdx → NodeIdBpr => ∀ lnk, seen lnk = pairs lnk ∨ seen lnk = .none)

theorem linkDeleteNodeIdBpr_forgets : Keeps good (Sys.Forgets pairs) (linkDeleteNodeIdBpr lnk) := by
  intro s now
  have after : (s.modLink lnk Link.deleteNodeIdBpr).Forgets pairs := by
    intro l
    rw [seen_modLink]
    by_cases here : l = lnk
    · subst here
      exact .inr (Function.update_self l _ _)
    · rw [Function.update_of_ne here]
      exact now l
  exact wp_write after after

theorem linkBlock_forgets : Keeps good (Sys.Forgets pairs) (linkBlock lnk) := by
  have flag (f : Link → Link) (same : ∀ l, (f l).nodeIdBpr = l.nodeIdBpr) :
      Keeps good (Sys.Forgets pairs) (write fun s => s.modLink lnk f) :=
    frames_forgets (frames_write fun s => seen_modLink_same s lnk same)
  refine keeps_read fun blocked => keeps_ite (fun _ => keeps_pure) fun _ => keeps_read fun dev => ?_
  refine (frames_forgets netIfLookupByDev_frames).bind fun found => keeps_ite (fun _ => keeps_pure) fun _ => ?_
  have disables : Keeps good (Sys.Forgets pairs) (netEthPortSetEnabled dev false) :=
    frames_forgets (netEthPortSetEnabled_frames fun _ => rfl)
  refine disables.bind fun ret => keeps_ite (fun _ => keeps_pure) fun _ => ?_
  refine Keeps.bind (flag _ fun _ => rfl) fun _ => linkDeleteNodeIdBpr_forgets.bind fun _ => ?_
  refine linkDeleteNodeIdBpr_forgets.bind fun _ => keeps_read fun vid => ?_
  refine (frames_forgets netEthGetVlanIface_frames).bind fun found => ?_
  refine keeps_ite (fun _ => keeps_pure) fun _ => ?_
  exact frames_forgets (Frames.bind (frames_write fun _ => rfl) fun _ => frames_pure)

/-- The state machine deletes pairs and does nothing else to them. -/
theorem fsmOp_forgets {guard : Prop} {α : Type} {m : M α} (op : FsmOp guard α m) :
    Keeps good (Sys.Forgets pairs) m := by
  cases op with
  | block lnk => exact linkBlock_forgets
  | unblock lnk => exact frames_forgets linkUnblock_seen
  | unblockForce lnk =>
    refine frames_forgets (Frames.bind (frames_write fun s => ?_) fun _ => linkUnblock_seen)
    exact seen_modLink_same s lnk fun _ => rfl
  | markFailed lnk req =>
    refine frames_forgets (frames_write fun s => ?_)
    split
    · exact seen_modLink_same s lnk fun _ => rfl
    · rfl
  | flush lnk => exact frames_forgets offTx_seen.flushFdb
  | schedTx reqState subcode status => exact frames_forgets offTx_seen.nodeSchedTx
  | stopTx => exact frames_forgets offTx_seen.nodeStopTx
  | startGuard _ => exact frames_forgets (frames_write fun _ => rfl)
  | startTimer t =>
    refine frames_forgets (nodeStartTimer_frames (fun _ _ => rfl) fun s f => ?_)
    cases t <;> rfl
  | stopTimer t =>
    refine frames_forgets (frames_write fun s => ?_)
    cases t with
    | wtr | wtb => rfl
    | linkDown lnk => funext l; cases lnk <;> cases l <;> rfl
  | resolve req => exact frames_forgets (fsmResolveReqPrio_frames fun _ _ => rfl)
  | goto next => exact frames_forgets (frames_write fun _ => rfl)
  | fault => exact frames_forgets (Frames.bind (frames_write fun _ => rfl) fun _ => frames_pure)

end

theorem Configured.unseen {n : Node} (h : Configured n) :
    n.ports.map Link.nodeIdBpr = ⟨.none, .none⟩ := by
  induction h with
  | dt d => rfl
  | setAsRpl lnk isOwner _ ih =>
    obtain ⟨none0, none1⟩ := Ports.mk.inj ih
    unfold Node.netErpsSetAsRpl
    split
    · exact ih
    · split
      · exact ih
      · cases lnk
        · exact congrArg₂ Ports.mk none1 none0
        · exact congrArg₂ Ports.mk none0 none1
  | unsetRpl lnk _ ih =>
    unfold Node.netErpsUnsetRpl
    split
    · exact ih
    · split
      · cases lnk <;> exact ih
      · exact ih
  | setRingId ringId _ ih =>
    unfold Node.netErpsSetRingId
    split <;> exact ih

theorem Sys.Booted.unseen {s : Sys} (booted : s.Booted) : s.seen = fun _ => .none := by
  obtain ⟨n, linkDown, configured, same, -⟩ := booted
  obtain ⟨none0, none1⟩ := Ports.mk.inj configured.unseen
  funext lnk
  rw [Sys.seen, Sys.link, same]
  cases lnk with
  | port0 => exact none0
  | port1 => exact none1

/-- A node that has just been initialised remembers no pair. -/
theorem InitialisedWith.unseen {good : KernelCall → Int → Prop} {s : Sys}
    (init : InitialisedWith good s) : s.seen = fun _ => .none := by
  obtain ⟨boot, ans, booted, answers, rfl⟩ := init
  have start : boot.Forgets fun _ => .none := fun lnk => .inr (congrFun booted.unseen lnk)
  have inits : Keeps good (Sys.Forgets fun _ => .none) fsmInit :=
    fsmInit_keeps (frames_forgets (frames_write fun _ => rfl)) fun _ _ op => fsmOp_forgets op
  have after := (inits boot start).post ans answers
  funext lnk
  exact (after lnk).elim id id

/-! ### Along runs -/

/-- Along every run of PDUs and blocks that starts with no pair remembered, the pair of each
link is the one last seen on it, if and only if each PDU changes both halves of the pair of
its link or neither. -/
theorem stores_last_iff {s : Sys} {xs : List PairStep} (fresh : s.seen = fun _ => .none) :
    EachState PairStep.step s xs (fun pre t => ∀ lnk,
        t.seen lnk = lastSeen lnk (history PairStep.step s pre)) ↔
      EachStep PairStep.step s xs fun _ t x => x.WholeChange t := by
  have inv : EachState PairStep.step s xs fun _ _ => True := fun _ _ => trivial
  refine eachState_iff_eachStep inv ?_ ?_
  · intro lnk
    rw [fresh]
    rfl
  · rintro pre t x rfl - - stored
    rw [history_concat]
    exact stores_step_iff stored x

/-- A PDU of another node. -/
def foreignPdu (req status : UInt8) : RapsPdu :=
  ⟨⟨0, rapsOpcode, 0, 32⟩, ⟨req <<< rapsRsShift, status, (sampleDevice 0 9).addr, Vector.replicate 24 0⟩, 0⟩

/-- On link 0 the blocked port is port 1 of the sender, and then the sender is open. -/
theorem stores_last_iff_sample :
    let xs : List PairStep := [(.recv .port0 .sf (foreignPdu rapsSf rapsBpr), allSucceed),
      (.recv .port0 .nr (foreignPdu rapsNr 0), allSucceed), (.block .port1, allSucceed)]
    EachState PairStep.step samplePlain xs (fun pre t => ∀ lnk,
        t.seen lnk = lastSeen lnk (history PairStep.step samplePlain pre)) ↔
      EachStep PairStep.step samplePlain xs fun _ t x => x.WholeChange t :=
  stores_last_iff samplePlain_initialised.unseen

/-- A first PDU whose blocked port is port 0 of the sender. -/
theorem pair_not_stored :
    ¬∀ (s : Sys) (xs : List PairStep), (s.seen = fun _ => .none) →
      EachState PairStep.step s xs fun pre t => ∀ lnk,
        t.seen lnk = lastSeen lnk (history PairStep.step s pre) := by
  intro stores
  have here := (stores samplePlain [(.recv .port0 .sf (foreignPdu rapsSf 0), allSucceed)]
    samplePlain_initialised.unseen).last .port0
  exact absurd here (by decide)

/-! ## The decision to flush -/

/-- From a call that can fail only in the flush itself: a flush, or the failure of one. -/
def FlushAsked (s : Sys) (ret : Int) (t : Sys) : Prop := t.fdbFlushes ≠ s.fdbFlushes ∨ ret ≠ 0

/-- When a PDU is to flush the forwarding database. -/
def FlushDue (s : Sys) (lnk : PortIdx) (req : Request) (pdu : RapsPdu) : Prop :=
  req ≠ .rapsNr ∧ ¬pdu.dnf ∧ pdu.rapsInfo.nodeId ≠ s.nodeId ∧
    pdu.nodeIdBpr ≠ s.seen lnk ∧ pdu.nodeIdBpr ≠ s.seen lnk.other

/-- A half of the pair is the one the link remembers. -/
def NodeIdBpr.Shares (old new : NodeIdBpr) : Prop := new.bpr = old.bpr ∨ new.nodeId = old.nodeId

/-- When it does. -/
def FlushDone (s : Sys) (lnk : PortIdx) (req : Request) (pdu : RapsPdu) : Prop :=
  req ≠ .rapsNr ∧ pdu.dnf ∧ pdu.rapsInfo.nodeId ≠ s.nodeId ∧
    ¬(s.seen lnk).Shares pdu.nodeIdBpr ∧ pdu.nodeIdBpr ≠ s.seen lnk.other

section
variable {s : Sys} {lnk : PortIdx}

theorem flushFdb_asks {good : KernelCall → Int → Prop} (s : Sys) :
    wp good anyState (flushFdb lnk) (FlushAsked s) s := by
  refine wp_bind (wp_read (wp_bind (wp_bind (wp_call fun found _ => wp_pure ?_))))
  refine wp_ite (fun _ => wp_pure (.inr (by decide))) fun _ => ?_
  refine wp_bind (wp_call fun ret _ => wp_ite (fun failed => wp_pure (.inr failed)) fun _ => ?_)
  exact wp_bind (wp_write trivial (wp_pure (.inl (Nat.succ_ne_self _))))

theorem rapsNodeIdBprFlush_asks (s : Sys) (req : Request) (pdu : RapsPdu) :
    wp (Readable s.node.ports.port0.dev) anyState (rapsNodeIdBprFlush lnk req pdu)
      (fun ret t => FlushAsked s ret t ↔ FlushDone s lnk req pdu) s := by
  have nothing (t : Sys) (same : t.fdbFlushes = s.fdbFlushes) (not : ¬FlushDone s lnk req pdu) :
      FlushAsked s 0 t ↔ FlushDone s lnk req pdu := by
    refine iff_of_false ?_ not
    rintro (flushed | failed)
    · exact flushed same
    · exact failed rfl
  refine wp_ite (fun nr => ?_) fun other => ?_
  · refine wp_bind (wp_write trivial (wp_pure (nothing _ rfl fun done => done.1 nr)))
  have shares_iff : ((if pdu.bpr then 1 else 0) = (s.link lnk).bpr ∨
      ¬memcmp (s.link lnk).lastNodeId.toList pdu.rapsInfo.nodeId.toList ≠ 0) ↔
      (s.seen lnk).Shares pdu.nodeIdBpr := by
    rw [not_not, memcmp_addr, eq_comm (a := (s.link lnk).lastNodeId)]
    rfl
  refine wp_bind (wp_read (wp_ite (fun shares => wp_pure ?_) fun differs => ?_))
  · exact nothing s rfl fun done => done.2.2.2.1 (shares_iff.mp shares)
  refine wp_bind (wp_write trivial ?_)
  generalize now : s.modLink lnk _ = t
  have same : t.fdbFlushes = s.fdbFlushes := by rw [← now]; rfl
  have dev : t.node.ports.port0.dev = s.node.ports.port0.dev := by
    rw [← now]
    cases lnk <;> rfl
  have others : t.seen lnk.other = s.seen lnk.other := by
    rw [← now, seen_modLink]
    exact Function.update_of_ne (by cases lnk <;> decide) _ _
  rw [← dev]
  refine wp_bind (wp_mono (linkGetNodeId_readable t fun _ _ h => h) ?_)
  rintro _ t ⟨rfl, rfl⟩
  refine wp_ite (fun failed => absurd rfl failed) fun _ => wp_ite (fun quiet => wp_pure ?_) fun loud => ?_
  · refine nothing _ same fun done => ?_
    rcases quiet with clear | own
    · exact clear done.2.1
    · refine done.2.2.1 ?_
      rw [memcmp_addr] at own
      rw [← own, Sys.nodeId, dev]
      rfl
  have loud' : pdu.dnf ∧ pdu.rapsInfo.nodeId ≠ s.nodeId := by
    simp only [not_or, not_not, memcmp_addr] at loud
    refine ⟨loud.1, fun own => loud.2 ?_⟩
    rw [own, Sys.nodeId, dev]
    rfl
  have new_iff : ((if pdu.bpr then 1 else 0) ≠ (t.link lnk.other).bpr ∨
      memcmp (t.link lnk.other).lastNodeId.toList pdu.rapsInfo.nodeId.toList ≠ 0) ↔
      pdu.nodeIdBpr ≠ s.seen lnk.other := by
    rw [← others, Ne, Ne, memcmp_addr, ← not_and_or, eq_comm (a := (t.link lnk.other).lastNodeId)]
    refine not_congr (Iff.trans ?_ (NodeIdBpr.mk.injEq ..).to_iff.symm)
    exact and_comm
  refine wp_bind (wp_read (wp_ite (fun new => ?_) fun seen => wp_pure (nothing t same fun done => ?_)))
  · refine wp_mono (flushFdb_asks t) fun ret u asked => iff_of_true ?_ ?_
    · rwa [FlushAsked, same] at asked
    · exact ⟨other, loud'.1, loud'.2, mt shares_iff.mpr differs, new_iff.mp new⟩
  · exact seen (new_iff.mpr done.2.2.2.2)

end

/-- A PDU flushes the forwarding database exactly when it is due, if and only if it is an
R-APS(NR), comes from the node itself, has the pair of one of the two links, or has DNF set
and half of the pair of its link. -/
theorem flush_decision_iff (s : Sys) (lnk : PortIdx) (req : Request) (pdu : RapsPdu)
    (ans : Answers KernelCall) (readable : Respects (Readable s.node.ports.port0.dev) ans) :
    (FlushAsked s ((rapsNodeIdBprFlush lnk req pdu).result ans s)
        ((rapsNodeIdBprFlush lnk req pdu).final ans s) ↔ FlushDue s lnk req pdu) ↔
      req = .rapsNr ∨ pdu.rapsInfo.nodeId = s.nodeId ∨ pdu.nodeIdBpr = s.seen lnk ∨
        pdu.nodeIdBpr = s.seen lnk.other ∨ (pdu.dnf ∧ (s.seen lnk).Shares pdu.nodeIdBpr) := by
  rw [(rapsNodeIdBprFlush_asks s req pdu).post ans readable]
  have shares (same : pdu.nodeIdBpr = s.seen lnk) : (s.seen lnk).Shares pdu.nodeIdBpr := by
    rw [same]
    exact .inl rfl
  constructor
  · intro agree
    by_contra none
    simp only [not_or, not_and] at none
    obtain ⟨other, foreign, new, newOther, whole⟩ := none
    by_cases dnf : pdu.dnf = true
    · exact (agree.mp ⟨other, dnf, foreign, whole dnf, newOther⟩).2.1 dnf
    · exact dnf (agree.mpr ⟨other, dnf, foreign, new, newOther⟩).2.1
  · rintro (nr | own | known | knownOther | ⟨dnf, half⟩)
    · exact iff_of_false (fun done => done.1 nr) fun due => due.1 nr
    · exact iff_of_false (fun done => done.2.2.1 own) fun due => due.2.2.1 own
    · exact iff_of_false (fun done => done.2.2.2.1 (shares known)) fun due => due.2.2.2.1 known
    · exact iff_of_false (fun done => done.2.2.2.2 knownOther) fun due => due.2.2.2.2 knownOther
    · exact iff_of_false (fun done => done.2.2.2.1 half) fun due => due.2.1 dnf

theorem allSucceed_readable (dev : Device) : Respects (Readable dev) allSucceed :=
  fun n c => success_readable dev c _ (allSucceed_respects n c)

/-- An R-APS(SF) of another node, of which only the BPR is the one remembered. -/
theorem flush_decision_iff_sample :
    let pdu := foreignPdu rapsSf rapsDnf
    (FlushAsked samplePlain ((rapsNodeIdBprFlush .port0 .rapsSf pdu).result allSucceed samplePlain)
        ((rapsNodeIdBprFlush .port0 .rapsSf pdu).final allSucceed samplePlain) ↔
      FlushDue samplePlain .port0 .rapsSf pdu) ↔
      Request.rapsSf = .rapsNr ∨ pdu.rapsInfo.nodeId = samplePlain.nodeId ∨
        pdu.nodeIdBpr = samplePlain.seen .port0 ∨ pdu.nodeIdBpr = samplePlain.seen .port1 ∨
        (pdu.dnf ∧ (samplePlain.seen .port0).Shares pdu.nodeIdBpr) :=
  flush_decision_iff samplePlain .port0 .rapsSf (foreignPdu rapsSf rapsDnf) allSucceed (allSucceed_readable _)

/-- DNF is clear and the pair is new to both links, and nothing is flushed. -/
theorem flush_missed :
    ¬∀ (s : Sys) (lnk : PortIdx) (req : Request) (pdu : RapsPdu) (ans : Answers KernelCall),
      Respects (Readable s.node.ports.port0.dev) ans →
      (FlushAsked s ((rapsNodeIdBprFlush lnk req pdu).result ans s)
        ((rapsNodeIdBprFlush lnk req pdu).final ans s) ↔ FlushDue s lnk req pdu) := by
  intro decides
  have here := decides samplePlain .port0 .rapsSf (foreignPdu rapsSf rapsBpr) allSucceed (allSucceed_readable _)
  have due : FlushDue samplePlain .port0 .rapsSf (foreignPdu rapsSf rapsBpr) := by
    refine ⟨?_, ?_, ?_, ?_, ?_⟩ <;> decide
  have notAsked : ¬FlushAsked samplePlain
      ((rapsNodeIdBprFlush .port0 .rapsSf (foreignPdu rapsSf rapsBpr)).result allSucceed samplePlain)
      ((rapsNodeIdBprFlush .port0 .rapsSf (foreignPdu rapsSf rapsBpr)).final allSucceed samplePlain) := by
    rintro (flushed | failed)
    · exact flushed (by decide)
    · exact failed (by decide)
  exact notAsked (here.mpr due)

end Erps
