import Erps.Runs
import Erps.Sending

/-!
# Bursts of three

An announcement that is new is sent three times in quick succession on each port, before the
long period begins. What a port still owes of it is counted here from the PDUs that are
really sent, so the burst counter of the port can be compared with it.
-/
namespace Erps

open Calls Runs

/-- What happens to the transmission of a node. -/
inductive TxCall where
  | schedTx (reqState subcode status : UInt8)
  | stopTx
  | txWork (lnk : PortIdx) (buf : RapsPdu)
  | ifaceUp (lnk : PortIdx)
  | ifaceDown (lnk : PortIdx)

/-- The request/state and subcode are ones that are sent. -/
def announceable (reqState subcode : UInt8) : Bool :=
  validReqState reqState && (subcode == 0 || reqState == rapsEvent)

def announced (reqState subcode status : UInt8) : RapsPduMut :=
  ⟨(reqState <<< rapsRsShift) ||| subcode, status⟩

namespace TxCall

def prog (padRapsPdus : Bool) : TxCall → M Unit
  | schedTx reqState subcode status => do
    let _ ← nodeSchedTx reqState subcode status
  | stopTx => nodeStopTx
  | txWork lnk buf => runTxWork padRapsPdus buf lnk
  | ifaceUp lnk => notifyIfaceUp lnk
  | ifaceDown lnk => (Event.iface lnk false).prog

/-- What the call does to the ports. -/
def sends (c : TxPorts) : TxCall → TxPorts
  | schedTx reqState subcode status =>
    if announceable reqState subcode then c.schedTx (announced reqState subcode status) else c
  | stopTx => c.stopTx
  | txWork lnk _ => c.runWork lnk
  | ifaceUp lnk => c.ifaceUp lnk
  | ifaceDown lnk => c.ifaceDown lnk

end TxCall

/-- What is announced, if anything is, and how many PDUs of the burst each port owes. -/
structure Duty where
  content : Option RapsPduMut
  owed : PortIdx → Nat

namespace Duty

def none : Duty := ⟨.none, fun _ => 0⟩

/-- The duty after a call, from what the ports have sent before and after it. -/
def next (d : Duty) (before after : TxPorts) : TxCall → Duty
  | .schedTx reqState subcode status =>
    let pdu := announced reqState subcode status
    if announceable reqState subcode ∧ d.content ≠ some pdu then ⟨some pdu, fun _ => 3⟩ else d
  | .stopTx => none
  | .txWork _ _ | .ifaceUp _ | .ifaceDown _ => { d with
    owed := fun lnk => d.owed lnk - ((after.port lnk).sent - (before.port lnk).sent) }

end Duty

/-- If anything is owed the counter has it all, and with the interface up the next PDU is sent
at the burst period. -/
def TxPort.Pays (p : TxPort) (owed : Nat) : Prop :=
  0 < owed → p.burst.toNat + 1 = owed ∧ (p.up = true → p.timeout = some erpsTxBurstPeriod)

/-- Both ports send the bursts they owe. -/
def Bursting (c : TxPorts) (d : Duty) : Prop := ∀ lnk, (c.port lnk).Pays (d.owed lnk)

/-- A call that does not cut a burst short. What the PDU says already is only announced again
once it has been sent three times; while an interface is down the work does not run with more
than one PDU owed; and an interface does not come up with exactly one owed. -/
def Patient (c : TxPorts) (d : Duty) : TxCall → Prop
  | .schedTx reqState subcode status =>
    announceable reqState subcode = true → c.pdu = announced reqState subcode status →
      d.content = some c.pdu ∧ ∀ lnk, d.owed lnk = 0 ∨ d.owed lnk = 1 ∧ (c.port lnk).up = false
  | .txWork lnk _ => (c.port lnk).timeout.isSome = true → (c.port lnk).up = false → d.owed lnk ≤ 1
  | .ifaceUp lnk => d.owed lnk ≠ 1
  | .stopTx | .ifaceDown _ => True

/-- What is announced is what the PDU says. -/
def Announces (c : TxPorts) (d : Duty) : Prop := ∀ pdu, d.content = some pdu → c.pdu = pdu

/-! ### One call -/

section
variable {c : TxPorts} {d : Duty}

theorem announces_next (now : Announces c d) (x : TxCall) :
    Announces (x.sends c) (d.next c (x.sends c) x) := by
  cases x with
  | schedTx reqState subcode status =>
    intro pdu holds
    by_cases valid : announceable reqState subcode = true
    · have sent : ((TxCall.schedTx reqState subcode status).sends c).pdu =
          announced reqState subcode status := congrArg TxPorts.pdu (if_pos valid)
      rw [sent]
      by_cases same : d.content = some (announced reqState subcode status)
      · have kept : d.content = some pdu := by simpa [Duty.next, same] using holds
        exact Option.some.inj (same.symm.trans kept)
      · simpa [Duty.next, valid, same] using holds
    · simp only [TxCall.sends, Duty.next, valid] at holds ⊢
      exact now pdu holds
  | stopTx => intro pdu holds; cases holds
  | txWork lnk buf =>
    have kept : (c.runWork lnk).pdu = c.pdu := by
      unfold TxPorts.runWork
      split <;> rfl
    intro pdu holds
    exact kept.trans (now pdu holds)
  | ifaceUp lnk => exact now
  | ifaceDown lnk => exact now

/-- A port whose burst starts anew. -/
theorem schedule_pays (p : TxPort) : (p.schedule erpsRapsBurst).Pays 3 := by
  intro _
  unfold TxPort.schedule
  split
  · exact ⟨rfl, fun _ => rfl⟩
  · next down => exact ⟨rfl, fun up => absurd up down⟩

/-- A port that is scheduled without a burst. -/
theorem schedule_ends (p : TxPort) : (p.schedule 0).burst = 0 ∧ (p.schedule 0).up = p.up ∧
    (p.up = true → (p.schedule 0).timeout = some erpsTxPeriod) := by
  unfold TxPort.schedule
  split
  · exact ⟨rfl, rfl, fun _ => rfl⟩
  · next down => exact ⟨rfl, rfl, fun up => absurd up down⟩

/-- A burst has lost nothing by its port being scheduled without one. -/
theorem schedule_pays_iff (p : TxPort) (owed : Nat) :
    (p.schedule 0).Pays owed ↔ owed = 0 ∨ owed = 1 ∧ p.up = false := by
  obtain ⟨burst, up, waits⟩ := schedule_ends p
  have slow : some erpsTxPeriod ≠ some erpsTxBurstPeriod := by decide
  rw [TxPort.Pays, burst, up]
  constructor
  · intro kept
    rcases Nat.eq_zero_or_pos owed with none | some
    · exact .inl none
    · obtain ⟨one, soon⟩ := kept some
      refine .inr ⟨one.symm, Bool.eq_false_iff.mpr fun up => slow ?_⟩
      exact (waits up).symm.trans (soon up)
  · rintro (none | ⟨one, down⟩) some
    · exact absurd none (Nat.ne_of_gt some)
    · refine ⟨one.symm, fun up => ?_⟩
      rw [down] at up
      cases up

theorem schedTx_bursting {reqState subcode status : UInt8} (announces : Announces c d)
    (now : Bursting c d) :
    Bursting ((TxCall.schedTx reqState subcode status).sends c)
        (d.next c ((TxCall.schedTx reqState subcode status).sends c) (.schedTx reqState subcode status)) ↔
      Patient c d (.schedTx reqState subcode status) := by
  by_cases valid : announceable reqState subcode = true
  case neg =>
    simp only [TxCall.sends, Duty.next, valid]
    exact ⟨fun _ yes => absurd yes valid, fun _ => now⟩
  have sent : (TxCall.schedTx reqState subcode status).sends c =
      c.schedTx (announced reqState subcode status) := if_pos valid
  rw [sent]
  by_cases same : d.content = some (announced reqState subcode status)
  · -- what is announced already
    have kept : d.next c (c.schedTx (announced reqState subcode status))
        (.schedTx reqState subcode status) = d := if_neg fun new => new.2 same
    have pdu_eq : c.pdu = announced reqState subcode status := announces _ same
    have port_eq (lnk : PortIdx) : (c.schedTx (announced reqState subcode status)).port lnk =
        (c.port lnk).schedule 0 := congrArg (fun burst => (c.port lnk).schedule burst) (if_pos pdu_eq)
    rw [kept]
    simp only [Bursting, port_eq, schedule_pays_iff]
    exact ⟨fun all _ _ => ⟨same.trans (congrArg some pdu_eq.symm), all⟩,
      fun patient => (patient valid pdu_eq).2⟩
  · have new : d.next c (c.schedTx (announced reqState subcode status))
        (.schedTx reqState subcode status) =
        ⟨some (announced reqState subcode status), fun _ => 3⟩ := if_pos ⟨valid, same⟩
    rw [new]
    by_cases pdu_eq : c.pdu = announced reqState subcode status
    · -- what TX was stopped with: no burst follows
      constructor
      · intro all
        have burst : 0 + 1 = 3 := by
          have first := (all .port0 (Nat.zero_lt_succ 2)).1
          have port_eq : (c.schedTx (announced reqState subcode status)).port .port0 =
              (c.port .port0).schedule 0 :=
            congrArg (fun burst => (c.port .port0).schedule burst) (if_pos pdu_eq)
          rw [port_eq, (schedule_ends _).1] at first
          exact first
        cases burst
      · intro patient
        exact absurd ((patient valid pdu_eq).1.trans (congrArg some pdu_eq)) same
    · refine ⟨fun _ _ old => absurd old pdu_eq, fun _ lnk => ?_⟩
      have port_eq : (c.schedTx (announced reqState subcode status)).port lnk =
          (c.port lnk).schedule erpsRapsBurst :=
        congrArg (fun burst => (c.port lnk).schedule burst) (if_neg pdu_eq)
      have pays : ((c.schedTx (announced reqState subcode status)).port lnk).Pays 3 :=
        port_eq ▸ schedule_pays (c.port lnk)
      exact pays

/-- Of a change of one port that port decides. -/
theorem mod_bursting_iff (now : Bursting c d) (lnk : PortIdx) (f : TxPort → TxPort) :
    Bursting (c.mod lnk f) { d with
        owed := fun there => d.owed there - (((c.mod lnk f).port there).sent - (c.port there).sent) } ↔
      (f (c.port lnk)).Pays (d.owed lnk - ((f (c.port lnk)).sent - (c.port lnk).sent)) := by
  have here : (c.mod lnk f).port lnk = f (c.port lnk) := Function.update_self ..
  constructor
  · intro all
    have own := all lnk
    simp only [here] at own
    exact own
  · intro pays there
    by_cases same : there = lnk
    · subst same
      simp only [here]
      exact pays
    · have other : (c.mod lnk f).port there = c.port there := Function.update_of_ne same ..
      simp only [other, Nat.sub_self, Nat.sub_zero]
      exact now there

theorem work_burst (p : TxPort) : p.work.burst.toNat = p.burst.toNat - 1 := by
  unfold TxPort.work
  split
  · next left =>
    have positive : 1 ≤ p.burst := by
      rw [UInt8.le_iff_toNat_le]
      have left : p.burst.toNat ≠ 0 := fun none => left (UInt8.toNat_inj.mp none)
      exact Nat.one_le_iff_ne_zero.mpr left
    exact UInt8.toNat_sub_of_le _ _ positive
  · next none =>
    rw [not_not.mp none]
    rfl

theorem delay_of_left {p : TxPort} (left : p.burst.toNat ≠ 0) : p.delay = erpsTxBurstPeriod :=
  if_pos fun none => left (congrArg UInt8.toNat none)

theorem delay_of_none {p : TxPort} (none : p.burst.toNat = 0) : p.delay = erpsTxPeriod :=
  if_neg (not_not.mpr (UInt8.toNat_inj.mp none))

theorem work_pays_iff {p : TxPort} {owed : Nat} (now : p.Pays owed) :
    p.work.Pays (owed - (p.work.sent - p.sent)) ↔ (p.up = false → owed ≤ 1) := by
  cases up : p.up with
  | true =>
    have sent : p.work.sent = p.sent + 1 := if_pos up
    rw [sent, Nat.add_sub_cancel_left]
    refine ⟨fun _ down => (by cases down), fun _ owes => ?_⟩
    have burst := (now (by omega)).1
    refine ⟨?_, fun _ => ?_⟩
    · rw [work_burst]
      omega
    · exact congrArg some (delay_of_left (by omega))
  | false =>
    have sent : p.work.sent = p.sent := if_neg (by simp [up])
    rw [sent, Nat.sub_self, Nat.sub_zero]
    constructor
    · intro pays _
      by_contra more
      have burst := (now (by omega)).1
      have after := (pays (by omega)).1
      rw [work_burst] at after
      omega
    · intro few owes
      have burst := (now owes).1
      have one := few rfl
      refine ⟨?_, fun still => ?_⟩
      · rw [work_burst]
        omega
      · have same : p.work.up = p.up := rfl
        rw [same, up] at still
        cases still

theorem ifaceUp_pays_iff {p : TxPort} {owed : Nat} (now : p.Pays owed) :
    ({ p with up := true } : TxPort).arm.Pays owed ↔ owed ≠ 1 := by
  constructor
  · rintro pays rfl
    obtain ⟨burst, soon⟩ := pays Nat.one_pos
    have slow : ({ p with up := true } : TxPort).delay = erpsTxPeriod :=
      delay_of_none (Nat.succ.inj burst)
    have late : some ({ p with up := true } : TxPort).delay = some erpsTxBurstPeriod := soon rfl
    rw [slow] at late
    cases late
  · intro several owes
    have burst := (now owes).1
    refine ⟨burst, fun _ => congrArg some (delay_of_left ?_)⟩
    change p.burst.toNat ≠ 0
    omega

theorem bursting_next_iff (announces : Announces c d) (now : Bursting c d) (x : TxCall) :
    Bursting (x.sends c) (d.next c (x.sends c) x) ↔ Patient c d x := by
  cases x with
  | schedTx reqState subcode status => exact schedTx_bursting announces now
  | stopTx => exact ⟨fun _ => trivial, fun _ lnk owes => absurd owes (Nat.lt_irrefl 0)⟩
  | txWork lnk buf =>
    by_cases scheduled : (c.port lnk).timeout.isSome = true
    · have runs : c.runWork lnk = c.mod lnk TxPort.work := if_pos scheduled
      simp only [TxCall.sends, Patient, runs, scheduled, forall_const]
      exact (mod_bursting_iff now lnk TxPort.work).trans (work_pays_iff (now lnk))
    · have skips : c.runWork lnk = c := if_neg scheduled
      simp only [TxCall.sends, Patient, skips]
      refine ⟨fun _ yes => absurd yes scheduled, fun _ => ?_⟩
      simp only [Duty.next, Nat.sub_self, Nat.sub_zero]
      exact now
  | ifaceUp lnk =>
    refine (mod_bursting_iff now lnk fun p => { p with up := true }.arm).trans ?_
    -- no PDU is sent
    change TxPort.Pays _ (d.owed lnk - ((c.port lnk).sent - (c.port lnk).sent)) ↔ _
    rw [Nat.sub_self, Nat.sub_zero]
    exact ifaceUp_pays_iff (now lnk)
  | ifaceDown lnk =>
    refine (mod_bursting_iff now lnk fun p => { p with up := false }).trans ⟨fun _ => trivial, fun _ => ?_⟩
    change TxPort.Pays _ (d.owed lnk - ((c.port lnk).sent - (c.port lnk).sent))
    rw [Nat.sub_self, Nat.sub_zero]
    intro owes
    exact ⟨(now lnk owes).1, fun up => (by cases up)⟩

/-- No call changes which device a port has. -/
theorem sends_dev (c : TxPorts) (x : TxCall) (lnk : PortIdx) :
    ((x.sends c).port lnk).dev = (c.port lnk).dev := by
  have mod_dev {there : PortIdx} {f : TxPort → TxPort} (same : ∀ p, (f p).dev = p.dev) :
      ((c.mod there f).port lnk).dev = (c.port lnk).dev := by
    by_cases here : lnk = there
    · subst here
      simp only [TxPorts.mod, Function.update_self, same]
    · simp only [TxPorts.mod, Function.update_of_ne here]
  have schedule_dev (burst : UInt8) (p : TxPort) : (p.schedule burst).dev = p.dev := by
    unfold TxPort.schedule
    split <;> rfl
  cases x with
  | schedTx reqState subcode status =>
    by_cases valid : announceable reqState subcode = true
    · have sends : (TxCall.schedTx reqState subcode status).sends c =
          c.schedTx (announced reqState subcode status) := if_pos valid
      rw [sends]
      exact schedule_dev _ (c.port lnk)
    · have sends : (TxCall.schedTx reqState subcode status).sends c = c := if_neg valid
      rw [sends]
  | stopTx => rfl
  | txWork there buf =>
    by_cases scheduled : (c.port there).timeout.isSome = true
    · have runs : (TxCall.txWork there buf).sends c = c.mod there TxPort.work := if_pos scheduled
      rw [runs]
      exact mod_dev fun _ => rfl
    · have skips : (TxCall.txWork there buf).sends c = c := if_neg scheduled
      rw [skips]
  | ifaceUp there => exact mod_dev (f := fun p => { p with up := true }.arm) fun _ => rfl
  | ifaceDown there => exact mod_dev (f := fun p => { p with up := false }) fun _ => rfl

end

/-! ### Runs -/

theorem TxCall.prog_sends {pad : Bool} (s : Sys) (x : TxCall)
    (distinct : s.node.ports.port0.dev ≠ s.node.ports.port1.dev) :
    Sends (x.prog pad) s (x.sends s.txPorts) := by
  cases x with
  | schedTx reqState subcode status =>
    refine wp_bind (wp_mono ?_ fun _ _ sent => wp_pure sent)
    by_cases valid : announceable reqState subcode = true
    · have sends : (TxCall.schedTx reqState subcode status).sends s.txPorts =
          s.txPorts.schedTx (announced reqState subcode status) := if_pos valid
      rw [sends]
      simp only [announceable, Bool.and_eq_true, Bool.or_eq_true, beq_iff_eq] at valid
      refine nodeSchedTx_sends s status valid.1 fun wrong => ?_
      exact valid.2.elim wrong.1 wrong.2
    · have sends : (TxCall.schedTx reqState subcode status).sends s.txPorts = s.txPorts := if_neg valid
      rw [sends]
      refine nodeSchedTx_refuses s status fun accepted => valid ?_
      simp only [announceable, Bool.and_eq_true, Bool.or_eq_true, beq_iff_eq]
      refine ⟨accepted.1, ?_⟩
      by_contra neither
      exact accepted.2 (not_or.mp neither)
  | stopTx => exact nodeStopTx_sends s
  | txWork lnk buf => exact runTxWork_sends s lnk
  | ifaceUp lnk => exact notifyIfaceUp_sends s lnk distinct
  | ifaceDown lnk => exact ifaceDown_sends s lnk distinct

/-- A call with the answers to the calls made in it. -/
abbrev TxCallStep := TxCall × Answers KernelCall

def TxCallStep.step (padRapsPdus : Bool) (s : Sys) (x : TxCallStep) : Sys :=
  (x.1.prog padRapsPdus).final x.2 s

/-- The duty after the calls, which find nothing announced. -/
def dutyAfter (padRapsPdus : Bool) (s : Sys) (xs : List TxCallStep) : Duty :=
  (history (TxCallStep.step padRapsPdus) s xs).foldl
    (fun d y => d.next y.1.txPorts (TxCallStep.step padRapsPdus y.1 y.2).txPorts y.2.1) .none

theorem dutyAfter_concat (pad : Bool) (s : Sys) (xs : List TxCallStep) (x : TxCallStep) :
    dutyAfter pad s (xs ++ [x]) =
      (dutyAfter pad s xs).next (run (TxCallStep.step pad) s xs).txPorts
        (TxCallStep.step pad (run (TxCallStep.step pad) s xs) x).txPorts x.1 := by
  rw [dutyAfter, history_concat, List.foldl_concat]
  rfl

/-- Along a run in which all calls succeed each new announcement is made in a burst of three
exactly if no call cuts one short. -/
theorem bursts_complete_iff {pad : Bool} {s : Sys} {xs : List TxCallStep}
    (distinct : s.node.ports.port0.dev ≠ s.node.ports.port1.dev)
    (succeeds : ∀ x ∈ xs, Respects Success x.2) :
    EachState (TxCallStep.step pad) s xs (fun pre t => Bursting t.txPorts (dutyAfter pad s pre)) ↔
      EachStep (TxCallStep.step pad) s xs fun pre t x => Patient t.txPorts (dutyAfter pad s pre) x.1 := by
  have steps : EachStep (TxCallStep.step pad) s xs fun _ _ x => Respects Success x.2 :=
    eachStep_of_forall succeeds
  have sends (t : Sys) (x : TxCallStep) (distinct : t.node.ports.port0.dev ≠ t.node.ports.port1.dev)
      (succeeds : Respects Success x.2) :
      (TxCallStep.step pad t x).txPorts = x.1.sends t.txPorts :=
    (x.1.prog_sends t distinct).post x.2 succeeds
  have inv : EachState (TxCallStep.step pad) s xs fun pre t =>
      t.node.ports.port0.dev ≠ t.node.ports.port1.dev ∧ Announces t.txPorts (dutyAfter pad s pre) := by
    refine eachState_of_eachStep ⟨distinct, fun pdu none => by cases none⟩ steps ?_
    rintro pre t x rfl succeeds ⟨distinct, announces⟩
    have sent := sends _ x distinct succeeds
    constructor
    · have dev (lnk : PortIdx) :
          ((TxCallStep.step pad (run (TxCallStep.step pad) s pre) x).link lnk).dev =
            ((run (TxCallStep.step pad) s pre).link lnk).dev :=
        (congrArg (fun c => (c.port lnk).dev) sent).trans (sends_dev _ x.1 lnk)
      intro same
      exact distinct ((dev .port0).symm.trans (same.trans (dev .port1)))
    · rw [dutyAfter_concat, sent]
      exact announces_next announces x.1
  refine eachState_iff_eachStep inv (fun lnk owes => absurd owes (Nat.lt_irrefl 0)) ?_
  rintro pre t x rfl member ⟨distinct, announces⟩ now
  have succeeds : Respects Success x.2 := succeeds x (member.subset (by simp))
  rw [dutyAfter_concat, sends _ x distinct succeeds]
  exact bursting_next_iff announces now x.1

/-- A node that has announced nothing yet. -/
def sampleSilent : Sys := (sampleNode false false (sampleDevice 0 1) (sampleDevice 1 2)).boot

/-- A failure is announced; on one port the interface flaps between two PDUs. -/
def sampleFlap : List TxCallStep :=
  [.schedTx rapsSf 0 0, .txWork .port0 zeroPdu, .ifaceDown .port0, .ifaceUp .port0,
    .txWork .port0 zeroPdu, .txWork .port0 zeroPdu].map fun x => (x, allSucceed)

theorem bursts_complete_flap : EachState (TxCallStep.step false) sampleSilent sampleFlap
    fun pre t => Bursting t.txPorts (dutyAfter false sampleSilent pre) := by
  have succeeds : ∀ x ∈ sampleFlap, Respects Success x.2 := by
    intro x member
    obtain ⟨_, _, rfl⟩ := List.mem_map.mp member
    exact allSucceed_respects
  refine (bursts_complete_iff (by decide) succeeds).mpr ?_
  -- the interface is up whenever the work runs, and two PDUs are owed when it comes up
  refine eachStep_cons (fun _ same => absurd same (by decide)) ?_
  refine eachStep_cons (fun _ down => absurd down (by decide)) ?_
  refine eachStep_cons trivial (eachStep_cons (fun one => absurd one (by decide)) ?_)
  refine eachStep_cons (fun _ down => absurd down (by decide)) ?_
  exact eachStep_cons (fun _ down => absurd down (by decide)) eachStep_nil

/-- The first announcement of a node is R-APS(NR), which is what its PDU is before anything has
been announced: no burst. -/
theorem first_burst_missing : ¬∀ (pad : Bool) (s : Sys) (xs : List TxCallStep),
    s.node.ports.port0.dev ≠ s.node.ports.port1.dev → (∀ x ∈ xs, Respects Success x.2) →
    EachState (TxCallStep.step pad) s xs fun pre t => Bursting t.txPorts (dutyAfter pad s pre) := by
  intro complete
  have succeeds : ∀ x ∈ [(TxCall.schedTx rapsNr 0 0, allSucceed)], Respects Success x.2 := by
    intro x member
    rw [List.mem_singleton.mp member]
    exact allSucceed_respects
  have burst := (complete false sampleSilent [(.schedTx rapsNr 0 0, allSucceed)] (by decide)
    succeeds).last .port0 (by decide)
  exact absurd burst.1 (by decide)

end Erps
