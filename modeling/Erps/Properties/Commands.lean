import Erps.Properties.Failures

/-!
# Operator commands, remembered and in force

A forced or manual switch is remembered as the local top priority request as soon as
it passes the priority logic, before the state decides whether to act on it. Forced
switches are acted on in every state. A manual switch is not, in protection and in
forced switch, and what is remembered of one in force is lost to a clear signal fail,
which no state but protection answers.
-/
namespace Erps

open Runs

namespace Ctl

structure CommandInForce (c : Ctl) : Prop where
  fs : c.topreq = .fs ↔ c.state = .forcedSwitch ∧ c.transmits rapsFs = true
  ms : c.topreq = .ms ↔ c.state = .manualSwitch ∧ c.transmits rapsMs = true

/-- A node that announces a manual switch holds a block. -/
def MsBlocks (c : Ctl) : Prop :=
  c.state = .manualSwitch → c.transmits rapsMs = true → c.anyBlocked = true

/-- A request that passes leaves commands remembered exactly if they are in force. -/
structure KeepsCommand (c : Ctl) (up : Ports Bool) (req : Request) : Prop where
  fs : req = .fs → up.port0 = true ∨ up.port1 = true
  ms : req = .ms → (c.state = .manualSwitch ∧ c.topreq = .ms) ∨
    ((c.state = .idle ∨ c.state = .pending) ∧ (up.port0 = true ∨ up.port1 = true))
  clearSf : req = .clearSf → ¬(c.state = .manualSwitch ∧ c.topreq = .ms)

variable {c : Ctl} {o : Seen} {lnk : PortIdx} {req : Request}

theorem keepsCommand_of_ne {up : Ports Bool} (notFs : req ≠ .fs) (notMs : req ≠ .ms)
    (notClearSf : req ≠ .clearSf) : c.KeepsCommand up req :=
  ⟨fun fs => absurd fs notFs, fun ms => absurd ms notMs, fun clearSf => absurd clearSf notClearSf⟩

theorem MsBlocks.post (h : c.MsBlocks) : (c.post o lnk req).MsBlocks := by
  by_cases passes : c.Passes req
  case neg => rwa [post_of_not_passes passes]
  have reacts := post_reacts o lnk passes
  generalize c.post o lnk req = d at reacts
  unfold MsBlocks at *
  cases reacts with
  | idles quiet => exact h
  | switches row => cases row <;> cases lnk <;> grind [transmits]
  | yields row => cases row <;> grind [transmits]
  | @returns t row | @returnsRb t row => cases t <;> grind [transmits]
  | forces state | clears state | reverts state | recovers state | conflicts state
  | electsIdle state | settlesIdle state | electsPending state | settlesPending state
  | wtrExpires state | wtbExpires state => grind [transmits]

/-- Elsewhere than in forced and manual switch only the memory can be wrong. -/
theorem commandInForce_elsewhere (notForced : c.state ≠ .forcedSwitch)
    (notManual : c.state ≠ .manualSwitch) :
    c.CommandInForce ↔ c.topreq ≠ .fs ∧ c.topreq ≠ .ms := by
  constructor
  · rintro ⟨fs, ms⟩
    exact ⟨fun topreq => notForced (fs.mp topreq).1, fun topreq => notManual (ms.mp topreq).1⟩
  · rintro ⟨notFs, notMs⟩
    exact ⟨⟨fun topreq => absurd topreq notFs, fun h => absurd h.1 notForced⟩,
      ⟨fun topreq => absurd topreq notMs, fun h => absurd h.1 notManual⟩⟩

theorem fsSfMs_transmits (c : Ctl) (lnk : PortIdx) (up : Ports Bool) (reqState : UInt8)
    (next : NodeState) (announced : UInt8)
    (nibble : reqState <<< rapsRsShift >>> rapsRsShift = reqState) :
    (c.fsSfMs up lnk reqState next).transmits announced =
      ((up.port0 || up.port1) && reqState == announced) := by
  cases lnk <;> simp [fsSfMs, transmits, goto, unblock, send, txActive, nibble]

theorem fsSfMs_state (c : Ctl) (lnk : PortIdx) (up : Ports Bool) (reqState : UInt8)
    (next : NodeState) : (c.leaving.fsSfMs up lnk reqState next).state = next := by
  cases lnk <;> rfl

theorem fsSfMs_topreq (c : Ctl) (lnk : PortIdx) (up : Ports Bool) (reqState : UInt8)
    (next : NodeState) : (c.leaving.fsSfMs up lnk reqState next).topreq = c.topreq := by
  obtain ⟨w, b, same⟩ := c.leaving_eq
  rw [same]
  cases lnk <;> rfl

/-- A request that passes over a command in force and is not acted on is a manual switch
or a clear signal fail. -/
theorem CommandInForce.passing (h : c.CommandInForce) (passes : c.Passes req)
    (quiet : c.state.noAction req = true ∨ c.ignores lnk req) :
    c.topreq ≠ .fs ∧ (c.topreq = .ms → req = .ms ∨ req = .clearSf) := by
  obtain ⟨_, higher | ⟨lifted, topreq⟩⟩ := passes
  · constructor <;> intro topreq <;> rw [topreq] at higher
    · have forced := (h.fs.mp topreq).1
      rcases quiet with quiet | ⟨rfl, -, -, -⟩
      · rw [forced] at quiet
        cases req <;> simp_all [Request.toNat, NodeState.noAction]
      · simp [Request.toNat] at higher
    · have manual := (h.ms.mp topreq).1
      rcases quiet with quiet | ⟨rfl, -, -, -⟩
      · rw [manual] at quiet
        cases req <;> simp_all [Request.toNat, NodeState.noAction]
      · exact .inr rfl
  · simp [topreq]

/-- No state but the uninitialised one leaves a forced switch without an answer. -/
theorem not_fs_of_quiet (init : c.state ≠ .uninit)
    (quiet : c.state.noAction req = true ∨ c.ignores lnk req) : req ≠ .fs := by
  rintro rfl
  have quiet' : c.state.noAction .fs = true := quiet.resolve_right fun ignored =>
    absurd ignored.1 (by decide)
  cases state : c.state <;> simp_all [NodeState.noAction]

/-- Where a request changes the memory only, it must not change what it says of commands. -/
theorem take_commandInForce (h : c.CommandInForce) (notFs : c.topreq ≠ .fs)
    (posted : req ≠ .fs) :
    (c.take lnk req).CommandInForce ↔ (req = .ms ↔ c.topreq = .ms) := by
  have remembered_ms : req.remembered = .ms ↔ req = .ms := by
    cases req <;> simp [Request.remembered]
  have forced : ¬(c.state = .forcedSwitch ∧ c.transmits rapsFs = true) := mt h.fs.mpr notFs
  constructor
  · rintro ⟨-, ms⟩
    exact remembered_ms.symm.trans (ms.trans h.ms.symm)
  · intro same
    refine ⟨⟨fun topreq => absurd (remembered_fs.mp topreq) posted, fun now => absurd now forced⟩,
      ?_⟩
    exact remembered_ms.trans (same.trans h.ms)

theorem idles_commandInForce (up : Ports Bool) (h : c.CommandInForce) (init : c.state ≠ .uninit)
    (passes : c.Passes req) (quiet : c.state.noAction req = true ∨ c.ignores lnk req) :
    (c.take lnk req).CommandInForce ↔ c.KeepsCommand up req := by
  obtain ⟨notFs, passedOver⟩ := h.passing passes quiet
  have posted := not_fs_of_quiet init quiet
  have manual : c.topreq = .ms → c.state = .manualSwitch := fun topreq => (h.ms.mp topreq).1
  rw [take_commandInForce h notFs posted]
  constructor
  · intro same
    refine ⟨fun fs => absurd fs posted, fun ms => ?_, ?_⟩
    · have topreq := same.mp ms
      exact .inl ⟨manual topreq, topreq⟩
    · rintro rfl ⟨_, topreq⟩
      exact absurd (same.mpr topreq) (by decide)
  · rintro ⟨-, ms, clearSf⟩
    constructor
    · rintro rfl
      rcases ms rfl with ⟨_, topreq⟩ | ⟨state, _⟩
      · exact topreq
      · -- idle and pending act on a manual switch
        have quiet' : c.state.noAction .ms = true := quiet.resolve_right fun ignored =>
          absurd ignored.1 (by decide)
        rcases state with state | state <;> simp [state, NodeState.noAction] at quiet'
    · intro topreq
      rcases passedOver topreq with posted | cleared
      · exact posted
      · exact absurd ⟨manual topreq, topreq⟩ (clearSf cleared)

/-- A forced switch is remembered; it is in force once it is sent, on one port or both. -/
theorem forced_commandInForce {d : Ctl} {up : Ports Bool} (state : d.state = .forcedSwitch)
    (topreq : d.topreq = .fs)
    (sends : d.transmits rapsFs = (up.port0 || up.port1)) :
    d.CommandInForce ↔ c.KeepsCommand up .fs := by
  constructor
  · rintro ⟨fs, -⟩
    refine ⟨fun _ => ?_, by simp, by simp⟩
    simpa [sends] using (fs.mp topreq).2
  · rintro ⟨up, -, -⟩
    refine ⟨⟨fun _ => ⟨state, ?_⟩, fun _ => topreq⟩, ?_⟩
    · simpa [sends] using up rfl
    · simp [topreq, state]

/-- So is a manual switch that idle or pending act on. -/
theorem manual_commandInForce {d : Ctl} {up : Ports Bool}
    (acts : c.state = .idle ∨ c.state = .pending) (state : d.state = .manualSwitch)
    (topreq : d.topreq = .ms) (sends : d.transmits rapsMs = (up.port0 || up.port1)) :
    d.CommandInForce ↔ c.KeepsCommand up .ms := by
  have notManual : c.state ≠ .manualSwitch := by
    rintro manual
    simp [manual] at acts
  constructor
  · rintro ⟨-, ms⟩
    refine ⟨by simp, fun _ => .inr ⟨acts, ?_⟩, by simp⟩
    simpa [sends] using (ms.mp topreq).2
  · rintro ⟨-, up, -⟩
    refine ⟨?_, ⟨fun _ => ⟨state, ?_⟩, fun _ => topreq⟩⟩
    · simp [topreq, state]
    · obtain ⟨manual, _⟩ | ⟨_, up⟩ := up rfl
      · exact absurd manual notManual
      · simpa [sends] using up

theorem switches_commandInForce {reqState : UInt8} {next : NodeState} {up : Ports Bool}
    (row : Switch c.state req reqState next) :
    ((c.take lnk req).leaving.fsSfMs up lnk reqState next).CommandInForce ↔
      c.KeepsCommand up req := by
  have state := fsSfMs_state (c.take lnk req) lnk up reqState next
  have topreq := fsSfMs_topreq (c.take lnk req) lnk up reqState next
  have remembered : (c.take lnk req).topreq = req.remembered := rfl
  rw [remembered] at topreq
  cases row with
  | fs =>
    refine forced_commandInForce state topreq ?_
    rw [fsSfMs_transmits _ _ _ _ _ _ (by decide), beq_self_eq_true, Bool.and_true]
  | sf =>
    refine iff_of_true ?_ (keepsCommand_of_ne (by decide) (by decide) (by decide))
    rw [commandInForce_elsewhere] <;> simp [state, topreq, Request.remembered]
  | ms acts =>
    refine manual_commandInForce acts state topreq ?_
    rw [fsSfMs_transmits _ _ _ _ _ _ (by decide), beq_self_eq_true, Bool.and_true]

theorem post_commandInForce (h : c.CommandInForce) (blocks : c.MsBlocks)
    (init : c.state ≠ .uninit) (passes : c.Passes req) :
    (c.post o lnk req).CommandInForce ↔ c.KeepsCommand o.up req := by
  have reacts := post_reacts o lnk passes
  generalize c.post o lnk req = d at reacts
  cases reacts with
  | idles quiet => exact idles_commandInForce o.up h init passes quiet
  | switches row => exact switches_commandInForce row
  | @yields _ onlyNonFailed next row =>
    have silent : ((c.take lnk req).leaving.unblockAndStop onlyNonFailed next).txActive = false :=
      rfl
    have topreq : ((c.take lnk req).leaving.unblockAndStop onlyNonFailed next).topreq =
        .invalid := by
      obtain ⟨w, b, same⟩ := (c.take lnk req).leaving_eq
      rw [same]
      cases row <;> rfl
    refine iff_of_true ?_ ?_
    · constructor <;> simp [topreq, transmits, silent]
    · cases row <;> exact keepsCommand_of_ne (by decide) (by decide) (by decide)
  | @returns t row | @returnsRb t row =>
    refine iff_of_true ?_ (keepsCommand_of_ne (by decide) (by decide) (by decide))
    rw [commandInForce_elsewhere] <;> cases t <;> grind
  | forces state =>
    have sends : ((c.take lnk .fs).fsFs o.up lnk).transmits rapsFs =
        (o.up.port0 || o.up.port1) := by
      have nibble : rapsFs <<< rapsRsShift >>> rapsRsShift = rapsFs := by decide
      simp [fsFs, transmits, send, txActive, nibble]
    exact forced_commandInForce state rfl sends
  | clears state | reverts state | electsIdle state | settlesIdle state | electsPending state
  | settlesPending state | wtrExpires state | wtbExpires state =>
    refine iff_of_true ?_ (keepsCommand_of_ne (by decide) (by decide) (by decide))
    rw [commandInForce_elsewhere] <;> grind
  | recovers state =>
    have protection : c.state = .protection := state
    refine iff_of_true ?_ ⟨by simp, by simp, by simp [protection]⟩
    rw [commandInForce_elsewhere] <;> grind
  | conflicts state =>
    refine iff_of_true ?_ (keepsCommand_of_ne (by decide) (by decide) (by decide))
    -- either R-APS(NR) takes the place of R-APS(MS), or that is not being sent
    have noRequest : rapsNr <<< rapsRsShift >>> rapsRsShift ≠ rapsMs := by decide
    unfold MsBlocks at blocks
    constructor <;> grind [transmits]

theorem MsBlocks.modTimer (h : c.MsBlocks) (f : Armed → Armed) (t : Timer) :
    (c.modTimer f t).MsBlocks := by
  cases t <;> exact h

theorem MsBlocks.step {e : Event} (h : c.MsBlocks) : (c.step o e).MsBlocks :=
  step_keeps (fun _ f t before => before.modTimer f t) (fun _ _ _ _ _ before => before.post) h

theorem MsBlocks.booted (role : Role) (revertive : Bool) (up : Ports Bool) :
    (Ctl.booted role revertive up).MsBlocks := by
  intro state
  simp at state

theorem modTimer_commandInForce (f : Armed → Armed) (t : Timer) :
    (c.modTimer f t).CommandInForce ↔ c.CommandInForce := by
  cases t <;> exact ⟨fun h => ⟨h.fs, h.ms⟩, fun h => ⟨h.fs, h.ms⟩⟩

theorem modTimer_keepsCommand (f : Armed → Armed) (t : Timer) (up : Ports Bool) :
    (c.modTimer f t).KeepsCommand up req ↔ c.KeepsCommand up req := by
  cases t <;> exact ⟨fun h => ⟨h.fs, h.ms, h.clearSf⟩, fun h => ⟨h.fs, h.ms, h.clearSf⟩⟩

theorem step_commandInForce {e : Event} (h : c.CommandInForce) (blocks : c.MsBlocks)
    (init : c.state ≠ .uninit) : (c.step o e).CommandInForce ↔
      ∀ lnk req, e.posts = some (lnk, req) → c.Passes req → c.KeepsCommand o.up req := by
  cases posts : e.posts with
  | none =>
    obtain ⟨f, t, same⟩ := step_silent (c := c) (o := o) posts
    rw [same, modTimer_commandInForce]
    simp [h]
  | some posted =>
    obtain ⟨lnk, req⟩ := posted
    obtain ⟨f, g, t, same⟩ := step_posts (c := c) (o := o) posts
    rw [same, modTimer_commandInForce]
    have init' : (c.modTimer f t).state ≠ .uninit := by cases t <;> exact init
    by_cases passes : c.Passes req
    · rw [post_commandInForce ((modTimer_commandInForce f t).mpr h) (blocks.modTimer f t) init'
        ((modTimer_passes f t).mpr passes), modTimer_keepsCommand]
      simp [passes]
    · rw [post_of_not_passes (mt (modTimer_passes f t).mp passes), modTimer_commandInForce]
      simp [passes, h]

end Ctl

/-- The node is sending PDUs with this request/state. -/
def Node.transmits (n : Node) (reqState : UInt8) : Bool :=
  n.txActive && n.pduMut.rsSc >>> rapsRsShift == reqState

/-- The remembered command is the one in force, if there is one. -/
def Node.CommandInForce (n : Node) : Prop :=
  (n.localTopreq = .fs ↔ n.state = .forcedSwitch ∧ n.transmits rapsFs = true) ∧
    (n.localTopreq = .ms ↔ n.state = .manualSwitch ∧ n.transmits rapsMs = true)

theorem Sys.commandInForce_iff (s : Sys) : s.node.CommandInForce ↔ s.ctl.CommandInForce :=
  ⟨fun h => ⟨h.1, h.2⟩, fun h => ⟨h.fs, h.ms⟩⟩

/-- The request of the step is outranked, or keeps the commands right: a forced switch
finds a ring interface up, so does a manual switch in idle or pending, no other manual
switch passes but over one in force, and no clear signal fail over one in force. -/
def KeepsCommand (s : Sys) (x : Step) : Prop :=
  ∀ lnk req, x.1.posts = some (lnk, req) → s.ctl.Passes req →
    s.ctl.KeepsCommand s.setup.up req

theorem Setup.seen_up (u : Setup) (e : Event) : (u.seen e).up = u.up := by
  cases e <;> rfl

/-- Commands are remembered exactly as long as they are in force, all along a run, if and
only if every step keeps them right. -/
theorem command_in_force_iff {s : Sys} {xs : List Step} (init : Initialised s)
    (succeeds : ∀ x ∈ xs, x.Succeeds) :
    EachState Sys.step s xs (fun _ t => t.node.CommandInForce) ↔
      EachStep Sys.step s xs fun _ t x => KeepsCommand t x := by
  obtain ⟨formed, start⟩ := init.booted
  have invariants := eachState_ctl (I := fun c => c.Remembers ∧ c.MsBlocks)
    (C := fun _ _ => True) formed
    (start ▸ ⟨Ctl.Remembers.booted _ _ _, Ctl.MsBlocks.booted _ _ _⟩)
    (eachStep_of_forall fun x member => ⟨succeeds x member, trivial⟩)
    fun _ _ _ _ h => ⟨h.1.step, h.2.step⟩
  refine eachState_iff_eachStep invariants ?_ ?_
  · rw [Sys.commandInForce_iff, start, Ctl.commandInForce_elsewhere (by simp) (by simp)]
    by_cases reverting : s.setup.role = .owner ∧ s.setup.revertive = true <;> simp [reverting]
  · rintro pre t x - member ⟨formed', remembers, blocks⟩ before
    have succeeds' : x.Succeeds := succeeds x (member.subset (by simp))
    rw [Sys.commandInForce_iff] at before ⊢
    rw [Sys.step_ctl formed' succeeds', Ctl.step_commandInForce before blocks remembers.init,
      Setup.seen_up]
    exact Iff.rfl

theorem command_in_force_iff_owner :
    let s := (sampleNode true false (sampleDevice 0 1) (sampleDevice 1 2)).started
    let xs := succeeding [.ctl .port0 .admManualSwitch, .ctl .port1 .admForcedSwitch]
    EachState Sys.step s xs (fun _ t => t.node.CommandInForce) ↔
      EachStep Sys.step s xs fun _ t x => KeepsCommand t x :=
  command_in_force_iff (DtNode.started_initialised _) (succeeding_succeeds _)

/-- A manual switch in force, forgotten for a clear signal fail. -/
theorem command_forgotten : ¬∀ (s : Sys) (xs : List Step), Initialised s →
    (∀ x ∈ xs, x.Succeeds) → (s.run xs).node.CommandInForce := by
  intro inForce
  have here := inForce (sampleNode false false (sampleDevice 0 1) (sampleDevice 1 2)).started
    (succeeding [.ctl .port0 .admManualSwitch, .ctl .port0 .clearSignalFail])
    (DtNode.started_initialised _) (succeeding_succeeds _)
  have forgotten := here.2.mpr (by decide)
  exact absurd forgotten (by decide)

end Erps
