import Erps.Ctl.Reacts
import Erps.Timing.Posts

/-!
# Clearing a remote switch

A switch that another node of the ring has asked for is not for this node to clear. The
priority logic means to refuse such a CLEAR, but it looks for the remote switch in the
smaller of two numbers, one of which is that of CLEAR itself and the smallest there is: on
the RPL owner every CLEAR is accepted.
-/
namespace Erps

open Calls Runs

/-- The request is a remote switch, and `st` the state it leads to. -/
def Request.RemoteSwitch (req : Request) (st : NodeState) : Prop :=
  req = .rapsFs ∧ st = .forcedSwitch ∨ req = .rapsMs ∧ st = .manualSwitch

/-- The step has led to a switch by the request of another node. -/
def SwitchesRemotely (x : Sys × Step) : Prop :=
  ∃ lnk req, x.2.1.posts = some (lnk, req) ∧ req.RemoteSwitch (x.1.step x.2).node.state ∧
    x.1.node.state ≠ (x.1.step x.2).node.state

/-- The step posts a switch of the node itself. -/
def SwitchesLocally (x : Sys × Step) : Prop :=
  ∃ lnk req, x.2.1.posts = some (lnk, req) ∧ (req = .fs ∨ req = .ms)

/-- The RPL owner is in a switch that another node asked for, with no local one since. -/
structure UnderRemoteSwitch (past : List (Sys × Step)) (s : Sys) : Prop where
  owner : s.node.rplOwner = true
  switched : s.node.state = .forcedSwitch ∨ s.node.state = .manualSwitch
  remote : Since SwitchesRemotely SwitchesLocally past

/-- What a request that is refused leaves alone. -/
structure Sys.Unmoved (s t : Sys) : Prop where
  state : t.node.state = s.node.state
  topreq : t.node.localTopreq = s.node.localTopreq
  -- the flags of the links and their TX and link-down timers
  ports : t.node.ports = s.node.ports
  hw : t.hw = s.hw
  wtr : t.node.wtrDwork = s.node.wtrDwork
  wtb : t.node.wtbDwork = s.node.wtbDwork
  guardTimer : t.node.guardTimerExpiry = s.node.guardTimerExpiry
  pdu : t.node.pduMut = s.node.pduMut

/-! ### Why the check never sees a remote switch -/

namespace Ctl

variable {c : Ctl} {o : Seen} {lnk : PortIdx}

theorem clear_passes (owner : c.role = .owner) : c.Passes .clear := by
  refine ⟨fun _ => ?_, .inl (Nat.zero_le _)⟩
  simp [clearValid, owner]

/-- CLEAR in a switch leads to pending. -/
theorem clear_pending (owner : c.role = .owner)
    (switched : c.state = .forcedSwitch ∨ c.state = .manualSwitch) :
    (c.post o lnk .clear).state = .pending := by
  have reacts := post_reacts o lnk (clear_passes owner)
  have state : (c.take lnk .clear).state = c.state := rfl
  generalize c.post o lnk .clear = d at reacts
  cases reacts with
  | idles quiet =>
    rcases quiet with quiet | ⟨clears, -⟩
    · rw [state] at quiet
      rcases switched with forced | manual
      · rw [forced] at quiet
        cases quiet
      · rw [manual] at quiet
        cases quiet
    · cases clears
  | switches row => cases row
  | yields row => cases row
  | clears _ => rfl
  | reverts pending =>
    rw [state] at pending
    rcases switched with forced | manual
    · rw [forced] at pending
      cases pending
    · rw [manual] at pending
      cases pending

end Ctl

/-- In every state reached in which the RPL owner is under a remote switch, a CLEAR on
either link, with its calls succeeding, ends the switch. -/
theorem clear_never_refused {s : Sys} {xs : List Step} (init : InitialisedWith anyAnswer s) :
    EachState Sys.step s xs fun pre t => UnderRemoteSwitch (history Sys.step s pre) t →
      ∀ lnk ans, Respects Success ans → ¬t.Unmoved ((netErpsCtl lnk .admClear).final ans t) := by
  intro pre member under lnk ans succeeds unmoved
  have formed := eachState_formedAny init pre member
  generalize run Sys.step s pre = t at formed under unmoved
  obtain ⟨-, ctl, -⟩ := (fsmPost_leads t lnk .clear none (fun _ => by contradiction)
    (by decide) formed).post ans succeeds
  have owner : t.ctl.role = .owner := by
    have owns := under.owner
    rw [Sys.owner_eq] at owns
    exact beq_iff_eq.mp owns
  have pending : ((fsmPost lnk .clear none).final ans t).ctl.state = .pending := by
    rw [ctl]
    exact Ctl.clear_pending owner under.switched
  -- the state has changed
  have state : t.node.state = .pending := unmoved.state.symm.trans pending
  rcases under.switched with forced | manual
  · rw [forced] at state
    cases state
  · rw [manual] at state
    cases state

/-- R-APS(FS) on an RPL owner that has just been initialised. -/
theorem clear_never_refused_owner :
    let s := (sampleNode true false (sampleDevice 0 1) (sampleDevice 1 2)).started
    let t := s.step (.raps .port0 .fs zeroPdu, allSucceed)
    ¬t.Unmoved ((netErpsCtl .port0 .admClear).final allSucceed t) := by
  intro s t
  have switches : SwitchesRemotely (s, .raps .port0 .fs zeroPdu, allSucceed) :=
    ⟨.port0, .rapsFs, rfl, .inl ⟨rfl, by decide⟩, by decide⟩
  have under : UnderRemoteSwitch (history Sys.step s [(.raps .port0 .fs zeroPdu, allSucceed)]) t :=
    ⟨rfl, .inl (by decide), [], _, [], rfl, switches, by simp⟩
  exact (clear_never_refused (DtNode.started_initialised _).any).last under .port0 allSucceed
    allSucceed_respects

/-- There the CLEAR is not refused, with all calls succeeding. -/
theorem remote_switch_cleared : ¬∀ (s : Sys) (xs : List Step), Initialised s →
    (∀ x ∈ xs, x.Succeeds) → UnderRemoteSwitch (history Sys.step s xs) (s.run xs) →
    ∀ lnk, (s.run xs).Unmoved ((netErpsCtl lnk .admClear).final allSucceed (s.run xs)) := by
  intro refused
  have switches : SwitchesRemotely
      ((sampleNode true false (sampleDevice 0 1) (sampleDevice 1 2)).started,
        .raps .port0 .fs zeroPdu, allSucceed) :=
    ⟨.port0, .rapsFs, rfl, .inl ⟨rfl, by decide⟩, by decide⟩
  have unmoved := refused (sampleNode true false (sampleDevice 0 1) (sampleDevice 1 2)).started
    (succeeding [.raps .port0 .fs zeroPdu]) (DtNode.started_initialised _) (succeeding_succeeds _)
    ⟨rfl, .inl (by decide), [], _, [], rfl, switches, by simp⟩ .port0
  exact absurd unmoved.state (by decide)

end Erps
