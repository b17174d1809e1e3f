import Erps.Properties.LateMessages
import Erps.Properties.PortsAgree
import Erps.Properties.Topology

/-!
# Loop freedom with late frames

What is known of late messages holds of a ring on the wire: from the initialisation on
nothing goes round, whatever frames are lost, repeated, overtaken or late by no more than the
guard timers allow for.
-/
namespace Erps

open Calls Runs

namespace Wire

variable {n life : Nat} {w v : Wire n} {p : Protocol n} {x : WireStep n} {y : ProtocolStep n}

/-- Local requests do not take a block from a node that defends it, and no frame is received
later than `life` after it was sent. -/
def Disciplined (life : Nat) (w : Wire n) : WireStep n → Prop
  | .event i x => ∀ lnk req, x.1.posts = some (lnk, req) → (w.nodes i).ctl.Orderly req
  | .receive _ _ k _ => ∀ f ∈ w.inFlight[k]?, f.age ≤ life
  | _ => True

/-- The ring has been initialised: one RPL owner at most, nothing on the wire, and guard timers
that outlast a chain of late frames. -/
structure Started (life : Nat) (w : Wire n) : Prop where
  nodes : 0 < n
  initialised : ∀ i, Initialised (w.nodes i)
  apart : ∀ i, (w.nodes i).node.ports.port0.dev ≠ (w.nodes i).node.ports.port1.dev
  oneOwner : ∀ i j, (w.nodes i).setup.rplOwner = true → (w.nodes j).setup.rplOwner = true → i = j
  quiet : w.inFlight = []
  long : ∀ i, (n + 4) * life < (w.nodes i).node.guardTimerDuration.toNat

theorem Shows.disciplined (h : w.Shows p) (matched : Matches x y) (disciplined : w.Disciplined life x) :
    p.Disciplined life y := by
  cases matched with
  | act i up x =>
    intro lnk req posts
    rw [h.stations i]
    exact disciplined lnk req posts
  | hear i up lnk dev k ans =>
    intro m found
    obtain ⟨f, found', carries⟩ := carrier h.inFlight found
    rw [← carries.age]
    exact disciplined f found'
  | _ => trivial

theorem Started.sound (h : w.Started life) :
    Protocol.Sound life ⟨fun i => (w.nodes i).station, []⟩ := by
  refine ⟨fun i => ?_, fun i j here there => ?_, h.long, ?_⟩
  · change (w.nodes i).ctl.Speaks
    rw [(h.initialised i).booted.2]
    exact .booted _ _ _
  · exact h.oneOwner i j ((w.nodes i).setup_owner here) ((w.nodes j).setup_owner there)
  · intro m member
    cases member

theorem sample_started (nonRevertive : Bool) : (sample nonRevertive).Started 80 where
  nodes := Nat.two_pos
  initialised := (Ring.sample_started nonRevertive).initialised
  apart := by cases nonRevertive <;> decide
  oneOwner := (Ring.sample_started nonRevertive).oneOwner
  quiet := rfl
  long := by cases nonRevertive <;> decide

end Wire

end Erps
