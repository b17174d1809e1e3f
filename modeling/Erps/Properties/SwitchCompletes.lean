import Erps.Properties.Hearings
import Erps.Properties.SwitchOver

/-!
# A switch completes

Once the RPL owner knows of the switch and no R-APS(NR,RB) is left in flight, every node
switches on the first frame that tells it to and stays switched, whatever else is lost, repeated
or late. So the switch is complete when each node has been asked for it or has taken one frame.
-/
namespace Erps

open Nets Runs

namespace Ctl

/-- A node where all that is in flight tells of the switch. -/
inductive Told (k : SwitchBy) (asked : Option PortIdx) (heard : Nat) (c : Ctl) : Prop where
  | switched (lnk : PortIdx) (here : asked = some lnk) (h : c.Switched k lnk)
  | waits (h : c.Waits k) (settled : 1 ≤ heard → c.state = k.state)
  -- the RPL owner is not at rest any more
  | rests (notOwner : c.role ≠ .owner) (unheard : heard = 0) (h : c.AtRest)

variable {k : SwitchBy} {asked : Option PortIdx} {heard : Nat} {c : Ctl} {o : Seen} {lnk : PortIdx}
  {e : Event}

theorem Told.event (h : c.Told k asked heard) (admits : c.Admits k asked e) :
    (e.posts = none ∧ c.step o e = c) ∨ ∃ lnk, asked = some lnk ∧ (c.step o e).Switched k lnk := by
  have onWay : ∃ now, c.OnWay k asked now := by
    cases h with
    | switched lnk here h => exact ⟨True, .behind lnk trivial here h⟩
    | waits h settled => exact ⟨False, .before id (.inr h)⟩
    | rests notOwner unheard h => exact ⟨False, .before id (.inl h)⟩
  obtain ⟨now, onWay⟩ := onWay
  exact (onWay.event admits).imp_right fun ⟨lnk, here, _, now⟩ => ⟨lnk, here, now⟩

/-- What it hears settles it, however often it has heard it before. -/
theorem Told.hears (h : c.Told k asked heard) (again : Nat) :
    (c.post o lnk k.raps.request).Told k asked again := by
  have opens (phase : c.AtRest ∨ c.Waits k) : (c.post o lnk k.raps.request).Told k asked again := by
    have heard : (c.post o lnk k.raps.request).Waits k ∧ (c.post o lnk k.raps.request).state = k.state :=
      hears_waits phase
    exact .waits heard.1 fun _ => heard.2
  cases h with
  | switched l here h =>
    rw [h.holds (.inl rfl)]
    exact .switched l here h
  | waits h settled => exact opens (.inr h)
  | rests notOwner unheard h => exact opens (.inl h)

/-- It sends nothing but that. -/
theorem Told.announces (h : c.Told k asked heard) (active : c.txActive = true) {req : RapsRequest}
    (announced : c.announced = some req) : req = k.raps := by
  cases h with
  | switched lnk here h => exact Option.some.inj (announced.symm.trans h.sends)
  | waits h settled => exact absurd (h.silent.symm.trans active) (by decide)
  | rests notOwner unheard h => exact absurd (h.sends active).1 notOwner

/-- A node that has heard of the switch, or been asked for it, has switched. -/
theorem Told.state (h : c.Told k asked heard) (heard' : 1 ≤ heard) : c.state = k.state := by
  cases h with
  | switched lnk here h => exact h.state
  | waits h settled => exact settled heard'
  | rests notOwner unheard h => exact absurd unheard (Nat.one_le_iff_ne_zero.mp heard')

end Ctl

namespace Wire

variable {n : Nat} {w v : Wire n} {k : SwitchBy} {asked : Fin n → Option PortIdx} {pre : List (WireStep n)}

/-- All frames in flight tell of the switch, and the RPL owner is not at rest. -/
structure Drained (k : SwitchBy) (w : Wire n) : Prop where
  frames : ∀ f ∈ w.inFlight, ∀ m, f.Carries m → m.req ≠ .nrRb
  owner : ∀ i, (w.nodes i).ctl.role = .owner → ¬(w.nodes i).ctl.AtRest

/-- On the way nothing else is in flight but R-APS(NR,RB) and the switch. -/
theorem OnWay.told (h : w.OnWay k asked pre) (drained : w.Drained k) :
    ∃ p, w.Shows p ∧ p.Holds (fun i a => a.ctl.Told k (asked i) 0) fun m => m.req = k.raps := by
  obtain ⟨p, shown, switching⟩ := h.shows
  refine ⟨p, shown, fun i => ?_, fun m member => ?_⟩
  · cases switching.nodes i with
    | before notYet phase =>
      rcases phase with rest | waits
      · refine .rests (fun owner => ?_) rfl rest
        rw [shown.stations i] at owner rest
        exact drained.owner i owner rest
      · exact .waits waits fun one => absurd one (by decide)
    | behind lnk so here switched => exact .switched lnk here switched
  · obtain ⟨l, found⟩ := List.mem_iff_getElem?.mp member
    obtain ⟨f, found', carries⟩ := carrier shown.inFlight found
    rcases switching.messages m member with ⟨nrRb, -⟩ | ⟨req, -⟩
    · exact absurd nrRb (drained.frames f (List.mem_of_getElem? found') m carries)
    · exact req

end Wire

end Erps
