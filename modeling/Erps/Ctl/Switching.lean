import Erps.Ctl.Rest

/-!
# A node on the way from rest to a switched ring

While the only requests are forced switches, or the only ones are signal fails, a node is at
rest, or it has opened both ports for another node, or it holds the port it was asked for. No
wait to restore is started on the way, so none ends.
-/
namespace Erps

/-- What a ring is switched by. -/
inductive SwitchBy where
  | fs | sf
  deriving DecidableEq, Repr

namespace SwitchBy

def request : SwitchBy → Request
  | fs => .fs
  | sf => .sf

def raps : SwitchBy → RapsRequest
  | fs => .fs
  | sf => .sf

def state : SwitchBy → NodeState
  | fs => .forcedSwitch
  | sf => .protection

def reqState : SwitchBy → UInt8
  | fs => rapsFs
  | sf => rapsSf

end SwitchBy

namespace Ctl

/-- The node has opened both ports for another one and is silent. R-APS(NR,RB) that was on its
way when the ring switched leads it to pending until it hears of the switch again. -/
structure Waits (k : SwitchBy) (c : Ctl) : Prop extends c.Free where
  state : c.state = k.state ∨ c.state = .pending
  blocked : c.blocked = ⟨false, false⟩
  silent : c.txActive = false

/-- The node holds the port it was asked to block and says so. -/
structure Switched (k : SwitchBy) (lnk : PortIdx) (c : Ctl) : Prop extends c.Untimed where
  state : c.state = k.state
  topreq : c.topreq = k.request
  blocked : c.blocked.get lnk = true
  opened : c.blocked.get lnk.other = false
  sends : c.announced = some k.raps

variable {k : SwitchBy} {c : Ctl} {o : Seen} {lnk : PortIdx} {req : Request}

theorem announced_of_sends (sends : c.rsSc = k.reqState <<< rapsRsShift) :
    c.announced = some k.raps := by
  obtain ⟨-, fs, sf, -⟩ := reqState_shift
  unfold announced
  rw [sends]
  cases k
  · rw [SwitchBy.reqState, fs]
    rfl
  · rw [SwitchBy.reqState, sf]
    rfl

/-- The block goes to the port the switch is asked for on. -/
theorem switches_switched {up : Ports Bool} (untimed : c.Untimed) (topreq : c.topreq = k.request) :
    (c.leaving.fsSfMs up lnk k.reqState k.state).Switched k lnk := by
  obtain ⟨w, b, leaves, wtr, wtb⟩ := untimed.leaving_eq
  rw [leaves]
  refine ⟨⟨?_, ?_⟩, rfl, ?_, ?_, ?_, announced_of_sends ?_⟩
  · cases lnk <;> exact wtr
  · cases lnk <;> exact wtb
  · cases lnk <;> exact topreq
  · cases lnk <;> rfl
  · cases lnk <;> rfl
  · cases lnk <;> rfl

/-- A node that is asked to switch holds the port afterwards. -/
theorem asks_switched (untimed : c.Untimed) (passes : c.Passes k.request)
    (states : c.state = .idle ∨ c.state = .pending ∨ c.state = k.state)
    (single : c.state = k.state → c.blocked.get lnk.other = false) :
    (c.post o lnk k.request).Switched k lnk := by
  have reacts := post_reacts o lnk passes
  generalize c.post o lnk k.request = d at reacts
  have taken : (c.take lnk k.request).Untimed := ⟨untimed.wtr, untimed.wtb⟩
  have kept : (c.take lnk k.request).state = c.state := rfl
  have acts : ¬((c.take lnk k.request).state.noAction k.request = true ∨
      (c.take lnk k.request).ignores lnk k.request) := by
    rintro (quiet | ⟨clears, -⟩)
    · rw [kept] at quiet
      rcases states with state | state | state <;> rw [state] at quiet <;> cases k <;> cases quiet
    · cases k <;> cases clears
  cases k with
  | fs =>
    cases reacts with
    | idles quiet => exact absurd quiet acts
    | switches row =>
      cases row
      exact switches_switched (k := .fs) taken rfl
    | forces state =>
      have opened := single state
      exact ⟨⟨taken.wtr, taken.wtb⟩, state, rfl, by cases lnk <;> rfl, by cases lnk <;> exact opened,
        announced_of_sends rfl⟩
    | yields row => cases row
  | sf =>
    cases reacts with
    | idles quiet => exact absurd quiet acts
    | switches row =>
      cases row
      exact switches_switched (k := .sf) taken rfl
    | yields row => cases row

/-- Both ports of a node on which nothing has failed are opened. -/
theorem Free.opens (h : c.Free) (onlyNonFailed : Bool) : (c.unblockAndStop onlyNonFailed k.state).Waits k := by
  refine ⟨⟨⟨?_, ?_⟩, ?_, ?_⟩, .inl rfl, ?_, rfl⟩
  · cases onlyNonFailed <;> exact h.wtr
  · cases onlyNonFailed <;> exact h.wtb
  · cases onlyNonFailed <;> exact h.topreq
  · cases onlyNonFailed
    · rfl
    · exact h.failed
  · cases onlyNonFailed
    · rfl
    · simp [unblockAndStop, silence, goto, unblockNonFailed, h.failed]

theorem Waits.ownerStop (h : c.Waits k) : c.ownerStop.Waits k := by
  obtain ⟨w, b, stops, wtr, wtb⟩ := h.ownerStop_eq
  rw [stops]
  exact ⟨⟨⟨wtr, wtb⟩, h.topreq, h.failed⟩, h.state, h.blocked, h.silent⟩

/-- A node that hears of the switch opens its ports. -/
theorem hears_waits (h : c.AtRest ∨ c.Waits k) :
    (c.post o lnk k.raps.request).Waits k ∧ (c.post o lnk k.raps.request).state = k.state := by
  have free : c.Free := h.elim (·.toFree) (·.toFree)
  have state : c.state = .idle ∨ c.state = .pending ∨ c.Waits k ∧ c.state = k.state := by
    rcases h with rest | waits
    · exact .inl rest.state
    · exact .inr (waits.state.symm.imp_right fun state => ⟨waits, state⟩)
  have stops (d : Ctl) : d.ownerStop.state = d.state := by
    obtain ⟨w, b, stops⟩ := d.ownerStop_eq
    rw [stops]
  rw [free.calm.post_eq, react]
  rcases state with state | state | ⟨waits, state⟩
  · rw [state]
    cases k with
    | fs => exact ⟨free.opens false, rfl⟩
    | sf => exact ⟨free.opens true, rfl⟩
  · rw [state]
    cases k with
    | fs => exact ⟨(free.opens false).ownerStop, stops _⟩
    | sf => exact ⟨(free.opens true).ownerStop, stops _⟩
  · -- nothing is done where the ring has switched already
    rw [state]
    cases k <;> exact ⟨waits, state⟩

/-- R-APS(NR,RB) leads a node that waits to pending and from there to rest. -/
theorem Waits.nrRb (h : c.Waits k) (notOwner : c.role ≠ .owner) :
    (c.post o lnk .rapsNrRb).AtRest ∨ (c.post o lnk .rapsNrRb).Waits k := by
  rcases h.state with state | state
  · refine .inr ?_
    have switched : c.state = .protection ∨ c.state = .manualSwitch ∨ c.state = .forcedSwitch := by
      rw [state]
      cases k
      · exact .inr (.inr rfl)
      · exact .inl rfl
    rw [h.calm.switch_nrRb switched]
    exact ⟨⟨⟨h.wtr, h.wtb⟩, h.topreq, h.failed⟩, .inr rfl, h.blocked, h.silent⟩
  · exact .inl (h.calm.pending_nrRb notOwner state)

/-- What is in force is not given up for a switch elsewhere, or for R-APS(NR,RB). -/
theorem Switched.holds (h : c.Switched k lnk) {l : PortIdx}
    (remote : req = k.raps.request ∨ req = .rapsNrRb) : c.post o l req = c := by
  refine post_of_not_passes fun passes => ?_
  have higher := passes.2
  rw [h.topreq] at higher
  rcases remote with rfl | rfl <;> cases k <;> revert higher <;> decide

/-! ### Events -/

/-- A wait to restore ends only if it runs, and else the node is asked for the switch, always
on the same port. -/
structure Admits (c : Ctl) (k : SwitchBy) (asked : Option PortIdx) (e : Event) : Prop where
  due : ∀ t, e.timer? = some t → (c.timer t).busy = true
  asks : ∀ lnk req, e.timer? = none → e.posts = some (lnk, req) → req = k.request ∧ asked = some lnk

/-- Where a node is on its way: it has been asked for the switch, or it has not. -/
inductive OnWay (k : SwitchBy) (asked : Option PortIdx) (now : Prop) (c : Ctl) : Prop where
  | before (notYet : ¬now) (h : c.AtRest ∨ c.Waits k)
  | behind (lnk : PortIdx) (so : now) (here : asked = some lnk) (h : c.Switched k lnk)

variable {asked : Option PortIdx} {e : Event} {now : Prop}

theorem OnWay.untimed (h : c.OnWay k asked now) : c.Untimed := by
  cases h with
  | before notYet h => exact h.elim (·.toUntimed) (·.toUntimed)
  | behind lnk so here h => exact h.toUntimed

/-- A node changes only by being asked for the switch, and then it switches. -/
theorem OnWay.event (h : c.OnWay k asked now) (admits : c.Admits k asked e) :
    (e.posts = none ∧ c.step o e = c) ∨
      ∃ lnk, asked = some lnk ∧ e.posts = some (lnk, k.request) ∧ (c.step o e).Switched k lnk := by
  have untimed := h.untimed.none_due admits.due
  rcases step_untimed (c := c) (o := o) untimed with ⟨lnk, req, posts, step⟩ | quiet
  · obtain ⟨rfl, here⟩ := admits.asks lnk req untimed posts
    refine .inr ⟨lnk, here, posts, ?_⟩
    rw [step]
    cases h with
    | before notYet h =>
      have topreq : c.topreq = .invalid := h.elim (·.topreq) (·.topreq)
      have passes : c.Passes k.request := passes_of_invalid topreq (by cases k <;> decide)
      refine asks_switched (h.elim (·.toUntimed) (·.toUntimed)) passes ?_ fun state => ?_
      · rcases h with rest | waits
        · exact .inl rest.state
        · exact .inr waits.state.symm
      · rcases h with rest | waits
        · rw [rest.state] at state
          cases k <;> cases state
        · rw [waits.blocked]
          cases lnk <;> rfl
    | behind lnk' so here' h =>
      obtain rfl : lnk = lnk' := Option.some.inj (here.symm.trans here')
      have passes : c.Passes k.request := by
        refine ⟨fun clear => ?_, .inl ?_⟩
        · cases k <;> cases clear
        · rw [h.topreq]
      exact asks_switched h.toUntimed passes (.inr (.inr h.state)) fun _ => h.opened
  · exact .inl quiet

end Ctl

end Erps
