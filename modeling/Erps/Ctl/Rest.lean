import Erps.Ctl.Stands

/-!
# Nodes without a request of their own

A node that remembers no request, has no failed link and no wait to restore running follows
whatever it hears: nothing that a remote request meets is of higher priority. R-APS(NR,RB) leads
it to rest, by way of pending where the ring was switched.
-/
namespace Erps

def Expiry.timer? : Expiry → Option Timer
  | wtr => some .wtr
  | wtb => some .wtb
  | linkDown _ => none

/-- The wait to restore the event is the end of. -/
def Event.timer? : Event → Option Timer
  | .expiry t | .fire t | .handle t => t.timer?
  | .ctl _ _ | .raps _ _ _ | .elapse _ | .iface _ _ => none

namespace Ctl

/-- No wait to restore runs. -/
structure Untimed (c : Ctl) : Prop where
  wtr : c.wtr.busy = false
  wtb : c.wtb.busy = false

/-- A flag that a link has failed may be left on a port that is blocked and not that of the RPL. -/
structure Shut (c : Ctl) : Prop where
  port0 : c.failed.port0 = true → c.blocked.port0 = true
  port1 : c.failed.port1 = true → c.blocked.port1 = true ∧ c.role = .plain

/-- The node has no request in force. -/
structure Calm (c : Ctl) : Prop extends c.Untimed where
  topreq : c.topreq = .invalid
  shut : c.Shut

/-- Nor has it had any since its ports were opened. -/
structure Free (c : Ctl) : Prop extends c.Untimed where
  topreq : c.topreq = .invalid
  failed : c.failed = ⟨false, false⟩

/-- The node is idle and has all ports open but that of the RPL; only the RPL owner sends. -/
structure AtRest (c : Ctl) : Prop extends c.Free where
  state : c.state = .idle
  blocked : c.blocked = ⟨false, c.role ≠ .plain⟩
  sends : c.txActive = true → c.role = .owner ∧ c.announced = some .nrRb

variable {c : Ctl} {o : Seen} {lnk : PortIdx} {req : Request} {e : Event}

/-! ### Events -/

theorem Untimed.none_due (h : c.Untimed) (due : ∀ t, e.timer? = some t → (c.timer t).busy = true) :
    e.timer? = none := by
  rw [Option.eq_none_iff_forall_ne_some]
  intro t ends
  have busy := due t ends
  cases t
  · exact absurd (h.wtr.symm.trans busy) (by decide)
  · exact absurd (h.wtb.symm.trans busy) (by decide)

/-- Only the end of a wait posts that a timer has expired. -/
theorem posts_untimed (untimed : e.timer? = none) (posts : e.posts = some (lnk, req)) :
    req ≠ .wtrExpires ∧ req ≠ .wtbExpires := by
  cases e with
  | ctl lnk' ev => cases posts; cases ev <;> decide
  | raps lnk' req' pdu => cases posts; cases req' <;> decide
  | expiry t | handle t =>
    cases t with
    | wtr | wtb => cases untimed
    | linkDown lnk' => cases posts; decide
  | fire t | elapse ms | iface lnk' up => cases posts

/-- An event that is not the end of a wait posts a request, or does nothing. -/
theorem step_untimed (untimed : e.timer? = none) :
    (∃ lnk req, e.posts = some (lnk, req) ∧ c.step o e = c.post o lnk req) ∨
      (e.posts = none ∧ c.step o e = c) := by
  cases e with
  | ctl lnk ev => exact .inl ⟨lnk, _, rfl, rfl⟩
  | raps lnk req pdu => exact .inl ⟨lnk, _, rfl, rfl⟩
  | elapse ms => exact .inr ⟨rfl, rfl⟩
  | iface lnk up => exact .inr ⟨rfl, rfl⟩
  | expiry t | handle t =>
    cases t with
    | wtr | wtb => cases untimed
    | linkDown lnk => exact .inl ⟨lnk, .sf, rfl, rfl⟩
  | fire t =>
    cases t with
    | wtr | wtb => cases untimed
    | linkDown lnk => exact .inr ⟨rfl, rfl⟩

/-! ### Remote requests -/

theorem passes_of_invalid (topreq : c.topreq = .invalid) (other : req ≠ .clear) : c.Passes req := by
  refine ⟨fun clear => absurd clear other, .inl ?_⟩
  rw [topreq]
  cases req <;> decide

theorem Shut.of_failed (failed : c.failed = ⟨false, false⟩) : c.Shut := by
  refine ⟨fun port0 => ?_, fun port1 => ?_⟩
  · rw [failed] at port0
    cases port0
  · rw [failed] at port1
    cases port1

theorem Free.calm (h : c.Free) : c.Calm := ⟨h.toUntimed, h.topreq, .of_failed h.failed⟩

/-- In idle there is no block that a failed link could hide behind. -/
theorem Calm.free (h : c.Calm) (blocked : c.blocked = ⟨false, c.role ≠ .plain⟩) : c.Free := by
  have port0 : c.failed.port0 = false := by
    refine Bool.eq_false_iff.mpr fun failed => ?_
    have block := h.shut.port0 failed
    rw [blocked] at block
    cases block
  have port1 : c.failed.port1 = false := by
    refine Bool.eq_false_iff.mpr fun failed => ?_
    obtain ⟨block, plain⟩ := h.shut.port1 failed
    rw [blocked, plain] at block
    cases block
  exact ⟨h.toUntimed, h.topreq, congrArg₂ Ports.mk port0 port1⟩

/-- A remote request passes and leaves no trace but what is done about it. -/
theorem Calm.post_eq (h : c.Calm) (r : RapsRequest) : c.post o lnk r.request = c.react o lnk r.request := by
  have passes : c.Passes r.request := passes_of_invalid h.topreq (by cases r <;> decide)
  have remote : r.request ≠ .sf ∧ r.request ≠ .clearSf ∧ r.request.remembered = .invalid := by
    cases r <;> decide
  obtain ⟨sf, clearSf, forgotten⟩ := remote
  have kept : c.take lnk r.request = c := by
    rw [take, forgotten, if_neg sf, ← h.topreq]
  rw [post, if_pos passes, kept, if_neg fun ignored => clearSf ignored.1]

theorem Calm.post_nr (h : c.Calm) : c.post o lnk .rapsNr = c.react o lnk .rapsNr := h.post_eq .nr

theorem Calm.post_nrRb (h : c.Calm) : c.post o lnk .rapsNrRb = c.react o lnk .rapsNrRb := h.post_eq .nrRb

/-- Leaving pending, the RPL owner stops timers and does no more. -/
theorem Untimed.ownerStop_eq (h : c.Untimed) :
    ∃ w b, c.ownerStop = { c with wtr := w, wtb := b } ∧ w.busy = false ∧ b.busy = false := by
  have stopped (a : Armed) (idle : a.busy = false) : ({ a with scheduled := false } : Armed).busy = false := by
    obtain ⟨-, running⟩ := Bool.or_eq_false_iff.mp idle
    exact running
  unfold ownerStop
  split
  · exact ⟨_, _, rfl, stopped _ h.wtr, stopped _ h.wtb⟩
  · exact ⟨c.wtr, c.wtb, rfl, h.wtr, h.wtb⟩

theorem Untimed.leaving_eq (h : c.Untimed) :
    ∃ w b, c.leaving = { c with wtr := w, wtb := b } ∧ w.busy = false ∧ b.busy = false := by
  unfold leaving
  split
  · exact h.ownerStop_eq
  · exact ⟨c.wtr, c.wtb, rfl, h.wtr, h.wtb⟩

/-- In idle R-APS(NR,RB) finds the ports as it wants them. -/
theorem Free.idle_nrRb (h : c.Free) (notOwner : c.role ≠ .owner) (state : c.state = .idle)
    (blocked : c.blocked = ⟨false, c.role ≠ .plain⟩) : (c.post o lnk .rapsNrRb).AtRest := by
  have post : c.post o lnk .rapsNrRb = c.rapsNrRbIdle := by
    rw [h.calm.post_nrRb, react, state]
    rfl
  have failed := h.failed
  rw [post, rapsNrRbIdle]
  cases role : c.role with
  | owner => exact absurd role notOwner
  | nbr =>
    rw [role] at blocked
    refine ⟨⟨⟨h.wtr, h.wtb⟩, h.topreq, ?_⟩, state, ?_, fun active => Bool.noConfusion active⟩
    · simp [unblock, silence, Ports.modify, failed]
    · simp [unblock, silence, Ports.modify, blocked, role]
  | plain =>
    exact ⟨⟨⟨h.wtr, h.wtb⟩, h.topreq, failed⟩, state, blocked, fun active => Bool.noConfusion active⟩

/-- In pending it opens what failed links have left blocked, too. -/
theorem Calm.pending_nrRb (h : c.Calm) (notOwner : c.role ≠ .owner) (state : c.state = .pending) :
    (c.post o lnk .rapsNrRb).AtRest := by
  have post : c.post o lnk .rapsNrRb = c.rapsNrRbPending := by
    rw [h.post_nrRb, react, state]
    rfl
  rw [post, rapsNrRbPending]
  cases role : c.role with
  | owner => exact absurd role notOwner
  | nbr =>
    have failed : c.failed.port1 = false := by
      refine Bool.eq_false_iff.mpr fun failed => ?_
      exact absurd (role.symm.trans (h.shut.port1 failed).2) (by decide)
    refine ⟨⟨⟨h.wtr, h.wtb⟩, h.topreq, ?_⟩, rfl, ?_, fun active => Bool.noConfusion active⟩
    · simp [block, unblock, silence, goto, Ports.modify, failed]
    · simp [block, unblock, silence, goto, Ports.modify, role]
  | plain =>
    refine ⟨⟨⟨h.wtr, h.wtb⟩, h.topreq, rfl⟩, rfl, ?_, fun active => Bool.noConfusion active⟩
    simp [unblockAll, unblock, silence, goto, Ports.modify, role]

/-- From a switch it leads to pending, and nothing else changes. -/
theorem Calm.switch_nrRb (h : c.Calm)
    (state : c.state = .protection ∨ c.state = .manualSwitch ∨ c.state = .forcedSwitch) :
    c.post o lnk .rapsNrRb = c.goto .pending := by
  rw [h.post_nrRb, react]
  rcases state with state | state | state <;> rw [state] <;> rfl

/-- A node that is not the RPL owner is silent at rest. -/
theorem AtRest.silent (h : c.AtRest) (notOwner : c.role ≠ .owner) : c.txActive = false :=
  Bool.eq_false_iff.mpr fun active => notOwner (h.sends active).1

theorem AtRest.nrRb (h : c.AtRest) (notOwner : c.role ≠ .owner) : (c.post o lnk .rapsNrRb).AtRest :=
  h.idle_nrRb notOwner h.state h.blocked

end Ctl

end Erps
