import Mathlib.Data.Fintype.Card
import Mathlib.Logic.Function.Basic
import Erps.Ctl.Stands
import Erps.Runs

/-!
# The protocol

A ring when every call succeeds, without frames: what is kept of a node is its state machine
and what is left of its guard timer, and what it sends is a request with its node ID. A
message stays in flight until it is lost. While it does, any node hears it any number of
times, in any order with the others.
-/
namespace Erps

open Runs

structure Station where
  ctl : Ctl
  nodeId : EthAddr
  -- in milliseconds
  guardTimerDuration : Nat
  -- what is left of the guard timer
  guard : Nat

structure Message where
  nodeId : EthAddr
  req : RapsRequest
  -- the milliseconds since it was sent
  age : Nat

namespace Station

/-- The guard timer once a request has been posted. -/
def guardAfter (a : Station) (req : Request) : Nat :=
  if a.ctl.startsGuard req then a.guardTimerDuration else a.guard

def post (a : Station) (o : Ctl.Seen) (lnk : PortIdx) (req : Request) : Station := { a with
  ctl := a.ctl.post o lnk req
  guard := a.guardAfter req }

/-- An event of the node itself, with the interfaces that are up. -/
def act (a : Station) (up : Ports Bool) (e : Event) : Station := { a with
  ctl := a.ctl.step ⟨false, up⟩ e
  guard := match e.posts with
    | some (_, req) => a.guardAfter req
    | none => a.guard }

/-- A message of another node reaches the state machine unless the guard timer runs. -/
def hear (a : Station) (up : Ports Bool) (lnk : PortIdx) (m : Message) : Station :=
  if m.nodeId = a.nodeId ∨ a.guard ≠ 0 then a
  else a.post ⟨a.nodeId.toList < m.nodeId.toList, up⟩ lnk m.req.request

def wait (a : Station) (ms : Nat) : Station := { a with guard := a.guard - ms }

@[simp] theorem post_nodeId (a : Station) (o : Ctl.Seen) (lnk : PortIdx) (req : Request) :
    (a.post o lnk req).nodeId = a.nodeId := rfl

@[simp] theorem hear_nodeId (a : Station) (up : Ports Bool) (lnk : PortIdx) (m : Message) :
    (a.hear up lnk m).nodeId = a.nodeId := by
  unfold hear
  split <;> rfl

@[simp] theorem hear_duration (a : Station) (up : Ports Bool) (lnk : PortIdx) (m : Message) :
    (a.hear up lnk m).guardTimerDuration = a.guardTimerDuration := by
  unfold hear
  split <;> rfl

end Station

def Message.wait (m : Message) (ms : Nat) : Message := { m with age := m.age + ms }

structure Protocol (n : Nat) where
  stations : Fin n → Station
  inFlight : List Message

/-- A node handles an event of its own, sends what it announces, or hears a message in flight
on a link; a message in flight is lost; time passes; or nothing happens. -/
inductive ProtocolStep (n : Nat) where
  | act (i : Fin n) (up : Ports Bool) (e : Event)
  | announce (i : Fin n)
  | hear (i : Fin n) (up : Ports Bool) (lnk : PortIdx) (k : Nat)
  | lose (k : Nat)
  | wait (ms : Nat)
  | pass

/-- An event that is neither a PDU nor the passage of time. -/
def Event.isOwn : Event → Bool
  | .raps _ _ _ | .elapse _ => false
  | _ => true

namespace Protocol

variable {n : Nat}

def update (p : Protocol n) (i : Fin n) (a : Station) : Protocol n :=
  { p with stations := Function.update p.stations i a }

def step (p : Protocol n) : ProtocolStep n → Protocol n
  | .act i up e => p.update i ((p.stations i).act up e)
  | .announce i =>
    match (p.stations i).ctl.announced with
    | some req => { p with inFlight := ⟨(p.stations i).nodeId, req, 0⟩ :: p.inFlight }
    | none => p
  | .hear i up lnk k =>
    match p.inFlight[k]? with
    | some m => p.update i ((p.stations i).hear up lnk m)
    | none => p
  | .lose k => { p with inFlight := p.inFlight.eraseIdx k }
  | .wait ms => {
      stations := fun i => (p.stations i).wait ms
      inFlight := p.inFlight.map (·.wait ms) }
  | .pass => p

/-- Only a node with active TX sends. -/
def Permits (p : Protocol n) : ProtocolStep n → Prop
  | .act _ _ e => e.isOwn = true
  | .announce i => (p.stations i).ctl.txActive = true
  | _ => True

theorem update_self (p : Protocol n) (i : Fin n) (a : Station) : (p.update i a).stations i = a :=
  Function.update_self ..

theorem update_other (p : Protocol n) {i j : Fin n} (a : Station) (other : j ≠ i) :
    (p.update i a).stations j = p.stations j := Function.update_of_ne other ..

/-! ### Local invariants -/

/-- The events of the nodes meet a condition. -/
def Meets (p : Protocol n) (C : Fin n → Ctl → Event → Prop) : ProtocolStep n → Prop
  | .act i _ e => C i (p.stations i).ctl e
  | _ => True

/-- Something that holds of each station and something that holds of each message. -/
structure Holds (I : Fin n → Station → Prop) (J : Message → Prop) (p : Protocol n) : Prop where
  stations : ∀ i, I i (p.stations i)
  inFlight : ∀ m ∈ p.inFlight, J m

/-- A station keeps to it by itself as long as it hears such messages, and only sends such. -/
structure Kept (I : Fin n → Station → Prop) (J : Message → Prop) (C : Fin n → Ctl → Event → Prop) :
    Prop where
  act : ∀ {i a e} (up : Ports Bool), I i a → e.isOwn = true → C i a.ctl e → I i (a.act up e)
  send : ∀ {i a req}, I i a → a.ctl.txActive = true → a.ctl.announced = some req → J ⟨a.nodeId, req, 0⟩
  hear : ∀ {i a m} (up : Ports Bool) (lnk : PortIdx), I i a → J m → I i (a.hear up lnk m)
  wait : ∀ {i a} (ms : Nat), I i a → I i (a.wait ms)
  late : ∀ {m} (ms : Nat), J m → J (m.wait ms)

variable {p : Protocol n} {x : ProtocolStep n} {I : Fin n → Station → Prop} {J : Message → Prop}
  {C : Fin n → Ctl → Event → Prop}

theorem Holds.update {i : Fin n} {a : Station} (h : p.Holds I J) (here : I i a) :
    (p.update i a).Holds I J := by
  refine ⟨fun j => ?_, h.inFlight⟩
  by_cases same : j = i
  · subst same
    rw [update_self]
    exact here
  · rw [update_other p a same]
    exact h.stations j

theorem Holds.step (h : p.Holds I J) (kept : Kept I J C) (permits : p.Permits x) (meets : p.Meets C x) :
    (p.step x).Holds I J := by
  cases x with
  | act i up e => exact h.update (kept.act up (h.stations i) permits meets)
  | announce i =>
    simp only [Protocol.step]
    split
    · next req announced =>
      refine ⟨h.stations, fun m member => ?_⟩
      rcases List.mem_cons.mp member with rfl | before
      · exact kept.send (h.stations i) permits announced
      · exact h.inFlight m before
    · exact h
  | hear i up lnk k =>
    simp only [Protocol.step]
    split
    · next m found =>
      exact h.update (kept.hear up lnk (h.stations i) (h.inFlight m (List.mem_of_getElem? found)))
    · exact h
  | lose k => exact ⟨h.stations, fun m member => h.inFlight m (List.mem_of_mem_eraseIdx member)⟩
  | wait ms =>
    refine ⟨fun i => kept.wait ms (h.stations i), fun m member => ?_⟩
    obtain ⟨m', before, rfl⟩ := List.mem_map.mp member
    exact kept.late ms (h.inFlight m' before)
  | pass => exact h

/-- What every station and message keeps to holds along every run. -/
theorem Holds.run {ys : List (ProtocolStep n)} (h : p.Holds I J) (kept : Kept I J C)
    (steps : EachStep Protocol.step p ys fun _ q y => q.Permits y ∧ q.Meets C y) :
    EachState Protocol.step p ys fun _ q => q.Holds I J :=
  eachState_of_eachStep h steps fun _ _ _ _ permits before => before.step kept permits.1 permits.2

end Protocol

end Erps
