import Mathlib.Data.Set.Defs
import Mathlib.Logic.Function.Basic
import Erps.Properties.LocalBlock
import Erps.Receive

/-!
# A ring of nodes

Any number of nodes, each running the program, and the PDUs they send each other. In a
step of a `Ring` a PDU that is sent is heard by some of the other nodes at once, or by
none. In a `Net` it is in flight until it is lost, and heard by any node any number of
times while it is.
-/
namespace Erps

open Calls

abbrev Ring (n : Nat) := Fin n → Sys

/-- A step of a ring: an event on a node, or a node sending its PDU, built in the buffer,
with for each node the link on which it hears it, if it does. -/
inductive RingStep (n : Nat) where
  | event (i : Fin n) (x : Step)
  | deliver (i : Fin n) (buf : RapsPdu) (ans : Answers KernelCall)
      (heard : Fin n → Option (PortIdx × Answers KernelCall))

namespace Ring

variable {n : Nat}

/-- The PDU a node sends. -/
def sent (r : Ring n) (i : Fin n) (buf : RapsPdu) (ans : Answers KernelCall) : RapsPdu :=
  ((rapsCreate buf).result ans (r i)).2

def step (r : Ring n) : RingStep n → Ring n
  | .event i x => fun j => if j = i then (r i).step x else r j
  | .deliver i buf ans heard => fun j =>
    match heard j with
    | none => r j
    | some (lnk, ans') => (pduRecv lnk (r.sent i buf ans)).final ans' (r j)

/-- At least one ring port is blocked. -/
def LoopFree (r : Ring n) : Prop := ∃ i, (r i).node.anyLinkBlocked = true

instance (r : Ring n) : Decidable r.LoopFree := by
  unfold LoopFree; infer_instance

/-- A ring that has just been initialised. -/
structure Started (r : Ring n) : Prop where
  two : 2 ≤ n
  initialised : ∀ i, Initialised (r i)
  distinct : ∀ i j, (r i).nodeId = (r j).nodeId → i = j
  owner : ∃ i, (r i).node.rplOwner = true
  oneOwner : ∀ i j, (r i).node.rplOwner = true → (r j).node.rplOwner = true → i = j
  oneNbr : ∀ i j, (r i).node.rplNbr = true → (r j).node.rplNbr = true → i = j

/-- The steps of a ring in which every call succeeds: local events and the passage of time
on a node, and PDUs from a node with active TX to other nodes. -/
def Permits (r : Ring n) : RingStep n → Prop
  | .event _ x => x.Succeeds ∧ (x.1.isLocal = true ∨ ∃ ms, x.1 = .elapse ms)
  | .deliver i _ ans heard => (r i).node.txActive = true ∧ heard i = none ∧
      Respects Success ans ∧ ∀ j lnk ans', heard j = some (lnk, ans') → Respects Success ans'

end Ring

/-! ### PDUs in flight -/

structure Net (n : Nat) where
  nodes : Ring n
  inFlight : List RapsPdu

/-- A node sends its PDU, built in the buffer, a node hears a PDU in flight on a link, or a
PDU in flight is lost. -/
inductive NetStep (n : Nat) where
  | send (i : Fin n) (buf : RapsPdu) (ans : Answers KernelCall)
  | deliver (i : Fin n) (lnk : PortIdx) (pdu : RapsPdu) (ans : Answers KernelCall)
  | lose (pdu : RapsPdu)

namespace Net

variable {n : Nat}

/-- A PDU that is delivered stays in flight: it may be delivered again. -/
def step (w : Net n) : NetStep n → Net n
  | .send i buf ans => { w with inFlight := w.nodes.sent i buf ans :: w.inFlight }
  | .deliver i lnk pdu ans =>
    { w with nodes := Function.update w.nodes i ((pduRecv lnk pdu).final ans (w.nodes i)) }
  | .lose pdu => { w with inFlight := w.inFlight.erase pdu }

/-- The steps in which every call succeeds and only the nodes of the set send, with active
TX. -/
def Permits (senders : Set (Fin n)) (w : Net n) : NetStep n → Prop
  | .send i _ ans => i ∈ senders ∧ (w.nodes i).node.txActive = true ∧ Respects Success ans
  | .deliver _ _ pdu ans => pdu ∈ w.inFlight ∧ Respects Success ans
  | .lose _ => True

end Net

end Erps
