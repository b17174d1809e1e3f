import Mathlib.Logic.Function.Basic
import Erps.Properties.Encoding
import Erps.Properties.Stopped
import Erps.Reception

/-!
# A ring on the wire

Any number of nodes, each running the program, and the frames between them as octets. The
TX work of a node puts on the wire what it hands to its interface, behind the header the
network stack gives it. A frame stays on the wire until it is lost, and any node receives
it on any of its devices any number of times while it does. As with the events of a node, a
run is one between two interface-up notifications.
-/
namespace Erps

open Calls Packed

/-- A frame on the wire with the milliseconds since it was sent. -/
structure Flight where
  octets : List UInt8
  age : Nat

structure Wire (n : Nat) where
  nodes : Fin n → Sys
  inFlight : List Flight

def NodeOp.octets? : NodeOp → Option (List UInt8)
  | .sent _ octets => some octets
  | _ => none

/-- What the node has handed to its interfaces since it was `s`, latest first. -/
def Sys.sentSince (t s : Sys) : List (List UInt8) :=
  (t.log.take (t.log.length - s.log.length)).filterMap NodeOp.octets?

/-- An event on a node; the TX work of a link running, if it is scheduled, in memory that
holds `buf`; a node receiving a frame; a frame that is lost; time that passes. -/
inductive WireStep (n : Nat) where
  | event (i : Fin n) (x : Step)
  | transmit (i : Fin n) (lnk : PortIdx) (padRapsPdus : Bool) (buf : RapsPdu)
      (hdr : NetEthVlanHdr) (ans : Answers KernelCall)
  | receive (i : Fin n) (dev : Device) (k : Nat) (ans : Answers KernelCall)
  | lose (k : Nat)
  | elapse (ms : Nat)

def Flight.wait (f : Flight) (ms : Nat) : Flight := { f with age := f.age + ms }

/-- The frame as the driver hands it over. -/
def Flight.pkt (f : Flight) : NetPkt := ⟨f.octets, 0, Nat.zero_le _⟩

namespace Wire

variable {n : Nat}

def update (w : Wire n) (i : Fin n) (s : Sys) : Wire n :=
  { w with nodes := Function.update w.nodes i s }

def step (w : Wire n) : WireStep n → Wire n
  | .event i x => w.update i ((w.nodes i).step x)
  | .transmit i lnk padRapsPdus buf hdr ans =>
    let after := (runTxWork padRapsPdus buf lnk).final ans (w.nodes i)
    let frames := (after.sentSince (w.nodes i)).map fun octets =>
      (⟨vlanHdrLayout.bytes hdr ++ octets, 0⟩ : Flight)
    { nodes := Function.update w.nodes i after, inFlight := frames ++ w.inFlight }
  | .receive i dev k ans =>
    match w.inFlight[k]? with
    | some f => w.update i ((erpsRecv dev f.pkt).final ans (w.nodes i))
    | none => w
  | .lose k => { w with inFlight := w.inFlight.eraseIdx k }
  | .elapse ms => {
      nodes := fun i => (w.nodes i).step (.elapse ms, allSucceed)
      inFlight := w.inFlight.map (·.wait ms) }

end Wire

end Erps
