import Erps.Events

/-!
# The flag, the port and the traffic VLAN

Blocking a link changes its flag, its port and its traffic VLAN interface, one after
the other, and so does unblocking. A call that cannot find the VLAN interface stops
halfway and says so; the next call with the same purpose finds the flag set and says
that all is well. The three agree after every successful call exactly as long as no
call finds its flag set already and the VLAN interface not following it.
-/
namespace Erps

open Calls Runs

/-- A ring port as its link sees it. -/
structure Port where
  blocked : Bool
  enabled : Bool
  vlanUp : Bool
  deriving DecidableEq, Repr

namespace Port

/-- The traffic VLAN interface is as the flag says. -/
def Follows (p : Port) : Prop := p.vlanUp = !p.blocked

/-- The port and the traffic VLAN interface are as the flag says. -/
def Synced (p : Port) : Prop := p.enabled = !p.blocked ∧ p.Follows

/-- What a call to set the flag to `want` can return and leave behind. -/
inductive Sets (want : Bool) (p : Port) : Int → Port → Prop where
  | already (flag : p.blocked = want) : Sets want p 0 p
  | refused {ret : Int} (flag : p.blocked ≠ want) (failed : ret ≠ 0) : Sets want p ret p
  | halfway {ret : Int} (flag : p.blocked ≠ want) (failed : ret ≠ 0) :
      Sets want p ret ⟨want, !want, p.vlanUp⟩
  | done (flag : p.blocked ≠ want) : Sets want p 0 ⟨want, !want, !want⟩

theorem Sets.cast {want : Bool} {p q r : Port} {ret : Int} (h : Sets want p ret q)
    (same : q = r) : Sets want p ret r := same ▸ h

end Port

def Sys.port (s : Sys) (lnk : PortIdx) : Port where
  blocked := (s.link lnk).blocked
  enabled := (s.hw (s.link lnk).dev).enabled
  vlanUp := (s.hw (s.link lnk).dev).vlanUp s.node.trafficVid

section
variable {good : KernelCall → Int → Prop} {lnk : PortIdx}

theorem linkBlock_sets (s : Sys) : wp good anyState (linkBlock lnk)
    (fun ret t => (s.port lnk).Sets true ret (t.port lnk)) s := by
  refine wp_bind (wp_read ?_)
  refine wp_ite (fun blocked => wp_pure (.already blocked)) fun opened => ?_
  have flag : (s.port lnk).blocked ≠ true := opened
  refine wp_bind (wp_read (wp_bind (wp_bind (wp_call fun found _ => wp_pure ?_))))
  refine wp_ite (fun _ => wp_pure (.refused flag (by decide))) fun _ => ?_
  refine wp_bind (wp_bind (wp_call fun ret _ => ?_))
  refine wp_ite (fun failed => wp_pure ?_) fun _ => wp_bind (wp_write trivial (wp_pure ?_))
  · exact wp_ite (fun _ => wp_pure (.refused flag failed)) fun ok => absurd failed ok
  refine wp_ite (fun failed => absurd rfl failed) fun _ => ?_
  -- the port has been disabled; what is left are the flag and the VLAN interface
  refine wp_bind (wp_write trivial (wp_bind (wp_write trivial (wp_bind (wp_write trivial ?_)))))
  refine wp_bind (wp_read (wp_bind (wp_bind (wp_call fun vlan _ => wp_pure ?_))))
  refine wp_ite (fun _ => wp_pure ?_) fun _ => wp_bind (wp_write trivial (wp_pure ?_))
  · refine (Port.Sets.halfway flag (by decide)).cast ?_
    cases lnk <;> simp [Sys.port, Sys.link, Sys.modHw, Ports.get, Ports.modify, PortIdx.other,
      Link.deleteNodeIdBpr]
  · refine (Port.Sets.done flag).cast ?_
    cases lnk <;> simp [Sys.port, Sys.link, Sys.modHw, Ports.get, Ports.modify, PortIdx.other,
      Link.deleteNodeIdBpr]

theorem linkUnblock_sets (s : Sys) : wp good anyState (linkUnblock lnk)
    (fun ret t => (s.port lnk).Sets false ret (t.port lnk)) s := by
  have passes : (s.modLink lnk fun l => { l with failed := false }).port lnk = s.port lnk := by
    cases lnk <;> simp [Sys.port, Sys.link, Ports.get, Ports.modify]
  refine wp_bind (wp_write trivial ?_)
  rw [← passes]
  generalize (s.modLink lnk fun l => { l with failed := false }) = s
  refine wp_bind (wp_read ?_)
  have set_iff : (!(s.link lnk).blocked) = true ↔ (s.port lnk).blocked = false :=
    Bool.not_eq_eq_eq_not
  refine wp_ite (fun opened => wp_pure (.already (set_iff.mp opened))) fun blocked => ?_
  have flag : (s.port lnk).blocked ≠ false := mt set_iff.mpr blocked
  refine wp_bind (wp_read (wp_bind (wp_bind (wp_call fun found _ => wp_pure ?_))))
  refine wp_ite (fun _ => wp_pure (.refused flag (by decide))) fun _ => ?_
  refine wp_bind (wp_bind (wp_call fun ret _ => ?_))
  refine wp_ite (fun failed => wp_pure ?_) fun _ => wp_bind (wp_write trivial (wp_pure ?_))
  · exact wp_ite (fun _ => wp_pure (.refused flag failed)) fun ok => absurd failed ok
  refine wp_ite (fun failed => absurd rfl failed) fun _ => ?_
  refine wp_bind (wp_write trivial ?_)
  refine wp_bind (wp_read (wp_bind (wp_bind (wp_call fun vlan _ => wp_pure ?_))))
  refine wp_ite (fun _ => wp_pure ?_) fun _ => wp_bind (wp_write trivial (wp_pure ?_))
  · refine (Port.Sets.halfway flag (by decide)).cast ?_
    cases lnk <;> simp [Sys.port, Sys.link, Sys.modHw, Ports.get, Ports.modify]
  · refine (Port.Sets.done flag).cast ?_
    cases lnk <;> simp [Sys.port, Sys.link, Sys.modHw, Ports.get, Ports.modify]

end

/-! ### Sequences of calls -/

inductive LinkOp where
  | block | unblock
  deriving DecidableEq, Repr

namespace LinkOp

def prog (lnk : PortIdx) : LinkOp → M Int
  | block => linkBlock lnk
  | unblock => linkUnblock lnk

/-- What the flag is to be. -/
def want : LinkOp → Bool
  | block => true
  | unblock => false

theorem prog_sets {good : KernelCall → Int → Prop} (op : LinkOp) (lnk : PortIdx) (s : Sys) :
    wp good anyState (op.prog lnk) (fun ret t => (s.port lnk).Sets op.want ret (t.port lnk)) s := by
  cases op with
  | block => exact linkBlock_sets s
  | unblock => exact linkUnblock_sets s

end LinkOp

/-- A call on a link, with the answers to the calls it makes itself. -/
abbrev LinkCall := LinkOp × Answers KernelCall

/-- The system after a call and the status the call returns. -/
def LinkCall.step (lnk : PortIdx) (u : Sys × Int) (x : LinkCall) : Sys × Int :=
  ((x.1.prog lnk).final x.2 u.1, (x.1.prog lnk).result x.2 u.1)

/-- If the latest call has returned zero, the port and the VLAN interface are as the flag
says. -/
def SyncedIfOk (lnk : PortIdx) (u : Sys × Int) : Prop := u.2 = 0 → (u.1.port lnk).Synced

/-- Where the call finds the flag set already, the VLAN interface follows it. -/
def FindsFollowing (lnk : PortIdx) (u : Sys × Int) (x : LinkCall) : Prop :=
  (u.1.port lnk).blocked = x.1.want → (u.1.port lnk).Follows

/-- The port itself is never out of step with the flag. -/
theorem Port.Sets.driven {want : Bool} {p q : Port} {ret : Int} (h : p.Sets want ret q)
    (driven : p.enabled = !p.blocked) : q.enabled = !q.blocked := by
  cases h with
  | already _ | refused _ _ => exact driven
  | halfway _ _ | done _ => rfl

theorem Port.Sets.synced_iff {want : Bool} {p q : Port} {ret : Int} (h : p.Sets want ret q)
    (driven : p.enabled = !p.blocked) :
    (ret = 0 → q.Synced) ↔ (p.blocked = want → p.Follows) := by
  cases h with
  | already flag =>
    -- nothing is repaired: whatever was wrong before still is
    constructor
    · exact fun synced _ => (synced rfl).2
    · exact fun follows _ => ⟨driven, follows flag⟩
  | refused flag failed | halfway flag failed =>
    exact iff_of_true (fun ok => absurd ok failed) fun set => absurd set flag
  | done flag => exact iff_of_true (fun _ => ⟨rfl, rfl⟩) fun set => absurd set flag

/-- On a link that starts consistent, every successful call leaves flag, port and traffic
VLAN interface in agreement, if and only if no call finds its flag set already and the VLAN
interface not following it. -/
theorem port_synced_iff {s : Sys} {lnk : PortIdx} {xs : List LinkCall}
    (synced : (s.port lnk).Synced) :
    EachState (LinkCall.step lnk) (s, 0) xs (fun _ u => SyncedIfOk lnk u) ↔
      EachStep (LinkCall.step lnk) (s, 0) xs fun _ u x => FindsFollowing lnk u x := by
  have sets (u : Sys × Int) (x : LinkCall) : (u.1.port lnk).Sets x.1.want
      (LinkCall.step lnk u x).2 ((LinkCall.step lnk u x).1.port lnk) :=
    (x.1.prog_sets lnk u.1).post x.2 (respects_any x.2)
  have driven : EachState (LinkCall.step lnk) (s, 0) xs fun _ u =>
      (u.1.port lnk).enabled = !(u.1.port lnk).blocked := by
    refine eachState_of_eachStep synced.1 (eachStep_of_forall fun _ _ => trivial) ?_
    exact fun _ u x _ _ before => (sets u x).driven before
  refine eachState_iff_eachStep driven (fun _ => synced) ?_
  intro pre u x _ _ before _
  exact (sets u x).synced_iff before

theorem port_synced_iff_sample :
    let s := (sampleNode true false (sampleDevice 0 1) (sampleDevice 1 2)).boot
    let xs : List LinkCall := [(.block, allSucceed), (.unblock, allSucceed)]
    EachState (LinkCall.step .port0) (s, 0) xs (fun _ u => SyncedIfOk .port0 u) ↔
      EachStep (LinkCall.step .port0) (s, 0) xs fun _ u x => FindsFollowing .port0 u x :=
  port_synced_iff ⟨rfl, rfl⟩

/-- A kernel that does not find VLAN interfaces. -/
def missesVlan : Answers KernelCall
  | _, .netEthGetVlanIface _ _ => 0
  | n, c => allSucceed n c

/-- Blocking is tried again once the VLAN interface is there. -/
theorem vlan_left_up : ¬∀ (s : Sys) (lnk : PortIdx) (xs : List LinkCall), (s.port lnk).Synced →
    SyncedIfOk lnk (Runs.run (LinkCall.step lnk) (s, 0) xs) := by
  intro synced
  have here := synced (sampleNode true false (sampleDevice 0 1) (sampleDevice 1 2)).boot .port0
    [(.block, missesVlan), (.block, allSucceed)] ⟨rfl, rfl⟩ (by decide)
  exact absurd here.2 (by unfold Port.Follows; decide)

end Erps
