import Erps.Properties.Startup

/-!
# Interfaces of no ring

Every function that takes an interface looks for a link with it, and turns an interface of no
ring away before a node is derived from a link. `net_erps_unset_rpl` alone checks the interface
it is given where the others check the link they have found.
-/
namespace Erps

open Calls

namespace Rings

/-- The functions that take an interface, with their other arguments. -/
inductive ApiCall where
  | ctl (ev : ErpsEvent)
  | ringInfo (info : RingInfo)
  | setAsRpl (isOwner : Bool)
  | unsetRpl
  | setRingId (ringId : UInt8)
  deriving DecidableEq, Repr

variable {n : Nat}

def ApiCall.prog (iface : Iface) : ApiCall → Prog n Int
  | ctl ev => netErpsCtl iface ev
  | ringInfo info => do
    let res ← netErpsRingInfoByIface iface info
    return res.1
  | setAsRpl isOwner => netErpsSetAsRpl iface isOwner
  | unsetRpl => netErpsUnsetRpl iface
  | setRingId ringId => netErpsSetRingId iface ringId

/-- The interface is that of no port. -/
def Foreign (r : Rings n) (iface : Iface) : Prop := ∀ i lnk, iface ≠ some (r.dev i lnk)

/-- The call returns `-ENODEV`, and nothing has been written in it, not even in passing; to follow a
null pointer is to write. -/
structure Refuses (r : Rings n) (m : Prog n Int) (ans : Answers KernelCall) : Prop where
  status : m.result ans r = -ENODEV
  unchanged : m.final ans r = r
  unwritten : m.trace ans r = []

section
variable {r : Rings n} {iface : Iface} {ans : Answers KernelCall}

theorem nodeLookup_none_iff (node : Node) (dev : Device) :
    node.linkLookupByIface dev = none ↔ ∀ lnk, (node.ports.get lnk).dev ≠ dev := by
  unfold Node.linkLookupByIface
  split
  · next here => exact ⟨nofun, fun missed => absurd here (missed .port0)⟩
  · next not0 =>
    split
    · next here => exact ⟨nofun, fun missed => absurd here (missed .port1)⟩
    · next not1 =>
      refine ⟨fun _ lnk => ?_, fun _ => rfl⟩
      cases lnk with
      | port0 => exact not0
      | port1 => exact not1

/-- The lookup misses exactly the interfaces of no ring. -/
theorem linkLookupByIface_none_iff : r.linkLookupByIface iface = none ↔ r.Foreign iface := by
  cases iface with
  | none => exact ⟨fun _ _ _ => nofun, fun _ => rfl⟩
  | some dev =>
    change (List.finRange n).findSome? _ = none ↔ _
    rw [List.findSome?_eq_none_iff]
    constructor
    · intro missed i lnk same
      have here := Option.map_eq_none_iff.mp (missed i (List.mem_finRange i))
      exact (nodeLookup_none_iff _ dev).mp here lnk (Option.some.inj same).symm
    · intro foreign i _
      refine Option.map_eq_none_iff.mpr ((nodeLookup_none_iff _ dev).mpr fun lnk same => ?_)
      exact foreign i lnk (congrArg some same.symm)

/-- What a program that declines adds to the past. -/
abbrev Declines (r : Rings n) (new : List (Rings n)) (ret : Int) (t : Rings n) : Prop :=
  ret = -ENODEV ∧ t = r ∧ new = []

theorem refuses_of_declines {m : Prog n Int} (h : Adds anyAnswer m r.Declines r) : r.Refuses m ans := by
  obtain ⟨status, unchanged, unwritten⟩ := h.run ans (respects_any ans)
  exact ⟨status, unchanged, unwritten⟩

/-- The functions that check the link. -/
theorem declines_of_checked (foreign : r.Foreign iface) {c : ApiCall} (checked : c ≠ .unsetRpl) :
    Adds anyAnswer (c.prog iface) r.Declines r := by
  have missed := linkLookupByIface_none_iff.mpr foreign
  cases c with
  | unsetRpl => exact absurd rfl checked
  | ringInfo info =>
    refine adds_bind (adds_bind (adds_read ?_))
    rw [missed]
    exact adds_pure (adds_pure ⟨rfl, rfl, rfl⟩)
  | ctl ev | setAsRpl isOwner | setRingId ringId =>
    refine adds_bind (adds_read ?_)
    rw [missed]
    exact adds_pure ⟨rfl, rfl, rfl⟩

/-- The one that does not, given an interface or a null pointer. -/
theorem unsetRpl_adds (foreign : r.Foreign iface) : Adds anyAnswer (netErpsUnsetRpl iface)
    (fun new ret t => if iface = none then r.Declines new ret t else new ≠ []) r := by
  have missed := linkLookupByIface_none_iff.mpr foreign
  refine adds_bind (adds_read ?_)
  rw [missed]
  refine adds_ite (fun null => adds_pure ?_) fun given => adds_bind (adds_write (adds_pure ?_))
  · rw [if_pos null]
    exact ⟨rfl, rfl, rfl⟩
  · rw [if_neg given]
    exact List.cons_ne_nil _ _

end

/-- A function refuses the interfaces of no ring if and only if it is not `net_erps_unset_rpl`
with an interface that is there. -/
theorem foreign_refused_iff {r : Rings n} {iface : Iface} (foreign : r.Foreign iface) (c : ApiCall)
    (ans : Answers KernelCall) : r.Refuses (c.prog iface) ans ↔ c ≠ .unsetRpl ∨ iface = none := by
  by_cases checked : c = .unsetRpl
  · subst checked
    have adds := (unsetRpl_adds foreign).run ans (respects_any ans)
    constructor
    · intro refuses
      by_cases null : iface = none
      · exact .inr null
      · rw [if_neg null] at adds
        exact absurd refuses.unwritten adds
    · rintro (other | null)
      · exact absurd rfl other
      · rw [if_pos null] at adds
        exact ⟨adds.1, adds.2.1, adds.2.2⟩
  · exact ⟨fun _ => .inl checked, fun _ => refuses_of_declines (declines_of_checked foreign checked)⟩

theorem sample_foreign : sample.Foreign (some (sampleDevice 7 7)) := by
  intro i lnk
  revert i
  cases lnk <;> decide

/-- A signal failure on a port that is in neither of two rings. -/
theorem foreign_refused_sample :
    sample.Refuses (ApiCall.prog (some (sampleDevice 7 7)) (.ctl .signalFail)) allSucceed :=
  (foreign_refused_iff sample_foreign (.ctl .signalFail) allSucceed).mpr (.inl (by decide))

/-- The RPL is unset through that port. -/
theorem unsetRpl_follows_null : sample.Foreign (some (sampleDevice 7 7)) ∧
    ¬sample.Refuses (ApiCall.unsetRpl.prog (some (sampleDevice 7 7))) allSucceed := by
  refine ⟨sample_foreign, fun refuses => ?_⟩
  exact absurd refuses.status (by decide)

end Rings

end Erps
