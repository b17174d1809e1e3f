import Mathlib.Data.Fintype.EquivFin
import Erps.Nets.Cycle
import Erps.Properties.PortSync
import Erps.Wire

/-!
# The topology of a ring

The cabling of a ring says which port of each node leads to the next node; the other one
leads to the node before. A link is cut if a port at one of its ends is disabled. What is
sent on the traffic VLAN goes round as long as no link is cut, and reaches every node as long
as at most one is.
-/
namespace Erps

open Nets

variable {n : Nat} {ahead : Fin n → PortIdx} {i e e' : Fin n} {lnk : PortIdx}

/-- The port is an end of the link from `e` to the node after it. -/
def OnLink (ahead : Fin n → PortIdx) (e i : Fin n) (lnk : PortIdx) : Prop :=
  (i = e ∧ lnk = ahead i) ∨ (i = after e ∧ lnk = (ahead i).other)

instance (ahead : Fin n → PortIdx) (e i : Fin n) (lnk : PortIdx) : Decidable (OnLink ahead e i lnk) := by
  unfold OnLink; infer_instance

theorem after_surjective (i : Fin n) : ∃ e, after e = i := by
  obtain ⟨k, back⟩ := isRing_after n (after i) i
  refine ⟨after^[k] i, ?_⟩
  exact (Function.iterate_succ_apply' after k i).symm.trans back

theorem after_injective : Function.Injective (after (n := n)) :=
  Finite.injective_iff_surjective.mpr after_surjective

/-- Every port is an end of a link. -/
theorem exists_onLink (ahead : Fin n → PortIdx) (i : Fin n) (lnk : PortIdx) :
    ∃ e, OnLink ahead e i lnk := by
  by_cases forth : lnk = ahead i
  · exact ⟨i, .inl ⟨rfl, forth⟩⟩
  · obtain ⟨e, back⟩ := after_surjective i
    refine ⟨e, .inr ⟨back.symm, ?_⟩⟩
    revert forth
    cases lnk <;> cases ahead i <;> decide

/-- It is an end of one link only. -/
theorem OnLink.unique (h : OnLink ahead e i lnk) (h' : OnLink ahead e' i lnk) : e = e' := by
  have ends : ahead i ≠ (ahead i).other := by cases ahead i <;> decide
  rcases h with ⟨here, forth⟩ | ⟨here, back⟩ <;> rcases h' with ⟨here', forth'⟩ | ⟨here', back'⟩
  · exact here.symm.trans here'
  · exact absurd (forth.symm.trans back') ends
  · exact absurd (forth'.symm.trans back) ends
  · exact after_injective (here.symm.trans here')

namespace Wire

variable {w : Wire n}

def Cut (w : Wire n) (ahead : Fin n → PortIdx) (e : Fin n) : Prop :=
  ∃ i lnk, OnLink ahead e i lnk ∧ ((w.nodes i).port lnk).enabled = false

/-- However the nodes are cabled, nothing comes round. -/
def LoopFree (w : Wire n) : Prop := ∀ ahead i, ¬Circuit after (w.Cut ahead) i

/-- Nothing comes round, and every node is reached from every other. -/
structure Tree (w : Wire n) (ahead : Fin n → PortIdx) : Prop where
  loopFree : ∀ i, ¬Circuit after (w.Cut ahead) i
  linked : ∀ i j, Linked after (w.Cut ahead) i j

theorem loopFree_of_disabled (disabled : ((w.nodes i).port lnk).enabled = false) : w.LoopFree := by
  intro ahead j circuit
  obtain ⟨e, here⟩ := exists_onLink ahead i lnk
  exact (circuit_iff (isRing_after n)).mp circuit e ⟨i, lnk, here, disabled⟩

/-- Where the disabled ports are ends of one link, that link is cut and the others make up a
tree. -/
theorem tree_of_cut (disabled : ((w.nodes i).port lnk).enabled = false)
    (only : ∀ i lnk, ((w.nodes i).port lnk).enabled = false → OnLink ahead e i lnk) :
    w.Tree ahead ∧ ∀ k, w.Cut ahead k ↔ k = e := by
  have one (k : Fin n) (cut : w.Cut ahead k) : k = e := by
    obtain ⟨j, l, here, off⟩ := cut
    exact here.unique (only j l off)
  refine ⟨⟨loopFree_of_disabled disabled ahead, linked_of_cut (isRing_after n) ?_⟩, fun k => ⟨one k, ?_⟩⟩
  · exact fun k l cut cut' => (one k cut).trans (one l cut').symm
  · rintro rfl
    exact ⟨i, lnk, only i lnk disabled, disabled⟩

/-- Where they are the ends of the RPL. -/
theorem tree_of_rpl {ringRole : Fin n → Prop} (rpl : ∀ i, ringRole i → OnLink ahead e i .port1)
    (hasRpl : ∃ i, ringRole i)
    (disabled : ∀ i lnk, ((w.nodes i).port lnk).enabled = false ↔ lnk = .port1 ∧ ringRole i) :
    w.Tree ahead ∧ ∀ k, w.Cut ahead k ↔ k = e := by
  obtain ⟨i, here⟩ := hasRpl
  refine tree_of_cut ((disabled i .port1).mpr ⟨rfl, here⟩) fun j lnk off => ?_
  obtain ⟨rfl, there⟩ := (disabled j lnk).mp off
  exact rpl j there

end Wire

end Erps
