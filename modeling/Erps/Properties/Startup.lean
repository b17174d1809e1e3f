import Mathlib.Order.Basic
import Erps.Rings
import Erps.Wiring

/-!
# Start-up opens no ring

The first pass of `erps_init` shuts every port of every ring and opens none. The second
pass opens at most one port of each ring, the one that is not to be blocked, whatever fails
on the way.
-/
namespace Erps

open Calls

/-- Which ports forward. -/
abbrev Gates := Device → Bool

def gatesOf (hw : Device → PortHw) : Gates := fun d => (hw d).enabled

def Sys.gates (s : Sys) : Gates := gatesOf s.hw

def Rings.gates {n : Nat} (r : Rings n) : Gates := gatesOf r.hw

/-! ### The first pass on a node -/

section
variable {good : KernelCall → Int → Prop} {s : Sys} {lnk : PortIdx}

/-- The history of gates from the latest back to the start is a descending one: a port that
is open at some time has been open at all times before. -/
structure Shutting (now : Gates) (new : List Gates) (start : Gates) : Prop where
  descends : (new ++ [start]).Pairwise (· ≤ ·)
  lowest : ∀ g ∈ new ++ [start], now ≤ g
  latest : now ∈ new ++ [start]

theorem shutting_none (g : Gates) : Shutting g [] g := by
  constructor <;> simp

theorem Shutting.trans {start mid now : Gates} {new new' : List Gates}
    (first : Shutting mid new start) (second : Shutting now new' mid) :
    Shutting now (new' ++ new) start := by
  obtain ⟨ordered, -, across⟩ := List.pairwise_append.mp second.descends
  have low : now ≤ mid := second.lowest mid (by simp)
  constructor
  · rw [List.append_assoc]
    refine List.pairwise_append.mpr ⟨ordered, first.descends, fun g member h earlier => ?_⟩
    exact (across g member mid (by simp)).trans (first.lowest h earlier)
  · intro g member
    rw [List.append_assoc] at member
    rcases List.mem_append.mp member with later | earlier
    · exact second.lowest g (List.mem_append_left _ later)
    · exact low.trans (first.lowest g earlier)
  · rw [List.append_assoc]
    rcases List.mem_append.mp second.latest with later | same
    · exact List.mem_append_left _ later
    · rw [List.mem_singleton.mp same]
      exact List.mem_append_right _ first.latest

theorem shuts_le (s : Sys) (dev : Device) :
    (s.modHw dev fun p => { p with enabled := false }).gates ≤ s.gates := by
  intro d
  by_cases here : d = dev
  · simp [Sys.gates, gatesOf, Sys.modHw, here]
  · simp [Sys.gates, gatesOf, Sys.modHw, here]

/-- What shutting ports does to the history: it descends, the ports in `shut` are shut at the
end of a successful run, and the node is left alone. -/
abbrev Shuts (shut : Sys → List Device) (s : Sys) (new : List Sys) (ret : Int) (t : Sys) : Prop :=
  Shutting t.gates (new.map Sys.gates) s.gates ∧ t.node = s.node ∧
    (ret = 0 → ∀ d ∈ shut s, t.gates d = false)

theorem linkBlockPort_shuts (s : Sys) (lnk : PortIdx) :
    Adds good (linkBlockPort lnk) (Shuts (fun s => [(s.link lnk).dev]) s) s := by
  have stays (ret : Int) (failed : ret ≠ 0) :
      Shuts (fun s => [(s.link lnk).dev]) s [] ret s :=
    ⟨shutting_none _, rfl, fun ok => absurd ok failed⟩
  refine adds_bind (adds_read (adds_bind (adds_bind (adds_call fun found _ => adds_pure ?_))))
  refine adds_ite (fun _ => adds_pure (stays _ (by decide))) fun _ => ?_
  refine adds_bind (adds_call fun ret _ => adds_ite (fun failed => adds_pure ?_) fun _ => ?_)
  · exact stays ret failed
  refine adds_bind (adds_write (adds_pure ⟨?_, rfl, fun _ d member => ?_⟩))
  · have less := shuts_le s (s.link lnk).dev
    constructor <;> simp [less]
  · have here : d = (s.link lnk).dev := by simpa using member
    simp [Sys.gates, gatesOf, Sys.modHw, here]

def Sys.devs (s : Sys) : List Device := [s.node.ports.port0.dev, s.node.ports.port1.dev]

theorem nodeBlockAll_shuts (s : Sys) : Adds good nodeBlockAll (Shuts Sys.devs s) s := by
  refine adds_bind (adds_mono (linkBlockPort_shuts s .port0) ?_)
  rintro new ret t ⟨first, same, shut0⟩
  refine adds_ifOk (fun ok => adds_mono (linkBlockPort_shuts t .port1) ?_) fun failed => ?_
  · rintro new' ret' u ⟨second, same', shut1⟩
    refine ⟨?_, same'.trans same, fun ok' d member => ?_⟩
    · rw [List.map_append]
      exact first.trans second
    -- what has been shut first is not opened again
    have less : u.gates ≤ t.gates := second.lowest t.gates (by simp)
    rcases List.mem_pair.mp member with rfl | rfl
    · have shut : t.gates (s.link .port0).dev = false := shut0 ok _ (by simp)
      have below := less (s.link .port0).dev
      rw [shut] at below
      exact Bool.eq_false_of_le_false below
    · refine shut1 ok' _ ?_
      rw [List.mem_singleton, Sys.link, same]
      rfl
  · exact ⟨first, same, fun ok => absurd ok failed⟩

end

/-! ### The second pass on a node -/

/-- What matters of a node in the second pass: where its links are, its roles, and which
ports forward. -/
structure Doors where
  devs : Ports Device
  rplOwner : Bool
  rplNbr : Bool
  gates : Gates

def Sys.doors (s : Sys) : Doors :=
  ⟨s.node.ports.map Link.dev, s.node.rplOwner, s.node.rplNbr, s.gates⟩

namespace Doors

/-- The link that `erps_fsm_init` opens. -/
def opens (v : Doors) : PortIdx := if v.rplOwner ∨ v.rplNbr then .port0 else .port1

/-- The links are where they were, and no port but that of the link to open has been
moved. -/
structure Ajar (v u : Doors) : Prop where
  devs : u.devs = v.devs
  gates : ∀ d, d ≠ v.devs.get v.opens → u.gates d = v.gates d

theorem ajar_refl (v : Doors) : v.Ajar v := ⟨rfl, fun _ _ => rfl⟩

end Doors

section
variable {good : KernelCall → Int → Prop} {v : Doors} {lnk : PortIdx}

theorem Sys.doors_dev (s : Sys) (lnk : PortIdx) : s.doors.devs.get lnk = (s.link lnk).dev := by
  cases lnk <;> rfl

theorem doors_modWork (s : Sys) (w : WorkItem) (f : DelayableWork → DelayableWork) :
    (s.modWork w f).doors = s.doors := by
  cases w with
  | tx lnk | linkDown lnk => cases lnk <;> rfl
  | wtr | wtb => rfl

theorem offTx_doors : OffTx Sys.doors where
  flush _ := rfl
  work s lnk f := doors_modWork s (.tx lnk) f
  pdu _ _ _ := rfl
  note _ _ _ := rfl

theorem gates_modHw (s : Sys) (dev : Device) (f : PortHw → PortHw) :
    (s.modHw dev f).gates = fun d => if d = dev then (f (s.hw d)).enabled else s.gates d := by
  funext d
  by_cases here : d = dev
  · simp [Sys.gates, gatesOf, Sys.modHw, here]
  · simp [Sys.gates, gatesOf, Sys.modHw, here]

theorem doors_modHw (s : Sys) (dev : Device) (f : PortHw → PortHw)
    (kept : ∀ p, (f p).enabled = p.enabled) : (s.modHw dev f).doors = s.doors := by
  have gates : (s.modHw dev f).gates = s.gates := by
    rw [gates_modHw]
    funext d
    simp [Sys.gates, gatesOf, kept]
  exact congrArg (Doors.mk _ _ _) gates

theorem doors_modLink (s : Sys) (lnk : PortIdx) (f : Link → Link) (kept : ∀ l, (f l).dev = l.dev) :
    (s.modLink lnk f).doors = s.doors := by
  cases lnk <;> simp [Sys.doors, Ports.map, Ports.modify, kept, Sys.gates]

theorem offInit_doors : OffInit Sys.doors where
  work := doors_modWork
  topreq _ _ := rfl
  vlan s dev f kept := doors_modHw s dev f fun p => (kept p).1

/-- At every point while `m` runs and after it, at most the port to open has been moved. -/
abbrev KeepsAjar (v : Doors) {α : Type} (good : KernelCall → Int → Prop) (m : M α) : Prop :=
  Keeps good (fun s => v.Ajar s.doors) m

theorem frames_keepsAjar {α : Type} {m : M α} (h : Frames good Sys.doors m) : KeepsAjar v good m :=
  h.keeps (P := v.Ajar)

/-- A port that is moved to where it was, or that may be moved. -/
theorem setEnabled_keepsAjar {dev : Device} {enable : Bool}
    (allowed : dev = v.devs.get v.opens ∨ v.gates dev = enable) :
    KeepsAjar v good (netEthPortSetEnabled dev enable) := by
  intro s now
  have after : v.Ajar (s.modHw dev fun p => { p with enabled := enable }).doors := by
    refine ⟨now.devs, fun d other => ?_⟩
    show (s.modHw dev fun p => { p with enabled := enable }).gates d = v.gates d
    rw [gates_modHw]
    show (if d = dev then enable else s.gates d) = v.gates d
    split
    · next here =>
      subst here
      exact (allowed.resolve_left other).symm
    · exact now.gates d other
  refine wp_bind (wp_call fun ret _ => wp_ite (fun _ => wp_pure now) fun _ => ?_)
  exact wp_bind (wp_write after (wp_pure after))

/-- What both ways to set the flag of a link do once the port has been moved. -/
theorem afterwards_keepsAjar {dev : Device} {up : Bool} : KeepsAjar v good (do
    let vid ← read fun s => s.node.trafficVid
    if !(← netEthGetVlanIface dev vid) then
      return -ENODEV
    netIfSetUp dev vid up
    return (0 : Int)) := by
  refine frames_keepsAjar (frames_read.bind fun vid => netEthGetVlanIface_frames.bind fun found => ?_)
  refine frames_ite (fun _ => frames_pure) fun _ => ?_
  exact Frames.bind (frames_write fun s => doors_modHw s dev _ fun _ => rfl) fun _ => frames_pure

theorem modLink_keepsAjar {lnk : PortIdx} {f : Link → Link} (kept : ∀ l, (f l).dev = l.dev) :
    KeepsAjar v good (write fun s => s.modLink lnk f) :=
  frames_keepsAjar (frames_write fun s => doors_modLink s lnk f kept)

/-- Blocking a link whose port is shut already. -/
theorem linkBlock_keepsAjar (shut : v.gates (v.devs.get lnk) = false) :
    KeepsAjar v good (linkBlock lnk) := by
  refine keeps_read fun blocked => keeps_ite (fun _ => keeps_pure) fun _ => ?_
  intro s now
  refine wp_bind (wp_read ?_)
  rw [← s.doors_dev, now.devs]
  refine (frames_keepsAjar netIfLookupByDev_frames).bind (fun found => ?_) s now
  refine keeps_ite (fun _ => keeps_pure) fun _ => (setEnabled_keepsAjar (.inr shut)).bind fun ret => ?_
  refine keeps_ite (fun _ => keeps_pure) fun _ => Keeps.bind (modLink_keepsAjar fun _ => rfl) fun _ => ?_
  refine Keeps.bind (modLink_keepsAjar fun _ => rfl) fun _ => ?_
  exact Keeps.bind (modLink_keepsAjar fun _ => rfl) fun _ => afterwards_keepsAjar

theorem linkUnblockForce_keepsAjar : KeepsAjar v good (linkUnblockForce v.opens) := by
  refine Keeps.bind (modLink_keepsAjar fun _ => rfl) fun _ => ?_
  refine Keeps.bind (modLink_keepsAjar fun _ => rfl) fun _ => ?_
  refine keeps_read fun blocked => keeps_ite (fun _ => keeps_pure) fun _ => ?_
  intro s now
  refine wp_bind (wp_read ?_)
  rw [← s.doors_dev, now.devs]
  refine (frames_keepsAjar netIfLookupByDev_frames).bind (fun found => ?_) s now
  refine keeps_ite (fun _ => keeps_pure) fun _ => (setEnabled_keepsAjar (.inl rfl)).bind fun ret => ?_
  refine keeps_ite (fun _ => keeps_pure) fun _ => ?_
  exact Keeps.bind (modLink_keepsAjar fun _ => rfl) fun _ => afterwards_keepsAjar

/-- The initialisation blocks a port that is shut and opens at most the other one. -/
theorem fsmInit_ajar {s : Sys} (shut : s.doors.gates (s.doors.devs.get s.doors.opens.other) = false) :
    wp good (fun t => s.doors.Ajar t.doors) fsmInit (fun _ t => s.doors.Ajar t.doors) s := by
  generalize same : s.doors = v at shut ⊢
  have schedules {ret : Int} {reqState subcode status : UInt8} :
      KeepsAjar v good (ifOk ret (nodeSchedTx reqState subcode status)) :=
    (frames_keepsAjar offTx_doors.nodeSchedTx).ifOk
  have last (ret : Int) : KeepsAjar v good (do fsmTransition .pending; return ret) :=
    frames_keepsAjar (Frames.bind (frames_write fun _ => rfl) fun _ => frames_pure)
  have now : v.Ajar (s.modNode fun n => { n with guardTimerExpiry := 0 }).doors := by
    rw [← same]
    exact s.doors.ajar_refl
  have role : (s.node.rplOwner = true ∨ s.node.rplNbr = true) ↔ (v.rplOwner = true ∨ v.rplNbr = true) := by
    rw [← same]
    rfl
  refine wp_bind (wp_write now (wp_bind (wp_read (wp_ite (fun ring => ?_) fun plain => ?_))))
  · have opens : v.opens = .port0 := if_pos (role.mp ring)
    rw [opens] at shut
    cases rpl : (s.modNode fun n => { n with guardTimerExpiry := 0 }).node.getRpl with
    | none =>
      have fails : KeepsAjar v good assertFails :=
        frames_keepsAjar (Frames.bind (frames_write fun _ => rfl) fun _ => frames_pure)
      exact fails.bind last _ now
    | some lnk =>
      have port1 : lnk = .port1 := by
        unfold Node.getRpl at rpl
        split at rpl
        · exact (Option.some.inj rpl).symm
        · cases rpl
      subst port1
      have starts : KeepsAjar v good nodeStartWtr :=
        frames_keepsAjar (nodeStartTimer_frames (fun _ _ => rfl) fun s f => doors_modWork s .wtr f)
      have forces : KeepsAjar v good (linkUnblockForce .port0) := opens ▸ linkUnblockForce_keepsAjar
      refine Keeps.bind ?_ last _ now
      refine Keeps.bind (linkBlock_keepsAjar shut) fun ret => forces.ifOk.bind fun ret => ?_
      refine schedules.bind fun ret => keeps_read fun revertive => ?_
      exact keeps_ite (fun _ => starts) fun _ => keeps_pure
  · have opens : v.opens = .port1 := if_neg (mt role.mpr plain)
    rw [opens] at shut
    have forces : KeepsAjar v good (linkUnblockForce .port1) := opens ▸ linkUnblockForce_keepsAjar
    refine Keeps.bind ?_ last _ now
    exact (linkBlock_keepsAjar shut).bind fun ret => forces.ifOk.bind fun ret => schedules

/-- The second pass on a node both ports of which are shut. -/
theorem nodeInit_ajar {timeout : Nat} {cameUp : Ports Bool} {s : Sys}
    (shut : s.doors.gates (s.doors.devs.get s.doors.opens.other) = false) :
    wp good (fun t => s.doors.Ajar t.doors) (nodeInit timeout cameUp)
      (fun _ t => s.doors.Ajar t.doors) s := by
  have prepares : Frames good Sys.doors (nodePrepare timeout) := offInit_doors.nodePrepare
  refine prepares.wp_bind s.doors.ajar_refl fun ret t same => ?_
  rw [← same] at shut ⊢
  refine wp_ite (fun _ => wp_pure t.doors.ajar_refl) fun _ => ?_
  refine wp_bind (wp_mono (fsmInit_ajar shut) fun ret u now => ?_)
  refine wp_ite (fun _ => wp_pure now) fun _ => ?_
  have rises : KeepsAjar t.doors good (ifacesUp cameUp) := frames_keepsAjar (frames_write fun _ => rfl)
  have adds : KeepsAjar t.doors good (write fun s => s.modNode fun n => { n with mgmtCb := true }) :=
    frames_keepsAjar (frames_write fun _ => rfl)
  exact rises.bind (fun _ => adds.bind fun _ => frames_keepsAjar offInit_doors.nodeStartTx) u now

end

/-! ### All rings -/

namespace Rings

variable {n : Nat} {good : KernelCall → Int → Prop} {s : Rings n}

/-- The ports of a ring are shut in `r`, where `s` has them. -/
def ShutIn (s r : Rings n) (i : Fin n) : Prop := ∀ lnk, r.gates (s.dev i lnk) = false

/-- Both ports of a ring are open in `r`, where `s` has them. -/
def OpenIn (s r : Rings n) (i : Fin n) : Prop :=
  r.gates (s.dev i .port0) = true ∧ r.gates (s.dev i .port1) = true

/-- No two ports of the image are one. -/
def Distinct (s : Rings n) : Prop := Function.Injective fun p : Fin n × PortIdx => s.dev p.1 p.2

theorem Distinct.same {t : Rings n} (distinct : s.Distinct) (dev : t.dev = s.dev) : t.Distinct := by
  unfold Distinct
  rw [dev]
  exact distinct

theorem blockRing_shuts (t : Rings n) (i : Fin n) :
    Adds good (blockRing i) (fun new ret u => Shutting u.gates (new.map gates) t.gates ∧
      u.nodes = t.nodes ∧ (ret = 0 → t.ShutIn u i)) t := by
  refine adds_bind (adds_read (adds_ite (fun _ => adds_pure ?_) fun _ => ?_))
  · exact ⟨shutting_none _, rfl, fun ok => absurd ok (by decide)⟩
  refine adds_zoom (adds_mono (nodeBlockAll_shuts (t.sys i)) ?_)
  rintro new ret u ⟨shutting, same, shut⟩
  refine ⟨?_, ?_, fun ok lnk => shut ok _ ?_⟩
  · rw [List.append_nil, List.map_map]
    exact shutting
  · show Function.update t.nodes i u.node = t.nodes
    rw [same]
    exact Function.update_eq_self i t.nodes
  · cases lnk <;> simp [Sys.devs, Rings.dev, Rings.sys, Ports.get]

/-- The first pass only shuts ports, and it shuts them all if it succeeds. -/
theorem firstPass_shuts (s : Rings n) :
    Adds good (untilError blockRing (List.finRange n)) (fun new ret u =>
      (Shutting u.gates (new.map gates) s.gates ∧ u.nodes = s.nodes) ∧
        (ret = 0 → ∀ i, s.ShutIn u i)) s := by
  refine adds_mono (adds_untilError (f := blockRing)
    (H := fun t new u => Shutting u.gates (new.map gates) t.gates ∧ u.nodes = t.nodes)
    (P := fun todo t => t.nodes = s.nodes ∧ ∀ i, i ∉ todo → s.ShutIn t i) ?stays ?trans ?round
    (List.finRange n) s ⟨rfl, fun i done => absurd (List.mem_finRange i) done⟩) ?done
  case stays => exact fun t => ⟨shutting_none _, rfl⟩
  case trans =>
    rintro t new u new' w ⟨first, same⟩ ⟨second, same'⟩
    rw [List.map_append]
    exact ⟨first.trans second, same'.trans same⟩
  case round =>
    rintro i rest t ⟨nodes, shut⟩
    refine adds_mono (blockRing_shuts t i) ?_
    rintro new ret u ⟨shutting, same, shutNow⟩
    refine ⟨⟨shutting, same⟩, fun ok => ⟨same.trans nodes, fun j done lnk => ?_⟩⟩
    have dev : s.dev j lnk = t.dev j lnk := by rw [Rings.dev, Rings.dev, nodes]
    by_cases here : j = i
    · subst here
      rw [dev]
      exact shutNow ok lnk
    · have before : t.gates (s.dev j lnk) = false := shut j (by simp [here, done]) lnk
      have less : u.gates ≤ t.gates := shutting.lowest _ (by simp)
      have below := less (s.dev j lnk)
      rw [before] at below
      exact Bool.eq_false_of_le_false below
  case done =>
    rintro new ret u ⟨shutting, done⟩
    exact ⟨shutting, fun ok i => (done ok).2 i (by simp)⟩

/-- What holds before the nodes `todo` are started: the links are where `s` has them, the
ports of these nodes are shut, and no ring is open. -/
structure Starting (s : Rings n) (todo : List (Fin n)) (t : Rings n) : Prop where
  dev : ∀ i lnk, t.dev i lnk = s.dev i lnk
  unique : todo.Nodup
  shut : ∀ i ∈ todo, s.ShutIn t i
  notOpen : ∀ i, ¬s.OpenIn t i

/-- Starting one node, whose ports are shut, opens at most one of them. -/
theorem nodeInit_starting (distinct : s.Distinct) {timeout : Nat} {cameUp : Ports Bool} {i : Fin n}
    {rest : List (Fin n)} {t : Rings n} (now : s.Starting (i :: rest) t) :
    Adds good (onRing i (nodeInit timeout cameUp)) (fun new _ u =>
      (∀ w ∈ new, ∀ j, ¬s.OpenIn w j) ∧ s.Starting rest u) t := by
  have dev (lnk : PortIdx) : (t.sys i).doors.devs.get lnk = s.dev i lnk := by
    rw [Sys.doors_dev, ← now.dev]
    rfl
  have shutHere (lnk : PortIdx) : (t.sys i).doors.gates (s.dev i lnk) = false :=
    now.shut i (by simp) lnk
  have inits : wp good (fun w => (t.sys i).doors.Ajar w.doors) (nodeInit timeout cameUp)
      (fun _ w => (t.sys i).doors.Ajar w.doors) (t.sys i) := by
    refine nodeInit_ajar ?_
    rw [dev]
    exact shutHere _
  refine adds_mono (adds_zoom_of_wp inits) ?_
  -- whatever the node does, the ports of the others and one of its own stay as they are
  have kept {u : Sys} (ajar : (t.sys i).doors.Ajar u.doors) {j : Fin n} {lnk : PortIdx}
      (other : (j, lnk) ≠ (i, (t.sys i).doors.opens)) :
      (t.put i u).gates (s.dev j lnk) = t.gates (s.dev j lnk) := by
    refine ajar.gates _ fun same => other ?_
    rw [dev] at same
    exact distinct same
  have notOpen {u : Sys} (ajar : (t.sys i).doors.Ajar u.doors) (j : Fin n) :
      ¬s.OpenIn (t.put i u) j := by
    rintro ⟨open0, open1⟩
    by_cases here : j = i
    · subst here
      cases opens : (t.sys j).doors.opens with
      | port0 =>
        rw [kept ajar (by simp [opens])] at open1
        exact absurd open1 (by rw [show t.gates _ = _ from shutHere .port1]; decide)
      | port1 =>
        rw [kept ajar (by simp [opens])] at open0
        exact absurd open0 (by rw [show t.gates _ = _ from shutHere .port0]; decide)
    · have other (lnk : PortIdx) : (j, lnk) ≠ (i, (t.sys i).doors.opens) :=
        fun same => here (congrArg Prod.fst same)
      rw [kept ajar (other _)] at open0 open1
      exact now.notOpen j ⟨open0, open1⟩
  rintro new ret u ⟨passed, v, ajar, rfl⟩
  refine ⟨?_, ?_, (List.nodup_cons.mp now.unique).2, ?_, notOpen ajar⟩
  · intro w member
    obtain ⟨x, ajar', rfl⟩ := passed w member
    exact notOpen ajar'
  · intro j lnk
    have devs : (t.put i v).dev = t.dev := by
      refine put_dev fun lnk => ?_
      have same := congrArg (Ports.get · lnk) ajar.devs
      simp only [Sys.doors_dev] at same
      exact same
    rw [devs]
    exact now.dev j lnk
  · intro j member lnk
    have other : j ≠ i := fun same => (List.nodup_cons.mp now.unique).1 (same ▸ member)
    rw [kept ajar fun same => other (congrArg Prod.fst same)]
    exact now.shut j (by simp [member]) lnk

/-- What start-up from `s` does to the ports, by its result and its history, which has the
latest state first and `s` last. -/
structure StartsSafely (s : Rings n) (ret : Int) (states : List (Rings n)) : Prop where
  -- a port is opened only once all ports have been shut
  late : Throughout (fun t earlier => ∀ i lnk, t.gates (s.dev i lnk) = true →
    (∃ u ∈ earlier, u.gates (s.dev i lnk) = false) → ∃ u ∈ earlier, ∀ j, s.ShutIn u j) states
  -- only a first pass that fails has an error to return, and then no port is opened
  nothing : ret ≠ 0 → Throughout (fun t earlier => ∀ i lnk, t.gates (s.dev i lnk) = true →
    ∀ u ∈ earlier, u.gates (s.dev i lnk) = true) states
  passed : ret = 0 → ∃ u ∈ states, ∀ j, s.ShutIn u j
  -- after it no ring is open
  never : Throughout (fun t earlier => (∃ u ∈ t :: earlier, ∀ j, s.ShutIn u j) →
    ∀ i, ¬s.OpenIn t i) states

/-- A history in which ports are only shut. -/
def Falls (states : List (Rings n)) : Prop :=
  Throughout (fun t earlier => ∀ u ∈ earlier, t.gates ≤ u.gates) states

theorem open_of_le {t u : Rings n} {d : Device} (less : t.gates ≤ u.gates)
    (isOpen : t.gates d = true) : u.gates d = true := by
  have below := less d
  rw [isOpen] at below
  exact Bool.eq_true_of_true_le below

/-- While ports are only shut, no port is opened, and a ring that has been shut is not open. -/
theorem Falls.stays {states : List (Rings n)} (falls : Falls states) :
    Throughout (fun t earlier => ∀ i lnk, t.gates (s.dev i lnk) = true →
      ∀ u ∈ earlier, u.gates (s.dev i lnk) = true) states :=
  falls.mono fun _ _ less _ _ isOpen u member => open_of_le (less u member) isOpen

theorem Falls.late {states : List (Rings n)} (falls : Falls states) :
    Throughout (fun t earlier => ∀ i lnk, t.gates (s.dev i lnk) = true →
      (∃ u ∈ earlier, u.gates (s.dev i lnk) = false) → ∃ u ∈ earlier, ∀ j, s.ShutIn u j) states := by
  refine falls.mono fun t earlier less i lnk isOpen closed => ?_
  obtain ⟨u, member, shut⟩ := closed
  rw [open_of_le (less u member) isOpen] at shut
  cases shut

theorem Falls.never {states : List (Rings n)} (falls : Falls states) :
    Throughout (fun t earlier => (∃ u ∈ t :: earlier, ∀ j, s.ShutIn u j) →
      ∀ i, ¬s.OpenIn t i) states := by
  refine falls.mono fun t earlier less shutOnce i now => ?_
  obtain ⟨u, member, shut⟩ := shutOnce
  have stillOpen : u.gates (s.dev i .port0) = true := by
    rcases List.mem_cons.mp member with rfl | before
    · exact now.1
    · exact open_of_le (less u before) now.1
  rw [shut i .port0] at stillOpen
  cases stillOpen

theorem falls_of_shutting {now : Gates} {new : List (Rings n)}
    (h : Shutting now (new.map gates) s.gates) : Falls (new ++ [s]) := by
  refine throughout_of_pairwise (List.pairwise_map.mp ?_)
  rw [List.map_append]
  exact h.descends

/-- A first pass that fails. -/
theorem Falls.safe {ret : Int} {states : List (Rings n)} (falls : Falls states) (failed : ret ≠ 0) :
    s.StartsSafely ret states := by
  constructor
  · exact falls.late
  · exact fun _ => falls.stays
  · exact fun ok => absurd ok failed
  · exact falls.never

/-- A second pass, in which no ring is open, after a first one that has shut all ports. -/
theorem Falls.safe_append {states new : List (Rings n)} (falls : Falls states)
    (shut : ∃ u ∈ states, ∀ j, s.ShutIn u j) (notOpen : ∀ t ∈ new, ∀ i, ¬s.OpenIn t i) :
    s.StartsSafely 0 (new ++ states) := by
  obtain ⟨u, member, all⟩ := shut
  constructor
  · exact falls.late.append fun t earlier _ i lnk _ _ => ⟨u, List.mem_append_right _ member, all⟩
  · exact fun failed => absurd rfl failed
  · exact fun _ => ⟨u, List.mem_append_right _ member, all⟩
  · exact falls.never.append fun t earlier passed _ => notOpen t passed

theorem erpsInit_safe (distinct : s.Distinct) {timeout : Nat} {cameUp : Fin n → Ports Bool} :
    Adds good (erpsInit timeout cameUp) (fun new ret _ => s.StartsSafely ret (new ++ [s])) s := by
  refine adds_bind (adds_mono (firstPass_shuts s) ?_)
  rintro new ret u ⟨⟨shutting, nodes⟩, shut⟩
  have falls : Falls (new ++ [s]) := falls_of_shutting shutting
  refine adds_ifOk (fun ok => ?_) fun failed => falls.safe failed
  -- the ports are as they were in the last state of the first pass
  have dev (i : Fin n) (lnk : PortIdx) : u.dev i lnk = s.dev i lnk := by rw [dev, dev, nodes]
  have once : ∃ v ∈ new ++ [s], ∀ j, s.ShutIn v j := by
    have latest := shutting.latest
    rw [← List.map_singleton, ← List.map_append] at latest
    obtain ⟨v, member, same⟩ := List.mem_map.mp latest
    refine ⟨v, member, fun j lnk => ?_⟩
    rw [same]
    exact shut ok j lnk
  have start : s.Starting (List.finRange n) u :=
    ⟨dev, List.nodup_finRange n, fun i _ => shut ok i, fun i now => by
      rw [OpenIn, shut ok i .port0] at now
      exact absurd now.1 (by decide)⟩
  refine adds_bind (adds_mono (adds_forEach (P := s.Starting)
    (A := fun w => ∀ j, ¬s.OpenIn w j) ?round (List.finRange n) u start) ?_)
  case round =>
    intro i rest t now
    refine adds_bind (adds_mono (nodeInit_starting distinct now) ?_)
    exact fun new _ v h => adds_pure h
  rintro new' _ v ⟨passed, -⟩
  refine adds_pure ?_
  rw [List.nil_append, List.append_assoc]
  exact falls.safe_append once passed

/-- Start-up of any number of rings with distinct ports, whatever the calls in it answer. -/
theorem startup_opens_no_ring (distinct : s.Distinct) (timeout : Nat) (cameUp : Fin n → Ports Bool)
    (ans : Answers KernelCall) :
    s.StartsSafely ((erpsInit timeout cameUp).result ans s) ((erpsInit timeout cameUp).trace ans s ++ [s]) :=
  (erpsInit_safe distinct).run ans (respects_any ans)

/-- A ring with its owner and another one, on one switch the ports of which all forward. -/
def sample : Rings 2 where
  nodes i := (sampleNode (i.val = 0) false (sampleDevice (2 * i) 1) (sampleDevice (2 * i + 1) 2)).node
  logs _ := []
  hw _ := ⟨true, fun _ => true, true⟩
  fdbFlushes := 0
  uptime := 0
  faulted := false

theorem sample_distinct : sample.Distinct := by
  rintro ⟨i, lnk⟩ ⟨j, lnk'⟩ same
  revert same i j
  cases lnk <;> cases lnk' <;> decide

theorem startup_opens_no_ring_sample : sample.StartsSafely
    ((erpsInit 10000 fun _ => ⟨true, true⟩).result allSucceed sample)
    ((erpsInit 10000 fun _ => ⟨true, true⟩).trace allSucceed sample ++ [sample]) :=
  startup_opens_no_ring sample_distinct 10000 (fun _ => ⟨true, true⟩) allSucceed

end Rings

end Erps
