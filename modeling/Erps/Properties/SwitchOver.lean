import Erps.Ctl.Switching
import Erps.Properties.IdleRing

/-!
# Switching a ring over

From rest, a ring in which nodes are asked for forced switches, or have signal fails, never has
a loop on its way: whoever opens the RPL, or gives up the port it holds, does so on the word of
a node that has already blocked a port and goes on holding it. When all nodes have switched, the
ports that are blocked are those that were asked for.
-/
namespace Erps

open Nets Runs

/-! ## Protocol -/

namespace ProtocolStep

variable {n : Nat}

/-- The step asks the node for the switch. -/
def Asks (k : SwitchBy) (i : Fin n) : ProtocolStep n → Prop
  | .act j _ e => j = i ∧ ∃ lnk, e.posts = some (lnk, k.request)
  | _ => False

end ProtocolStep

/-- The nodes are asked for nothing but the switch, each on one port. -/
def AskedOn {n : Nat} (k : SwitchBy) (asked : Fin n → Option PortIdx) (i : Fin n) (c : Ctl) (e : Event) :
    Prop := c.Admits k (asked i) e

namespace Protocol

variable {n : Nat} {p : Protocol n} {x : ProtocolStep n} {k : SwitchBy}
  {asked : Fin n → Option PortIdx} {now later : Fin n → Prop}

/-- A ring on its way, in which the nodes of `now` have been asked for the switch. R-APS(NR,RB)
that was sent at rest may still be in flight. -/
structure Switching (k : SwitchBy) (asked : Fin n → Option PortIdx) (now : Fin n → Prop)
    (p : Protocol n) : Prop where
  nodes : ∀ i, (p.stations i).ctl.OnWay k (asked i) (now i)
  roused : ∀ i, (p.stations i).ctl.AtRest ∨ ∃ j, now j
  messages : ∀ m ∈ p.inFlight,
    (m.req = .nrRb ∧ ∃ i, (p.stations i).nodeId = m.nodeId ∧ (p.stations i).ctl.role = .owner) ∨
      (m.req = k.raps ∧ ∃ i, now i)
  oneOwner : ∀ i j, (p.stations i).ctl.role = .owner → (p.stations j).ctl.role = .owner → i = j
  hasRpl : ∃ i, (p.stations i).ctl.role ≠ .plain

/-- One node changes. -/
theorem Switching.update {i : Fin n} {b : Station} (h : p.Switching k asked now)
    (alike : (p.stations i).Alike b) (onWay : b.ctl.OnWay k (asked i) (later i))
    (rest : b.ctl.AtRest ∨ ∃ j, later j) (grows : ∀ j, now j → later j)
    (others : ∀ j, j ≠ i → later j → now j) : (p.update i b).Switching k asked later := by
  have each (j : Fin n) : (p.stations j).Alike ((p.update i b).stations j) := by
    by_cases here : j = i
    · subst here
      rw [update_self]
      exact alike
    · rw [update_other p b here]
      exact ⟨rfl, rfl, rfl⟩
  refine ⟨fun j => ?_, fun j => ?_, fun m member => ?_, fun j l => ?_, ?_⟩
  · by_cases here : j = i
    · subst here
      rw [update_self]
      exact onWay
    · rw [update_other p b here]
      have same : later j = now j := propext ⟨others j here, grows j⟩
      rw [same]
      exact h.nodes j
  · by_cases here : j = i
    · subst here
      rw [update_self]
      exact rest
    · rw [update_other p b here]
      exact (h.roused j).imp_right fun ⟨l, so⟩ => ⟨l, grows l so⟩
  · rcases h.messages m member with ⟨nrRb, j, nodeId, owner⟩ | ⟨req, j, so⟩
    · exact .inl ⟨nrRb, j, (each j).nodeId.trans nodeId, (each j).role.trans owner⟩
    · exact .inr ⟨req, j, grows j so⟩
  · rw [(each j).role, (each l).role]
    exact h.oneOwner j l
  · obtain ⟨j, role⟩ := h.hasRpl
    exact ⟨j, (each j).role ▸ role⟩

theorem update_same (p : Protocol n) (i : Fin n) : p.update i (p.stations i) = p := by
  simp only [update, Function.update_eq_self]

theorem Switching.act {i : Fin n} {up : Ports Bool} {e : Event} (h : p.Switching k asked now)
    (admits : (p.stations i).ctl.Admits k (asked i) e) :
    (p.step (.act i up e)).Switching k asked fun j => now j ∨ ProtocolStep.Asks k j (.act i up e) := by
  rcases (h.nodes i).event (o := ⟨false, up⟩) admits with ⟨silent, step⟩ | ⟨lnk, here, posts, switched⟩
  · have still : (p.stations i).act up e = p.stations i := by
      unfold Station.act
      rw [step, silent]
    have same : (fun j => now j ∨ ProtocolStep.Asks k j (.act i up e)) = now := by
      funext j
      refine propext (or_iff_left ?_)
      rintro ⟨-, lnk, posts⟩
      exact nomatch silent.symm.trans posts
    rw [same, Protocol.step, still, update_same]
    exact h
  · have so : now i ∨ ProtocolStep.Asks k i (.act i up e) := .inr ⟨rfl, lnk, posts⟩
    refine h.update (Station.act_alike _ up e) (.behind lnk so here switched) (.inr ⟨i, so⟩)
      (fun j => .inl) fun j other => ?_
    rintro (before | ⟨here', -⟩)
    · exact before
    · exact absurd here'.symm other

theorem Switching.announce {i : Fin n} (h : p.Switching k asked now)
    (active : (p.stations i).ctl.txActive = true) :
    (p.step (.announce i)).Switching k asked now := by
  simp only [Protocol.step]
  split
  · next req announced =>
    refine ⟨h.nodes, h.roused, fun m member => ?_, h.oneOwner, h.hasRpl⟩
    rcases List.mem_cons.mp member with rfl | before
    · cases h.nodes i with
      | before notYet phase =>
        rcases phase with rest | waits
        · obtain ⟨owner, sends⟩ := rest.sends active
          exact .inl ⟨Option.some.inj (announced.symm.trans sends), i, rfl, owner⟩
        · exact absurd (waits.silent.symm.trans active) (by decide)
      | behind lnk so here switched =>
        exact .inr ⟨Option.some.inj (announced.symm.trans switched.sends), i, so⟩
    · exact h.messages m before
  · exact h

/-- A node that hears R-APS(NR,RB) is not the RPL owner. -/
theorem Switching.hears_nrRb {i : Fin n} (h : p.Switching k asked now)
    (notOwner : (p.stations i).ctl.role ≠ .owner) (o : Ctl.Seen) (lnk : PortIdx) :
    ((p.stations i).ctl.post o lnk .rapsNrRb).OnWay k (asked i) (now i) ∧
      (((p.stations i).ctl.post o lnk .rapsNrRb).AtRest ∨ ∃ j, now j) := by
  refine ⟨?_, (h.roused i).imp_left fun rest => rest.nrRb notOwner⟩
  cases h.nodes i with
  | before notYet phase =>
    rcases phase with rest | waits
    · exact .before notYet (.inl (rest.nrRb notOwner))
    · exact .before notYet (waits.nrRb notOwner)
  | behind l so here switched =>
    rw [switched.holds (.inr rfl)]
    exact .behind l so here switched

theorem Switching.hears_switch {i : Fin n} {o : Ctl.Seen} {lnk : PortIdx} (h : p.Switching k asked now) :
    ((p.stations i).ctl.post o lnk k.raps.request).OnWay k (asked i) (now i) := by
  cases h.nodes i with
  | before notYet phase => exact .before notYet (.inr (Ctl.hears_waits phase).1)
  | behind l so here switched =>
    rw [switched.holds (.inl rfl)]
    exact .behind l so here switched

theorem Switching.hear {i : Fin n} {up : Ports Bool} {lnk : PortIdx} {l : Nat}
    (h : p.Switching k asked now) : (p.step (.hear i up lnk l)).Switching k asked now := by
  simp only [Protocol.step]
  split
  · next m found =>
    have alike := Station.hear_alike (p.stations i) up lnk m
    revert alike
    unfold Station.hear
    split
    · intro _
      rw [update_same]
      exact h
    · next listens =>
      intro alike
      have kept : ∀ j, now j → now j := fun _ => id
      rcases h.messages m (List.mem_of_getElem? found) with ⟨nrRb, j, nodeId, owner⟩ | ⟨req, others⟩
      · have notOwner : (p.stations i).ctl.role ≠ .owner := by
          intro owner'
          obtain rfl := h.oneOwner i j owner' owner
          exact listens (.inl nodeId.symm)
        rw [nrRb] at alike ⊢
        obtain ⟨onWay, rest⟩ := h.hears_nrRb notOwner
          ⟨(p.stations i).nodeId.toList < m.nodeId.toList, up⟩ lnk
        exact h.update alike onWay rest kept fun j _ => id
      · rw [req] at alike ⊢
        exact h.update alike h.hears_switch (.inr others) kept fun j _ => id
  · exact h

/-- Every step keeps the ring on its way. -/
theorem Switching.step (h : p.Switching k asked now) (permits : p.Permits x)
    (meets : p.Meets (AskedOn k asked) x) : (p.step x).Switching k asked fun i => now i ∨ x.Asks k i := by
  have others (none : ∀ i, ¬x.Asks k i) : (fun i => now i ∨ x.Asks k i) = now :=
    funext fun i => propext (or_iff_left (none i))
  cases x with
  | act i up e => exact h.act meets
  | announce i =>
    rw [others fun _ => id]
    exact h.announce permits
  | hear i up lnk l =>
    rw [others fun _ => id]
    exact h.hear
  | lose l =>
    rw [others fun _ => id]
    exact ⟨h.nodes, h.roused, fun m member => h.messages m (List.mem_of_mem_eraseIdx member), h.oneOwner,
      h.hasRpl⟩
  | wait ms =>
    rw [others fun _ => id]
    refine ⟨h.nodes, h.roused, fun m member => ?_, h.oneOwner, h.hasRpl⟩
    obtain ⟨m', before, rfl⟩ := List.mem_map.mp member
    exact h.messages m' before
  | pass =>
    rw [others fun _ => id]
    exact h

/-- At rest the port of the RPL is blocked, and later that of the node that was asked first. -/
theorem Switching.blocked (h : p.Switching k asked now) :
    ∃ i lnk, (p.stations i).ctl.blocked.get lnk = true := by
  by_cases roused : ∃ j, now j
  · obtain ⟨j, so⟩ := roused
    cases h.nodes j with
    | before notYet phase => exact absurd so notYet
    | behind lnk so here switched => exact ⟨j, lnk, switched.blocked⟩
  · obtain ⟨i, role⟩ := h.hasRpl
    have rest := (h.roused i).resolve_right roused
    refine ⟨i, .port1, ?_⟩
    rw [rest.blocked]
    exact decide_eq_true role

/-- A node that has switched blocks the port it was asked for, if it was. -/
theorem Switching.settled {i : Fin n} (h : p.Switching k asked now)
    (settled : (p.stations i).ctl.state = k.state) (lnk : PortIdx) :
    (p.stations i).ctl.blocked.get lnk = true ↔ now i ∧ asked i = some lnk := by
  cases h.nodes i with
  | before notYet phase =>
    rcases phase with rest | waits
    · rw [rest.state] at settled
      cases k <;> cases settled
    · rw [waits.blocked]
      exact iff_of_false (by cases lnk <;> decide) fun both => notYet both.1
  | behind l so here switched =>
    have blocked := switched.blocked
    have opened := switched.opened
    rw [here]
    constructor
    · intro on
      refine ⟨so, congrArg some ?_⟩
      cases l <;> cases lnk <;> first | rfl | exact absurd (opened.symm.trans on) (by decide)
    · rintro ⟨-, same⟩
      cases same
      exact blocked

end Protocol

/-! ## Wire -/

namespace Wire

variable {n : Nat} {w v : Wire n} {x : WireStep n} {k : SwitchBy} {asked : Fin n → Option PortIdx}

/-- The node has been asked to switch on the link. -/
def Asked (k : SwitchBy) (pre : List (WireStep n)) (i : Fin n) (lnk : PortIdx) : Prop :=
  ∃ x, .event i x ∈ pre ∧ x.1.posts = some (lnk, k.request)

/-- All nodes are at rest, and all frames in flight are R-APS(NR,RB) of the RPL owner. -/
structure AtRest (w : Wire n) : Prop extends w.Sound where
  nodes : ∀ i, (w.nodes i).ctl.AtRest
  frames : ∀ f ∈ w.inFlight, ∃ m, f.Carries m ∧ m.req = .nrRb ∧
    ∃ i, (w.nodes i).nodeId = m.nodeId ∧ (w.nodes i).ctl.role = .owner
  oneOwner : ∀ i j, (w.nodes i).ctl.role = .owner → (w.nodes j).ctl.role = .owner → i = j
  hasRpl : ∃ i, (w.nodes i).ctl.role ≠ .plain

/-- The protocol of a ring at rest. -/
theorem AtRest.shows (h : w.AtRest) :
    ∃ p, w.Shows p ∧ p.Switching k asked fun i => ∃ lnk, Asked k [] i lnk := by
  obtain ⟨ms, matched, sent⟩ := exists_carried h.frames
  refine ⟨⟨fun i => (w.nodes i).station, ms⟩, ⟨h.formed, h.names, fun _ => rfl, matched⟩, ?_⟩
  refine ⟨fun i => .before ?_ (.inl (h.nodes i)), fun i => .inl (h.nodes i),
    fun m member => .inl (sent m member), h.oneOwner, h.hasRpl⟩
  rintro ⟨lnk, x, member, -⟩
  cases member

/-- The switch is asked for on one port only. -/
theorem asked_of_meets {i : Fin n} {x : Step} {lnk : PortIdx} (h : w.Meets (AskedOn k asked) (.event i x))
    (posts : x.1.posts = some (lnk, k.request)) : asked i = some lnk := by
  have untimed : x.1.timer? = none := by
    obtain ⟨e, ans⟩ := x
    cases e with
    | expiry t | handle t => cases t <;> cases k <;> first | rfl | cases posts
    | fire t => cases posts
    | _ => rfl
  exact (h.asks lnk _ untimed posts).2

theorem asked_concat {pre : List (WireStep n)} {i : Fin n} {lnk : PortIdx} :
    Asked k (pre ++ [x]) i lnk ↔
      Asked k pre i lnk ∨ ∃ y, x = .event i y ∧ y.1.posts = some (lnk, k.request) := by
  constructor
  · rintro ⟨y, member, posts⟩
    rcases List.mem_append.mp member with before | last
    · exact .inl ⟨y, before, posts⟩
    · exact .inr ⟨y, (List.mem_singleton.mp last).symm, posts⟩
  · rintro (⟨y, before, posts⟩ | ⟨y, rfl, posts⟩)
    · exact ⟨y, List.mem_append_left _ before, posts⟩
    · exact ⟨y, List.mem_append_right _ List.mem_cons_self, posts⟩

/-- A ring on its way, seen on the wire. -/
structure OnWay (k : SwitchBy) (asked : Fin n → Option PortIdx) (pre : List (WireStep n)) (w : Wire n) :
    Prop where
  agrees : ∀ i, (w.nodes i).Agrees
  asks : ∀ i lnk, Asked k pre i lnk → asked i = some lnk
  shows : ∃ p, w.Shows p ∧ p.Switching k asked fun i => ∃ lnk, Asked k pre i lnk

theorem OnWay.sound {pre : List (WireStep n)} (h : w.OnWay k asked pre) : w.Sound := by
  obtain ⟨p, shown, -⟩ := h.shows
  exact ⟨shown.formed, shown.names, h.agrees⟩

theorem OnWay.step {pre : List (WireStep n)} (h : w.OnWay k asked pre) (permits : Permits x)
    (meets : w.Meets (AskedOn k asked) x) : (w.step x).OnWay k asked (pre ++ [x]) := by
  refine ⟨step_agrees h.agrees permits, fun i lnk now => ?_, ?_⟩
  · rcases asked_concat.mp now with before | ⟨y, rfl, posts⟩
    · exact h.asks i lnk before
    · exact asked_of_meets meets posts
  · obtain ⟨p, shown, switching⟩ := h.shows
    obtain ⟨y, matched, permits', after⟩ := shown.step permits
    have asks (i : Fin n) : y.Asks k i ↔ ∃ z lnk, x = .event i z ∧ z.1.posts = some (lnk, k.request) := by
      cases matched with
      | act j up x =>
        constructor
        · rintro ⟨rfl, lnk, posts⟩
          exact ⟨x, lnk, rfl, posts⟩
        · rintro ⟨z, lnk, same, posts⟩
          cases same
          exact ⟨rfl, lnk, posts⟩
      | _ => exact iff_of_false id fun ⟨_, _, same, _⟩ => by cases same
    have later : (fun i => (∃ lnk, Asked k pre i lnk) ∨ y.Asks k i) =
        fun i => ∃ lnk, Asked k (pre ++ [x]) i lnk := by
      funext i
      refine propext ?_
      rw [asks i]
      constructor
      · rintro (⟨lnk, before⟩ | ⟨z, lnk, now⟩)
        · exact ⟨lnk, asked_concat.mpr (.inl before)⟩
        · exact ⟨lnk, asked_concat.mpr (.inr ⟨z, now⟩)⟩
      · rintro ⟨lnk, now⟩
        rcases asked_concat.mp now with before | ⟨z, now'⟩
        · exact .inl ⟨lnk, before⟩
        · exact .inr ⟨z, lnk, now'⟩
    exact ⟨p.step y, after, later ▸ switching.step permits' (shown.meets matched meets)⟩

theorem AtRest.onWay {xs : List (WireStep n)} (rest : w.AtRest) (permits : ∀ x ∈ xs, Permits x)
    (asks : EachStep Wire.step w xs fun _ v x => v.Meets (AskedOn k asked) x) :
    EachState Wire.step w xs fun pre v => v.OnWay k asked pre := by
  have steps : EachStep Wire.step w xs fun _ v x => Permits x ∧ v.Meets (AskedOn k asked) x :=
    (eachStep_of_forall permits).and asks
  have start : w.OnWay k asked [] :=
    ⟨rest.agrees, fun i lnk ⟨x, member, _⟩ => (by cases member), rest.shows⟩
  exact eachState_of_eachStep start steps fun pre v x _ ⟨permits, meets⟩ before => before.step permits meets

theorem OnWay.loopFree {pre : List (WireStep n)} (h : w.OnWay k asked pre) : w.LoopFree := by
  obtain ⟨p, shown, switching⟩ := h.shows
  obtain ⟨i, lnk, blocked⟩ := switching.blocked
  refine loopFree_of_disabled ((h.sound.disabled_iff i lnk).mpr ?_)
  rw [shown.stations i] at blocked
  exact blocked

/-- The disabled ports are those that were asked for. If these are ends of one link the ring is
a tree. -/
structure SwitchedOver (k : SwitchBy) (pre : List (WireStep n)) (v : Wire n) : Prop where
  ports : ∀ i lnk, ((v.nodes i).port lnk).enabled = false ↔ Asked k pre i lnk
  tree : ∀ ahead e, (∀ i lnk, Asked k pre i lnk → OnLink ahead e i lnk) →
    v.Tree ahead ∧ ∀ j, v.Cut ahead j ↔ j = e

theorem OnWay.switchedOver {pre : List (WireStep n)} (h : v.OnWay k asked pre)
    (settled : ∀ i, (v.nodes i).node.state = k.state) : v.SwitchedOver k pre := by
  obtain ⟨p, shown, switching⟩ := h.shows
  have state (i : Fin n) : (p.stations i).ctl.state = k.state := by
    rw [shown.stations i]
    exact settled i
  have ports (i : Fin n) (lnk : PortIdx) :
      ((v.nodes i).port lnk).enabled = false ↔ Asked k pre i lnk := by
    have blocked := switching.settled (state i) lnk
    rw [shown.stations i] at blocked
    refine (h.sound.disabled_iff i lnk).trans (blocked.trans ?_)
    constructor
    · rintro ⟨⟨l, now⟩, here⟩
      obtain rfl := Option.some.inj ((h.asks i l now).symm.trans here)
      exact now
    · exact fun now => ⟨⟨lnk, now⟩, h.asks i lnk now⟩
  refine ⟨ports, fun ahead e one => ?_⟩
  have anyAsked : ∃ i lnk, Asked k pre i lnk := by
    obtain ⟨i, -⟩ := switching.hasRpl
    refine (switching.roused i).resolve_left fun rest => ?_
    have idle := rest.state.symm.trans (state i)
    cases k <;> cases idle
  obtain ⟨i, lnk, now⟩ := anyAsked
  exact tree_of_cut ((ports i lnk).mpr now) fun j l off => one j l ((ports j l).mp off)

/-- From rest, forced switches, or signal fails, never lead to a loop, whatever is lost, repeated
or late, and once all nodes have switched the disabled ports are those that were asked for. -/
theorem switch_over {xs : List (WireStep n)} (rest : w.AtRest) (permits : ∀ x ∈ xs, Permits x)
    (asks : EachStep Wire.step w xs fun _ v x => v.Meets (AskedOn k asked) x) :
    EachState Wire.step w xs fun pre v => v.LoopFree ∧
      ((∀ i, (v.nodes i).node.state = k.state) → v.SwitchedOver k pre) :=
  (rest.onWay permits asks).mono fun _ _ onWay => ⟨onWay.loopFree, onWay.switchedOver⟩

/-- The ring of two once its RPL is blocked, with the R-APS(NR,RB) that has told of it. -/
def rested : Wire 2 := run Wire.step (sample false) restSteps

theorem rested_nodes (i : Fin 2) : (rested.nodes i).ctl.AtRest := by
  have announced : (rested.nodes ⟨0, Nat.two_pos⟩).ctl.announced = some .nrRb := by decide +kernel
  match i with
  | ⟨0, _⟩ => exact ⟨⟨⟨rfl, rfl⟩, rfl, rfl⟩, rfl, rfl, fun _ => ⟨rfl, announced⟩⟩
  | ⟨1, _⟩ => exact ⟨⟨⟨rfl, rfl⟩, rfl, rfl⟩, rfl, rfl, fun active => Bool.noConfusion active⟩

/-- The RPL owner when it sends. -/
def restedOwner : Sys := (run Wire.step (sample false) (restSteps.take 1)).nodes ⟨0, Nat.two_pos⟩

theorem rested_octets : rested.inFlight.map (·.octets) =
    [vlanHdrLayout.bytes (sampleHdr netEthPtypeOam) ++ restedOwner.sends false zeroPdu] := by
  decide +kernel

theorem rested_frames (f : Flight) (member : f ∈ rested.inFlight) :
    f.Carries ⟨restedOwner.nodeId, .nrRb, 0⟩ := by
  have octets : f.octets ∈ rested.inFlight.map (·.octets) := List.mem_map_of_mem member
  have age : f.age ∈ rested.inFlight.map (·.age) := List.mem_map_of_mem member
  have ages : rested.inFlight.map (·.age) = [0] := rfl
  rw [rested_octets] at octets
  rw [ages] at age
  have same : f = ⟨vlanHdrLayout.bytes (sampleHdr netEthPtypeOam) ++ restedOwner.sends false zeroPdu, 0⟩ := by
    rw [← List.mem_singleton.mp octets, ← List.mem_singleton.mp age]
  have announced : restedOwner.ctl.announced = some .nrRb := by decide +kernel
  rw [same]
  exact carries_sends announced

theorem rested_atRest : rested.AtRest := by
  have sound : EachState Wire.step (sample false) restSteps fun _ v => v.Sound :=
    sound_of_initialised (Ring.sample_started false).initialised (by decide) rfl restSteps_permits
  have sender : (rested.nodes ⟨0, Nat.two_pos⟩).nodeId = restedOwner.nodeId := by decide +kernel
  refine ⟨sound.last, rested_nodes, fun f member => ?_, by decide +kernel, by decide +kernel⟩
  exact ⟨_, rested_frames f member, rfl, ⟨0, Nat.two_pos⟩, sender, rfl⟩

/-- A forced switch on the other node, whose frame the RPL owner receives. -/
def switchSteps : List (WireStep 2) := [
  .event ⟨1, Nat.one_lt_two⟩ (.ctl .port0 .admForcedSwitch, allSucceed),
  .transmit ⟨1, Nat.one_lt_two⟩ .port1 false zeroPdu (sampleHdr netEthPtypeOam) allSucceed,
  .receive ⟨0, Nat.two_pos⟩ (sampleDevice 0 1) 0 allSucceed]

theorem switchSteps_permits : ∀ x ∈ switchSteps, Permits x := by
  intro x member
  simp only [switchSteps, List.mem_cons, List.not_mem_nil, or_false] at member
  rcases member with rfl | rfl | rfl
  · exact ⟨allSucceed_respects, rfl⟩
  · exact allSucceed_respects
  · exact allSucceed_respects

theorem switchSteps_meets :
    ∀ x ∈ switchSteps, ∀ v : Wire 2, v.Meets (AskedOn .fs fun _ => some .port0) x := by
  intro x member v
  simp only [switchSteps, List.mem_cons, List.not_mem_nil, or_false] at member
  rcases member with rfl | rfl | rfl
  · refine ⟨fun t ends => ?_, fun lnk req _ posts => ?_⟩
    · cases ends
    · cases posts
      exact ⟨rfl, rfl⟩
  · trivial
  · trivial

theorem switch_over_sample :
    EachState Wire.step rested switchSteps fun pre v => v.LoopFree ∧
      ((∀ i, (v.nodes i).node.state = .forcedSwitch) → v.SwitchedOver .fs pre) :=
  switch_over rested_atRest switchSteps_permits
    ((eachStep_of_forall switchSteps_meets).mono fun _ v _ meets => meets v)

end Wire

end Erps
