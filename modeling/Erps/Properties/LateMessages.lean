import Erps.Nets.Handover
import Erps.Protocol

/-!
# Loop freedom with late messages

The guard timer is there for messages that are late: a node that has just given up a switch
does not listen to what was sent while the switch was in force. It is long enough if it
outlasts a chain of late messages, each sent by a node that was about to open its ports on
account of the next. Then at least one port of the ring is blocked, whatever messages are
lost, repeated and overtaken.
-/
namespace Erps

open Nets Runs

/-! ## Stations -/

namespace Station

variable {a : Station} {o : Ctl.Seen} {lnk : PortIdx} {req : Request}

/-- A node with a block keeps it, with no less to defend it with and as long a guard, or with
a guard that outlasts every chain of messages. -/
structure Holds (n life smaller : Nat) (a b : Station) : Prop where
  blocks : b.ctl.anyBlocked = true
  steady : (a.ctl.defends.rank n smaller ≤ b.ctl.defends.rank n smaller ∧ a.guard ≤ b.guard) ∨
    (n + 4) * life < b.guard

/-- A post leaves a node that has a block its hold on it, or outranks it. -/
theorem post_holds {n life smaller sender : Nat} (passes : a.ctl.Passes req)
    (orderly : a.ctl.Orderly req) (blocks : a.ctl.anyBlocked = true) (below : smaller < n)
    (greater : o.outranked = true → smaller < sender)
    (long : (n + 4) * life < a.guardTimerDuration) :
    Holds n life smaller a (a.post o lnk req) ∨
      ∃ r : RapsRequest, r.request = req ∧ a.ctl.defends.rank n smaller < r.rank n sender := by
  have guard : (a.post o lnk req).guard = if a.ctl.startsGuard req then a.guardTimerDuration
    else a.guard := rfl
  rcases Ctl.post_holds (o := o) passes orderly blocks below greater with
    ⟨blocks', ranked⟩ | ⟨blocks', starts⟩ | yields
  · refine .inl ⟨blocks', ?_⟩
    by_cases starts : a.ctl.startsGuard req
    · rw [if_pos starts] at guard
      exact .inr (guard ▸ long)
    · rw [if_neg starts] at guard
      exact .inl ⟨ranked, guard.ge⟩
  · rw [if_pos starts] at guard
    exact .inl ⟨blocks', .inr (guard ▸ long)⟩
  · exact .inr yields

theorem post_of_not_passes (fails : ¬a.ctl.Passes req) : a.post o lnk req = a := by
  have guard : a.guardAfter req = a.guard := if_neg fun starts => fails starts.1
  rw [post, Ctl.post_of_not_passes fails, guard]

def modTimer (a : Station) (f : Armed → Armed) (t : Timer) : Station :=
  { a with ctl := a.ctl.modTimer f t }

/-- An event moves a timer at most, or posts one request. -/
theorem act_cases (a : Station) (up : Ports Bool) (e : Event) :
    (∃ f t, a.act up e = a.modTimer f t) ∨
      ∃ lnk req f g t, e.posts = some (lnk, req) ∧
        a.act up e = ((a.modTimer f t).post ⟨false, up⟩ lnk req).modTimer g t := by
  cases posts : e.posts with
  | none =>
    obtain ⟨f, t, same⟩ := Ctl.step_silent (c := a.ctl) (o := ⟨false, up⟩) posts
    refine .inl ⟨f, t, ?_⟩
    rw [act, same, posts]
    rfl
  | some posted =>
    obtain ⟨lnk, req⟩ := posted
    obtain ⟨f, g, t, same⟩ := Ctl.step_posts (c := a.ctl) (o := ⟨false, up⟩) posts
    refine .inr ⟨lnk, req, f, g, t, rfl, ?_⟩
    have guard : (a.modTimer f t).guardAfter req = a.guardAfter req := by cases t <;> rfl
    rw [act, same, posts, post, guard]
    rfl

end Station

/-- A node never posts a received request to itself. -/
theorem posts_own {e : Event} {lnk : PortIdx} {req : Request} (own : e.isOwn = true)
    (posts : e.posts = some (lnk, req)) (r : RapsRequest) : r.request ≠ req := by
  cases e with
  | ctl lnk' ev => cases posts; cases ev <;> cases r <;> decide
  | raps lnk' req' pdu => cases own
  | expiry t | handle t => cases t <;> cases posts <;> cases r <;> decide
  | fire t | elapse ms | iface lnk' up => cases posts

/-- What does not change of a node. -/
structure Station.Alike (a b : Station) : Prop where
  nodeId : b.nodeId = a.nodeId
  role : b.ctl.role = a.ctl.role
  duration : b.guardTimerDuration = a.guardTimerDuration

/-- What a node keeps: it announces what it defends its block with. -/
structure Station.Steady (a b : Station) : Prop extends a.Alike b where
  speaks : b.ctl.Speaks

namespace Station

variable {a : Station} {up : Ports Bool} {e : Event} {lnk : PortIdx} {m : Message}

theorem act_steady (speaks : a.ctl.Speaks)
    (orderly : ∀ lnk req, e.posts = some (lnk, req) → a.ctl.Orderly req) :
    a.Steady (a.act up e) := by
  refine ⟨⟨rfl, Ctl.step_role, rfl⟩, ?_⟩
  rcases a.act_cases up e with ⟨f, t, same⟩ | ⟨lnk, req, f, g, t, posts, same⟩ <;> rw [same]
  · exact speaks.modTimer f t
  · have orderly' : (a.ctl.modTimer f t).Orderly req := by
      obtain ⟨clear, clearSf, nrRb⟩ := orderly lnk req posts
      cases t <;> exact ⟨clear, clearSf, nrRb⟩
    exact ((speaks.modTimer f t).post orderly').modTimer g t

/-- The RPL owner hears no R-APS(NR,RB) but its own, which it does not listen to. -/
theorem hear_orderly (other : m.nodeId ≠ a.nodeId)
    (sender : m.req = .nrRb → a.ctl.role = .owner → a.nodeId = m.nodeId) :
    a.ctl.Orderly m.req.request := by
  refine ⟨fun clear => ?_, fun clearSf => ?_, fun nrRb owner => ?_⟩
  · cases req : m.req <;> rw [req] at clear <;> cases clear
  · cases req : m.req <;> rw [req] at clearSf <;> cases clearSf
  · cases req : m.req <;> rw [req] at nrRb <;> cases nrRb
    exact other (sender req owner).symm

theorem hear_steady (speaks : a.ctl.Speaks)
    (sender : m.req = .nrRb → a.ctl.role = .owner → a.nodeId = m.nodeId) :
    a.Steady (a.hear up lnk m) := by
  unfold hear
  split
  · exact ⟨⟨rfl, rfl, rfl⟩, speaks⟩
  · next listens =>
    refine ⟨⟨rfl, Ctl.post_role, rfl⟩, speaks.post (hear_orderly ?_ sender)⟩
    exact fun own => listens (.inl own)

theorem modTimer_ctl (a : Station) (f : Armed → Armed) (t : Timer) :
    (a.modTimer f t).ctl.anyBlocked = a.ctl.anyBlocked ∧
      (a.modTimer f t).ctl.defends = a.ctl.defends := by
  cases t <;> exact ⟨rfl, rfl⟩

/-- The timers make no difference to what a node holds. -/
theorem Holds.modTimer {n life smaller : Nat} {b : Station} {f g : Armed → Armed} {t u : Timer}
    (h : Holds n life smaller (a.modTimer f t) b) : Holds n life smaller a (b.modTimer g u) := by
  obtain ⟨-, defends⟩ := a.modTimer_ctl f t
  obtain ⟨blocked, defends'⟩ := b.modTimer_ctl g u
  obtain ⟨blocks, steady⟩ := h
  rw [defends] at steady
  refine ⟨blocked.trans blocks, ?_⟩
  rw [defends']
  exact steady

theorem Holds.refl {n life smaller : Nat} (blocks : a.ctl.anyBlocked = true) :
    Holds n life smaller a a := ⟨blocks, .inl ⟨le_rfl, le_rfl⟩⟩

/-- A node that answers a request of its own holds on. -/
theorem act_holds {n life smaller : Nat} (own : e.isOwn = true)
    (orderly : ∀ lnk req, e.posts = some (lnk, req) → a.ctl.Orderly req)
    (blocks : a.ctl.anyBlocked = true) (below : smaller < n)
    (long : (n + 4) * life < a.guardTimerDuration) : Holds n life smaller a (a.act up e) := by
  rcases a.act_cases up e with ⟨f, t, same⟩ | ⟨lnk, req, f, g, t, posts, same⟩ <;> rw [same]
  · have timers : a.modTimer id t = a := by cases t <;> rfl
    refine Holds.modTimer (f := id) (t := t) ?_
    rw [timers]
    exact .refl blocks
  · refine Holds.modTimer (f := f) (t := t) ?_
    have blocks' : (a.modTimer f t).ctl.anyBlocked = true := (a.modTimer_ctl f t).1.trans blocks
    have orderly' : (a.modTimer f t).ctl.Orderly req := by
      obtain ⟨clear, clearSf, nrRb⟩ := orderly lnk req posts
      cases t <;> exact ⟨clear, clearSf, nrRb⟩
    by_cases passes : (a.modTimer f t).ctl.Passes req
    · have nobody : (⟨false, up⟩ : Ctl.Seen).outranked = true → smaller < 0 := Bool.noConfusion
      rcases post_holds passes orderly' blocks' below nobody long with
        holds | ⟨r, request, -⟩
      · exact holds
      · exact absurd request (posts_own own posts r)
    · rw [post_of_not_passes passes]
      exact .refl blocks'

/-- A node that hears a message holds on, or it listens and the message outranks it. -/
theorem hear_holds {n life smaller sender : Nat} (up : Ports Bool) (lnk : PortIdx)
    (owner : m.req = .nrRb → a.ctl.role = .owner → a.nodeId = m.nodeId)
    (blocks : a.ctl.anyBlocked = true) (below : smaller < n)
    (greater : a.nodeId.toList < m.nodeId.toList → smaller < sender)
    (long : (n + 4) * life < a.guardTimerDuration) :
    Holds n life smaller a (a.hear up lnk m) ∨
      (a.guard = 0 ∧ a.ctl.defends.rank n smaller < m.req.rank n sender) := by
  unfold hear
  split
  · exact .inl (.refl blocks)
  · next listens =>
    obtain ⟨other, unguarded⟩ := not_or.mp listens
    by_cases passes : a.ctl.Passes m.req.request
    · have greater' : (⟨a.nodeId.toList < m.nodeId.toList, up⟩ : Ctl.Seen).outranked = true →
          smaller < sender := fun outranked => greater (of_decide_eq_true outranked)
      rcases post_holds passes (hear_orderly other owner) blocks below greater' long with
        holds | ⟨r, request, outranks⟩
      · exact .inl holds
      · have same : r = m.req := by
          revert request
          cases r <;> cases m.req <;> decide
        exact .inr ⟨not_not.mp unguarded, same ▸ outranks⟩
    · rw [post_of_not_passes passes]
      exact .inl (.refl blocks)

end Station

/-! ## The ring -/

namespace Protocol

variable {n life : Nat} {p q : Protocol n} {x : ProtocolStep n}

/-- How many nodes have a smaller node ID. -/
def smaller (p : Protocol n) (id : EthAddr) : Nat :=
  (Finset.univ.filter fun i => (p.stations i).nodeId.toList < id.toList).card

theorem smaller_lt (p : Protocol n) (i : Fin n) : p.smaller (p.stations i).nodeId < n := by
  have less : p.smaller (p.stations i).nodeId < (Finset.univ : Finset (Fin n)).card := by
    refine Finset.card_lt_card ((Finset.filter_ssubset).mpr ⟨i, Finset.mem_univ i, ?_⟩)
    exact List.lt_irrefl _
  rwa [Finset.card_univ, Fintype.card_fin] at less

theorem smaller_mono (p : Protocol n) (i : Fin n) (id : EthAddr)
    (less : (p.stations i).nodeId.toList < id.toList) :
    p.smaller (p.stations i).nodeId < p.smaller id := by
  refine Finset.card_lt_card ?_
  rw [Finset.ssubset_iff_of_subset]
  · refine ⟨i, Finset.mem_filter.mpr ⟨Finset.mem_univ i, less⟩, fun member => ?_⟩
    exact List.lt_irrefl _ (Finset.mem_filter.mp member).2
  · intro j member
    have smaller := (Finset.mem_filter.mp member).2
    exact Finset.mem_filter.mpr ⟨Finset.mem_univ j, List.lt_trans smaller less⟩

theorem smaller_congr (same : ∀ i, (q.stations i).nodeId = (p.stations i).nodeId) :
    q.smaller = p.smaller := by
  funext id
  simp only [smaller, same]

/-- The message as something that is handed on. -/
def parcel (p : Protocol n) (m : Message) : Parcel := ⟨m.req.rank n (p.smaller m.nodeId), m.age⟩

/-- Which nodes hold a block, how strongly, and for how long they do not listen. -/
def view (p : Protocol n) : View (Fin n) where
  holds i := (p.stations i).ctl.anyBlocked = true
  standing i := (p.stations i).ctl.defends.rank n (p.smaller (p.stations i).nodeId)
  guard i := (p.stations i).guard
  flying := {x | ∃ m ∈ p.inFlight, x = p.parcel m}

/-- Local requests do not take a block from a node that defends it, and no message is heard
later than its life. -/
def Disciplined (life : Nat) (p : Protocol n) : ProtocolStep n → Prop
  | .act i _ e => ∀ lnk req, e.posts = some (lnk, req) → (p.stations i).ctl.Orderly req
  | .hear _ _ _ k => ∀ m, p.inFlight[k]? = some m → m.age ≤ life
  | _ => True

/-- What a ring keeps: nodes announce what they defend a block with, there is one RPL owner,
messages come from nodes of the ring, and guard timers outlast every chain of messages. -/
structure Sound (life : Nat) (p : Protocol n) : Prop where
  speaks : ∀ i, (p.stations i).ctl.Speaks
  oneOwner : ∀ i j, (p.stations i).ctl.role = .owner → (p.stations j).ctl.role = .owner → i = j
  long : ∀ i, (n + 4) * life < (p.stations i).guardTimerDuration
  sender : ∀ m ∈ p.inFlight, m.req = .nrRb →
    ∃ i, (p.stations i).nodeId = m.nodeId ∧ (p.stations i).ctl.role = .owner

theorem Sound.own (h : p.Sound life) {i : Fin n} {m : Message} (member : m ∈ p.inFlight)
    (nrRb : m.req = .nrRb) (owner : (p.stations i).ctl.role = .owner) :
    (p.stations i).nodeId = m.nodeId := by
  obtain ⟨j, nodeId, owner'⟩ := h.sender m member nrRb
  rw [h.oneOwner i j owner owner', nodeId]

theorem Sound.steady (h : p.Sound life) (disciplined : p.Disciplined life x) (i : Fin n) :
    (p.stations i).Steady ((p.step x).stations i) := by
  have still : (p.stations i).Steady (p.stations i) := ⟨⟨rfl, rfl, rfl⟩, h.speaks i⟩
  cases x with
  | act j up e =>
    by_cases here : i = j
    · subst here
      rw [step, update_self]
      exact Station.act_steady (h.speaks i) disciplined
    · rwa [step, update_other p _ here]
  | announce j =>
    simp only [step]
    split <;> exact still
  | hear j up lnk k =>
    simp only [step]
    split
    · next m found =>
      by_cases here : i = j
      · subst here
        rw [update_self]
        exact Station.hear_steady (h.speaks i) fun nrRb owner =>
          h.own (List.mem_of_getElem? found) nrRb owner
      · rwa [update_other p _ here]
    · exact still
  | lose k => exact still
  | wait ms => exact ⟨⟨rfl, rfl, rfl⟩, h.speaks i⟩
  | pass => exact still

theorem announced_nrRb {c : Ctl} (announced : c.announced = some .nrRb) :
    c.status &&& rapsRb ≠ 0 := by
  unfold Ctl.announced at announced
  grind

theorem Sound.step (h : p.Sound life) (permits : p.Permits x) (disciplined : p.Disciplined life x) :
    (p.step x).Sound life := by
  have steady := h.steady disciplined
  refine ⟨fun i => (steady i).speaks, fun i j => ?_, fun i => ?_, fun m member nrRb => ?_⟩
  · rw [(steady i).role, (steady j).role]
    exact h.oneOwner i j
  · rw [(steady i).duration]
    exact h.long i
  -- a message that was in flight, perhaps younger, or the one that is sent
  have old {m' : Message} (member' : m' ∈ p.inFlight) (same : m'.nodeId = m.nodeId)
      (nrRb' : m'.req = .nrRb) :
      ∃ i, ((p.step x).stations i).nodeId = m.nodeId ∧ ((p.step x).stations i).ctl.role = .owner := by
    obtain ⟨i, nodeId, owner⟩ := h.sender m' member' nrRb'
    exact ⟨i, (steady i).nodeId.trans (nodeId.trans same), (steady i).role.trans owner⟩
  cases x with
  | act j up e => exact old member rfl nrRb
  | announce j =>
    simp only [step] at member
    split at member
    · next req announced =>
      rcases List.mem_cons.mp member with rfl | before
      · refine ⟨j, (steady j).nodeId, (steady j).role.trans ?_⟩
        obtain rfl : req = .nrRb := nrRb
        exact ((h.speaks j).honest.rb permits (announced_nrRb announced)).1
      · exact old before rfl nrRb
    · exact old member rfl nrRb
  | hear j up lnk k =>
    simp only [step] at member
    split at member <;> exact old member rfl nrRb
  | lose k => exact old (List.mem_of_mem_eraseIdx member) rfl nrRb
  | wait ms =>
    obtain ⟨m', before, rfl⟩ := List.mem_map.mp member
    exact old before rfl nrRb
  | pass => exact old member rfl nrRb

/-! ### Moves -/

/-- The view after one node has changed. -/
theorem update_view {i : Fin n} {b : Station} (nodeId : b.nodeId = (p.stations i).nodeId) :
    p.view.OnlyAt (p.update i b).view i ∧ (p.update i b).view.flying ⊆ p.view.flying ∧
      ((p.update i b).view.holds i ↔ b.ctl.anyBlocked = true) ∧
      (p.update i b).view.standing i = b.ctl.defends.rank n (p.smaller (p.stations i).nodeId) ∧
      (p.update i b).view.guard i = b.guard := by
  have ids (j : Fin n) : ((p.update i b).stations j).nodeId = (p.stations j).nodeId := by
    by_cases here : j = i
    · subst here
      rw [update_self, nodeId]
    · rw [update_other p _ here]
  have smaller := smaller_congr ids
  refine ⟨fun j other => ?_, ?_, ?_, ?_, ?_⟩
  · simp only [view, smaller, update_other p _ other, and_self]
  · rintro x ⟨m, member, rfl⟩
    exact ⟨m, member, by simp only [parcel, smaller]⟩
  · simp only [view, update_self]
  · simp only [view, update_self, smaller, nodeId]
  · simp only [view, update_self]

/-- A node that holds on, if it has a block, makes a move. -/
theorem moves_act {i : Fin n} {b : Station} (nodeId : b.nodeId = (p.stations i).nodeId)
    (holds : (p.stations i).ctl.anyBlocked = true →
      (p.stations i).Holds n life (p.smaller (p.stations i).nodeId) b) :
    p.view.Moves (n + 3) life (p.update i b).view := by
  obtain ⟨others, flying, blocked, standing, guard⟩ := update_view (p := p) nodeId
  refine .act i others (fun blocks => ?_) flying
  obtain ⟨blocks', steady⟩ := holds blocks
  refine ⟨blocked.mpr blocks', ?_⟩
  rw [standing, guard]
  exact steady

/-- Every step is a move. -/
theorem Sound.moves (h : p.Sound life) (permits : p.Permits x)
    (disciplined : p.Disciplined life x) : p.view.Moves (n + 3) life (p.step x).view := by
  have still : p.view.Moves (n + 3) life p.view := .stay ⟨rfl, rfl, rfl⟩ subset_rfl
  cases x with
  | act i up e =>
    exact moves_act rfl fun blocks =>
      Station.act_holds permits disciplined blocks (p.smaller_lt i) (h.long i)
  | announce i =>
    simp only [Protocol.step]
    split
    · next req announced =>
      have active : (p.stations i).ctl.txActive = true := permits
      refine .send i (req.rank n (p.smaller (p.stations i).nodeId)) ⟨rfl, rfl, rfl⟩
        ((h.speaks i).announces active) ((h.speaks i).announced_le (p.smaller_lt i) active announced)
        ?_ ?_
      · have below := p.smaller_lt i
        cases req <;> simp only [RapsRequest.rank] <;> omega
      · rintro x ⟨m, member, rfl⟩
        rcases List.mem_cons.mp member with rfl | old
        · exact .inl rfl
        · exact .inr ⟨m, old, rfl⟩
    · exact still
  | hear i up lnk k =>
    simp only [Protocol.step]
    split
    · next m found =>
      have member : m ∈ p.inFlight := List.mem_of_getElem? found
      have nodeId := (p.stations i).hear_nodeId up lnk m
      by_cases yields : (p.stations i).ctl.anyBlocked = true ∧ (p.stations i).guard = 0 ∧
          (p.stations i).ctl.defends.rank n (p.smaller (p.stations i).nodeId) <
            m.req.rank n (p.smaller m.nodeId)
      · obtain ⟨-, unguarded, outranks⟩ := yields
        obtain ⟨others, flying, -⟩ := update_view (p := p) nodeId
        exact .yield i (p.parcel m) others ⟨m, member, rfl⟩ (disciplined m found) unguarded outranks flying
      · refine moves_act nodeId fun blocks => ?_
        have holds := Station.hear_holds up lnk (h.own member) blocks (p.smaller_lt i)
          (p.smaller_mono i m.nodeId) (h.long i)
        exact holds.resolve_right fun outranked => yields ⟨blocks, outranked⟩
    · exact still
  | lose k =>
    refine .stay ⟨rfl, rfl, rfl⟩ ?_
    rintro x ⟨m, member, rfl⟩
    exact ⟨m, List.mem_of_mem_eraseIdx member, rfl⟩
  | wait ms =>
    refine .wait ms rfl rfl (fun i => ?_) ?_
    · simp only [view, Protocol.step, Station.wait]
      omega
    · rintro x ⟨m, member, rfl⟩
      obtain ⟨m', old, rfl⟩ := List.mem_map.mp member
      exact ⟨p.parcel m', ⟨m', old, rfl⟩, rfl⟩
  | pass => exact still

/-- Some port of the ring is blocked. -/
def LoopFree (p : Protocol n) : Prop := ∃ i, (p.stations i).ctl.anyBlocked = true

/-- The invariant along a run that starts with a blocked port and nothing in flight. -/
theorem Sound.run {xs : List (ProtocolStep n)} (start : p.Sound life) (blocked : p.LoopFree)
    (quiet : p.inFlight = [])
    (steps : EachStep Protocol.step p xs fun _ q x => q.Permits x ∧ q.Disciplined life x) :
    EachState Protocol.step p xs fun _ q => q.Sound life ∧ q.view.Secured (n + 3) life := by
  have none {x : Parcel} : x ∉ p.view.flying := by
    rintro ⟨m, member, -⟩
    rw [quiet] at member
    cases member
  refine eachState_of_eachStep ⟨start, blocked, fun x member => absurd member none,
    fun x member => absurd member none⟩ steps ?_
  rintro pre q x - ⟨permits, disciplined⟩ ⟨sound, secured⟩
  exact ⟨sound.step permits disciplined, secured.moves (sound.moves permits disciplined)⟩

end Protocol

end Erps
