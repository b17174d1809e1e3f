import Erps.Properties.Lookups
import Erps.Properties.PortsAgree

/-!
# Rings on one switch

The rings of an image share a switch. Whatever happens on one of them, and whatever the calls
answer, the nodes of the others and their ports stay as they are, and a ring keeps on the image
what it keeps on its own.
-/
namespace Erps

open Calls Runs

/-- Where the links of a node are, and all ports of the switch. -/
abbrev Places : Type := (PortIdx → Device) × (Device → PortHw)

def Sys.places (s : Sys) : Places := (fun lnk => (s.link lnk).dev, s.hw)

/-- The links are where they were, and the other ports are as they were. -/
structure Spares (p q : Places) : Prop where
  dev : q.1 = p.1
  hw : ∀ dev, (∀ lnk, dev ≠ p.1 lnk) → q.2 dev = p.2 dev

/-- At every point while `m` runs and after it, only ports of the node are not as in `p`. -/
abbrev SparesOthers (p : Places) {α : Type} (m : M α) : Prop :=
  Keeps anyAnswer (fun s => Spares p s.places) m

section
variable {p : Places} {s : Sys} {lnk : PortIdx} {α : Type} {m : M α} {guard : Prop}

theorem frames_spares (h : Frames anyAnswer Sys.places m) : SparesOthers p m := h.keeps (P := Spares p)

theorem places_modLink (s : Sys) (lnk : PortIdx) {f : Link → Link} (kept : ∀ l, (f l).dev = l.dev) :
    (s.modLink lnk f).places = s.places := by
  refine Prod.ext (funext fun l => ?_) rfl
  cases lnk <;> cases l <;> simp [Sys.places, Sys.link, Ports.get, Ports.modify, kept]

theorem offTx_places : OffTx Sys.places where
  flush _ := rfl
  work s lnk f := places_modLink s lnk fun _ => rfl
  pdu s pdu burst := by
    refine Prod.ext (funext fun l => ?_) rfl
    cases l <;> rfl
  note _ _ _ := rfl

theorem places_modWork (s : Sys) (w : WorkItem) (f : DelayableWork → DelayableWork) :
    (s.modWork w f).places = s.places := by
  cases w with
  | tx lnk => exact offTx_places.work s lnk f
  | linkDown lnk => exact places_modLink s lnk fun _ => rfl
  | wtr | wtb => rfl

theorem offPriority_places : OffPriority Sys.places where
  topreq _ _ := rfl
  failed s lnk := places_modLink s lnk fun _ => rfl
  cancel s lnk := places_modWork s (.linkDown lnk) _

/-! ### Ports -/

/-- A port of the node is written. -/
theorem Spares.modHw (now : Spares p s.places) {dev : Device} (own : dev = p.1 lnk)
    (f : PortHw → PortHw) : Spares p (s.modHw dev f).places where
  dev := now.dev
  hw d other := by
    have elsewhere : d ≠ dev := own ▸ other lnk
    exact (if_neg elsewhere).trans (now.hw d other)

theorem Spares.own (now : Spares p s.places) (lnk : PortIdx) : (s.link lnk).dev = p.1 lnk :=
  congrFun now.dev lnk

theorem modHw_spares {dev : Device} (own : dev = p.1 lnk) (f : PortHw → PortHw) :
    SparesOthers p (write fun s => s.modHw dev f) :=
  keeps_write fun _ now => now.modHw own f

theorem modLink_spares (lnk : PortIdx) {f : Link → Link} (kept : ∀ l, (f l).dev = l.dev) :
    SparesOthers p (write fun s => s.modLink lnk f) :=
  frames_spares (frames_write fun s => places_modLink s lnk kept)

theorem forgets_spares (lnk : PortIdx) : SparesOthers p (linkDeleteNodeIdBpr lnk) :=
  frames_spares (frames_write fun s => places_modLink s lnk fun _ => rfl)

theorem setEnabled_spares {dev : Device} {enable : Bool} (own : dev = p.1 lnk) :
    SparesOthers p (netEthPortSetEnabled dev enable) := by
  refine Keeps.bind (frames_spares frames_call) fun ret => keeps_ite (fun _ => keeps_pure) fun _ => ?_
  exact (modHw_spares own _).bind fun _ => keeps_pure

/-- A program that reads where a link is first. -/
theorem linkDev_spares {k : Device → M α} (rest : ∀ dev, dev = p.1 lnk → SparesOthers p (k dev)) :
    SparesOthers p (linkDev lnk >>= k) :=
  fun s now => wp_bind (wp_read (rest _ (now.own lnk) s now))

theorem linkBlock_spares : SparesOthers p (linkBlock lnk) := by
  refine keeps_read fun blocked => keeps_ite (fun _ => keeps_pure) fun _ => ?_
  refine linkDev_spares fun dev own => (frames_spares netIfLookupByDev_frames).bind fun found => ?_
  refine keeps_ite (fun _ => keeps_pure) fun _ => (setEnabled_spares own).bind fun ret => ?_
  refine keeps_ite (fun _ => keeps_pure) fun _ => Keeps.bind (modLink_spares lnk ?_) fun _ => ?_
  · exact fun _ => rfl
  refine (forgets_spares lnk).bind fun _ => (forgets_spares lnk.other).bind fun _ => keeps_read fun vid => ?_
  refine (frames_spares netEthGetVlanIface_frames).bind fun found => keeps_ite (fun _ => keeps_pure) fun _ => ?_
  exact (modHw_spares own _).bind fun _ => keeps_pure

theorem linkUnblock_spares : SparesOthers p (linkUnblock lnk) := by
  refine Keeps.bind (modLink_spares lnk ?_) fun _ => keeps_read fun blocked => ?_
  · exact fun _ => rfl
  refine keeps_ite (fun _ => keeps_pure) fun _ => linkDev_spares fun dev own => ?_
  refine (frames_spares netIfLookupByDev_frames).bind fun found => keeps_ite (fun _ => keeps_pure) fun _ => ?_
  refine (setEnabled_spares own).bind fun ret => keeps_ite (fun _ => keeps_pure) fun _ => ?_
  refine Keeps.bind (modLink_spares lnk ?_) fun _ => keeps_read fun vid => ?_
  · exact fun _ => rfl
  refine (frames_spares netEthGetVlanIface_frames).bind fun found => keeps_ite (fun _ => keeps_pure) fun _ => ?_
  exact (modHw_spares own _).bind fun _ => keeps_pure

theorem linkUnblockForce_spares : SparesOthers p (linkUnblockForce lnk) := by
  refine Keeps.bind (modLink_spares lnk ?_) fun _ => linkUnblock_spares
  exact fun _ => rfl

/-! ### All that a node does -/

theorem fsmOp_spares (op : FsmOp guard α m) : SparesOthers p m := by
  cases op with
  | block lnk => exact linkBlock_spares
  | unblock lnk => exact linkUnblock_spares
  | unblockForce lnk => exact linkUnblockForce_spares
  | markFailed lnk req => exact frames_spares offPriority_places.marks
  | flush lnk => exact frames_spares offTx_places.flushFdb
  | schedTx reqState subcode status => exact frames_spares offTx_places.nodeSchedTx
  | stopTx => exact frames_spares offTx_places.nodeStopTx
  | startGuard allowed => exact frames_spares (frames_write fun _ => rfl)
  | startTimer t =>
    exact frames_spares (nodeStartTimer_frames offPriority_places.topreq fun s => places_modWork s t.item)
  | stopTimer t => exact frames_spares (frames_write fun s => places_modWork s t.item _)
  | resolve req => exact frames_spares offPriority_places.resolve
  | goto next => exact frames_spares (frames_write fun _ => rfl)
  | fault => exact frames_spares (Frames.bind (frames_write fun _ => rfl) fun _ => frames_pure)

theorem built_spares (h : FsmBuilt guard m) : SparesOthers p m := h.keeps fun _ _ op => fsmOp_spares op

theorem event_spares (e : Event) : SparesOthers p e.prog := by
  have fires (t : Expiry) : SparesOthers p t.fire :=
    frames_spares (frames_write fun s => places_modWork s t.item _)
  have handles (t : Expiry) : SparesOthers p t.handle :=
    (built_spares handler_built).bind fun _ => frames_spares (frames_write fun s => places_modWork s t.item _)
  cases e with
  | ctl lnk ev => exact (built_spares fsmPost_built).bind fun _ => keeps_pure
  | raps lnk req pdu => exact (built_spares fsmPost_built).bind fun _ => keeps_pure
  | expiry t => exact (fires t).bind fun _ => handles t
  | fire t => exact fires t
  | handle t => exact handles t
  | elapse ms => exact frames_spares (frames_write fun _ => rfl)
  | iface lnk up => exact keeps_write fun s now => now.modHw (now.own lnk) _

theorem runTxWork_places {pad : Bool} {buf : RapsPdu} :
    Frames anyAnswer Sys.places (runTxWork pad buf lnk) := by
  have works : Frames anyAnswer Sys.places (txWork pad buf lnk) := by
    refine txWork_frames (fun _ _ _ => rfl) (fun s lnk => places_modLink s lnk fun l => ?_) offTx_places.work
    split <;> rfl
  refine frames_read.bind fun scheduled => frames_ite (fun _ => ?_) fun _ => frames_pure
  refine Frames.bind (frames_write fun s => offTx_places.work s lnk _) fun _ => works.bind fun _ => ?_
  exact frames_write fun s => offTx_places.work s lnk _

theorem ifaceUpCb_spares {dev : Device} : SparesOthers p (ifaceUpCb dev) :=
  frames_spares (ifaceUpCb_frames offTx_places.work)

/-- The callback of a node that does not have the device does nothing. -/
theorem ifaceUpCb_elsewhere {dev : Device} (other : ∀ lnk, dev ≠ (s.link lnk).dev) :
    wp anyAnswer anyState (ifaceUpCb dev) (fun _ t => t = s) s := by
  have looksUp {d : Device} : Frames anyAnswer id (netIfLookupByDev d) := netIfLookupByDev_frames
  refine wp_bind (wp_read (wp_bind (wp_read (wp_bind (wp_mono (looksUp.ends s) ?_)))))
  rintro iface0 t rfl
  refine wp_bind (wp_mono (looksUp.ends t) ?_)
  rintro iface1 u rfl
  refine wp_ite (fun _ => wp_pure rfl) fun mine => absurd ⟨?_, ?_⟩ mine
  · exact fun found => other .port0 found.2
  · exact fun found => other .port1 found.2

theorem erpsRecv_spares {dev : Device} {pkt : NetPkt} : SparesOthers p (erpsRecv dev pkt) := by
  rw [erpsRecv_eq]
  refine keeps_read fun n => ?_
  cases n.linkLookupByIface dev with
  | none => exact keeps_pure
  | some lnk =>
    have filters : Frames anyAnswer Sys.places (erpsFilter lnk pkt) :=
      erpsFilter_still (fun s lnk _ _ => places_modLink s lnk fun _ => rfl) fun _ => rfl
    refine (frames_spares filters).bind fun got => ?_
    have posts : SparesOthers p (got.1.post lnk) := by
      cases got.1 with
      | verdict v => exact keeps_pure
      | request req pdu => exact (built_spares fsmPost_built).bind fun _ => keeps_pure
    exact posts.bind fun _ => keeps_pure

end

/-! ### Rings -/

/-- What belongs to a node: its data, what it has done, and its ports. -/
def Sys.own (s : Sys) : Node × List NodeOp × (PortIdx → PortHw) :=
  (s.node, s.log, fun lnk => s.hw (s.link lnk).dev)

/-- What happens on an image: an event of a node, the TX work of a link running in memory that
holds `buf`, the interface of a device coming up, with the nodes that are notified in their order,
a command on an interface, or a frame that is received on a device. -/
inductive RingsEvent (n : Nat) where
  | event (i : Fin n) (e : Event)
  | txWork (i : Fin n) (lnk : PortIdx) (buf : RapsPdu)
  | ifaceUp (dev : Device) (notified : List (Fin n))
  | ctl (iface : Iface) (ev : ErpsEvent)
  | recv (dev : Device) (pkt : NetPkt)

/-- An event with the answers to the calls made in it. -/
abbrev RingsStep (n : Nat) := RingsEvent n × Answers KernelCall

namespace Rings

variable {n : Nat}

/-- `erps_recv`; the lookup is made again within the ring, and finds the same link by
`linkLookupByIface_node`. -/
def erpsRecv (dev : Device) (pkt : NetPkt) : Prog n (NetVerdict × NetPkt) := do
  match ← read fun r => r.linkLookupByIface (some dev) with
  | none => return (.drop, pkt)
  | some (i, _) => onRing i (Erps.erpsRecv dev pkt)

/-- The image with the interface of a device up. -/
def raise (r : Rings n) (dev : Device) : Rings n :=
  { r with hw := fun d => if d = dev then { r.hw d with ifUp := true } else r.hw d }

/-- Every node that has added its callback is notified, with or without a port there. -/
def notifyIfaceUp (dev : Device) (notified : List (Fin n)) : Prog n Unit := do
  write fun r => r.raise dev
  forEach (fun i => onRing i (ifaceUpCb dev)) notified

def eventProg (padRapsPdus : Bool) : RingsEvent n → Prog n Unit
  | .event i e => onRing i e.prog
  | .txWork i lnk buf => onRing i (runTxWork padRapsPdus buf lnk)
  | .ifaceUp dev notified => notifyIfaceUp dev notified
  | .ctl iface ev => do
    let _ ← netErpsCtl iface ev
  | .recv dev pkt => do
    let _ ← erpsRecv dev pkt

def step (padRapsPdus : Bool) (r : Rings n) (x : RingsStep n) : Rings n :=
  (eventProg padRapsPdus x.1).final x.2 r

/-- The event is on ring `i`, by an interface or a device it has in `r`. -/
def On (r : Rings n) (i : Fin n) : RingsEvent n → Prop
  | .event j _ | .txWork j _ _ => j = i
  | .ctl iface _ => ∃ lnk, iface = r.iface i lnk
  | .ifaceUp dev _ | .recv dev _ => ∃ lnk, some dev = r.iface i lnk

/-- The links are where they are in `r`, and what belongs to any ring but those in `on` is as
it is in `r`. -/
structure Leaves (r : Rings n) (on : Fin n → Prop) (t : Rings n) : Prop where
  dev : t.dev = r.dev
  own : ∀ j, ¬on j → (t.sys j).own = (r.sys j).own

section
variable {r : Rings n} {i : Fin n} {on : Fin n → Prop} {pad : Bool}

theorem leaves_self : r.Leaves on r := ⟨rfl, fun _ _ => rfl⟩

theorem Leaves.mono {on' : Fin n → Prop} {t : Rings n} (left : r.Leaves on t) (more : ∀ j, on j → on' j) :
    r.Leaves on' t :=
  ⟨left.dev, fun j elsewhere => left.own j (mt (more j) elsewhere)⟩

theorem Leaves.trans {t u : Rings n} (left : r.Leaves on t) (left' : t.Leaves on u) : r.Leaves on u :=
  ⟨left'.dev.trans left.dev, fun j elsewhere => (left'.own j elsewhere).trans (left.own j elsewhere)⟩

/-- A change of one ring and its ports. -/
theorem put_leaves (distinct : r.Distinct) {s : Sys} (spares : Spares (r.sys i).places s.places) :
    r.Leaves (· = i) (r.put i s) := by
  have dev : (r.put i s).dev = r.dev := put_dev (congrFun spares.dev)
  refine ⟨dev, fun j other => ?_⟩
  refine Prod.ext (put_nodes_of_ne other r s) (Prod.ext (Function.update_of_ne other _ _) ?_)
  refine funext fun lnk => ?_
  show s.hw ((r.put i s).dev j lnk) = r.hw (r.dev j lnk)
  rw [dev]
  -- the port of another ring is none of this one's
  refine spares.hw _ fun lnk' same => ?_
  have one : (j, lnk) = (i, lnk') := distinct same
  exact other (Prod.mk.inj one).1

/-- A program on one ring does there what it does alone. -/
theorem onRing_leaves {good : KernelCall → Int → Prop} (distinct : r.Distinct) {α : Type} {m : M α}
    {Q : α → Sys → Prop} (spares : SparesOthers (r.sys i).places m) (does : wp good anyState m Q (r.sys i)) :
    Adds good (onRing i m) (fun _ a t => r.Leaves (· = i) t ∧ Q a (t.sys i)) r := by
  have spared : wp good _ m (fun _ t => Spares (r.sys i).places t.places) (r.sys i) :=
    (spares (r.sys i) ⟨rfl, fun _ _ => rfl⟩).answers fun _ _ _ => trivial
  refine adds_mono (adds_zoom_of_wp (spared.andEnds does)) ?_
  rintro _ a t ⟨-, s, ⟨spared, done⟩, rfl⟩
  refine ⟨put_leaves distinct spared, ?_⟩
  rwa [sys_put]

theorem onRing_on (distinct : r.Distinct) {α : Type} {m : M α}
    (spares : SparesOthers (r.sys i).places m) (here : on i) :
    Adds anyAnswer (onRing i m) (fun _ _ t => r.Leaves on t) r := by
  refine adds_mono (onRing_leaves distinct spares wp_ends) fun _ _ t ⟨left, _⟩ => left.mono fun j same => ?_
  rwa [same]

/-- An interface that comes up belongs to the rings that have its device. -/
theorem raise_own {dev : Device} {j : Fin n} (other : ∀ lnk, some dev ≠ r.iface j lnk) :
    ((r.raise dev).sys j).own = (r.sys j).own := by
  refine Prod.ext rfl (Prod.ext rfl (funext fun lnk => ?_))
  have elsewhere : r.dev j lnk ≠ dev := fun same => other lnk (congrArg some same.symm)
  exact if_neg elsewhere

/-- The callback of one node, after the others before it. -/
theorem ifaceUpCb_leaves (distinct : r.Distinct) {dev : Device} (i : Fin n)
    (here : (∃ lnk, some dev = r.iface i lnk) → on i) :
    Adds anyAnswer (onRing i (ifaceUpCb dev)) (fun _ _ t => r.Leaves on t) r := by
  by_cases has : ∃ lnk, some dev = r.iface i lnk
  · exact onRing_on distinct ifaceUpCb_spares (here has)
  -- a node without the device has looked at its own interfaces and returned
  have other (lnk : PortIdx) : dev ≠ r.dev i lnk := fun same => has ⟨lnk, congrArg some same⟩
  refine adds_mono (onRing_leaves distinct ifaceUpCb_spares (ifaceUpCb_elsewhere other)) ?_
  rintro _ _ t ⟨left, same⟩
  refine ⟨left.dev, fun j _ => ?_⟩
  by_cases callee : j = i
  · rw [callee, same]
  · exact left.own j callee

theorem notifyIfaceUp_leaves (distinct : r.Distinct) {dev : Device} {notified : List (Fin n)}
    (here : ∀ i, (∃ lnk, some dev = r.iface i lnk) → on i) :
    Adds anyAnswer (notifyIfaceUp dev notified) (fun _ _ t => r.Leaves on t) r := by
  have raised : r.Leaves on (r.raise dev) :=
    ⟨rfl, fun j elsewhere => raise_own fun lnk same => elsewhere (here j ⟨lnk, same⟩)⟩
  -- every callback leaves what the ones before it have left
  have round (i : Fin n) (t : Rings n) (left : r.Leaves on t) :
      Adds anyAnswer (onRing i (ifaceUpCb dev)) (fun _ _ u => r.Leaves on u) t := by
    have has : (∃ lnk, some dev = t.iface i lnk) → on i := by
      rintro ⟨lnk, same⟩
      refine here i ⟨lnk, same.trans ?_⟩
      exact congrArg (fun d => some (d i lnk)) left.dev
    refine adds_mono (ifaceUpCb_leaves (distinct.same left.dev) i has) ?_
    exact fun _ _ u left' => left.trans left'
  exact adds_bind (adds_write (adds_forEach_keeps round notified raised))

/-- What an event does not touch. -/
theorem event_leaves (distinct : r.Distinct) (e : RingsEvent n) :
    Adds anyAnswer (eventProg pad e) (fun _ _ t => r.Leaves (r.On · e) t) r := by
  cases e with
  | event i e => exact onRing_on distinct (event_spares e) rfl
  | txWork i lnk buf => exact onRing_on distinct (frames_spares runTxWork_places) rfl
  | ifaceUp dev notified => exact notifyIfaceUp_leaves distinct fun _ has => has
  | ctl iface ev =>
    refine adds_bind (adds_bind (adds_read ?_))
    cases found : r.linkLookupByIface iface with
    | none => exact adds_pure (adds_pure leaves_self)
    | some p =>
      refine adds_mono (onRing_on distinct (built_spares fsmPost_built) ?_) fun _ _ t left => adds_pure left
      exact ⟨p.2, linkLookupByIface_some found⟩
  | recv dev pkt =>
    refine adds_bind (adds_bind (adds_read ?_))
    cases found : r.linkLookupByIface (some dev) with
    | none => exact adds_pure (adds_pure leaves_self)
    | some p =>
      refine adds_mono (onRing_on distinct erpsRecv_spares ?_) fun _ _ t left => adds_pure left
      exact ⟨p.2, linkLookupByIface_some found⟩

theorem step_leaves (distinct : r.Distinct) (x : RingsStep n) :
    r.Leaves (r.On · x.1) (r.step pad x) :=
  (event_leaves distinct x.1).run x.2 (respects_any x.2)

theorem eachState_distinct (distinct : r.Distinct) {xs : List (RingsStep n)} :
    EachState (step pad) r xs fun _ t => t.Distinct := by
  have steps : EachStep (step pad) r xs fun _ _ _ => True := fun _ _ _ => trivial
  refine eachState_of_eachStep distinct steps ?_
  intro pre t x _ _ before
  exact before.same (step_leaves before x).dev

/-- What a node keeps in whatever happens to it alone, and what its own part tells. -/
structure KeptAlone (good : KernelCall → Int → Prop) (pad : Bool) (P : Sys → Prop) : Prop where
  own : ∀ s t : Sys, t.own = s.own → P s → P t
  event : ∀ (e : Event) s, P s → wp good anyState e.prog (fun _ t => P t) s
  txWork : ∀ lnk buf s, P s → wp good anyState (runTxWork pad buf lnk) (fun _ t => P t) s
  raised : ∀ lnk s, P s → P (s.modHw (s.link lnk).dev fun p => { p with ifUp := true })
  notified : ∀ dev s, P s → wp good anyState (ifaceUpCb dev) (fun _ t => P t) s
  recv : ∀ dev pkt s, P s → wp good anyState (Erps.erpsRecv dev pkt) (fun _ t => P t) s

section
variable {good : KernelCall → Int → Prop} {P : Sys → Prop}

/-- One ring keeps it, and what belongs to the others is as it was. -/
theorem KeptAlone.all (alone : KeptAlone good pad P) {t : Rings n} (left : r.Leaves (· = i) t)
    (now : ∀ j, P (r.sys j)) (kept : P (t.sys i)) : ∀ j, P (t.sys j) := by
  intro j
  by_cases here : j = i
  · rwa [here]
  · exact alone.own _ _ (left.own j here) (now j)

theorem onRing_keeps (alone : KeptAlone good pad P) (distinct : r.Distinct) (now : ∀ j, P (r.sys j))
    {α : Type} {m : M α} (spares : SparesOthers (r.sys i).places m)
    (kept : wp good anyState m (fun _ t => P t) (r.sys i)) :
    Adds good (onRing i m) (fun _ _ t => ∀ j, P (t.sys j)) r := by
  refine adds_mono (onRing_leaves distinct spares kept) ?_
  exact fun _ _ t ⟨left, kept⟩ => alone.all left now kept

theorem notifyIfaceUp_keeps (alone : KeptAlone good pad P) (distinct : r.Distinct)
    (now : ∀ j, P (r.sys j)) {dev : Device} {notified : List (Fin n)} :
    Adds good (notifyIfaceUp dev notified) (fun _ _ t => ∀ j, P (t.sys j)) r := by
  -- before any callback: one ring has the port, the others have seen nothing
  have raised (j : Fin n) : P ((r.raise dev).sys j) := by
    by_cases has : ∃ lnk, some dev = r.iface j lnk
    · obtain ⟨lnk, same⟩ := has
      have here : dev = r.dev j lnk := Option.some.inj same
      rw [here]
      exact alone.raised lnk _ (now j)
    · exact alone.own _ _ (raise_own fun lnk same => has ⟨lnk, same⟩) (now j)
  have round (i : Fin n) (t : Rings n) (now : t.Distinct ∧ ∀ j, P (t.sys j)) :
      Adds good (onRing i (ifaceUpCb dev)) (fun _ _ u => u.Distinct ∧ ∀ j, P (u.sys j)) t := by
    obtain ⟨distinct, now⟩ := now
    refine adds_mono (onRing_leaves distinct ifaceUpCb_spares (alone.notified dev _ (now i))) ?_
    exact fun _ _ u ⟨left, kept⟩ => ⟨distinct.same left.dev, alone.all left now kept⟩
  have start : (r.raise dev).Distinct ∧ ∀ j, P ((r.raise dev).sys j) := ⟨distinct.same rfl, raised⟩
  refine adds_bind (adds_write (adds_mono (adds_forEach_keeps round notified start) ?_))
  exact fun _ _ t kept => kept.2

theorem event_keeps (alone : KeptAlone good pad P) (distinct : r.Distinct) (now : ∀ j, P (r.sys j))
    (e : RingsEvent n) : Adds good (eventProg pad e) (fun _ _ t => ∀ j, P (t.sys j)) r := by
  cases e with
  | event i e => exact onRing_keeps alone distinct now (event_spares e) (alone.event e _ (now i))
  | txWork i lnk buf =>
    exact onRing_keeps alone distinct now (frames_spares runTxWork_places) (alone.txWork lnk buf _ (now i))
  | ifaceUp dev notified => exact notifyIfaceUp_keeps alone distinct now
  | ctl iface ev =>
    refine adds_bind (adds_bind (adds_read ?_))
    cases r.linkLookupByIface iface with
    | none => exact adds_pure (adds_pure now)
    | some p =>
      have posts : wp good anyState (Erps.netErpsCtl p.2 ev) (fun _ t => P t) (r.sys p.1) :=
        alone.event (.ctl p.2 ev) _ (now p.1)
      exact adds_mono (onRing_keeps alone distinct now (built_spares fsmPost_built) posts) fun _ _ t kept =>
        adds_pure kept
  | recv dev pkt =>
    refine adds_bind (adds_bind (adds_read ?_))
    cases r.linkLookupByIface (some dev) with
    | none => exact adds_pure (adds_pure now)
    | some p =>
      exact adds_mono (onRing_keeps alone distinct now erpsRecv_spares (alone.recv dev pkt _ (now p.1)))
        fun _ _ t kept => adds_pure kept

/-- What every ring keeps alone, all rings of an image keep together. -/
theorem eachState_kept (alone : KeptAlone good pad P) (distinct : r.Distinct) (now : ∀ i, P (r.sys i))
    {xs : List (RingsStep n)} (answers : ∀ x ∈ xs, Respects good x.2) :
    EachState (step pad) r xs fun _ t => ∀ i, P (t.sys i) := by
  have both : EachState (step pad) r xs fun _ t => t.Distinct ∧ ∀ i, P (t.sys i) := by
    refine eachState_of_eachStep ⟨distinct, now⟩ (eachStep_of_forall answers) ?_
    rintro pre t x - answers ⟨distinct, now⟩
    exact ⟨distinct.same (step_leaves distinct x).dev, (event_keeps alone distinct now x.1).run x.2 answers⟩
  exact both.mono fun _ _ h => h.2

end

/-- Whatever happens on an image whose rings share no port, and whatever the calls answer, a
ring, its record and its ports change only in an event on that ring. -/
theorem rings_apart (distinct : r.Distinct) (xs : List (RingsStep n)) :
    EachStep (step pad) r xs fun _ t x => ∀ i, ((t.step pad x).sys i).own ≠ (t.sys i).own → t.On i x.1 := by
  intro pre x member i changed
  have before : (run (step pad) r pre).Distinct :=
    eachState_distinct distinct pre ((List.prefix_append pre [x]).trans member)
  exact Classical.byContradiction fun elsewhere => changed ((step_leaves before x).own i elsewhere)

end

/-- A command on a port of the first ring, and a frame received on a port of the second. -/
def sampleSteps : List (RingsStep 2) := [
  (.ctl (sample.iface ⟨0, Nat.two_pos⟩ .port1) .admForcedSwitch, allSucceed),
  (.recv (sample.dev ⟨1, Nat.one_lt_two⟩ .port0) (samplePkt netEthPtypeOam), allSucceed)]

theorem rings_apart_sample : EachStep (step false) sample sampleSteps fun _ t x =>
    ∀ i, ((t.step false x).sys i).own ≠ (t.sys i).own → t.On i x.1 :=
  rings_apart sample_distinct sampleSteps

end Rings

end Erps
