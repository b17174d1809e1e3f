import Erps.Ctl.Reacts
import Erps.Timing.Posts

/-!
# Failed ports stay shut

A failure, a manual switch or an election elsewhere opens ports, but the failed ones among
them are passed over. A failure of the node itself is different: it opens the other port,
which may have failed before.
-/
namespace Erps

open Calls Runs

/-- The ports in `shut` are blocked and have failed. -/
def Sys.Held (shut : PortIdx → Prop) (s : Sys) : Prop :=
  ∀ p, shut p → (s.link p).blocked = true ∧ (s.link p).failed = true

/-- The flags of the links. -/
def Sys.flags (s : Sys) (p : PortIdx) : Bool × Bool := ((s.link p).blocked, (s.link p).failed)

/-- The ports in `shut` are blocked and have failed, at every point while `m` runs and after
it. -/
abbrev KeepsHeld (shut : PortIdx → Prop) {α : Type} (m : M α) : Prop :=
  Keeps anyAnswer (Sys.Held shut) m

/-! ### Operations -/

theorem flags_modWork (s : Sys) (w : WorkItem) (f : DelayableWork → DelayableWork) :
    (s.modWork w f).flags = s.flags := by
  funext p
  cases w with
  | tx lnk | linkDown lnk => cases lnk <;> cases p <;> rfl
  | wtr | wtb => rfl

theorem offTx_flags : OffTx Sys.flags where
  flush _ := rfl
  work s lnk f := flags_modWork s (.tx lnk) f
  pdu _ _ _ := by
    funext p
    cases p <;> rfl
  note _ _ _ := rfl

section
variable {shut : PortIdx → Prop} {lnk : PortIdx} {req : Request} {pdu : Option RapsPdu}

theorem frames_held {α : Type} {m : M α} (h : Frames anyAnswer Sys.flags m) : KeepsHeld shut m := by
  intro s now
  have passes := h (fun flags => ∀ p, shut p → (flags p).1 = true ∧ (flags p).2 = true) s now
  refine wp_mono passes fun _ t same p held => ?_
  have same' := congrFun same p
  rw [show (t.link p).blocked = (s.link p).blocked from congrArg Prod.fst same',
    show (t.link p).failed = (s.link p).failed from congrArg Prod.snd same']
  exact now p held

/-- A change of a link leaves it blocked and failed, or the link need not be. -/
theorem modLink_held {f : Link → Link}
    (keeps : shut lnk → ∀ l, l.blocked = true → l.failed = true →
      (f l).blocked = true ∧ (f l).failed = true) :
    KeepsHeld shut (write fun s => s.modLink lnk f) := by
  intro s now
  have after : (s.modLink lnk f).Held shut := by
    intro p held
    by_cases here : p = lnk
    · subst here
      have changed : (s.modLink p f).link p = f (s.link p) := by cases p <;> rfl
      rw [changed]
      exact keeps held _ (now p held).1 (now p held).2
    · have same : (s.modLink lnk f).link p = s.link p := by
        cases p <;> cases lnk <;> first | rfl | exact absurd rfl here
      rw [same]
      exact now p held
  exact wp_write after after

theorem linkDeleteNodeIdBpr_held : KeepsHeld shut (linkDeleteNodeIdBpr lnk) :=
  modLink_held fun _ _ blocked failed => ⟨blocked, failed⟩

/-- The end of both calls, on the VLAN interface. -/
theorem vlanIface_held {dev : Device} {up : Bool} : KeepsHeld shut (do
    let vid ← read fun s => s.node.trafficVid
    if !(← netEthGetVlanIface dev vid) then
      return -ENODEV
    netIfSetUp dev vid up
    return (0 : Int)) := by
  refine keeps_read fun vid => (frames_held netEthGetVlanIface_frames).bind fun found => ?_
  refine keeps_ite (fun _ => keeps_pure) fun _ => ?_
  exact frames_held (Frames.bind (frames_write fun _ => rfl) fun _ => frames_pure)

theorem netEthPortSetEnabled_held {dev : Device} {enable : Bool} :
    KeepsHeld shut (netEthPortSetEnabled dev enable) :=
  frames_held (netEthPortSetEnabled_frames fun _ => rfl)

theorem linkBlock_held : KeepsHeld shut (linkBlock lnk) := by
  refine keeps_read fun blocked => keeps_ite (fun _ => keeps_pure) fun _ => keeps_read fun dev => ?_
  refine (frames_held netIfLookupByDev_frames).bind fun found => keeps_ite (fun _ => keeps_pure) fun _ => ?_
  refine netEthPortSetEnabled_held.bind fun ret => keeps_ite (fun _ => keeps_pure) fun _ => ?_
  refine Keeps.bind (modLink_held fun _ _ _ failed => ⟨rfl, failed⟩) fun _ => ?_
  refine linkDeleteNodeIdBpr_held.bind fun _ => linkDeleteNodeIdBpr_held.bind fun _ => ?_
  exact vlanIface_held

/-- Opening a port that need not stay shut. -/
theorem linkUnblock_held (free : ¬shut lnk) : KeepsHeld shut (linkUnblock lnk) := by
  refine Keeps.bind (modLink_held fun held => absurd held free) fun _ => keeps_read fun blocked => ?_
  refine keeps_ite (fun _ => keeps_pure) fun _ => keeps_read fun dev => ?_
  refine (frames_held netIfLookupByDev_frames).bind fun found => keeps_ite (fun _ => keeps_pure) fun _ => ?_
  refine netEthPortSetEnabled_held.bind fun ret => keeps_ite (fun _ => keeps_pure) fun _ => ?_
  exact Keeps.bind (modLink_held fun held => absurd held free) fun _ => vlanIface_held

/-- A port that has failed is not opened. -/
theorem linkUnblockNonFailed_held : KeepsHeld shut (linkUnblockNonFailed lnk) := by
  intro s now
  refine wp_bind (wp_read (wp_ite (fun sound => ?_) fun _ => wp_pure now))
  have free : ¬shut lnk := by
    intro held
    rw [(now lnk held).2] at sound
    cases sound
  exact linkUnblock_held free s now

theorem nodeUnblockNonFailed_held : KeepsHeld shut nodeUnblockNonFailed :=
  linkUnblockNonFailed_held.bind fun _ => linkUnblockNonFailed_held.ifOk

theorem nodeSchedTx_held {reqState subcode status : UInt8} :
    KeepsHeld shut (nodeSchedTx reqState subcode status) :=
  frames_held offTx_flags.nodeSchedTx

theorem nodeStopTx_held : KeepsHeld shut nodeStopTx := frames_held offTx_flags.nodeStopTx

theorem kWorkCancelDelayable_held {w : WorkItem} : KeepsHeld shut (kWorkCancelDelayable w) :=
  frames_held (frames_write fun s => flags_modWork s w _)

theorem nodeStartTimer_held {t : Timer} : KeepsHeld shut (nodeStartTimer t) :=
  frames_held (nodeStartTimer_frames (fun _ _ => rfl) fun s f => flags_modWork s t.item f)

theorem fsmTransition_held {next : NodeState} : KeepsHeld shut (fsmTransition next) :=
  frames_held (frames_write fun _ => rfl)

theorem finish_held {next : NodeState} : KeepsHeld shut (do
    fsmTransition next
    return (0 : Int)) :=
  fsmTransition_held.bind fun _ => keeps_pure

theorem ownerStopTimers_held : KeepsHeld shut ownerStopTimers :=
  keeps_read fun _ => keeps_ite
    (fun _ => kWorkCancelDelayable_held.bind fun _ => kWorkCancelDelayable_held) fun _ => keeps_pure

/-! ### Handlers -/

theorem fsmSfCommon_held (free : ¬shut lnk.other) : KeepsHeld shut (fsmSfCommon lnk) := by
  refine keeps_read fun blocked => ?_
  refine keeps_bindIte (keeps_ite (fun _ => keeps_pure) fun _ => linkBlock_held) fun ret => ?_
  refine nodeSchedTx_held.ifOk.bind fun ret => (linkUnblock_held free).ifOk.bind fun ret => ?_
  have flushes : KeepsHeld shut (flushFdb lnk) := frames_held offTx_flags.flushFdb
  exact keeps_bindIte (keeps_ite (fun _ => flushes) fun _ => keeps_pure) fun ret => finish_held.ifOk

theorem fsmUnblockAndStop_held {next : NodeState} : KeepsHeld shut (fsmUnblockAndStop true next) := by
  refine nodeUnblockNonFailed_held.bind fun ret => Keeps.ifOk ?_
  exact nodeStopTx_held.bind fun _ => finish_held

theorem fsmMaybeUnblockAndStop_held : KeepsHeld shut (fsmMaybeUnblockAndStop pdu) := by
  rcases pdu with _ | pdu
  · exact frames_held (Frames.bind (frames_write fun _ => rfl) fun _ => frames_pure)
  · refine (frames_held linkGetNodeId_frames).bind fun id => keeps_ite (fun _ => keeps_pure) fun _ => ?_
    refine keeps_ite (fun _ => keeps_pure) fun _ => nodeUnblockNonFailed_held.bind fun ret => ?_
    exact (nodeStopTx_held.bind fun _ => keeps_pure).ifOk

theorem fsmRapsNr_held {t : Timer} {rb : Bool} : KeepsHeld shut (fsmRapsNr t rb) := by
  refine keeps_read fun n => ?_
  exact keeps_bindIte (keeps_ite (fun _ => nodeStartTimer_held) fun _ => keeps_pure) fun _ => finish_held.ifOk

theorem nodeStartGuardTimer_held : KeepsHeld shut nodeStartGuardTimer :=
  frames_held (frames_write fun _ => rfl)

theorem fsmRapsMsMs_held : KeepsHeld shut fsmRapsMsMs := by
  have last (p : Int × NodeState) : KeepsHeld shut (ifOk p.1 do
      fsmTransition p.2
      return 0) := finish_held.ifOk
  refine keeps_read fun n => keeps_ite (fun _ => ?_) fun _ => Keeps.bind keeps_pure last
  refine nodeStartGuardTimer_held.bind fun _ => nodeSchedTx_held.bind fun ret => ?_
  refine keeps_ite (fun _ => ?_) fun _ => Keeps.bind keeps_pure last
  exact nodeStartTimer_held.bind fun ret => Keeps.bind keeps_pure last

theorem thenOwnerStopTimers_held {m : M Int} (h : KeepsHeld shut m) :
    KeepsHeld shut (thenOwnerStopTimers m) :=
  h.bind fun _ => (ownerStopTimers_held.bind fun _ => keeps_pure).ifOk

/-- The requests that may not open a failed port. -/
def Request.spares : Request → Bool
  | sf | rapsSf | rapsMs | rapsNr => true
  | _ => false

/-- A signal fail that is acted on finds the other port open or sound. -/
theorem react_held (st : NodeState) (spares : req.spares = true)
    (free : req = .sf → st ≠ .forcedSwitch → st ≠ .uninit → ¬shut lnk.other) :
    KeepsHeld shut (fsmReact st lnk req pdu) := by
  cases req with
  | sf =>
    cases st with
    | idle | protection | manualSwitch => exact fsmSfCommon_held (free rfl (by decide) (by decide))
    | pending => exact thenOwnerStopTimers_held (fsmSfCommon_held (free rfl (by decide) (by decide)))
    | forcedSwitch | uninit => exact keeps_pure
  | rapsSf =>
    cases st with
    | idle | manualSwitch => exact fsmUnblockAndStop_held
    | pending => exact thenOwnerStopTimers_held fsmUnblockAndStop_held
    | protection | forcedSwitch | uninit => exact keeps_pure
  | rapsMs =>
    cases st with
    | idle => exact fsmUnblockAndStop_held
    | manualSwitch => exact fsmRapsMsMs_held
    | pending => exact thenOwnerStopTimers_held fsmUnblockAndStop_held
    | protection | forcedSwitch | uninit => exact keeps_pure
  | rapsNr =>
    cases st with
    | idle => exact keeps_read fun n => keeps_ite (fun _ => keeps_pure) fun _ => fsmMaybeUnblockAndStop_held
    | protection | manualSwitch | forcedSwitch => exact fsmRapsNr_held
    | pending => exact fsmMaybeUnblockAndStop_held
    | uninit => exact keeps_pure
  | _ => cases spares

/-- What holds after a post of a request that may not open a failed port, where a signal fail
that is acted on finds the other port open or sound. -/
theorem fsmPost_held (s : Sys) (now : s.Held shut) (spares : req.spares = true)
    (free : req = .sf → s.ctl.Passes .sf → s.node.state ≠ .forcedSwitch → s.node.state ≠ .uninit →
      ¬shut lnk.other) :
    wp anyAnswer (Sys.Held shut) (fsmPost lnk req pdu) (fun _ t => t.Held shut) s := by
  refine wp_bind (wp_call fun v _ => wp_ite (fun _ => wp_pure now) fun _ => ?_)
  have plain : req ≠ .clearSf := by rintro rfl; cases spares
  unfold fsmPostLocked
  refine wp_bindWhen (wp_ite (fun clears => absurd clears plain) fun _ => wp_pure ?_)
  have resolves : KeepsHeld shut (fsmResolveReqPrio req) :=
    frames_held (fsmResolveReqPrio_frames fun _ _ => rfl)
  refine wp_bind (wp_mono ((resolves s now).andEnds (wp_resolve s req)) ?_)
  rintro ret t ⟨now, rfl, rfl⟩
  by_cases passes : s.ctl.Passes req
  case neg =>
    simp only [passes, if_false] at now ⊢
    exact wp_ite (fun _ => wp_pure now) fun ok => absurd trivial ok
  simp only [passes, if_true] at now ⊢
  refine wp_ite (fun busy => absurd busy (by decide)) fun _ => ?_
  have marks : KeepsHeld shut (write fun s => if req = .sf then
      s.modLink lnk fun l => { l with failed := true } else s) := by
    by_cases fails : req = .sf
    · simp only [fails, if_true]
      exact modLink_held fun _ _ blocked _ => ⟨blocked, rfl⟩
    · simp only [fails, if_false]
      exact fun _ now => wp_write now now
  have stays : Frames anyAnswer (fun s : Sys => s.node.state) ((write fun s => if req = .sf then
      s.modLink lnk fun l => { l with failed := true } else s) : M Unit) := by
    refine frames_write fun s => ?_
    split <;> rfl
  refine wp_bind (wp_mono ((marks _ now).andEnds (stays.ends _)) ?_)
  rintro _ u ⟨now, state⟩
  refine wp_bind (wp_read (wp_ite (fun _ => wp_pure now) fun _ => ?_))
  have state' : (id u).node.state = s.node.state := state
  rw [state']
  refine react_held s.node.state spares (fun fails => ?_) u now
  subst fails
  exact free rfl passes

/-! ### Events -/

end

/-- Whatever the calls answer while the event is handled, each port that has failed and is
blocked when it arrives stays blocked at every point. -/
def Event.KeepsFailed (e : Event) (s : Sys) : Prop :=
  ∀ (ans : Answers KernelCall) p, (s.link p).failed = true → (s.link p).blocked = true →
    ((e.prog.final ans s).link p).blocked = true ∧ ∀ u ∈ e.prog.trace ans s, (u.link p).blocked = true

/-- The event posts a signal fail that is acted on, while the other port is blocked because
it has failed. -/
def Event.FailsSecond (e : Event) (s : Sys) : Prop :=
  ∃ lnk, e.posts = some (lnk, .sf) ∧ s.ctl.Passes .sf ∧ s.node.state ≠ .forcedSwitch ∧
    s.node.state ≠ .uninit ∧ (s.link lnk.other).failed = true ∧ (s.link lnk.other).blocked = true

section
variable {shut : PortIdx → Prop} {s : Sys} {e : Event} {lnk : PortIdx} {req : Request}

/-- The handler of a link-down timer posts a signal fail, if its interface is found. -/
theorem linkDown_held (now : s.Held shut) (free : s.ctl.Passes .sf → s.node.state ≠ .forcedSwitch →
      s.node.state ≠ .uninit → ¬shut lnk.other) :
    wp anyAnswer (Sys.Held shut) (Expiry.linkDown lnk).handle (fun _ t => t.Held shut) s := by
  have finishes : KeepsHeld shut (Expiry.linkDown lnk).finish :=
    frames_held (frames_write fun s => flags_modWork s (.linkDown lnk) _)
  refine wp_bind ?_
  refine wp_bind (wp_read (wp_bind (wp_bind (wp_call fun found _ => wp_pure ?_))))
  refine wp_ite (fun _ => ?_) fun _ => wp_pure (finishes s now)
  refine wp_bind (wp_mono (fsmPost_held s now rfl fun _ => free) fun _ t held => wp_pure ?_)
  exact finishes t held

theorem event_held (now : s.Held shut) (posts : e.posts = some (lnk, req))
    (spares : req.spares = true)
    (free : req = .sf → s.ctl.Passes .sf → s.node.state ≠ .forcedSwitch → s.node.state ≠ .uninit →
      ¬shut lnk.other) :
    wp anyAnswer (Sys.Held shut) e.prog (fun _ t => t.Held shut) s := by
  cases e with
  | ctl lnk' ev =>
    cases posts
    exact wp_bind (wp_mono (fsmPost_held s now spares free) fun _ _ held => wp_pure held)
  | raps lnk' req' pdu =>
    cases posts
    exact wp_bind (wp_mono (fsmPost_held s now spares free) fun _ _ held => wp_pure held)
  | expiry t =>
    cases t with
    | wtr | wtb =>
      cases posts
      cases spares
    | linkDown lnk' =>
      cases posts
      have fires : Frames anyAnswer (fun s : Sys => (s.flags, s.ctl)) (Expiry.linkDown lnk).fire := by
        refine frames_write fun s => congrArg₂ Prod.mk (flags_modWork s (.linkDown lnk) _) ?_
        cases lnk <;> rfl
      have held : KeepsHeld shut (Expiry.linkDown lnk).fire := frames_held (fires.through Prod.fst)
      refine wp_bind (wp_mono ((held s now).andEnds (fires.ends s)) ?_)
      rintro _ t ⟨now, same⟩
      have ctl : t.ctl = s.ctl := congrArg Prod.snd same
      have state : t.node.state = s.node.state := congrArg Ctl.state ctl
      refine linkDown_held now ?_
      rw [ctl, state]
      exact free rfl
  | handle t =>
    cases t with
    | wtr | wtb =>
      cases posts
      cases spares
    | linkDown lnk' =>
      cases posts
      exact linkDown_held now (free rfl)
  | fire t | elapse ms | iface lnk' up => cases posts

/-- The two ways to shut a port that has failed are kept apart by whether the event opens
the other one. -/
theorem keepsFailed_iff (formed : s.setup.WellFormed) (posts : e.posts = some (lnk, req))
    (spares : req.spares = true) : e.KeepsFailed s ↔ ¬e.FailsSecond s := by
  constructor
  · rintro keeps ⟨lnk', posts', passes, forced, uninit, failed, blocked⟩
    have succeeds : Step.Succeeds (e, allSucceed) := allSucceed_respects
    have after := (keeps allSucceed lnk'.other failed blocked).1
    have ctl : (e.prog.final allSucceed s).ctl = s.ctl.step (s.setup.seen e) e :=
      Sys.step_ctl formed succeeds
    rw [Sys.link_blocked, ctl] at after
    -- the other port has been opened
    obtain ⟨f, g, t, same⟩ := Ctl.step_posts (c := s.ctl) (o := s.setup.seen e) posts'
    have opened := (Ctl.fails_protects (c := s.ctl.modTimer f t) (s.setup.seen e) lnk'
      (by cases t <;> exact passes) (by cases t <;> exact forced) (by cases t <;> exact uninit)).2.2.1
    have blind (c : Ctl) : (c.modTimer g t).blocked = c.blocked := by cases t <;> rfl
    rw [same, blind, opened] at after
    cases after
  · intro single ans p failed blocked
    have now : s.Held fun p => (s.link p).failed = true ∧ (s.link p).blocked = true :=
      fun p held => ⟨held.2, held.1⟩
    have runs := event_held now posts spares fun fails passes forced uninit held =>
      single ⟨lnk, fails ▸ posts, passes, forced, uninit, held⟩
    refine ⟨((runs.post ans (respects_any ans)) p ⟨failed, blocked⟩).1, ?_⟩
    intro u member
    exact (runs.passes ans (respects_any ans) u member p ⟨failed, blocked⟩).1

end

/-- Along every run, whatever the calls answer, no failure, remote manual switch or election
could open a port that has failed and is blocked, if and only if no signal fail is acted on
while the other port is such a port. -/
theorem failed_stays_shut_iff {s : Sys} {xs : List Step} (init : InitialisedWith anyAnswer s) :
    EachStep Sys.step s xs (fun _ t x => ∀ lnk req, x.1.posts = some (lnk, req) →
        req.spares = true → x.1.KeepsFailed t) ↔
      EachStep Sys.step s xs fun _ t x => ¬x.1.FailsSecond t := by
  have here (pre : List Step) (x : Step) (member : pre ++ [x] <+: xs) :
      (s.run pre).setup.WellFormed :=
    eachState_formedAny init pre ((List.prefix_append pre [x]).trans member)
  constructor
  · intro keeps pre x member second
    obtain ⟨lnk, posts, -⟩ := id second
    exact (keepsFailed_iff (here pre x member) posts rfl).mp (keeps pre x member lnk .sf posts rfl) second
  · intro single pre x member lnk req posts spares
    exact (keepsFailed_iff (here pre x member) posts spares).mpr (single pre x member)

/-- Both links of the RPL owner fail. -/
def sampleFailures : List Step := succeeding [.ctl .port0 .signalFail, .ctl .port1 .signalFail]

theorem failed_stays_shut_iff_owner :
    let s := (sampleNode true false (sampleDevice 0 1) (sampleDevice 1 2)).started
    EachStep Sys.step s sampleFailures (fun _ t x => ∀ lnk req, x.1.posts = some (lnk, req) →
        req.spares = true → x.1.KeepsFailed t) ↔
      EachStep Sys.step s sampleFailures fun _ t x => ¬x.1.FailsSecond t :=
  failed_stays_shut_iff (DtNode.started_initialised _).any

/-- The second failure opens the first link. -/
theorem failed_port_opened : ¬∀ (s : Sys) (xs : List Step), InitialisedWith anyAnswer s →
    EachStep Sys.step s xs fun _ t x => ∀ lnk req, x.1.posts = some (lnk, req) →
      req.spares = true → x.1.KeepsFailed t := by
  intro keeps
  have second := keeps (sampleNode true false (sampleDevice 0 1) (sampleDevice 1 2)).started
    sampleFailures (DtNode.started_initialised _).any [(.ctl .port0 .signalFail, allSucceed)]
    (.ctl .port1 .signalFail, allSucceed) List.prefix_rfl .port1 .sf rfl rfl
  have blocked := (second allSucceed .port0 (by decide) (by decide)).1
  exact absurd blocked (by decide)

end Erps
