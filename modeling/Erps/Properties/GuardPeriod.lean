import Erps.Guard
import Erps.Reception

/-!
# The guard period

Reception in two steps: the filter, which looks at the guard timer, and the post, which
waits for the mutex. Between the two anything else may happen to the node, and what starts
the guard timer there lets an old PDU into the guard period.
-/
namespace Erps

open Calls Runs

/-- A node, with the requests that have passed the filter and have not been posted. -/
structure Reception where
  sys : Sys
  waiting : List (PortIdx × RapsRequest × RapsPdu)

/-- What happens on the node itself: any event but a received PDU. -/
abbrev LocalEvent := { e : Event // ∀ lnk req pdu, e ≠ .raps lnk req pdu }

/-- A frame reaches the filter of a link, the `k`-th request that waits is posted, or
something local happens. -/
inductive RecvEvent where
  | filter (lnk : PortIdx) (pkt : NetPkt)
  | post (k : Nat)
  | event (e : LocalEvent)

/-- A step with the answers to the calls made in it. -/
abbrev RecvStep := RecvEvent × Answers KernelCall

namespace Reception

def filter (r : Reception) (lnk : PortIdx) (pkt : NetPkt) (ans : Answers KernelCall) : Reception where
  sys := (erpsFilter lnk pkt).final ans r.sys
  waiting := match ((erpsFilter lnk pkt).result ans r.sys).1 with
    | .request req pdu => r.waiting ++ [(lnk, req, pdu)]
    | .verdict _ => r.waiting

def post (r : Reception) (k : Nat) (ans : Answers KernelCall) : Reception :=
  match r.waiting[k]? with
  | some (lnk, req, pdu) =>
    ⟨((Filtered.request req pdu).post lnk).final ans r.sys, r.waiting.eraseIdx k⟩
  | none => r

def step (r : Reception) : RecvStep → Reception
  | (.filter lnk pkt, ans) => r.filter lnk pkt ans
  | (.post k, ans) => r.post k ans
  | (.event e, ans) => { r with sys := r.sys.step (e, ans) }

/-- A request that is posted, and obtains the mutex, does so after the guard period. -/
def PostsUnguarded (r : Reception) (x : RecvStep) : Prop :=
  ∀ k w, x.1 = .post k → r.waiting[k]? = some w → x.2 0 .kMutexLock = 0 →
    r.sys.guardExpired = true

/-- While a request waits, no other one that obtains the mutex starts the guard timer. -/
structure SparesWaiting (r : Reception) (x : RecvStep) : Prop where
  event : ∀ e lnk req, x.1 = .event e → e.1.posts = some (lnk, req) → x.2 0 .kMutexLock = 0 →
    r.waiting ≠ [] → ¬r.sys.StartsGuard req
  post : ∀ k lnk req pdu, x.1 = .post k → r.waiting[k]? = some (lnk, req, pdu) →
    x.2 0 .kMutexLock = 0 → r.waiting.eraseIdx k ≠ [] → ¬r.sys.StartsGuard req.request

theorem SparesWaiting.of_none {r : Reception} {x : RecvStep} (none : r.waiting = []) :
    r.SparesWaiting x := by
  refine ⟨fun _ _ _ _ _ _ waits => absurd none waits, fun k lnk req pdu _ next => ?_⟩
  rw [none] at next
  cases next

/-- The invariant: requests wait only while the guard timer does not run. -/
def Unguarded (r : Reception) : Prop := r.waiting ≠ [] → r.sys.guardExpired = true

end Reception

variable {good : KernelCall → Int → Prop}

/-! ### The filter -/

theorem ethRead_guard {pkt : NetPkt} : Frames good Sys.guard (ethRead pkt) := by
  have header : Frames good Sys.guard (readVlanHdr pkt) := by
    refine frames_ite (fun _ => frames_pure) fun _ => ?_
    rcases pkt.read vlanHdrLayout with ⟨_ | hdr, after⟩
    · exact frames_pure
    refine frames_ite (fun _ => frames_pure) fun _ => frames_read.bind fun vid => ?_
    exact frames_ite (fun _ => frames_pure) fun _ => frames_pure
  refine header.bind fun p => ?_
  rcases p with ⟨_ | hdr, after⟩
  · exact frames_pure
  · exact frames_read.bind fun n => frames_ite (fun _ => frames_pure) fun _ => frames_pure

theorem rapsNodeIdBprFlush_guard {lnk : PortIdx} {req : Request} {pdu : RapsPdu} :
    Frames good Sys.guard (rapsNodeIdBprFlush lnk req pdu) := by
  refine frames_ite (fun _ => ?_) fun _ => frames_read.bind fun l => ?_
  · exact Frames.bind (frames_write fun _ => rfl) fun _ => frames_pure
  refine frames_ite (fun _ => frames_pure) fun _ => ?_
  refine Frames.bind (frames_write fun _ => rfl) fun _ => linkGetNodeId_frames.bind fun id => ?_
  refine frames_ite (fun _ => frames_pure) fun _ => frames_ite (fun _ => frames_pure) fun _ => ?_
  exact frames_read.bind fun other => frames_ite (fun _ => offTx_guard.flushFdb) fun _ => frames_pure

/-- A program that leaves the guard timer alone and asks for a post only when it does not
run. -/
abbrev Filters {α : Type} (asks : α → Bool) (good : KernelCall → Int → Prop) (m : M α) : Prop :=
  Acts good Sys.guard (fun g a h => h = g ∧ (asks a = true → g.expired = true)) m

def Filtered.asks : Filtered → Bool
  | request _ _ => true
  | verdict _ => false

theorem filters_verdict {v : NetVerdict} :
    Filters Filtered.asks good (pure (.verdict v) : M Filtered) :=
  acts_pure fun _ => ⟨rfl, nofun⟩

theorem rapsFilter_filters {lnk : PortIdx} {pdu : RapsPdu} :
    Filters Filtered.asks good (rapsFilter lnk pdu) := by
  refine frames_read.thenActs fun n => acts_ite (fun _ => filters_verdict) fun _ => ?_
  refine acts_ite (fun _ => ?_) fun _ => ?_
  · have handles : Frames good Sys.guard (handleRapsEvent lnk pdu) := by
      refine frames_ite (fun _ => frames_pure) fun _ => ?_
      exact frames_ite (fun _ => frames_pure) fun _ => offTx_guard.flushFdb
    exact handles.thenActs fun _ => filters_verdict
  cases rapsRequest n.rapsVer pdu with
  | none => exact filters_verdict
  | some req =>
    intro s
    refine wp_bind (wp_read (wp_ite (fun _ => filters_verdict s) fun expired => ?_))
    refine wp_bind (wp_mono (rapsNodeIdBprFlush_guard.ends s) fun _ t same => ?_)
    have unguarded : s.guardExpired = true := by simpa using expired
    exact wp_pure ⟨same, fun _ => unguarded⟩

theorem erpsFilter_filters {lnk : PortIdx} {pkt : NetPkt} :
    Filters (fun p => p.1.asks) good (erpsFilter lnk pkt) := by
  have verdict {v : NetVerdict} {pkt : NetPkt} : Filters (fun p => p.1.asks) good
      (pure (.verdict v, pkt) : M (Filtered × NetPkt)) := acts_pure fun _ => ⟨rfl, nofun⟩
  have pduFilters {pdu : RapsPdu} : Filters Filtered.asks good (pduFilter lnk pdu) := by
    have own : Frames good Sys.guard (isLocalRapsFrame pdu) :=
      linkGetNodeId_frames.bind fun _ => frames_ite (fun _ => frames_pure) fun _ => frames_pure
    exact own.thenActs fun _ => acts_ite (fun _ => filters_verdict) fun _ => rapsFilter_filters
  refine acts_ite (fun _ => ethRead_guard.thenActs fun p => ?_) fun _ => verdict
  rcases p with ⟨_ | pdu, after⟩
  · exact verdict
  intro s
  refine wp_bind (wp_mono (pduFilters s) ?_)
  exact fun res t filtered => wp_pure filtered

/-! ### One step -/

/-- Time goes on, and no step but a post of a request sets the guard timer. -/
def Guard.Later (g h : Guard) : Prop := h.expiry = g.expiry ∧ g.uptime ≤ h.uptime

theorem Guard.Later.expired {g h : Guard} (later : g.Later h) (now : g.expired = true) :
    h.expired = true := by
  obtain ⟨expiry, uptime⟩ := later
  simp only [Guard.expired, decide_eq_true_eq] at now ⊢
  omega

/-- A post that does not start the guard timer. -/
theorem fsmPost_calm {s : Sys} {lnk : PortIdx} {req : Request} {pdu : Option RapsPdu}
    (calm : ¬s.StartsGuard req) :
    wp good anyState (fsmPost lnk req pdu) (fun _ t => t.guard = s.guard) s := by
  refine wp_mono (fsmPost_guard s) ?_
  rintro ret t (same | ⟨starts, -⟩)
  · exact same
  · exact absurd starts calm

/-- A post that misses the mutex does nothing. -/
theorem fsmPost_missed {s : Sys} {lnk : PortIdx} {req : Request} {pdu : Option RapsPdu}
    {ans : Answers KernelCall} (busy : ans 0 .kMutexLock ≠ 0) :
    (fsmPost lnk req pdu).final ans s = s := by
  -- the mutex is the first call of the post
  have posted : fsmPost lnk req pdu ans ⟨s, 0, []⟩ =
      (if ans 0 .kMutexLock ≠ 0 then pure (ans 0 .kMutexLock) else fsmPostLocked lnk req pdu)
        ans ⟨s, 1, []⟩ := rfl
  rw [if_pos busy] at posted
  exact congrArg (fun run => run.2.now) posted

theorem fsmPost_spares {s : Sys} {lnk : PortIdx} {req : Request} {pdu : Option RapsPdu}
    {ans : Answers KernelCall} (calm : ans 0 .kMutexLock = 0 → ¬s.StartsGuard req) :
    ((fsmPost lnk req pdu).final ans s).guard = s.guard := by
  by_cases obtained : ans 0 .kMutexLock = 0
  · exact (fsmPost_calm (calm obtained)).post ans (respects_any ans)
  · rw [fsmPost_missed obtained]

/-- No timer's expiry starts the guard timer. -/
theorem handle_guard (s : Sys) (t : Expiry) :
    wp good anyState t.handle (fun _ u => u.guard = s.guard) s := by
  have posts (s : Sys) {lnk : PortIdx} {req : Request}
      (calm : ∀ st : NodeState, st.startsGuard req = false) :
      wp good anyState (fsmPost lnk req none) (fun _ u => u.guard = s.guard) s := by
    refine fsmPost_calm fun starts => ?_
    exact absurd starts.starts (by simp [calm])
  have finishes : Frames good Sys.guard t.finish := frames_write fun s => by
    cases t with
    | wtr | wtb => rfl
    | linkDown lnk => cases lnk <;> rfl
  have handler : wp good anyState t.handler (fun _ u => u.guard = s.guard) s := by
    cases t with
    | wtr => exact wp_bind (wp_mono (posts s fun st => by cases st <;> rfl) fun _ _ same => wp_pure same)
    | wtb => exact wp_bind (wp_mono (posts s fun st => by cases st <;> rfl) fun _ _ same => wp_pure same)
    | linkDown lnk =>
      have looksUp {dev : Device} : Frames good Sys.guard (netIfLookupByDev dev) :=
        netIfLookupByDev_frames
      refine wp_bind (wp_read (wp_bind (wp_mono (looksUp.ends s) fun found u same => ?_)))
      rw [← same]
      refine wp_ite (fun _ => ?_) fun _ => wp_pure rfl
      exact wp_bind (wp_mono (posts u fun st => by cases st <;> rfl) fun _ _ same => wp_pure same)
  refine wp_bind (wp_mono handler fun _ u same => ?_)
  rw [← same]
  exact finishes.ends u

theorem event_later {s : Sys} {e : Event} {ans : Answers KernelCall}
    (calm : ∀ lnk req, e.posts = some (lnk, req) → ans 0 .kMutexLock = 0 → ¬s.StartsGuard req) :
    s.guard.Later (s.step (e, ans)).guard := by
  have fires {t : Expiry} : Frames anyAnswer Sys.guard t.fire := frames_write fun s => by
    cases t with
    | wtr | wtb => rfl
    | linkDown lnk => cases lnk <;> rfl
  have same {t : Sys} (same : t.guard = s.guard) : s.guard.Later t.guard := by
    rw [same]
    exact ⟨rfl, le_rfl⟩
  have quiet (ends : wp anyAnswer anyState e.prog (fun _ t => t.guard = s.guard) s) :
      s.guard.Later (s.step (e, ans)).guard := same (ends.post ans (respects_any ans))
  cases e with
  -- only a request could start it, and only once it has the mutex
  | ctl lnk ev => exact same (fsmPost_spares (calm lnk ev.request rfl))
  | raps lnk req pdu => exact same (fsmPost_spares (calm lnk req.request rfl))
  | expiry t =>
    refine quiet (wp_bind (wp_mono (fires.ends s) fun _ u same => ?_))
    rw [← same]
    exact handle_guard u t
  | fire t => exact quiet (fires.ends s)
  | handle t => exact quiet (handle_guard s t)
  | elapse ms => exact ⟨rfl, Nat.le_add_right _ _⟩
  | iface lnk up => exact same rfl

namespace Reception

namespace Unguarded

variable {r : Reception} {ans : Answers KernelCall}

theorem filter (now : r.Unguarded) (lnk : PortIdx) (pkt : NetPkt) :
    (r.filter lnk pkt ans).Unguarded := by
  obtain ⟨guard, asks⟩ := (erpsFilter_filters r.sys).post ans (respects_any ans)
  have kept (expired : r.sys.guardExpired = true) : (r.filter lnk pkt ans).sys.guardExpired = true :=
    (congrArg Guard.expired guard).trans expired
  intro waits
  -- either something waited already, or the filter has just looked
  cases res : ((erpsFilter lnk pkt).result ans r.sys).1 with
  | request req pdu => exact kept (asks (congrArg Filtered.asks res))
  | verdict v =>
    refine kept (now ?_)
    have same : (r.filter lnk pkt ans).waiting = r.waiting := by simp only [Reception.filter, res]
    rwa [← same]

theorem post (now : r.Unguarded) {k : Nat} (spares : r.SparesWaiting (.post k, ans)) :
    (r.post k ans).Unguarded := by
  intro waits
  cases next : r.waiting[k]? with
  | none =>
    have same : r.post k ans = r := by simp only [Reception.post, next]
    rw [same] at waits ⊢
    exact now waits
  | some w =>
    obtain ⟨lnk, req, pdu⟩ := w
    have posted : r.post k ans =
        ⟨((Filtered.request req pdu).post lnk).final ans r.sys, r.waiting.eraseIdx k⟩ := by
      simp only [Reception.post, next]
    rw [posted] at waits ⊢
    have some_waits : r.waiting ≠ [] := by
      rintro none
      rw [none] at next
      cases next
    -- others still wait, so this one does not start the guard timer
    have same : (((Filtered.request req pdu).post lnk).final ans r.sys).guard = r.sys.guard :=
      fsmPost_spares fun obtained => spares.post k lnk req pdu rfl next obtained waits
    exact (congrArg Guard.expired same).trans (now some_waits)

theorem step {x : RecvStep} (now : r.Unguarded) (spares : r.SparesWaiting x) :
    (r.step x).Unguarded := by
  obtain ⟨e, ans⟩ := x
  cases e with
  | filter lnk pkt => exact now.filter lnk pkt
  | post k => exact now.post spares
  | event e =>
    intro waits
    have later : r.sys.guard.Later (r.sys.step (e.1, ans)).guard :=
      event_later fun lnk req posts obtained => spares.event e lnk req rfl posts obtained waits
    exact later.expired (now waits)

end Unguarded

end Reception

/-! ### Runs -/

/-- In a run in which no request that obtains the mutex starts the guard timer while a
received one waits to be posted, no received request is posted while the guard timer runs,
whatever the calls answer. -/
theorem posts_unguarded {s : Sys} {xs : List RecvStep}
    (spares : EachStep Reception.step ⟨s, []⟩ xs fun _ r x => r.SparesWaiting x) :
    EachStep Reception.step ⟨s, []⟩ xs fun _ r x => r.PostsUnguarded x := by
  have start : Reception.Unguarded ⟨s, []⟩ := fun waits => absurd rfl waits
  have unguarded : EachState Reception.step ⟨s, []⟩ xs fun _ r => r.Unguarded :=
    eachState_of_eachStep start spares fun _ _ _ _ spares now => now.step spares
  rintro pre x member k w - waits -
  refine unguarded pre ((List.prefix_append pre [x]).trans member) fun none => ?_
  rw [none] at waits
  cases waits

/-- A frame passes the filter of a node in protection, and is posted after `next`. -/
def sampleRecvRun (next : List RecvEvent) : List RecvStep :=
  let first : List RecvEvent := [.event ⟨.ctl .port0 .signalFail, nofun⟩,
    .filter .port1 (samplePkt netEthPtypeOam)]
  (first ++ next ++ [RecvEvent.post 0]).map fun e => (e, allSucceed)

theorem posts_unguarded_sample :
    EachStep Reception.step ⟨samplePlain, []⟩
      (sampleRecvRun [.event ⟨.ctl .port1 .signalFail, nofun⟩]) fun _ r x => r.PostsUnguarded x := by
  refine posts_unguarded ?_
  -- the filter posts nothing, and before it nothing waits
  refine eachStep_cons (.of_none rfl) (eachStep_cons ⟨nofun, nofun⟩ ?_)
  refine eachStep_cons ⟨?_, nofun⟩ (eachStep_cons ⟨nofun, ?_⟩ eachStep_nil)
  · rintro e lnk req same posts - - starts
    cases same
    cases posts
    exact absurd starts.starts (by decide)
  · rintro k lnk req pdu same waits - others
    cases same
    exact absurd (by decide) others

/-- The failure is cleared while a PDU is between filter and post: the guard timer runs when
the PDU is acted on. -/
theorem clear_slips_in : ¬∀ (s : Sys) (xs : List RecvStep), InitialisedWith anyAnswer s →
    EachStep Reception.step ⟨s, []⟩ xs fun _ r x => r.PostsUnguarded x := by
  intro unguarded
  have steps := unguarded samplePlain (sampleRecvRun [.event ⟨.ctl .port0 .clearSignalFail, nofun⟩])
    samplePlain_initialised.any
  have last := steps ((sampleRecvRun [.event ⟨.ctl .port0 .clearSignalFail, nofun⟩]).take 3)
    (.post 0, allSucceed) ⟨[], rfl⟩
  exact absurd (last 0 (.port1, .nr, samplePdu 9) rfl (by decide) rfl) (by decide)

end Erps
