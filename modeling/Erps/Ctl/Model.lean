import Erps.Events

/-!
# The state machine when every call succeeds

What is left of a node once drivers and kernel do as they are told: the state, the
remembered request, the role, the flags of the two ports, which timers run and
what is being sent. Every handler is a function on that data. The program refines
it (`Erps.Ctl.Refines`), and the invariants of all-successful runs are proved here.
-/
namespace Erps

/-- The role of a well-formed node. -/
inductive Role where
  | owner | nbr | plain
  deriving DecidableEq, Repr

/-- A timer as the state machine sees it. -/
structure Armed where
  scheduled : Bool
  running : Bool
  deriving DecidableEq, Repr

def Armed.busy (a : Armed) : Bool := a.scheduled || a.running

structure Ctl where
  role : Role
  revertive : Bool
  state : NodeState
  topreq : Request
  blocked : Ports Bool
  failed : Ports Bool
  tx : Ports Bool
  rsSc : UInt8
  status : UInt8
  wtr : Armed
  wtb : Armed
  deriving DecidableEq, Repr

namespace Ctl

def anyBlocked (c : Ctl) : Bool := c.blocked.port0 || c.blocked.port1

/-- TX is scheduled on at least one port. -/
def txActive (c : Ctl) : Bool := c.tx.port0 || c.tx.port1

/-- The node is sending PDUs with this request/state. -/
def transmits (c : Ctl) (reqState : UInt8) : Bool :=
  c.txActive && c.rsSc >>> rapsRsShift == reqState

/-! ### Operations -/

def block (c : Ctl) (i : PortIdx) : Ctl := { c with blocked := c.blocked.modify (fun _ => true) i }

def unblock (c : Ctl) (i : PortIdx) : Ctl := { c with
  blocked := c.blocked.modify (fun _ => false) i
  failed := c.failed.modify (fun _ => false) i }

def unblockAll (c : Ctl) : Ctl := (c.unblock .port0).unblock .port1

def unblockNonFailed (c : Ctl) : Ctl := { c with
  blocked := ⟨c.blocked.port0 && c.failed.port0, c.blocked.port1 && c.failed.port1⟩ }

/-- Schedule TX on the ports whose interfaces are `up`. -/
def send (c : Ctl) (up : Ports Bool) (reqState status : UInt8) : Ctl := { c with
  tx := up
  rsSc := reqState <<< rapsRsShift
  status := status }

def silence (c : Ctl) : Ctl := { c with tx := ⟨false, false⟩ }

def goto (c : Ctl) (next : NodeState) : Ctl := { c with state := next }

def timer (c : Ctl) : Timer → Armed
  | .wtr => c.wtr
  | .wtb => c.wtb

def modTimer (c : Ctl) (f : Armed → Armed) : Timer → Ctl
  | .wtr => { c with wtr := f c.wtr }
  | .wtb => { c with wtb := f c.wtb }

def stop (c : Ctl) (t : Timer) : Ctl := c.modTimer (fun a => { a with scheduled := false }) t

def start (c : Ctl) (t : Timer) : Ctl :=
  if (c.timer t).busy then c
  else
    let c := if t.running.toNat ≤ c.topreq.toNat then { c with topreq := t.running } else c
    c.modTimer (fun a => { a with scheduled := true }) t

/-- Start a timer that only the RPL owner of a revertive ring runs. -/
def startIfReverting (c : Ctl) (t : Timer) : Ctl :=
  if c.role = .owner ∧ c.revertive then c.start t else c

def ownerStop (c : Ctl) : Ctl :=
  if c.role = .owner then (c.stop .wtr).stop .wtb else c

/-! ### Handlers -/

def fsSfMs (c : Ctl) (up : Ports Bool) (lnk : PortIdx) (reqState : UInt8) (next : NodeState) :
    Ctl :=
  let status := if c.blocked.get lnk then rapsDnf else 0
  (((c.block lnk).send up reqState status).unblock lnk.other).goto next

def unblockAndStop (c : Ctl) (onlyNonFailed : Bool) (next : NodeState) : Ctl :=
  ((if onlyNonFailed then c.unblockNonFailed else c.unblockAll).silence).goto next

def maybeUnblockAndStop (c : Ctl) (outranked : Bool) : Ctl :=
  if outranked then c.unblockNonFailed.silence else c

def clearCommon (c : Ctl) (up : Ports Bool) : Ctl :=
  (if c.anyBlocked then (c.send up rapsNr 0).startIfReverting .wtb else c).goto .pending

def rapsNrRbIdle (c : Ctl) : Ctl :=
  match c.role with
  | .owner => c.unblock .port0
  | .nbr => (c.unblock .port0).silence
  | .plain => c.silence

def rapsNrIdle (c : Ctl) (outranked : Bool) : Ctl :=
  match c.role with
  | .plain => c.maybeUnblockAndStop outranked
  | _ => c

def clearSfProtection (c : Ctl) (up : Ports Bool) : Ctl :=
  ((c.send up rapsNr 0).startIfReverting .wtr).goto .pending

def rapsNrRest (c : Ctl) (t : Timer) (rb : Bool) : Ctl :=
  (if rb then c else c.startIfReverting t).goto .pending

def rapsMsMs (c : Ctl) (up : Ports Bool) : Ctl :=
  if c.anyBlocked then
    let c := c.send up rapsNr 0
    if c.role = .owner ∧ c.revertive then (c.start .wtb).goto .pending
    else c.goto .manualSwitch
  else c.goto .manualSwitch

def fsFs (c : Ctl) (up : Ports Bool) (lnk : PortIdx) : Ctl := (c.block lnk).send up rapsFs 0

def revert (c : Ctl) (up : Ports Bool) : Ctl :=
  let status := if c.blocked.port1 then rapsRb ||| rapsDnf else rapsRb
  ((c.block .port1).send up rapsNr status).unblock .port0

def clearPending (c : Ctl) (up : Ports Bool) : Ctl :=
  let c := c.ownerStop
  (if c.role = .plain then c else c.revert up).goto .idle

def timerExpiresPending (c : Ctl) (up : Ports Bool) (other : Timer) : Ctl :=
  if c.role = .owner then ((c.stop other).revert up).goto .idle else c

def rapsNrRbPending (c : Ctl) : Ctl :=
  (match c.role with
  | .owner => (c.stop .wtr).stop .wtb
  | .plain => c.unblockAll.silence
  | .nbr => ((c.block .port1).unblock .port0).silence).goto .idle

/-! ### Table 10-2 -/

/-- What the state machine sees of its surroundings while it handles a request: whether
the PDU comes from a node with a greater ID, and which interfaces are up. -/
structure Seen where
  outranked : Bool
  up : Ports Bool

def postIdle (c : Ctl) (o : Seen) (lnk : PortIdx) : Request → Ctl
  | .fs => c.fsSfMs o.up lnk rapsFs .forcedSwitch
  | .rapsFs => c.unblockAndStop false .forcedSwitch
  | .sf => c.fsSfMs o.up lnk rapsSf .protection
  | .rapsSf => c.unblockAndStop true .protection
  | .rapsMs => c.unblockAndStop true .manualSwitch
  | .ms => c.fsSfMs o.up lnk rapsMs .manualSwitch
  | .rapsNrRb => c.rapsNrRbIdle
  | .rapsNr => c.rapsNrIdle o.outranked
  | _ => c

def postProtection (c : Ctl) (o : Seen) (lnk : PortIdx) : Request → Ctl
  | .fs => c.fsSfMs o.up lnk rapsFs .forcedSwitch
  | .rapsFs => c.unblockAndStop false .forcedSwitch
  | .sf => c.fsSfMs o.up lnk rapsSf .protection
  | .clearSf => c.clearSfProtection o.up
  | .rapsNrRb => c.rapsNrRest .wtr true
  | .rapsNr => c.rapsNrRest .wtr false
  | _ => c

def postManualSwitch (c : Ctl) (o : Seen) (lnk : PortIdx) : Request → Ctl
  | .clear => c.clearCommon o.up
  | .fs => c.fsSfMs o.up lnk rapsFs .forcedSwitch
  | .rapsFs => c.unblockAndStop false .forcedSwitch
  | .sf => c.fsSfMs o.up lnk rapsSf .protection
  | .rapsSf => c.unblockAndStop true .protection
  | .rapsMs => c.rapsMsMs o.up
  | .rapsNrRb => c.rapsNrRest .wtb true
  | .rapsNr => c.rapsNrRest .wtb false
  | _ => c

def postForcedSwitch (c : Ctl) (o : Seen) (lnk : PortIdx) : Request → Ctl
  | .clear => c.clearCommon o.up
  | .fs => c.fsFs o.up lnk
  | .rapsNrRb => c.rapsNrRest .wtb true
  | .rapsNr => c.rapsNrRest .wtb false
  | _ => c

def postPending (c : Ctl) (o : Seen) (lnk : PortIdx) : Request → Ctl
  | .clear => c.clearPending o.up
  | .fs => (c.fsSfMs o.up lnk rapsFs .forcedSwitch).ownerStop
  | .rapsFs => (c.unblockAndStop false .forcedSwitch).ownerStop
  | .sf => (c.fsSfMs o.up lnk rapsSf .protection).ownerStop
  | .rapsSf => (c.unblockAndStop true .protection).ownerStop
  | .rapsMs => (c.unblockAndStop true .manualSwitch).ownerStop
  | .ms => c.ownerStop.fsSfMs o.up lnk rapsMs .manualSwitch
  | .wtrExpires => c.timerExpiresPending o.up .wtb
  | .wtbExpires => c.timerExpiresPending o.up .wtr
  | .rapsNrRb => c.rapsNrRbPending
  | .rapsNr => c.maybeUnblockAndStop o.outranked
  | _ => c

def react (c : Ctl) (o : Seen) (lnk : PortIdx) (req : Request) : Ctl :=
  match c.state with
  | .idle => c.postIdle o lnk req
  | .protection => c.postProtection o lnk req
  | .manualSwitch => c.postManualSwitch o lnk req
  | .forcedSwitch => c.postForcedSwitch o lnk req
  | .pending => c.postPending o lnk req
  | .uninit => c

/-! ### Priority -/

def clearValid (c : Ctl) : Bool := c.topreq == .fs || c.topreq == .ms || c.role == .owner

/-- The request reaches the state machine. -/
def Passes (c : Ctl) (req : Request) : Prop :=
  (req = .clear → c.clearValid) ∧
    (req.toNat ≤ c.topreq.toNat ∨ (req = .clearSf ∧ c.topreq = .sf))

instance (c : Ctl) (req : Request) : Decidable (c.Passes req) := by
  unfold Passes; infer_instance

/-- The state machine's view once a request has passed. -/
def take (c : Ctl) (lnk : PortIdx) (req : Request) : Ctl := { c with
  topreq := req.remembered
  failed := if req = .sf then c.failed.modify (fun _ => true) lnk else c.failed }

/-- A clear SF on the RPL outside protection goes no further. -/
def ignores (c : Ctl) (lnk : PortIdx) (req : Request) : Prop :=
  req = .clearSf ∧ lnk = .port1 ∧ c.role ≠ .plain ∧ c.state ≠ .protection

instance (c : Ctl) (lnk : PortIdx) (req : Request) : Decidable (c.ignores lnk req) := by
  unfold ignores; infer_instance

def post (c : Ctl) (o : Seen) (lnk : PortIdx) (req : Request) : Ctl :=
  if c.Passes req then
    let c := c.take lnk req
    if c.ignores lnk req then c else c.react o lnk req
  else c

/-! ### Events and initialisation -/

def fire (c : Ctl) (t : Timer) : Ctl := c.modTimer (fun _ => ⟨false, true⟩) t

def finish (c : Ctl) (t : Timer) : Ctl := c.modTimer (fun a => { a with running := false }) t

/-- The state machine's side of the handler of a timer. -/
def handle (c : Ctl) (o : Seen) : Expiry → Ctl
  | .wtr => (c.post o .port0 .wtrExpires).finish .wtr
  | .wtb => (c.post o .port0 .wtbExpires).finish .wtb
  | .linkDown lnk => c.post o lnk .sf

def fireExpiry (c : Ctl) : Expiry → Ctl
  | .wtr => c.fire .wtr
  | .wtb => c.fire .wtb
  | .linkDown _ => c

def step (c : Ctl) (o : Seen) : Event → Ctl
  | .ctl lnk ev => c.post o lnk ev.request
  | .raps lnk req _ => c.post o lnk req.request
  | .expiry t => (c.fireExpiry t).handle o t
  | .fire t => c.fireExpiry t
  | .handle t => c.handle o t
  | .elapse _ => c
  | .iface _ _ => c

/-- The node as `erps_fsm_init` leaves it: the RPL is blocked, or port 0 without one, and
R-APS(NR) is scheduled. -/
def booted (role : Role) (revertive : Bool) (up : Ports Bool) : Ctl :=
  let c : Ctl := {
    role := role
    revertive := revertive
    state := .uninit
    topreq := .invalid
    blocked := ⟨role = .plain, role ≠ .plain⟩
    failed := ⟨false, false⟩
    tx := up
    rsSc := 0
    status := 0
    wtr := ⟨false, false⟩
    wtb := ⟨false, false⟩ }
  (c.startIfReverting .wtr).goto .pending

end Ctl

end Erps
