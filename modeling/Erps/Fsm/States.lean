import Erps.Fsm.Common

/-!
# The five states

One section for each of `erps-fsm-idle.c`, `erps-fsm-protection.c`,
`erps-fsm-manual-switch.c`, `erps-fsm-forced-switch.c` and `erps-fsm-pending.c`:
the handlers of the state and its part of Table 10-2. A handler that only adds a
log message to a common one is that one, under its own name.
-/
namespace Erps

open Calls

/-! ## Idle -/

def fsmFsIdle (lnk : PortIdx) : M Int := fsmFsCommon lnk

def fsmRapsFsIdle : M Int := fsmRapsFsCommon

def fsmSfIdle (lnk : PortIdx) : M Int := fsmSfCommon lnk

def fsmRapsSfIdle : M Int := fsmRapsSfCommon

def fsmRapsMsIdle : M Int := fsmRapsMsCommon

def fsmMsIdle (lnk : PortIdx) : M Int := fsmMsCommon lnk

def fsmRapsNrRbIdle : M Int := do
  let n ← read Sys.node
  let ret ← match nodeOtherLink n.getRpl with
    | some nonRpl => linkUnblock nonRpl
    | none => pure 0
  ifOk ret do
    -- the owner goes on announcing R-APS(NR,RB)
    if n.rplOwner then
      return 0
    nodeStopTx
    return 0

def fsmRapsNrIdle (pdu : Option RapsPdu) : M Int := do
  let n ← read Sys.node
  -- the ends of the RPL keep their block
  if n.rplOwner ∨ n.rplNbr then
    return 0
  fsmMaybeUnblockAndStop pdu

def fsmPostIdle (lnk : PortIdx) (req : Request) (pdu : Option RapsPdu) : M Int :=
  -- Table 10-2, rows 2-15
  match req with
  | .clear => return 0
  | .fs => fsmFsIdle lnk
  | .rapsFs => fsmRapsFsIdle
  | .sf => fsmSfIdle lnk
  | .clearSf => return 0
  | .rapsSf => fsmRapsSfIdle
  | .rapsMs => fsmRapsMsIdle
  | .ms => fsmMsIdle lnk
  | .wtrExpires | .wtrRunning | .wtbExpires | .wtbRunning => return 0
  | .rapsNrRb => fsmRapsNrRbIdle
  | .rapsNr => fsmRapsNrIdle pdu
  | .invalid => return -EINVAL

/-! ## Protection -/

def fsmFsProtection (lnk : PortIdx) : M Int := fsmFsCommon lnk

def fsmRapsFsProtection : M Int := fsmRapsFsCommon

def fsmSfProtection (lnk : PortIdx) : M Int := fsmSfCommon lnk

-- the announcement is scheduled whether or not a port is blocked
def fsmClearSfProtection : M Int := do
  nodeStartGuardTimer
  let ret ← nodeSchedTx rapsNr 0 0
  let n ← read Sys.node
  let ret ← if ret = 0 ∧ n.rplOwner ∧ n.revertive then nodeStartWtr else pure ret
  ifOk ret do
    fsmTransition .pending
    return 0

/-- R-APS(NR) and R-APS(NR,RB) where the state only starts a timer and leaves for
pending: WTR in protection, WTB in manual and forced switch. -/
def fsmRapsNr (t : Timer) (rb : Bool) : M Int := do
  let n ← read Sys.node
  let ret ← if rb = false ∧ n.rplOwner ∧ n.revertive then nodeStartTimer t else pure 0
  ifOk ret do
    fsmTransition .pending
    return 0

def fsmRapsNrProtection (rb : Bool) : M Int := fsmRapsNr .wtr rb

def fsmPostProtection (lnk : PortIdx) (req : Request) : M Int :=
  -- Table 10-2, rows 16-29
  match req with
  | .clear => return 0
  | .fs => fsmFsProtection lnk
  | .rapsFs => fsmRapsFsProtection
  | .sf => fsmSfProtection lnk
  | .clearSf => fsmClearSfProtection
  | .rapsSf | .rapsMs | .ms => return 0
  | .wtrExpires | .wtrRunning | .wtbExpires | .wtbRunning => return 0
  | .rapsNrRb => fsmRapsNrProtection true
  | .rapsNr => fsmRapsNrProtection false
  | .invalid => return -EINVAL

/-! ## Manual switch -/

def fsmClearMs : M Int := fsmClearCommon

def fsmFsMs (lnk : PortIdx) : M Int := fsmFsCommon lnk

def fsmRapsFsMs : M Int := fsmRapsFsCommon

def fsmSfMs (lnk : PortIdx) : M Int := fsmSfCommon lnk

def fsmRapsSfMs : M Int := fsmRapsSfCommon

def fsmRapsMsMs : M Int := do
  let n ← read Sys.node
  -- only a node with a block of its own is in conflict
  let (ret, next) ← if n.anyLinkBlocked then do
      nodeStartGuardTimer
      let ret ← nodeSchedTx rapsNr 0 0
      if ret = 0 ∧ n.rplOwner ∧ n.revertive then do
        let ret ← nodeStartWtb
        pure (ret, NodeState.pending)
      else
        pure (ret, NodeState.manualSwitch)
    else
      pure (0, NodeState.manualSwitch)
  ifOk ret do
    fsmTransition next
    return 0

def fsmRapsNrMs (rb : Bool) : M Int := fsmRapsNr .wtb rb

def fsmPostManualSwitch (lnk : PortIdx) (req : Request) : M Int :=
  -- Table 10-2, rows 30-43
  match req with
  | .clear => fsmClearMs
  | .fs => fsmFsMs lnk
  | .rapsFs => fsmRapsFsMs
  | .sf => fsmSfMs lnk
  | .clearSf => return 0
  | .rapsSf => fsmRapsSfMs
  | .rapsMs => fsmRapsMsMs
  | .ms => return 0
  | .wtrExpires | .wtrRunning | .wtbExpires | .wtbRunning => return 0
  | .rapsNrRb => fsmRapsNrMs true
  | .rapsNr => fsmRapsNrMs false
  | .invalid => return -EINVAL

/-! ## Forced switch -/

def fsmClearFs : M Int := fsmClearCommon

def fsmFsFs (lnk : PortIdx) : M Int := do
  -- the other port stays as it is
  let ret ← linkBlock lnk
  let ret ← ifOk ret (nodeSchedTx rapsFs 0 0)
  ifOk ret (flushFdb lnk)

def fsmRapsNrFs (rb : Bool) : M Int := fsmRapsNr .wtb rb

def fsmPostForcedSwitch (lnk : PortIdx) (req : Request) : M Int :=
  -- Table 10-2, rows 44-57
  match req with
  | .clear => fsmClearFs
  | .fs => fsmFsFs lnk
  | .rapsFs | .sf | .clearSf | .rapsSf | .rapsMs | .ms => return 0
  | .wtrExpires | .wtrRunning | .wtbExpires | .wtbRunning => return 0
  | .rapsNrRb => fsmRapsNrFs true
  | .rapsNr => fsmRapsNrFs false
  | .invalid => return -EINVAL

/-! ## Pending -/

/-- `if (erps_node_is_rpl_owner(node))` stop both timers. -/
def ownerStopTimers : M Unit := do
  if ← read fun s => s.node.rplOwner then
    nodeStopWtr
    nodeStopWtb

/-- Block the RPL, announce R-APS(NR,RB), open the other port and go idle. -/
def fsmRevert (lnk rpl nonRpl : PortIdx) : M Int := do
  let blocked ← linkIsBlocked rpl
  -- no need to flush where the RPL was blocked all along
  let status := if blocked then rapsRb ||| rapsDnf else rapsRb
  let ret ← if blocked then pure 0 else linkBlock rpl
  let ret ← ifOk ret (nodeSchedTx rapsNr 0 status)
  let ret ← ifOk ret (linkUnblock nonRpl)
  if ret = 0 ∧ status &&& rapsDnf = 0 then flushFdb lnk else pure ret

def fsmClearPending (lnk : PortIdx) : M Int := do
  ownerStopTimers
  let n ← read Sys.node
  let ret ← match n.getRpl, nodeOtherLink n.getRpl with
    | some rpl, some nonRpl => fsmRevert lnk rpl nonRpl
    -- without an RPL there is nothing to revert to
    | _, _ => pure 0
  ifOk ret do
    fsmTransition .idle
    return 0

/-- The handlers that stop both timers of the RPL owner once they have succeeded. -/
def thenOwnerStopTimers (m : M Int) : M Int := do
  let ret ← m
  ifOk ret do
    ownerStopTimers
    return 0

def fsmFsPending (lnk : PortIdx) : M Int := thenOwnerStopTimers (fsmFsCommon lnk)

def fsmRapsFsPending : M Int := thenOwnerStopTimers fsmRapsFsCommon

def fsmSfPending (lnk : PortIdx) : M Int := thenOwnerStopTimers (fsmSfCommon lnk)

def fsmRapsSfPending : M Int := thenOwnerStopTimers fsmRapsSfCommon

def fsmRapsMsPending : M Int := thenOwnerStopTimers fsmRapsMsCommon

-- unlike its siblings, a manual switch stops the timers before it does anything else
def fsmMsPending (lnk : PortIdx) : M Int := do
  ownerStopTimers
  fsmMsCommon lnk

def fsmTimerExpiresPending (lnk : PortIdx) : M Int := do
  let n ← read Sys.node
  match n.getRpl, nodeOtherLink n.getRpl with
  | some rpl, some nonRpl => do
    let ret ← fsmRevert lnk rpl nonRpl
    ifOk ret do
      fsmTransition .idle
      return 0
  | _, _ => assertFails

def fsmWtrExpiresPending (lnk : PortIdx) : M Int := do
  if ← read fun s => s.node.rplOwner then
    nodeStopWtb
    fsmTimerExpiresPending lnk
  else
    return 0

def fsmWtbExpiresPending (lnk : PortIdx) : M Int := do
  if ← read fun s => s.node.rplOwner then
    nodeStopWtr
    fsmTimerExpiresPending lnk
  else
    return 0

def fsmRapsNrRbPending : M Int := do
  let n ← read Sys.node
  let ret ← match n.rplOwner, n.rplNbr with
    -- RPL owner
    | true, false => do
      nodeStopWtr
      nodeStopWtb
      pure 0
    -- neither RPL owner nor neighbour
    | false, false => do
      let ret ← nodeUnblockAll
      ifOk ret do
        nodeStopTx
        return 0
    -- RPL neighbour
    | false, true =>
      match n.getRpl, nodeOtherLink n.getRpl with
      | some rpl, some nonRpl => do
        let ret ← linkBlock rpl
        let ret ← ifOk ret (linkUnblock nonRpl)
        ifOk ret do
          nodeStopTx
          return 0
      | _, _ => assertFails
    | true, true => assertFails
  ifOk ret do
    fsmTransition .idle
    return 0

def fsmRapsNrPending (pdu : Option RapsPdu) : M Int := fsmMaybeUnblockAndStop pdu

def fsmPostPending (lnk : PortIdx) (req : Request) (pdu : Option RapsPdu) : M Int :=
  -- Table 10-2, rows 58-73
  match req with
  | .clear => fsmClearPending lnk
  | .fs => fsmFsPending lnk
  | .rapsFs => fsmRapsFsPending
  | .sf => fsmSfPending lnk
  | .clearSf => return 0
  | .rapsSf => fsmRapsSfPending
  | .rapsMs => fsmRapsMsPending
  | .ms => fsmMsPending lnk
  | .wtrExpires => fsmWtrExpiresPending lnk
  | .wtrRunning => return 0
  | .wtbExpires => fsmWtbExpiresPending lnk
  | .wtbRunning => return 0
  | .rapsNrRb => fsmRapsNrRbPending
  | .rapsNr => fsmRapsNrPending pdu
  | .invalid => return -EINVAL

end Erps
