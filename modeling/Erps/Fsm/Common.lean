import Erps.Priority

/-!
# Handling shared by the states

`erps-fsm-common.c` and the handlers `erps-fsm.h` builds from it.
-/
namespace Erps

open Calls

def fsmFsSfMs (lnk : PortIdx) (reqState : UInt8) (nextState : NodeState) : M Int := do
  let blocked ← linkIsBlocked lnk
  -- no flush where the block has not moved
  let status := if blocked then rapsDnf else 0
  let ret ← if blocked then pure 0 else linkBlock lnk
  let ret ← ifOk ret (nodeSchedTx reqState 0 status)
  let ret ← ifOk ret (linkUnblock lnk.other)
  let ret ← if ret = 0 ∧ status = 0 then flushFdb lnk else pure ret
  ifOk ret do
    fsmTransition nextState
    return 0

def fsmUnblockAndStop (onlyNonFailed : Bool) (nextState : NodeState) : M Int := do
  let ret ← if onlyNonFailed then nodeUnblockNonFailed else nodeUnblockAll
  ifOk ret do
    nodeStopTx
    fsmTransition nextState
    return 0

/-- Open the ports that have not failed and stop TX if the PDU comes from a node with
a greater node ID. -/
def fsmMaybeUnblockAndStop (pdu : Option RapsPdu) : M Int := do
  match pdu with
  | none => assertFails
  | some pdu => do
    let (ret, mac) ← linkGetNodeId
    if ret ≠ 0 then
      return ret
    -- nothing to do, for its own node ID neither
    if memcmp pdu.rapsInfo.nodeId.toList mac.toList ≤ 0 then
      return 0
    let ret ← nodeUnblockNonFailed
    ifOk ret do
      nodeStopTx
      return 0

def fsmClearCommon : M Int := do
  let n ← read Sys.node
  -- a node that blocks nothing has nothing to announce
  let ret ← if n.anyLinkBlocked then do
      nodeStartGuardTimer
      let ret ← nodeSchedTx rapsNr 0 0
      if ret = 0 ∧ n.rplOwner ∧ n.revertive then nodeStartWtb else pure ret
    else
      pure 0
  ifOk ret do
    fsmTransition .pending
    return 0

def fsmFsCommon (lnk : PortIdx) : M Int := fsmFsSfMs lnk rapsFs .forcedSwitch

def fsmSfCommon (lnk : PortIdx) : M Int := fsmFsSfMs lnk rapsSf .protection

def fsmMsCommon (lnk : PortIdx) : M Int := fsmFsSfMs lnk rapsMs .manualSwitch

def fsmRapsFsCommon : M Int := fsmUnblockAndStop false .forcedSwitch

def fsmRapsSfCommon : M Int := fsmUnblockAndStop true .protection

def fsmRapsMsCommon : M Int := fsmUnblockAndStop true .manualSwitch

end Erps
