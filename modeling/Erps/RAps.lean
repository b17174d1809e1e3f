import Mathlib.Data.List.Basic

/-!
# The R-APS protocol data unit

Layout, constants and accessors of `r-aps.h`. A request/state is a nibble of the
PDU and not an enumeration of five values: a receiver sees any nibble, and the
code compares it with the constants below.
-/
namespace Erps

/-- `struct net_eth_addr`; a node identifier is the address of port 0. -/
abbrev EthAddr := Vector UInt8 6

/-- `memcmp` on bytes: zero on equal contents, otherwise the sign of the first
difference. -/
def memcmp : List UInt8 → List UInt8 → Int
  | a :: as, b :: bs => if a = b then memcmp as bs else (a.toNat : Int) - b.toNat
  | _, _ => 0

theorem memcmp_eq_zero_iff {xs ys : List UInt8} (lengths : xs.length = ys.length) :
    memcmp xs ys = 0 ↔ xs = ys := by
  induction xs generalizing ys with
  | nil => simp [List.length_eq_zero_iff.mp lengths.symm, memcmp]
  | cons x xs ih =>
    cases ys with
    | nil => cases lengths
    | cons y ys =>
      by_cases same : x = y
      · simp [memcmp, same, ih (Nat.succ.inj lengths)]
      · have apart : x.toNat ≠ y.toNat := mt UInt8.toNat_inj.mp same
        simp only [memcmp, same, if_false, List.cons.injEq, false_and, iff_false]
        omega

/-- `memcmp` compares in the lexicographic order of the octets. -/
theorem memcmp_pos_iff {xs ys : List UInt8} (lengths : xs.length = ys.length) :
    0 < memcmp ys xs ↔ xs < ys := by
  induction xs generalizing ys with
  | nil => simp [List.length_eq_zero_iff.mp lengths.symm, memcmp]
  | cons x xs ih =>
    cases ys with
    | nil => cases lengths
    | cons y ys =>
      rw [List.cons_lt_cons_iff]
      by_cases same : y = x
      · simp only [memcmp, same, if_true, ih (Nat.succ.inj lengths), UInt8.lt_irrefl, false_or,
          true_and]
      · simp only [memcmp, same, Ne.symm same, if_false, false_and, or_false, UInt8.lt_iff_toNat_lt]
        omega

def rapsOpcode : UInt8 := 0x28
def rapsFlags : UInt8 := 0x00

def rapsRsShift : UInt8 := 4
def rapsScMask : UInt8 := 0x0f
def rapsMelShift : UInt8 := 5

/-- A request/state is shifted into the upper half of its octet and back. -/
theorem nibble_shift {reqState : UInt8} (nibble : reqState < 16) :
    (reqState <<< rapsRsShift) >>> rapsRsShift = reqState := by
  have small : reqState.toNat < 2 ^ 4 := UInt8.lt_iff_toNat_lt.mp nibble
  have shift : rapsRsShift.toNat % 8 = 4 := by decide
  apply UInt8.toNat_inj.mp
  rw [UInt8.toNat_shiftRight, UInt8.toNat_shiftLeft, shift, Nat.shiftLeft_eq,
    Nat.shiftRight_eq_div_pow]
  omega

/-! ### Status bits -/

/-- RPL blocked. -/
def rapsRb : UInt8 := 0x80
/-- Do not flush. -/
def rapsDnf : UInt8 := 0x40
/-- Blocked port reference. -/
def rapsBpr : UInt8 := 0x20

/-! ### Request/state and subcode -/

def rapsNr : UInt8 := 0x00
def rapsMs : UInt8 := 0x07
def rapsSf : UInt8 := 0x0b
def rapsFs : UInt8 := 0x0d
def rapsEvent : UInt8 := 0x0e

def rapsScFlushReq : UInt8 := 0

/-- `struct raps_cfm_pdu_hdr`: MEL in bits 7:5 of the first octet, version below. -/
structure RapsCfmPduHdr where
  melVer : UInt8
  opcode : UInt8
  flags : UInt8
  tlvOff : UInt8
  deriving DecidableEq, Repr

/-- `struct raps_spc_info`: request/state in bits 7:4 of the first octet, subcode
below. -/
structure RapsSpcInfo where
  rsSc : UInt8
  status : UInt8
  nodeId : EthAddr
  rfu : Vector UInt8 24
  deriving DecidableEq, Repr

structure RapsPdu where
  cfmHdr : RapsCfmPduHdr
  rapsInfo : RapsSpcInfo
  endTlv : UInt8
  deriving DecidableEq, Repr

namespace RapsPdu

def bpr (pdu : RapsPdu) : Bool := pdu.rapsInfo.status &&& rapsBpr != 0

def dnf (pdu : RapsPdu) : Bool := pdu.rapsInfo.status &&& rapsDnf != 0

def rb (pdu : RapsPdu) : Bool := pdu.rapsInfo.status &&& rapsRb != 0

def status (pdu : RapsPdu) : UInt8 := pdu.rapsInfo.status

def getReqState (pdu : RapsPdu) : UInt8 := pdu.rapsInfo.rsSc >>> rapsRsShift

def getSubcode (pdu : RapsPdu) : UInt8 := pdu.rapsInfo.rsSc &&& rapsScMask

end RapsPdu

end Erps
