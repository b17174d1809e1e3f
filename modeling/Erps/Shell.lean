import Erps.Rings
import Erps.Text.Strtoul

/-!
# Shell commands

The commands of the administrator, `net erps clear`, `ms` and `fs`, each with a ring identifier
and the index of a port in that ring.
-/
namespace Erps

open Calls CText

def ERANGE : Int := 34

/-- `errno` after a conversion that found it at zero. -/
def errno : Option Failure → Int
  | none => 0
  | some .range => ERANGE
  | some .noConversion => EINVAL

/-- `erps_sh_parse_u8`, with `none` for a null pointer. -/
def erpsShParseU8 (pl : Platform) : Option CString → Int
  | none => -EINVAL
  | some str =>
    let ul := strtoul pl str.chars
    let errno := errno ul.failure
    -- past the last character is the terminator
    if ul.rest.headD 0 ≠ 0 ∨ errno = ERANGE ∨ 255 < ul.value then
      if errno ≠ 0 then -errno else -EINVAL
    else
      (UInt8.ofNat ul.value).toNat

namespace Rings

variable {n : Nat}

/-- `erps_sh_ctl`, with the arguments as the shell hands them over. -/
def erpsShCtl (pl : Platform) (ev : ErpsEvent) (argv : List (Option CString)) : Prog n Int := do
  match argv with
  | [_, ring, port] =>
    let ringId := erpsShParseU8 pl ring
    if ringId < 0 then
      return ringId
    let port := erpsShParseU8 pl port
    if port < 0 then
      return port
    match ← netErpsLookupIface (UInt8.ofNat ringId.toNat) (UInt8.ofNat port.toNat) with
    | none => return -ENODEV
    | some dev => netErpsCtl (some dev) ev
  -- a ring and a port are needed
  | _ => return -EINVAL

def erpsShClear (pl : Platform) (argv : List (Option CString)) : Prog n Int :=
  erpsShCtl pl .admClear argv

def erpsShManualSwitch (pl : Platform) (argv : List (Option CString)) : Prog n Int :=
  erpsShCtl pl .admManualSwitch argv

def erpsShForcedSwitch (pl : Platform) (argv : List (Option CString)) : Prog n Int :=
  erpsShCtl pl .admForcedSwitch argv

/-- The subcommands of `net erps`. -/
inductive Subcmd where
  | clear | ms | fs
  deriving DecidableEq, Repr

def Subcmd.handler (pl : Platform) : Subcmd → List (Option CString) → Prog n Int
  | clear => erpsShClear pl
  | ms => erpsShManualSwitch pl
  | fs => erpsShForcedSwitch pl

end Rings

end Erps
