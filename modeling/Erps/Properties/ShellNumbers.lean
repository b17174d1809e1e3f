import Erps.Properties.Lookups
import Erps.Shell

/-!
# Numbers typed by the administrator

A number is taken where `strtoul` gets to the end of the string without a range error and finds
at most 255. That is more than the numbers written out in digits: the empty string is zero, and
white space, signs and the numbers a minus wraps into the range pass.
-/
namespace Erps

open Calls CText

/-- The string is the number in decimal digits. -/
def Written (str : CString) (k : Nat) : Prop :=
  str.chars ≠ [] ∧ (∀ c ∈ str.chars, isdigit c) ∧ decimal str.chars = k

/-- The parser takes what is written out and fits, and nothing else. -/
structure ParsesExactly (pl : Platform) (str : CString) : Prop where
  number : ∀ k : Nat, erpsShParseU8 pl (some str) = k ↔ Written str k ∧ k ≤ 255
  error : (∀ k ≤ 255, ¬Written str k) → erpsShParseU8 pl (some str) < 0

/-- What the string is taken for by the rules of `strtoul`. -/
def ReadsAs (pl : Platform) (str : CString) (k : Nat) : Prop :=
  str.chars = [] ∧ k = 0 ∨ ∃ num : Numeral, num.chars = str.chars ∧ num.value ≤ pl.ulongMax ∧
    pl.signed num.sign num.value = k ∧ k ≤ 255

/-- The string is empty, or has more than digits and is a number all the same. -/
def Misread (pl : Platform) (str : CString) : Prop :=
  str.chars = [] ∨ ∃ num : Numeral, ¬num.Plain ∧ num.chars = str.chars ∧
    num.value ≤ pl.ulongMax ∧ pl.signed num.sign num.value ≤ 255

/-! ### The parser -/

section
variable {pl : Platform} {str : CString} {k : Nat}

/-- The error, whether or not `errno` is set. -/
theorem parseError_neg (failure : Option Failure) :
    (if errno failure ≠ 0 then -errno failure else -EINVAL) < 0 := by
  cases failure with
  | none => decide
  | some failure => cases failure <;> decide

theorem parse_of_refused (refused : (strtoul pl str.chars).rest.headD 0 ≠ 0 ∨
    errno (strtoul pl str.chars).failure = ERANGE ∨ 255 < (strtoul pl str.chars).value) :
    erpsShParseU8 pl (some str) < 0 := by
  unfold erpsShParseU8
  dsimp only
  rw [if_pos refused]
  exact parseError_neg _

theorem parse_of_whole {ul : Conversion} (converted : strtoul pl str.chars = ul) (whole : ul.rest = [])
    (inRange : errno ul.failure ≠ ERANGE) (fits : ul.value ≤ 255) :
    erpsShParseU8 pl (some str) = ul.value := by
  have taken : ¬(ul.rest.headD 0 ≠ 0 ∨ errno ul.failure = ERANGE ∨ 255 < ul.value) := by
    rintro (more | range | large)
    · rw [whole] at more
      exact more rfl
    · exact inRange range
    · omega
  unfold erpsShParseU8
  dsimp only
  rw [converted, if_neg taken, UInt8.toNat_ofNat_of_lt' (Nat.lt_succ_of_le fits)]

/-- A string has no terminator before its end. -/
theorem rest_nil_of_head {rest : List UInt8} (suffix : ∀ c ∈ rest, c ∈ str.chars)
    (head : rest.headD 0 = 0) : rest = [] := by
  cases rest with
  | nil => rfl
  | cons c cs =>
    have nul : c = 0 := head
    subst nul
    exact absurd (suffix 0 List.mem_cons_self) str.noNul

theorem parse_of_reads (reads : ReadsAs pl str k) : erpsShParseU8 pl (some str) = k ∧ k ≤ 255 := by
  rcases reads with ⟨empty, rfl⟩ | ⟨num, chars, inRange, value, fits⟩
  · have nothing : strtoul pl str.chars = pl.convertNothing [] := by
      rw [empty]
      rfl
    -- `errno` may be set, but not to what the parser looks for
    have inRange : errno (pl.convertNothing []).failure ≠ ERANGE := by
      unfold Platform.convertNothing
      cases pl.tellsNothing <;> decide
    exact ⟨parse_of_whole nothing rfl inRange (Nat.zero_le _), Nat.zero_le _⟩
  · have whole : strtoul pl str.chars = ⟨k, [], none⟩ := by
      rw [← chars, ← List.append_nil num.chars, strtoul_numeral pl num rfl, Platform.convert,
        if_neg (by omega), value]
    exact ⟨parse_of_whole whole rfl (by decide : errno none ≠ ERANGE) fits, fits⟩

/-- What the parser takes has been converted to its end, so it is a numeral or empty. -/
theorem reads_of_parse (taken : 0 ≤ erpsShParseU8 pl (some str)) : ∃ k, ReadsAs pl str k := by
  by_contra none
  refine absurd (parse_of_refused ?_) (by omega : ¬erpsShParseU8 pl (some str) < 0)
  rcases strtoul_cases pl str.chars with ⟨num, rest, chars, converted⟩ | nothing
  · by_cases range : pl.ulongMax < num.value
    · right; left
      rw [converted, Platform.convert, if_pos range]
      rfl
    · rw [converted, Platform.convert, if_neg range]
      dsimp only
      by_contra taken
      push Not at taken
      obtain ⟨head, -, fits⟩ := taken
      have whole : rest = [] :=
        rest_nil_of_head (fun c member => chars ▸ List.mem_append_right _ member) head
      subst whole
      rw [List.append_nil] at chars
      exact none ⟨_, .inr ⟨num, chars.symm, by omega, rfl, fits⟩⟩
  · left
    intro head
    rw [nothing] at head
    exact none ⟨0, .inl ⟨rest_nil_of_head (fun _ member => member) head, rfl⟩⟩

/-- A number the string is read as, or an error. -/
theorem parse_cases (pl : Platform) (arg : Option CString) : erpsShParseU8 pl arg < 0 ∨
    ∃ str k, arg = some str ∧ ReadsAs pl str k ∧ erpsShParseU8 pl arg = k ∧ k ≤ 255 := by
  cases arg with
  | none => exact .inl (by decide : -EINVAL < 0)
  | some str =>
    by_cases refused : erpsShParseU8 pl (some str) < 0
    · exact .inl refused
    · obtain ⟨k, reads⟩ := reads_of_parse (Int.not_lt.mp refused)
      exact .inr ⟨str, k, rfl, reads, parse_of_reads reads⟩

/-! ### What is written out -/

theorem reads_of_written (written : Written str k) (fits : k ≤ 255) : ReadsAs pl str k := by
  obtain ⟨some, digits, value⟩ := written
  refine .inr ⟨⟨[], .unsigned, str.chars, nofun, some, digits⟩, rfl, ?_, value, fits⟩
  have small : 2 ^ 32 ≤ 2 ^ pl.ulongBits := Nat.pow_le_pow_right (by decide) pl.wide
  change decimal str.chars ≤ 2 ^ pl.ulongBits - 1
  omega

theorem Written.of_parse {a : UInt8} (written : Written str a.toNat)
    (parsed : erpsShParseU8 pl (some str) = k) : Written str k := by
  have fits : a.toNat ≤ 255 := Nat.le_of_lt_succ a.toNat_lt
  have reads : ReadsAs pl str a.toNat := reads_of_written written fits
  have taken := (parse_of_reads reads).1
  obtain rfl : a.toNat = k := by omega
  exact written

theorem plain_of_digits {num : Numeral} (digits : ∀ c ∈ num.chars, isdigit c) : num.Plain := by
  constructor
  · refine List.eq_nil_iff_forall_not_mem.mpr fun c member => ?_
    have digit := digits c (List.mem_append_left _ member)
    exact absurd (num.whiteSpace c member) (by simp [(isdigit_alone digit).2.2])
  · cases sign : num.sign with
    | unsigned => rfl
    | plus | minus =>
      have first := digits (num.sign.chars.headD 0)
        (List.mem_append_right _ (List.mem_append_left _ (by rw [sign]; exact List.mem_cons_self)))
      rw [sign] at first
      exact absurd first (by decide)

theorem written_of_reads (exact : ¬Misread pl str) (reads : ReadsAs pl str k) :
    Written str k ∧ k ≤ 255 := by
  rcases reads with ⟨empty, -⟩ | ⟨num, chars, inRange, value, fits⟩
  · exact absurd (.inl empty) exact
  · have plain : num.Plain := by
      by_contra more
      exact exact (.inr ⟨num, more, chars, inRange, value ▸ fits⟩)
    have digits : str.chars = num.digits := by
      rw [← chars, Numeral.chars, plain.1, plain.2]
      rfl
    rw [plain.2] at value
    refine ⟨⟨?_, ?_, ?_⟩, fits⟩
    · rw [digits]
      exact num.someDigit
    · rw [digits]
      exact num.allDigits
    · rw [digits]
      exact value

theorem parsesExactly_iff : ParsesExactly pl str ↔ ¬Misread pl str := by
  constructor
  · rintro exact (empty | ⟨num, more, chars, inRange, fits⟩)
    · have zero : ReadsAs pl str 0 := .inl ⟨empty, rfl⟩
      exact ((exact.number 0).mp (parse_of_reads zero).1).1.1 empty
    · have taken := (parse_of_reads (.inr ⟨num, chars, inRange, rfl, fits⟩)).1
      have digits := ((exact.number _).mp taken).1.2.1
      rw [← chars] at digits
      exact more (plain_of_digits digits)
  · intro exact
    refine ⟨fun k => ⟨fun taken => ?_, fun ⟨written, fits⟩ => ?_⟩, fun none => ?_⟩
    · obtain ⟨k', reads⟩ := reads_of_parse (by omega : 0 ≤ erpsShParseU8 pl (some str))
      have same := (parse_of_reads reads).1
      obtain rfl : k = k' := by omega
      exact written_of_reads exact reads
    · exact (parse_of_reads (reads_of_written written fits)).1
    · by_contra taken
      obtain ⟨k, reads⟩ := reads_of_parse (by omega : 0 ≤ erpsShParseU8 pl (some str))
      obtain ⟨written, fits⟩ := written_of_reads exact reads
      exact none k fits written

end

/-! ### The commands -/

namespace Rings

variable {n : Nat}

/-- Started here, the one program makes the calls of the other and ends as it does. -/
def RunsAs (r : Rings n) (m m' : Prog n Int) : Prop := ∀ ans, m ans ⟨r, 0, []⟩ = m' ans ⟨r, 0, []⟩

/-- The command on a port, for which its interface is looked up. -/
def ctlPort (r : Rings n) (i : Fin n) (lnk : PortIdx) (ev : ErpsEvent) : Prog n Int := do
  if ← onRing i (netIfLookupByDev (r.dev i lnk)) then netErpsCtl (r.iface i lnk) ev
  else return -ENODEV

/-- The command on the port the two numbers are those of. -/
def ctlNumbered (ringId port : UInt8) (ev : ErpsEvent) : Prog n Int := do
  match ← netErpsLookupIface ringId port with
  | none => return -ENODEV
  | some dev => netErpsCtl (some dev) ev

/-- Either an error comes back and no call is made, or it is the command on a port of which both
numbers are written out. -/
def OnlyWritten (r : Rings n) (pl : Platform) (ev : ErpsEvent) (argv : List (Option CString)) :
    Prop :=
  (∃ e < 0, r.RunsAs (erpsShCtl pl ev argv) (pure e)) ∨
  ∃ cmd ring port i, ∃ lnk : PortIdx, argv = [cmd, some ring, some port] ∧
    Written ring (r.nodes i).ringId.toNat ∧ Written port lnk.index.toNat ∧
    r.RunsAs (erpsShCtl pl ev argv) (r.ctlPort i lnk ev)

/-- The strings are taken for a ring that is there and one of its ports, and are not both its
numbers written out. -/
def Misled (r : Rings n) (pl : Platform) (argv : List (Option CString)) : Prop :=
  ∃ cmd ring port i, ∃ lnk : PortIdx, argv = [cmd, some ring, some port] ∧
    ReadsAs pl ring (r.nodes i).ringId.toNat ∧ ReadsAs pl port lnk.index.toNat ∧
    ¬(Written ring (r.nodes i).ringId.toNat ∧ Written port lnk.index.toNat)

section
variable {r : Rings n} {pl : Platform} {ev : ErpsEvent}

theorem index_or_beyond (port : UInt8) : (∃ lnk : PortIdx, lnk.index = port) ∨ 2 ≤ port := by
  by_cases zero : port = 0
  · exact .inl ⟨.port0, zero.symm⟩
  · by_cases one : port = 1
    · exact .inl ⟨.port1, one.symm⟩
    · right
      have notZero : port.toNat ≠ 0 := fun same => zero (UInt8.toNat_inj.mp same)
      have notOne : port.toNat ≠ 1 := fun same => one (UInt8.toNat_inj.mp same)
      change 2 ≤ port.toNat
      omega

theorem ctlNumbered_missed {ringId port : UInt8}
    (missed : (∀ i, (r.nodes i).ringId ≠ ringId) ∨ 2 ≤ port) :
    r.RunsAs (ctlNumbered ringId port ev) (pure (-ENODEV)) := by
  intro ans
  have lookup : netErpsLookupIface ringId port ans ⟨r, 0, []⟩ = (none, ⟨r, 0, []⟩) := by
    unfold netErpsLookupIface
    split
    · rfl
    · next within =>
      have absent := missed.resolve_right within
      have none : ((List.finRange n).find? fun i => (r.nodes i).ringId == ringId) = none :=
        List.find?_eq_none.mpr fun i _ same => absent i (beq_iff_eq.mp same)
      simp only [bind_apply, Calls.read, none]
      rfl
  rw [ctlNumbered, bind_apply, lookup]

theorem ctlNumbered_found (ev : ErpsEvent) {i : Fin n} (lnk : PortIdx) :
    ∃ j, (r.nodes j).ringId = (r.nodes i).ringId ∧
      r.RunsAs (ctlNumbered (r.nodes i).ringId lnk.index ev) (r.ctlPort j lnk ev) := by
  obtain ⟨j, same, first⟩ := r.find_ringId_some i
  refine ⟨j, same, fun ans => ?_⟩
  have lookup : netErpsLookupIface (r.nodes i).ringId lnk.index ans ⟨r, 0, []⟩ =
      (do let found ← onRing j (netIfLookupByDev (r.dev j lnk))
          return if found then r.iface j lnk else none : Prog n Iface) ans ⟨r, 0, []⟩ := by
    unfold netErpsLookupIface
    rw [if_neg (not_two_le_index lnk)]
    simp only [bind_apply, Calls.read, first, port_of_index]
    rfl
  rw [ctlNumbered, bind_apply, lookup, bind_apply, ctlPort, bind_apply]
  -- the interface is found or not
  cases (onRing j (netIfLookupByDev (r.dev j lnk)) ans ⟨r, 0, []⟩).1 with
  | true => rfl
  | false => rfl

theorem ctl_of_parsed {cmd : Option CString} {ring port : Option CString} {k p : Nat}
    (ringId : erpsShParseU8 pl ring = k) (index : erpsShParseU8 pl port = p) :
    erpsShCtl pl ev [cmd, ring, port] = ctlNumbered (UInt8.ofNat k) (UInt8.ofNat p) (n := n) ev := by
  unfold erpsShCtl
  simp only [ringId, index]
  rw [if_neg (by omega), if_neg (by omega)]
  rfl

/-- A command is turned away without a call, or taken for one on a port by what its strings are
read as. -/
theorem erpsShCtl_cases (r : Rings n) (pl : Platform) (ev : ErpsEvent) (argv : List (Option CString)) :
    (∃ e < 0, r.RunsAs (erpsShCtl pl ev argv) (pure e)) ∨
    ∃ cmd ring port i, ∃ lnk : PortIdx, argv = [cmd, some ring, some port] ∧
      ReadsAs pl ring (r.nodes i).ringId.toNat ∧ ReadsAs pl port lnk.index.toNat ∧
      r.RunsAs (erpsShCtl pl ev argv) (r.ctlPort i lnk ev) := by
  rcases argv with _ | ⟨cmd, _ | ⟨ring, _ | ⟨port, _ | ⟨more, rest⟩⟩⟩⟩
  case cons.cons.cons.nil =>
    rcases parse_cases pl ring with refused | ⟨ring, k, rfl, readsRing, ringId, ringFits⟩
    · refine .inl ⟨_, refused, fun ans => ?_⟩
      unfold erpsShCtl
      dsimp only
      rw [if_pos refused]
    rcases parse_cases pl port with refused | ⟨port, p, rfl, readsPort, index, portFits⟩
    · refine .inl ⟨_, refused, fun ans => ?_⟩
      unfold erpsShCtl
      dsimp only
      rw [if_neg (by omega), if_pos refused]
    rw [ctl_of_parsed ringId index]
    have ringBack : (UInt8.ofNat k).toNat = k := UInt8.toNat_ofNat_of_lt' (Nat.lt_succ_of_le ringFits)
    have portBack : (UInt8.ofNat p).toNat = p := UInt8.toNat_ofNat_of_lt' (Nat.lt_succ_of_le portFits)
    by_cases there : ∃ i, (r.nodes i).ringId = UInt8.ofNat k
    · obtain ⟨i, same⟩ := there
      rcases index_or_beyond (UInt8.ofNat p) with ⟨lnk, one⟩ | beyond
      · obtain ⟨j, first, runs⟩ := ctlNumbered_found (r := r) ev (i := i) lnk
        rw [same, one] at runs
        refine .inr ⟨cmd, ring, port, j, lnk, rfl, ?_, ?_, runs⟩
        · rw [first, same, ringBack]
          exact readsRing
        · rw [one, portBack]
          exact readsPort
      · exact .inl ⟨-ENODEV, by decide, ctlNumbered_missed (.inr beyond)⟩
    · push Not at there
      exact .inl ⟨-ENODEV, by decide, ctlNumbered_missed (.inl there)⟩
  all_goals exact .inl ⟨-EINVAL, by decide, fun _ => rfl⟩

theorem ctlPort_calls {e : Int} {m : Prog n Int} {i : Fin n} {lnk : PortIdx}
    (runs : r.RunsAs m (r.ctlPort i lnk ev)) : ¬r.RunsAs m (pure e) := by
  intro turned
  -- the interface is looked up, and not found
  have same := (runs fun _ _ => 0).symm.trans (turned fun _ _ => 0)
  have calls : 1 = 0 := congrArg (fun run => run.2.calls) same
  exact absurd calls (by decide)

theorem onlyWritten_iff (argv : List (Option CString)) :
    r.OnlyWritten pl ev argv ↔ ¬r.Misled pl argv := by
  constructor
  · rintro only ⟨cmd, ring, port, i, lnk, rfl, readsRing, readsPort, more⟩
    obtain ⟨ringId, -⟩ := parse_of_reads readsRing
    obtain ⟨index, -⟩ := parse_of_reads readsPort
    rcases only with ⟨e, -, turned⟩ | ⟨_, _, _, _, _, same, ringWritten, portWritten, -⟩
    · obtain ⟨j, -, runs⟩ := ctlNumbered_found (r := r) ev (i := i) lnk
      rw [ctl_of_parsed ringId index, UInt8.ofNat_toNat, UInt8.ofNat_toNat] at turned
      exact ctlPort_calls runs turned
    · cases same
      exact more ⟨ringWritten.of_parse ringId, portWritten.of_parse index⟩
  · intro exact
    rcases erpsShCtl_cases r pl ev argv with
      turned | ⟨cmd, ring, port, i, lnk, rfl, ringId, index, runs⟩
    · exact .inl turned
    · by_cases both : Written ring (r.nodes i).ringId.toNat ∧ Written port lnk.index.toNat
      · exact .inr ⟨cmd, ring, port, i, lnk, rfl, both.1, both.2, runs⟩
      · exact absurd ⟨cmd, ring, port, i, lnk, rfl, ringId, index, both⟩ exact

end

end Rings

/-- A string is parsed exactly if and only if it is not misread, and whatever the rings are, a
command is for written numbers if and only if it is not misled. -/
theorem shell_numbers_iff (pl : Platform) :
    (∀ str, ParsesExactly pl str ↔ ¬Misread pl str) ∧
    ∀ (n : Nat) (r : Rings n) (ev : ErpsEvent) (argv : List (Option CString)),
      r.OnlyWritten pl ev argv ↔ ¬r.Misled pl argv :=
  ⟨fun _ => parsesExactly_iff, fun _ _ _ argv => Rings.onlyWritten_iff argv⟩

namespace Rings

/-- `unsigned long` on the boards of 32 bits. -/
def ilp32 : Platform := ⟨32, Nat.le_refl 32, false⟩

def emptyString : CString := ⟨[], by decide⟩

/-- The arguments of `net erps fs 1 ""`. -/
def fsNoPort : List (Option CString) :=
  [some ⟨[102, 115], by decide⟩, some ⟨[49], by decide⟩, some emptyString]

/-- The two rings after start-up. -/
def sampleStarted : Rings 2 := (erpsInit 10000 fun _ => ⟨true, true⟩).final allSucceed sample

/-- No port is named, and port 0 is switched. -/
theorem empty_port_switched : ¬ParsesExactly ilp32 emptyString ∧
    ¬sampleStarted.OnlyWritten ilp32 .admForcedSwitch fsNoPort ∧
    let t := (Subcmd.fs.handler ilp32 fsNoPort).final allSucceed sampleStarted
    (t.nodes 0).state = .forcedSwitch ∧ (t.nodes 0).ports.port0.blocked = true := by
  refine ⟨fun exact => ?_, fun only => ?_, by decide, by decide⟩
  · exact parsesExactly_iff.mp exact (.inl rfl)
  · have digits : ∀ c ∈ [49], isdigit c := by
      intro c member
      rw [List.mem_singleton.mp member]
      rfl
    have one : ReadsAs ilp32 ⟨[49], by decide⟩ 1 :=
      reads_of_written ⟨List.cons_ne_nil _ _, digits, rfl⟩ (by decide)
    have misled : sampleStarted.Misled ilp32 fsNoPort :=
      ⟨_, _, _, 0, .port0, rfl, one, .inl ⟨rfl, rfl⟩, fun both => both.2.1 rfl⟩
    exact (onlyWritten_iff _).mp only misled

end Rings

end Erps
