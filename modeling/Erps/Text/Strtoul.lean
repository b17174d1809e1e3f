import Mathlib.Algebra.Group.Nat.Defs
import Mathlib.Data.List.TakeWhile

/-!
# Numbers in C strings

`strtoul` in base ten, and the strings it converts: white space, a sign and decimal digits, the
first two of which may be missing. A minus negates the value in the unsigned type, and is no
range error. Where there are no digits nothing is converted, not even the white space.
-/
namespace CText

/-- A string up to its terminator. -/
structure CString where
  chars : List UInt8
  noNul : 0 ∉ chars
  deriving DecidableEq

/-- What the standard leaves open: the width of `unsigned long`, and whether `errno` tells that
nothing has been converted. -/
structure Platform where
  ulongBits : Nat
  wide : 32 ≤ ulongBits
  tellsNothing : Bool

def Platform.ulongMax (pl : Platform) : Nat := 2 ^ pl.ulongBits - 1

/-- `isspace` in the C locale. -/
def isspace (c : UInt8) : Bool := c = 32 ∨ 9 ≤ c ∧ c ≤ 13

def isdigit (c : UInt8) : Bool := 48 ≤ c ∧ c ≤ 57

def decimal (digits : List UInt8) : Nat := digits.foldl (fun acc c => 10 * acc + (c.toNat - 48)) 0

inductive Sign where
  | unsigned | plus | minus
  deriving DecidableEq, Repr

def Sign.chars : Sign → List UInt8
  | unsigned => []
  | plus => [43]
  | minus => [45]

inductive Failure where
  | range | noConversion
  deriving DecidableEq, Repr

structure Conversion where
  value : Nat
  -- what `*endp` points to
  rest : List UInt8
  -- what `errno` is set to
  failure : Option Failure
  deriving DecidableEq, Repr

namespace Platform

variable (pl : Platform)

/-- The value of digits after a sign, which wraps where it is negated. -/
def signed (sign : Sign) (value : Nat) : Nat :=
  if sign = .minus then (2 ^ pl.ulongBits - value) % 2 ^ pl.ulongBits else value

def convert (sign : Sign) (value : Nat) (rest : List UInt8) : Conversion :=
  if pl.ulongMax < value then
    { value := pl.ulongMax, rest, failure := some .range }
  else
    { value := pl.signed sign value, rest, failure := none }

def convertNothing (str : List UInt8) : Conversion where
  value := 0
  rest := str
  failure := if pl.tellsNothing then some .noConversion else none

end Platform

def takeSign : List UInt8 → Sign × List UInt8
  | [] => (.unsigned, [])
  | c :: cs => if c = 43 then (.plus, cs) else if c = 45 then (.minus, cs) else (.unsigned, c :: cs)

def strtoul (pl : Platform) (str : List UInt8) : Conversion :=
  let signed := takeSign (str.dropWhile isspace)
  let digits := signed.2.takeWhile isdigit
  -- what has been passed on the way to no digits is given back
  if digits = [] then
    pl.convertNothing str
  else
    pl.convert signed.1 (decimal digits) (signed.2.dropWhile isdigit)

/-- What is converted. -/
structure Numeral where
  white : List UInt8
  sign : Sign
  digits : List UInt8
  whiteSpace : ∀ c ∈ white, isspace c
  someDigit : digits ≠ []
  allDigits : ∀ c ∈ digits, isdigit c

namespace Numeral

def chars (num : Numeral) : List UInt8 := num.white ++ (num.sign.chars ++ num.digits)

/-- Digits alone. -/
def Plain (num : Numeral) : Prop := num.white = [] ∧ num.sign = .unsigned

def value (num : Numeral) : Nat := decimal num.digits

end Numeral

/-! ### Signs -/

theorem takeSign_chars (s : List UInt8) : (takeSign s).1.chars ++ (takeSign s).2 = s := by
  cases s with
  | nil => rfl
  | cons c cs =>
    simp only [takeSign]
    split
    · next plus =>
      subst plus
      rfl
    · split
      · next minus =>
        subst minus
        rfl
      · rfl

/-- A digit is neither a sign nor white space. -/
theorem isdigit_alone {c : UInt8} (digit : isdigit c) : c ≠ 43 ∧ c ≠ 45 ∧ isspace c = false := by
  simp only [isdigit, decide_eq_true_eq, UInt8.le_iff_toNat_le] at digit
  have low : 48 ≤ c.toNat := digit.1
  refine ⟨?_, ?_, ?_⟩
  · rintro rfl
    exact absurd low (by decide)
  · rintro rfl
    exact absurd low (by decide)
  · simp only [isspace, decide_eq_false_iff_not, UInt8.le_iff_toNat_le]
    rintro (rfl | ⟨-, high⟩)
    · exact absurd low (by decide)
    · have : c.toNat ≤ 13 := high
      omega

variable {num : Numeral} {rest : List UInt8}

theorem takeSign_digits (sign : Sign) {digits : List UInt8} (someDigit : digits ≠ [])
    (allDigits : ∀ c ∈ digits, isdigit c) :
    takeSign (sign.chars ++ (digits ++ rest)) = (sign, digits ++ rest) := by
  cases sign with
  | plus => rfl
  | minus => rfl
  | unsigned =>
    cases digits with
    | nil => exact absurd rfl someDigit
    | cons c cs =>
      obtain ⟨notPlus, notMinus, -⟩ := isdigit_alone (allDigits c List.mem_cons_self)
      change (if c = 43 then _ else if c = 45 then _ else _) = _
      rw [if_neg notPlus, if_neg notMinus]
      rfl

/-! ### What is converted, and how -/

/-- White space ends where the sign or the digits begin. -/
theorem dropWhile_white (num : Numeral) : (num.chars ++ rest).dropWhile isspace =
    num.sign.chars ++ (num.digits ++ rest) := by
  rw [Numeral.chars, List.append_assoc, List.append_assoc,
    List.dropWhile_append_of_pos num.whiteSpace]
  cases num.sign with
  | plus => rfl
  | minus => rfl
  | unsigned =>
    cases found : num.digits with
    | nil => exact absurd found num.someDigit
    | cons c cs =>
      have digit := num.allDigits c (found ▸ List.mem_cons_self)
      exact List.dropWhile_cons_of_neg (by simp [(isdigit_alone digit).2.2])

theorem strtoul_numeral (pl : Platform) (num : Numeral) (stops : rest.takeWhile isdigit = []) :
    strtoul pl (num.chars ++ rest) = pl.convert num.sign num.value rest := by
  have digits : (num.digits ++ rest).takeWhile isdigit = num.digits := by
    rw [List.takeWhile_append_of_pos num.allDigits, stops, List.append_nil]
  have after : (num.digits ++ rest).dropWhile isdigit = rest := by
    have whole := List.takeWhile_append_dropWhile (p := isdigit) (l := num.digits ++ rest)
    rw [digits] at whole
    exact List.append_cancel_left whole
  unfold strtoul
  rw [dropWhile_white, takeSign_digits num.sign num.someDigit num.allDigits]
  dsimp only
  rw [digits, after, if_neg num.someDigit]
  rfl

/-- Either a numeral is found at the beginning, or nothing is converted. -/
theorem strtoul_cases (pl : Platform) (str : List UInt8) :
    (∃ (num : Numeral) (rest : List UInt8), str = num.chars ++ rest ∧
      strtoul pl str = pl.convert num.sign num.value rest) ∨
    strtoul pl str = pl.convertNothing str := by
  by_cases none : (takeSign (str.dropWhile isspace)).2.takeWhile isdigit = []
  · right
    unfold strtoul
    rw [if_pos none]
  · left
    have allDigits : ∀ c ∈ (takeSign (str.dropWhile isspace)).2.takeWhile isdigit, isdigit c :=
      fun c member => List.mem_takeWhile_imp member
    have whiteSpace : ∀ c ∈ str.takeWhile isspace, isspace c :=
      fun c member => List.mem_takeWhile_imp member
    refine ⟨⟨_, (takeSign (str.dropWhile isspace)).1, _, whiteSpace, none, allDigits⟩,
      (takeSign (str.dropWhile isspace)).2.dropWhile isdigit, ?_, ?_⟩
    · rw [Numeral.chars, List.append_assoc, List.append_assoc, List.takeWhile_append_dropWhile,
        takeSign_chars, List.takeWhile_append_dropWhile]
    · unfold strtoul
      rw [if_neg none]
      rfl

end CText
