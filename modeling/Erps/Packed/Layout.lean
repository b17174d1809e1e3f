import Mathlib.Logic.Equiv.Defs

/-!
# Packed layouts

The layout of a structure without padding: each value occupies `size` octets, and each
way to fill them is a value. Layouts are put together from octets, arrays of octets and
numbers in network order, one member after the other. `read` takes a value off the front
of a list of octets and succeeds exactly on lists that are long enough.
-/
namespace Packed

structure Layout (α : Type) where
  size : Nat
  bytes : α → List UInt8
  read : List UInt8 → Option (α × List UInt8)
  length_bytes : ∀ a, (bytes a).length = size
  read_iff : ∀ bs a rest, read bs = some (a, rest) ↔ bs = bytes a ++ rest
  reads : ∀ bs, size ≤ bs.length → (read bs).isSome = true

namespace Layout

variable {α β : Type}

/-- What was written is read back. -/
theorem read_bytes (f : Layout α) (a : α) (rest : List UInt8) :
    f.read (f.bytes a ++ rest) = some (a, rest) :=
  (f.read_iff _ a rest).mpr rfl

theorem read_isSome_iff (f : Layout α) (bs : List UInt8) :
    (f.read bs).isSome = true ↔ f.size ≤ bs.length := by
  constructor
  · intro found
    obtain ⟨⟨a, rest⟩, read⟩ := Option.isSome_iff_exists.mp found
    rw [(f.read_iff bs a rest).mp read, List.length_append, f.length_bytes]
    exact Nat.le_add_right _ _
  · exact f.reads bs

theorem read_eq_none_iff (f : Layout α) (bs : List UInt8) :
    f.read bs = none ↔ bs.length < f.size := by
  rw [← Nat.not_le, ← f.read_isSome_iff]
  cases f.read bs <;> simp

def octet : Layout UInt8 where
  size := 1
  bytes b := [b]
  read
    | [] => none
    | b :: rest => some (b, rest)
  length_bytes _ := rfl
  read_iff bs b rest := by
    cases bs <;> simp
  reads bs long := by
    cases bs with
    | nil => simp at long
    | cons b rest => rfl

/-- Two octets, the more significant one first. -/
def be16 : Layout UInt16 where
  size := 2
  bytes x := [UInt8.ofNat (x.toNat / 256), UInt8.ofNat x.toNat]
  read
    | high :: low :: rest => some (UInt16.ofNat (high.toNat * 256 + low.toNat), rest)
    | _ => none
  length_bytes _ := rfl
  read_iff bs x rest := by
    have small := x.toNat_lt
    rcases bs with _ | ⟨high, _ | ⟨low, bs⟩⟩
    · simp
    · simp
    · have highSmall := high.toNat_lt
      have lowSmall := low.toNat_lt
      simp only [Option.some.injEq, Prod.mk.injEq, List.cons_append, List.nil_append,
        List.cons.injEq, ← UInt16.toNat_inj, ← UInt8.toNat_inj, UInt16.toNat_ofNat',
        UInt8.toNat_ofNat']
      constructor
      · rintro ⟨value, rfl⟩
        exact ⟨by omega, by omega, rfl⟩
      · rintro ⟨top, bottom, rfl⟩
        exact ⟨by omega, rfl⟩
  reads bs long := by
    rcases bs with _ | ⟨high, _ | ⟨low, bs⟩⟩
    · simp at long
    · simp at long
    · rfl

/-- An array of octets. -/
def octets (n : Nat) : Layout (Vector UInt8 n) where
  size := n
  bytes v := v.toList
  read bs :=
    if long : n ≤ bs.length then some (⟨(bs.take n).toArray, by simp [long]⟩, bs.drop n) else none
  length_bytes v := v.length_toList
  read_iff bs v rest := by
    have length : v.toList.length = n := v.length_toList
    constructor
    · intro read
      split at read
      · cases read
        exact (List.take_append_drop n bs).symm
      · cases read
    · rintro rfl
      have long : n ≤ (v.toList ++ rest).length := by simp [length]
      have front : (v.toList ++ rest).take n = v.toList := List.take_left' length
      have back : v.toList.toArray = v.toArray := Array.toArray_toList
      simp [front, back]
  reads bs long := by simp [long]

/-- One member after the other. -/
def andThen (f : Layout α) (g : Layout β) : Layout (α × β) where
  size := f.size + g.size
  bytes p := f.bytes p.1 ++ g.bytes p.2
  read bs := do
    let (a, bs) ← f.read bs
    let (b, bs) ← g.read bs
    return ((a, b), bs)
  length_bytes p := by rw [List.length_append, f.length_bytes, g.length_bytes]
  read_iff bs p rest := by
    constructor
    · intro read
      obtain ⟨⟨a, mid⟩, first, read⟩ := Option.bind_eq_some_iff.mp read
      obtain ⟨⟨b, last⟩, second, read⟩ := Option.bind_eq_some_iff.mp read
      cases read
      rw [(f.read_iff _ _ _).mp first, (g.read_iff _ _ _).mp second, List.append_assoc]
    · rintro rfl
      rw [List.append_assoc, f.read_bytes]
      simp [g.read_bytes]
  reads bs long := by
    -- long enough for both is long enough for the first, and leaves enough
    have longF : f.size ≤ bs.length := by omega
    obtain ⟨⟨a, mid⟩, first⟩ := Option.isSome_iff_exists.mp (f.reads bs longF)
    have split : bs.length = f.size + mid.length := by
      rw [(f.read_iff _ _ _).mp first, List.length_append, f.length_bytes]
    obtain ⟨⟨b, last⟩, second⟩ := Option.isSome_iff_exists.mp (g.reads mid (by omega))
    simp [first, second]

/-- A structure as its members in order. -/
def via (f : Layout α) (e : β ≃ α) : Layout β where
  size := f.size
  bytes b := f.bytes (e b)
  read bs := (f.read bs).map fun p => (e.symm p.1, p.2)
  length_bytes b := f.length_bytes (e b)
  read_iff bs b rest := by
    rw [← f.read_iff]
    constructor
    · intro read
      obtain ⟨⟨a, mid⟩, first, read⟩ := Option.map_eq_some_iff.mp read
      cases read
      rw [e.apply_symm_apply, first]
    · intro read
      simp [read]
  reads bs long := by
    rw [Option.isSome_map]
    exact f.reads bs long

end Layout
end Packed
