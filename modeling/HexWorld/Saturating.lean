/-!
# Counts that stay at their limit

## Contents
- `Saturating.next64`, `Saturating.next32`: one more, or the greatest value again.
- `toNat_next64`, `toNat_next32`: their values.
-/

namespace HexWorld.Saturating

/-- One more, in 64 bits. -/
def next64 (n : UInt64) : UInt64 :=
  if n = UInt64.ofNat (UInt64.size - 1) then n else n + 1

/-- One more, in 32 bits. -/
def next32 (n : UInt32) : UInt32 :=
  if n = UInt32.ofNat (UInt32.size - 1) then n else n + 1

theorem toNat_next64 (n : UInt64) : (next64 n).toNat = min (n.toNat + 1) (UInt64.size - 1) := by
  unfold next64
  have below : n.toNat < UInt64.size := n.toNat_lt
  have top : (UInt64.ofNat (UInt64.size - 1)).toNat = UInt64.size - 1 := rfl
  split
  next greatest =>
    rw [greatest, top]
    rfl
  next other =>
    have apart : n.toNat ≠ UInt64.size - 1 := fun eq => other (UInt64.toNat_inj.mp eq)
    have sum : (n + 1).toNat = n.toNat + 1 := by
      rw [UInt64.toNat_add]
      exact Nat.mod_eq_of_lt (by show n.toNat + 1 < UInt64.size; omega)
    omega

theorem toNat_next32 (n : UInt32) : (next32 n).toNat = min (n.toNat + 1) (UInt32.size - 1) := by
  unfold next32
  have below : n.toNat < UInt32.size := n.toNat_lt
  have top : (UInt32.ofNat (UInt32.size - 1)).toNat = UInt32.size - 1 := rfl
  split
  next greatest =>
    rw [greatest, top]
    rfl
  next other =>
    have apart : n.toNat ≠ UInt32.size - 1 := fun eq => other (UInt32.toNat_inj.mp eq)
    have sum : (n + 1).toNat = n.toNat + 1 := by
      rw [UInt32.toNat_add]
      exact Nat.mod_eq_of_lt (by show n.toNat + 1 < UInt32.size; omega)
    omega

end HexWorld.Saturating
