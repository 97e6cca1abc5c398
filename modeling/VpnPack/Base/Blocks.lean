import Mathlib.Data.Nat.Basic
import Mathlib.Algebra.Order.Group.Nat

/-! Aligned blocks of numbers: the numbers that agree with a base from some bit on.
Two blocks meet exactly if the base of one lies in the other. -/
namespace VpnPack.Base

def Block (size base x : Nat) : Prop := x / 2^size = base / 2^size

theorem blockInterval {size base : Nat} (aligned : 2^size ∣ base) (x : Nat) : Block size base x ↔ base ≤ x ∧ x < base+2^size := by
  obtain ⟨k,rfl⟩ := aligned
  have positive : 0 < 2^size := Nat.two_pow_pos size
  rw [Block,Nat.mul_div_cancel_left k positive,Nat.div_eq_iff positive,Nat.mul_comm k]
  omega

theorem blockCoarser {i j base x : Nat} (larger : i ≤ j) (same : Block i base x) : Block j base x := by
  have split (n : Nat) : n / 2^j = n / 2^i / 2^(j-i) := by
    rw [Nat.div_div_eq_div_mul,← Nat.pow_add,Nat.add_sub_cancel' larger]
  rw [Block,split x,split base,same]

theorem blocksMeet {i j a b : Nat} : (∃ x, Block i a x ∧ Block j b x) ↔ Block i a b ∨ Block j b a := by
  constructor
  · rintro ⟨x,first,second⟩
    rcases Nat.le_total i j with larger | larger
    · exact .inr ((blockCoarser larger first).symm.trans second)
    · exact .inl ((blockCoarser larger second).symm.trans first)
  · rintro (inside | inside)
    · exact ⟨b,inside,rfl⟩
    · exact ⟨a,rfl,inside⟩

theorem blockShift {size top base x : Nat} (aligned : 2^size ∣ top) : Block size (top+base) (top+x) ↔ Block size base x := by
  obtain ⟨k,rfl⟩ := aligned
  have positive : 0 < 2^size := Nat.two_pow_pos size
  rw [Block,Block,Nat.mul_add_div positive,Nat.mul_add_div positive]
  exact Nat.add_left_cancel_iff

end VpnPack.Base
