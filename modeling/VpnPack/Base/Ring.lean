import Mathlib.Data.List.Basic

/-! A ring of slots with a write position. The position moves up by one and wraps; reading
goes down from it, so the newest value comes first and the slot about to be overwritten
holds the oldest. -/
namespace VpnPack.Base.Ring
open List

variable {α : Type}

def advance (cap head : Nat) : Nat := (head+1) % cap
def back (cap head i : Nat) : Nat := (head+cap-1-i) % cap

variable {cap head i : Nat} {slots : List α}

theorem advanceWrap (inside : head < cap) : advance cap head = if head+1 < cap then head+1 else 0 := by
  rw [advance]
  split
  · exact Nat.mod_eq_of_lt (by assumption)
  · rw [show head+1 = cap by omega,Nat.mod_self]

theorem backWrap (inside : head < cap) (short : i < cap) : back cap head i = if i < head then head-1-i else head+cap-1-i := by
  rw [back]
  split
  · rw [show head+cap-1-i = head-1-i+cap by omega,Nat.add_mod_right,Nat.mod_eq_of_lt (by omega)]
  · exact Nat.mod_eq_of_lt (by omega)

theorem advanceInside (head : Nat) (filled : 0 < cap) : advance cap head < cap := Nat.mod_lt _ filled

theorem backInside (head i : Nat) (filled : 0 < cap) : back cap head i < cap := Nat.mod_lt _ filled

theorem backFirst (inside : head < cap) : back cap (advance cap head) 0 = head := by
  rw [backWrap (advanceInside head (by omega)) (by omega),advanceWrap inside]
  split <;> split <;> omega

theorem backNext (inside : head < cap) (short : i+1 < cap) : back cap (advance cap head) (i+1) = back cap head i := by
  rw [backWrap (advanceInside head (by omega)) short,backWrap inside (by omega),advanceWrap inside]
  split <;> split <;> split <;> omega

theorem backOther (inside : head < cap) (short : i+1 < cap) : back cap head i ≠ head := by
  rw [backWrap inside (by omega)]
  split <;> omega

structure Holds (slots : List α) (head : Nat) (written : List α) : Prop where
  inside : head < slots.length
  newest : ∀ i, i < written.length → i < slots.length → slots[back slots.length head i]? = written[i]?

theorem holdsNothing (filled : 0 < slots.length) : Holds slots 0 [] :=
  ⟨filled,by simp⟩

theorem holdsWrite {written : List α} (x : α) (held : Holds slots head written) :
    Holds (slots.set head x) (advance slots.length head) (x :: written) := by
  have inside := held.inside
  refine ⟨by rw [length_set]; exact advanceInside head (by omega),?_⟩
  intro i known short
  rw [length_set] at short ⊢
  cases i with
  | zero =>
    rw [backFirst inside,getElem?_set_self inside]
    rfl
  | succ i =>
    rw [backNext inside short,getElem?_set_ne (Ne.symm (backOther inside short)),getElem?_cons_succ]
    exact held.newest i (by simpa using known) (by omega)

theorem mapMRange {β : Type} {f : Nat → Option β} {n : Nat} {values : List β} (long : n ≤ values.length)
    (each : ∀ i, i < n → f i = values[i]?) : (List.range n).mapM f = some (values.take n) := by
  induction n with
  | zero => rfl
  | succ n ih =>
    have front := ih (by omega) (fun i small => each i (by omega))
    have last : f n = some values[n] := by rw [each n (by omega),getElem?_eq_getElem (by omega)]
    rw [range_succ,mapM_append,front,take_succ_eq_append_getElem (by omega)]
    simp [mapM_cons,last]

theorem Holds.read {written : List α} {f : Nat → Option α} (held : Holds slots head written)
    (looks : ∀ i, i < slots.length → f i = slots[back slots.length head i]?) :
    (List.range (min written.length slots.length)).mapM f = some (written.take slots.length) := by
  have each : ∀ i, i < min written.length slots.length → f i = written[i]? := by
    intro i small
    rw [looks i (by omega)]
    exact held.newest i (by omega) (by omega)
  have same : written.take (min written.length slots.length) = written.take slots.length := take_eq_take_iff.mpr (by omega)
  rw [mapMRange (Nat.min_le_left _ _) each,same]

end VpnPack.Base.Ring
