import Mathlib.Logic.Basic

/-! A flag used as a lock. A step is the turn of one party, which leaves the flag alone, takes it
where it is free, or gives back what it holds; so the flag always stands for one owner or none. -/
namespace VpnPack.Base

section
variable {ι : Type} {x : ι} {flag flag' : Bool} {holds holds' : ι → Bool} {owner : Option ι}

def Owned (flag : Bool) (holds : ι → Bool) (owner : Option ι) : Prop := flag = owner.isSome ∧ ∀ i, holds i = true ↔ owner = some i

inductive Turn (flag held flag' held' : Bool) : Prop where
  | kept (same : held' = held) (still : flag' = flag)
  | taken (free : flag = false) (inside : held' = true) (set : flag' = true)
  | released (held : held = true) (outside : held' = false) (cleared : flag' = false)

def Turns (x : ι) (flag : Bool) (holds : ι → Bool) (flag' : Bool) (holds' : ι → Bool) : Prop :=
  (∀ i, i ≠ x → holds' i = holds i) ∧ Turn flag (holds x) flag' (holds' x)

theorem unowned (idle : ∀ i, holds i = false) : Owned false holds none :=
  ⟨rfl,fun i => iff_of_false (by rw [idle i]; exact Bool.false_ne_true) (Option.some_ne_none i).symm⟩

theorem ownedTurn (turns : Turns x flag holds flag' holds') (owned : Owned flag holds owner) : ∃ owner, Owned flag' holds' owner := by
  obtain ⟨others,turn⟩ := turns
  obtain ⟨known,each⟩ := owned
  have all {o : Option ι} (own : holds' x = true ↔ o = some x) (rest : ∀ i, i ≠ x → (holds i = true ↔ o = some i)) (i : ι) :
      holds' i = true ↔ o = some i := by
    by_cases mine : i = x
    · rw [mine]
      exact own
    · rw [others i mine]
      exact rest i mine
  cases turn with
  | kept same still => exact ⟨owner,still.trans known,all (by rw [same]; exact each x) (fun i _ => each i)⟩
  | taken free inside set =>
    refine ⟨some x,set,all (iff_of_true inside rfl) (fun i other => ?_)⟩
    cases owner with
    | none => exact (each i).trans (iff_of_false (Option.some_ne_none i).symm (fun same => other (Option.some.inj same).symm))
    | some _ =>
      rw [free] at known
      contradiction
  | released held outside cleared =>
    refine ⟨none,cleared,all (iff_of_false (by rw [outside]; exact Bool.false_ne_true) (Option.some_ne_none x).symm) (fun i other => ?_)⟩
    rw [each i,(each x).mp held]
    exact iff_of_false (fun same => other (Option.some.inj same).symm) (Option.some_ne_none i).symm

end
end VpnPack.Base
