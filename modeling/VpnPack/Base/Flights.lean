import Mathlib.Data.List.Basic
import VpnPack.Base.Runs

/-! Calls in flight over a shared state. A call is at a phase; running the phase changes the
shared state and gives the phase the call is at next, if it is not over. -/
namespace VpnPack.Base
open List

structure Pool (σ φ : Type) where
  shared : σ
  flight : List φ

inductive Event (κ ε : Type) where
  | start (call : κ)
  | advance (i : Nat)
  | outside (e : ε)
  deriving DecidableEq, Repr

section
variable {σ φ κ ε : Type} (first : κ → φ) (execute : φ → σ → σ × Option φ) (change : ε → σ → σ)

def settle (i : Nat) (flight : List φ) : Option φ → List φ
  | none => flight.eraseIdx i
  | some q => flight.set i q

def happen : Event κ ε → Pool σ φ → Pool σ φ
  | .start call,s => {s with flight := s.flight ++ [first call]}
  | .advance i,s =>
    match s.flight[i]? with
    | none => s
    | some p => ⟨(execute p s.shared).1,settle i s.flight (execute p s.shared).2⟩
  | .outside e,s => {s with shared := change e s.shared}

variable {first execute change} {s : Pool σ φ} {i : Nat} {p q : φ} {flight : List φ} {next : Option φ}

theorem advanced (here : s.flight[i]? = some p) :
    happen first execute change (.advance i) s = ⟨(execute p s.shared).1,settle i s.flight (execute p s.shared).2⟩ := by
  simp only [happen,here]

theorem advancedNothing (here : s.flight[i]? = none) : happen first execute change (.advance i) s = s := by
  simp only [happen,here]

theorem settleOthers (here : flight[i]? = some p) (member : q ∈ flight) : q = p ∨ q ∈ settle i flight next := by
  obtain ⟨j,found⟩ := getElem?_of_mem member
  by_cases same : j = i
  · subst same
    exact .inl (Option.some.inj (found.symm.trans here))
  · refine .inr ?_
    cases next with
    | none => exact mem_eraseIdx_iff_getElem?.mpr ⟨j,same,found⟩
    | some r => exact mem_of_getElem? ((getElem?_set_ne (Ne.symm same)).trans found)

theorem settleNext (here : flight[i]? = some p) : q ∈ settle i flight (some q) :=
  mem_set (List.getElem?_eq_some_iff.mp here).1 q

end

def watched {σ α γ : Type} (step : α → σ → σ) (note : α → σ → γ → γ) (a : α) (w : σ × γ) : σ × γ := (step a w.1,note a w.1 w.2)

end VpnPack.Base
