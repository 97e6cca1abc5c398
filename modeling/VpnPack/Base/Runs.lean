import VpnPack.Base.Proc

/-! Runs as lists of operations on a state. An invariant that the allowed steps keep turns
a condition on single steps into one on whole runs, and a simulation of single calls
into one of whole runs with the same answers. -/
namespace VpnPack.Base

section
variable {σ α : Type}

def Along (step : α → σ → σ) (ok : α → σ → Prop) : List α → σ → Prop
  | [],_ => True
  | a :: rest,s => ok a s ∧ Along step ok rest (step a s)

instance Along.decidable {step : α → σ → σ} {ok : α → σ → Prop} [∀ a s, Decidable (ok a s)] :
    ∀ (run : List α) (s : σ), Decidable (Along step ok run s)
  | [],_ => inferInstanceAs (Decidable True)
  | a :: rest,s =>
    have : Decidable (Along step ok rest (step a s)) := Along.decidable rest (step a s)
    inferInstanceAs (Decidable (ok a s ∧ Along step ok rest (step a s)))

variable {step : α → σ → σ} {good allowed : α → σ → Prop} {run : List α} {s : σ}

theorem alongIff (inv : σ → Prop) (known : ∀ a ∈ run, ∀ s, inv s → (good a s ↔ allowed a s))
    (keeps : ∀ a ∈ run, ∀ s, inv s → allowed a s → inv (step a s)) (start : inv s) : Along step good run s ↔ Along step allowed run s := by
  induction run generalizing s with
  | nil => exact Iff.rfl
  | cons a rest ih =>
    have later := @ih (step a s) (fun b member => known b (List.mem_cons_of_mem a member))
      (fun b member => keeps b (List.mem_cons_of_mem a member))
    have here := known a List.mem_cons_self s start
    have next (allows : allowed a s) : inv (step a s) := keeps a List.mem_cons_self s start allows
    constructor
    · intro along
      have allows := here.mp along.1
      exact ⟨allows,(later (next allows)).mp along.2⟩
    · intro along
      exact ⟨here.mpr along.1,(later (next along.1)).mpr along.2⟩

theorem alongAnd {p q : α → σ → Prop} : Along step (fun a s => p a s ∧ q a s) run s ↔ Along step p run s ∧ Along step q run s := by
  induction run generalizing s with
  | nil => exact ⟨fun _ => ⟨trivial,trivial⟩,fun _ => trivial⟩
  | cons a rest ih =>
    simp only [Along,ih]
    exact and_and_and_comm

theorem reachedTrans {t u : σ} (first : Reached step allowed s t) (second : Reached step allowed t u) : Reached step allowed s u := by
  induction second with
  | start => exact first
  | next a _ ok ih => exact .next a ih ok

theorem reachedAlong (along : Along step allowed run s) : Reached step allowed s (run.foldl (fun s a => step a s) s) := by
  induction run generalizing s with
  | nil => exact .start
  | cons a rest ih => exact reachedTrans (.next a .start along.1) (ih along.2)

def answered {β : Type} (call : α → σ → β × σ) : List α → σ → List β × σ
  | [],s => ([],s)
  | a :: rest,s =>
    let later := answered call rest (call a s).2
    ((call a s).1 :: later.1,later.2)

theorem answeredRefines {β τ : Type} {call : α → σ → β × σ} {model : α → τ → β × τ} {rel : σ → τ → Prop} {t : τ}
    (each : ∀ a s t, rel s t → (call a s).1 = (model a t).1 ∧ rel (call a s).2 (model a t).2) (start : rel s t) :
    (answered call run s).1 = (answered model run t).1 ∧ rel (answered call run s).2 (answered model run t).2 := by
  induction run generalizing s t with
  | nil => exact ⟨rfl,start⟩
  | cons a rest ih =>
    obtain ⟨here,next⟩ := each a s t start
    obtain ⟨later,last⟩ := ih next
    exact ⟨congrArg₂ List.cons here later,last⟩

end
end VpnPack.Base
