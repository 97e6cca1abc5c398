import VpnPack.Base.Lock
import VpnPack.Server.Updater

/-! The call that concurrent checks share: singleflight keeps one at a time, and whoever waits for
a call waits for one that is over or that somebody runs. -/
namespace VpnPack.Updater
open Base
open Function (update update_self update_of_ne)

def Phase.runs : Phase → Bool
  | .fetching => true
  | .releasing _ => true
  | _ => false

def Awaited (w : World) (call : Nat) : Prop := call < w.vals.length ∨ call = w.vals.length ∧ w.inFlight = true

section
variable (fetched : Option UpdateInfo) (p : Phase) (w : World)

theorem checkTurn : Turn w.inFlight p.runs (p.check fetched w).1.inFlight (p.check fetched w).2.runs := by
  cases p with
  | joining =>
    simp only [Phase.check]
    split
    · exact .kept rfl rfl
    · rename_i free
      exact .taken (Bool.eq_false_iff.mpr free) rfl rfl
  | releasing val => exact .released rfl rfl rfl
  | entering | waiting call =>
    simp only [Phase.check]
    split <;> exact .kept rfl rfl
  | fetching | missed | returned info => exact .kept rfl rfl

theorem awaitedOn {call : Nat} (awaited : Awaited w call) : Awaited (p.check fetched w).1 call := by
  cases p with
  | joining =>
    simp only [Phase.check]
    split
    · exact awaited
    · exact awaited.imp id (fun last => ⟨last.1,rfl⟩)
  | releasing val =>
    refine .inl ?_
    simp only [Phase.check,List.length_append,List.length_singleton]
    rcases awaited with ended | last <;> omega
  | entering | waiting _ =>
    simp only [Phase.check]
    split <;> exact awaited
  | fetching | missed | returned info => exact awaited

theorem awaitedNext {call : Nat} (next : (p.check fetched w).2 = .waiting call) : p = .waiting call ∨ Awaited (p.check fetched w).1 call := by
  cases p with
  | waiting other =>
    simp only [Phase.check] at next
    split at next
    · exact .inl next
    · contradiction
    · contradiction
  | joining =>
    simp only [Phase.check] at next ⊢
    split at next
    · rename_i busy
      cases next
      rw [if_pos busy]
      exact .inr (.inr ⟨rfl,busy⟩)
    · contradiction
  | releasing val =>
    cases next
    exact .inr (.inl (by simp [Phase.check]))
  | entering =>
    simp only [Phase.check] at next
    split at next <;> contradiction
  | fetching | missed | returned info => contradiction

theorem runningMoves (running : p.runs = true) : (p.check fetched w).2 ≠ p := by
  cases p with
  | fetching | releasing val => exact Phase.noConfusion
  | _ => contradiction

end

section
variable {ι : Type} [DecidableEq ι]

def System.runs (s : System ι) (i : ι) : Bool := (s.phase i).runs

structure Shared (s : System ι) : Prop where
  owned : ∃ owner, Owned s.world.inFlight s.runs owner
  awaited : ∀ i call, s.phase i = .waiting call → Awaited s.world call

theorem checkedPhase (s : System ι) (i : ι) (fetched : Option UpdateInfo) :
    (step (.advance i fetched) s).phase i = ((s.phase i).check fetched s.world).2 := update_self ..

theorem stepShared {s : System ι} (m : Move ι) (shared : Shared s) : Shared (step m s) := by
  cases m with
  | pass d => exact ⟨shared.owned,shared.awaited⟩
  | advance i fetched =>
    obtain ⟨owner,owned⟩ := shared.owned
    have turns : Turns i s.world.inFlight s.runs ((s.phase i).check fetched s.world).1.inFlight (step (.advance i fetched) s).runs := by
      refine ⟨fun j other => congrArg Phase.runs (update_of_ne other _ _),?_⟩
      rw [System.runs,System.runs,checkedPhase]
      exact checkTurn fetched (s.phase i) s.world
    refine ⟨ownedTurn turns owned,fun j call waits => ?_⟩
    by_cases own : j = i
    · rw [own,checkedPhase] at waits
      rcases awaitedNext fetched _ _ waits with still | awaited
      · exact awaitedOn fetched _ _ (shared.awaited i call still)
      · exact awaited
    · exact awaitedOn fetched _ _ (shared.awaited j call ((update_of_ne own _ _).symm.trans waits))

theorem runShared (run : List (Move ι)) {s : System ι} (shared : Shared s) : Shared (run.foldl (fun s m => step m s) s) := by
  induction run generalizing s with
  | nil => exact shared
  | cons m rest ih => exact ih (stepShared m shared)

theorem someoneMoves {s : System ι} (shared : Shared s) (i : ι) :
    (∃ info, s.phase i = .returned info) ∨ ∃ j, (j = i ∨ s.runs j = true) ∧ ∀ fetched, (step (.advance j fetched) s).phase j ≠ s.phase j := by
  cases here : s.phase i with
  | returned info => exact .inl ⟨info,rfl⟩
  | waiting call =>
    refine .inr ?_
    rcases shared.awaited i call here with ended | ⟨_,busy⟩
    · refine ⟨i,.inl rfl,fun fetched => ?_⟩
      rw [checkedPhase,here]
      simp only [Phase.check,List.getElem?_eq_getElem ended]
      split <;> first | contradiction | exact Phase.noConfusion
    · obtain ⟨owner,flag,each⟩ := shared.owned
      obtain ⟨j,rfl⟩ := Option.isSome_iff_exists.mp (flag.symm.trans busy)
      have running := (each j).mpr rfl
      exact ⟨j,.inr running,fun fetched => by rw [checkedPhase]; exact runningMoves fetched _ _ running⟩
  | entering | joining =>
    refine .inr ⟨i,.inl rfl,fun fetched => ?_⟩
    rw [checkedPhase,here]
    simp only [Phase.check]
    split <;> exact Phase.noConfusion
  | fetching | releasing _ | missed => exact .inr ⟨i,.inl rfl,fun fetched => by rw [checkedPhase,here]; exact Phase.noConfusion⟩

end
end VpnPack.Updater
