import VpnPack.Base.Lock
import VpnPack.Server.Watchers

/-! The flag restoring as a lock: start-up, the watcher, the refresh and the handlers each take
it with a compare-and-swap. What it stands for is an owner or none, and the goroutine
inside a guarded section is that owner. -/
namespace VpnPack.Health
open Base State
open Function (update update_self)

inductive Holder where
  | main
  | watcher
  | refresh
  | handler (i : Nat)

def Server.holds (s : Server) : Holder → Bool
  | .main => s.main.holds
  | .watcher => s.watcher.any WatcherPhase.holds
  | .refresh => s.refresh.any RefreshPhase.holds
  | .handler i => (s.handlers i).holds

def Passes (x : Holder) (s t : Server) : Prop := Turns x s.restoring s.holds t.restoring t.holds

variable {s : Server} {r : Reply}

theorem mainTurns (orderly : Orderly s) : Passes .main s (s.main.advance r s) := by
  obtain ⟨m,same⟩ := setupKeeps r s
  have none := orderly.before
  have bare := orderly.refresh
  constructor
  · intro h other
    cases here : s.main <;> simp only [MainPhase.advance,same] <;> (try split_ifs) <;> cases h <;>
      first | rfl | contradiction | (simp only [Server.holds,none (by rw [here]; rfl)]; rfl) | (simp only [Server.holds,bare (by rw [here]; decide)]; rfl)
  · have was : s.holds .main = s.main.holds := rfl
    cases here : s.main with
    | releasing => exact .released (was.trans (by rw [here]; rfl)) rfl rfl
    | applying =>
      simp only [MainPhase.advance]
      split
      · rename_i free
        exact .taken ((Bool.not_eq_true' _).mp (Bool.and_eq_true_iff.mp free).2) rfl rfl
      · exact .kept (by rw [was,here]; rfl) rfl
    | _ => refine .kept ?_ ?_ <;> simp only [MainPhase.advance,same] <;> (try split_ifs) <;> (try simp only [was,here]) <;> rfl

theorem watcherTurns {p : WatcherPhase} (here : s.watcher = some p) : Passes .watcher s (p.advance r s) := by
  have was : s.holds .watcher = p.holds := congrArg (Option.any WatcherPhase.holds) here
  obtain ⟨m,same⟩ := setupKeeps r s
  obtain ⟨_,_,_,rest⟩ := watcherFrame p r s
  refine ⟨fun h other => by rw [rest]; cases h <;> first | rfl | contradiction,?_⟩
  cases p with
  | releasing | reapplied => exact .released was rfl rfl
  | wgS2sSetup left => cases left <;> exact .kept was.symm rfl
  | _ => refine .kept ?_ ?_ <;> simp only [WatcherPhase.advance,same] <;> (try rw [was]) <;> (try split) <;> rfl

theorem refreshTurns {p : RefreshPhase} (here : s.refresh = some p) : Passes .refresh s (p.advance r s) := by
  have was : s.holds .refresh = p.holds := congrArg (Option.any RefreshPhase.holds) here
  obtain ⟨m,same⟩ := setupKeeps r s
  obtain ⟨_,_,_,_,rest⟩ := refreshFrame p r s
  refine ⟨fun h other => by rw [rest]; cases h <;> first | rfl | contradiction,?_⟩
  cases p with
  | releasing err => exact .released was (by cases err <;> rfl) rfl
  | guarding =>
    by_cases set : s.restoring = true
    · simp only [RefreshPhase.advance,if_pos set]
      exact .kept was.symm rfl
    · simp only [RefreshPhase.advance,if_neg set]
      exact .taken (Bool.not_eq_true _ ▸ set) rfl rfl
  | _ => refine .kept ?_ ?_ <;> simp only [RefreshPhase.advance,same] <;> (try rw [was]) <;> (try split) <;> rfl

theorem handlerTurns (i : Nat) : Passes (.handler i) s ((s.handlers i).advance i r s) := by
  obtain ⟨m,same⟩ := setupKeeps r s
  obtain ⟨_,_,_,rest⟩ := handlerFrame (s.handlers i) i r s
  constructor
  · intro h other
    cases h with
    | handler j => exact congrArg HandlerPhase.holds (handlerOthers _ r s (fun mine => other (congrArg Holder.handler mine)))
    | _ =>
      rw [rest]
      rfl
  · have was : s.holds (.handler i) = (s.handlers i).holds := rfl
    cases here : s.handlers i with
    | releasing => exact .released (by rw [was,here]; rfl) (by simp only [Server.holds,HandlerPhase.advance,update_self]; rfl) rfl
    | guarding =>
      by_cases set : s.restoring = true
      · simp only [HandlerPhase.advance,if_pos set]
        exact .kept (by simp only [Server.holds,update_self,here]; rfl) rfl
      · simp only [HandlerPhase.advance,if_neg set]
        exact .taken (Bool.not_eq_true _ ▸ set) (by simp only [Server.holds,update_self]; rfl) rfl
    | _ =>
      refine .kept ?_ ?_ <;> simp only [HandlerPhase.advance,same] <;> (try split) <;> (try simp only [Server.holds,update_self,here]) <;>
        (try split) <;> rfl

theorem stepTurns (m : Move) (orderly : Orderly s) : ∃ x, Passes x s (step m s) := by
  have idle (x : Holder) : Passes x s s := ⟨fun _ _ => rfl,.kept rfl rfl⟩
  have begins {p : WatcherPhase} (holds : p.holds = true) :
      Passes .watcher s (if s.watcher = some .idle ∧ s.restoring = false then {s with restoring := true, watcher := some p} else s) := by
    split
    · rename_i free
      exact ⟨fun h other => by cases h <;> first | rfl | contradiction,.taken free.2 holds rfl⟩
    · exact idle .watcher
  cases m with
  | main r => exact ⟨_,mainTurns orderly⟩
  | tick | sighup => exact ⟨_,begins rfl⟩
  | watcher r =>
    refine ⟨.watcher,?_⟩
    cases here : s.watcher with
    | none => simpa only [step,here] using idle .watcher
    | some p => simpa only [step,here] using watcherTurns here
  | refresh r =>
    refine ⟨.refresh,?_⟩
    cases here : s.refresh with
    | none => simpa only [step,here] using idle .refresh
    | some p => simpa only [step,here] using refreshTurns here
  | handler i r => exact ⟨_,handlerTurns i⟩
  | _ => exact ⟨.main,fun h _ => by cases h <;> rfl,.kept rfl rfl⟩

theorem ownedRun {run : List Move} (orderly : Orderly s) {owner : Option Holder} (owned : Owned s.restoring s.holds owner) :
    let t := run.foldl (fun s m => step m s) s
    ∃ owner, Owned t.restoring t.holds owner := by
  induction run generalizing s owner with
  | nil => exact ⟨owner,owned⟩
  | cons m rest ih =>
    obtain ⟨_,turns⟩ := stepTurns m orderly
    obtain ⟨_,next⟩ := ownedTurn turns owned
    exact ih (orderlyStep m orderly) next

end VpnPack.Health
