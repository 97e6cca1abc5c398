import VpnPack.Ops

/-! Reasoning rules for sagas over any state. An outline annotates the steps with what holds
before each of them and what holds again once it is undone. The stopping rule says, for a
projection that one step alone touches, what a failed run leaves of it. -/
namespace VpnPack.Ops
open Base List

section
variable {σ : Type} {ctx : Context}

inductive Outline (post : σ → Prop) : (σ → Prop) → (σ → Prop) → List (Op σ) → Prop where
  | done {before back} (stops : ∀ s, before s → back s) (ends : ∀ s, before s → post s) : Outline post before back []
  | step {before back next later op rest} (stops : ∀ s, before s → back s)
      (fails : ∀ s e t, before s → op.Do s = (some e,t) → back t)
      (goes : ∀ s t, before s → op.Do s = (none,t) → next t)
      (undoes : ∀ s, later s → back (op.Undo s).2)
      (tail : Outline post next later rest) : Outline post before back (op :: rest)

variable {post before back : σ → Prop} {steps : List (Op σ)}

theorem outlineStops (outline : Outline post before back steps) : ∀ s, before s → back s := by
  cases outline with
  | done stops => exact stops
  | step stops => exact stops

theorem undoAllStep (op : Op σ) (rest : List (Op σ)) (s : σ) : (undoAll (op :: rest) s).2 = (undoAll rest (op.Undo s).2).2 := by
  simp only [undoAll]
  split <;> rename_i undone <;> rw [undone]

theorem outlineFails (outline : Outline post before back steps) {s t : σ} {e : GoError} (holds : before s)
    (ran : run ctx steps s = (some e,t)) : back t := by
  suffices general : ∀ (final : σ → Prop) (done : List (Op σ)) (index : Nat) (s : σ),
      (∀ u, back u → final (undoAll done.reverse u).2) → before s →
      runFrom ctx index done steps s = (some e,t) → final t from
    general back [] 0 s (fun u held => held) holds ran
  clear ran holds
  intro final
  induction outline with
  | done stops =>
    intro done index s _ _ ran
    cases ran
  | @step before back next later op rest stops fails goes undoes tail ih =>
    intro done index s undone holds ran
    simp only [runFrom] at ran
    have extended : ∀ u, later u → final (undoAll (done ++ [op]).reverse u).2 := by
      intro u held
      rw [reverse_append,reverse_singleton,singleton_append,undoAllStep]
      exact undone _ (undoes u held)
    split at ran
    · rw [← (Prod.mk.inj ran).2]
      exact undone s (stops s holds)
    · split at ran
      · rename_i cause u failed
        rw [← (Prod.mk.inj ran).2]
        exact undone u (fails s cause u holds failed)
      · rename_i u done_
        have reached := goes s u holds done_
        split at ran
        · rw [← (Prod.mk.inj ran).2]
          exact extended u (outlineStops tail u reached)
        · exact ih (done ++ [op]) (index+1) u extended reached ran

theorem outlineDone (outline : Outline post before back steps) {s t : σ} (holds : before s)
    (ran : forEach Op.Do steps s = (none,t)) : post t := by
  induction outline generalizing s with
  | done stops ends =>
    cases ran
    exact ends _ holds
  | step stops fails goes undoes tail ih =>
    obtain ⟨u,first,rest⟩ := seqSource ran
    exact ih (goes s u holds first) rest

end

section
variable {σ β : Type} {ctx : Context} {steps : List (Op σ)} {s t : σ}

variable {e cause : GoError} {op : Op σ} {n done calls : Nat}

theorem runFromStops (rest : List (Op σ)) (k : Nat) (suffix : steps.drop k = rest)
    (completed : Completed steps s k) (live : LiveUntil ctx (2*k))
    (ran : runFrom ctx k (steps.take k) rest (after steps s k) = (some e,t)) :
    ∃ done calls cause, Stop ctx steps s done calls cause ∧ Completed steps s done ∧
      t = (undoAll (steps.take done).reverse (after steps s calls)).2 := by
  induction rest generalizing k with
  | nil => cases ran
  | cons op rest ih =>
    have found := headFound suffix
    have taken : steps.take k ++ [op] = steps.take (k+1) := by
      rw [take_add_one,found]
      rfl
    simp only [runFrom,taken] at ran
    split at ran
    · rename_i cause cancelled
      exact ⟨k,k,cause,.before found live cancelled,completed,(Prod.mk.inj ran).2.symm⟩
    · rename_i now
      have liveDo := liveSucc live now
      split at ran
      · rename_i cause u failed
        refine ⟨k,k+1,cause,.failed found liveDo (by rw [failed]),completed,?_⟩
        rw [afterSucc found,failed]
        exact (Prod.mk.inj ran).2.symm
      · rename_i u done
        have walked : after steps s (k+1) = u := by rw [afterSucc found,done]
        have next : Completed steps s (k+1) := completedSucc completed found (by rw [done])
        split at ran
        · rename_i cause cancelled
          refine ⟨k+1,k+1,cause,.later found liveDo (by rw [done]) cancelled,next,?_⟩
          rw [walked]
          exact (Prod.mk.inj ran).2.symm
        · rename_i later
          rw [← walked] at ran
          exact ih (k+1) (by rw [← drop_drop,suffix]; rfl) next (liveSucc liveDo later) ran

theorem runStops (ran : run ctx steps s = (some e,t)) : ∃ done calls cause, Stop ctx steps s done calls cause ∧ Completed steps s done ∧
      t = (undoAll (steps.take done).reverse (after steps s calls)).2 :=
  runFromStops steps 0 rfl (fun i small => absurd small (Nat.not_lt_zero i)) (fun j small => absurd small (Nat.not_lt_zero j)) ran

theorem stopCalls (stop : Stop ctx steps s done calls cause) : calls = done ∨ calls = done+1 := by
  cases stop with
  | before => exact .inl rfl
  | failed => exact .inr rfl
  | later => exact .inl rfl

def Called (ctx : Context) (steps : List (Op σ)) (s : σ) (i : Nat) : Prop :=
  Completed steps s i ∧ LiveUntil ctx (2*i+1)

theorem stopCalled (stop : Stop ctx steps s done calls cause)
    (completed : Completed steps s done) (i : Nat) : Called ctx steps s i ↔ i < calls := by
  have close := stopCalls stop
  constructor
  · intro called
    by_contra late
    cases stop with
    | before found live cancelled =>
      have seen := called.2 (2*done) (by omega)
      rw [cancelled] at seen
      contradiction
    | failed found live err =>
      obtain ⟨op,same,ok⟩ := called.1 done (by omega)
      rw [found] at same
      cases same
      rw [ok] at err
      contradiction
    | @later k op cause found live ok cancelled =>
      have seen := called.2 (2*k+1) (by omega)
      rw [cancelled] at seen
      contradiction
  · intro early
    refine ⟨fun j small => completed j (by omega),fun j small => ?_⟩
    cases stop with
    | before found live => exact live j (by omega)
    | failed found live => exact live j (by omega)
    | later found live => exact live j (by omega)

theorem stopDone (stop : Stop ctx steps s done calls cause) (completed : Completed steps s done) {i : Nat} (found : steps[i]? = some op) :
    Called ctx steps s i ∧ (op.Do (after steps s i)).1 = none ↔ i < done := by
  have close := stopCalls stop
  rw [stopCalled stop completed]
  constructor
  · rintro ⟨early,ok⟩
    by_contra late
    cases stop with
    | before => omega
    | failed found' live err =>
      have here : i = done := by omega
      subst here
      rw [found] at found'
      cases found'
      rw [ok] at err
      contradiction
    | later => omega
  · intro early
    obtain ⟨other,same,ok⟩ := completed i early
    rw [found] at same
    cases same
    exact ⟨by omega,ok⟩

def OnlyStep (view : σ → β) (steps : List (Op σ)) (i : Nat) : Prop :=
  ∀ j op, steps[j]? = some op → j ≠ i → Keeps view op.Do ∧ Keeps view op.Undo

variable {view : σ → β} {i : Nat}

section
variable (only : OnlyStep view steps i)
include only

theorem afterBefore (early : n ≤ i) : view (after steps s n) = view s := by
  induction n with
  | zero => rfl
  | succ n ih =>
    cases found : steps[n]? with
    | none =>
      have ended : steps.take (n+1) = steps.take n := by simp [take_add_one,found]
      rw [after,ended]
      exact ih (by omega)
    | some op =>
      rw [afterSucc found,(only n op found (by omega)).1 (after steps s n)]
      exact ih (by omega)

theorem afterLater (late : i < n) : view (after steps s n) = view (after steps s (i+1)) := by
  induction n with
  | zero => omega
  | succ n ih =>
    by_cases here : n = i
    · rw [here]
    · have before := ih (by omega)
      cases found : steps[n]? with
      | none =>
        have ended : steps.take (n+1) = steps.take n := by simp [take_add_one,found]
        rw [after,ended]
        exact before
      | some op =>
        rw [afterSucc found,(only n op found here).1 (after steps s n)]
        exact before

theorem undoBefore (early : n ≤ i) (u : σ) : view (undoAll (steps.take n).reverse u).2 = view u := by
  induction n generalizing u with
  | zero => rfl
  | succ n ih =>
    cases found : steps[n]? with
    | none =>
      have ended : steps.take (n+1) = steps.take n := by simp [take_add_one,found]
      rw [ended]
      exact ih (by omega) u
    | some op =>
      have shape : (steps.take (n+1)).reverse = op :: (steps.take n).reverse := by
        simp [take_add_one,found]
      rw [shape,undoAllStep,ih (by omega)]
      exact (only n op found (by omega)).2 u

theorem undoThrough (found : steps[i]? = some op) (late : i < n) (u : σ) :
    ∃ v, view v = view u ∧ view (undoAll (steps.take n).reverse u).2 = view (op.Undo v).2 := by
  induction n generalizing u with
  | zero => omega
  | succ n ih =>
    cases last : steps[n]? with
    | none =>
      have ended : steps.take (n+1) = steps.take n := by simp [take_add_one,last]
      have inside : n ≠ i := by
        intro here
        rw [here,found] at last
        contradiction
      rw [ended]
      exact ih (by omega) u
    | some op' =>
      have shape : (steps.take (n+1)).reverse = op' :: (steps.take n).reverse := by
        simp [take_add_one,last]
      rw [shape,undoAllStep]
      by_cases here : n = i
      · subst here
        rw [found] at last
        cases last
        exact ⟨u,rfl,undoBefore only (Nat.le_refl n) _⟩
      · obtain ⟨v,same,result⟩ := ih (by omega) (op'.Undo u).2
        exact ⟨v,same.trans ((only n op' last here).2 u),result⟩

end

structure LeftBy (ctx : Context) (steps : List (Op σ)) (view : σ → β) (op : Op σ) (i : Nat) (s t : σ) : Prop where
  untouched : ¬ Called ctx steps s i → view t = view s
  failed : Called ctx steps s i → (op.Do (after steps s i)).1 ≠ none → view t = view (op.Do (after steps s i)).2
  undone : Called ctx steps s i → (op.Do (after steps s i)).1 = none →
    ∃ v, view v = view (op.Do (after steps s i)).2 ∧ view t = view (op.Undo v).2

theorem failedLeaves (only : OnlyStep view steps i) (found : steps[i]? = some op)
    (ran : run ctx steps s = (some e,t)) : LeftBy ctx steps view op i s t := by
  obtain ⟨done,calls,cause,stop,completed,final⟩ := runStops ran
  have close := stopCalls stop
  have called := stopCalled stop completed i
  have finished := stopDone stop completed found
  refine ⟨fun not => ?_,fun here err => ?_,fun here ok => ?_⟩
  · have early : calls ≤ i := Nat.le_of_not_lt (fun late => not (called.mpr late))
    rw [final,undoBefore only (by omega),afterBefore only early]
  · have late := called.mp here
    have open_ : ¬ i < done := fun inside => err (finished.mpr inside).2
    have last : calls = i+1 := by omega
    rw [final,undoBefore only (by omega),last,afterSucc found]
  · have inside := finished.mp ⟨here,ok⟩
    obtain ⟨v,same,result⟩ := undoThrough only found inside (after steps s calls)
    refine ⟨v,?_,by rw [final]; exact result⟩
    rw [same,afterLater only (by omega),afterSucc found]

theorem failedUntouched (all : ∀ op ∈ steps, Keeps view op.Do ∧ Keeps view op.Undo)
    (ran : run ctx steps s = (some e,t)) : view t = view s := by
  obtain ⟨done,calls,cause,stop,completed,final⟩ := runStops ran
  have only (i : Nat) : OnlyStep view steps i := fun j op found _ => all op (mem_of_getElem? found)
  rw [final,undoBefore (only done) (Nat.le_refl done),afterBefore (only calls) (Nat.le_refl calls)]

theorem forEachAfter (ran : forEach Op.Do steps s = (none,t)) : t = after steps s steps.length := by
  induction steps generalizing s with
  | nil =>
    cases ran
    rfl
  | cons op rest ih =>
    obtain ⟨u,first,later⟩ := seqSource ran
    have shape : after (op :: rest) s (rest.length+1) = after rest u rest.length := by
      simp [after,first]
    rw [length_cons,shape]
    exact ih later

theorem doneLeaves (only : OnlyStep view steps i) {op : Op σ} (found : steps[i]? = some op)
    (ran : run ctx steps s = (none,t)) : view t = view (op.Do (after steps s i)).2 := by
  rw [forEachAfter (runDone ran),afterLater only (List.getElem?_eq_some_iff.mp found).1,afterSucc found]

end
end VpnPack.Ops
