import VpnPack.Exit.Sweep

/-! What the procedures of the service do to any relation between states that every
single command respects: one lemma for each of them, whatever is answered and
whatever is returned. -/
namespace VpnPack.Exit
open Base List Net Ops

structure Lasting (rel : State → State → Prop) : Prop where
  same : ∀ s, rel s s
  chain : ∀ s t u, rel s t → rel t u → rel s u
  command : ∀ world c s, rel s (execute world c s).2
  noting : ∀ s installed, rel s {s with v6Installed := installed}

section
variable {world back : World} {rel : State → State → Prop}
  (lasting : Lasting rel)
include lasting

theorem attemptLasting (msg : String) (c : Command) : Advances rel (attempt world msg c) := lasting.command world c

variable {prio : Nat} (family : Family) (s : State)

theorem addRuleLasting (src : Text) (prio : Nat) (iif : Option IfName) :
    Advances rel (addRule world family src prio iif) := attemptLasting lasting _ _

theorem delRuleLasting (prio : Nat) : Advances rel (delRule world family prio) :=
  attemptLasting lasting _ _

theorem addV6Lasting : Advances rel (addV6Masquerade world) := by
  intro s
  have first := lasting.command world (.masqAdd .v6) s
  simp only [addV6Masquerade]
  split
  · rename_i t ran
    rw [ran] at first
    exact lasting.chain _ _ _ first (lasting.noting t true)
  · rename_i f t ran
    rw [ran] at first
    exact lasting.chain _ _ _ first (lasting.noting t false)

theorem bridgeOpsLasting {bridges : List IfName} :
    ∀ op ∈ bridgeOps world back prio bridges, Advances rel op.Do ∧ Advances rel op.Undo := by
  induction bridges generalizing prio with
  | nil => simp [bridgeOps]
  | cons br rest ih =>
    intro op member
    simp only [bridgeOps,mem_cons] at member
    rcases member with rfl | rfl | later
    · exact ⟨addRuleLasting lasting _ _ _ _,delRuleLasting lasting _ _⟩
    · exact ⟨addRuleLasting lasting _ _ _ _,delRuleLasting lasting _ _⟩
    · split at later
      · simp at later
      · exact ih op later

theorem clientOpsLasting {clients : List ExitNodeClient} {steps : List (Op State)}
    (built : clientOps world back prio clients = .ok steps) : ∀ op ∈ steps, Advances rel op.Do ∧ Advances rel op.Undo := by
  induction clients generalizing prio steps with
  | nil =>
    cases built
    simp
  | cons c rest ih =>
    simp only [clientOps] at built
    split at built <;> try contradiction
    split at built
    · exact ih built
    · split at built
      · cases built
        intro op member
        cases mem_singleton.mp member
        exact ⟨addRuleLasting lasting _ _ _ _,delRuleLasting lasting _ _⟩
      · split at built <;> try contradiction
        rename_i later more
        cases built
        intro op member
        rcases mem_cons.mp member with rfl | inside
        · exact ⟨addRuleLasting lasting _ _ _ _,delRuleLasting lasting _ _⟩
        · exact ih more op inside

theorem v4MasqLasting : Advances rel (v4MasqOp world back).Do ∧ Advances rel (v4MasqOp world back).Undo :=
  ⟨attemptLasting lasting _ _,lasting.command back _⟩

theorem v6MasqLasting : Advances rel (v6MasqOp world back).Do ∧ Advances rel (v6MasqOp world back).Undo := by
  refine ⟨addV6Lasting lasting,fun s => ?_⟩
  simp only [v6MasqOp,modifyRun]
  split
  · exact lasting.command back _ s
  · exact lasting.same s

theorem deleteListedLasting {family : Family} (listed : List ExitRule) (s : State) : rel s (deleteListed world family listed s).2 := by
  induction listed generalizing s with
  | nil => exact lasting.same s
  | cons r rest ih =>
    have first := @delRuleLasting world rel lasting family r.priority s
    simp only [deleteListed]
    split
    · rename_i t ran
      rw [ran] at first
      exact lasting.chain _ _ _ first (ih t)
    · rename_i e t ran
      rw [ran] at first
      exact lasting.chain _ _ _ first (ih t)

theorem sweepLasting : rel s (sweepFamily world family s).2 := by
  have first := lasting.command world (.ruleShow family) s
  unfold sweepFamily listRules
  rw [showRun] at first ⊢
  cases world s.log.length with
  | some f => exact first
  | none => exact lasting.chain _ _ _ first (deleteListedLasting lasting _ _)

theorem cleanupLasting : Advances rel (cleanupLocked world) := by
  intro s
  have four := lasting.command world (.masqDel .v4) s
  have six := lasting.command world (.masqDel .v6) (delMasqueradeOf world .v4 s)
  have masq : rel s (delMasquerade world s) := lasting.chain _ _ _ four six
  exact lasting.chain _ _ _ masq (lasting.chain _ _ _ (sweepLasting lasting .v4 _) (sweepLasting lasting .v6 _))

theorem flushLasting : rel s (flushConntrack world s) := lasting.command world .conntrackFlush s

theorem cleanLasting : Advances rel (Cleanup world) := fun s =>
  lasting.chain _ _ _ (cleanupLasting lasting s) (flushLasting lasting _)

theorem listLasting : rel s (listRules world family s).2 := by
  have shown := lasting.command world (.ruleShow family) s
  unfold listRules
  split
  · rename_i ran
    rw [ran] at shown
    exact shown
  · rename_i ran
    rw [ran] at shown
    exact shown

theorem currentLasting : rel s (allCurrentRules world s).2 := by
  have four := @listLasting world rel lasting .v4 s
  unfold allCurrentRules
  split
  · rename_i ran
    rw [ran] at four
    exact four
  · rename_i listed t ran
    rw [ran] at four
    have six := lasting.chain _ _ _ four (@listLasting world rel lasting .v6 t)
    split <;> rename_i last <;> rw [last] at six <;> exact six

theorem hasMasqueradeLasting : rel s (hasMasquerade world s).2 := by
  have four := lasting.command world (.masqCheck .v4) s
  unfold hasMasquerade
  split
  · rename_i ran
    rw [ran] at four
    exact four
  · rename_i t ran
    rw [ran] at four
    have six := lasting.chain _ _ _ four (lasting.command world (.masqCheck .v6) t)
    split <;> rename_i last <;> rw [last] at six <;> exact six

end

theorem buildSource {world back : World} {discover : Bridges} {policy : ExitNodePolicy} {steps : List (Op State)}
    (built : buildApplyOps world back discover policy = .ok steps) :
    ∃ first name, steps = first ++ [Noop name (setExitNodePolicy world policy)] ∧
      ∀ rel, Lasting rel → ∀ op ∈ first, Advances rel op.Do ∧ Advances rel op.Undo := by
  have closing (rules : List (Op State)) :
      rules ++ closingOps world back policy = (rules ++ [v4MasqOp world back,v6MasqOp world back]) ++
        [Noop "persist manifest" (setExitNodePolicy world policy)] := by
    rw [append_assoc]
    rfl
  have each {rules : List (Op State)} {rel : State → State → Prop} (lasting : Lasting rel)
      (known : ∀ op ∈ rules, Advances rel op.Do ∧ Advances rel op.Undo) :
      ∀ op ∈ rules ++ [v4MasqOp world back,v6MasqOp world back], Advances rel op.Do ∧ Advances rel op.Undo := by
    intro op member
    simp only [mem_append,mem_cons,not_mem_nil,or_false] at member
    rcases member with rule | rfl | rfl
    · exact known op rule
    · exact v4MasqLasting lasting
    · exact v6MasqLasting lasting
  unfold buildApplyOps at built
  split at built
  · split at built <;> try contradiction
    cases built
    exact ⟨_,_,closing _,fun rel lasting => each lasting (bridgeOpsLasting lasting)⟩
  · split at built
    · cases built
      exact ⟨[],_,rfl,fun _ _ op member => by simp at member⟩
    · split at built <;> try contradiction
      rename_i adds clients
      cases built
      exact ⟨_,_,closing _,fun rel lasting => each lasting (clientOpsLasting lasting clients)⟩
  · contradiction

section
variable {world back : World} {ctx : Context} {discover : Bridges} {policy : ExitNodePolicy} {rel : State → State → Prop}
  (lasting : Lasting rel) (persists : ∀ world p s, rel s (setExitNodePolicy world p s).2)
include lasting persists

theorem installLasting : Advances rel (installPolicy world back ctx discover policy) := by
  intro s
  have noted := lasting.noting s false
  unfold installPolicy
  split
  · exact noted
  · rename_i steps built
    obtain ⟨first,name,rfl,commands⟩ := buildSource built
    have each : ∀ op ∈ first ++ [Noop name (setExitNodePolicy world policy)],Advances rel op.Do ∧ Advances rel op.Undo := by
      intro op member
      rcases mem_append.mp member with command | last
      · exact commands rel lasting op command
      · cases mem_singleton.mp last
        exact ⟨persists world policy,lasting.same⟩
    exact lasting.chain _ _ _ noted (runAdvances lasting.same lasting.chain (fun op member => (each op member).1)
      (fun op member => (each op member).2) _)

theorem applyFromLasting (s : State) : rel (cleanupLocked world s).2 (applyLocked world back ctx discover policy s).2 := by
  simp only [applyLocked]
  refine lasting.chain _ _ _ ?_ (flushLasting lasting _)
  split
  · exact persists world offPolicy _
  · exact installLasting lasting persists _

theorem applyLasting : Advances rel (applyLocked world back ctx discover policy) := fun s =>
  lasting.chain _ _ _ (cleanupLasting lasting s) (applyFromLasting lasting persists s)

theorem reconcileLasting : Advances rel (Reconcile world back ctx discover policy) := by
  intro s
  unfold Reconcile
  split
  · exact lasting.same s
  · have listed := @currentLasting world rel lasting s
    dsimp only
    split
    · rename_i ran
      rw [ran] at listed
      exact listed
    · rename_i t ran
      rw [ran] at listed
      split
      · have checked := lasting.chain _ _ _ listed (@hasMasqueradeLasting world rel lasting t)
        split
        · exact checked
        · exact lasting.chain _ _ _ checked (applyLasting lasting persists _)
      · exact lasting.chain _ _ _ listed (applyLasting lasting persists t)

end
end VpnPack.Exit
