import VpnPack.Exit.Frame
import VpnPack.Exit.Sound
import VpnPack.Ops.Outline

/-! A failed Apply, when the cleanup inside it and every Undo are answered: no rule and no
masquerade entry of the service is left. -/
namespace VpnPack.Exit
open Base List Net Ops

def Grown (c : Tables) (ps : Family → List Nat) (t : Tables) : Prop :=
  ∀ f, ∃ new, t.rules f = c.rules f ++ new ∧ new.map Rule.prio = ps f ∧ ∀ r ∈ new, r.table = exitTable

def push (ps : Family → List Nat) (family : Family) (prio : Nat) : Family → List Nat :=
  fun f => if f = family then ps f ++ [prio] else ps f

def Ahead (c : Tables) (ps : Family → List Nat) (s : State) : Prop :=
  Grown c ps s.tables ∧ (∀ f, s.tables.masq f = 0) ∧ s.v6Installed = false

def Behind (c : Tables) (ps : Family → List Nat) (s : State) : Prop :=
  Grown c ps s.tables ∧ ∀ f, s.tables.masq f = 0

def Bare (t : Tables) : Prop := ∀ f, own (t.rules f) = [] ∧ t.masq f = 0

section
variable {world back : World} {c : Tables} {ps : Family → List Nat} {s t : State}

theorem grownNone (c : Tables) : Grown c (fun _ => []) c := fun f => ⟨[],by simp,rfl,by simp⟩

variable {family : Family} {prio : Nat} {src : Text} {iif : Option IfName}

theorem makeRuleSource {r : Rule} (made : makeRule family src prio iif = some r) : r.prio = prio ∧ r.table = exitTable := by
  unfold makeRule at made
  split at made
  · cases made
    exact ⟨rfl,rfl⟩
  · split at made
    · cases made
      exact ⟨rfl,rfl⟩
    · split at made <;> try contradiction
      split at made <;> try contradiction
      split at made
      · cases made
        exact ⟨rfl,rfl⟩
      · cases made
        exact ⟨rfl,rfl⟩

theorem addRuleGrown (grown : Grown c ps s.tables) (ran : addRule world family src prio iif s = (none,t)) :
    Grown c (push ps family prio) t.tables ∧ t.tables.masq = s.tables.masq ∧ t.v6Installed = s.v6Installed := by
  obtain ⟨_,applied,shape⟩ := executeOk (attemptOk.mp ran)
  simp only [Tables.apply] at applied
  split at applied <;> try contradiction
  rename_i r made
  split at applied <;> try contradiction
  have tables := (Except.ok.inj applied).symm
  obtain ⟨number_,table⟩ := makeRuleSource made
  refine ⟨fun f => ?_,by rw [tables,Tables.setRulesMasq],by rw [shape]⟩
  obtain ⟨new,list,prios,ours⟩ := grown f
  by_cases here : f = family
  · subst here
    refine ⟨new ++ [r],?_,?_,?_⟩
    · rw [tables,Tables.setRulesHere,list,append_assoc]
    · rw [map_append,prios,push,if_pos rfl,← number_]
      rfl
    · intro x member
      rcases mem_append.mp member with old | last
      · exact ours x old
      · rw [mem_singleton.mp last]
        exact table
  · exact ⟨new,by rw [tables,Tables.setRulesOther _ _ here,list],by rw [prios,push,if_neg here],ours⟩

theorem addRuleStill {e : GoError} (ran : addRule world family src prio iif s = (some e,t)) : t.tables = s.tables := by
  obtain ⟨f,executed,_⟩ := attemptFailed ran
  rw [(executeFailed executed).1]

theorem delRuleGrown (willing : ∀ n, back n = none) (fresh : prio ∉ ps family) (absent : ∀ r ∈ c.rules family, r.prio ≠ prio)
    (grown : Grown c (push ps family prio) s.tables) :
    Grown c ps (delRule back family prio s).2.tables ∧ (delRule back family prio s).2.tables.masq = s.tables.masq := by
  obtain ⟨new,list,prios,ours⟩ := grown family
  rw [push,if_pos rfl] at prios
  obtain ⟨kept,last,rfl,keptPrios,lastPrio⟩ := map_eq_append_iff.mp prios
  obtain ⟨r,rfl,number_⟩ := map_eq_singleton_iff.mp lastPrio
  have missed : ∀ x ∈ c.rules family ++ kept, (x.prio == prio) = false := by
    intro x member
    rcases mem_append.mp member with old | added
    · simpa using absent x old
    · have other : x.prio ≠ prio := by
        intro same
        apply fresh
        rw [← keptPrios,← same]
        exact mem_map_of_mem added
      simpa using other
  have whole : s.tables.rules family = (c.rules family ++ kept) ++ [r] := by rw [list,append_assoc]
  have found : (s.tables.rules family).any (fun x => x.prio == prio) = true := by
    rw [whole]
    simp [number_]
  have erased : (s.tables.rules family).eraseP (fun x => x.prio == prio) = c.rules family ++ kept := by
    rw [whole,eraseP_append_right _ (fun x member => by simpa using missed x member)]
    simp [number_]
  have ran : (delRule back family prio s).2.tables = s.tables.setRules family (c.rules family ++ kept) := by
    simp only [delRule,attempt,execute,willing,Tables.apply,if_pos found,erased]
  rw [ran]
  refine ⟨fun f => ?_,rfl⟩
  by_cases here : f = family
  · subst here
    exact ⟨kept,by rw [Tables.setRulesHere],keptPrios,fun x member => ours x (mem_append_left _ member)⟩
  · obtain ⟨others,otherList,otherPrios,otherTables⟩ := grown f
    exact ⟨others,by rw [Tables.setRulesOther _ _ here,otherList],by rw [otherPrios,push,if_neg here],otherTables⟩

theorem ruleOutline {post : State → Prop} {op : Op State} {rest : List (Op State)} (willing : ∀ n, back n = none)
    (adds : op.Do = addRule world family src prio iif) (deletes : op.Undo = delRule back family prio)
    (fresh : prio ∉ ps family) (absent : ∀ r ∈ c.rules family, r.prio ≠ prio)
    (tail : Outline post (Ahead c (push ps family prio)) (Behind c (push ps family prio)) rest) :
    Outline post (Ahead c ps) (Behind c ps) (op :: rest) := by
  refine .step (fun s held => ⟨held.1,held.2.1⟩) (fun s e t held failed => ?_) (fun s t held done => ?_)
    (fun s held => ?_) tail
  · rw [adds] at failed
    rw [Behind,addRuleStill failed]
    exact ⟨held.1,held.2.1⟩
  · rw [adds] at done
    obtain ⟨grown,masq,noted⟩ := addRuleGrown held.1 done
    exact ⟨grown,fun f => by rw [masq]; exact held.2.1 f,noted.trans held.2.2⟩
  · rw [deletes]
    obtain ⟨grown,masq⟩ := delRuleGrown willing fresh absent held.1
    exact ⟨grown,fun f => by rw [masq]; exact held.2 f⟩

theorem bareAbsent (bare : own (c.rules family) = []) (inside : inRange prio = true) : ∀ r ∈ c.rules family, r.prio ≠ prio := by
  intro r member same
  have owned : r ∈ own (c.rules family) := mem_filter.mpr ⟨member,by rw [same]; exact inside⟩
  rw [bare] at owned
  simp at owned

theorem pushBelow {family : Family} {prio : Nat} (low : ∀ f, ∀ p ∈ ps f, p < prio) : ∀ f, ∀ p ∈ push ps family prio f, p < prio+1 := by
  intro f p member
  unfold push at member
  split at member
  · rcases mem_append.mp member with old | last
    · exact Nat.lt_succ_of_lt (low f p old)
    · rw [mem_singleton.mp last]
      exact Nat.lt_succ_self prio
  · exact Nat.lt_succ_of_lt (low f p member)

end

section
variable {world back : World} {c : Tables} {post : State → Prop} {tail : List (Op State)}

variable {ps : Family → List Nat}

section
variable {prio : Nat} (willing : ∀ n, back n = none) (bare : ∀ f, own (c.rules f) = [])
  (ends : ∀ ps, Outline post (Ahead c ps) (Behind c ps) tail) (low : ∀ f, ∀ p ∈ ps f, p < prio) (inside : inRange prio = true)
include willing bare ends low inside

theorem bridgesOutline {bridges : List IfName} : Outline post (Ahead c ps) (Behind c ps) (bridgeOps world back prio bridges ++ tail) := by
  induction bridges generalizing prio ps with
  | nil => exact ends ps
  | cons br rest ih =>
    have low4 := @pushBelow ps .v4 prio low
    have fresh4 : prio ∉ ps .v4 := fun member => Nat.lt_irrefl prio (low .v4 prio member)
    have fresh6 : prio ∉ push ps .v4 prio .v6 := fun member => Nat.lt_irrefl prio (low .v6 prio member)
    refine ruleOutline willing rfl rfl fresh4 (bareAbsent (bare .v4) inside) ?_
    refine ruleOutline willing rfl rfl fresh6 (bareAbsent (bare .v6) inside) ?_
    split
    · exact ends _
    · rename_i room
      have low6 : ∀ f, ∀ p ∈ push (push ps .v4 prio) .v6 prio f, p < prio+1 := by
        intro f p member
        cases f with
        | v4 => exact low4 .v4 p member
        | v6 =>
          rcases mem_append.mp member with old | last
          · exact low4 .v6 p old
          · rw [mem_singleton.mp last]
            exact Nat.lt_succ_self prio
      obtain ⟨above,_⟩ := inRangeSource.mp inside
      simp only [exitRuleMaxPrio] at room
      exact ih low6 (inRangeSource.mpr ⟨by omega,by omega⟩)

theorem clientsOutline {clients : List ExitNodeClient} {steps : List (Op State)}
    (built : clientOps world back prio clients = .ok steps) : Outline post (Ahead c ps) (Behind c ps) (steps ++ tail) := by
  induction clients generalizing prio ps steps with
  | nil =>
    cases built
    exact ends ps
  | cons client rest ih =>
    simp only [clientOps] at built
    split at built <;> try contradiction
    split at built
    · exact ih low inside built
    · rename_i family known
      have fresh : prio ∉ ps family := fun member => Nat.lt_irrefl prio (low family prio member)
      split at built
      · cases built
        exact ruleOutline willing rfl rfl fresh (bareAbsent (bare family) inside) (ends _)
      · rename_i room
        split at built <;> try contradiction
        rename_i later more
        cases built
        obtain ⟨above,_⟩ := inRangeSource.mp inside
        simp only [exitRuleMaxPrio] at room
        exact ruleOutline willing rfl rfl fresh (bareAbsent (bare family) inside)
          (ih (pushBelow low) (inRangeSource.mpr ⟨by omega,by omega⟩) more)

end

def Masked (c : Tables) (ps : Family → List Nat) (s : State) : Prop :=
  Grown c ps s.tables ∧ s.tables.masq .v4 = 1 ∧ s.tables.masq .v6 = if s.v6Installed then 1 else 0

def Half (c : Tables) (ps : Family → List Nat) (s : State) : Prop :=
  Grown c ps s.tables ∧ s.tables.masq .v4 = 1 ∧ s.tables.masq .v6 = 0

def Stocked (c : Tables) (s : State) : Prop := (∃ ps, Grown c ps s.tables) ∧ ∀ f, s.tables.masq f ≤ 1

section
variable (willing : ∀ n, back n = none)
include willing

theorem delMasqWilling (family : Family) (s : State) :
    (delMasqueradeOf back family s).tables = s.tables.setMasq family (s.tables.masq family - 1) := by
  rw [(masqDelRun family s).1,willing,if_pos rfl]

theorem masq4Outline {rest : List (Op State)} (tail : Outline post (fun s => Half c ps s ∧ s.v6Installed = false) (Half c ps) rest) :
    Outline post (Ahead c ps) (Behind c ps) (v4MasqOp world back :: rest) := by
  refine .step (fun s held => ⟨held.1,held.2.1⟩) (fun s e t held failed => ?_) (fun s t held done => ?_)
    (fun s held => ?_) tail
  · obtain ⟨f,executed,_⟩ := attemptFailed failed
    rw [Behind,(executeFailed executed).1]
    exact ⟨held.1,held.2.1⟩
  · obtain ⟨_,applied,shape⟩ := executeOk (attemptOk.mp done)
    have tables : t.tables = s.tables.setMasq .v4 (s.tables.masq .v4 + 1) := (Except.ok.inj applied).symm
    have noted : t.v6Installed = s.v6Installed := by rw [shape]
    refine ⟨⟨fun f => ?_,?_,?_⟩,noted.trans held.2.2⟩
    · rw [tables,Tables.setMasqRules]
      exact held.1 f
    · rw [tables,Tables.setMasqHere,held.2.1]
    · rw [tables,Tables.setMasqOther _ _ (by simp),held.2.1]
  · have tables := delMasqWilling willing .v4 s
    have undone : ((v4MasqOp world back).Undo s).2.tables = s.tables.setMasq .v4 (s.tables.masq .v4 - 1) := tables
    refine ⟨fun f => ?_,fun f => ?_⟩
    · rw [undone,Tables.setMasqRules]
      exact held.1 f
    · rw [undone]
      cases f with
      | v4 => rw [Tables.setMasqHere,held.2.1]
      | v6 => rw [Tables.setMasqOther _ _ (by simp),held.2.2]

theorem masq6Outline {rest : List (Op State)} (tail : Outline post (Masked c ps) (Masked c ps) rest) :
    Outline post (fun s => Half c ps s ∧ s.v6Installed = false) (Half c ps) (v6MasqOp world back :: rest) := by
  refine .step (fun s held => held.1) (fun s e t held failed => ?_) (fun s t held done => ?_) (fun s held => ?_) tail
  · simp only [v6MasqOp,addV6Masquerade] at failed
    split at failed
    · cases failed
    · rename_i f u executed
      rw [← (Prod.mk.inj failed).2,(executeFailed executed).1]
      exact held.1
  · simp only [v6MasqOp,addV6Masquerade] at done
    split at done
    · rename_i u executed
      cases done
      obtain ⟨_,applied,_⟩ := executeOk executed
      have tables : u.tables = s.tables.setMasq .v6 (s.tables.masq .v6 + 1) := (Except.ok.inj applied).symm
      refine ⟨fun f => ?_,?_,?_⟩
      · change ∃ new, u.tables.rules f = _ ∧ _
        rw [tables,Tables.setMasqRules]
        exact held.1.1 f
      · change u.tables.masq .v4 = 1
        rw [tables,Tables.setMasqOther _ _ (by simp),held.1.2.1]
      · change u.tables.masq .v6 = 1
        rw [tables,Tables.setMasqHere,held.1.2.2]
    · rename_i f u executed
      rw [← (Prod.mk.inj done).2,(executeFailed executed).1]
      exact held.1
  · have undone : ((v6MasqOp world back).Undo s).2 = if s.v6Installed then delMasqueradeOf back .v6 s else s := rfl
    rw [undone]
    cases noted : s.v6Installed with
    | false =>
      have six := held.2.2
      rw [noted] at six
      exact ⟨held.1,held.2.1,six⟩
    | true =>
      have six := held.2.2
      rw [noted] at six
      simp only [if_true] at six ⊢
      rw [Half,delMasqWilling willing]
      refine ⟨held.1,?_,?_⟩
      · rw [Tables.setMasqOther _ _ (by simp),held.2.1]
      · rw [Tables.setMasqHere,six]

theorem closingOutline (policy : ExitNodePolicy) (ps : Family → List Nat) :
    Outline (Stocked c) (Ahead c ps) (Behind c ps) (closingOps world back policy) := by
  refine masq4Outline willing (masq6Outline willing ?_)
  have kept : ∀ s, Masked c ps s → Masked c ps (setExitNodePolicy world policy s).2 := fun s held => held
  have saved (s : State) {r : Option GoError} {t : State} (held : Masked c ps s)
      (ran : setExitNodePolicy world policy s = (r,t)) : Masked c ps t := by
    rw [← (Prod.mk.inj ran).2]
    exact kept s held
  have stocked : ∀ s, Masked c ps s → Stocked c s := by
    intro s held
    refine ⟨⟨ps,held.1⟩,fun f => ?_⟩
    cases f with
    | v4 => rw [held.2.1]
    | v6 =>
      rw [held.2.2]
      split <;> omega
  exact .step (fun s held => held) (fun s e t held ran => saved s held ran) (fun s t held ran => saved s held ran)
    (fun s held => held) (.done (fun s held => held) stocked)

theorem installOutline {discover : Bridges} {policy : ExitNodePolicy} {steps : List (Op State)} (bare : ∀ f, own (c.rules f) = []) (built : buildApplyOps world back discover policy = .ok steps) :
    Outline (Stocked c) (Ahead c (fun _ => [])) (Behind c (fun _ => [])) steps := by
  have low (prio : Nat) : ∀ f : Family, ∀ p ∈ (fun _ : Family => ([] : List Nat)) f, p < prio := by simp
  unfold buildApplyOps at built
  split at built
  · split at built <;> try contradiction
    cases built
    exact bridgesOutline willing bare (closingOutline willing policy) (low _) (by decide)
  · split at built
    · cases built
      have stocked : ∀ s, Ahead c (fun _ => []) s → Stocked c s := fun s held =>
        ⟨⟨_,held.1⟩,fun f => by rw [held.2.1]; omega⟩
      refine .step (fun s held => ⟨held.1,held.2.1⟩) (fun s e t held ran => ?_) (fun s t held ran => ?_)
        (fun s held => held) (.done (fun s held => ⟨held.1,held.2.1⟩) stocked)
      · rw [← (Prod.mk.inj ran).2]
        exact ⟨held.1,held.2.1⟩
      · rw [← (Prod.mk.inj ran).2]
        exact held
    · split at built <;> try contradiction
      rename_i adds clients
      cases built
      exact clientsOutline willing bare (closingOutline willing policy) (low _) (by decide) clients
  · contradiction

end

end

def Emptied (world : World) (t : Tables) (place : Nat) : Prop :=
  Sweeps world t place ∧ ∀ f, t.masq f = 0 ∨ world (masqPlace place f) = none

def stored (policy : ExitNodePolicy) : ExitNodePolicy :=
  if policy.mode = .off ∨ policy.mode = .unset then offPolicy else policy

def Persists (world back : World) (ctx : Context) (discover : Bridges) (policy : ExitNodePolicy) (c : State) : Prop :=
  policy.mode = .off ∨ policy.mode = .unset ∨
    ∃ steps, buildApplyOps world back discover policy = .ok steps ∧
      Called ctx steps {c with v6Installed := false} (steps.length-1)

section
variable {world back : World} {ctx : Context} {discover : Bridges} {policy : ExitNodePolicy} {s t c : State}

theorem cleanupBare (clean : NoForeign s.tables) (single : ∀ f, s.tables.masq f ≤ 1) (emptied : Emptied world s.tables s.log.length) :
    Bare (cleanupLocked world s).2.tables ∧ NoForeign (cleanupLocked world s).2.tables := by
  have cleaned := @cleanupRun world s clean
  refine ⟨fun f => ⟨cleaned.rules.mpr emptied.1 f,?_⟩,cleaned.clean⟩
  have one := single f
  rw [cleaned.masq]
  rcases emptied.2 f with gone | answered
  · rw [gone]
    simp
  · rw [if_pos answered]
    omega

theorem grownForeign {ps : Family → List Nat} {b d : Tables} (clean : NoForeign b) (grown : Grown b ps d) : NoForeign d := by
  intro f r member mine
  obtain ⟨new,list,_,ours⟩ := grown f
  rw [list] at member
  rcases mem_append.mp member with old | added
  · exact clean f r old mine
  · exact ours r added

theorem behindBare {b : Tables} (bare : Bare b) (behind : Behind b (fun _ => []) s) : Bare s.tables := by
  intro f
  obtain ⟨new,list,prios,_⟩ := behind.1 f
  have none_ : new = [] := map_eq_nil_iff.mp prios
  refine ⟨?_,behind.2 f⟩
  rw [list,none_,append_nil]
  exact (bare f).1

theorem aheadStart (bare : Bare c.tables) : Ahead c.tables (fun _ => []) {c with v6Installed := false} :=
  ⟨grownNone c.tables,fun f => (bare f).2,rfl⟩

theorem manifestLasting : Lasting (fun s t => t.manifest = s.manifest) where
  same _ := rfl
  chain _ _ _ first second := second.trans first
  command world c s := by
    unfold execute
    split
    · rfl
    · split <;> rfl
  noting _ _ := rfl

theorem installFailed {e : GoError} (willing : ∀ n, back n = none) (bare : Bare c.tables)
    (ran : installPolicy world back ctx discover policy c = (some e,t)) :
    Bare t.tables ∧ ((∃ steps, buildApplyOps world back discover policy = .ok steps ∧
        Called ctx steps {c with v6Installed := false} (steps.length-1)) →
        t.manifest.exitNodePolicy = some policy) ∧
      ((¬ ∃ steps, buildApplyOps world back discover policy = .ok steps ∧
        Called ctx steps {c with v6Installed := false} (steps.length-1)) →
        t.manifest.exitNodePolicy = c.manifest.exitNodePolicy) := by
  unfold installPolicy at ran
  split at ran
  · rename_i built
    rw [← (Prod.mk.inj ran).2,built]
    exact ⟨bare,fun found => by simp at found,fun _ => rfl⟩
  · rename_i steps built
    have outline := installOutline willing (fun f => (bare f).1) built
    refine ⟨behindBare bare (outlineFails outline (aheadStart bare) ran),?_⟩
    obtain ⟨first,name,rfl,commands⟩ := buildSource built
    have only : OnlyStep (fun s : State => s.manifest.exitNodePolicy)
        (first ++ [Noop name (setExitNodePolicy world policy)]) first.length := by
      intro j op found other
      have small : j < first.length := by
        have bound := (List.getElem?_eq_some_iff.mp found).1
        rw [length_append,length_singleton] at bound
        omega
      rw [getElem?_append_left small] at found
      obtain ⟨forward,backward⟩ := commands _ manifestLasting op (mem_of_getElem? found)
      exact ⟨fun s => congrArg Manifest.exitNodePolicy (forward s),fun s => congrArg Manifest.exitNodePolicy (backward s)⟩
    have last : (first ++ [Noop name (setExitNodePolicy world policy)])[first.length]? =
        some (Noop name (setExitNodePolicy world policy)) := by simp
    have left := failedLeaves only last ran
    have index : (first ++ [Noop name (setExitNodePolicy world policy)]).length-1 = first.length := by simp
    rw [built]
    simp only [Except.ok.injEq,exists_eq_left',index]
    refine ⟨fun called => ?_,fun not => left.untouched not⟩
    by_cases ok : ((Noop name (setExitNodePolicy world policy)).Do
        (after (first ++ [Noop name (setExitNodePolicy world policy)]) {c with v6Installed := false} first.length)).1 = none
    · obtain ⟨v,same,kept⟩ := left.undone called ok
      exact kept.trans same
    · exact left.failed called ok

theorem installDone (willing : ∀ n, back n = none) (bare : Bare c.tables) (clean : NoForeign c.tables)
    (ran : installPolicy world back ctx discover policy c = (none,t)) :
    NoForeign t.tables ∧ (∀ f, t.tables.masq f ≤ 1) ∧ t.manifest.exitNodePolicy = some policy := by
  unfold installPolicy at ran
  split at ran
  · cases ran
  · rename_i steps built
    have outline := installOutline willing (fun f => (bare f).1) built
    have done := runDone ran
    obtain ⟨⟨ps,grown⟩,masq⟩ := outlineDone outline (aheadStart bare) done
    refine ⟨grownForeign clean grown,masq,?_⟩
    obtain ⟨first,name,rfl,_⟩ := buildSource built
    obtain ⟨u,_,ended⟩ := forEachAppend done
    obtain ⟨v,saved,last⟩ := seqSource ended
    cases last
    exact congrArg (fun r => r.2.manifest.exitNodePolicy) saved.symm

theorem flushState (s : State) : (flushConntrack world s).tables = s.tables ∧
    (flushConntrack world s).manifest = s.manifest := ⟨flushTables world s,manifestLasting.command world .conntrackFlush s⟩

section
variable (willing : ∀ n, back n = none) (clean : NoForeign s.tables) (single : ∀ f, s.tables.masq f ≤ 1)
  (emptied : Emptied world s.tables s.log.length)
include willing clean single emptied

theorem applyFailed {e : GoError} (ran : applyLocked world back ctx discover policy s = (some e,t)) : Bare t.tables ∧
      (Persists world back ctx discover policy (cleanupLocked world s).2 →
        t.manifest.exitNodePolicy = some (stored policy)) ∧ (¬ Persists world back ctx discover policy (cleanupLocked world s).2 →
        t.manifest.exitNodePolicy = s.manifest.exitNodePolicy) := by
  obtain ⟨bare,_⟩ := cleanupBare clean single emptied
  have kept : (cleanupLocked world s).2.manifest = s.manifest := cleanupLasting manifestLasting s
  simp only [applyLocked] at ran
  obtain ⟨failed,rfl⟩ := Prod.mk.inj ran
  rw [(flushState _).1,(flushState _).2]
  by_cases off : policy.mode = .off ∨ policy.mode = .unset
  · rw [if_pos off]
    refine ⟨bare,fun _ => ?_,fun not => absurd (off.elim .inl (fun unset => .inr (.inl unset))) not⟩
    rw [stored,if_pos off]
    rfl
  · rw [if_neg off] at failed ⊢
    have same : installPolicy world back ctx discover policy (cleanupLocked world s).2 = (some e,_) := Prod.ext failed rfl
    obtain ⟨bare',reached,missed⟩ := installFailed willing bare same
    rw [stored,if_neg off]
    refine ⟨bare',fun persists => reached ?_,fun not => ?_⟩
    · rcases persists with mode | mode | called
      · exact absurd (.inl mode) off
      · exact absurd (.inr mode) off
      · exact called
    · rw [missed (fun called => not (.inr (.inr called))),kept]

theorem applyDone (ran : applyLocked world back ctx discover policy s = (none,t)) :
    NoForeign t.tables ∧ (∀ f, t.tables.masq f ≤ 1) ∧ t.manifest.exitNodePolicy = some (stored policy) := by
  obtain ⟨bare,cleanC⟩ := cleanupBare clean single emptied
  simp only [applyLocked] at ran
  obtain ⟨done,rfl⟩ := Prod.mk.inj ran
  rw [(flushState _).1,(flushState _).2]
  by_cases off : policy.mode = .off ∨ policy.mode = .unset
  · rw [if_pos off,stored,if_pos off]
    exact ⟨cleanC,fun f => (bare f).2.trans_le (Nat.zero_le 1),rfl⟩
  · rw [if_neg off] at done ⊢
    have same : installPolicy world back ctx discover policy (cleanupLocked world s).2 = (none,_) := Prod.ext done rfl
    rw [stored,if_neg off]
    exact installDone willing bare cleanC same

end

theorem cleanupWilling (willing : ∀ n, world n = none) (clean : NoForeign s.tables) (single : ∀ f, s.tables.masq f ≤ 1) :
    Bare (Cleanup world s).2.tables ∧ (Cleanup world s).2.manifest = s.manifest := by
  have emptied : Emptied world s.tables s.log.length :=
    ⟨⟨.inr ⟨willing _,fun _ _ => willing _⟩,.inr ⟨willing _,fun _ _ => willing _⟩⟩,fun _ => .inr (willing _)⟩
  have tables : (Cleanup world s).2.tables = (cleanupLocked world s).2.tables := flushTables world _
  rw [tables]
  exact ⟨(cleanupBare clean single emptied).1,cleanLasting manifestLasting s⟩

end
end VpnPack.Exit
