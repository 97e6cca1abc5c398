import VpnPack.Exit.Service

/-! What the commands of the service do to the tables, for any answers: which rules
a cleanup leaves behind, and what a completed list of steps has added. Positions
are places in the log. -/
namespace VpnPack.Exit
open Base List Net Ops

def own (rules : List Rule) : List Rule := rules.filter (fun r => inRange r.prio)
def NoForeign (t : Tables) : Prop := ∀ f, ∀ r ∈ t.rules f, inRange r.prio = true → r.table = exitTable

section
variable {world : World} {c : Command} {s t : State}

theorem executeOk (ran : execute world c s = (none,t)) : world s.log.length = none ∧ s.tables.apply c = .ok t.tables ∧
      t = {s with tables := t.tables, log := s.log ++ [.command c]} := by
  unfold execute at ran
  split at ran
  · cases ran
  · rename_i willing
    split at ran
    · cases ran
    · rename_i tables applied
      cases ran
      exact ⟨willing,applied,rfl⟩

theorem executeFailed {f : Failure} (ran : execute world c s = (some f,t)) : t = {s with log := s.log ++ [.command c]} ∧
      (world s.log.length = some f ∨ world s.log.length = none ∧ s.tables.apply c = .error f) := by
  unfold execute at ran
  split at ran
  · rename_i answer
    cases ran
    exact ⟨rfl,.inl answer⟩
  · rename_i willing
    split at ran
    · rename_i refused
      cases ran
      exact ⟨rfl,.inr ⟨willing,refused⟩⟩
    · cases ran

theorem executeLog (world : World) (c : Command) (s : State) : (execute world c s).2.log = s.log ++ [.command c] := by
  unfold execute
  split
  · rfl
  · split <;> rfl

theorem executeHarmless (harmless : ∀ tables, s.tables.apply c = .ok tables → tables = s.tables) :
    (execute world c s).2 = {s with log := s.log ++ [.command c]} := by
  unfold execute
  split
  · rfl
  · split
    · rfl
    · rename_i tables applied
      rw [harmless tables applied]

theorem attemptOk {msg : String} : attempt world msg c s = (none,t) ↔ execute world c s = (none,t) := by
  simp only [attempt,Prod.mk.injEq,Option.map_eq_none_iff]
  exact ⟨fun both => Prod.ext both.1 both.2,fun ran => by simp [ran]⟩

theorem attemptFailed {msg : String} {e : GoError} (ran : attempt world msg c s = (some e,t)) :
    ∃ f, execute world c s = (some f,t) ∧ e = reported msg f := by
  simp only [attempt,Prod.mk.injEq,Option.map_eq_some_iff] at ran
  obtain ⟨⟨f,failed,rfl⟩,rfl⟩ := ran
  exact ⟨f,Prod.ext failed rfl,rfl⟩

end

theorem ownErase {rules : List Rule} {prio : Nat} (mine : inRange prio = true) :
    (own (rules.eraseP (fun r => r.prio == prio))).map Rule.prio = ((own rules).map Rule.prio).erase prio := by
  induction rules with
  | nil => rfl
  | cons r rest ih =>
    rw [eraseP_cons]
    by_cases same : r.prio = prio
    · simp [own,same,mine]
    · have kept : (r.prio == prio) = false := by simpa using same
      simp only [kept,cond_false,own,filter_cons] at ih ⊢
      split
      · rw [map_cons,map_cons,erase_cons_tail (by simpa using same),ih]
      · exact ih

theorem eraseForeign {t : Tables} {family : Family} {p : Rule → Bool} (clean : NoForeign t) :
    NoForeign (t.setRules family ((t.rules family).eraseP p)) := by
  intro f r member mine
  by_cases here : f = family
  · subst here
    rw [Tables.setRulesHere] at member
    exact clean f r (mem_of_mem_eraseP member) mine
  · rw [Tables.setRulesOther _ _ here] at member
    exact clean f r member mine

structure Trimmed (family : Family) (s t : State) : Prop where
  others : ∀ f, f ≠ family → t.tables.rules f = s.tables.rules f
  masq : t.tables.masq = s.tables.masq
  rest : t.manifest = s.manifest ∧ t.prefs = s.prefs

theorem trimmedAfter {family : Family} {s t u : State} (first : Trimmed family s t) (second : Trimmed family t u) : Trimmed family s u :=
  ⟨fun f other => (second.others f other).trans (first.others f other),second.masq.trans first.masq,
    second.rest.1.trans first.rest.1,second.rest.2.trans first.rest.2⟩

section
variable {world : World} {family : Family} {s : State}

theorem delRuleDone {prio : Nat} {t : State} (ran : delRule world family prio s = (none,t)) :
    world s.log.length = none ∧ t.tables = s.tables.setRules family ((s.tables.rules family).eraseP (fun r => r.prio == prio)) ∧
      t.log.length = s.log.length+1 ∧ t.manifest = s.manifest ∧ t.prefs = s.prefs := by
  obtain ⟨willing,applied,shape⟩ := executeOk (attemptOk.mp ran)
  simp only [Tables.apply] at applied
  split at applied <;> try contradiction
  refine ⟨willing,(Except.ok.inj applied).symm,?_,?_⟩
  · rw [shape]
    simp
  · rw [shape]
    exact ⟨rfl,rfl⟩

theorem delRuleRefused {prio : Nat} {e : GoError} {t : State} (found : (s.tables.rules family).any (fun r => r.prio == prio) = true)
    (ran : delRule world family prio s = (some e,t)) :
    world s.log.length ≠ none ∧ t = {s with log := s.log ++ [.command (.ruleDel family prio)]} := by
  obtain ⟨f,executed,_⟩ := attemptFailed ran
  obtain ⟨rfl,cause⟩ := executeFailed executed
  refine ⟨?_,rfl⟩
  rcases cause with answer | ⟨_,refused⟩
  · rw [answer]
    simp
  · simp [Tables.apply,found] at refused

theorem ownedFound {rules : List Rule} {prio : Nat} (member : prio ∈ (own rules).map Rule.prio) : rules.any (fun r => r.prio == prio) = true := by
  obtain ⟨r,owned,same⟩ := mem_map.mp member
  simp only [any_eq_true,beq_iff_eq]
  exact ⟨r,mem_of_mem_filter owned,same⟩

/- The induction carries the priorities still to be deleted and those that could
not be; together they are the priorities of the rules that are left. -/
theorem deleteListedRun {listed : List ExitRule} {kept : List Nat} {s : State}
    (mine : ∀ r ∈ listed, inRange r.priority = true) (clean : NoForeign s.tables)
    (present : ((own (s.tables.rules family)).map Rule.prio).Perm (listed.map ExitRule.priority ++ kept)) :
    ∃ left, ((own ((deleteListed world family listed s).2.tables.rules family)).map Rule.prio).Perm (left ++ kept) ∧
      (left = [] ↔ ∀ i < listed.length, world (s.log.length+i) = none) ∧
      (deleteListed world family listed s).2.log.length = s.log.length + listed.length ∧
      NoForeign (deleteListed world family listed s).2.tables ∧ Trimmed family s (deleteListed world family listed s).2 := by
  induction listed generalizing kept s with
  | nil => exact ⟨[],present,by simp,rfl,clean,⟨fun _ _ => rfl,rfl,rfl,rfl⟩⟩
  | cons r rest ih =>
    have inside := mine r mem_cons_self
    have later : ∀ x ∈ rest, inRange x.priority = true := fun x member => mine x (mem_cons_of_mem r member)
    have split : ∀ p : Nat → Prop, (∀ i < rest.length+1, p i) ↔ p 0 ∧ ∀ i < rest.length, p (i+1) :=
      fun p => Nat.forall_lt_succ_left
    simp only [deleteListed]
    rcases ran : delRule world family r.priority s with ⟨result,t⟩
    cases result with
    | some e =>
      obtain ⟨refused,rfl⟩ := delRuleRefused (ownedFound (present.mem_iff.mpr (by simp))) ran
      obtain ⟨left,perm,_,size,cleaned,trimmed⟩ := @ih (r.priority :: kept)
        {s with log := s.log ++ [.command (.ruleDel family r.priority)]} later clean
        (present.trans (by simpa using perm_middle.symm))
      refine ⟨left ++ [r.priority],by simpa using perm,?_,by rw [size]; simp; omega,cleaned,⟨trimmed.others,trimmed.masq,trimmed.rest⟩⟩
      rw [length_cons,split]
      simp [refused]
    | none =>
      obtain ⟨willing,tables,log,rest_⟩ := delRuleDone ran
      have present' : ((own (t.tables.rules family)).map Rule.prio).Perm (rest.map ExitRule.priority ++ kept) := by
        rw [tables,Tables.setRulesHere,ownErase inside]
        have erased := present.erase r.priority
        simpa using erased
      obtain ⟨left,perm,exact_,size,cleaned,trimmed⟩ := @ih kept t later (by rw [tables]; exact eraseForeign clean) present'
      refine ⟨left,perm,?_,by rw [size,log,length_cons]; omega,cleaned,trimmedAfter ⟨fun f other => ?_,?_,rest_⟩ trimmed⟩
      · rw [exact_,length_cons,split,log]
        simp only [Nat.add_zero,willing,true_and]
        exact ⟨fun all i below => by rw [← all i below]; congr 1; omega,
          fun all i below => by rw [← all i below]; congr 1; omega⟩
      · rw [tables,Tables.setRulesOther _ _ other]
      · rw [tables,Tables.setRulesMasq]

def Swept (world : World) (t : Tables) (family : Family) (place : Nat) : Prop :=
  own (t.rules family) = [] ∨ world place = none ∧ ∀ i < (own (t.rules family)).length, world (place+1+i) = none

def sweepEnd (world : World) (t : Tables) (family : Family) (place : Nat) : Nat :=
  place + 1 + (if world place = none then (own (t.rules family)).length else 0)

theorem showRun (world : World) (family : Family) (s : State) :
    execute world (.ruleShow family) s = (world s.log.length,{s with log := s.log ++ [.command (.ruleShow family)]}) := by
  unfold execute
  cases world s.log.length <;> rfl

theorem listRulesRun (clean : NoForeign s.tables) : listRules world family s =
      ((match world s.log.length with
        | some f => .error (.wrap ("ip " ++ family.flag ++ " rule show") f.err)
        | none => .ok ((own (s.tables.rules family)).map (Rule.read family))),
        {s with log := s.log ++ [.command (.ruleShow family)]}) := by
  unfold listRules
  rw [showRun]
  cases world s.log.length with
  | none => simp only [readRules family (clean family),own]
  | some f => rfl

theorem readPriority (family : Family) (rules : List Rule) :
    (rules.map (Rule.read family)).map ExitRule.priority = rules.map Rule.prio := by
  rw [map_map]
  rfl

theorem sweepFamilyRun (clean : NoForeign s.tables) :
    (own ((sweepFamily world family s).2.tables.rules family) = [] ↔ Swept world s.tables family s.log.length) ∧
    (sweepFamily world family s).2.log.length = sweepEnd world s.tables family s.log.length ∧
    NoForeign (sweepFamily world family s).2.tables ∧ Trimmed family s (sweepFamily world family s).2 := by
  unfold sweepFamily Swept sweepEnd
  rw [listRulesRun clean]
  cases answer : world s.log.length with
  | some f => exact ⟨by simp,by simp,clean,⟨fun _ _ => rfl,rfl,rfl,rfl⟩⟩
  | none =>
    dsimp only
    have mine : ∀ r ∈ (own (s.tables.rules family)).map (Rule.read family), inRange r.priority = true := by
      intro r member
      obtain ⟨x,owned,rfl⟩ := mem_map.mp member
      exact (mem_filter.mp owned).2
    obtain ⟨left,perm,all,size,cleaned,trimmed⟩ := @deleteListedRun world family
      ((own (s.tables.rules family)).map (Rule.read family)) [] {s with log := s.log ++ [.command (.ruleShow family)]}
      mine clean (by rw [readPriority,append_nil])
    refine ⟨?_,by rw [size]; simp,cleaned,⟨trimmed.others,trimmed.masq,trimmed.rest⟩⟩
    have emptied : own ((deleteListed world family ((own (s.tables.rules family)).map (Rule.read family))
        {s with log := s.log ++ [.command (.ruleShow family)]}).2.tables.rules family) = [] ↔ left = [] := by
      rw [append_nil] at perm
      rw [← @map_eq_nil_iff _ _ Rule.prio]
      exact ⟨fun none_ => nil_perm.mp (none_ ▸ perm),fun none_ => perm_nil.mp (none_ ▸ perm)⟩
    rw [emptied,all]
    simp only [length_map,length_append,length_singleton,true_and]
    constructor
    · exact .inr
    · rintro (nothing | answered)
      · simp [nothing]
      · exact answered

end

section
variable {world : World}

theorem masqDelRun (family : Family) (s : State) : (delMasqueradeOf world family s).tables = s.tables.setMasq family
      (if world s.log.length = none then s.tables.masq family - 1 else s.tables.masq family) ∧
    (delMasqueradeOf world family s).log.length = s.log.length+1 ∧
    (delMasqueradeOf world family s).manifest = s.manifest ∧ (delMasqueradeOf world family s).prefs = s.prefs := by
  have same : s.tables.setMasq family (s.tables.masq family) = s.tables := by
    have each : (fun f => if f = family then s.tables.masq family else s.tables.masq f) = s.tables.masq := by
      funext f
      split
      · rename_i here
        rw [here]
      · rfl
    rw [Tables.setMasq,each]
  unfold delMasqueradeOf execute
  cases answer : world s.log.length with
  | some f => simp [same]
  | none =>
    cases count : s.tables.masq family with
    | zero =>
      rw [count] at same
      simp [Tables.apply,count,same]
    | succ n => simp [Tables.apply,count]

def masqPlace (place : Nat) : Family → Nat
  | .v4 => place
  | .v6 => place+1

def Sweeps (world : World) (t : Tables) (place : Nat) : Prop :=
  Swept world t .v4 (place+2) ∧ Swept world t .v6 (sweepEnd world t .v4 (place+2))

structure CleanedUp (world : World) (s t : State) : Prop where
  rules : (∀ f, own (t.tables.rules f) = []) ↔ Sweeps world s.tables s.log.length
  masq : ∀ f, t.tables.masq f =
    if world (masqPlace s.log.length f) = none then s.tables.masq f - 1 else s.tables.masq f
  clean : NoForeign t.tables
  rest : t.manifest = s.manifest ∧ t.prefs = s.prefs

theorem cleanupRun (s : State) (clean : NoForeign s.tables) : CleanedUp world s (cleanupLocked world s).2 := by
  obtain ⟨tables4,log4,rest4⟩ := @masqDelRun world .v4 s
  obtain ⟨tables6,log6,rest6⟩ := @masqDelRun world .v6 (delMasqueradeOf world .v4 s)
  have rules : (delMasquerade world s).tables.rules = s.tables.rules := by
    rw [delMasquerade,tables6,tables4]
    rfl
  have place : (delMasquerade world s).log.length = s.log.length+2 := by rw [delMasquerade,log6,log4]
  have cleanM : NoForeign (delMasquerade world s).tables := by
    intro f r member
    rw [rules] at member
    exact clean f r member
  obtain ⟨swept4,end4,clean4,trim4⟩ := @sweepFamilyRun world .v4 (delMasquerade world s) cleanM
  obtain ⟨swept6,_,clean6,trim6⟩ := @sweepFamilyRun world .v6 (sweepFamily world .v4 (delMasquerade world s)).2 clean4
  have masq : (cleanupLocked world s).2.tables.masq = (delMasquerade world s).tables.masq := trim6.masq.trans trim4.masq
  have six : (sweepFamily world .v4 (delMasquerade world s)).2.tables.rules .v6 = s.tables.rules .v6 := by
    rw [trim4.others .v6 (by simp),rules]
  refine ⟨?_,?_,clean6,?_,?_⟩
  · have first : own ((cleanupLocked world s).2.tables.rules .v4) = [] ↔ Swept world s.tables .v4 (s.log.length+2) := by
      have kept : (cleanupLocked world s).2.tables.rules .v4 = _ := trim6.others .v4 (by simp)
      rw [kept,swept4,place,Swept,Swept,rules]
    have second : own ((cleanupLocked world s).2.tables.rules .v6) = [] ↔
        Swept world s.tables .v6 (sweepEnd world s.tables .v4 (s.log.length+2)) := by
      refine swept6.trans ?_
      rw [end4,place,Swept,Swept,six,sweepEnd,sweepEnd,rules]
    rw [Sweeps,← first,← second]
    exact ⟨fun all => ⟨all .v4,all .v6⟩,fun both f => by cases f; exacts [both.1,both.2]⟩
  · intro f
    rw [masq,delMasquerade,tables6,log4]
    cases f with
    | v4 =>
      rw [Tables.setMasqOther _ _ (by simp),tables4,Tables.setMasqHere]
      rfl
    | v6 =>
      rw [Tables.setMasqHere,tables4,Tables.setMasqOther _ _ (by simp)]
      rfl
  · exact trim6.rest.1.trans (trim4.rest.1.trans (rest6.1.trans rest4.1))
  · exact trim6.rest.2.trans (trim4.rest.2.trans (rest6.2.trans rest4.2))

end
end VpnPack.Exit
