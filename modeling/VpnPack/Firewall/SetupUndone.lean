import VpnPack.Firewall.RuleZone
import VpnPack.Ops.Outline

/-! What a failed SetupWgS2sFirewall leaves in UDAPI when the requests of its rollback
succeed. -/
namespace VpnPack.Firewall
open Base List Ops State Udapi

section
variable {link : Link} {marker : String}

def RuleAdded (link : Link) (marker : String) (rules : List Rule) (n : Nat) : Prop :=
  link n = none ∧ Marked marker rules = [] ∧ link (n+1) = none

def RuleRefused (link : Link) (marker : String) (rules : List Rule) (n : Nat) : Prop :=
  link n ≠ none ∨ Marked marker rules = [] ∧ link (n+1) ≠ none

def ruleRequests (link : Link) (marker : String) (rules : List Rule) (n : Nat) : Nat :=
  if link n = none ∧ Marked marker rules = [] then 2 else 1

structure RuleOutcome (link : Link) (chain : Chain) (marker : String) (rule : Nat → Rule) (u : Config)
    (result : Option GoError × Config) : Prop where
  sets : result.2.sets = u.sets
  others : ∀ c, c ≠ chain → result.2.rules c = u.rules c
  calls : result.2.calls = u.calls + ruleRequests link marker (u.rules chain) u.calls
  nextID : u.nextID ≤ result.2.nextID
  added : RuleAdded link marker (u.rules chain) u.calls → result.2.rules chain = u.rules chain ++ [rule u.nextID]
  kept : ¬ RuleAdded link marker (u.rules chain) u.calls → result.2.rules chain = u.rules chain
  refused : result.1 ≠ none ↔ RuleRefused link marker (u.rules chain) u.calls

theorem addRuleOutcome (link : Link) (r : FirewallRule) (u : Config) : RuleOutcome link r.chain r.marker r.rule u (AddRule link r u) := by
  cases listing : link u.calls with
  | some e =>
    have ran : AddRule link r u = (some (.wrap ("check " ++ r.chain.name) e),{u with calls := u.calls+1}) := by
      simp only [AddRule,HasMarkerRule,request,listing]
    rw [ran]
    exact ⟨rfl,fun _ _ => rfl,by simp [ruleRequests,listing],le_rfl,fun added => absurd (listing.symm.trans added.1) (by simp),
      fun _ => rfl,by simp [RuleRefused,listing]⟩
  | none =>
    by_cases absent : Marked r.marker (u.rules r.chain) = []
    · have ran : AddRule link r u = wrapping ("add " ++ r.chain.name ++ " rule") (request link (postRule r)) {u with calls := u.calls+1} := by
        simp only [AddRule,HasMarkerRule,request,listing,id_eq,markedNil.mp absent]
      rw [ran]
      cases posting : link (u.calls+1) with
      | some e =>
        have left : request link (postRule r) {u with calls := u.calls+1} = (some e,{u with calls := u.calls+1+1}) := by
          simp only [request,posting]
        simp only [wrapping,left]
        exact ⟨rfl,fun _ _ => rfl,by simp [ruleRequests,listing,absent],le_rfl,
          fun added => absurd (posting.symm.trans added.2.2) (by simp),fun _ => rfl,by simp [RuleRefused,listing,absent,posting]⟩
      | none =>
        have left : request link (postRule r) {u with calls := u.calls+1} = (none,postRule r {u with calls := u.calls+1+1}) := by
          simp only [request,posting]
        simp only [wrapping,left]
        exact ⟨rfl,fun _ other => if_neg other,by simp [ruleRequests,listing,absent,postRule,withRules],Nat.le_succ _,
          fun _ => if_pos rfl,fun unadded => absurd ⟨listing,absent,posting⟩ unadded,by simp [RuleRefused,listing,absent,posting]⟩
    · have present : (u.rules r.chain).any (fun x => x.marker == r.marker) = true :=
        Bool.of_not_eq_false (fun nothing => absent (markedNil.mpr nothing))
      have ran : AddRule link r u = (none,{u with calls := u.calls+1}) := by
        simp only [AddRule,HasMarkerRule,request,listing,id_eq,present]
      rw [ran]
      exact ⟨rfl,fun _ _ => rfl,by simp [ruleRequests,absent],le_rfl,fun added => absurd added.2.1 absent,fun _ => rfl,
        by simp [RuleRefused,listing,absent]⟩

def turn (link : Link) (marker : String) (u : Config) : Chain → Nat
  | .forwardIn => u.calls
  | .input => u.calls + ruleRequests link marker (u.rules .forwardIn) u.calls
  | .output =>
    let n := u.calls + ruleRequests link marker (u.rules .forwardIn) u.calls
    n + ruleRequests link marker (u.rules .input) n

def lastTurn (link : Link) (marker : String) (u : Config) : Nat :=
  turn link marker u .output + ruleRequests link marker (u.rules .output) (turn link marker u .output)

structure RulesOutcome (link : Link) (iface marker chainPrefix : String) (u : Config) (result : Option GoError × Config) : Prop where
  sets : result.2.sets = u.sets
  calls : result.2.calls = lastTurn link marker u
  added : ∀ chain, RuleAdded link marker (u.rules chain) (turn link marker u chain) →
    ∃ id, u.nextID ≤ id ∧ result.2.rules chain = u.rules chain ++ [(zoneRule iface marker chainPrefix chain).rule id]
  kept : ∀ chain, ¬ RuleAdded link marker (u.rules chain) (turn link marker u chain) → result.2.rules chain = u.rules chain
  refused : result.1 ≠ none ↔ ∃ chain, RuleRefused link marker (u.rules chain) (turn link marker u chain)

theorem existsChain {p : Chain → Prop} : (∃ chain, p chain) ↔ p .forwardIn ∨ p .input ∨ p .output := by
  constructor
  · rintro ⟨chain,holds⟩
    cases chain with
    | forwardIn => exact .inl holds
    | input => exact .inr (.inl holds)
    | output => exact .inr (.inr holds)
  · intro either
    rcases either with first | second | third
    · exact ⟨.forwardIn,first⟩
    · exact ⟨.input,second⟩
    · exact ⟨.output,third⟩

theorem addInterfaceOutcome (link : Link) (iface marker chainPrefix : String) (u : Config) :
    RulesOutcome link iface marker chainPrefix u (AddInterfaceRulesForZone link iface marker chainPrefix u) := by
  let rule := zoneRule iface marker chainPrefix
  have first : RuleOutcome link .forwardIn marker (rule .forwardIn).rule u _ := addRuleOutcome link (rule .forwardIn) u
  generalize a : AddRule link (rule .forwardIn) u = resultA at first
  have second : RuleOutcome link .input marker (rule .input).rule resultA.2 _ := addRuleOutcome link (rule .input) resultA.2
  generalize b : AddRule link (rule .input) resultA.2 = resultB at second
  have third : RuleOutcome link .output marker (rule .output).rule resultB.2 _ := addRuleOutcome link (rule .output) resultB.2
  generalize c : AddRule link (rule .output) resultB.2 = resultC at third
  obtain ⟨errA,stateA⟩ := attemptAllStep (AddRule link) (rule .forwardIn) [rule .input,rule .output] u
  obtain ⟨errB,stateB⟩ := attemptAllStep (AddRule link) (rule .input) [rule .output] resultA.2
  obtain ⟨errC,stateC⟩ := attemptAllStep (AddRule link) (rule .output) [] resultB.2
  rw [a] at errA stateA
  rw [b] at errB stateB
  rw [c] at errC stateC
  have state : (AddInterfaceRulesForZone link iface marker chainPrefix u).2 = resultC.2 := stateA.trans (stateB.trans stateC)
  have inputA : resultA.2.rules .input = u.rules .input := first.others _ (by decide)
  have outputB : resultB.2.rules .output = u.rules .output := (second.others _ (by decide)).trans (first.others _ (by decide))
  have forwardC : resultC.2.rules .forwardIn = resultA.2.rules .forwardIn := (third.others _ (by decide)).trans (second.others _ (by decide))
  have inputC : resultC.2.rules .input = resultB.2.rules .input := third.others _ (by decide)
  have turnA : resultA.2.calls = turn link marker u .input := first.calls
  have turnB : resultB.2.calls = turn link marker u .output := by
    rw [second.calls,turnA,inputA]
    rfl
  have addedB := second.added
  have addedC := third.added
  have keptB := second.kept
  have keptC := third.kept
  have refusedB := second.refused
  have refusedC := third.refused
  rw [inputA,turnA] at addedB keptB refusedB
  rw [outputB,turnB] at addedC keptC refusedC
  refine ⟨?_,?_,?_,?_,?_⟩
  · rw [state,third.sets,second.sets,first.sets]
  · rw [state,third.calls,turnB,outputB]
    rfl
  · intro chain added
    rw [state]
    cases chain with
    | forwardIn => exact ⟨u.nextID,le_rfl,forwardC.trans (first.added added)⟩
    | input => exact ⟨resultA.2.nextID,first.nextID,inputC.trans (addedB added)⟩
    | output => exact ⟨resultB.2.nextID,first.nextID.trans second.nextID,addedC added⟩
  · intro chain kept
    rw [state]
    cases chain with
    | forwardIn => exact forwardC.trans (first.kept kept)
    | input => exact inputC.trans (keptB kept)
    | output => exact keptC kept
  · have none_ : ¬ (attemptAll (AddRule link) [] resultC.2).1 ≠ none := fun some_ => some_ rfl
    rw [existsChain]
    refine errA.trans (or_congr first.refused (errB.trans (or_congr refusedB (errC.trans ?_))))
    rw [or_iff_left none_]
    exact refusedC

end
section
variable {link : Link} {ipsetName : String} {cidrs : List String} {u v : Config}

def Filled (link : Link) (cidrs entries : List String) (n : Nat) : Prop :=
  link n = none ∧ ((∀ cidr ∈ cidrs, cidr ∈ entries) ∨ link (n+1) = none)

theorem findAnswered (listed : link u.calls = none) :
    findIPSet link ipsetName u = (.ok (u.sets.lookup ipsetName),{u with calls := u.calls+1}) := by
  simp only [findIPSet,request,listed,id_eq]

theorem findRefused {e : GoError} (refused : link u.calls = some e) :
    findIPSet link ipsetName u = (.error (.wrap "get firewall sets" e),{u with calls := u.calls+1}) := by
  simp only [findIPSet,request,refused]

theorem addedNone {entries : List String} : cidrs.filter (fun cidr => decide (cidr ∉ entries)) = [] ↔ ∀ cidr ∈ cidrs, cidr ∈ entries := by
  simp [filter_eq_nil_iff]

theorem ensureRefused {e : GoError} (ran : EnsureZoneSubnets link ipsetName cidrs u = (some e,v)) :
    v.rules = u.rules ∧ v.sets = u.sets ∧ ∀ entries, u.sets.lookup ipsetName = some entries → ¬ Filled link cidrs entries u.calls := by
  unfold EnsureZoneSubnets at ran
  split at ran
  · simp at ran
  · cases listing : link u.calls with
    | some cause =>
      rw [findRefused listing] at ran
      cases ran
      exact ⟨rfl,rfl,fun entries _ filled => absurd (listing.symm.trans filled.1) (by simp)⟩
    | none =>
      rw [findAnswered listing] at ran
      cases found : u.sets.lookup ipsetName with
      | none =>
        rw [found] at ran
        cases ran
        exact ⟨rfl,rfl,fun entries given => by cases given⟩
      | some entries =>
        rw [found] at ran
        dsimp only at ran
        split at ran
        · simp at ran
        · rename_i missing
          cases putting : link (u.calls+1) with
          | some cause =>
            simp only [putSet,wrapping,request,putting] at ran
            cases ran
            refine ⟨rfl,rfl,fun other same filled => ?_⟩
            cases same
            rcases filled.2 with all | answered
            · exact missing (addedNone.mpr all)
            · rw [putting] at answered
              contradiction
          | none => simp [putSet,wrapping,request,putting] at ran

theorem ensureFilled (some_ : cidrs ≠ []) (ran : EnsureZoneSubnets link ipsetName cidrs u = (none,v)) :
    ∃ entries, u.sets.lookup ipsetName = some entries ∧ Filled link cidrs entries u.calls := by
  unfold EnsureZoneSubnets at ran
  rw [if_neg (fun empty => some_ (length_eq_zero_iff.mp empty))] at ran
  cases listing : link u.calls with
  | some cause =>
    rw [findRefused listing] at ran
    simp at ran
  | none =>
    rw [findAnswered listing] at ran
    cases found : u.sets.lookup ipsetName with
    | none =>
      rw [found] at ran
      simp at ran
    | some entries =>
      rw [found] at ran
      dsimp only at ran
      refine ⟨entries,rfl,listing,?_⟩
      split at ran
      · rename_i nothing
        exact .inl (addedNone.mp nothing)
      · cases putting : link (u.calls+1) with
        | some cause => simp [putSet,wrapping,request,putting] at ran
        | none => exact .inr rfl

end
section
variable {link : Link} {start : Nat} {u v : Config}

def AnsweringFrom (link : Link) (start : Nat) : Prop := ∀ n, start ≤ n → link n = none

theorem requestLate (late : AnsweringFrom link start) (effect : Config → Config) (past : start ≤ u.calls) :
    request link effect u = (none,effect {u with calls := u.calls+1}) := by
  simp only [request,late u.calls past]

def Succeeds (start : Nat) (p : Proc Config) : Prop := ∀ u, start ≤ u.calls → (p u).1 = none ∧ start ≤ (p u).2.calls

variable {α : Type} {body : α → Proc Config}

theorem forEachSucceeds (each : ∀ x, Succeeds start (body x)) (xs : List α) :
    Succeeds start (forEach body xs) := by
  induction xs with
  | nil => exact fun u past => ⟨rfl,past⟩
  | cons x xs ih =>
    intro u past
    obtain ⟨ok,next⟩ := each x u past
    rw [forEach,seqOk (Prod.ext ok rfl)]
    exact ih _ next

theorem attemptAllSucceeds (each : ∀ x, Succeeds start (body x)) (xs : List α) :
    Succeeds start (attemptAll body xs) := by
  intro u past
  obtain ⟨ok,next⟩ := forEachSucceeds each xs u past
  have ran := attemptAllOk.mpr (Prod.ext ok rfl)
  rw [ran]
  exact ⟨rfl,next⟩

theorem removeInterfaceSucceeds (late : AnsweringFrom link start) (marker : String) : Succeeds start (RemoveInterfaceRules link marker) := by
  refine attemptAllSucceeds (fun chain u past => ?_) Chain.all
  simp only [removeMarkerRules,requestLate late _ past]
  refine forEachSucceeds (fun r w past => ?_) _ _ (Nat.le_succ_of_le past)
  simp only [wrapping,requestLate late _ past]
  exact ⟨rfl,Nat.le_succ_of_le past⟩

theorem removeSubnetSucceeds (late : AnsweringFrom link start) (ipsetName cidr : String) :
    Succeeds start (RemoveZoneSubnet link ipsetName cidr) := by
  intro u past
  have next : start ≤ u.calls+1 := Nat.le_succ_of_le past
  cases found : u.sets.lookup ipsetName with
  | none =>
    have ran : RemoveZoneSubnet link ipsetName cidr u = (none,{u with calls := u.calls+1}) := by
      simp only [RemoveZoneSubnet,findAnswered (late _ past),found]
    rw [ran]
    exact ⟨rfl,next⟩
  | some entries =>
    simp only [RemoveZoneSubnet,findAnswered (late _ past),found]
    split
    · exact ⟨rfl,next⟩
    · rw [putSet,wrapping,@requestLate link start {u with calls := u.calls+1} late _ next]
      exact ⟨rfl,Nat.le_succ_of_le next⟩

structure Emptied (ipsetName : String) (cidrs : List String) (u v : Config) : Prop where
  rules : v.rules = u.rules
  here : v.sets.lookup ipsetName = (u.sets.lookup ipsetName).map (fun entries => entries.filter (fun entry => decide (entry ∉ cidrs)))
  others : ∀ name, name ≠ ipsetName → v.sets.lookup name = u.sets.lookup name

theorem removeSubnetsEmptied {env : FwEnv} (late : AnsweringFrom env.link start) (ipsetName : String) (cidrs : List String) (f : Fw)
    (past : start ≤ f.udapi.calls) : Emptied ipsetName cidrs f.udapi (removeSubnets env ipsetName cidrs f).2.udapi ∧
      start ≤ (removeSubnets env ipsetName cidrs f).2.udapi.calls := by
  induction cidrs generalizing f with
  | nil =>
    refine ⟨⟨rfl,?_,fun _ _ => rfl⟩,past⟩
    simp [removeSubnets,forEach]
  | cons cidr rest ih =>
    obtain ⟨ok,next⟩ := removeSubnetSucceeds late ipsetName cidr f.udapi past
    have removed := removeSubnetSource (Prod.ext ok rfl)
    have walk : removeSubnets env ipsetName (cidr :: rest) f =
        removeSubnets env ipsetName rest {f with udapi := (RemoveZoneSubnet env.link ipsetName cidr f.udapi).2} := rfl
    rw [walk]
    obtain ⟨emptied,last⟩ := ih {f with udapi := (RemoveZoneSubnet env.link ipsetName cidr f.udapi).2} next
    refine ⟨⟨emptied.rules.trans removed.rules,?_,fun name other => (emptied.others name other).trans (removed.others name other)⟩,last⟩
    rw [emptied.here,removed.here,Option.map_map]
    congr 1
    funext entries
    simp only [Function.comp,filter_filter]
    congr 1
    funext entry
    rw [Bool.eq_iff_iff]
    simp [and_comm]

end
section
variable {iface marker chainPrefix : String} {link : Link} {u : Config} {result : Option GoError × Config}

def Numbered (u : Config) : Prop := ∀ chain, ∀ r ∈ u.rules chain, r.id < u.nextID

theorem unmarkedAdded {before : List Rule} {chain : Chain} {id : Nat} (plain : Plain marker) (absent : Marked marker before = [])
    (fresh : ∀ r ∈ before, r.id < id) : unmarked marker (before ++ [(zoneRule iface marker chainPrefix chain).rule id]) = before := by
  have own := @zoneRuleMarker iface marker chainPrefix chain plain id
  have marked : Marked marker (before ++ [(zoneRule iface marker chainPrefix chain).rule id]) =
      [(zoneRule iface marker chainPrefix chain).rule id] := by
    rw [Marked,filter_append,show before.filter (fun r => r.marker == marker) = [] from absent,nil_append,
      filter_cons_of_pos (by simp [own]),filter_nil]
  rw [unmarked,marked,filter_append]
  have last : [(zoneRule iface marker chainPrefix chain).rule id].filter
      (fun r => decide (r.id ∉ [(zoneRule iface marker chainPrefix chain).rule id].map Rule.id)) = [] := by simp
  rw [last,append_nil,filter_eq_self]
  intro r member
  have below := fresh r member
  simp only [map_cons,map_nil,mem_singleton,decide_eq_true_eq]
  exact Nat.ne_of_lt below

theorem chainRestored (numbered : Numbered u) (outcome : RulesOutcome link iface marker chainPrefix u result) (ok : result.1 = none)
    (chain : Chain) : unmarked marker (result.2.rules chain) = u.rules chain ↔ Plain marker ∧ Marked marker (u.rules chain) = [] := by
  have accepted : ¬ RuleRefused link marker (u.rules chain) (turn link marker u chain) :=
    fun refused => outcome.refused.mpr ⟨chain,refused⟩ ok
  by_cases added : RuleAdded link marker (u.rules chain) (turn link marker u chain)
  · obtain ⟨id,fresh,grown⟩ := outcome.added chain added
    rw [grown]
    by_cases plain : Plain marker
    · exact iff_of_true (unmarkedAdded plain added.2.1 (fun r member => (numbered chain r member).trans_le fresh)) ⟨plain,added.2.1⟩
    · refine iff_of_false (fun same => ?_) (fun both => plain both.1)
      rw [unmarked,unplainMarked plain,filter_eq_self.mpr (by simp)] at same
      simpa using congrArg List.length same
  · rw [outcome.kept chain added]
    have present : Marked marker (u.rules chain) ≠ [] := by
      intro absent
      have listed : link (turn link marker u chain) = none := not_not.mp (fun failed => accepted (.inl failed))
      have posted : link (turn link marker u chain + 1) = none := not_not.mp (fun failed => accepted (.inr ⟨absent,failed⟩))
      exact added ⟨listed,absent,posted⟩
    refine iff_of_false (fun same => present ?_) (fun both => present both.2)
    have cleared := unmarkedNone marker (u.rules chain)
    rwa [same] at cleared

theorem rulesKept (outcome : RulesOutcome link iface marker chainPrefix u result) :
    result.2.rules = u.rules ↔ ∀ chain, ¬ RuleAdded link marker (u.rules chain) (turn link marker u chain) := by
  constructor
  · intro same chain added
    obtain ⟨id,_,grown⟩ := outcome.added chain added
    rw [congrFun same chain] at grown
    simpa using congrArg List.length grown
  · intro none_
    funext chain
    exact outcome.kept chain (none_ chain)

end

def setupOps (env : FwEnv) (tunnelID iface : String) (allowedIPs : List String) (f : Fw) : List (Op Fw) :=
  setupSteps env iface (currentChainPrefix env tunnelID f).1 (filterBlockedAllowedIPs env iface allowedIPs f)

def setupStart (env : FwEnv) (tunnelID : String) (f : Fw) : Fw := {(currentChainPrefix env tunnelID f).2 with clock := f.clock+1}

def UndoAnswered (env : FwEnv) (ctx : Context) (tunnelID iface : String) (allowedIPs : List String) (f : Fw) : Prop :=
  ∀ done calls cause, Stop ctx (setupOps env tunnelID iface allowedIPs f) (setupStart env tunnelID f) done calls cause →
    AnsweringFrom env.link (after (setupOps env tunnelID iface allowedIPs f) (setupStart env tunnelID f) calls).udapi.calls

def SameFirewall (u v : Config) : Prop := v.rules = u.rules ∧ ∀ name, v.sets.lookup name = u.sets.lookup name

/- If a request of the first step fails, no chain has got its rule; if none does, no chain had
a rule of the marker; and if the context ends only after the set was filled, none of the
subnets was in it before. -/
structure Harmless (link : Link) (ctx : Context) (iface ipsetName : String) (filtered : List String) (u : Config) : Prop where
  refused : ctx 0 = none →
    (∃ chain, RuleRefused link (wgS2sMarker iface) (u.rules chain) (turn link (wgS2sMarker iface) u chain)) →
      ∀ chain, ¬ RuleAdded link (wgS2sMarker iface) (u.rules chain) (turn link (wgS2sMarker iface) u chain)
  accepted : ctx 0 = none →
    (∀ chain, ¬ RuleRefused link (wgS2sMarker iface) (u.rules chain) (turn link (wgS2sMarker iface) u chain)) →
      Plain iface ∧ ∀ chain, Marked (wgS2sMarker iface) (u.rules chain) = []
  filled : ctx 0 = none → ctx 1 = none → ctx 2 = none →
    (∀ chain, ¬ RuleRefused link (wgS2sMarker iface) (u.rules chain) (turn link (wgS2sMarker iface) u chain)) →
      ∀ entries, u.sets.lookup ipsetName = some entries → Filled link filtered entries (lastTurn link (wgS2sMarker iface) u) →
        ∀ cidr ∈ filtered, cidr ∉ entries

inductive SetupEnds (link : Link) (ctx : Context) (iface chainPrefix : String) (filtered : List String) (u : Config) : Config → Prop where
  | cancelled (before : ctx 0 ≠ none) : SetupEnds link ctx iface chainPrefix filtered u u
  | refused (live : ctx 0 = none) (failed : (AddInterfaceRulesForZone link iface (wgS2sMarker iface) chainPrefix u).1 ≠ none) :
    SetupEnds link ctx iface chainPrefix filtered u (AddInterfaceRulesForZone link iface (wgS2sMarker iface) chainPrefix u).2
  | undone {w v : Config} (live : ctx 0 = none) (ok : (AddInterfaceRulesForZone link iface (wgS2sMarker iface) chainPrefix u).1 = none)
      (rules : w.rules = (AddInterfaceRulesForZone link iface (wgS2sMarker iface) chainPrefix u).2.rules) (sets : w.sets = u.sets)
      (idle : ctx 1 = none → ctx 2 = none → ∀ entries, u.sets.lookup (zoneIPSetName chainPrefix) = some entries →
        Filled link filtered entries (lastTurn link (wgS2sMarker iface) u) → filtered = [])
      (removed : RemoveInterfaceRules link (wgS2sMarker iface) w = (none,v)) : SetupEnds link ctx iface chainPrefix filtered u v
  | emptied {w v : Config} {entries : List String} (live : ctx 0 = none) (later : ctx 1 = none) (last : ctx 2 = none)
      (ok : (AddInterfaceRulesForZone link iface (wgS2sMarker iface) chainPrefix u).1 = none)
      (rules : w.rules = (AddInterfaceRulesForZone link iface (wgS2sMarker iface) chainPrefix u).2.rules)
      (found : u.sets.lookup (zoneIPSetName chainPrefix) = some entries)
      (filled : Filled link filtered entries (lastTurn link (wgS2sMarker iface) u))
      (here : w.sets.lookup (zoneIPSetName chainPrefix) = some (entries.filter (fun entry => decide (entry ∉ filtered))))
      (others : ∀ name, name ≠ zoneIPSetName chainPrefix → w.sets.lookup name = u.sets.lookup name)
      (removed : RemoveInterfaceRules link (wgS2sMarker iface) w = (none,v)) : SetupEnds link ctx iface chainPrefix filtered u v

section
variable {env : FwEnv} {ctx : Context} {tunnelID iface chainPrefix : String} {allowedIPs filtered : List String} {f g s t : Fw} {e : GoError}

theorem secondStep {op : Op Fw} (found : (setupSteps env iface chainPrefix filtered)[1]? = some op) :
    op = fillIPSet env (zoneIPSetName chainPrefix) filtered ∧ filtered ≠ [] := by
  unfold setupSteps at found
  split at found
  · rename_i some_
    exact ⟨(Option.some.inj found).symm,length_pos_iff.mp some_⟩
  · simp at found

theorem noThirdStep {op : Op Fw} {k : Nat} : (setupSteps env iface chainPrefix filtered)[k+2]? ≠ some op := by
  unfold setupSteps
  split <;> simp

theorem filteredBack {entries filtered : List String} :
    (entries ++ filtered.filter (fun cidr => decide (cidr ∉ entries))).filter (fun entry => decide (entry ∉ filtered)) =
      entries.filter (fun entry => decide (entry ∉ filtered)) := by
  rw [filter_append]
  have nothing : (filtered.filter (fun cidr => decide (cidr ∉ entries))).filter (fun entry => decide (entry ∉ filtered)) = [] := by
    rw [filter_eq_nil_iff]
    intro cidr member
    simpa using mem_of_mem_filter member
  rw [nothing,append_nil]

theorem firstUndone (w : Fw) :
    (undoAll ((setupSteps env iface chainPrefix filtered).take 1).reverse w).2.udapi = (RemoveInterfaceRules env.link (wgS2sMarker iface) w.udapi).2 := by
  have one : (setupSteps env iface chainPrefix filtered).take 1 = [installRules env iface chainPrefix] := rfl
  rw [one,reverse_singleton,undoAllStep]
  rfl

theorem bothUndone (some_ : filtered ≠ []) (w : Fw) : (undoAll ((setupSteps env iface chainPrefix filtered).take 2).reverse w).2.udapi =
      (RemoveInterfaceRules env.link (wgS2sMarker iface) (removeSubnets env (zoneIPSetName chainPrefix) filtered w).2.udapi).2 := by
  have two : (setupSteps env iface chainPrefix filtered).take 2 =
      [installRules env iface chainPrefix,fillIPSet env (zoneIPSetName chainPrefix) filtered] := by
    rw [setupSteps,if_pos (length_pos_iff.mpr some_)]
    rfl
  rw [two,reverse_cons,reverse_singleton,singleton_append,undoAllStep,undoAllStep]
  rfl

theorem removedDone {start : Nat} {w : Config} (late : AnsweringFrom env.link start) (past : start ≤ w.calls) :
    RemoveInterfaceRules env.link (wgS2sMarker iface) w = (none,(RemoveInterfaceRules env.link (wgS2sMarker iface) w).2) :=
  Prod.ext (removeInterfaceSucceeds late _ w past).1 rfl

theorem afterInstall : after (setupSteps env iface chainPrefix filtered) s 1 =
    {s with udapi := (AddInterfaceRulesForZone env.link iface (wgS2sMarker iface) chainPrefix s.udapi).2} := by
  have found : (setupSteps env iface chainPrefix filtered)[0]? = some (installRules env iface chainPrefix) := rfl
  rw [afterSucc found]
  rfl

theorem afterFill (some_ : filtered ≠ []) : (after (setupSteps env iface chainPrefix filtered) s 2).udapi =
    (EnsureZoneSubnets env.link (zoneIPSetName chainPrefix) filtered
      (AddInterfaceRulesForZone env.link iface (wgS2sMarker iface) chainPrefix s.udapi).2).2 := by
  have found : (setupSteps env iface chainPrefix filtered)[1]? = some (fillIPSet env (zoneIPSetName chainPrefix) filtered) := by
    rw [setupSteps,if_pos (length_pos_iff.mpr some_)]
    rfl
  rw [afterSucc found,afterInstall]
  rfl

theorem fillUndone {w : Config} {n : Nat} (some_ : filtered ≠ []) (late : AnsweringFrom env.link n) (past : n ≤ s.udapi.calls)
    (ran : EnsureZoneSubnets env.link (zoneIPSetName chainPrefix) filtered w = (none,s.udapi)) :
    ∃ entries, w.sets.lookup (zoneIPSetName chainPrefix) = some entries ∧ Filled env.link filtered entries w.calls ∧
      Emptied (zoneIPSetName chainPrefix) filtered w (removeSubnets env (zoneIPSetName chainPrefix) filtered s).2.udapi := by
  obtain ⟨entries,known,filled⟩ := ensureFilled some_ ran
  obtain ⟨other,same,set⟩ := (ensureSubnetsSource ran).resolve_left (fun empty => some_ empty.1)
  cases Option.some.inj (known.symm.trans same)
  obtain ⟨emptied,_⟩ := removeSubnetsEmptied late (zoneIPSetName chainPrefix) filtered s past
  refine ⟨entries,known,filled,emptied.rules.trans set.rules,?_,fun name different => (emptied.others name different).trans (set.others name different)⟩
  rw [emptied.here,set.here,known,Option.map_some,Option.map_some,filteredBack]

theorem runEnds (ran : run ctx (setupSteps env iface chainPrefix filtered) s = (some e,t))
    (undoing : ∀ done calls cause, Stop ctx (setupSteps env iface chainPrefix filtered) s done calls cause →
      AnsweringFrom env.link (after (setupSteps env iface chainPrefix filtered) s calls).udapi.calls) :
    SetupEnds env.link ctx iface chainPrefix filtered s.udapi t.udapi := by
  obtain ⟨done,calls,cause,stop,completed,final⟩ := runStops ran
  have late := undoing done calls cause stop
  have outcome := addInterfaceOutcome env.link iface (wgS2sMarker iface) chainPrefix s.udapi
  have installed (under : 0 < done) : (AddInterfaceRulesForZone env.link iface (wgS2sMarker iface) chainPrefix s.udapi).1 = none := by
    obtain ⟨op,same,ok⟩ := completed 0 under
    cases same
    exact ok
  cases stop with
  | before found live cancelled =>
    rcases done with _ | _ | k
    · rw [final]
      exact .cancelled (by rw [cancelled]; simp)
    · rw [final,firstUndone]
      refine .undone (live 0 (by decide)) (installed (by decide)) (by rw [afterInstall]) (by rw [afterInstall]; exact outcome.sets)
        (fun _ running => ?_) (removedDone late le_rfl)
      rw [cancelled] at running
      contradiction
    · exact absurd found noThirdStep
  | failed found live err =>
    rcases done with _ | _ | k
    · cases found
      have left : t.udapi = (AddInterfaceRulesForZone env.link iface (wgS2sMarker iface) chainPrefix s.udapi).2 := by
        rw [final,afterInstall]
        rfl
      rw [left]
      refine .refused (live 0 (by decide)) (fun ok => ?_)
      have failed : (AddInterfaceRulesForZone env.link iface (wgS2sMarker iface) chainPrefix s.udapi).1 = some cause := err
      rw [ok] at failed
      contradiction
    · obtain ⟨rfl,some_⟩ := secondStep found
      rw [afterInstall] at err
      obtain ⟨rules,sets,unfilled⟩ := ensureRefused (Prod.ext err rfl)
      rw [outcome.sets,outcome.calls] at unfilled
      rw [final,firstUndone]
      exact .undone (live 0 (by decide)) (installed (by decide)) (by rw [afterFill some_]; exact rules)
        (by rw [afterFill some_]; exact sets.trans outcome.sets) (fun _ _ entries known filled => absurd filled (unfilled entries known))
        (removedDone late le_rfl)
    · exact absurd found noThirdStep
  | @later k op _ found live ok cancelled =>
    rcases k with _ | _ | k
    · rw [final,firstUndone]
      refine .undone (live 0 (by decide)) (installed (by decide)) (by rw [afterInstall]) (by rw [afterInstall]; exact outcome.sets)
        (fun running => ?_) (removedDone late le_rfl)
      rw [cancelled] at running
      contradiction
    · obtain ⟨rfl,some_⟩ := secondStep found
      rw [afterInstall] at ok
      obtain ⟨entries,known,filled,emptied⟩ := fillUndone some_ late le_rfl (Prod.ext ok (afterFill some_).symm)
      have past := (removeSubnetsEmptied late (zoneIPSetName chainPrefix) filtered _ le_rfl).2
      have here := emptied.here
      rw [known,Option.map_some] at here
      rw [outcome.sets] at known
      rw [outcome.calls] at filled
      rw [final,bothUndone some_]
      refine .emptied (live 0 (by decide)) (live 1 (by decide)) (live 2 (by decide)) (installed (by decide)) emptied.rules known filled here
        (fun name other => ?_) (removedDone late past)
      rw [emptied.others name other,outcome.sets]
    · exact absurd found noThirdStep

theorem rulesRestored {link : Link} {u w v : Config} (numbered : Numbered u)
    (ok : (AddInterfaceRulesForZone link iface (wgS2sMarker iface) chainPrefix u).1 = none)
    (rules : w.rules = (AddInterfaceRulesForZone link iface (wgS2sMarker iface) chainPrefix u).2.rules)
    (removed : RemoveInterfaceRules link (wgS2sMarker iface) w = (none,v)) :
    v.rules = u.rules ↔ Plain iface ∧ ∀ chain, Marked (wgS2sMarker iface) (u.rules chain) = [] := by
  have outcome := addInterfaceOutcome link iface (wgS2sMarker iface) chainPrefix u
  have each (chain : Chain) : v.rules chain = u.rules chain ↔ Plain iface ∧ Marked (wgS2sMarker iface) (u.rules chain) = [] := by
    rw [(removeInterfaceSource removed).2 chain,rules,chainRestored numbered outcome ok chain,markerPlainIff]
  constructor
  · intro same
    have known (chain : Chain) := (each chain).mp (congrFun same chain)
    exact ⟨(known .input).1,fun chain => (known chain).2⟩
  · rintro ⟨plain,absent⟩
    funext chain
    exact (each chain).mpr ⟨plain,absent chain⟩

theorem endsSame {link : Link} {u v : Config} (numbered : Numbered u) (ends : SetupEnds link ctx iface chainPrefix filtered u v) :
    SameFirewall u v ↔ Harmless link ctx iface (zoneIPSetName chainPrefix) filtered u := by
  have outcome := addInterfaceOutcome link iface (wgS2sMarker iface) chainPrefix u
  have accepted (ok : (AddInterfaceRulesForZone link iface (wgS2sMarker iface) chainPrefix u).1 = none) :
      ¬ ∃ chain, RuleRefused link (wgS2sMarker iface) (u.rules chain) (turn link (wgS2sMarker iface) u chain) :=
    fun refused => outcome.refused.mpr refused ok
  cases ends with
  | cancelled before =>
    exact iff_of_true ⟨rfl,fun _ => rfl⟩ ⟨fun live => absurd live before,fun live => absurd live before,fun live => absurd live before⟩
  | refused live failed =>
    have some_ := outcome.refused.mp failed
    rw [SameFirewall,rulesKept outcome,outcome.sets]
    constructor
    · rintro ⟨nothing,_⟩
      exact ⟨fun _ _ => nothing,fun _ none_ => absurd some_ (not_exists.mpr none_),fun _ _ _ none_ => absurd some_ (not_exists.mpr none_)⟩
    · intro harmless
      exact ⟨harmless.refused live some_,fun _ => rfl⟩
  | undone live ok rules sets idle removed =>
    rw [SameFirewall,rulesRestored numbered ok rules removed,(removeInterfaceSource removed).1,sets]
    constructor
    · rintro ⟨clean,_⟩
      refine ⟨fun _ some_ => absurd some_ (accepted ok),fun _ _ => clean,fun _ later last _ entries found filled => ?_⟩
      rw [idle later last entries found filled]
      exact fun cidr member => by cases member
    · intro harmless
      exact ⟨harmless.accepted live (not_exists.mp (accepted ok)),fun _ => rfl⟩
  | @emptied w v entries live later last ok rules found filled here others removed =>
    rw [SameFirewall,rulesRestored numbered ok rules removed,(removeInterfaceSource removed).1]
    constructor
    · rintro ⟨clean,sets⟩
      refine ⟨fun _ some_ => absurd some_ (accepted ok),fun _ _ => clean,fun _ _ _ _ given known _ cidr member inside => ?_⟩
      cases Option.some.inj (found.symm.trans known)
      have same : entries.filter (fun entry => decide (entry ∉ filtered)) = entries :=
        Option.some.inj (here.symm.trans ((sets _).trans found))
      have outside := filter_eq_self.mp same cidr inside
      exact of_decide_eq_true outside member
    · intro harmless
      refine ⟨harmless.accepted live (not_exists.mp (accepted ok)),fun name => ?_⟩
      by_cases same : name = zoneIPSetName chainPrefix
      · have apart := harmless.filled live later last (not_exists.mp (accepted ok)) entries found filled
        rw [same,here,found,filter_eq_self.mpr]
        exact fun entry inside => decide_eq_true (fun member => apart entry member inside)
      · exact others name same

theorem setupFailedSame (numbered : Numbered f.udapi) (undoing : UndoAnswered env ctx tunnelID iface allowedIPs f)
    (ran : SetupWgS2sFirewall env ctx tunnelID iface allowedIPs f = (some e,g)) :
    SameFirewall f.udapi g.udapi ↔ Harmless env.link ctx iface (zoneIPSetName (currentChainPrefix env tunnelID f).1)
      (filterBlockedAllowedIPs env iface allowedIPs f) f.udapi := by
  have ends := runEnds ran undoing
  have start : (setupStart env tunnelID f).udapi = f.udapi := prefixUdapi env tunnelID f
  have moved : SetupEnds env.link ctx iface (currentChainPrefix env tunnelID f).1 (filterBlockedAllowedIPs env iface allowedIPs f) f.udapi g.udapi := by
    rw [← start]
    exact ends
  exact endsSame numbered moved

end

def noSetFw (rules : Chain → List Rule) : Fw := ⟨⟨rules,7,∅,0⟩,⟨oneEntry,0⟩,0⟩

theorem setupFailedSameFirst : (SetupWgS2sFirewall lateZone background "t1" "wg-s2s0" ["10.1.0.0/16"] (noSetFw fun _ => [])).1 ≠ none ∧
      SameFirewall (noSetFw fun _ => []).udapi
        (SetupWgS2sFirewall lateZone background "t1" "wg-s2s0" ["10.1.0.0/16"] (noSetFw fun _ => [])).2.udapi := by
  have failed : (SetupWgS2sFirewall lateZone background "t1" "wg-s2s0" ["10.1.0.0/16"] (noSetFw fun _ => [])).1 ≠ none := by decide +kernel
  obtain ⟨e,returned⟩ := Option.ne_none_iff_exists'.mp failed
  have ran : SetupWgS2sFirewall lateZone background "t1" "wg-s2s0" ["10.1.0.0/16"] (noSetFw fun _ => []) = (some e,_) := Prod.ext returned rfl
  have numbered : Numbered (noSetFw fun _ => []).udapi := fun _ _ member => absurd member not_mem_nil
  refine ⟨failed,(setupFailedSame numbered (fun _ _ _ _ _ _ => rfl) ran).mpr ⟨fun _ refused => ?_,fun _ _ => ?_,?_⟩⟩
  · obtain ⟨chain,listing | ⟨_,posting⟩⟩ := refused
    · exact absurd rfl listing
    · exact absurd rfl posting
  · exact ⟨⟨by decide,by decide⟩,fun _ => rfl⟩
  · intro _ _ _ _ entries found
    exact absurd found (by simp [noSetFw])

def refusingInput : FwEnv := {lateZone with link := fun n => if n = 3 then some (.new "udapi: busy") else none}

theorem failedSetupChanges : let live := noSetFw fun chain => [(zoneRule "wg-s2s0" (wgS2sMarker "wg-s2s0") "VPN" chain).rule 3]
    let removed := SetupWgS2sFirewall lateZone background "t1" "wg-s2s0" ["10.1.0.0/16"] live
    let half := SetupWgS2sFirewall refusingInput background "t1" "wg-s2s0" ["10.1.0.0/16"] emptyFw
    (removed.1 ≠ none ∧ (∀ chain, removed.2.udapi.rules chain = []) ∧ ¬ SameFirewall live.udapi removed.2.udapi) ∧
      half.1 ≠ none ∧ (half.2.udapi.rules .forwardIn).map Rule.target = ["VPN_IN"] ∧ ¬ SameFirewall emptyFw.udapi half.2.udapi := by
  intro live removed half
  have gone : ∀ chain ∈ Chain.all, removed.2.udapi.rules chain = [] := by decide +kernel
  have left : (half.2.udapi.rules .forwardIn).map Rule.target = ["VPN_IN"] := by decide +kernel
  refine ⟨⟨by decide +kernel,fun chain => gone chain (by cases chain <;> decide),fun same => ?_⟩,by decide +kernel,left,fun same => ?_⟩
  · have kept := congrFun same.1 .input
    rw [gone .input (by decide)] at kept
    exact absurd kept (by simp [live,noSetFw])
  · rw [same.1] at left
    exact absurd left (by simp [emptyFw])

end VpnPack.Firewall
