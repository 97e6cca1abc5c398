import VpnPack.Exit.Frame
import VpnPack.Exit.Sound

/-! Reconcile right after a successful Apply, with every command answered: it issues
a changing command exactly if some client is spelled in another way than the
kernel prints it. -/
namespace VpnPack.Exit
open Base List Net Ops

def Command.mutating : Command → Bool
  | .ruleShow _ | .masqCheck _ => false
  | _ => true

def Call.mutating : Call → Bool
  | .command c => c.mutating
  | _ => false

def Untouched (s t : State) : Prop := ∀ call ∈ t.log.drop s.log.length, call.mutating = false
def Appends (s t : State) : Prop := s.log <+: t.log

section
variable {world back : World} {ctx : Context} {discover : Bridges} {policy : ExitNodePolicy}

theorem appendsSame (s : State) : Appends s s := prefix_rfl

theorem appendsChain (s t u : State) (first : Appends s t) (second : Appends t u) : Appends s u := first.trans second

theorem appendsLasting : Lasting Appends where
  same := appendsSame
  chain := appendsChain
  command world c s := by
    rw [Appends,executeLog]
    exact prefix_append _ _
  noting s _ := appendsSame s

theorem applyStarts (s : State) : s.log ++ [.command (.masqDel .v4)] <+: (applyLocked world back ctx discover policy s).2.log := by
  have first : s.log ++ [.command (.masqDel .v4)] <+: (delMasqueradeOf world .v4 s).log := by
    simp only [delMasqueradeOf,executeLog,prefix_rfl]
  have swept : Appends (delMasqueradeOf world .v4 s) (cleanupLocked world s).2 :=
    appendsChain _ _ _ (appendsLasting.command world (.masqDel .v6) _)
      (appendsChain _ _ _ (sweepLasting appendsLasting .v4 _) (sweepLasting appendsLasting .v6 _))
  have done : Appends (cleanupLocked world s).2 (applyLocked world back ctx discover policy s).2 :=
    applyFromLasting appendsLasting (fun _ _ _ => prefix_append _ _) s
  exact first.trans (swept.trans done)

end

def Canonical (policy : ExitNodePolicy) : Prop :=
  policy.mode = .selective → ∀ c ∈ policy.clients, ∀ p, parseSource c.ip = some p → normalizeRuleSrc c.ip = ruleText p

section
variable {discover : Bridges} {policy : ExitNodePolicy}

variable {prio : Nat} {clients : List ExitNodeClient} {d : ExitRule}

theorem readsBack {r : Rule} (realises : Realises d r) :
    r.read d.family = d ↔ ∀ p, d.src ≠ [] → parseSource d.src = some p → ruleText p = d.src := by
  have means := realises.means
  rcases d with ⟨priority,family,src,iif⟩
  by_cases plain : src = []
  · subst plain
    simp only [ExitRule.meaning,if_true,Option.some.injEq,Rule.meaning,Prod.mk.injEq] at means
    obtain ⟨number_,none_,same⟩ := means
    refine iff_of_true ?_ (by simp)
    rw [same,number_]
    simp [Rule.read,← none_]
  · simp only [ExitRule.meaning,if_neg plain,Option.map_eq_some_iff] at means
    obtain ⟨p,parsed,same⟩ := means
    simp only [Rule.meaning,Prod.mk.injEq] at same
    obtain ⟨number_,source,name⟩ := same
    have read : r.read family = ⟨priority,family,ruleText p,iif⟩ := by
      rw [name,number_]
      simp [Rule.read,← source]
    rw [read]
    simp [plain,parsed]

theorem clientDesired (room : prio + clients.length ≤ 5301)
    {c : ExitNodeClient} (member : c ∈ clients) {f : Family} (known : familyForAddr c.ip = some f) :
    ∃ q, ⟨q,f,normalizeRuleSrc c.ip,[]⟩ ∈ desiredClients prio clients := by
  induction clients generalizing prio with
  | nil => simp at member
  | cons head rest ih =>
    rw [length_cons] at room
    simp only [desiredClients]
    rcases mem_cons.mp member with rfl | later
    · rw [known]
      exact ⟨prio,mem_cons_self⟩
    · cases first : familyForAddr head.ip with
      | none => exact ih (by omega) later
      | some fam =>
        have more : 0 < rest.length := length_pos_of_mem later
        have space : ¬ exitRuleMaxPrio < prio+1 := by
          simp only [exitRuleMaxPrio]
          omega
        obtain ⟨q,inside⟩ := @ih (prio+1) (by omega) later
        refine ⟨q,?_⟩
        dsimp only
        rw [if_neg space]
        exact mem_cons_of_mem _ inside

theorem desiredClient
    (member : d ∈ desiredClients prio clients) : ∃ c ∈ clients, d.src = normalizeRuleSrc c.ip := by
  induction clients generalizing prio with
  | nil => simp [desiredClients] at member
  | cons head rest ih =>
    simp only [desiredClients] at member
    split at member
    · obtain ⟨c,inside,same⟩ := ih member
      exact ⟨c,mem_cons_of_mem head inside,same⟩
    · rcases mem_cons.mp member with rfl | later
      · exact ⟨head,mem_cons_self,rfl⟩
      · split at later
        · simp at later
        · obtain ⟨c,inside,same⟩ := ih later
          exact ⟨c,mem_cons_of_mem head inside,same⟩

theorem bridgeSources {bridges : List IfName} {d : ExitRule} (member : d ∈ desiredBridges prio bridges) : d.src = [] := by
  induction bridges generalizing prio with
  | nil => simp [desiredBridges] at member
  | cons br rest ih =>
    simp only [desiredBridges,mem_cons] at member
    rcases member with rfl | rfl | later
    · rfl
    · rfl
    · split at later
      · simp at later
      · exact ih later

theorem acceptedClients (accepted : ValidateExitNodePolicy policy = none) (mode : policy.mode = .selective) :
    policy.clients.length ≤ 20 ∧ ∀ c ∈ policy.clients, ∃ f, familyForAddr c.ip = some f := by
  unfold ValidateExitNodePolicy at accepted
  rw [mode] at accepted
  dsimp only at accepted
  split at accepted <;> try contradiction
  rename_i few
  refine ⟨Nat.not_lt.mp few,fun c member => ?_⟩
  have passed := findSome?_eq_none_iff.mp accepted c member
  unfold refuseClient at passed
  split at passed <;> try contradiction
  rename_i known
  exact Option.ne_none_iff_exists'.mp known

theorem canonicalDesired (accepted : ValidateExitNodePolicy policy = none) :
    Canonical policy ↔ ∀ d ∈ exitDesired discover policy, ∀ p, d.src ≠ [] → parseSource d.src = some p → ruleText p = d.src := by
  by_cases mode : policy.mode = .selective
  · obtain ⟨few,known⟩ := acceptedClients accepted mode
    have desired : exitDesired discover policy = desiredClients (exitRuleBasePrio+1) policy.clients := by
      simp [exitDesired,bridgesFor,buildDesiredRules,mode]
    rw [desired]
    constructor
    · intro canonical d member p _ parsed
      obtain ⟨c,inside,same⟩ := desiredClient member
      rw [same,normalizeSource] at parsed
      rw [same,canonical mode c inside p parsed]
    · intro spelled _ c inside p parsed
      obtain ⟨f,family⟩ := known c inside
      have room : exitRuleBasePrio + 1 + policy.clients.length ≤ 5301 := by
        simp only [exitRuleBasePrio]
        omega
      obtain ⟨q,member⟩ := clientDesired room inside family
      have normal := (normalizeSource c.ip).trans parsed
      exact (spelled _ member p (sourceNonempty normal) normal).symm
  · refine iff_of_true (fun selective => absurd selective mode) (fun d member p filled _ => absurd ?_ filled)
    unfold exitDesired at member
    split at member
    · unfold buildDesiredRules at member
      split at member
      · exact bridgeSources member
      · rename_i selective
        exact absurd selective mode
      · simp at member
    · simp at member

theorem realisedPartner {ds : List ExitRule} {rules : List Rule} {r : Rule} (pairs : List.Forall₂ Realises ds rules)
    (member : r ∈ rules) : ∃ d ∈ ds, Realises d r := by
  induction pairs with
  | nil => simp at member
  | @cons d x ds rules first _ ih =>
    rcases mem_cons.mp member with rfl | later
    · exact ⟨d,mem_cons_self,first⟩
    · obtain ⟨e,inside,realises⟩ := ih later
      exact ⟨e,mem_cons_of_mem d inside,realises⟩

theorem realisedRead {f : Family} {ds : List ExitRule} {rules : List Rule}
    (back : ∀ d r, d ∈ ds → Realises d r → r.read f = d) (pairs : List.Forall₂ Realises ds rules) : rules.map (Rule.read f) = ds := by
  induction pairs with
  | nil => rfl
  | @cons d r ds rules first _ ih =>
    rw [map_cons,back d r mem_cons_self first,ih (fun e x member => back e x (mem_cons_of_mem d member))]

theorem settledMatch {t : Tables} (installed : ∀ f, List.Forall₂ Realises (ofFamily f (exitDesired discover policy)) (own (t.rules f))) :
    rulesMatch (currentRules t) (exitDesired discover policy) = true ↔
      ∀ d ∈ exitDesired discover policy, ∀ p, d.src ≠ [] → parseSource d.src = some p → ruleText p = d.src := by
  obtain ⟨distinct,clean⟩ := @exitDesiredKeys discover policy
  constructor
  · intro matched d member
    have same := (rulesMatchPerm (currentClean t) clean distinct).mp matched
    have listed : d ∈ ofFamily d.family (currentRules t) := by
      rw [ofFamily,mem_filter]
      exact ⟨same.mem_iff.mp member,by simp⟩
    rw [currentFamily] at listed
    obtain ⟨r,owned,read⟩ := mem_map.mp listed
    obtain ⟨e,wanted,realises⟩ := realisedPartner (installed d.family) owned
    have family : e.family = d.family := by simpa using (mem_filter.mp wanted).2
    have slots : slot e = slot d := by
      have prio : r.prio = d.priority := congrArg ExitRule.priority read
      rw [slot,slot,family,← realises.prio,prio]
    have here := inj_on_of_nodup_map distinct (mem_filter.mp wanted).1 member slots
    subst here
    exact (readsBack realises).mp read
  · intro spelled
    have family (f : Family) : (own (t.rules f)).map (Rule.read f) = ofFamily f (exitDesired discover policy) := by
      refine realisedRead (fun d r member realises => ?_) (installed f)
      obtain ⟨inside,mine⟩ := mem_filter.mp member
      have same : d.family = f := by simpa using mine
      rw [← same]
      exact (readsBack realises).mpr (spelled d inside)
    refine (rulesMatchPerm (currentClean t) clean distinct).mpr ?_
    rw [currentRules,family .v4,family .v6]
    have others : ofFamily .v6 (exitDesired discover policy) =
        (exitDesired discover policy).filter (fun d => !decide (d.family = .v4)) := by
      refine filter_congr (fun d _ => ?_)
      cases d.family <;> rfl
    rw [others]
    exact (filter_append_perm _ _).symm

end

section
variable {world back : World} {ctx : Context} {discover : Bridges} {policy : ExitNodePolicy} {s t : State}

theorem availableWilling (willing : ∀ n, world n = none) : Available world := by
  intro n f answer
  rw [willing n] at answer
  contradiction

theorem sweepsWilling (willing : ∀ n, world n = none) (tables : Tables) (place : Nat) : Sweeps world tables place :=
  ⟨.inr ⟨willing _,fun _ _ => willing _⟩,.inr ⟨willing _,fun _ _ => willing _⟩⟩

def listingCalls : List Call := [.command (.ruleShow .v4),.command (.ruleShow .v6)]

theorem currentWilling (willing : ∀ n, world n = none) (clean : NoForeign s.tables) :
    allCurrentRules world s = (.ok (currentRules s.tables),{s with log := s.log ++ listingCalls}) := by
  unfold allCurrentRules
  rw [listRulesRun clean,willing]
  dsimp only
  rw [@listRulesRun world .v6 {s with log := s.log ++ [.command (.ruleShow .v4)]} clean,willing]
  simp [currentRules,listingCalls]

theorem touched {call : Call} {before : List Call} (changes : call.mutating = true)
    (later : s.log ++ before ++ [call] <+: t.log) : ¬ Untouched s t := by
  intro untouched
  obtain ⟨more,shape⟩ := later
  have dropped : t.log.drop s.log.length = before ++ [call] ++ more := by
    rw [← shape,append_assoc,append_assoc,drop_left,append_assoc]
  have still := untouched call (by rw [dropped]; simp)
  rw [changes] at still
  contradiction

theorem reconcileTouches {bridges : List IfName} (willing : ∀ n, world n = none) (clean : NoForeign s.tables)
    (found : bridgesFor discover policy = .ok bridges) : Untouched s (Reconcile world back ctx discover policy s).2 ↔
      rulesMatch (currentRules s.tables) (exitDesired discover policy) = true ∧
      decide (0 < (exitDesired discover policy).length) = masqSeen world s.tables (s.log.length+2) := by
  have desired : buildDesiredRules policy bridges = exitDesired discover policy := by
    rw [exitDesired,found]
  unfold Reconcile
  rw [found]
  dsimp only
  rw [currentWilling willing clean,desired]
  dsimp only
  split
  · rename_i matched
    obtain ⟨seen,tables,log⟩ := @hasMasqueradeRun world {s with log := s.log ++ listingCalls}
    have place : (s.log ++ listingCalls).length = s.log.length+2 := by simp [listingCalls]
    dsimp only at seen log
    rw [place] at seen log
    rw [seen]
    split
    · rename_i agrees
      refine iff_of_true (fun call member => ?_) ⟨matched,agrees⟩
      rw [log,append_assoc,drop_left] at member
      simp only [listingCalls,masqChecks,mem_append,mem_cons,not_mem_nil,or_false] at member
      rcases member with (rfl | rfl) | rfl | last
      · rfl
      · rfl
      · rfl
      · split at last
        · cases mem_singleton.mp last
          rfl
        · simp at last
    · rename_i differs
      refine iff_of_false ?_ (fun both => differs both.2)
      have later := @applyStarts world back ctx discover policy (hasMasquerade world {s with log := s.log ++ listingCalls}).2
      rw [log,append_assoc s.log] at later
      exact touched rfl later
  · rename_i drifted
    refine iff_of_false ?_ (fun both => drifted both.1)
    exact touched rfl (@applyStarts world back ctx discover policy {s with log := s.log ++ listingCalls})

theorem quietCanonical (quiet : Quiet policy) : Canonical policy := by
  intro mode c member
  rcases quiet with off | off | ⟨_,empty⟩
  · rw [mode] at off; contradiction
  · rw [mode] at off; contradiction
  · rw [empty] at member; simp at member

theorem quietSettled {c : State} (willing : ∀ n, world n = none) (single : ∀ f, s.tables.masq f ≤ 1)
    (cleaned : CleanedUp world s c) (still : t.tables = c.tables) (quiet : Quiet policy) :
    Untouched t (Reconcile world back ctx discover policy t).2 := by
  have emptied := cleaned.rules.mpr (sweepsWilling willing _ _)
  have notAll : policy.mode ≠ .all := by
    intro mode
    simp [Quiet,mode] at quiet
  have found : bridgesFor discover policy = .ok [] := if_neg notAll
  have bare : currentRules t.tables = [] := by
    rw [currentRules,still,emptied .v4,emptied .v6]
    rfl
  have unmasked : t.tables.masq .v4 = 0 := by
    have one := single .v4
    rw [still,cleaned.masq,willing,if_pos rfl]
    omega
  rw [reconcileTouches willing (still ▸ cleaned.clean) found,quietDesired quiet,bare]
  exact ⟨rfl,by simp [masqSeen,unmasked]⟩

theorem loudSettled {c : State} (willing : ∀ n, world n = none) (accepted : ValidateExitNodePolicy policy = none)
    (cleaned : CleanedUp world s c) (loud : ¬ Quiet policy) (installed : Installed world (exitDesired discover policy) c t)
    (known : policy.mode = .all ∧ exitDesired discover policy ≠ [] ∨ policy.mode = .selective) :
    Untouched t (Reconcile world back ctx discover policy t).2 ↔ Canonical policy := by
  have emptied := cleaned.rules.mpr (sweepsWilling willing _ _)
  have filled : exitDesired discover policy ≠ [] := by
    rcases known with ⟨_,filled⟩ | mode
    · exact filled
    · cases shape : policy.clients with
      | nil => exact absurd (.inr (.inr ⟨mode,shape⟩)) loud
      | cons head rest =>
        obtain ⟨f,family⟩ := (acceptedClients accepted mode).2 head (by rw [shape]; exact mem_cons_self)
        exact (selectiveDesired mode).mpr ⟨head,by rw [shape]; exact mem_cons_self,by rw [family]; simp⟩
  have found : ∃ bridges, bridgesFor discover policy = .ok bridges := by
    cases shape : bridgesFor discover policy with
    | ok bridges => exact ⟨bridges,rfl⟩
    | error e => simp [exitDesired,shape] at filled
  obtain ⟨bridges,found⟩ := found
  have pairs (f : Family) : List.Forall₂ Realises (ofFamily f (exitDesired discover policy)) (own (t.tables.rules f)) := by
    obtain ⟨new,split,realised,_⟩ := installedOwn installed f
    rw [split,emptied f]
    exact realised
  have clean : NoForeign t.tables := by
    intro f r member mine
    obtain ⟨d,_,realises⟩ := realisedPartner (pairs f) (mem_filter.mpr ⟨member,mine⟩)
    exact realises.table
  have seen : decide (0 < (exitDesired discover policy).length) = masqSeen world t.tables (t.log.length+2) := by
    have six := installed.six (availableWilling willing)
    simp [masqSeen,willing,installed.four,six,length_pos_iff.mpr filled]
  rw [reconcileTouches willing clean found,settledMatch pairs,← canonicalDesired accepted]
  exact ⟨fun both => both.1,fun canonical => ⟨canonical,seen⟩⟩

end

theorem reconcileAfterApply {world back : World} {ctx later : Context} {discover : Bridges} {policy : ExitNodePolicy} {s t : State}
    (willing : ∀ n, world n = none) (accepted : ValidateExitNodePolicy policy = none) (clean : NoForeign s.tables)
    (single : ∀ f, s.tables.masq f ≤ 1) (ran : Apply world back ctx discover policy s = (none,t)) :
    Untouched t (Reconcile world back later discover policy t).2 ↔ Canonical policy := by
  obtain ⟨c,cleaned,still,active⟩ := applyRun clean ran
  by_cases quiet : Quiet policy
  · exact iff_of_true (quietSettled willing single cleaned (still quiet) quiet) (quietCanonical quiet)
  · exact loudSettled willing accepted cleaned quiet (active quiet).1 (active quiet).2

def clientPolicy (ip : String) : ExitNodePolicy := ⟨.selective,[⟨ip.toList,""⟩]⟩

theorem reconcileAfterApplyClient : Untouched (Apply calm calm background (.ok []) (clientPolicy "192.168.1.100/32") idleState).2
      (Reconcile calm calm background (.ok []) (clientPolicy "192.168.1.100/32")
        (Apply calm calm background (.ok []) (clientPolicy "192.168.1.100/32") idleState).2).2 := by
  have returned : (Apply calm calm background (.ok []) (clientPolicy "192.168.1.100/32") idleState).1 = none := by decide +kernel
  have ran : Apply calm calm background (.ok []) (clientPolicy "192.168.1.100/32") idleState =
      (none,(Apply calm calm background (.ok []) (clientPolicy "192.168.1.100/32") idleState).2) := Prod.ext returned rfl
  have clean : NoForeign idleState.tables := fun f r member => by simp [idleState,bareTables] at member
  have accepted : ValidateExitNodePolicy (clientPolicy "192.168.1.100/32") = none := by decide +kernel
  have canonical : Canonical (clientPolicy "192.168.1.100/32") := by
    intro _ c member p parsed
    cases mem_singleton.mp member
    have spelled : (parseSource "192.168.1.100/32".toList).map ruleText =
        some (normalizeRuleSrc "192.168.1.100/32".toList) := by decide +kernel
    rw [parsed] at spelled
    exact (Option.some.inj spelled).symm
  have result := @reconcileAfterApply calm calm background background (.ok []) (clientPolicy "192.168.1.100/32") idleState _
    (fun _ => rfl) accepted clean (fun _ => Nat.zero_le 1) ran
  rw [result]
  exact canonical

theorem upperCaseClientFlushes : ValidateExitNodePolicy (clientPolicy "FD00::1") = none ∧
    (Apply calm calm background (.ok []) (clientPolicy "FD00::1") idleState).1 = none ∧ .command .conntrackFlush ∈
      (Reconcile calm calm background (.ok []) (clientPolicy "FD00::1")
        (Apply calm calm background (.ok []) (clientPolicy "FD00::1") idleState).2).2.log.drop
        (Apply calm calm background (.ok []) (clientPolicy "FD00::1") idleState).2.log.length := by
  decide +kernel

end VpnPack.Exit
