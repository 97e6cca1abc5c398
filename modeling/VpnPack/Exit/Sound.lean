import VpnPack.Exit.Sweep

/-! Soundness of Apply and Reconcile: what the tables hold when the call returns
nil. Rules are compared by priority, parsed source and interface. -/
namespace VpnPack.Exit
open Base List Net Ops

def Rule.meaning (r : Rule) : Nat × Option Prefix × Text := (r.prio,r.src,(r.read .v4).iif)

def ExitRule.meaning (d : ExitRule) : Option (Nat × Option Prefix × Text) :=
  if d.src = [] then some (d.priority,none,d.iif)
  else (parseSource d.src).map (fun p => (d.priority,some p,d.iif))

structure Realises (d : ExitRule) (r : Rule) : Prop where
  prio : r.prio = d.priority
  table : r.table = exitTable
  means : d.meaning = some r.meaning

def ofFamily (f : Family) (rules : List ExitRule) : List ExitRule := rules.filter (fun d => d.family = f)

structure Added (ds : List ExitRule) (s t : State) : Prop where
  rules : ∀ f, ∃ new, t.tables.rules f = s.tables.rules f ++ new ∧ List.Forall₂ Realises (ofFamily f ds) new
  masq : t.tables.masq = s.tables.masq

section
variable {world back : World} {s t u : State}

theorem addedNone (s : State) : Added [] s s := ⟨fun _ => ⟨[],by simp,.nil⟩,rfl⟩

theorem addedAfter {ds es : List ExitRule} (first : Added ds s t) (second : Added es t u) : Added (ds ++ es) s u := by
  refine ⟨fun f => ?_,second.masq.trans first.masq⟩
  obtain ⟨new,grown,realised⟩ := first.rules f
  obtain ⟨more,grown',realised'⟩ := second.rules f
  refine ⟨new ++ more,by rw [grown',grown,append_assoc],?_⟩
  rw [ofFamily,filter_append]
  exact rel_append realised realised'

theorem addRuleAdded {src : Text} {iif : Option IfName} {d : ExitRule}
    (asked : ∀ r, makeRule d.family src d.priority iif = some r → Realises d r)
    (ran : addRule world d.family src d.priority iif s = (none,t)) : Added [d] s t := by
  obtain ⟨_,applied,_⟩ := executeOk (attemptOk.mp ran)
  simp only [Tables.apply] at applied
  split at applied <;> try contradiction
  rename_i r made
  split at applied <;> try contradiction
  have tables := (Except.ok.inj applied).symm
  refine ⟨fun f => ?_,by rw [tables,Tables.setRulesMasq]⟩
  by_cases here : f = d.family
  · subst here
    refine ⟨[r],by rw [tables,Tables.setRulesHere],?_⟩
    simp only [ofFamily,filter_cons,decide_true,if_true,filter_nil]
    exact .cons (asked r made) .nil
  · refine ⟨[],by rw [tables,Tables.setRulesOther _ _ here,append_nil],?_⟩
    simp [ofFamily,Ne.symm here]

variable {family : Family} {prio : Nat}

theorem makeBridge {br : IfName} {r : Rule}
    (made : makeRule family [] prio (some br) = some r) : Realises ⟨prio,family,[],br.text⟩ r := by
  cases made
  exact ⟨rfl,rfl,rfl⟩

theorem familyNonempty {s : Text} {f : Family} (known : familyForAddr s = some f) : s ≠ [] := by
  rintro rfl
  revert known
  simp [familyForAddr,parsePrefix,cutLast,parseAddr]

theorem sourceNonempty {s : Text} {p : Prefix} (parsed : parseSource s = some p) : s ≠ [] :=
  familyNonempty (sourceFamily parsed)

theorem sourceNarrows {s : Text} {p : Prefix} (parsed : parseSource s = some p) (narrow : isCatchAllPrefix s = false) : 0 < p.bits := by
  cases found : parsePrefix s with
  | some q =>
    simp only [parseSource,found,Option.some.injEq] at parsed
    simp only [isCatchAllPrefix,found,decide_eq_false_iff_not] at narrow
    rw [← parsed]
    omega
  | none =>
    simp only [parseSource,found] at parsed
    split at parsed <;> try contradiction
    rename_i a _
    split at parsed <;> try contradiction
    cases parsed
    cases a <;> simp [Addr.width]

theorem makeClient {ip : Text} {r : Rule} (known : familyForAddr ip = some family)
    (narrow : isCatchAllPrefix ip = false) (made : makeRule family ip prio none = some r) :
    Realises ⟨prio,family,normalizeRuleSrc ip,[]⟩ r := by
  simp only [makeRule,if_neg (familyNonempty known)] at made
  split at made <;> try contradiction
  rename_i p parsed
  split at made <;> try contradiction
  rw [dif_pos (sourceNarrows parsed narrow)] at made
  cases made
  have normal : parseSource (normalizeRuleSrc ip) = some p := (normalizeSource ip).trans parsed
  refine ⟨rfl,rfl,?_⟩
  simp only [ExitRule.meaning,if_neg (sourceNonempty normal),normal,Option.map_some]
  rfl

theorem bridgesRun {bridges : List IfName}
    (ran : forEach Op.Do (bridgeOps world back prio bridges) s = (none,t)) : Added (desiredBridges prio bridges) s t := by
  induction bridges generalizing prio s with
  | nil =>
    cases ran
    exact addedNone _
  | cons br rest ih =>
    simp only [bridgeOps,forEach] at ran
    obtain ⟨a,four,ran⟩ := seqSource ran
    obtain ⟨b,six,ran⟩ := seqSource ran
    have first : Added [⟨prio,.v4,[],br.text⟩] s a := addRuleAdded (fun r made => makeBridge made) four
    have second : Added [⟨prio,.v6,[],br.text⟩] a b := addRuleAdded (fun r made => makeBridge made) six
    simp only [desiredBridges]
    split at ran
    · rename_i full
      cases ran
      rw [if_pos full]
      exact addedAfter first second
    · rename_i room
      rw [if_neg room]
      exact addedAfter first (addedAfter second (ih ran))

theorem clientsRun {clients : List ExitNodeClient} {steps : List (Op State)}
    (built : clientOps world back prio clients = .ok steps) (ran : forEach Op.Do steps s = (none,t)) :
    Added (desiredClients prio clients) s t := by
  induction clients generalizing prio s steps with
  | nil =>
    cases built
    cases ran
    exact addedNone _
  | cons c rest ih =>
    simp only [clientOps] at built
    split at built <;> try contradiction
    rename_i narrow
    have narrow : isCatchAllPrefix c.ip = false := by simpa using narrow
    simp only [desiredClients]
    cases known : familyForAddr c.ip with
    | none =>
      rw [known] at built
      exact ih built ran
    | some family =>
      rw [known] at built
      have step {u : State} (ran : (clientOp world back family c.ip prio).Do s = (none,u)) :
          Added [⟨prio,family,normalizeRuleSrc c.ip,[]⟩] s u :=
        addRuleAdded (fun r made => makeClient known narrow made) ran
      dsimp only at built ⊢
      split at built
      · rename_i full
        cases built
        obtain ⟨u,first,last⟩ := seqSource ran
        cases last
        rw [if_pos full]
        exact step first
      · rename_i room
        rw [if_neg room]
        split at built <;> try contradiction
        rename_i later more
        cases built
        obtain ⟨u,first,ran⟩ := seqSource ran
        exact addedAfter (step first) (ih more ran)

end

def Available (world : World) : Prop := ∀ n f, world n = some f → isIP6Unavailable f = false

def exitDesired (discover : Bridges) (policy : ExitNodePolicy) : List ExitRule :=
  match bridgesFor discover policy with
  | .ok bridges => buildDesiredRules policy bridges
  | .error _ => []

def Quiet (policy : ExitNodePolicy) : Prop :=
  policy.mode = .off ∨ policy.mode = .unset ∨ policy.mode = .selective ∧ policy.clients = []

structure Installed (world : World) (ds : List ExitRule) (s t : State) : Prop where
  rules : ∀ f, ∃ new, t.tables.rules f = s.tables.rules f ++ new ∧ List.Forall₂ Realises (ofFamily f ds) new
  four : 0 < t.tables.masq .v4
  six : Available world → 0 < t.tables.masq .v6

section
variable {world back : World} {ctx : Context} {discover : Bridges} {policy : ExitNodePolicy} {s t : State}

theorem setPolicyTables (world : World) (policy : ExitNodePolicy) (s : State) :
    (setExitNodePolicy world policy s).2.tables = s.tables := rfl

theorem flushTables (world : World) (s : State) : (flushConntrack world s).tables = s.tables := by
  have same : (execute world .conntrackFlush s).2 = _ := executeHarmless (fun tables applied => (Except.ok.inj applied).symm)
  rw [flushConntrack,same]

theorem closingRun {ds : List ExitRule} {a : State} (added : Added ds s a)
    (ran : forEach Op.Do (closingOps world back policy) a = (none,t)) : Installed world ds s t := by
  obtain ⟨b,four,ran⟩ := seqSource ran
  obtain ⟨c,six,ran⟩ := seqSource ran
  obtain ⟨d,saved,last⟩ := seqSource ran
  cases last
  obtain ⟨_,applied4,_⟩ := executeOk (attemptOk.mp four)
  have tablesB : b.tables = a.tables.setMasq .v4 (a.tables.masq .v4 + 1) := (Except.ok.inj applied4).symm
  have tablesD : t.tables = c.tables := congrArg (fun r => r.2.tables) saved.symm
  have effect : c.tables.rules = b.tables.rules ∧ c.tables.masq .v4 = b.tables.masq .v4 ∧ (Available world → 0 < c.tables.masq .v6) := by
    simp only [v6MasqOp,addV6Masquerade] at six
    split at six
    · rename_i e executed
      cases six
      obtain ⟨_,applied6,_⟩ := executeOk executed
      have tables : e.tables = b.tables.setMasq .v6 (b.tables.masq .v6 + 1) := (Except.ok.inj applied6).symm
      refine ⟨by rw [tables]; rfl,?_,fun _ => ?_⟩
      · change e.tables.masq .v4 = _
        rw [tables,Tables.setMasqOther _ _ (by simp)]
      · change 0 < e.tables.masq .v6
        rw [tables,Tables.setMasqHere]
        omega
    · rename_i f e executed
      obtain ⟨shape,cause⟩ := executeFailed executed
      simp only [Prod.mk.injEq] at six
      obtain ⟨tolerated,rfl⟩ := six
      rw [shape]
      refine ⟨rfl,rfl,fun available => ?_⟩
      rcases cause with answer | ⟨_,refused⟩
      · rw [available _ f answer] at tolerated
        simp at tolerated
      · simp [Tables.apply] at refused
  refine ⟨fun f => ?_,?_,?_⟩
  · rw [tablesD,effect.1,tablesB,Tables.setMasqRules]
    exact added.rules f
  · rw [tablesD,effect.2.1,tablesB,Tables.setMasqHere]
    omega
  · rw [tablesD]
    exact effect.2.2

theorem installRun (ran : installPolicy world back ctx discover policy s = (none,t)) :
    (Quiet policy → t.tables = s.tables) ∧ (¬ Quiet policy → Installed world (exitDesired discover policy) s t) ∧
    (policy.mode = .all ∧ exitDesired discover policy ≠ [] ∨ policy.mode = .selective) := by
  unfold installPolicy at ran
  split at ran
  · cases ran
  rename_i steps built
  have done := runDone ran
  unfold buildApplyOps at built
  split at built
  · rename_i mode
    split at built <;> try contradiction
    rename_i bridges filled
    cases built
    obtain ⟨a,adding,closing⟩ := forEachAppend done
    have desired : exitDesired (.ok bridges) policy = desiredBridges exitRuleBasePrio bridges := by
      simp [exitDesired,bridgesFor,buildDesiredRules,mode]
    refine ⟨fun quiet => ?_,fun _ => ?_,.inl ⟨mode,?_⟩⟩
    · simp [Quiet,mode] at quiet
    · rw [desired]
      have installed := closingRun (bridgesRun adding) closing
      exact ⟨installed.rules,installed.four,installed.six⟩
    · rw [desired]
      cases bridges with
      | nil => exact absurd rfl filled
      | cons br rest => simp [desiredBridges]
  · rename_i mode
    have desired : exitDesired discover policy = desiredClients (exitRuleBasePrio+1) policy.clients := by
      simp [exitDesired,bridgesFor,buildDesiredRules,mode]
    refine ⟨fun quiet => ?_,fun loud => ?_,.inr mode⟩
    · have empty : policy.clients = [] := by simpa [Quiet,mode] using quiet
      rw [if_pos empty] at built
      cases built
      obtain ⟨a,saved,last⟩ := seqSource done
      cases last
      exact congrArg (fun r => r.2.tables) saved.symm
    · have filled : policy.clients ≠ [] := fun empty => loud (.inr (.inr ⟨mode,empty⟩))
      rw [if_neg filled] at built
      split at built <;> try contradiction
      rename_i adds clients
      cases built
      obtain ⟨a,adding,closing⟩ := forEachAppend done
      rw [desired]
      have installed := closingRun (clientsRun clients adding) closing
      exact ⟨installed.rules,installed.four,installed.six⟩
  · contradiction

theorem applyRun (clean : NoForeign s.tables) (ran : applyLocked world back ctx discover policy s = (none,t)) :
    ∃ c, CleanedUp world s c ∧ (Quiet policy → t.tables = c.tables) ∧ (¬ Quiet policy → Installed world (exitDesired discover policy) c t ∧
        (policy.mode = .all ∧ exitDesired discover policy ≠ [] ∨ policy.mode = .selective)) := by
  refine ⟨(cleanupLocked world s).2,cleanupRun s clean,?_⟩
  simp only [applyLocked] at ran
  by_cases off : policy.mode = .off ∨ policy.mode = .unset
  · rw [if_pos off] at ran
    have tables : t.tables = (cleanupLocked world s).2.tables := by
      rw [← (Prod.mk.inj ran).2,flushTables,setPolicyTables]
    exact ⟨fun _ => tables,fun loud => absurd (off.elim .inl (fun unset => .inr (.inl unset))) loud⟩
  · rw [if_neg off] at ran
    obtain ⟨returned,state⟩ := Prod.mk.inj ran
    have tables : t.tables = (installPolicy world back ctx discover policy (cleanupLocked world s).2).2.tables := by
      rw [← state,flushTables]
    obtain ⟨quiet,loud,known⟩ := installRun (Prod.ext returned rfl :
      installPolicy world back ctx discover policy (cleanupLocked world s).2 = (none,_))
    refine ⟨fun q => tables.trans (quiet q),fun l => ⟨?_,known⟩⟩
    have installed := loud l
    exact ⟨fun f => by rw [tables]; exact installed.rules f,by rw [tables]; exact installed.four,by rw [tables]; exact installed.six⟩

end

structure Sound (world : World) (desired : List ExitRule) (t : Tables) : Prop where
  rules : ∀ f, ((own (t.rules f)).map (fun r => some r.meaning)).Perm ((ofFamily f desired).map ExitRule.meaning)
  four : 0 < t.masq .v4 ↔ desired ≠ []
  six : Available world → (0 < t.masq .v6 ↔ desired ≠ [])

def Unmasked (world : World) (t : Tables) (place : Nat) : Prop :=
  (t.masq .v4 = 0 ∨ world place = none) ∧ (Available world → t.masq .v6 = 0 ∨ world (place+1) = none)

def ApplyClean (world : World) (policy : ExitNodePolicy) (t : Tables) (place : Nat) : Prop :=
  Sweeps world t place ∧ (Quiet policy → Unmasked world t place) ∧
    (policy.mode = .selective → policy.clients ≠ [] → ∃ c ∈ policy.clients, familyForAddr c.ip ≠ none)

section
variable {world back : World} {ctx : Context} {discover : Bridges} {policy : ExitNodePolicy} {s t : State}

theorem desiredClientsNone {prio : Nat} {clients : List ExitNodeClient} :
    desiredClients prio clients = [] ↔ ∀ c ∈ clients, familyForAddr c.ip = none := by
  induction clients generalizing prio with
  | nil => simp [desiredClients]
  | cons c rest ih =>
    simp only [desiredClients,forall_mem_cons]
    cases known : familyForAddr c.ip with
    | none => simp [ih]
    | some fam => simp

theorem quietDesired (quiet : Quiet policy) : exitDesired discover policy = [] := by
  rcases quiet with mode | mode | ⟨mode,empty⟩
  · simp [exitDesired,bridgesFor,buildDesiredRules,mode]
  · simp [exitDesired,bridgesFor,buildDesiredRules,mode]
  · simp [exitDesired,bridgesFor,buildDesiredRules,mode,empty,desiredClients]

theorem desiredRange : ∀ d ∈ exitDesired discover policy, inRange d.priority = true := by
  have links (prio : Nat) (bridges : List IfName) (low : 5280 ≤ prio) (high : prio ≤ 5300) :
      ∀ d ∈ desiredBridges prio bridges, inRange d.priority = true := by
    induction bridges generalizing prio with
    | nil => simp [desiredBridges]
    | cons br rest ih =>
      intro d member
      simp only [desiredBridges,mem_cons] at member
      rcases member with rfl | rfl | inside
      · exact inRangeSource.mpr ⟨low,high⟩
      · exact inRangeSource.mpr ⟨low,high⟩
      · split at inside
        · simp at inside
        · rename_i room
          simp only [exitRuleMaxPrio] at room
          exact ih (prio+1) (by omega) (by omega) d inside
  have sources (prio : Nat) (clients : List ExitNodeClient) (low : 5280 ≤ prio) (high : prio ≤ 5300) :
      ∀ d ∈ desiredClients prio clients, inRange d.priority = true := by
    induction clients generalizing prio with
    | nil => simp [desiredClients]
    | cons c rest ih =>
      intro d member
      simp only [desiredClients] at member
      split at member
      · exact ih prio low high d member
      · rcases mem_cons.mp member with rfl | inside
        · exact inRangeSource.mpr ⟨low,high⟩
        · split at inside
          · simp at inside
          · rename_i room
            simp only [exitRuleMaxPrio] at room
            exact ih (prio+1) (by omega) (by omega) d inside
  intro d member
  unfold exitDesired at member
  split at member
  · unfold buildDesiredRules at member
    split at member
    · exact links _ _ (by decide) (by decide) d member
    · exact sources _ _ (by decide) (by decide) d member
    · simp at member
  · simp at member

theorem realisedOwn {ds : List ExitRule} {new : List Rule} (range : ∀ d ∈ ds, inRange d.priority = true)
    (realised : List.Forall₂ Realises ds new) : own new = new ∧ new.map (fun r => some r.meaning) = ds.map ExitRule.meaning := by
  induction realised with
  | nil => exact ⟨rfl,rfl⟩
  | @cons d r ds new each _ ih =>
    obtain ⟨kept,same⟩ := ih (fun x member => range x (mem_cons_of_mem d member))
    have mine : inRange r.prio = true := by rw [each.prio]; exact range d mem_cons_self
    refine ⟨?_,?_⟩
    · simp only [own,filter_cons,mine,if_true] at kept ⊢
      rw [kept]
    · rw [map_cons,map_cons,each.means,same]

theorem installedOwn {c : State} (installed : Installed world (exitDesired discover policy) c t) (f : Family) :
    ∃ new, own (t.tables.rules f) = own (c.tables.rules f) ++ new ∧ List.Forall₂ Realises (ofFamily f (exitDesired discover policy)) new ∧
      new.map (fun r => some r.meaning) = (ofFamily f (exitDesired discover policy)).map ExitRule.meaning := by
  obtain ⟨new,grown,realised⟩ := installed.rules f
  obtain ⟨kept,same⟩ := realisedOwn (fun d member => desiredRange d (mem_of_mem_filter member)) realised
  refine ⟨new,?_,realised,same⟩
  rw [grown,own,filter_append]
  exact congrArg _ kept

theorem permExtra {α : Type} {extra new : List α} : (extra ++ new).Perm new ↔ extra = [] := by
  constructor
  · intro same
    have size := same.length_eq
    rw [length_append] at size
    exact length_eq_zero_iff.mp (by omega)
  · rintro rfl
    exact List.Perm.refl _

theorem selectiveDesired (mode : policy.mode = .selective) :
    exitDesired discover policy ≠ [] ↔ ∃ c ∈ policy.clients, familyForAddr c.ip ≠ none := by
  have desired : exitDesired discover policy = desiredClients (exitRuleBasePrio+1) policy.clients := by
    simp [exitDesired,bridgesFor,buildDesiredRules,mode]
  rw [desired,ne_eq,desiredClientsNone]
  simp

theorem maskedOne {count : Nat} {answer : Option Failure} (single : count ≤ 1) :
    ¬ 0 < (if answer = none then count - 1 else count) ↔ count = 0 ∨ answer = none := by
  split
  · rename_i answered
    simp only [answered,or_true,iff_true]
    omega
  · rename_i refused
    simp only [refused,or_false]
    omega

theorem quietSound {c : State} (single : ∀ f, s.tables.masq f ≤ 1) (cleaned : CleanedUp world s c) (quiet : Quiet policy) :
    Sound world (exitDesired discover policy) c.tables ↔ ApplyClean world policy s.tables s.log.length := by
  have filled : policy.mode = .selective → policy.clients ≠ [] → ∃ x ∈ policy.clients, familyForAddr x.ip ≠ none := by
    intro mode clients
    rcases quiet with off | off | ⟨_,empty⟩
    · rw [mode] at off; contradiction
    · rw [mode] at off; contradiction
    · exact absurd empty clients
  rw [quietDesired quiet]
  constructor
  · intro sound
    refine ⟨cleaned.rules.mp (fun f => ?_),fun _ => ⟨?_,fun available => ?_⟩,filled⟩
    · simpa [ofFamily] using sound.rules f
    · have gone : ¬ 0 < c.tables.masq .v4 := fun present => absurd rfl (sound.four.mp present)
      rw [cleaned.masq] at gone
      exact (maskedOne (single .v4)).mp gone
    · have gone : ¬ 0 < c.tables.masq .v6 := fun present => absurd rfl ((sound.six available).mp present)
      rw [cleaned.masq] at gone
      exact (maskedOne (single .v6)).mp gone
  · rintro ⟨sweeps,unmasked,_⟩
    obtain ⟨four,six⟩ := unmasked quiet
    refine ⟨fun f => ?_,?_,fun available => ?_⟩
    · rw [cleaned.rules.mpr sweeps f]
      exact List.Perm.refl _
    · rw [cleaned.masq]
      exact iff_of_false ((maskedOne (single .v4)).mpr four) (by simp)
    · rw [cleaned.masq]
      exact iff_of_false ((maskedOne (single .v6)).mpr (six available)) (by simp)

theorem loudSound {c : State} (cleaned : CleanedUp world s c) (loud : ¬ Quiet policy)
    (installed : Installed world (exitDesired discover policy) c t)
    (known : policy.mode = .all ∧ exitDesired discover policy ≠ [] ∨ policy.mode = .selective) :
    Sound world (exitDesired discover policy) t.tables ↔ ApplyClean world policy s.tables s.log.length := by
  have rules (f : Family) : ((own (t.tables.rules f)).map (fun r => some r.meaning)).Perm
      ((ofFamily f (exitDesired discover policy)).map ExitRule.meaning) ↔ own (c.tables.rules f) = [] := by
    obtain ⟨new,split,_,same⟩ := installedOwn installed f
    rw [split,map_append,same,permExtra,map_eq_nil_iff]
  have filled : exitDesired discover policy ≠ [] ↔
      (policy.mode = .selective → policy.clients ≠ [] → ∃ x ∈ policy.clients, familyForAddr x.ip ≠ none) := by
    rcases known with ⟨mode,some_⟩ | mode
    · exact iff_of_true some_ (fun other => by rw [mode] at other; contradiction)
    · have clients : policy.clients ≠ [] := fun empty => loud (.inr (.inr ⟨mode,empty⟩))
      rw [selectiveDesired mode]
      exact ⟨fun some_ _ _ => some_,fun given => given mode clients⟩
  constructor
  · intro sound
    exact ⟨cleaned.rules.mp (fun f => (rules f).mp (sound.rules f)),fun quiet => absurd quiet loud,filled.mp (sound.four.mp installed.four)⟩
  · rintro ⟨sweeps,_,valid⟩
    refine ⟨fun f => (rules f).mpr (cleaned.rules.mpr sweeps f),?_,fun available => ?_⟩
    · exact iff_of_true installed.four (filled.mpr valid)
    · exact iff_of_true (installed.six available) (filled.mpr valid)

theorem applySound (clean : NoForeign s.tables) (single : ∀ f, s.tables.masq f ≤ 1)
    (ran : applyLocked world back ctx discover policy s = (none,t)) :
    Sound world (exitDesired discover policy) t.tables ↔ ApplyClean world policy s.tables s.log.length := by
  obtain ⟨c,cleaned,still,active⟩ := applyRun clean ran
  by_cases quiet : Quiet policy
  · rw [still quiet]
    exact quietSound single cleaned quiet
  · exact loudSound cleaned quiet (active quiet).1 (active quiet).2

end

def masqSeen (world : World) (t : Tables) (place : Nat) : Bool :=
  (world place).isNone && decide (0 < t.masq .v4) &&
    match world (place+1) with
    | none => decide (0 < t.masq .v6)
    | some f => isIP6Unavailable f

def masqChecks (world : World) (t : Tables) (place : Nat) : List Call :=
  .command (.masqCheck .v4) :: if world place = none ∧ 0 < t.masq .v4 then [.command (.masqCheck .v6)] else []

def currentRules (t : Tables) : List ExitRule :=
  (own (t.rules .v4)).map (Rule.read .v4) ++ (own (t.rules .v6)).map (Rule.read .v6)

/- What Reconcile needs: as it stands it looks no further when nothing is wanted,
the rules are gone and the masquerade check says no. -/
def ReconcileClean (world : World) (discover : Bridges) (policy : ExitNodePolicy) (t : Tables) (place : Nat) : Prop :=
  if rulesMatch (currentRules t) (exitDesired discover policy) then
    if decide (0 < (exitDesired discover policy).length) = masqSeen world t (place+2) then
      exitDesired discover policy = [] → t.masq .v4 = 0 ∧ (Available world → t.masq .v6 = 0)
    else ApplyClean world policy t (place+2+(masqChecks world t (place+2)).length)
  else ApplyClean world policy t (place+2)

section
variable {world back : World} {ctx : Context} {discover : Bridges} {policy : ExitNodePolicy} {s t : State}

theorem currentRun {rules : List ExitRule} (clean : NoForeign s.tables) (ran : allCurrentRules world s = (.ok rules,t)) :
    rules = currentRules s.tables ∧ t.tables = s.tables ∧ t.log = s.log ++ [.command (.ruleShow .v4),.command (.ruleShow .v6)] := by
  unfold allCurrentRules at ran
  rw [listRulesRun clean] at ran
  cases answer4 : world s.log.length with
  | some f =>
    simp only [answer4] at ran
    cases ran
  | none =>
    simp only [answer4] at ran
    rw [@listRulesRun world .v6 {s with log := s.log ++ [.command (.ruleShow .v4)]} clean] at ran
    cases answer6 : world (s.log ++ [Call.command (.ruleShow .v4)]).length with
    | some f =>
      simp only [answer6] at ran
      cases ran
    | none =>
      simp only [answer6] at ran
      cases ran
      exact ⟨rfl,rfl,by simp⟩

theorem checkRun (family : Family) (s : State) : execute world (.masqCheck family) s =
      ((match world s.log.length with
        | some f => some f
        | none => if s.tables.masq family = 0 then some badRule else none),
        {s with log := s.log ++ [.command (.masqCheck family)]}) := by
  unfold execute
  cases world s.log.length with
  | some f => rfl
  | none =>
    by_cases absent : s.tables.masq family = 0 <;> simp [Tables.apply,absent]

theorem hasMasqueradeRun (s : State) : (hasMasquerade world s).1 = masqSeen world s.tables s.log.length ∧
    (hasMasquerade world s).2.tables = s.tables ∧ (hasMasquerade world s).2.log = s.log ++ masqChecks world s.tables s.log.length := by
  unfold hasMasquerade masqSeen masqChecks
  rw [checkRun]
  cases answer4 : world s.log.length with
  | some f => simp
  | none =>
    by_cases none4 : s.tables.masq .v4 = 0
    · simp [none4]
    · simp only [none4,if_false]
      rw [checkRun]
      have present : 0 < s.tables.masq .v4 := Nat.pos_of_ne_zero none4
      cases answer6 : world (s.log.length+1) with
      | some f => simp [answer6,present]
      | none =>
        have healthy : isIP6Unavailable badRule = false := by decide +kernel
        by_cases none6 : s.tables.masq .v6 = 0
        · simp [answer6,present,none6,healthy]
        · simp [answer6,present,none6,Nat.pos_of_ne_zero none6]

theorem readMeaning (f : Family) (r : Rule) : (r.read f).meaning = some r.meaning := by
  cases given : r.src with
  | none => simp [ExitRule.meaning,Rule.read,Rule.meaning,given]
  | some p =>
    have parsed := ruleTextSource p
    simp [ExitRule.meaning,Rule.read,Rule.meaning,given,sourceNonempty parsed,parsed]

theorem currentFamily (t : Tables) (f : Family) : ofFamily f (currentRules t) = (own (t.rules f)).map (Rule.read f) := by
  have mine (rules : List Rule) : ofFamily f (rules.map (Rule.read f)) = rules.map (Rule.read f) := by
    rw [ofFamily,filter_eq_self]
    intro d member
    obtain ⟨r,_,rfl⟩ := mem_map.mp member
    simp [Rule.read]
  have other (g : Family) (differs : g ≠ f) (rules : List Rule) : ofFamily f (rules.map (Rule.read g)) = [] := by
    rw [ofFamily,filter_eq_nil_iff]
    intro d member
    obtain ⟨r,_,rfl⟩ := mem_map.mp member
    simp [Rule.read,differs]
  have split : ofFamily f (currentRules t) = ofFamily f ((own (t.rules .v4)).map (Rule.read .v4)) ++
      ofFamily f ((own (t.rules .v6)).map (Rule.read .v6)) := filter_append ..
  rw [split]
  cases f with
  | v4 => rw [mine,other .v6 (by simp),append_nil]
  | v6 => rw [mine,other .v4 (by simp),nil_append]

theorem currentClean (t : Tables) : Clean (currentRules t) := by
  intro d member
  simp only [currentRules,mem_append,mem_map] at member
  rcases member with ⟨r,_,rfl⟩ | ⟨r,_,rfl⟩
  all_goals
    cases given : r.iif with
    | none => simp [Rule.read,given]
    | some name => simpa [Rule.read,given] using nameAvoids (.inl rfl)

theorem exitDesiredKeys : ((exitDesired discover policy).map slot).Nodup ∧ Clean (exitDesired discover policy) := by
  unfold exitDesired
  split
  · exact ⟨desiredSlots policy _,desiredClean policy _⟩
  · exact ⟨nodup_nil,by simp [Clean]⟩

theorem matchedRules {t : Tables} (matched : rulesMatch (currentRules t) (exitDesired discover policy) = true) (f : Family) :
    ((own (t.rules f)).map (fun r => some r.meaning)).Perm ((ofFamily f (exitDesired discover policy)).map ExitRule.meaning) := by
  obtain ⟨distinct,clean⟩ := @exitDesiredKeys discover policy
  have same := (rulesMatchPerm (currentClean t) clean distinct).mp matched
  have family : (ofFamily f (exitDesired discover policy)).Perm ((own (t.rules f)).map (Rule.read f)) := by
    rw [← currentFamily]
    exact same.filter _
  have meanings := (family.map ExitRule.meaning).symm
  rw [map_map] at meanings
  have read : ExitRule.meaning ∘ Rule.read f = fun r => some r.meaning := funext (readMeaning f)
  rwa [read] at meanings

theorem steadySound {t : Tables} {place : Nat} (matched : rulesMatch (currentRules t) (exitDesired discover policy) = true)
    (agrees : decide (0 < (exitDesired discover policy).length) = masqSeen world t place) : Sound world (exitDesired discover policy) t ↔
      (exitDesired discover policy = [] → t.masq .v4 = 0 ∧ (Available world → t.masq .v6 = 0)) := by
  constructor
  · intro sound empty
    have gone : ¬ 0 < t.masq .v4 := fun present => absurd empty (sound.four.mp present)
    refine ⟨by omega,fun available => ?_⟩
    have gone6 : ¬ 0 < t.masq .v6 := fun present => absurd empty ((sound.six available).mp present)
    omega
  · intro gone
    by_cases empty : exitDesired discover policy = []
    · obtain ⟨four,six⟩ := gone empty
      refine ⟨matchedRules matched,iff_of_false (by omega) (fun filled => filled empty),fun available => ?_⟩
      have none6 := six available
      exact iff_of_false (by omega) (fun filled => filled empty)
    · have needed : decide (0 < (exitDesired discover policy).length) = true := by
        simpa using length_pos_iff.mpr empty
      rw [needed] at agrees
      have seen := agrees.symm
      simp only [masqSeen,Bool.and_eq_true,decide_eq_true_eq] at seen
      obtain ⟨⟨_,four⟩,six⟩ := seen
      refine ⟨matchedRules matched,iff_of_true four empty,fun available => iff_of_true ?_ empty⟩
      cases answer : world (place+1) with
      | none => simpa [answer] using six
      | some f =>
        rw [answer] at six
        simp [available _ f answer] at six

theorem reconcileSound (clean : NoForeign s.tables) (single : ∀ f, s.tables.masq f ≤ 1)
    (ran : Reconcile world back ctx discover policy s = (none,t)) :
    Sound world (exitDesired discover policy) t.tables ↔ ReconcileClean world discover policy s.tables s.log.length := by
  unfold Reconcile at ran
  split at ran
  · cases ran
  rename_i bridges found
  have desired : exitDesired discover policy = buildDesiredRules policy bridges := by
    rw [exitDesired,found]
  dsimp only at ran
  rw [← desired] at ran
  split at ran
  · cases ran
  rename_i current u listed
  obtain ⟨rfl,tables,log⟩ := currentRun clean listed
  have place : u.log.length = s.log.length+2 := by rw [log,length_append]; rfl
  unfold ReconcileClean
  rw [← tables,← place]
  have cleanU : NoForeign u.tables := tables ▸ clean
  have singleU : ∀ f, u.tables.masq f ≤ 1 := tables ▸ single
  rw [← tables] at ran
  split at ran
  · rename_i matched
    rw [if_pos matched]
    obtain ⟨seen,tablesM,logM⟩ := @hasMasqueradeRun world u
    have placeM : (hasMasquerade world u).2.log.length = u.log.length + (masqChecks world u.tables u.log.length).length := by
      rw [logM,length_append]
    rw [seen] at ran
    split at ran
    · rename_i agrees
      rw [if_pos agrees]
      cases ran
      rw [tablesM]
      exact steadySound matched agrees
    · rename_i differs
      rw [if_neg differs,← placeM,← tablesM]
      exact applySound (tablesM ▸ cleanU) (tablesM ▸ singleU) ran
  · rename_i drifted
    rw [if_neg drifted]
    exact applySound cleanU singleU ran

end

def calm : World := fun _ => none
def bareTables : Tables := ⟨fun _ => [],fun _ => 0⟩
def idleState : State := ⟨bareTables,⟨none,none,false⟩,⟨"",false,[]⟩,false,[]⟩
def lanBridge : IfName := ⟨"br0".toList,by decide⟩
def allPolicy : ExitNodePolicy := ⟨.all,[]⟩

def leftoverMasq : State := {idleState with tables := bareTables.setMasq .v6 1}

end VpnPack.Exit
