import VpnPack.Exit.Remote
import VpnPack.Exit.Undone

/-! Failure atomicity of Enable. Each step of the saga touches one part of the state,
so what a failed call leaves is read off part by part. The Undo calls and the
cleanup at the start of Apply are taken to be answered. -/
namespace VpnPack.Exit
open Base List Net Ops Service

inductive Part where
  | remote (node : Option RemoteExitNode)
  | advertise (enabled : Bool)
  | rules (tables : Tables) (policy : Option ExitNodePolicy)
  | prefs (prefs : Prefs)

def part (s : State) : EnableStep → Part
  | .persistRemote => .remote s.manifest.remoteExitNode
  | .clearAdvertise => .advertise s.manifest.advertiseExitNodeEnabled
  | .applyRules => .rules s.tables s.manifest.exitNodePolicy
  | .setPrefs => .prefs s.prefs

def Beside (s t : State) : Prop :=
  t.manifest.remoteExitNode = s.manifest.remoteExitNode ∧
    t.manifest.advertiseExitNodeEnabled = s.manifest.advertiseExitNodeEnabled ∧ t.prefs = s.prefs

theorem besideLasting : Lasting Beside where
  same _ := ⟨rfl,rfl,rfl⟩
  chain _ _ _ first second :=
    ⟨second.1.trans first.1,second.2.1.trans first.2.1,second.2.2.trans first.2.2⟩
  command world c s := by
    unfold execute
    split
    · exact ⟨rfl,rfl,rfl⟩
    · split <;> exact ⟨rfl,rfl,rfl⟩
  noting _ _ := ⟨rfl,rfl,rfl⟩

section
variable {env : Env} {req : EnableRemoteExitRequest} {s u : State} {k other : EnableStep}

theorem editPart (world : World) (mp : MaskedPrefs) (s : State) (apart : k ≠ .setPrefs) : part (EditPrefs world mp s).2 k = part s k := by
  cases k with
  | setPrefs => exact absurd rfl apart
  | persistRemote | clearAdvertise | applyRules => simp only [EditPrefs]; split <;> rfl

theorem besidePart {t : State} (beside : Beside s t) (apart : k ≠ .applyRules) : part t k = part s k := by
  cases k with
  | applyRules => exact absurd rfl apart
  | persistRemote => exact congrArg Part.remote beside.1
  | clearAdvertise => exact congrArg Part.advertise beside.2.1
  | setPrefs => exact congrArg Part.prefs beside.2.2

theorem stepKeeps (apart : k ≠ other) :
    Keeps (fun s => part s k) (other.op env req u).Do ∧ Keeps (fun s => part s k) (other.op env req u).Undo := by
  cases other with
  | persistRemote | clearAdvertise => cases k <;> first | exact absurd rfl apart | exact ⟨fun _ => rfl,fun _ => rfl⟩
  | applyRules =>
    exact ⟨fun s => besidePart (applyLasting besideLasting (fun _ _ _ => ⟨rfl,rfl,rfl⟩) s) apart,
      fun s => besidePart (cleanLasting besideLasting s) apart⟩
  | setPrefs => exact ⟨fun s => editPart _ _ s apart,fun s => editPart _ _ s apart⟩

theorem enableStepsNodup (env : Env) (prefs : Prefs) : (enableSteps env prefs).Nodup := by
  unfold enableSteps
  cases prefs.AdvertisesExitNode <;> cases env.exitSvc <;> decide

theorem onlyKind {prefs : Prefs} {i : Nat} (here : (enableSteps env prefs)[i]? = some k) :
    OnlyStep (fun s => part s k) ((enableSteps env prefs).map (EnableStep.op env req u)) i := by
  intro j op found apart
  rw [getElem?_map,Option.map_eq_some_iff] at found
  obtain ⟨other,there,rfl⟩ := found
  refine stepKeeps (fun same => apart ?_)
  subst same
  have bound := (List.getElem?_eq_some_iff.mp there).1
  exact (getElem?_inj bound (enableStepsNodup env prefs)).mp (there.trans here.symm)

end

def asked (s : State) : State := {s with log := s.log ++ [.status,.getPrefs]}

def sagaSteps (env : Env) (req : EnableRemoteExitRequest) (s : State) : List (Op State) :=
  (enableSteps env s.prefs).map (EnableStep.op env req (asked s))

def sagaState (env : Env) (req : EnableRemoteExitRequest) (s : State) (i : Nat) : State :=
  after (sagaSteps env req s) (asked s) i

def stepFails (env : Env) (req : EnableRemoteExitRequest) (s : State) (i : Nat) (k : EnableStep) : Prop :=
  ((k.op env req (asked s)).Do (sagaState env req s i)).1 ≠ none

def Survives (env : Env) (req : EnableRemoteExitRequest) (s : State) (i : Nat) : EnableStep → Prop
  | .persistRemote => stepFails env req s i .persistRemote → s.manifest.remoteExitNode = some req.newRemote
  | .clearAdvertise =>
    (stepFails env req s i .clearAdvertise → s.manifest.advertiseExitNodeEnabled = false) ∧
      (¬ stepFails env req s i .clearAdvertise → s.manifest.advertiseExitNodeEnabled = true)
  | .applyRules =>
    Bare s.tables ∧
      (¬ stepFails env req s i .applyRules ∨
          Persists env.world env.back env.inner env.discover req.policy (cleanupLocked env.world (sagaState env req s i)).2 →
        s.manifest.exitNodePolicy = some (stored req.policy))
  | .setPrefs => True

def EnableSurvives (env : Env) (req : EnableRemoteExitRequest) (s : State) : Prop :=
  ∀ i k, (enableSteps env s.prefs)[i]? = some k → Called env.ctx (sagaSteps env req s) (asked s) i → Survives env req s i k

structure Restored (s t : State) : Prop where
  manifest : t.manifest = s.manifest
  prefs : t.prefs = s.prefs
  tables : ∀ f, own (t.tables.rules f) = own (s.tables.rules f) ∧ t.tables.masq f = s.tables.masq f

section
variable {env : Env} {req : EnableRemoteExitRequest} {s t : State} {e : GoError} {i : Nat}

theorem sagaAt {k : EnableStep} (here : (enableSteps env s.prefs)[i]? = some k) :
    (sagaSteps env req s)[i]? = some (k.op env req (asked s)) := by
  rw [sagaSteps,getElem?_map,here]
  rfl

theorem sagaLeaves {k : EnableStep} (here : (enableSteps env s.prefs)[i]? = some k)
    (ran : run env.ctx (sagaSteps env req s) (asked s) = (some e,t)) :
    LeftBy env.ctx (sagaSteps env req s) (fun s => part s k) (k.op env req (asked s)) i (asked s) t :=
  failedLeaves (onlyKind here) (sagaAt here) ran

theorem sagaAbsent {k : EnableStep} (absent : k ∉ enableSteps env s.prefs)
    (ran : run env.ctx (sagaSteps env req s) (asked s) = (some e,t)) : part t k = part s k := by
  have all : ∀ op ∈ sagaSteps env req s, Keeps (fun s => part s k) op.Do ∧ Keeps (fun s => part s k) op.Undo := by
    intro op member
    obtain ⟨other,inside,rfl⟩ := mem_map.mp member
    exact stepKeeps (fun same => absent (same ▸ inside))
  have kept := failedUntouched all ran
  rw [kept]
  cases k <;> rfl

theorem sagaStart {k : EnableStep} (here : (enableSteps env s.prefs)[i]? = some k) : part (sagaState env req s i) k = part s k := by
  have kept : part (sagaState env req s i) k = part (asked s) k := afterBefore (onlyKind here) (Nat.le_refl i)
  rw [kept]
  cases k <;> rfl

theorem remotePart (here : (enableSteps env s.prefs)[i]? = some .persistRemote)
    (ran : run env.ctx (sagaSteps env req s) (asked s) = (some e,t)) : t.manifest.remoteExitNode = s.manifest.remoteExitNode ↔
      (Called env.ctx (sagaSteps env req s) (asked s) i → Survives env req s i .persistRemote) := by
  have left := sagaLeaves here ran
  by_cases called : Called env.ctx (sagaSteps env req s) (asked s) i
  · by_cases fails : stepFails env req s i .persistRemote
    · have result : t.manifest.remoteExitNode = some req.newRemote := Part.remote.inj (left.failed called fails)
      rw [result]
      exact ⟨fun same _ _ => same.symm,fun given => (given called fails).symm⟩
    · obtain ⟨v,_,result⟩ := left.undone called (Classical.not_not.mp fails)
      have same : t.manifest.remoteExitNode = s.manifest.remoteExitNode := Part.remote.inj result
      exact iff_of_true same (fun _ bad => absurd bad fails)
  · exact iff_of_true (Part.remote.inj (left.untouched called)) (fun bad => absurd bad called)

theorem advertisePart (here : (enableSteps env s.prefs)[i]? = some .clearAdvertise)
    (ran : run env.ctx (sagaSteps env req s) (asked s) = (some e,t)) :
    t.manifest.advertiseExitNodeEnabled = s.manifest.advertiseExitNodeEnabled ↔
      (Called env.ctx (sagaSteps env req s) (asked s) i → Survives env req s i .clearAdvertise) := by
  have left := sagaLeaves here ran
  by_cases called : Called env.ctx (sagaSteps env req s) (asked s) i
  · by_cases fails : stepFails env req s i .clearAdvertise
    · have result : t.manifest.advertiseExitNodeEnabled = false := Part.advertise.inj (left.failed called fails)
      rw [result]
      exact ⟨fun same _ => ⟨fun _ => same.symm,fun ok => absurd fails ok⟩,fun given => ((given called).1 fails).symm⟩
    · obtain ⟨v,_,result⟩ := left.undone called (Classical.not_not.mp fails)
      have result : t.manifest.advertiseExitNodeEnabled = true := Part.advertise.inj result
      rw [result]
      exact ⟨fun same _ => ⟨fun bad => absurd bad fails,fun _ => same.symm⟩,fun given => ((given called).2 fails).symm⟩
  · exact iff_of_true (Part.advertise.inj (left.untouched called)) (fun bad => absurd bad called)

theorem restoreUndoes (prefs : Prefs) (mp : MaskedPrefs) (kept : prefs.AdvertisesExitNode = false → mp.advertiseRoutes = none) :
    (restorePrefs prefs).apply (mp.apply prefs) = prefs := by
  cases advertises : prefs.AdvertisesExitNode with
  | false => simp [restorePrefs,MaskedPrefs.apply,advertises,kept advertises]
  | true => simp [restorePrefs,MaskedPrefs.apply,advertises]

theorem prefsPart (willing : ∀ n, env.back n = none) (here : (enableSteps env s.prefs)[i]? = some .setPrefs)
    (ran : run env.ctx (sagaSteps env req s) (asked s) = (some e,t)) : t.prefs = s.prefs := by
  have left := sagaLeaves here ran
  have start : (sagaState env req s i).prefs = s.prefs := Part.prefs.inj (sagaStart here)
  by_cases called : Called env.ctx (sagaSteps env req s) (asked s) i
  · by_cases fails : stepFails env req s i .setPrefs
    · have result := Part.prefs.inj (left.failed called fails)
      rw [result]
      simp only [stepFails,EnableStep.op,EditPrefs] at fails
      change (EditPrefs env.world _ (sagaState env req s i)).2.prefs = s.prefs
      simp only [EditPrefs]
      split at fails
      · exact start
      · exact absurd rfl fails
    · obtain ⟨v,same,result⟩ := left.undone called (Classical.not_not.mp fails)
      have same := Part.prefs.inj same
      have result := Part.prefs.inj result
      have undone : t.prefs = (restorePrefs s.prefs).apply v.prefs := by
        rw [result]
        change (EditPrefs env.back _ v).2.prefs = _
        simp only [EditPrefs,willing]
        rfl
      have done : v.prefs = (req.newPrefs s.prefs).apply s.prefs := by
        rw [same]
        change (EditPrefs env.world _ (sagaState env req s i)).2.prefs = _
        simp only [stepFails,EnableStep.op,EditPrefs] at fails
        simp only [EditPrefs]
        split at fails
        · exact absurd (by simp) fails
        · simp only [start]
          rfl
      rw [undone,done]
      exact restoreUndoes s.prefs _ (fun silent => by simp [EnableRemoteExitRequest.newPrefs,silent])
  · exact Part.prefs.inj (left.untouched called)

theorem sagaLog (here : (enableSteps env s.prefs)[i]? = some .applyRules) : (sagaState env req s i).log.length = s.log.length+2+i := by
  have place : (enableSteps env s.prefs)[if s.prefs.AdvertisesExitNode then 2 else 1]? = some .applyRules ∨ env.exitSvc = false := by
    unfold enableSteps
    cases s.prefs.AdvertisesExitNode <;> cases env.exitSvc <;> simp
  rcases place with there | off
  · have bound := (List.getElem?_eq_some_iff.mp here).1
    have index := (getElem?_inj bound (enableStepsNodup env s.prefs)).mp (here.trans there.symm)
    rw [index,sagaState,sagaSteps,enableSteps,Ops.after]
    cases s.prefs.AdvertisesExitNode <;> simp [EnableStep.op,setRemoteExitNode,setAdvertiseExitNode,saveLocked,asked]
  · have absent : EnableStep.applyRules ∉ enableSteps env s.prefs := by
      unfold enableSteps
      cases s.prefs.AdvertisesExitNode <;> simp [off]
    exact absurd (mem_of_getElem? here) absent

theorem bareSame {a b : Tables} (bare : Bare a) : (∀ f, own (a.rules f) = own (b.rules f) ∧ a.masq f = b.masq f) ↔ Bare b := by
  constructor
  · intro same f
    obtain ⟨rules,masq⟩ := same f
    exact ⟨rules ▸ (bare f).1,masq ▸ (bare f).2⟩
  · intro other f
    exact ⟨(bare f).1.trans (other f).1.symm,(bare f).2.trans (other f).2.symm⟩

structure RulesReady (env : Env) (req : EnableRemoteExitRequest) (s : State) (i : Nat) : Prop where
  clean : NoForeign (sagaState env req s i).tables
  single : ∀ f, (sagaState env req s i).tables.masq f ≤ 1
  emptied : Emptied env.world (sagaState env req s i).tables (sagaState env req s i).log.length
  policy : (sagaState env req s i).manifest.exitNodePolicy = s.manifest.exitNodePolicy

theorem rulesReady (clean : NoForeign s.tables) (single : ∀ f, s.tables.masq f ≤ 1) (answered : Emptied env.world s.tables (s.log.length+2+i))
    (here : (enableSteps env s.prefs)[i]? = some .applyRules) : RulesReady env req s i := by
  obtain ⟨tables,policy⟩ := Part.rules.inj (@sagaStart env req s i .applyRules here)
  refine ⟨by rw [tables]; exact clean,by rw [tables]; exact single,?_,policy⟩
  rw [tables,sagaLog here]
  exact answered

section
variable {u : State} (willing : ∀ n, env.back n = none) (ready : RulesReady env req s i)
  (here : (enableSteps env s.prefs)[i]? = some .applyRules) (ran : run env.ctx (sagaSteps env req s) (asked s) = (some e,t))
  (called : Called env.ctx (sagaSteps env req s) (asked s) i)
include willing ready here ran called

theorem rulesFailed {cause : GoError}
    (did : Apply env.world env.back env.inner env.discover req.policy (sagaState env req s i) = (some cause,u)) :
    ((∀ f, own (t.tables.rules f) = own (s.tables.rules f) ∧ t.tables.masq f = s.tables.masq f) ∧
        t.manifest.exitNodePolicy = s.manifest.exitNodePolicy) ↔ Survives env req s i .applyRules := by
  have fails : stepFails env req s i .applyRules := by
    change (Apply env.world env.back env.inner env.discover req.policy (sagaState env req s i)).1 ≠ none
    rw [did]
    simp
  have final : part t .applyRules =
      part (Apply env.world env.back env.inner env.discover req.policy (sagaState env req s i)).2 .applyRules :=
    (sagaLeaves here ran).failed called fails
  rw [did] at final
  obtain ⟨tablesT,policyT⟩ := Part.rules.inj final
  obtain ⟨bare,reached,missed⟩ := applyFailed willing ready.clean ready.single ready.emptied did
  rw [tablesT,policyT,bareSame bare]
  by_cases persists : Persists env.world env.back env.inner env.discover req.policy (cleanupLocked env.world (sagaState env req s i)).2
  · rw [reached persists]
    exact ⟨fun both => ⟨both.1,fun _ => both.2.symm⟩,fun given => ⟨given.1,(given.2 (.inr persists)).symm⟩⟩
  · rw [missed persists,ready.policy]
    refine ⟨fun both => ⟨both.1,fun cause => ?_⟩,fun given => ⟨given.1,rfl⟩⟩
    rcases cause with ok | bad
    · exact absurd fails ok
    · exact absurd bad persists

theorem rulesUndone (did : Apply env.world env.back env.inner env.discover req.policy (sagaState env req s i) = (none,u)) :
    ((∀ f, own (t.tables.rules f) = own (s.tables.rules f) ∧ t.tables.masq f = s.tables.masq f) ∧
        t.manifest.exitNodePolicy = s.manifest.exitNodePolicy) ↔ Survives env req s i .applyRules := by
  have ok : ((EnableStep.applyRules.op env req (asked s)).Do (sagaState env req s i)).1 = none := by
    change (Apply env.world env.back env.inner env.discover req.policy (sagaState env req s i)).1 = none
    rw [did]
  have works : ¬ stepFails env req s i .applyRules := fun fails => fails ok
  obtain ⟨v,same,final⟩ := (sagaLeaves here ran).undone called ok
  have same : part v .applyRules =
      part (Apply env.world env.back env.inner env.discover req.policy (sagaState env req s i)).2 .applyRules := same
  rw [did] at same
  obtain ⟨tablesV,policyV⟩ := Part.rules.inj same
  obtain ⟨tablesT,policyT⟩ := Part.rules.inj final
  obtain ⟨cleanU,singleU,persisted⟩ := applyDone willing ready.clean ready.single ready.emptied did
  obtain ⟨bare,manifest⟩ := cleanupWilling willing (tablesV ▸ cleanU) (tablesV ▸ singleU)
  have policyC : t.manifest.exitNodePolicy = some (stored req.policy) := by
    rw [policyT]
    change (Cleanup env.back v).2.manifest.exitNodePolicy = _
    rw [manifest,policyV,persisted]
  have tablesC : t.tables = (Cleanup env.back v).2.tables := tablesT
  rw [tablesC,policyC,bareSame bare]
  exact ⟨fun both => ⟨both.1,fun _ => both.2.symm⟩,fun given => ⟨given.1,(given.2 (.inl works)).symm⟩⟩

end

theorem rulesPart (willing : ∀ n, env.back n = none) (clean : NoForeign s.tables) (single : ∀ f, s.tables.masq f ≤ 1)
    (answered : Emptied env.world s.tables (s.log.length+2+i)) (here : (enableSteps env s.prefs)[i]? = some .applyRules)
    (ran : run env.ctx (sagaSteps env req s) (asked s) = (some e,t)) :
    ((∀ f, own (t.tables.rules f) = own (s.tables.rules f) ∧ t.tables.masq f = s.tables.masq f) ∧
        t.manifest.exitNodePolicy = s.manifest.exitNodePolicy) ↔
      (Called env.ctx (sagaSteps env req s) (asked s) i → Survives env req s i .applyRules) := by
  have ready : RulesReady env req s i := rulesReady clean single answered here
  by_cases called : Called env.ctx (sagaSteps env req s) (asked s) i
  · rw [imp_iff_right called]
    rcases did : Apply env.world env.back env.inner env.discover req.policy (sagaState env req s i) with ⟨result,u⟩
    cases result with
    | some cause => exact rulesFailed willing ready here ran called did
    | none => exact rulesUndone willing ready here ran called did
  · obtain ⟨tablesT,policyT⟩ := Part.rules.inj ((sagaLeaves here ran).untouched called :
      part t .applyRules = part (asked s) .applyRules)
    rw [tablesT,policyT]
    exact iff_of_true ⟨fun _ => ⟨rfl,rfl⟩,rfl⟩ (fun bad => absurd bad called)

end

def Admitted (env : Env) (req : EnableRemoteExitRequest) (s : State) : Prop :=
  req.peerID ≠ "" ∧ env.world s.log.length = none ∧ env.world (s.log.length+1) = none ∧ invalidRequest req = none ∧
    ∃ peer, findPeerByID env.peers req.peerID = some peer ∧ peer.exitNodeOption = true ∧ confirmMessage req s.prefs peer = none

section
variable {env : Env} {req : EnableRemoteExitRequest} {s t : State} {e : Error}

theorem askingRun (world : World) (call : Call) (s : State) :
    asking world call s = ((world s.log.length).map Failure.err,{s with log := s.log ++ [call]}) := rfl

theorem askedTwice (s : State) : {s with log := s.log ++ [Call.status] ++ [Call.getPrefs]} = asked s := by
  simp [asked]

theorem restoredLog (s : State) (log : List Call) : Restored s {s with log := log} :=
  ⟨rfl,rfl,fun _ => ⟨rfl,rfl⟩⟩

theorem enableRun (env : Env) (req : EnableRemoteExitRequest) (s : State) :
    ¬ Admitted env req s ∧ (∃ log, (Enable env req s).2 = {s with log := log}) ∨
      Admitted env req s ∧ (Enable env req s).2 = (run env.ctx (sagaSteps env req s) (asked s)).2 ∧
        ∀ e, (Enable env req s).1 = .error e → (run env.ctx (sagaSteps env req s) (asked s)).1 ≠ none := by
  unfold Enable
  split
  · rename_i empty
    exact .inl ⟨fun admitted => admitted.1 empty,s.log,rfl⟩
  rename_i named
  rw [askingRun]
  cases status : env.world s.log.length with
  | some f => exact .inl ⟨fun admitted => by simp [admitted.2.1] at status,_,rfl⟩
  | none =>
    simp only [Option.map_none]
    cases found : findPeerByID env.peers req.peerID with
    | none =>
      refine .inl ⟨fun admitted => ?_,_,rfl⟩
      obtain ⟨peer,same,_⟩ := admitted.2.2.2.2
      rw [found] at same
      contradiction
    | some peer =>
      have only {other : PeerStatus} (same : findPeerByID env.peers req.peerID = some other) : other = peer :=
        Option.some.inj (same.symm.trans found)
      dsimp only
      split
      · rename_i plain
        refine .inl ⟨fun admitted => ?_,_,rfl⟩
        obtain ⟨other,same,option,_⟩ := admitted.2.2.2.2
        rw [only same,plain] at option
        contradiction
      rename_i option
      rw [askingRun]
      cases prefs : env.world (s.log ++ [Call.status]).length with
      | some f =>
        refine .inl ⟨fun admitted => ?_,_,rfl⟩
        rw [length_append,length_singleton,admitted.2.2.1] at prefs
        contradiction
      | none =>
        simp only [Option.map_none]
        rw [length_append,length_singleton] at prefs
        split
        · rename_i msg unconfirmed
          refine .inl ⟨fun admitted => ?_,_,rfl⟩
          obtain ⟨other,same,_,confirmed⟩ := admitted.2.2.2.2
          rw [only same,unconfirmed] at confirmed
          contradiction
        rename_i confirmed
        split
        · rename_i cause invalid
          refine .inl ⟨fun admitted => ?_,_,rfl⟩
          rw [admitted.2.2.2.1] at invalid
          contradiction
        · rename_i valid
          rw [askedTwice]
          have same : enableSaga env req (asked s) (asked s) = run env.ctx (sagaSteps env req s) (asked s) := rfl
          rw [same]
          refine .inr ⟨⟨named,status,prefs,valid,peer,found,by simpa using option,confirmed⟩,?_⟩
          split
          · rename_i cause u failed
            rw [failed]
            exact ⟨rfl,fun _ _ => by simp⟩
          · rename_i u done
            rw [done]
            exact ⟨rfl,fun e bad => by cases bad⟩

theorem enableSource (ran : Enable env req s = (.error e,t)) : ¬ Admitted env req s ∧ Restored s t ∨
      Admitted env req s ∧ ∃ cause, run env.ctx (sagaSteps env req s) (asked s) = (some cause,t) := by
  rcases enableRun env req s with ⟨refused,log,state⟩ | ⟨admitted,state,errs⟩
  · rw [ran] at state
    have final : t = {s with log := log} := state
    rw [final]
    exact .inl ⟨refused,restoredLog s log⟩
  · have failed := errs e (by rw [ran])
    rw [ran] at state
    obtain ⟨cause,same⟩ := Option.ne_none_iff_exists'.mp failed
    exact .inr ⟨admitted,cause,Prod.ext same state.symm⟩

end

def failingAt (place : Nat) : World := fun n => if n = place then some ⟨.new "connection refused",[]⟩ else none
def exitPeer : PeerStatus := ⟨"n2","relay",true⟩
def secondExit : EnableRemoteExitRequest := ⟨"n2",.selective,[],true⟩

def sagaEnv (place : Nat) (exitSvc : Bool) : Env :=
  ⟨failingAt place,calm,background,background,.ok [lanBridge],[exitPeer],exitSvc⟩

/- All traffic of the bridge goes through a first peer; switching to a second one
fails in the last step, and the rules of the first are gone. -/
def bridgeRule : Rule := ⟨5280,none,some lanBridge,exitTable,anySource⟩

def firstExit : State :=
  {idleState with
    tables := ⟨fun _ => [bridgeRule],fun _ => 1⟩
    manifest := ⟨some allPolicy,some ⟨"n1",.all,[]⟩,false⟩
    prefs := ⟨"n1",true,[]⟩}

end VpnPack.Exit
