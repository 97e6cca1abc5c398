import VpnPack.Wgs2s.Frame

/-! The tunnel list in memory against tunnels.json. Kernel and key-file work never touches
either; each operation changes the list at one point next to its save. -/
namespace VpnPack.Wgs2s
open Base Net Ops

def memory (s : State) : List TunnelConfig × List TunnelConfig := (s.config,s.disk)

theorem filesMemory {p : Proc State} (kept : Keeps files p) : Keeps memory p := by
  intro s
  exact congrArg (fun f => (f.1,f.2.1)) (kept s)

theorem saveKeyFilesMemory {env : Env} {id key : String} : Keeps memory (saveKeyFiles env id key) := by
  intro s
  unfold saveKeyFiles
  split
  · split <;> rfl
  · rfl

theorem deleteKeyFilesMemory {env : Env} {ph : Phase} (id : String) (s : State) : memory (deleteKeyFiles env ph id s) = memory s := by
  unfold deleteKeyFiles
  split <;> rfl

/- The operation gets as far as its own save, with the list already changed. The
save of UpdateTunnel is left out: it puts the old record back when it fails. -/
def reachesSave : Operation → State → Bool
  | .create env cfg privateKey,s =>
    match refuseCreate env cfg with
    | some _ => false
    | none =>
      let cfg := completed env s.config cfg
      match chooseKey env privateKey with
      | .error _ => false
      | .ok key => (seq (saveKeyFiles env cfg.id key) (bringUp env .forward cfg key) s).1.isNone
  | .enable env id,s =>
    match findTunnel id s.config with
    | none => false
    | some (_,cfg) => !cfg.enabled && (bringUpTunnel env .forward cfg s).1.isNone
  | .disable env id,s =>
    match findTunnel id s.config with
    | none => false
    | some (_,cfg) => cfg.enabled && (tearDown env .forward cfg s).1.isNone
  | .delete env id,s =>
    match findTunnel id s.config with
    | none => false
    | some (_,cfg) => !cfg.enabled || (tearDown env .forward cfg s).1.isNone
  | .update _ _ _,_ => false
  | .restoreAll _,_ => false

def saveFails : Operation → Bool
  | .create env _ _ | .update env _ _ | .enable env _ | .disable env _ | .delete env _ =>
    (env.answer .forward .save).isSome
  | .restoreAll _ => false

def losesSave (op : Operation) (s : State) : Bool := reachesSave op s && saveFails op

inductive ListOutcome (s : State) (lost : Bool) (r : Option GoError × State) : Prop where
  | refused (failed : r.1 ≠ none) (same : memory r.2 = memory s) (kept : lost = false)
  | idle (done : r.1 = none) (same : memory r.2 = memory s) (kept : lost = false)
  | committed (done : r.1 = none) (saved : r.2.disk = r.2.config) (kept : lost = false)
  | dropped (failed : r.1 ≠ none) (changed : r.2.config ≠ s.config) (gone : lost = true)

theorem saveSource (env : Env) (ph : Phase) (s : State) :
    (∃ e, env.answer ph .save = some e ∧ save env ph s = (some (.wrap "save config" e),s)) ∨
    (env.answer ph .save = none ∧ save env ph s = (none,{s with disk := s.config})) := by
  unfold save
  cases answer : env.answer ph .save with
  | none => exact .inr ⟨rfl,rfl⟩
  | some e => exact .inl ⟨e,rfl,rfl⟩

variable {s t : State} {tunnels : List TunnelConfig} {idx : Nat}

theorem memoryConfig (same : memory t = memory s) : t.config = s.config := congrArg Prod.fst same
theorem memoryDisk (same : memory t = memory s) : t.disk = s.disk := congrArg Prod.snd same

theorem setChanges {cfg other : TunnelConfig} (here : tunnels[idx]? = some cfg)
    (differs : other ≠ cfg) : tunnels.set idx other ≠ tunnels := by
  intro same
  have inside : idx < tunnels.length := (List.getElem?_eq_some_iff.mp here).1
  have now : (tunnels.set idx other)[idx]? = some other := by simp [inside]
  rw [same,here] at now
  exact differs (Option.some.inj now).symm

theorem rollbackCreateConfig (env : Env) (cfg : TunnelConfig) (s : State) :
    (deleteKeyFiles env .undo cfg.id (tearDown env .undo cfg s).2).config = s.config :=
  memoryConfig ((deleteKeyFilesMemory _ _).trans ((filesMemory tearDownFiles) s))

theorem createOutcome (env : Env) (cfg : TunnelConfig) (privateKey : String) (s : State) :
    ListOutcome s (losesSave (.create env cfg privateKey) s) (CreateTunnel env cfg privateKey s) := by
  simp only [CreateTunnel,losesSave,reachesSave]
  cases refused : refuseCreate env cfg with
  | some e => exact .refused (by simp) rfl (by simp)
  | none =>
    cases chosen : chooseKey env privateKey with
    | error e => exact .refused (by simp) rfl (by simp)
    | ok key =>
      dsimp only
      rcases stored : saveKeyFiles env (completed env s.config cfg).id key s with ⟨r,t⟩
      have sameT : memory t = memory s := keepsRan saveKeyFilesMemory stored
      cases r with
      | some e =>
        rw [seqFail stored,seqFail stored]
        exact .refused (by simp) sameT (by simp)
      | none =>
        rw [seqOk stored,seqOk stored]
        unfold installTunnel
        rcases raised : bringUp env .forward (completed env s.config cfg) key t with ⟨r,u⟩
        have sameU : memory u = memory s := (keepsRan (filesMemory bringUpFiles) raised).trans sameT
        cases r with
        | some e => exact .refused (by simp) ((deleteKeyFilesMemory _ _).trans sameU) (by simp)
        | none =>
          dsimp only
          rcases saveSource env .forward {u with config := u.config ++ [completed env s.config cfg]} with
            ⟨e,answer,ran⟩ | ⟨answer,ran⟩
          · rw [ran]
            refine .dropped (by simp) ?_ (by simp [saveFails,answer])
            dsimp only
            rw [rollbackCreateConfig,memoryConfig sameU]
            simp
          · rw [ran]
            exact .committed rfl rfl (by simp [saveFails,answer])

/- Enable and Disable: one kernel step, then the flag and the save in a step that
ops.Run does not undo when it is the one that fails. -/
theorem flagOutcome {env : Env} {cfg : TunnelConfig} {idx : Nat} {value : Bool} {kernelStep : Op State}
    {s : State} (here : s.config[idx]? = some cfg) (flips : cfg.enabled = !value)
    (forward : Keeps memory kernelStep.Do) (back : Keeps memory kernelStep.Undo) :
    ListOutcome s ((kernelStep.Do s).1.isNone && (env.answer .forward .save).isSome)
      (run background [kernelStep,persistStep env idx cfg value] s) := by
  rcases ran : kernelStep.Do s with ⟨r,t⟩
  have same : memory t = memory s := keepsRan forward ran
  cases r with
  | some e =>
    rw [runFirstFailed ran]
    exact .refused (by simp) same (by simp)
  | none =>
    rcases saveSource env .forward (setEnabled idx cfg value t) with ⟨e,answer,saved⟩ | ⟨answer,saved⟩
    · have second : (persistStep env idx cfg value).Do t = _ := saved
      rw [runSecondFailed ran second]
      refine .dropped (rollbackFails _ _ _) ?_ (by simp [answer])
      have flagged : (setEnabled idx cfg value t).config = s.config.set idx {cfg with enabled := value} := by
        simp [setEnabled,memoryConfig same]
      rw [rollbackOne,memoryConfig (back _),flagged]
      refine setChanges here (fun clash => ?_)
      have := congrArg TunnelConfig.enabled clash
      rw [flips] at this
      cases value <;> simp at this
    · have second : (persistStep env idx cfg value).Do t = _ := saved
      rw [runPairOk ran second]
      exact .committed rfl rfl (by simp [answer])

section
variable {env : Env} {cfg : TunnelConfig}

theorem bringUpUndoMemory : Keeps memory (bringUpStep env cfg).Undo := by
  refine filesMemory (fun t => ?_)
  unfold bringUpStep
  dsimp only
  split
  · rfl
  · rw [deleteLink,onKernelFiles,releaseFiles]

theorem removeLinkMemory : Keeps memory (removeLinkStep env cfg).Do ∧ Keeps memory (removeLinkStep env cfg).Undo := by
  unfold removeLinkStep
  cases cfg.enabled with
  | false => exact ⟨keepsSkip,keepsSkip⟩
  | true => exact ⟨filesMemory tearDownFiles,filesMemory bringUpTunnelFiles⟩

end

theorem enableOutcome (env : Env) (id : String) (s : State) : ListOutcome s (losesSave (.enable env id) s) (EnableTunnel env id s) := by
  simp only [EnableTunnel,losesSave,reachesSave,saveFails]
  cases found : findTunnel id s.config with
  | none => exact .refused (by simp) rfl (by simp)
  | some place =>
    obtain ⟨idx,cfg⟩ := place
    dsimp only
    cases on : cfg.enabled with
    | true => exact .idle rfl rfl (by simp)
    | false =>
      have result := @flagOutcome env cfg idx true (bringUpStep env cfg) s (findTunnelSource found).1 on (filesMemory bringUpTunnelFiles) bringUpUndoMemory
      simpa [bringUpStep] using result

theorem disableOutcome (env : Env) (id : String) (s : State) : ListOutcome s (losesSave (.disable env id) s) (DisableTunnel env id s) := by
  simp only [DisableTunnel,losesSave,reachesSave,saveFails]
  cases found : findTunnel id s.config with
  | none => exact .refused (by simp) rfl (by simp)
  | some place =>
    obtain ⟨idx,cfg⟩ := place
    dsimp only
    cases on : cfg.enabled with
    | false => exact .idle rfl rfl (by simp)
    | true =>
      have result := @flagOutcome env cfg idx false (tearDownStep env cfg) s (findTunnelSource found).1 on
        (filesMemory tearDownFiles) (filesMemory bringUpTunnelFiles)
      simpa [tearDownStep] using result

theorem deleteOutcome (env : Env) (id : String) (s : State) : ListOutcome s (losesSave (.delete env id) s) (DeleteTunnel env id s) := by
  simp only [DeleteTunnel,losesSave,reachesSave,saveFails]
  cases found : findTunnel id s.config with
  | none => exact .refused (by simp) rfl (by simp)
  | some place =>
    obtain ⟨idx,cfg⟩ := place
    have inside : idx < s.config.length := (List.getElem?_eq_some_iff.mp (findTunnelSource found).1).1
    obtain ⟨forward,back⟩ := @removeLinkMemory env cfg
    have reached : (!cfg.enabled || (tearDown env .forward cfg s).1.isNone) = ((removeLinkStep env cfg).Do s).1.isNone := by
      unfold removeLinkStep
      cases cfg.enabled <;> simp
    dsimp only
    rw [reached]
    rcases ran : (removeLinkStep env cfg).Do s with ⟨r,t⟩
    have same : memory t = memory s := keepsRan forward ran
    cases r with
    | some e =>
      rw [runFirstFailed ran]
      exact .refused (by simp) same (by simp)
    | none =>
      rcases saveSource env .forward {t with config := t.config.eraseIdx idx} with ⟨e,answer,saved⟩ | ⟨answer,saved⟩
      · have second : (removeTunnelStep env idx cfg).Do t = _ := saved
        rw [runSecondFailed ran second]
        refine .dropped (rollbackFails _ _ _) ?_ (by simp [answer])
        rw [rollbackOne,memoryConfig (back _)]
        intro clash
        have shorter := congrArg List.length clash
        simp only [memoryConfig same,List.length_eraseIdx,inside,if_true] at shorter
        omega
      · have second : (removeTunnelStep env idx cfg).Do t = _ := saved
        rw [runTripleOk ran second rfl]
        have kept := @deleteKeyFilesMemory env .forward cfg.id {t with config := t.config.eraseIdx idx, disk := t.config.eraseIdx idx}
        exact .committed rfl ((memoryDisk kept).trans (memoryConfig kept).symm) (by simp [answer])

theorem setSelf {cfg : TunnelConfig} (other : TunnelConfig)
    (here : tunnels[idx]? = some cfg) : (tunnels.set idx other).set idx cfg = tunnels := by
  obtain ⟨inside,rfl⟩ := List.getElem?_eq_some_iff.mp here
  simp

theorem updateOutcome (env : Env) (id : String) (updates : TunnelConfig) (s : State) :
    ListOutcome s (losesSave (.update env id updates) s) (UpdateTunnel env id updates s) := by
  have never : losesSave (.update env id updates) s = false := rfl
  rw [never]
  unfold UpdateTunnel
  cases found : findTunnel id s.config with
  | none => exact .refused (by simp) rfl rfl
  | some place =>
    obtain ⟨idx,cfg⟩ := place
    have here := (findTunnelSource found).1
    dsimp only
    cases refused : refuseUpdate env cfg (applyUpdates cfg updates) with
    | some e => exact .refused (by simp) rfl rfl
    | none =>
      dsimp only
      rcases ran : updateKernel env cfg (applyUpdates cfg updates) s with ⟨r,t⟩
      have same : memory t = memory s := keepsRan (filesMemory updateKernelFiles) ran
      cases r with
      | some e =>
        rw [seqFail ran]
        exact .refused (by simp) same rfl
      | none =>
        rw [seqOk ran,commitUpdate]
        rcases saveSource env .forward {t with config := t.config.set idx (applyUpdates cfg updates)} with
          ⟨e,answer,saved⟩ | ⟨answer,saved⟩
        · rw [saved]
          refine .refused (by simp) ?_ rfl
          refine Prod.ext ?_ (memoryDisk same)
          change (t.config.set idx _).set idx cfg = s.config
          rw [memoryConfig same,setSelf _ here]
        · rw [saved]
          exact .committed rfl rfl rfl

theorem listOutcome (op : Operation) (s : State) : ListOutcome s (losesSave op s) (perform op s) := by
  cases op with
  | create env cfg privateKey => exact createOutcome env cfg privateKey s
  | update env id updates => exact updateOutcome env id updates s
  | enable env id => exact enableOutcome env id s
  | disable env id => exact disableOutcome env id s
  | delete env id => exact deleteOutcome env id s
  | restoreAll env =>
    have same : memory (RestoreAll env s).2 = memory s := filesMemory restoreAllFiles s
    cases returned : (RestoreAll env s).1 with
    | none => exact .idle returned same rfl
    | some e => exact .refused (by rw [perform,returned]; simp) same rfl

def FailsAtomically (op : Operation) (s : State) : Prop :=
  (perform op s).1 ≠ none → (after op s).config = s.config ∧ (s.config = s.disk → (after op s).config = (after op s).disk)

theorem listSurvivesFailure (op : Operation) (s : State) : (FailsAtomically op s ↔ losesSave op s = false) ∧
    ∀ start, start.config = start.disk → Reached after (fun op t => losesSave op t = false) start s → s.config = s.disk := by
  refine ⟨?_,?_⟩
  · cases listOutcome op s with
    | refused failed same kept =>
      refine ⟨fun _ => kept,fun _ _ => ⟨memoryConfig same,fun agree => ?_⟩⟩
      exact (memoryConfig same).trans (agree.trans (memoryDisk same).symm)
    | idle done same kept => exact ⟨fun _ => kept,fun _ failed => absurd done failed⟩
    | committed done saved kept => exact ⟨fun _ => kept,fun _ failed => absurd done failed⟩
    | dropped failed changed gone =>
      refine ⟨fun atomic => absurd (atomic failed).1 changed,fun kept => ?_⟩
      rw [gone] at kept
      contradiction
  · intro start agree reached
    refine reachedInvariant (fun t => t.config = t.disk) agree ?_ reached
    intro op t same kept
    cases listOutcome op t with
    | refused failed unchanged _ => exact (memoryConfig unchanged).trans (same.trans (memoryDisk unchanged).symm)
    | idle done unchanged _ => exact (memoryConfig unchanged).trans (same.trans (memoryDisk unchanged).symm)
    | committed done saved _ => exact saved.symm
    | dropped failed changed gone =>
      rw [gone] at kept
      contradiction

def storedState : State := ⟨[branchTunnel],[branchTunnel],fun _ => none,.empty,.empty⟩

def diskFull : Env :=
  {obliging with answer := fun _ step => if step = .save then some (.new "no space left on device") else none}

theorem listSurvivesFailureDelete : (after (.delete obliging "0a1b2c3d") storedState).config =
    (after (.delete obliging "0a1b2c3d") storedState).disk :=
  (listSurvivesFailure (.delete obliging "0a1b2c3d") _).2 storedState rfl (.next _ .start (by decide))

theorem deleteForgetsTunnel : (perform (.delete diskFull "0a1b2c3d") storedState).1 =
      some (.wrap "remove tunnel from disk config" (.wrap "save config" (.new "no space left on device"))) ∧
    storedState.config = [branchTunnel] ∧ storedState.disk = [branchTunnel] ∧
    (after (.delete diskFull "0a1b2c3d") storedState).config = [] ∧
    (after (.delete diskFull "0a1b2c3d") storedState).disk = [branchTunnel] := by
  decide

end VpnPack.Wgs2s
