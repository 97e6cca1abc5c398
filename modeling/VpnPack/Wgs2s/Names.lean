import VpnPack.Wgs2s.Atomicity

/-! The names of the tunnels over whole runs of the manager. A call keeps the list of IDs
and interface names, appends one pair to it or takes one out, whatever fails on the way. -/
namespace VpnPack.Wgs2s
open Base List Ops

def named (tunnels : List TunnelConfig) : List (String × String) := tunnels.map (fun t => (t.id,t.interfaceName))

inductive NamesStep (before after : List TunnelConfig) : Prop where
  | kept (same : named after = named before)
  | appended (id : String) (shape : named after = named before ++ [(id,nextInterfaceName before)])
  | erased (idx : Nat) (shape : named after = (named before).eraseIdx idx)

theorem namedInterfaces (tunnels : List TunnelConfig) : tunnels.map TunnelConfig.interfaceName = (named tunnels).map Prod.snd := by
  simp [named]

theorem namedSet {tunnels : List TunnelConfig} {idx : Nat} {cfg : TunnelConfig} (here : tunnels[idx]? = some cfg)
    (other : TunnelConfig) (id : other.id = cfg.id) (interface : other.interfaceName = cfg.interfaceName) :
    named (tunnels.set idx other) = named tunnels := by
  have pair : (named tunnels)[idx]? = some (other.id,other.interfaceName) := by simp [named,here,id,interface]
  obtain ⟨inside,same⟩ := List.getElem?_eq_some_iff.mp pair
  rw [named,map_set,← same]
  exact set_getElem_self _

section
variable {env : Env} {s : State} {id : String}

theorem saveConfig (ph : Phase) : (save env ph s).2.config = s.config := by
  rcases saveSource env ph s with ⟨e,_,ran⟩ | ⟨_,ran⟩ <;> rw [ran]

theorem installNames {cfg : TunnelConfig} {key : String} :
    (installTunnel env cfg key s).2.config = s.config ∨ (installTunnel env cfg key s).2.config = s.config ++ [cfg] := by
  unfold installTunnel
  split
  · rename_i e t raised
    exact .inl ((memoryConfig (deleteKeyFilesMemory _ _)).trans (memoryConfig (keepsRan (filesMemory bringUpFiles) raised)))
  · rename_i t raised
    have same : t.config = s.config := memoryConfig (keepsRan (filesMemory bringUpFiles) raised)
    have saved := @saveConfig env {t with config := t.config ++ [cfg]} .forward
    right
    split
    · rename_i e u ran
      rw [ran] at saved
      rw [rollbackCreateConfig,saved,same]
    · rename_i u ran
      rw [ran] at saved
      rw [saved,same]

theorem createNames (cfg : TunnelConfig) (privateKey : String) : NamesStep s.config (CreateTunnel env cfg privateKey s).2.config := by
  unfold CreateTunnel
  split
  · exact .kept rfl
  · dsimp only
    split
    · exact .kept rfl
    · rename_i key chosen
      rcases stored : saveKeyFiles env (completed env s.config cfg).id key s with ⟨r,t⟩
      have same : t.config = s.config := memoryConfig (keepsRan saveKeyFilesMemory stored)
      cases r with
      | some e =>
        rw [seqFail stored]
        exact .kept (congrArg named same)
      | none =>
        rw [seqOk stored]
        rcases @installNames env t (completed env s.config cfg) key with unchanged | longer
        · exact .kept (congrArg named (unchanged.trans same))
        · refine .appended (completed env s.config cfg).id ?_
          rw [longer,same]
          exact map_append

theorem updateNames (updates : TunnelConfig) : named (UpdateTunnel env id updates s).2.config = named s.config := by
  unfold UpdateTunnel
  split
  · rfl
  · rename_i idx cfg found
    have here := (findTunnelSource found).1
    have merged := namedSet here (applyUpdates cfg updates) rfl rfl
    dsimp only
    split
    · rfl
    · rcases ran : updateKernel env cfg (applyUpdates cfg updates) s with ⟨r,t⟩
      have same : t.config = s.config := memoryConfig (keepsRan (filesMemory updateKernelFiles) ran)
      cases r with
      | some e => rw [seqFail ran,same]
      | none =>
        have saved := @saveConfig env {t with config := t.config.set idx (applyUpdates cfg updates)} .forward
        rw [seqOk ran,commitUpdate]
        split
        · rename_i e u failed
          rw [failed] at saved
          dsimp only
          rw [saved,same,setSelf _ here]
        · rename_i u done
          rw [done] at saved
          rw [saved,same,merged]

theorem flagNames {idx : Nat} {cfg : TunnelConfig} {value : Bool} {kernelStep : Op State} (here : s.config[idx]? = some cfg)
    (forward : Keeps memory kernelStep.Do) (back : Keeps memory kernelStep.Undo) :
    named (run background [kernelStep,persistStep env idx cfg value] s).2.config = named s.config := by
  have quiet : ∀ op ∈ ([] : List (Op State)), ∀ t, (op.Do t).1 = none ∧ memory (op.Do t).2 = memory t := by simp
  rcases runMiddle forward back quiet s with unchanged | ⟨t,same,ended⟩
  · rw [memoryConfig unchanged]
  · have saved : ((persistStep env idx cfg value).Do t).2.config = (setEnabled idx cfg value t).config := saveConfig .forward
    rw [memoryConfig ended,saved,setEnabled,memoryConfig same]
    exact namedSet here _ rfl rfl

theorem enableNames : named (EnableTunnel env id s).2.config = named s.config := by
  unfold EnableTunnel
  split
  · rfl
  · rename_i idx cfg found
    split
    · rfl
    · exact flagNames (findTunnelSource found).1 (filesMemory bringUpTunnelFiles) bringUpUndoMemory

theorem disableNames : named (DisableTunnel env id s).2.config = named s.config := by
  unfold DisableTunnel
  split
  · rfl
  · rename_i idx cfg found
    split
    · rfl
    · exact flagNames (findTunnelSource found).1 (filesMemory tearDownFiles) (filesMemory bringUpTunnelFiles)

theorem deleteNames : NamesStep s.config (DeleteTunnel env id s).2.config := by
  unfold DeleteTunnel
  split
  · exact .kept rfl
  · rename_i idx cfg found
    have quiet : ∀ op ∈ [deleteKeysStep env cfg], ∀ t, (op.Do t).1 = none ∧ memory (op.Do t).2 = memory t := by
      intro op member t
      cases mem_singleton.mp member
      exact ⟨rfl,deleteKeyFilesMemory _ _⟩
    rcases runMiddle removeLinkMemory.1 removeLinkMemory.2 quiet s with unchanged | ⟨t,same,ended⟩
    · exact .kept (congrArg named (memoryConfig unchanged))
    · have saved : ((removeTunnelStep env idx cfg).Do t).2.config = t.config.eraseIdx idx := saveConfig .forward
      refine .erased idx ?_
      rw [memoryConfig ended,saved,memoryConfig same]
      exact (eraseIdx_map _ _ _).symm

end

theorem namesStep (op : Operation) (s : State) : NamesStep s.config (after op s).config := by
  cases op with
  | create env cfg privateKey => exact createNames cfg privateKey
  | update env id updates => exact .kept (updateNames updates)
  | enable env id => exact .kept enableNames
  | disable env id => exact .kept disableNames
  | delete env id => exact deleteNames
  | restoreAll env => exact .kept (congrArg named (memoryConfig (filesMemory restoreAllFiles s)))

theorem stepDistinct {before after : List TunnelConfig} (distinct : (before.map TunnelConfig.interfaceName).Nodup)
    (step : NamesStep before after) : (after.map TunnelConfig.interfaceName).Nodup := by
  have unused := nextInterfaceNameUnused before
  rw [namedInterfaces] at distinct unused ⊢
  cases step with
  | kept same => rwa [same]
  | appended id shape =>
    rw [shape,map_append,nodup_append]
    refine ⟨distinct,nodup_singleton _,?_⟩
    intro name member other fresh clash
    rw [clash,mem_singleton.mp fresh] at member
    exact unused member
  | erased idx shape =>
    rw [shape]
    exact List.Nodup.sublist (List.Sublist.map _ (eraseIdx_sublist _ _)) distinct

theorem namesFreshDistinct : (∀ existing : List TunnelConfig, ∃ k,
      nextNameFrom (existing.map TunnelConfig.interfaceName) (existing.length+1) 0 = some (nextInterfaceName existing) ∧
      nextInterfaceName existing = interfaceNameAt k ∧ interfaceNameAt k ∉ existing.map TunnelConfig.interfaceName ∧
      ∀ j < k, interfaceNameAt j ∈ existing.map TunnelConfig.interfaceName) ∧
    ∀ start s : State, start.config = [] → Reached after (fun _ _ => True) start s →
      (s.config.map TunnelConfig.interfaceName).Nodup ∧ ∀ op, NamesStep s.config (after op s).config := by
  refine ⟨fun existing => ?_,fun start s empty reached => ⟨?_,fun op => namesStep op s⟩⟩
  · have found : nextNameFrom (existing.map TunnelConfig.interfaceName) ((existing.map TunnelConfig.interfaceName).length+1) 0 =
        some (nextInterfaceName existing) := (Option.some_get _).symm
    obtain ⟨k,_,chosen,unused,earlier⟩ := nextNameSource found
    rw [length_map] at found
    simp only [Nat.zero_add] at chosen earlier
    exact ⟨k,found,chosen,chosen ▸ unused,earlier⟩
  · refine reachedInvariant (fun t => (t.config.map TunnelConfig.interfaceName).Nodup) ?_ ?_ reached
    · rw [empty]
      exact nodup_nil
    · exact fun op t distinct _ => stepDistinct distinct (namesStep op t)

theorem namesFreshDistinctCreate :
    (after (.create obliging branchTunnel "secret") vacant).config.map TunnelConfig.interfaceName = ["wg-s2s0"] ∧
    ((after (.create diskFull branchTunnel "secret") (after (.create obliging branchTunnel "secret") vacant)).config.map
      TunnelConfig.interfaceName).Nodup :=
  ⟨by decide +kernel,(namesFreshDistinct.2 vacant _ rfl (.next _ (.next _ .start trivial) trivial)).1⟩

end VpnPack.Wgs2s
