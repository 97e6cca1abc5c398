import VpnPack.Wgs2s.Atomicity

/-! What a call of the tunnel manager that returns nil has done to the tunnel list, and the
interface of the manager with this as its contract. -/
namespace VpnPack.Wgs2s
open Base List Ops

theorem findSet {id : String} {tunnels : List TunnelConfig} {idx : Nat} {cfg other : TunnelConfig}
    (found : findTunnel id tunnels = some (idx,cfg)) (same : other.id = cfg.id) :
    findTunnel id (tunnels.set idx other) = some (idx,other) := by
  induction tunnels generalizing idx with
  | nil => simp [findTunnel] at found
  | cons head rest ih =>
    simp only [findTunnel] at found
    split at found
    · rename_i first
      cases found
      rw [set_cons_zero,findTunnel,if_pos (same.trans first)]
    · rename_i later
      simp only [Option.map_eq_some_iff,Prod.mk.injEq,Prod.exists] at found
      obtain ⟨j,u,inside,rfl,rfl⟩ := found
      rw [set_cons_succ,findTunnel,if_neg later,ih inside]
      rfl

section
variable {env : Env} {s t : State} {id : String}

theorem saveListed {ph : Phase} (ran : save env ph s = (none,t)) : t.config = s.config := by
  rcases saveSource env ph s with ⟨e,_,failed⟩ | ⟨_,saved⟩
  · rw [failed] at ran
    simp at ran
  · rw [saved] at ran
    cases ran
    rfl

variable {idx : Nat} {cfg : TunnelConfig}

theorem createListed {privateKey : String} (ran : CreateTunnel env cfg privateKey s = (none,t)) :
    t.config = s.config ++ [completed env s.config cfg] := by
  simp only [CreateTunnel] at ran
  split at ran
  · simp at ran
  split at ran
  · simp at ran
  obtain ⟨u,stored,ran⟩ := seqSource ran
  have sameU : u.config = s.config := memoryConfig (keepsRan saveKeyFilesMemory stored)
  unfold installTunnel at ran
  split at ran
  · simp at ran
  rename_i v raised
  have sameV : v.config = u.config := memoryConfig (keepsRan (filesMemory bringUpFiles) raised)
  split at ran
  · simp at ran
  · rename_i w saved
    cases ran
    rw [saveListed saved,sameV,sameU]

theorem updateListed {updates : TunnelConfig} (ran : UpdateTunnel env id updates s = (none,t)) :
    ∃ idx cfg, findTunnel id s.config = some (idx,cfg) ∧ t.config = s.config.set idx (applyUpdates cfg updates) := by
  simp only [UpdateTunnel] at ran
  split at ran
  · simp at ran
  rename_i idx cfg found
  refine ⟨idx,cfg,found,?_⟩
  split at ran
  · simp at ran
  obtain ⟨u,changed,ran⟩ := seqSource ran
  have same : u.config = s.config := memoryConfig (keepsRan (filesMemory updateKernelFiles) changed)
  unfold commitUpdate at ran
  split at ran
  · simp at ran
  · rename_i v saved
    cases ran
    rw [saveListed saved,same]

theorem flagListed {value : Bool} {kernelStep : Op State} (forward : Keeps memory kernelStep.Do)
    (ran : run background [kernelStep,persistStep env idx cfg value] s = (none,t)) :
    t.config = s.config.set idx {cfg with enabled := value} := by
  obtain ⟨u,first,rest⟩ := seqSource (runDone ran)
  obtain ⟨v,second,last⟩ := seqSource rest
  cases last
  have saved : save env .forward (setEnabled idx cfg value u) = (none,t) := second
  rw [saveListed saved,setEnabled,memoryConfig (keepsRan forward first)]

theorem flagSame {flag : Bool} (found : findTunnel id s.config = some (idx,cfg)) (same : cfg.enabled = flag) :
    s.config = s.config.set idx {cfg with enabled := flag} := by
  subst same
  obtain ⟨inside,here⟩ := List.getElem?_eq_some_iff.mp (findTunnelSource found).1
  rw [← here,set_getElem_self]

theorem enableListed (ran : EnableTunnel env id s = (none,t)) :
    ∃ idx cfg, findTunnel id s.config = some (idx,cfg) ∧ t.config = s.config.set idx {cfg with enabled := true} := by
  simp only [EnableTunnel] at ran
  split at ran
  · simp at ran
  rename_i idx cfg found
  refine ⟨idx,cfg,found,?_⟩
  split at ran
  · rename_i on
    cases ran
    exact flagSame found on
  · exact flagListed (filesMemory bringUpTunnelFiles) ran

theorem disableListed (ran : DisableTunnel env id s = (none,t)) :
    ∃ idx cfg, findTunnel id s.config = some (idx,cfg) ∧ t.config = s.config.set idx {cfg with enabled := false} := by
  simp only [DisableTunnel] at ran
  split at ran
  · simp at ran
  rename_i idx cfg found
  refine ⟨idx,cfg,found,?_⟩
  split at ran
  · rename_i off
    cases ran
    exact flagSame found (by simpa using off)
  · exact flagListed (filesMemory tearDownFiles) ran

theorem deleteListed (ran : DeleteTunnel env id s = (none,t)) :
    ∃ idx cfg, findTunnel id s.config = some (idx,cfg) ∧ t.config = s.config.eraseIdx idx := by
  simp only [DeleteTunnel] at ran
  split at ran
  · simp at ran
  rename_i idx cfg found
  refine ⟨idx,cfg,found,?_⟩
  obtain ⟨u,first,rest⟩ := seqSource (runDone ran)
  obtain ⟨v,second,rest⟩ := seqSource rest
  obtain ⟨w,third,last⟩ := seqSource rest
  cases last
  have saved : save env .forward {u with config := u.config.eraseIdx idx} = (none,v) := second
  have gone : deleteKeyFiles env .forward cfg.id v = t := congrArg Prod.snd third
  rw [← gone,memoryConfig (deleteKeyFilesMemory _ _),saveListed saved,memoryConfig (keepsRan removeLinkMemory.1 first)]

end

/- The calls of interface WgS2sWireGuard that change tunnels. -/
structure WireGuard where
  create : TunnelConfig → String → State → Except GoError TunnelConfig × State
  update : String → TunnelConfig → State → Except GoError TunnelConfig × State
  enable : String → Proc State
  disable : String → Proc State
  delete : String → Proc State
  created : ∀ {cfg key s tunnel t}, create cfg key s = (.ok tunnel,t) →
    (∃ env, tunnel = completed env s.config cfg) ∧ t.config = s.config ++ [tunnel]
  updated : ∀ {id updates s tunnel t}, update id updates s = (.ok tunnel,t) →
    ∃ idx cfg, findTunnel id s.config = some (idx,cfg) ∧ tunnel = applyUpdates cfg updates ∧ t.config = s.config.set idx tunnel
  enabled : ∀ {id s t}, enable id s = (none,t) →
    ∃ idx cfg, findTunnel id s.config = some (idx,cfg) ∧ t.config = s.config.set idx {cfg with enabled := true}
  disabled : ∀ {id s t}, disable id s = (none,t) →
    ∃ idx cfg, findTunnel id s.config = some (idx,cfg) ∧ t.config = s.config.set idx {cfg with enabled := false}
  deleted : ∀ {id s t}, delete id s = (none,t) → ∃ idx cfg, findTunnel id s.config = some (idx,cfg) ∧ t.config = s.config.eraseIdx idx

def returning (tunnel : TunnelConfig) (r : Option GoError × State) : Except GoError TunnelConfig × State :=
  match r with
  | (some e,t) => (.error e,t)
  | (none,t) => (.ok tunnel,t)

theorem returningOk {tunnel cfg : TunnelConfig} {r : Option GoError × State} {t : State} (ran : returning cfg r = (.ok tunnel,t)) :
    tunnel = cfg ∧ r = (none,t) := by
  unfold returning at ran
  split at ran
  · simp at ran
  · cases ran
    exact ⟨rfl,rfl⟩

def manager (env : Env) : WireGuard where
  create cfg key s := returning (completed env s.config cfg) (CreateTunnel env cfg key s)
  update id updates s :=
    returning (((findTunnel id s.config).map (fun p => applyUpdates p.2 updates)).getD updates) (UpdateTunnel env id updates s)
  enable := EnableTunnel env
  disable := DisableTunnel env
  delete := DeleteTunnel env
  created ran := by
    obtain ⟨rfl,done⟩ := returningOk ran
    exact ⟨⟨env,rfl⟩,createListed done⟩
  updated ran := by
    obtain ⟨rfl,done⟩ := returningOk ran
    obtain ⟨idx,cfg,found,list⟩ := updateListed done
    refine ⟨idx,cfg,found,?_⟩
    rw [found]
    exact ⟨rfl,list⟩
  enabled := enableListed
  disabled := disableListed
  deleted := deleteListed

def declining (e : GoError) : WireGuard where
  create _ _ s := (.error e,s)
  update _ _ s := (.error e,s)
  enable _ := fail e
  disable _ := fail e
  delete _ := fail e
  created ran := by simp at ran
  updated ran := by simp at ran
  enabled ran := by simp at ran
  disabled ran := by simp at ran
  deleted ran := by simp at ran

end VpnPack.Wgs2s
