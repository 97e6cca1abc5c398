import VpnPack.Wgs2s.Manager

/-! What the kernel procedures leave alone, whatever they return: no kernel call
touches the tunnel list, tunnels.json or the key files, and the route loops
touch no link. -/
namespace VpnPack.Wgs2s
open Base Net Ops

def files (s : State) : List TunnelConfig × List TunnelConfig × (String → Option String) := (s.config,s.disk,s.keys)

theorem filesConfig {s t : State} (same : files t = files s) : t.config = s.config := congrArg Prod.fst same
theorem filesKeys {s t : State} (same : files t = files s) : t.keys = s.keys := congrArg (fun f => f.2.2) same

def wires (s : State) : List Link × Nat := (s.kernel.links,s.kernel.nextIndex)

theorem wiresFind {s t : State} (same : wires t = wires s) (name : String) : t.kernel.find name = s.kernel.find name := by
  have links : t.kernel.links = s.kernel.links := congrArg Prod.fst same
  rw [Kernel.find,links,Kernel.find]

theorem wiresLookup {s t : State} (same : wires t = wires s) (name : String) : t.kernel.lookup name = s.kernel.lookup name := by
  rw [Kernel.lookup,wiresFind same,Kernel.lookup]

section
variable {env : Env} {ph : Phase} {cfg : TunnelConfig} {metric : Int} {site : Site} {tunnelID key : String} {ifIndex i : Nat}
  {step : Step} {msg : RouteMessage}

section
variable {β : Type} {view : State → β}

theorem onKernelKeeps {change : Kernel → Option Kernel} {refusal : GoError}
    (same : ∀ s k, change s.kernel = some k → view {s with kernel := k} = view s) : Keeps view (onKernel env ph step change refusal) := by
  intro s
  unfold onKernel
  split
  · rfl
  · split
    · rfl
    · rename_i k changed
      exact same s k changed

theorem adjustIndexKeeps {f : Settings → Settings} {refusal : GoError}
    (same : ∀ s which, view {s with kernel := s.kernel.adjust which f} = view s) :
    Keeps view (onKernel env ph step (adjustIndex i f) refusal) := by
  refine onKernelKeeps (fun s k changed => ?_)
  unfold adjustIndex at changed
  split at changed <;> try contradiction
  cases changed
  exact same s _

theorem adjustNamedKeeps {name : String} {f : Settings → Settings} {refusal : GoError}
    (same : ∀ s which, view {s with kernel := s.kernel.adjust which f} = view s) :
    Keeps view (onKernel env ph step (adjustNamed name f) refusal) := by
  refine onKernelKeeps (fun s k changed => ?_)
  unfold adjustNamed at changed
  split at changed <;> try contradiction
  cases changed
  exact same s _

section
variable (settings : ∀ s which f, view {s with kernel := s.kernel.adjust which f} = view s)
include settings

theorem configureDeviceKeeps {name : String} {port : Int} {peer : PeerConfig} : Keeps view (configureDevice env ph name key port peer) := by
  unfold configureDevice
  split
  · exact keepsWrapping (adjustNamedKeeps (fun s which => settings s which _))
  · split
    · exact keepsFail _
    · exact keepsWrapping (adjustNamedKeeps (fun s which => settings s which _))

theorem updatePeerKeeps {name : String} {peer : PeerConfig} : Keeps view (updatePeer env name peer) := by
  unfold updatePeer
  split
  · exact keepsSkip
  · split
    · exact keepsFail _
    · exact keepsWrapping (adjustNamedKeeps (fun s which => settings s which _))

theorem addAddressKeeps {cidr : String} : Keeps view (addAddress env ph i cidr) := by
  unfold addAddress
  split
  · exact keepsFail _
  · exact adjustIndexKeeps (fun s which => settings s which _)

theorem configureLinkKeeps (claims : Keeps view (claimRoutes env ph .link cfg.id i cfg.metric cfg.cidrs)) :
    Keeps view (configureLink env ph cfg key i) := by
  unfold configureLink
  refine keepsSeq ?_ (keepsSeq (configureDeviceKeeps settings) (keepsSeq (keepsWrapping (addAddressKeeps settings))
    (keepsSeq (keepsWrapping (adjustIndexKeeps (fun s which => settings s which _))) ?_)))
  · split
    · exact keepsWrapping (adjustIndexKeeps (fun s which => settings s which _))
    · exact keepsSkip
  · split
    · exact claims
    · exact keepsSkip

end

section
variable (owners : ∀ s refs, view {s with refs := refs} = view s)
include owners

theorem unregisterKeeps (tunnelID : String) (metric : Int) (cidrs : List String) (s : State) :
    view (unregisterRoutes tunnelID metric cidrs s) = view s := by
  induction cidrs generalizing s with
  | nil => rfl
  | cons cidr rest ih =>
    simp only [unregisterRoutes,List.foldl_cons] at ih ⊢
    rw [ih,owners]

theorem claimFromKeeps (adds : ∀ step msg, Keeps view (routesAdd env ph step msg)) {registered cidrs : List String} :
    Keeps view (claimFrom env ph site tunnelID ifIndex metric i registered cidrs) := by
  induction cidrs generalizing i registered with
  | nil => exact keepsSkip
  | cons cidr rest ih =>
    intro s
    simp only [claimFrom]
    split
    · rw [unregisterKeeps owners,owners]
    · split
      · rename_i t ran
        rw [ih,keepsRan (adds _ _) ran,owners]
      · rename_i e t ran
        split
        · rw [unregisterKeeps owners,keepsRan (adds _ _) ran,owners]
        · rw [ih,keepsRan (adds _ _) ran,owners]

theorem releaseKeeps (deletes : ∀ step msg, Keeps view (routesDelete env ph step msg))
    (replaces : ∀ step msg, Keeps view (routesReplace env ph step msg)) (cidrs : List String) (s : State) :
    view (releaseRoutes env ph site tunnelID ifIndex metric cidrs s) = view s := by
  have one (i : Nat) (cidr : String) (s : State) : view (releaseOne env ph site tunnelID ifIndex metric i cidr s) = view s := by
    unfold releaseOne
    dsimp only
    split
    · split
      · exact owners s _
      · rw [deletes,owners]
    · split
      · exact owners s _
      · rw [replaces,owners]
  suffices general : ∀ i s, view (releaseFrom env ph site tunnelID ifIndex metric i cidrs s) = view s from general 0 s
  induction cidrs with
  | nil => exact fun _ _ => rfl
  | cons cidr rest ih =>
    intro i s
    rw [releaseFrom,ih,one]

end

theorem cleanupKeeps (deletes : ∀ step i, Keeps view (deleteLink env ph step i))
    (releases : ∀ i s, view (releaseRoutes env ph .link cfg.id i cfg.metric cfg.cidrs s) = view s) :
    Keeps view (cleanupExistingInterface env ph cfg) := by
  intro s
  unfold cleanupExistingInterface
  split
  · rfl
  · rename_i i found
    split
    · rename_i t ran
      rw [keepsRan (deletes _ i) ran,releases]
    · rename_i e t ran
      have first : view t = view s := (keepsRan (deletes _ i) ran).trans (releases i s)
      split
      · exact first
      · split
        · exact first
        · rw [wrappingState,deletes,first]

end

theorem onKernelFiles {change : Kernel → Option Kernel} {refusal : GoError} :
    Keeps files (onKernel env ph step change refusal) := onKernelKeeps (fun _ _ _ => rfl)

theorem claimFromFiles {registered cidrs : List String} : Keeps files (claimFrom env ph site tunnelID ifIndex metric i registered cidrs) :=
  claimFromKeeps (fun _ _ => rfl) (fun _ _ => onKernelFiles)

theorem releaseFiles (cidrs : List String) (s : State) : files (releaseRoutes env ph site tunnelID ifIndex metric cidrs s) = files s :=
  releaseKeeps (fun _ _ => rfl) (fun _ _ => onKernelFiles) (fun _ _ => onKernelFiles) cidrs s

theorem tearDownFiles : Keeps files (tearDown env ph cfg) := by
  intro s
  unfold tearDown
  split
  · rfl
  · rw [wrappingState,deleteLink,onKernelFiles,releaseFiles]

theorem bringUpFiles : Keeps files (bringUp env ph cfg key) := by
  refine keepsSeq (cleanupKeeps (fun _ _ => onKernelFiles) (fun _ s => releaseFiles cfg.cidrs s))
    (keepsSeq (keepsWrapping onKernelFiles) ?_)
  intro s
  dsimp only
  split
  · rfl
  · split
    · rfl
    · exact keepsOrElse (configureLinkKeeps (fun _ _ _ => rfl) claimFromFiles) onKernelFiles s

theorem bringUpTunnelFiles : Keeps files (bringUpTunnel env ph cfg) := by
  intro s
  unfold bringUpTunnel
  split
  · rfl
  · exact bringUpFiles s

theorem hotUpdateFiles {old : List String} : Keeps files (hotUpdate env cfg old metric) := by
  refine keepsSeq (updatePeerKeeps (fun _ _ _ => rfl)) ?_
  intro s
  dsimp only
  split
  · rfl
  · split
    · rw [wrappingState,claimRoutes,claimFromFiles,releaseFiles]
    · rfl

theorem recreateFiles {teardown : Bool} : Keeps files (recreateTunnel env cfg teardown) := by
  intro s
  unfold recreateTunnel
  split
  · rfl
  · refine keepsSeq ?_ (keepsWrapping bringUpTunnelFiles) s
    split
    · exact keepsWrapping tearDownFiles
    · exact keepsSkip

theorem updateKernelFiles {merged : TunnelConfig} : Keeps files (updateKernel env cfg merged) := by
  intro s
  unfold updateKernel
  split
  · split
    · exact recreateFiles s
    · split
      · rename_i t ran
        exact keepsRan hotUpdateFiles ran
      · rename_i e t ran
        rw [recreateFiles,keepsRan hotUpdateFiles ran]
  · rfl

theorem sweepFiles (env : RestoreEnv) (s : State) : files (removeOrphanInterfaces env s) = files s := by
  unfold removeOrphanInterfaces
  generalize s.kernel.links.filter _ = links
  suffices general : ∀ t : State, files t = files s → files (links.foldl _ t) = files s from general s rfl
  induction links with
  | nil => exact fun _ same => same
  | cons l rest ih =>
    intro t same
    rw [List.foldl_cons]
    refine ih _ ?_
    split <;> exact same

theorem restoreTunnelFiles : Keeps files (restoreTunnel env cfg) := by
  intro s
  unfold restoreTunnel
  split
  · rfl
  · exact bringUpFiles s

theorem restoreEachNext (env : String → Env) (t : TunnelConfig) (rest : List TunnelConfig) (s : State) : (restoreEach env (t :: rest) s).2 =
      (restoreEach env rest (if t.enabled then (restoreTunnel (env t.id) t s).2 else s)).2 := by
  simp only [restoreEach]
  cases t.enabled with
  | false => rfl
  | true =>
    cases restoreTunnel (env t.id) t s with
    | mk r u => cases r <;> rfl

theorem restoreEachFiles (env : String → Env) (tunnels : List TunnelConfig) (s : State) :
    files (restoreEach env tunnels s).2 = files s := by
  induction tunnels generalizing s with
  | nil => rfl
  | cons cfg rest ih =>
    rw [restoreEachNext,ih]
    split
    · exact restoreTunnelFiles s
    · rfl

theorem restoreAllFiles {restore : RestoreEnv} : Keeps files (RestoreAll restore) := by
  intro s
  exact (restoreEachFiles restore.tunnel _ _).trans (sweepFiles restore s)

theorem routesAddWires : Keeps wires (routesAdd env ph step msg) := by
  refine onKernelKeeps (fun s k changed => ?_)
  split at changed <;> try contradiction
  cases changed
  rfl

theorem routesDeleteWires : Keeps wires (routesDelete env ph step msg) := by
  refine onKernelKeeps (fun s k changed => ?_)
  split at changed <;> try contradiction
  cases changed
  rfl

theorem routesReplaceWires : Keeps wires (routesReplace env ph step msg) := by
  refine onKernelKeeps (fun s k changed => ?_)
  cases changed
  rfl

theorem claimFromWires {registered cidrs : List String} : Keeps wires (claimFrom env ph site tunnelID ifIndex metric i registered cidrs) :=
  claimFromKeeps (fun _ _ => rfl) (fun _ _ => routesAddWires)

theorem releaseWires (cidrs : List String) (s : State) : wires (releaseRoutes env ph site tunnelID ifIndex metric cidrs s) = wires s :=
  releaseKeeps (fun _ _ => rfl) (fun _ _ => routesDeleteWires) (fun _ _ => routesReplaceWires) cidrs s

end
end VpnPack.Wgs2s
