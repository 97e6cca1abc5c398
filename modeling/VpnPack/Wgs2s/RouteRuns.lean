import VpnPack.Wgs2s.Ownership

/-! Route ownership along runs of the tunnel operations in which every kernel and
save call succeeds. Parsers, the resolver, port probes and key files may still
refuse. Random identifiers are taken to be fresh and metrics to fit in 32 bits. -/
namespace VpnPack.Wgs2s
open Base List Net Ops

/- The owners of a key are the enabled tunnels that list it, each with the index of
its current interface, and the kernel has a route for an owned key and no other. -/
structure RouteOwnership (s : State) : Prop where
  owners : ∀ key id, id ∈ (s.refs.ownersOf key).map RouteOwner.tunnelID ↔
    ∃ t ∈ s.config, t.enabled = true ∧ t.id = id ∧ key ∈ t.routeKeys
  index : ∀ key, ∀ o ∈ s.refs.ownersOf key, ∀ t ∈ s.config, t.id = o.tunnelID →
    s.kernel.lookup t.interfaceName = some o.ifIndex
  routed : ∀ key, Fits key.2 → ((∃ o ∈ s.refs.ownersOf key, s.kernel.routes (kernelKey key) = some o.ifIndex) ↔
    s.refs.ownersOf key ≠ [])
  unrouted : ∀ key, Fits key.2 → s.refs.ownersOf key = [] → s.kernel.routes (kernelKey key) = none

structure Consistent (tunnels : List TunnelConfig) : Prop where
  ids : (tunnels.map TunnelConfig.id).Nodup
  names : (tunnels.map TunnelConfig.interfaceName).Nodup
  metrics : ∀ t ∈ tunnels, Fits t.metric

def enabledIn (tunnels : List TunnelConfig) (t : TunnelConfig) : Prop := t ∈ tunnels ∧ t.enabled = true

structure RouteInv (s : State) : Prop where
  consistent : Consistent s.config
  tracks : Tracks (enabledIn s.config) (fun _ => False) s

theorem sameById {tunnels : List TunnelConfig} (c : Consistent tunnels) {t u : TunnelConfig} (left : t ∈ tunnels)
    (right : u ∈ tunnels) (same : t.id = u.id) : t = u := inj_on_of_nodup_map c.ids left right same

theorem apartOfNe {tunnels : List TunnelConfig} (c : Consistent tunnels) {t u : TunnelConfig} (left : t ∈ tunnels)
    (right : u ∈ tunnels) (differs : u ≠ t) : Apart t u :=
  ⟨fun same => differs (inj_on_of_nodup_map c.ids right left same),
    fun same => differs (inj_on_of_nodup_map c.names right left same)⟩

theorem invOwnership {s : State} (inv : RouteInv s) : RouteOwnership s := by
  have owner := inv.tracks.owner
  refine ⟨fun key id => ?_,fun key o member t inside same => ?_,fun key inRange => ?_,fun key inRange none_ => ?_⟩
  · rw [mem_map]
    constructor
    · rintro ⟨o,member,rfl⟩
      obtain ⟨t,isUp,keyed,same,_⟩ := (owner key o).mp member
      exact ⟨t,isUp.1,isUp.2,same.symm,keyed⟩
    · rintro ⟨t,inside,on,rfl,keyed⟩
      obtain ⟨i,found⟩ := Option.ne_none_iff_exists'.mp (inv.tracks.live t ⟨inside,on⟩)
      exact ⟨⟨t.id,i⟩,(owner key _).mpr ⟨t,⟨inside,on⟩,keyed,rfl,found⟩,rfl⟩
  · obtain ⟨u,isUp,_,sameU,index⟩ := (owner key o).mp member
    rw [sameById inv.consistent inside isUp.1 (same.trans sameU)]
    exact index
  · constructor
    · rintro ⟨o,member,_⟩
      exact ne_nil_of_mem member
    · intro owned
      obtain ⟨i,via⟩ := Option.ne_none_iff_exists'.mp (inv.tracks.matched.covered key inRange owned)
      rcases inv.tracks.matched.sound key i inRange via with ⟨o,member,rfl⟩ | ⟨_,impossible,_⟩
      · exact ⟨o,member,via⟩
      · exact impossible.elim
  · cases via : s.kernel.routes (kernelKey key) with
    | none => rfl
    | some i =>
      rcases inv.tracks.matched.sound key i inRange via with ⟨o,member,_⟩ | ⟨_,impossible,_⟩
      · rw [none_] at member
        exact absurd member not_mem_nil
      · exact impossible.elim

theorem tracksIff {up up' pending pending' : TunnelConfig → Prop} {s u : State} (tracks : Tracks up pending s)
    (refs : u.refs = s.refs) (kernel : u.kernel = s.kernel) (ups : ∀ t, up t ↔ up' t) (pendings : ∀ t, pending t → pending' t) :
    Tracks up' pending' u := by
  have same : up' = up := funext fun t => propext (ups t).symm
  subst same
  refine ⟨?_,tracks.valid,fun key o => ?_,?_⟩
  · rw [kernel]
    exact tracks.live
  · rw [refs,kernel]
    exact tracks.owner key o
  · rw [refs,kernel]
    refine matchedMono tracks.matched (fun key i _ _ => ?_)
    rintro ⟨t,isPending,rest⟩
    exact ⟨t,pendings t isPending,rest⟩

section
variable {tunnels : List TunnelConfig} {idx : Nat} {cfg : TunnelConfig}

theorem hereMem (here : tunnels[idx]? = some cfg) : cfg ∈ tunnels := mem_of_getElem? here

theorem splitHere (here : tunnels[idx]? = some cfg) (other : TunnelConfig) :
    ∃ before rest, tunnels = before ++ cfg :: rest ∧ tunnels.set idx other = before ++ other :: rest ∧
      tunnels.eraseIdx idx = before ++ rest := by
  obtain ⟨inside,atIdx⟩ := List.getElem?_eq_some_iff.mp here
  refine ⟨tunnels.take idx,tunnels.drop (idx+1),?_,?_,eraseIdx_eq_take_drop_succ ..⟩
  · rw [← atIdx,← drop_eq_getElem_cons inside,take_append_drop]
  · rw [set_eq_take_append_cons_drop,if_pos inside]

theorem idsAround {before rest : List TunnelConfig} (ids : ((before ++ cfg :: rest).map TunnelConfig.id).Nodup) :
    ∀ t, t ∈ before ++ rest ↔ t ∈ before ++ cfg :: rest ∧ t.id ≠ cfg.id := by
  intro t
  rw [map_append,map_cons,nodup_append,nodup_cons] at ids
  simp only [mem_append,mem_cons]
  constructor
  · rintro (left | right)
    · exact ⟨.inl left,ids.2.2 _ (mem_map_of_mem left) _ mem_cons_self⟩
    · exact ⟨.inr (.inr right),fun clash => ids.2.1.1 (clash ▸ mem_map_of_mem right)⟩
  · rintro ⟨left | rfl | right,differs⟩
    · exact .inl left
    · exact absurd rfl differs
    · exact .inr right

section
variable (c : Consistent tunnels) (here : tunnels[idx]? = some cfg)
include c here

variable {other : TunnelConfig} (t : TunnelConfig)

theorem memErase : t ∈ tunnels.eraseIdx idx ↔ t ∈ tunnels ∧ t.id ≠ cfg.id := by
  obtain ⟨before,rest,shape,_,erased⟩ := splitHere here cfg
  have ids := c.ids
  rw [shape] at ids
  rw [erased,idsAround ids,← shape]

theorem memSet : t ∈ tunnels.set idx other ↔ t = other ∨ (t ∈ tunnels ∧ t.id ≠ cfg.id) := by
  obtain ⟨before,rest,shape,replaced,_⟩ := splitHere here other
  have ids := c.ids
  rw [shape] at ids
  have around := idsAround ids t
  rw [replaced,shape,← around]
  simp only [mem_append,mem_cons]
  constructor
  · rintro (left | same | right)
    · exact .inr (.inl left)
    · exact .inl same
    · exact .inr (.inr right)
  · rintro (same | left | right)
    · exact .inr (.inl same)
    · exact .inl left
    · exact .inr (.inr right)

theorem setConsistent
    (id : other.id = cfg.id) (name : other.interfaceName = cfg.interfaceName) (fits : Fits other.metric) :
    Consistent (tunnels.set idx other) := by
  have member := @memSet tunnels idx cfg c here other
  have ids := c.ids
  have names := c.names
  obtain ⟨before,rest,shape,replaced,_⟩ := splitHere here other
  rw [replaced] at member ⊢
  rw [shape] at ids names
  refine ⟨?_,?_,fun t inside => ?_⟩
  · simpa [id] using ids
  · simpa [name] using names
  · rcases (member t).mp inside with rfl | old
    · exact fits
    · exact c.metrics t old.1

theorem eraseConsistent : Consistent (tunnels.eraseIdx idx) :=
  ⟨List.Nodup.sublist (List.Sublist.map _ (eraseIdx_sublist tunnels idx)) c.ids,
    List.Nodup.sublist (List.Sublist.map _ (eraseIdx_sublist tunnels idx)) c.names,
    fun t member => c.metrics t ((memErase c here t).mp member).1⟩

end

theorem appendConsistent (c : Consistent tunnels) (id : cfg.id ∉ tunnels.map TunnelConfig.id)
    (name : cfg.interfaceName ∉ tunnels.map TunnelConfig.interfaceName) (fits : Fits cfg.metric) : Consistent (tunnels ++ [cfg]) := by
  refine ⟨?_,?_,fun t member => ?_⟩
  · rw [map_append,nodup_append]
    refine ⟨c.ids,by simp,fun a member b new clash => ?_⟩
    have : b = cfg.id := by simpa using new
    exact id (this ▸ clash ▸ member)
  · rw [map_append,nodup_append]
    refine ⟨c.names,by simp,fun a member b new clash => ?_⟩
    have : b = cfg.interfaceName := by simpa using new
    exact name (this ▸ clash ▸ member)
  · rcases mem_append.mp member with old | new
    · exact c.metrics t old
    · have : t = cfg := by simpa using new
      exact this ▸ fits

end

def KeyLoads (env : Env) (step : Step) (id : String) (s : State) : Prop :=
  ∃ key, loadPrivateKey env .forward step id s = .ok key

/- UpdateTunnel on an enabled tunnel past its checks: either it stops before it
touches anything, or the merged record can be configured and, when the link is
recreated, every route of the old record is also one of the merged record. -/
def UpdateSafe (env : Env) (cfg merged : TunnelConfig) (s : State) : Prop :=
  (¬ KeyLoads env .keyPreflight merged.id s ∧ (needsRecreate cfg merged = true ∨ ¬ PeerBuilds env merged)) ∨
  (PeerBuilds env merged ∧ ValidRoutes merged ∧ (needsRecreate cfg merged = true →
    KeyLoads env .keyRead merged.id s ∧ ValidCIDR merged.tunnelAddress ∧ cfg.routeKeys ⊆ merged.routeKeys))

def RoutesSafe : Operation → State → Prop
  | .update env id updates,s => ∀ idx cfg, findTunnel id s.config = some (idx,cfg) → cfg.enabled = true →
      refuseUpdate env cfg (applyUpdates cfg updates) = none → UpdateSafe env cfg (applyUpdates cfg updates) s
  | .restoreAll env,s => ∀ t, enabledIn s.config t →
      KeyLoads (env.tunnel t.id) .keyRead t.id s → Configurable (env.tunnel t.id) t
  | _,_ => True

def Admissible : Operation → State → Prop
  | .create env cfg _,s => KernelWilling env ∧ generateID env.random ∉ s.config.map TunnelConfig.id ∧
      Fits (completed env s.config cfg).metric
  | .update env id updates,s => KernelWilling env ∧
      ∀ idx cfg, findTunnel id s.config = some (idx,cfg) → Fits (applyUpdates cfg updates).metric
  | .enable env _,_ | .disable env _,_ | .delete env _,_ => KernelWilling env
  | .restoreAll env,_ => (∀ name, env.orphan name = none) ∧ ∀ id, KernelWilling (env.tunnel id)

section
variable {env : Env} {s : State}

theorem invSame {u : State} (inv : RouteInv s) (config : u.config = s.config) (refs : u.refs = s.refs)
    (kernel : u.kernel = s.kernel) : RouteInv u := by
  refine ⟨config ▸ inv.consistent,tracksIff inv.tracks refs kernel (fun t => ?_) (fun _ => id)⟩
  rw [config]

theorem saveOk (willing : KernelWilling env) (ph : Phase) (s : State) : save env ph s = (none,{s with disk := s.config}) := by
  simp only [save,willing ph .save rfl]

theorem deleteKeyFilesRest (ph : Phase) (id : String) (s : State) :
    (deleteKeyFiles env ph id s).config = s.config ∧ (deleteKeyFiles env ph id s).refs = s.refs ∧
      (deleteKeyFiles env ph id s).kernel = s.kernel := by
  unfold deleteKeyFiles
  split <;> exact ⟨rfl,rfl,rfl⟩

theorem saveKeyFilesRest {id key : String} {r : Option GoError} {u : State} (ran : saveKeyFiles env id key s = (r,u)) :
    u.config = s.config ∧ u.refs = s.refs ∧ u.kernel = s.kernel := by
  unfold saveKeyFiles at ran
  split at ran
  · split at ran <;> cases ran <;> exact ⟨rfl,rfl,rfl⟩
  · cases ran
    exact ⟨rfl,rfl,rfl⟩

theorem createInv (inv : RouteInv s) (willing : KernelWilling env) {cfg : TunnelConfig} (privateKey : String)
    (fresh : generateID env.random ∉ s.config.map TunnelConfig.id) (fits : Fits (completed env s.config cfg).metric) :
    RouteInv (CreateTunnel env cfg privateKey s).2 := by
  unfold CreateTunnel
  cases refuseCreate env cfg with
  | some e => exact inv
  | none =>
    cases chooseKey env privateKey with
    | error e => exact inv
    | ok key =>
      generalize made : completed env s.config cfg = t at fits
      have named : t.interfaceName ∉ s.config.map TunnelConfig.interfaceName := by
        rw [← made]
        exact nextInterfaceNameUnused s.config
      have identified : t.id ∉ s.config.map TunnelConfig.id := by
        rw [← made]
        exact fresh
      have on : t.enabled = true := by rw [← made]; rfl
      dsimp only
      rcases stored : saveKeyFiles env t.id key s with ⟨r,u⟩
      obtain ⟨config,refs,kernel⟩ := saveKeyFilesRest stored
      have invU : RouteInv u := invSame inv config refs kernel
      cases r with
      | some e =>
        rw [seqFail stored]
        exact invU
      | none =>
        rw [seqOk stored]
        have apart : ∀ x, enabledIn u.config x ∨ False → Apart t x := by
          rintro x (isUp | impossible)
          · rw [config] at isUp
            exact ⟨fun same => identified (same ▸ mem_map_of_mem isUp.1),
              fun same => named (same ▸ mem_map_of_mem isUp.1)⟩
          · exact impossible.elim
        unfold installTunnel
        by_cases ok : Configurable env t
        · obtain ⟨v,ran,tracks⟩ := @bringUpTracks env .forward t _ _ u willing invU.tracks fits
            (fun x known => .inr (apart x known)) ok key
          have same : v.config = s.config := (filesConfig (keepsRan bringUpFiles ran)).trans config
          simp only [ran,saveOk willing]
          refine ⟨?_,tracksIff tracks rfl rfl (fun x => ?_) (fun x => And.left)⟩
          · rw [same]
            exact appendConsistent inv.consistent identified named fits
          · rw [same,config]
            simp only [enabledIn,mem_append,mem_singleton]
            constructor
            · rintro (⟨isUp,_⟩ | rfl)
              · exact ⟨.inl isUp.1,isUp.2⟩
              · exact ⟨.inr rfl,on⟩
            · rintro ⟨old | rfl,isOn⟩
              · exact .inl ⟨⟨old,isOn⟩,(apart x (.inl ⟨config ▸ old,isOn⟩)).1⟩
              · exact .inr rfl
        · obtain ⟨e,v,ran,_,_,tracks⟩ := @bringUpRefused env .forward t (enabledIn u.config) (fun _ => False) u willing ok key
          have same : v.config = u.config := filesConfig (keepsRan bringUpFiles ran)
          have rest := @deleteKeyFilesRest env .undo t.id v
          simp only [ran]
          refine invSame ⟨?_,?_⟩ rest.1 rest.2.1 rest.2.2
          · rw [same]
            exact invU.consistent
          · rw [same]
            exact tracks invU.tracks fits apart

theorem loadFrame {ph : Phase} {step : Step} {id : String} {u : State} (same : u.keys = s.keys) :
    loadPrivateKey env ph step id u = loadPrivateKey env ph step id s := by
  simp only [loadPrivateKey,same]

theorem enabledRelated {tunnels : List TunnelConfig} (c : Consistent tunnels) {cfg merged : TunnelConfig} (member : cfg ∈ tunnels)
    (id : merged.id = cfg.id) (name : merged.interfaceName = cfg.interfaceName) {x : TunnelConfig}
    (isUp : enabledIn tunnels x) : x = cfg ∨ Apart merged x := by
  by_cases same : x = cfg
  · exact .inl same
  · have apart := apartOfNe c member isUp.1 same
    exact .inr ⟨id ▸ apart.1,name ▸ apart.2⟩

section
variable (inv : RouteInv s) (willing : KernelWilling env)
include inv willing

theorem enableInv (id : String) : RouteInv (EnableTunnel env id s).2 := by
  unfold EnableTunnel
  cases found : findTunnel id s.config with
  | none => exact inv
  | some place =>
    obtain ⟨idx,cfg⟩ := place
    have here := (findTunnelSource found).1
    dsimp only
    cases on : cfg.enabled with
    | true => exact inv
    | false =>
      have fits : Fits cfg.metric := inv.consistent.metrics cfg (hereMem here)
      have apart : ∀ x, enabledIn s.config x ∨ False → Apart cfg x := by
        rintro x (isUp | impossible)
        · rcases enabledRelated inv.consistent (hereMem here) rfl rfl isUp with rfl | apart
          · simp [isUp.2] at on
          · exact apart
        · exact impossible.elim
      simp only [Bool.false_eq_true,if_false]
      cases loaded : loadPrivateKey env .forward .keyRead cfg.id s with
      | error e =>
        have first : (bringUpStep env cfg).Do s = (some (.wrap "load key" e),s) := by
          simp only [bringUpStep,bringUpTunnel,loaded]
        rw [runFirstFailed first]
        exact inv
      | ok key =>
        have first : (bringUpStep env cfg).Do s = bringUp env .forward {cfg with enabled := true} key s := by
          simp only [bringUpStep,bringUpTunnel,loaded]
          rfl
        by_cases ok : Configurable env {cfg with enabled := true}
        · obtain ⟨u,ran,tracks⟩ := @bringUpTracks env .forward {cfg with enabled := true} _ _ s willing inv.tracks fits
            (fun x known => .inr (apart x known)) ok key
          have same : u.config = s.config := filesConfig (keepsRan bringUpFiles ran)
          have second : (persistStep env idx cfg true).Do u = _ := saveOk willing .forward (setEnabled idx cfg true u)
          rw [runPairOk (first.trans ran) second]
          refine ⟨?_,tracksIff tracks rfl rfl (fun x => ?_) (fun x => And.left)⟩
          · simp only [setEnabled,same]
            exact setConsistent inv.consistent here rfl rfl fits
          · simp only [setEnabled,same,enabledIn,memSet inv.consistent here]
            constructor
            · rintro (⟨isUp,other⟩ | rfl)
              · exact ⟨.inr ⟨isUp.1,other⟩,isUp.2⟩
              · exact ⟨.inl rfl,rfl⟩
            · rintro ⟨rfl | old,isOn⟩
              · exact .inr rfl
              · exact .inl ⟨⟨old.1,isOn⟩,old.2⟩
        · obtain ⟨e,u,ran,_,_,tracks⟩ := @bringUpRefused env .forward {cfg with enabled := true} (enabledIn s.config)
            (fun _ => False) s willing ok key
          have same : u.config = s.config := filesConfig (keepsRan bringUpFiles ran)
          rw [runFirstFailed (first.trans ran)]
          refine ⟨?_,?_⟩
          · rw [same]
            exact inv.consistent
          · rw [same]
            exact tracks inv.tracks fits apart

theorem loweredTracks {idx : Nat} {cfg : TunnelConfig} (here : s.config[idx]? = some cfg) (on : cfg.enabled = true) :
    Tracks (fun x => enabledIn s.config x ∧ x.id ≠ cfg.id) (fun _ => False) (takenDown env .forward cfg s) := by
  have tracks := @takenDownTracks env .forward cfg _ _ s willing inv.tracks (inv.consistent.metrics cfg (hereMem here)) (by
      rintro x (isUp | impossible)
      · rcases enabledRelated inv.consistent (hereMem here) rfl rfl isUp with rfl | apart
        · exact .inl ⟨rfl,rfl,List.Subset.refl _⟩
        · exact .inr apart
      · exact impossible.elim)
    (.inl (inv.tracks.valid cfg ⟨hereMem here,on⟩))
  exact tracksIff tracks rfl rfl (fun _ => Iff.rfl) (fun _ => And.left)

theorem disableInv (id : String) : RouteInv (DisableTunnel env id s).2 := by
  unfold DisableTunnel
  cases found : findTunnel id s.config with
  | none => exact inv
  | some place =>
    obtain ⟨idx,cfg⟩ := place
    have here := (findTunnelSource found).1
    dsimp only
    cases on : cfg.enabled with
    | false => exact inv
    | true =>
      have tracks := loweredTracks inv willing here on
      have same : (takenDown env .forward cfg s).config = s.config := filesConfig (takenDownFiles s)
      have first : (tearDownStep env cfg).Do s = _ := tearDownRun willing s
      have second : (persistStep env idx cfg false).Do (takenDown env .forward cfg s) = _ :=
        saveOk willing .forward (setEnabled idx cfg false (takenDown env .forward cfg s))
      simp only [Bool.not_true,Bool.false_eq_true,if_false]
      rw [runPairOk first second]
      refine ⟨?_,tracksIff tracks rfl rfl (fun x => ?_) (fun _ impossible => impossible)⟩
      · simp only [setEnabled,same]
        exact setConsistent inv.consistent here rfl rfl (inv.consistent.metrics cfg (hereMem here))
      · simp only [setEnabled,same,enabledIn,memSet inv.consistent here]
        constructor
        · rintro ⟨isUp,other⟩
          exact ⟨.inr ⟨isUp.1,other⟩,isUp.2⟩
        · rintro ⟨rfl | old,isOn⟩
          · simp at isOn
          · exact ⟨⟨old.1,isOn⟩,old.2⟩

theorem deleteInv (id : String) : RouteInv (DeleteTunnel env id s).2 := by
  unfold DeleteTunnel
  cases found : findTunnel id s.config with
  | none => exact inv
  | some place =>
    obtain ⟨idx,cfg⟩ := place
    have here := (findTunnelSource found).1
    obtain ⟨u,first,same,tracks⟩ : ∃ u, (removeLinkStep env cfg).Do s = (none,u) ∧ u.config = s.config ∧
        Tracks (fun x => enabledIn s.config x ∧ x.id ≠ cfg.id) (fun _ => False) u := by
      cases on : cfg.enabled with
      | true =>
        refine ⟨takenDown env .forward cfg s,?_,filesConfig (takenDownFiles s),loweredTracks inv willing here on⟩
        simp only [removeLinkStep,on]
        exact tearDownRun willing s
      | false =>
        refine ⟨s,by simp [removeLinkStep,on],rfl,tracksIff inv.tracks rfl rfl (fun x => ?_) (fun _ impossible => impossible)⟩
        refine ⟨fun isUp => ⟨isUp,fun clash => ?_⟩,And.left⟩
        have := sameById inv.consistent isUp.1 (hereMem here) clash
        rw [this] at isUp
        simp [enabledIn,on] at isUp
    have second : (removeTunnelStep env idx cfg).Do u = _ := saveOk willing .forward {u with config := u.config.eraseIdx idx}
    have rest := @deleteKeyFilesRest env .forward cfg.id {u with config := u.config.eraseIdx idx, disk := u.config.eraseIdx idx}
    have erased : RouteInv {u with config := u.config.eraseIdx idx, disk := u.config.eraseIdx idx} := by
      refine ⟨?_,tracksIff tracks rfl rfl (fun x => ?_) (fun _ impossible => impossible)⟩
      · rw [same]
        exact eraseConsistent inv.consistent here
      · simp only [same,enabledIn,memErase inv.consistent here]
        constructor
        · rintro ⟨isUp,other⟩
          exact ⟨⟨isUp.1,other⟩,isUp.2⟩
        · rintro ⟨old,isOn⟩
          exact ⟨⟨old.1,isOn⟩,old.2⟩
    dsimp only
    rw [runTripleOk first second rfl]
    exact invSame erased rest.1 rest.2.1 rest.2.2

end

theorem updatePeerRun (willing : KernelWilling env) {t : TunnelConfig} {name : String} {u : State}
    (present : (u.kernel.find name).isSome = true) : (PeerBuilds env t → ∃ v, updatePeer env name t.peer u = (none,v)) ∧
    (¬ PeerBuilds env t → ∃ e, updatePeer env name t.peer u = (some e,u)) := by
  unfold updatePeer
  split
  · rename_i unset
    exact ⟨fun _ => ⟨u,rfl⟩,fun refused => absurd (.inl unset) refused⟩
  · rename_i keyed
    cases built : buildPeerConfig env t.peer with
    | error e => exact ⟨fun builds => absurd builds (peerRefused keyed built),fun _ => ⟨e,rfl⟩⟩
    | ok pc =>
      refine ⟨fun _ => ?_,fun refused => absurd (.inr ⟨pc,built⟩) refused⟩
      obtain ⟨v,ran⟩ := @adjustNamedOk env .forward willing .updatePeer rfl name
        (fun st => {st with peers := st.peers.map (updateOnly pc)}) enodev u present
      exact ⟨v,wrappingOk.mpr ran⟩

section
variable {idx : Nat} {cfg merged : TunnelConfig}

theorem mergedRelated (inv : RouteInv s) (here : s.config[idx]? = some cfg) (id : merged.id = cfg.id)
    (name : merged.interfaceName = cfg.interfaceName) (keys : cfg.routeKeys ⊆ merged.routeKeys) :
    ∀ x, enabledIn s.config x ∨ False → Covers merged x ∨ Apart merged x := by
  rintro x (isUp | impossible)
  · rcases enabledRelated inv.consistent (hereMem here) id name isUp with rfl | apart
    · exact .inl ⟨id.symm,name.symm,keys⟩
    · exact .inr apart
  · exact impossible.elim

theorem recreateTracks (inv : RouteInv s) (willing : KernelWilling env) (here : s.config[idx]? = some cfg)
    (id : merged.id = cfg.id) (name : merged.interfaceName = cfg.interfaceName) (fits : Fits merged.metric)
    (keys : cfg.routeKeys ⊆ merged.routeKeys) (preflight : KeyLoads env .keyPreflight merged.id s)
    (load : KeyLoads env .keyRead merged.id s) (ok : Configurable env merged) : ∃ u, recreateTunnel env merged true s = (none,u) ∧
      Tracks (fun x => (enabledIn s.config x ∧ x.id ≠ cfg.id) ∨ x = merged) (fun _ => False) u := by
  have related := mergedRelated inv here id name keys
  have down := @takenDownTracks env .forward merged _ _ s willing inv.tracks fits related (.inl ok.routes)
  obtain ⟨readable,loads⟩ := preflight
  obtain ⟨key,loaded⟩ := load
  have reload : loadPrivateKey env .forward .keyRead merged.id (takenDown env .forward merged s) = .ok key := by
    rw [loadFrame (filesKeys (takenDownFiles s)),loaded]
  obtain ⟨u,ran,tracks⟩ := @bringUpTracks env .forward merged _ _ _ willing down fits (by
      rintro x (⟨isUp,other⟩ | ⟨impossible,_⟩)
      · exact .inr ((related x (.inl isUp)).resolve_left (fun covered => other covered.1))
      · exact impossible.elim) ok key
  refine ⟨u,?_,tracksIff tracks rfl rfl (fun x => ?_) (fun x pending => pending.1.1)⟩
  · have raised : bringUpTunnel env .forward merged (takenDown env .forward merged s) = (none,u) := by
      simp only [bringUpTunnel,reload,ran]
    simp only [recreateTunnel,loads,if_true]
    rw [seqOk (wrappingOk.mpr (tearDownRun willing s))]
    exact wrappingOk.mpr raised
  · rw [id]
    exact ⟨Or.imp_left fun isUp => isUp.1,Or.imp_left fun isUp => ⟨isUp,isUp.2⟩⟩

theorem hotPatched (inv : RouteInv s) (willing : KernelWilling env) (isUp : enabledIn s.config cfg)
    (name : merged.interfaceName = cfg.interfaceName) (peer : PeerBuilds env merged) :
    ∃ i v, updatePeer env merged.interfaceName merged.peer s = (none,v) ∧ frame v = frame s ∧ v.kernel.lookup cfg.interfaceName = some i := by
  obtain ⟨i,found⟩ := Option.ne_none_iff_exists'.mp (inv.tracks.live cfg isUp)
  obtain ⟨v,ran⟩ := (@updatePeerRun env willing merged merged.interfaceName s (name ▸ findPresent found)).1 peer
  have same : frame v = frame s := keepsRan updatePeerFrame ran
  exact ⟨i,v,ran,same,by rw [frameLookup same,found]⟩

theorem hotUpdateTracks (inv : RouteInv s) (willing : KernelWilling env) (here : s.config[idx]? = some cfg)
    (on : cfg.enabled = true) (id : merged.id = cfg.id) (name : merged.interfaceName = cfg.interfaceName)
    (fits : Fits merged.metric) (peer : PeerBuilds env merged) (routes : ValidRoutes merged) :
    ∃ u, hotUpdate env merged cfg.cidrs cfg.metric s = (none,u) ∧
      Tracks (fun x => (enabledIn s.config x ∧ x.id ≠ cfg.id) ∨ x = merged) (fun _ => False) u := by
  have isUp : enabledIn s.config cfg := ⟨hereMem here,on⟩
  obtain ⟨i,v,ran,frameV,foundV⟩ := hotPatched inv willing isUp name peer
  have tracksV : Tracks (enabledIn s.config) (fun _ => False) v := by
    refine tracksSame inv.tracks (frameLookup frameV) (fun key o => ?_) (fun key _ => ?_)
    · rw [frameRefs frameV]
    · rw [frameRoutes frameV]
  rw [hotUpdate,seqOk ran]
  simp only [name,foundV]
  split
  · rename_i changed
    have released := @releasedTracks env .forward cfg _ _ v i tracksV (mergedRelated inv here rfl rfl (List.Subset.refl _)) foundV willing
      (inv.consistent.metrics cfg (hereMem here)) (.inl (inv.tracks.valid cfg isUp)) .hot
    have index : (releaseRoutes env .forward .hot cfg.id i cfg.metric cfg.cidrs v).kernel.lookup merged.interfaceName = some i := by
      rw [name]
      exact releasedIndex foundV
    refine ⟨_,wrappingOk.mpr ?_,claimedTracks released fits routes (fun x isUp => id ▸ isUp.2) index⟩
    rw [id]
    exact claimFromOk willing routes _
  · rename_i unchanged
    simp only [not_or,ne_eq,not_not] at unchanged
    refine ⟨v,rfl,?_⟩
    have keys : merged.routeKeys = cfg.routeKeys := by
      rw [TunnelConfig.routeKeys,TunnelConfig.routeKeys,unchanged.1,unchanged.2]
    refine ⟨?_,?_,fun key o => ?_,tracksV.matched⟩
    · rintro x (old | rfl)
      · exact tracksV.live x old.1
      · rw [name,foundV]
        simp
    · rintro x (old | rfl)
      · exact tracksV.valid x old.1
      · exact routes
    · rw [tracksV.owner]
      constructor
      · rintro ⟨x,known,keyed,same,index⟩
        by_cases mine : x = cfg
        · subst mine
          exact ⟨merged,.inr rfl,keys ▸ keyed,same.trans id.symm,name ▸ index⟩
        · exact ⟨x,.inl ⟨known,(apartOfNe inv.consistent (hereMem here) known.1 mine).1⟩,keyed,same,index⟩
      · rintro ⟨x,old | rfl,keyed,same,index⟩
        · exact ⟨x,old.1,keyed,same,index⟩
        · exact ⟨cfg,isUp,keys ▸ keyed,same.trans id,name ▸ index⟩

theorem commitInv {u : State} (inv : RouteInv s) (willing : KernelWilling env) (here : s.config[idx]? = some cfg)
    (id : merged.id = cfg.id) (name : merged.interfaceName = cfg.interfaceName) (fits : Fits merged.metric) (same : u.config = s.config)
    (tracks : Tracks (fun x => (enabledIn s.config x ∧ x.id ≠ cfg.id) ∨ (x = merged ∧ x.enabled = true)) (fun _ => False) u) :
    RouteInv (commitUpdate env idx cfg merged u).2 := by
  simp only [commitUpdate,saveOk willing,same]
  refine ⟨setConsistent inv.consistent here id name fits,tracksIff tracks rfl rfl (fun x => ?_) (fun _ impossible => impossible)⟩
  simp only [enabledIn,memSet inv.consistent here]
  constructor
  · rintro (⟨isUp,other⟩ | ⟨rfl,isOn⟩)
    · exact ⟨.inr ⟨isUp.1,other⟩,isUp.2⟩
    · exact ⟨.inl rfl,isOn⟩
  · rintro ⟨rfl | old,isOn⟩
    · exact .inr ⟨rfl,isOn⟩
    · exact .inl ⟨⟨old.1,isOn⟩,old.2⟩

theorem offTracks (inv : RouteInv s) (here : s.config[idx]? = some cfg) (on : merged.enabled = cfg.enabled) (off : cfg.enabled = false) :
    Tracks (fun x => (enabledIn s.config x ∧ x.id ≠ cfg.id) ∨ (x = merged ∧ x.enabled = true)) (fun _ => False) s := by
  refine tracksIff inv.tracks rfl rfl (fun x => ?_) (fun _ impossible => impossible)
  constructor
  · intro isUp
    refine .inl ⟨isUp,fun clash => ?_⟩
    have := sameById inv.consistent isUp.1 (hereMem here) clash
    rw [this] at isUp
    simp [enabledIn,off] at isUp
  · rintro (isUp | ⟨rfl,isOn⟩)
    · exact isUp.1
    · rw [on,off] at isOn
      contradiction

theorem onTracks {u : State} (on : merged.enabled = true)
    (tracks : Tracks (fun x => (enabledIn s.config x ∧ x.id ≠ cfg.id) ∨ x = merged) (fun _ => False) u) :
    Tracks (fun x => (enabledIn s.config x ∧ x.id ≠ cfg.id) ∨ (x = merged ∧ x.enabled = true)) (fun _ => False) u := by
  refine tracksIff tracks rfl rfl (fun x => ?_) (fun _ impossible => impossible)
  refine ⟨Or.imp_right fun same => ⟨same,?_⟩,Or.imp_right And.left⟩
  rw [same,on]

theorem hotRefused (inv : RouteInv s) (willing : KernelWilling env) (here : s.config[idx]? = some cfg) (on : cfg.enabled = true)
    (name : merged.interfaceName = cfg.interfaceName) (bad : ¬ PeerBuilds env merged) :
    ∃ e, hotUpdate env merged cfg.cidrs cfg.metric s = (some e,s) := by
  obtain ⟨i,foundLink⟩ := Option.ne_none_iff_exists'.mp (inv.tracks.live cfg ⟨hereMem here,on⟩)
  obtain ⟨e,refusedPeer⟩ := (@updatePeerRun env willing merged merged.interfaceName s (name ▸ findPresent foundLink)).2 bad
  exact ⟨e,by rw [hotUpdate,seqFail refusedPeer]⟩

theorem updateKernelTracks (inv : RouteInv s) (willing : KernelWilling env) (here : s.config[idx]? = some cfg)
    (id : merged.id = cfg.id) (name : merged.interfaceName = cfg.interfaceName) (same : merged.enabled = cfg.enabled)
    (fits : Fits merged.metric) (safe : cfg.enabled = true → UpdateSafe env cfg merged s) :
    (∃ e, updateKernel env cfg merged s = (some e,s)) ∨ ∃ u, updateKernel env cfg merged s = (none,u) ∧
      Tracks (fun x => (enabledIn s.config x ∧ x.id ≠ cfg.id) ∨ (x = merged ∧ x.enabled = true)) (fun _ => False) u := by
  cases on : cfg.enabled with
  | false => exact .inr ⟨s,by simp [updateKernel,on],offTracks inv here same on⟩
  | true =>
    have isOn : merged.enabled = true := same.trans on
    have hot (again : needsRecreate cfg merged = false) (peer : PeerBuilds env merged) (routes : ValidRoutes merged) :
        ∃ u, updateKernel env cfg merged s = (none,u) ∧
          Tracks (fun x => (enabledIn s.config x ∧ x.id ≠ cfg.id) ∨ (x = merged ∧ x.enabled = true)) (fun _ => False) u := by
      obtain ⟨u,ran,tracks⟩ := hotUpdateTracks inv willing here on id name fits peer routes
      exact ⟨u,by simp [updateKernel,on,again,ran],onTracks isOn tracks⟩
    cases preflight : loadPrivateKey env .forward .keyPreflight merged.id s with
    | error e =>
      have recreate : recreateTunnel env merged true s = (some (.wrap "preflight" e),s) := by
        simp only [recreateTunnel,preflight]
      cases again : needsRecreate cfg merged with
      | true => exact .inl ⟨.wrap "preflight" e,by simp only [updateKernel,on,again,if_true,recreate]⟩
      | false =>
        by_cases peer : PeerBuilds env merged
        · rcases safe on with ⟨_,recreates | refusedPeer⟩ | ok
          · rw [again] at recreates
            contradiction
          · exact absurd peer refusedPeer
          · exact .inr (hot again peer ok.2.1)
        · obtain ⟨e',failed⟩ := hotRefused inv willing here on name peer
          exact .inl ⟨.wrap "preflight" e,by simp [updateKernel,on,again,failed,recreate]⟩
    | ok readable =>
      rcases safe on with ⟨unreadable,_⟩ | ⟨peer,routes,recreates⟩
      · exact absurd ⟨readable,preflight⟩ unreadable
      · cases again : needsRecreate cfg merged with
        | true =>
          obtain ⟨load,address,keys⟩ := recreates again
          obtain ⟨u,ran,tracks⟩ := recreateTracks inv willing here id name fits keys ⟨readable,preflight⟩ load ⟨peer,address,routes⟩
          exact .inr ⟨u,by simp only [updateKernel,on,again,if_true,ran],onTracks isOn tracks⟩
        | false => exact .inr (hot again peer routes)

end

theorem updateInv (inv : RouteInv s) (willing : KernelWilling env) {id : String} {updates : TunnelConfig}
    (fits : ∀ idx cfg, findTunnel id s.config = some (idx,cfg) → Fits (applyUpdates cfg updates).metric)
    (safe : RoutesSafe (.update env id updates) s) : RouteInv (UpdateTunnel env id updates s).2 := by
  unfold UpdateTunnel
  cases found : findTunnel id s.config with
  | none => exact inv
  | some place =>
    obtain ⟨idx,cfg⟩ := place
    have here := (findTunnelSource found).1
    dsimp only
    cases refused : refuseUpdate env cfg (applyUpdates cfg updates) with
    | some e => exact inv
    | none =>
      dsimp only
      rcases @updateKernelTracks env s idx cfg (applyUpdates cfg updates) inv willing here rfl rfl rfl (fits idx cfg found)
        (fun on => safe idx cfg found on refused) with ⟨e,failed⟩ | ⟨u,ran,tracks⟩
      · rw [seqFail failed]
        exact inv
      · rw [seqOk ran]
        exact commitInv inv willing here rfl rfl (fits idx cfg found) (filesConfig (keepsRan updateKernelFiles ran)) tracks

end
end VpnPack.Wgs2s
