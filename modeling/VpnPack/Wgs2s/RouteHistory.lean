import VpnPack.Wgs2s.RouteRuns

/-! RestoreAll, whole runs, and the exact point where route ownership is lost: an
update that recreates the link while it drops a route, or a link that was taken
down and cannot be brought up again. -/
namespace VpnPack.Wgs2s
open Base List Net Ops

section
variable {up pending : TunnelConfig → Prop} {s : State}

theorem deletedForeign {i : Nat} (tracks : Tracks up pending s)
    (foreign : ∀ x, up x ∨ pending x → s.kernel.lookup x.interfaceName ≠ some i) :
    Tracks up pending {s with kernel := s.kernel.deleteLink i} := by
  have lookup (x : TunnelConfig) (known : up x ∨ pending x) :
      (s.kernel.deleteLink i).lookup x.interfaceName = s.kernel.lookup x.interfaceName := by
    rw [Kernel.lookup,Kernel.findDeleteOther (foreign x known),← Kernel.lookup]
  have routes (key : RouteKey) (inRange : Fits key.2) :
      (s.kernel.deleteLink i).routes (kernelKey key) = s.kernel.routes (kernelKey key) := by
    refine if_neg (fun via => ?_)
    rcases tracks.matched.sound key i inRange via with ⟨o,member,rfl⟩ | ⟨x,isPending,_,index⟩
    · obtain ⟨x,isUp,_,_,index⟩ := (tracks.owner key o).mp member
      exact foreign x (.inl isUp) index
    · exact foreign x (.inr isPending) index
  refine ⟨?_,tracks.valid,fun key o => ?_,?_,?_⟩
  · intro x isUp
    rw [lookup x (.inl isUp)]
    exact tracks.live x isUp
  · rw [tracks.owner]
    constructor
    · rintro ⟨x,isUp,keyed,same,index⟩
      exact ⟨x,isUp,keyed,same,by rw [lookup x (.inl isUp),index]⟩
    · rintro ⟨x,isUp,keyed,same,index⟩
      exact ⟨x,isUp,keyed,same,by rw [← lookup x (.inl isUp),index]⟩
  · intro key inRange owned
    rw [routes key inRange]
    exact tracks.matched.covered key inRange owned
  · intro key j inRange via
    rw [routes key inRange] at via
    refine (tracks.matched.sound key j inRange via).imp_right ?_
    rintro ⟨x,isPending,keyed,index⟩
    exact ⟨x,isPending,keyed,by rw [lookup x (.inr isPending),index]⟩

theorem sweepTracks (env : RestoreEnv) (tracks : Tracks up pending s)
    (known : ∀ x, up x ∨ pending x → enabledIn s.config x) : Tracks up pending (removeOrphanInterfaces env s) := by
  have orphan {l : Link} (member : l ∈ s.kernel.links) (unknown : l.name ∉ s.config.map TunnelConfig.interfaceName)
      (x : TunnelConfig) (isKnown : up x ∨ pending x) : s.kernel.lookup x.interfaceName ≠ some l.index := by
    intro found
    obtain ⟨l',present,same⟩ := Kernel.lookupSource.mp found
    obtain ⟨inside,named⟩ := Kernel.findSource.mp present
    rw [Kernel.linkInjective s.kernel.indexes inside member same] at named
    exact unknown (named ▸ mem_map_of_mem (known x isKnown).1)
  suffices general : ∀ (links : List Link) (t : State), (∀ l ∈ links, l ∈ s.kernel.links) → Tracks up pending t →
      (∀ x, up x ∨ pending x → t.kernel.lookup x.interfaceName = s.kernel.lookup x.interfaceName) →
      Tracks up pending (links.foldl (fun t l =>
        if l.name ∈ s.config.map TunnelConfig.interfaceName ∨ (env.orphan l.name).isSome then t
        else {t with kernel := t.kernel.deleteLink l.index}) t) from
    general _ s (fun l member => mem_of_mem_filter member) tracks (fun _ _ => rfl)
  intro links
  induction links with
  | nil => exact fun _ _ tracked _ => tracked
  | cons l rest ih =>
    intro t members tracked same
    rw [foldl_cons]
    have later : ∀ l ∈ rest, l ∈ s.kernel.links := fun x member => members x (mem_cons_of_mem l member)
    split
    · exact ih t later tracked same
    · rename_i condition
      have unknown : l.name ∉ s.config.map TunnelConfig.interfaceName := fun member => condition (.inl member)
      have foreign (x : TunnelConfig) (isKnown : up x ∨ pending x) : t.kernel.lookup x.interfaceName ≠ some l.index := by
        rw [same x isKnown]
        exact orphan (members l mem_cons_self) unknown x isKnown
      refine ih _ later (deletedForeign tracked foreign) (fun x isKnown => ?_)
      dsimp only
      rw [Kernel.lookup,Kernel.findDeleteOther (foreign x isKnown),← Kernel.lookup,same x isKnown]

theorem restoreOneTracks {env : Env} (willing : KernelWilling env) {tunnels : List TunnelConfig} {t : TunnelConfig}
    (c : Consistent tunnels) (tracks : Tracks up pending s) (known : ∀ x, up x ∨ pending x → enabledIn tunnels x) (member : t ∈ tunnels)
    (configurable : KeyLoads env .keyRead t.id s → Configurable env t) (held : KeyLoads env .keyRead t.id s ∨ (up t ∧ ¬ pending t)) :
    Tracks (fun x => up x ∨ x = t) (fun x => pending x ∧ x ≠ t) (restoreTunnel env t s).2 := by
  have related : ∀ x, up x ∨ pending x → Covers t x ∨ Apart t x := by
    intro x isKnown
    by_cases same : x = t
    · exact .inl ⟨congrArg _ same,congrArg _ same,same ▸ List.Subset.refl _⟩
    · exact .inr (apartOfNe c member (known x isKnown).1 same)
  cases loaded : loadPrivateKey env .forward .keyRead t.id s with
  | error e =>
    have ran : restoreTunnel env t s = (some e,s) := by simp only [restoreTunnel,loaded]
    rw [ran]
    have wasUp := held.resolve_left (by rintro ⟨key,ok⟩; rw [loaded] at ok; contradiction)
    refine tracksIff tracks rfl rfl (fun x => ?_) (fun x isPending => ⟨isPending,fun same => ?_⟩)
    · exact ⟨.inl,fun isUp => isUp.elim (fun isUp => isUp) (fun same => same ▸ wasUp.1)⟩
    · exact wasUp.2 (same ▸ isPending)
  | ok key =>
    obtain ⟨u,ran,raised⟩ := @bringUpTracks env .forward t _ _ s willing tracks (c.metrics t member) related (configurable ⟨key,loaded⟩) key
    have restored : restoreTunnel env t s = (none,u) := by simp only [restoreTunnel,loaded,ran]
    rw [restored]
    refine tracksIff raised rfl rfl (fun x => ?_) (fun x isPending => ⟨isPending.1,fun same => isPending.2 (congrArg _ same)⟩)
    constructor
    · rintro (isUp | same)
      · exact .inl isUp.1
      · exact .inr same
    · rintro (isUp | same)
      · by_cases mine : x = t
        · exact .inr mine
        · exact .inl ⟨isUp,(apartOfNe c member (known x (.inl isUp)).1 mine).1⟩
      · exact .inr same

theorem tracksSkipped {t : TunnelConfig} {rest : List TunnelConfig} (off : t.enabled = false) (ready : ∀ x, pending x → x.enabled = true)
    (passed : Tracks (fun x => up x ∨ (x ∈ rest ∧ x.enabled = true)) (fun x => pending x ∧ x ∉ rest) s) :
    Tracks (fun x => up x ∨ (x ∈ t :: rest ∧ x.enabled = true)) (fun x => pending x ∧ x ∉ t :: rest) s := by
  have other (x : TunnelConfig) (on : x.enabled = true) : x ≠ t := by
    rintro rfl
    rw [off] at on
    contradiction
  refine tracksIff passed rfl rfl (fun x => ?_) (fun x isPending => ⟨isPending.1,fun member => ?_⟩)
  · refine ⟨Or.imp_right fun inRest => ⟨mem_cons_of_mem t inRest.1,inRest.2⟩,Or.imp_right fun inAll => ⟨?_,inAll.2⟩⟩
    exact (mem_cons.mp inAll.1).resolve_left (other x inAll.2)
  · exact isPending.2 ((mem_cons.mp member).resolve_left (other x (ready x isPending.1)))

theorem tracksRaised {t : TunnelConfig} {rest : List TunnelConfig} (on : t.enabled = true)
    (passed : Tracks (fun x => (up x ∨ x = t) ∨ (x ∈ rest ∧ x.enabled = true)) (fun x => (pending x ∧ x ≠ t) ∧ x ∉ rest) s) :
    Tracks (fun x => up x ∨ (x ∈ t :: rest ∧ x.enabled = true)) (fun x => pending x ∧ x ∉ t :: rest) s := by
  refine tracksIff passed rfl rfl (fun x => ?_) (fun x isPending => ⟨isPending.1.1,?_⟩)
  · simp only [mem_cons]
    constructor
    · rintro ((isUp | rfl) | ⟨member,isOn⟩)
      · exact .inl isUp
      · exact .inr ⟨.inl rfl,on⟩
      · exact .inr ⟨.inr member,isOn⟩
    · rintro (isUp | ⟨rfl | member,isOn⟩)
      · exact .inl (.inl isUp)
      · exact .inl (.inr rfl)
      · exact .inr ⟨member,isOn⟩
  · intro member
    rcases mem_cons.mp member with same | inRest
    · exact isPending.1.2 same
    · exact isPending.2 inRest

theorem restoreEachTracks {env : String → Env} (willing : ∀ id, KernelWilling (env id)) {tunnels rest : List TunnelConfig}
    (c : Consistent tunnels) (tracks : Tracks up pending s) (known : ∀ x, up x ∨ pending x → enabledIn tunnels x)
    (members : ∀ x ∈ rest, x ∈ tunnels) (safe : ∀ x ∈ rest, x.enabled = true →
      (KeyLoads (env x.id) .keyRead x.id s → Configurable (env x.id) x) ∧ (KeyLoads (env x.id) .keyRead x.id s ∨ (up x ∧ ¬ pending x))) :
    Tracks (fun x => up x ∨ (x ∈ rest ∧ x.enabled = true)) (fun x => pending x ∧ x ∉ rest) (restoreEach env rest s).2 := by
  induction rest generalizing up pending s with
  | nil => exact tracksIff tracks rfl rfl (fun x => by simp) (fun x isPending => ⟨isPending,not_mem_nil⟩)
  | cons t rest ih =>
    have laterMembers : ∀ x ∈ rest, x ∈ tunnels := fun x member => members x (mem_cons_of_mem t member)
    have memberT : t ∈ tunnels := members t mem_cons_self
    rw [restoreEachNext]
    cases on : t.enabled with
    | false =>
      refine tracksSkipped on (fun x isPending => (known x (.inr isPending)).2) ?_
      exact ih tracks known laterMembers (fun x member => safe x (mem_cons_of_mem t member))
    | true =>
      have safeT := safe t mem_cons_self on
      rw [if_pos rfl]
      refine tracksRaised on (ih (restoreOneTracks (willing t.id) c tracks known memberT safeT.1 safeT.2) ?_ laterMembers ?_)
      · rintro x ((isUp | rfl) | isPending)
        · exact known x (.inl isUp)
        · exact ⟨memberT,on⟩
        · exact known x (.inr isPending.1)
      · intro x member isOn
        have reload : KeyLoads (env x.id) .keyRead x.id (restoreTunnel (env t.id) t s).2 ↔ KeyLoads (env x.id) .keyRead x.id s := by
          simp only [KeyLoads,loadFrame (filesKeys (restoreTunnelFiles s))]
        obtain ⟨configurable,held⟩ := safe x (mem_cons_of_mem t member) isOn
        rw [reload]
        exact ⟨configurable,held.imp_right fun wasUp => ⟨.inl wasUp.1,fun isPending => wasUp.2 isPending.1⟩⟩

theorem restoreInv {env : RestoreEnv} (willing : ∀ id, KernelWilling (env.tunnel id)) (c : Consistent s.config)
    (tracks : Tracks up pending s) (known : ∀ x, up x ∨ pending x → enabledIn s.config x)
    (safe : ∀ x, enabledIn s.config x → (KeyLoads (env.tunnel x.id) .keyRead x.id s → Configurable (env.tunnel x.id) x) ∧
      (KeyLoads (env.tunnel x.id) .keyRead x.id s ∨ (up x ∧ ¬ pending x))) : RouteInv (RestoreAll env s).2 := by
  have swept := sweepFiles env s
  have config := filesConfig swept
  have final := filesConfig (@restoreAllFiles env s)
  have restored := @restoreEachTracks up pending _ env.tunnel willing s.config s.config c (sweepTracks env tracks known) known
    (fun _ member => member)
    (by
      intro x member isOn
      have := safe x ⟨member,isOn⟩
      simp only [KeyLoads,loadFrame (filesKeys swept)]
      exact this)
  refine ⟨?_,?_⟩
  · rw [final]
    exact c
  · rw [final]
    unfold RestoreAll
    dsimp only
    rw [config]
    refine tracksIff restored rfl rfl (fun x => ?_) (fun x isPending => ?_)
    · exact ⟨fun isUp => isUp.elim (fun old => known x (.inl old)) (fun inside => inside),.inr⟩
    · exact isPending.2 (known x (.inr isPending.1)).1

end

/- The manager has just started: no owners yet, and whatever routes are in the table
go through the link of an enabled tunnel that lists them. -/
structure Boot (s : State) : Prop where
  consistent : Consistent s.config
  unowned : ∀ key, s.refs.ownersOf key = []
  ours : ∀ key i, Fits key.2 → s.kernel.routes (kernelKey key) = some i →
    ∃ t, enabledIn s.config t ∧ key ∈ t.routeKeys ∧ s.kernel.lookup t.interfaceName = some i

variable {s : State} {t : TunnelConfig} {name : String}

theorem bootTracks (boot : Boot s) : Tracks (fun _ => False) (enabledIn s.config) s := by
  refine ⟨fun _ impossible => impossible.elim,fun _ impossible => impossible.elim,fun key o => ?_,?_,?_⟩
  · simp [boot.unowned key]
  · intro key _ owned
    exact absurd (boot.unowned key) owned
  · intro key i inRange via
    exact .inr (boot.ours key i inRange via)

/- First step of a run: RestoreAll with every enabled tunnel coming up, or nothing to restore. -/
inductive Started (boot : State) : State → Prop where
  | idle (off : ∀ t ∈ boot.config, t.enabled = false) : Started boot boot
  | restored (env : RestoreEnv) (admissible : Admissible (.restoreAll env) boot)
      (safe : ∀ t, enabledIn boot.config t →
        KeyLoads (env.tunnel t.id) .keyRead t.id boot ∧ Configurable (env.tunnel t.id) t) :
      Started boot (after (.restoreAll env) boot)

theorem startedInv {boot : State} (fresh : Boot boot) (started : Started boot s) : RouteInv s := by
  cases started with
  | idle off =>
    refine ⟨fresh.consistent,tracksIff (bootTracks fresh) rfl rfl (fun t => ⟨False.elim,fun isUp => ?_⟩) (fun t isUp => ?_)⟩
    · have := off t isUp.1
      rw [isUp.2] at this
      contradiction
    · have := off t isUp.1
      rw [isUp.2] at this
      contradiction
  | restored env admissible safe =>
    refine restoreInv admissible.2 fresh.consistent (bootTracks fresh) (fun x => ?_) (fun x isUp => ?_)
    · exact fun isKnown => isKnown.resolve_left id
    · exact ⟨fun _ => (safe x isUp).2,.inl (safe x isUp).1⟩

theorem stepInv {op : Operation} (inv : RouteInv s) (admissible : Admissible op s) (safe : RoutesSafe op s) : RouteInv (after op s) := by
  cases op with
  | create env cfg privateKey => exact createInv inv admissible.1 privateKey admissible.2.1 admissible.2.2
  | update env id updates => exact updateInv inv admissible.1 admissible.2 safe
  | enable env id => exact enableInv inv admissible id
  | disable env id => exact disableInv inv admissible id
  | delete env id => exact deleteInv inv admissible id
  | restoreAll env =>
    refine restoreInv admissible.2 inv.consistent inv.tracks (fun x isKnown => isKnown.resolve_right id) (fun x isUp => ?_)
    exact ⟨safe x isUp,.inr ⟨isUp,id⟩⟩

section
variable {env : Env} {s : State} {idx : Nat} {cfg merged : TunnelConfig}

theorem unownedBreaks {u : State} {t : TunnelConfig} (member : t ∈ u.config) (on : t.enabled = true) (routes : t.cidrs ≠ [])
    (absent : ∀ key, ∀ o ∈ u.refs.ownersOf key, o.tunnelID ≠ t.id) : ¬ RouteOwnership u := by
  intro ownership
  obtain ⟨cidr,listed⟩ := exists_mem_of_ne_nil _ routes
  have keyed : (normalizeCIDR cidr,t.metric) ∈ t.routeKeys := mem_map_of_mem listed
  obtain ⟨o,owner,same⟩ := mem_map.mp ((ownership.owners _ t.id).mpr ⟨t,member,on,rfl,keyed⟩)
  exact absent _ o owner same

theorem deadLinkBreaks {u : State} {t : TunnelConfig} (member : t ∈ u.config) (on : t.enabled = true) (routes : t.cidrs ≠ [])
    (dead : u.kernel.lookup t.interfaceName = none) : ¬ RouteOwnership u := by
  intro ownership
  obtain ⟨cidr,listed⟩ := exists_mem_of_ne_nil _ routes
  have keyed : (normalizeCIDR cidr,t.metric) ∈ t.routeKeys := mem_map_of_mem listed
  obtain ⟨o,owner,same⟩ := mem_map.mp ((ownership.owners _ t.id).mpr ⟨t,member,on,rfl,keyed⟩)
  have found := ownership.index _ o owner t member same.symm
  rw [dead] at found
  contradiction

/- Past its preflight, recreateTunnel removes the link before it knows that it can
bring it up again. -/
theorem recreateLosesLink (willing : KernelWilling env) {u : State} (preflight : KeyLoads env .keyPreflight merged.id u)
    (bad : ¬ (KeyLoads env .keyRead merged.id u ∧ Configurable env merged)) :
    ∃ e v, recreateTunnel env merged true u = (some e,v) ∧ v.kernel.lookup merged.interfaceName = none := by
  obtain ⟨readable,loads⟩ := preflight
  have down := seqOk (q := wrapping "bringUp failed (tunnel disabled)" (bringUpTunnel env .forward merged))
    (wrappingOk.mpr (@tearDownRun env .forward merged willing u) : wrapping "tearDown before recreate" _ u = _)
  have gone : (takenDown env .forward merged u).kernel.lookup merged.interfaceName = none := Kernel.lookupNone.mpr (takenDownSelf u)
  have reload := @loadFrame env u .forward .keyRead merged.id _ (filesKeys (@takenDownFiles env .forward merged u))
  simp only [recreateTunnel,loads,if_true,down,wrapping,bringUpTunnel,reload]
  cases loaded : loadPrivateKey env .forward .keyRead merged.id u with
  | error e => exact ⟨_,_,rfl,gone⟩
  | ok key =>
    have refused : ¬ Configurable env merged := fun ok => bad ⟨⟨key,loaded⟩,ok⟩
    obtain ⟨e,v,ran,dead,_⟩ := @bringUpRefused env .forward merged (fun _ => False) (fun _ => False)
      (takenDown env .forward merged u) willing refused key
    exact ⟨_,v,by simp only [ran]; rfl,dead⟩

theorem hotUpdateLosesRoutes (inv : RouteInv s) (willing : KernelWilling env) (here : s.config[idx]? = some cfg)
    (on : cfg.enabled = true) (id : merged.id = cfg.id) (name : merged.interfaceName = cfg.interfaceName)
    (peer : PeerBuilds env merged) (invalid : ¬ ValidRoutes merged) : ∃ e u, hotUpdate env merged cfg.cidrs cfg.metric s = (some e,u) ∧
      ∀ key, ∀ o ∈ u.refs.ownersOf key, o.tunnelID ≠ cfg.id := by
  have isUp : enabledIn s.config cfg := ⟨hereMem here,on⟩
  obtain ⟨i,v,ran,frameV,foundV⟩ := hotPatched inv willing isUp name peer
  have changed : cfg.cidrs ≠ merged.cidrs ∨ cfg.metric ≠ merged.metric := by
    refine .inl (fun same => invalid ?_)
    have := inv.tracks.valid cfg isUp
    rwa [ValidRoutes,same] at this
  obtain ⟨e,u,claimed,_,owners⟩ := @claimFromRefused env .forward .hot merged.id i merged.metric willing 0 [] merged.cidrs
    (releaseRoutes env .forward .hot cfg.id i cfg.metric cfg.cidrs v) invalid
  have released : ∀ key, ∀ o ∈ (releaseRoutes env .forward .hot cfg.id i cfg.metric cfg.cidrs v).refs.ownersOf key,o.tunnelID ≠ cfg.id := by
    intro key o member mine
    obtain ⟨old,kept⟩ := (releaseOwners willing).mp member
    rw [frameRefs frameV] at old
    obtain ⟨x,isUpX,keyed,same,_⟩ := (inv.tracks.owner key o).mp old
    have : x = cfg := sameById inv.consistent isUpX.1 isUp.1 (same.symm.trans mine)
    exact kept ⟨mine,this ▸ keyed⟩
  refine ⟨.wrap "hot update: claimRoutes" e,u,?_,?_⟩
  · rw [hotUpdate,seqOk ran]
    simp only [name,foundV,if_pos changed,id] at claimed ⊢
    simp only [wrapping,claimRoutes,claimed]
    rfl
  · intro key o member mine
    have kept := (owners (fun key o old mine => absurd (mine.trans id) (released key o old)) key o).mp member
    exact kept.2 (mine.trans id.symm)

theorem recreateKeepsStale (inv : RouteInv s) (willing : KernelWilling env) (here : s.config[idx]? = some cfg)
    (on : cfg.enabled = true) (preflight : KeyLoads env .keyPreflight merged.id s) (load : KeyLoads env .keyRead merged.id s) (ok : Configurable env merged) {key : RouteKey} (old : key ∈ cfg.routeKeys)
    (dropped : key ∉ merged.routeKeys) :
    ∃ u, recreateTunnel env merged true s = (none,u) ∧ ∃ o ∈ u.refs.ownersOf key, o.tunnelID = cfg.id := by
  have isUp : enabledIn s.config cfg := ⟨hereMem here,on⟩
  obtain ⟨i,found⟩ := Option.ne_none_iff_exists'.mp (inv.tracks.live cfg isUp)
  have owner : ⟨cfg.id,i⟩ ∈ s.refs.ownersOf key := (inv.tracks.owner key _).mpr ⟨cfg,isUp,old,rfl,found⟩
  have survives (u : State) (held : ⟨cfg.id,i⟩ ∈ u.refs.ownersOf key) :
      ⟨cfg.id,i⟩ ∈ (takenDown env .forward merged u).refs.ownersOf key := by
    unfold takenDown
    split
    · exact held
    · exact (releaseOwners willing).mpr ⟨held,fun clash => dropped clash.2⟩
  obtain ⟨readable,loads⟩ := preflight
  obtain ⟨key',loaded⟩ := load
  have reload : loadPrivateKey env .forward .keyRead merged.id (takenDown env .forward merged s) = .ok key' := by
    rw [loadFrame (filesKeys (takenDownFiles s)),loaded]
  obtain ⟨j,w,opened,raised,_⟩ := @bringUpRun env .forward merged willing key' (takenDown env .forward merged s)
  have lifted : bringUpTunnel env .forward merged (takenDown env .forward merged s) =
      (none,merged.cidrs.foldl (claimOne merged.id j merged.metric) w) := by
    simp only [bringUpTunnel,reload,raised ok]
  refine ⟨merged.cidrs.foldl (claimOne merged.id j merged.metric) w,?_,⟨cfg.id,i⟩,?_,rfl⟩
  · simp only [recreateTunnel,loads,if_true]
    rw [seqOk (wrappingOk.mpr (tearDownRun willing s))]
    exact wrappingOk.mpr lifted
  · refine claimedOwners.mpr (.inr ⟨?_,fun clash => dropped clash.1⟩)
    rw [opened.refs]
    exact survives _ (survives _ owner)

theorem staleBreaks {u : State} (c : Consistent s.config) (here : s.config[idx]? = some cfg) (id : merged.id = cfg.id)
    (config : u.config = s.config.set idx merged) {key : RouteKey} (dropped : key ∉ merged.routeKeys)
    (held : ∃ o ∈ u.refs.ownersOf key, o.tunnelID = cfg.id) : ¬ RouteOwnership u := by
  intro ownership
  obtain ⟨o,owner,same⟩ := held
  obtain ⟨t,member,_,sameId,keyed⟩ := (ownership.owners key cfg.id).mp (mem_map.mpr ⟨o,owner,same⟩)
  rw [config,memSet c here] at member
  rcases member with rfl | other
  · exact dropped keyed
  · exact other.2 sameId

theorem updateBreaks (inv : RouteInv s) (willing : KernelWilling env) {id : String} {updates : TunnelConfig}
    (found : findTunnel id s.config = some (idx,cfg)) (on : cfg.enabled = true) (routes : cfg.cidrs ≠ [])
    (accepted : refuseUpdate env cfg (applyUpdates cfg updates) = none)
    (broken : ¬ UpdateSafe env cfg (applyUpdates cfg updates) s) : ¬ RouteOwnership (UpdateTunnel env id updates s).2 := by
  have here := (findTunnelSource found).1
  unfold UpdateTunnel
  simp only [found,accepted]
  generalize made : applyUpdates cfg updates = merged at broken
  have sameId : merged.id = cfg.id := by rw [← made]; rfl
  have sameName : merged.interfaceName = cfg.interfaceName := by rw [← made]; rfl
  have member (u : State) (same : files u = files s) : cfg ∈ u.config := by
    rw [filesConfig same]
    exact hereMem here
  have dead {e : GoError} {u : State} (ran : updateKernel env cfg merged s = (some e,u))
      (gone : u.kernel.lookup merged.interfaceName = none) :
      ¬ RouteOwnership (seq (updateKernel env cfg merged) (commitUpdate env idx cfg merged) s).2 := by
    rw [seqFail ran]
    exact deadLinkBreaks (member u (keepsRan updateKernelFiles ran)) on routes (sameName ▸ gone)
  cases again : needsRecreate cfg merged with
  | true =>
    have preflight : KeyLoads env .keyPreflight merged.id s := by
      by_contra unreadable
      exact broken (.inl ⟨unreadable,.inl again⟩)
    by_cases able : KeyLoads env .keyRead merged.id s ∧ Configurable env merged
    · have dropped : ¬ cfg.routeKeys ⊆ merged.routeKeys := fun keys =>
        broken (.inr ⟨able.2.peer,able.2.routes,fun _ => ⟨able.1,able.2.address,keys⟩⟩)
      simp only [subset_def,not_forall] at dropped
      obtain ⟨key,old,gone⟩ := dropped
      obtain ⟨u,recreated,held⟩ := recreateKeepsStale inv willing here on preflight able.1 able.2 old gone
      have ran : updateKernel env cfg merged s = (none,u) := by simp only [updateKernel,on,again,if_true,recreated]
      rw [seqOk ran]
      simp only [commitUpdate,saveOk willing]
      refine staleBreaks inv.consistent here sameId ?_ gone held
      rw [filesConfig (keepsRan updateKernelFiles ran)]
    · obtain ⟨e,u,recreated,gone⟩ := recreateLosesLink willing preflight able
      have ran : updateKernel env cfg merged s = (some e,u) := by simp only [updateKernel,on,again,if_true,recreated]
      exact dead ran gone
  | false =>
    by_cases peer : PeerBuilds env merged
    · have invalid : ¬ ValidRoutes merged := fun valid =>
        broken (.inr ⟨peer,valid,fun recreates => by rw [again] at recreates; contradiction⟩)
      obtain ⟨e,u,hot,unowned⟩ := hotUpdateLosesRoutes inv willing here on sameId sameName peer invalid
      have sameFiles : files u = files s := keepsRan hotUpdateFiles hot
      cases preflight : loadPrivateKey env .forward .keyPreflight merged.id s with
      | error e' =>
        have recreate : recreateTunnel env merged true u = (some (.wrap "preflight" e'),u) := by
          simp only [recreateTunnel,loadFrame (filesKeys sameFiles),preflight]
        have ran : updateKernel env cfg merged s = (some (.wrap "preflight" e'),u) := by
          simp [updateKernel,on,again,hot,recreate]
        rw [seqFail ran]
        exact unownedBreaks (member u sameFiles) on routes unowned
      | ok readable =>
        have loads : KeyLoads env .keyPreflight merged.id u := ⟨readable,by rw [loadFrame (filesKeys sameFiles),preflight]⟩
        obtain ⟨e',v,recreated,gone⟩ := recreateLosesLink willing loads (fun able => invalid able.2.routes)
        have ran : updateKernel env cfg merged s = (some e',v) := by simp [updateKernel,on,again,hot,recreated]
        exact dead ran gone
    · have preflight : KeyLoads env .keyPreflight merged.id s := by
        by_contra unreadable
        exact broken (.inl ⟨unreadable,.inr peer⟩)
      obtain ⟨e,hot⟩ := hotRefused inv willing here on sameName peer
      obtain ⟨e',v,recreated,gone⟩ := recreateLosesLink willing preflight (fun able => peer able.2.peer)
      have ran : updateKernel env cfg merged s = (some e',v) := by simp [updateKernel,on,again,hot,recreated]
      exact dead ran gone

end

theorem bringUpOther {env : Env} (willing : KernelWilling env) {key : String}
    (other : name ≠ t.interfaceName) : (bringUp env .forward t key s).2.kernel.lookup name = s.kernel.lookup name := by
  have down : (takenDown env .forward t s).kernel.lookup name = s.kernel.lookup name := by
    simp only [Kernel.lookup,takenDownOther s other]
  by_cases ok : Configurable env t
  · obtain ⟨i,u,opened,raised,_⟩ := @bringUpRun env .forward t willing key s
    rw [raised ok,claimedLookup,opened.lookup,if_neg other,down]
  · obtain ⟨e,u,ran,_,others,_⟩ := @bringUpRefused env .forward t (fun _ => False) (fun _ => False) s willing ok key
    rw [ran]
    exact others name other

theorem restoreTunnelOther {env : Env} (willing : KernelWilling env)
    (other : name ≠ t.interfaceName) : (restoreTunnel env t s).2.kernel.lookup name = s.kernel.lookup name := by
  unfold restoreTunnel
  split
  · rfl
  · exact bringUpOther willing other

theorem restoreEachOther {env : String → Env} (willing : ∀ id, KernelWilling (env id)) {rest : List TunnelConfig}
    (other : ∀ t ∈ rest, name ≠ t.interfaceName) : (restoreEach env rest s).2.kernel.lookup name = s.kernel.lookup name := by
  induction rest generalizing s with
  | nil => rfl
  | cons t rest ih =>
    rw [restoreEachNext,ih (fun x member => other x (mem_cons_of_mem t member))]
    split
    · exact restoreTunnelOther (willing t.id) (other t mem_cons_self)
    · rfl

theorem restoreEachLoses {env : String → Env} (willing : ∀ id, KernelWilling (env id)) {rest : List TunnelConfig}
    (names : (rest.map TunnelConfig.interfaceName).Nodup) (member : t ∈ rest) (on : t.enabled = true)
    (loads : KeyLoads (env t.id) .keyRead t.id s) (bad : ¬ Configurable (env t.id) t) :
    (restoreEach env rest s).2.kernel.lookup t.interfaceName = none := by
  induction rest generalizing s with
  | nil => exact absurd member not_mem_nil
  | cons x rest ih =>
    rw [restoreEachNext]
    rw [map_cons,nodup_cons] at names
    rcases mem_cons.mp member with rfl | inRest
    · obtain ⟨key,loaded⟩ := loads
      obtain ⟨e,u,ran,gone,_⟩ := @bringUpRefused (env t.id) .forward t (fun _ => False) (fun _ => False) s (willing t.id) bad key
      have restored : restoreTunnel (env t.id) t s = (some e,u) := by simp only [restoreTunnel,loaded,ran]
      rw [restoreEachOther willing]
      · rw [if_pos on,restored]
        exact gone
      · intro y later same
        exact names.1 (same ▸ mem_map_of_mem later)
    · refine ih names.2 inRest ?_
      obtain ⟨key,loaded⟩ := loads
      refine ⟨key,?_⟩
      rw [loadFrame,loaded]
      split
      · exact filesKeys (restoreTunnelFiles s)
      · rfl

theorem restoreBreaks {env : RestoreEnv} (inv : RouteInv s) (willing : ∀ id, KernelWilling (env.tunnel id))
    (routes : ∀ t, enabledIn s.config t → t.cidrs ≠ []) (broken : ¬ RoutesSafe (.restoreAll env) s) :
    ¬ RouteOwnership (RestoreAll env s).2 := by
  simp only [RoutesSafe,not_forall] at broken
  obtain ⟨t,isUp,loads,bad⟩ := broken
  have swept := sweepFiles env s
  refine deadLinkBreaks (t := t) ?_ isUp.2 (routes t isUp) ?_
  · rw [filesConfig (@restoreAllFiles env s)]
    exact isUp.1
  · unfold RestoreAll
    dsimp only
    refine restoreEachLoses willing ?_ ?_ isUp.2 ?_ bad
    · rw [filesConfig swept]
      exact inv.consistent.names
    · rw [filesConfig swept]
      exact isUp.1
    · simpa only [KeyLoads,loadFrame (filesKeys swept)] using loads

def TouchesRoutes : Operation → State → Prop
  | .update _ id _,s => ∀ idx cfg, findTunnel id s.config = some (idx,cfg) → cfg.cidrs ≠ []
  | .restoreAll _,s => ∀ t, enabledIn s.config t → t.cidrs ≠ []
  | _,_ => True

theorem unsafeBreaks {op : Operation} (inv : RouteInv s) (admissible : Admissible op s)
    (touches : TouchesRoutes op s) (broken : ¬ RoutesSafe op s) : ¬ RouteOwnership (after op s) := by
  cases op with
  | create _ _ _ | enable _ _ | disable _ _ | delete _ _ => exact absurd trivial broken
  | update env id updates =>
    simp only [RoutesSafe,not_forall] at broken
    obtain ⟨idx,cfg,found,on,accepted,bad⟩ := broken
    exact updateBreaks inv admissible.1 found on (touches idx cfg found) accepted bad
  | restoreAll env => exact restoreBreaks inv admissible.2 touches broken

theorem ownershipAlongRuns {boot start s : State} (fresh : Boot boot) (started : Started boot start)
    (reached : Reached after (fun op t => Admissible op t ∧ RoutesSafe op t) start s) :
    RouteOwnership s ∧ ∀ op, Admissible op s → TouchesRoutes op s → (RouteOwnership (after op s) ↔ RoutesSafe op s) := by
  have inv : RouteInv s := reachedInvariant RouteInv (startedInv fresh started)
    (fun op t held ok => stepInv held ok.1 ok.2) reached
  refine ⟨invOwnership inv,fun op admissible touches => ⟨fun ownership => ?_,fun safe => ?_⟩⟩
  · by_contra broken
    exact unsafeBreaks inv admissible touches broken ownership
  · exact invOwnership (stepInv inv admissible safe)

theorem bootVacant : Boot vacant :=
  ⟨⟨by decide,by decide,fun _ member => absurd member not_mem_nil⟩,fun _ => rfl,fun _ _ _ via => absurd via (by simp [vacant,Kernel.empty])⟩

theorem ownershipAfterCreate : RouteOwnership (after (.create obliging branchTunnel "") vacant) := by
  have admissible : Admissible (.create obliging branchTunnel "") vacant := ⟨fun _ _ _ => rfl,by decide +kernel,by decide +kernel⟩
  have started : Started vacant vacant := .idle (fun _ member => absurd member not_mem_nil)
  have reached : Reached after (fun op t => Admissible op t ∧ RoutesSafe op t) vacant
      (after (.create obliging branchTunnel "") vacant) := .next _ .start ⟨admissible,trivial⟩
  exact (ownershipAlongRuns bootVacant started reached).1

def movedBranch : TunnelConfig := {branchTunnel with listenPort := 51821, allowedIPs := some ["192.168.8.0/24"]}
def afterMove : State := after (.update obliging "00000000" movedBranch) (after (.create obliging branchTunnel "") vacant)

theorem recreateLeavesStaleOwner :
    (perform (.update obliging "00000000" movedBranch) (after (.create obliging branchTunnel "") vacant)).1 = none ∧
    afterMove.config.map TunnelConfig.allowedIPs = [some ["192.168.8.0/24"]] ∧
    afterMove.refs.ownersOf ("192.168.7.0/24",100) = [⟨"00000000",1⟩] ∧
    afterMove.kernel.lookup "wg-s2s0" = some 2 ∧ ¬ RouteOwnership afterMove := by
  have config : afterMove.config.map TunnelConfig.routeKeys = [[("192.168.8.0/24",100)]] := by decide +kernel
  have stale : afterMove.refs.ownersOf ("192.168.7.0/24",100) = [⟨"00000000",1⟩] := by decide +kernel
  refine ⟨by decide +kernel,by decide +kernel,stale,by decide +kernel,fun ownership => ?_⟩
  have owner : "00000000" ∈ (afterMove.refs.ownersOf ("192.168.7.0/24",100)).map RouteOwner.tunnelID := by
    rw [stale]
    exact mem_cons_self
  obtain ⟨t,member,_,_,keyed⟩ := (ownership.owners _ _).mp owner
  have listed : t.routeKeys ∈ afterMove.config.map TunnelConfig.routeKeys := mem_map_of_mem member
  rw [config] at listed
  rw [mem_singleton.mp listed] at keyed
  revert keyed
  decide +kernel

end VpnPack.Wgs2s
