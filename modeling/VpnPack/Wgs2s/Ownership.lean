import VpnPack.Wgs2s.Routes

/-! Links and routes together: taking a tunnel's link down, bringing it up and the
hot update, with a kernel that refuses nothing of its own accord. Tracks says
which tunnels are up and that owners and table follow from them. -/
namespace VpnPack.Wgs2s
open Base Net Ops

def TunnelConfig.routeKeys (t : TunnelConfig) : List RouteKey := keysOf t.metric t.cidrs
def ValidRoutes (t : TunnelConfig) : Prop := ∀ cidr ∈ t.cidrs, ValidCIDR cidr

section
variable {env : Env} {ph : Phase} {t : TunnelConfig}

variable {name : String} {s u : State} {step : Step} {refusal : GoError} {i : Nat} {k : Kernel}

theorem onKernelOk {change : Kernel → Option Kernel} (answer : env.answer ph step = none) (changed : change s.kernel = some k) :
    onKernel env ph step change refusal s = (none,{s with kernel := k}) := by
  simp only [onKernel,answer,changed]

theorem deleteLinkOk (willing : KernelWilling env) {step : Step} (kernel : step.offKernel = false) {i : Nat} {s : State}
    (present : s.kernel.hasIndex i = true) : deleteLink env ph step i s = (none,{s with kernel := s.kernel.deleteLink i}) :=
  onKernelOk (willing ph step kernel) (by simp [present])

def takenDown (env : Env) (ph : Phase) (t : TunnelConfig) (s : State) : State :=
  match s.kernel.lookup t.interfaceName with
  | none => s
  | some i =>
    let released := releaseRoutes env ph .link t.id i t.metric t.cidrs s
    {released with kernel := released.kernel.deleteLink i}

theorem releasedIndex {i : Nat} {s : State} (found : s.kernel.lookup t.interfaceName = some i) {site : Site} :
    (releaseRoutes env ph site t.id i t.metric t.cidrs s).kernel.lookup t.interfaceName = some i := by
  rw [wiresLookup (releaseWires t.cidrs s),found]

theorem tearDownRun (willing : KernelWilling env) (s : State) : tearDown env ph t s = (none,takenDown env ph t s) := by
  unfold tearDown takenDown
  cases found : s.kernel.lookup t.interfaceName with
  | none => rfl
  | some i => exact wrappingOk.mpr (deleteLinkOk willing rfl (Kernel.hasIndexOfLookup (releasedIndex found)))

theorem cleanupRun (willing : KernelWilling env) (s : State) : cleanupExistingInterface env ph t s = (none,takenDown env ph t s) := by
  unfold cleanupExistingInterface takenDown
  cases found : s.kernel.lookup t.interfaceName with
  | none => rfl
  | some i =>
    have deleted := @deleteLinkOk env ph willing .linkDelete rfl i _ (Kernel.hasIndexOfLookup (@releasedIndex env ph t i s found .link))
    simp only [deleted]

theorem takenDownFiles (s : State) : files (takenDown env ph t s) = files s := by
  unfold takenDown
  split
  · rfl
  · exact releaseFiles t.cidrs s

theorem takenDownSelf (s : State) : (takenDown env ph t s).kernel.find t.interfaceName = none := by
  unfold takenDown
  cases found : s.kernel.lookup t.interfaceName with
  | none => exact Kernel.lookupNone.mp found
  | some i => exact Kernel.findDeleteSelf (releasedIndex found)

theorem takenDownOther (s : State) (other : name ≠ t.interfaceName) : (takenDown env ph t s).kernel.find name = s.kernel.find name := by
  unfold takenDown
  cases found : s.kernel.lookup t.interfaceName with
  | none => rfl
  | some i =>
    have elsewhere : (releaseRoutes env ph .link t.id i t.metric t.cidrs s).kernel.lookup name ≠ some i := by
      intro same
      exact other (Kernel.lookupInj same (releasedIndex found))
    exact (Kernel.findDeleteOther elsewhere).trans (wiresFind (releaseWires t.cidrs s) name)

def frame (s : State) := (s.refs,s.kernel.routes,s.kernel.lookup)

theorem frameAdjust (s : State) (which : Link → Bool) (f : Settings → Settings) :
    frame {s with kernel := s.kernel.adjust which f} = frame s :=
  congrArg (fun lookup => (s.refs,s.kernel.routes,lookup)) (funext (Kernel.lookupAdjust s.kernel which f))

theorem adjustIndexFrame {f : Settings → Settings} : Keeps frame (onKernel env ph step (adjustIndex i f) refusal) :=
  adjustIndexKeeps (fun s which => frameAdjust s which f)

theorem configureDeviceFrame {key : String} {port : Int} {peer : PeerConfig} :
    Keeps frame (configureDevice env ph name key port peer) := configureDeviceKeeps frameAdjust

theorem updatePeerFrame {peer : PeerConfig} : Keeps frame (updatePeer env name peer) := updatePeerKeeps frameAdjust

theorem addAddressFrame {cidr : String} : Keeps frame (addAddress env ph i cidr) := addAddressKeeps frameAdjust

def PeerBuilds (env : Env) (t : TunnelConfig) : Prop :=
  t.peerPublicKey = "" ∨ ∃ pc, buildPeerConfig env t.peer = .ok pc

theorem peerRefused {e : GoError} (keyed : t.peerPublicKey ≠ "") (built : buildPeerConfig env t.peer = .error e) : ¬ PeerBuilds env t := by
  rintro (unset | ⟨pc,ok⟩)
  · exact keyed unset
  · rw [built] at ok
    contradiction

structure Configurable (env : Env) (t : TunnelConfig) : Prop where
  peer : PeerBuilds env t
  address : ValidCIDR t.tunnelAddress
  routes : ValidRoutes t

theorem adjustIndexOk (willing : KernelWilling env) {step : Step} (kernel : step.offKernel = false) {i : Nat}
    {f : Settings → Settings} {refusal : GoError} {s : State} (present : s.kernel.hasIndex i = true) :
    ∃ u, onKernel env ph step (adjustIndex i f) refusal s = (none,u) :=
  ⟨_,onKernelOk (willing ph step kernel) (by rw [adjustIndex,if_pos present])⟩

theorem adjustNamedOk (willing : KernelWilling env) {step : Step} (kernel : step.offKernel = false) {name : String}
    {f : Settings → Settings} {refusal : GoError} {s : State} (present : (s.kernel.find name).isSome = true) :
    ∃ u, onKernel env ph step (adjustNamed name f) refusal s = (none,u) :=
  ⟨_,onKernelOk (willing ph step kernel) (by rw [adjustNamed,if_pos present])⟩

theorem configureDeviceRun (willing : KernelWilling env) {name key : String} {port : Int} {s : State}
    (present : (s.kernel.find name).isSome = true) : (PeerBuilds env t → ∃ u, configureDevice env ph name key port t.peer s = (none,u)) ∧
    (¬ PeerBuilds env t → ∃ e, configureDevice env ph name key port t.peer s = (some e,s)) := by
  unfold configureDevice
  dsimp only
  split
  · rename_i unset
    refine ⟨fun _ => ?_,fun refused => absurd (.inl unset) refused⟩
    obtain ⟨u,ran⟩ := @adjustNamedOk env ph willing .configureDevice rfl name _ enodev s present
    exact ⟨u,wrappingOk.mpr ran⟩
  · rename_i keyed
    cases built : buildPeerConfig env t.peer with
    | error e => exact ⟨fun builds => absurd builds (peerRefused keyed built),fun _ => ⟨e,rfl⟩⟩
    | ok pc =>
      refine ⟨fun _ => ?_,fun refused => absurd (.inr ⟨pc,built⟩) refused⟩
      obtain ⟨u,ran⟩ := @adjustNamedOk env ph willing .configureDevice rfl name _ enodev s present
      exact ⟨u,wrappingOk.mpr ran⟩

theorem addAddressRun (willing : KernelWilling env) {i : Nat} {cidr : String} {s : State} (present : s.kernel.hasIndex i = true) :
    (ValidCIDR cidr → ∃ u, addAddress env ph i cidr s = (none,u)) ∧ (¬ ValidCIDR cidr → ∃ e, addAddress env ph i cidr s = (some e,s)) := by
  unfold addAddress
  cases parsed : parseCIDR cidr.toList with
  | none =>
    refine ⟨fun valid => ?_,fun _ => ⟨_,rfl⟩⟩
    simp [ValidCIDR,parsed] at valid
  | some pair => exact ⟨fun _ => adjustIndexOk willing rfl present,fun invalid => absurd (by simp [ValidCIDR,parsed]) invalid⟩

theorem frameLookup (same : frame u = frame s) : u.kernel.lookup = s.kernel.lookup :=
  congrArg (fun f => f.2.2) same
theorem frameRefs (same : frame u = frame s) : u.refs = s.refs := congrArg Prod.fst same
theorem frameRoutes (same : frame u = frame s) : u.kernel.routes = s.kernel.routes :=
  congrArg (fun f => f.2.1) same

theorem findPresent (found : k.lookup name = some i) : (k.find name).isSome = true := by
  obtain ⟨l,present,_⟩ := Kernel.lookupSource.mp found
  simp [present]

theorem configureLinkRun (willing : KernelWilling env) {key : String} {i : Nat} {s : State}
    (found : s.kernel.lookup t.interfaceName = some i) : ∃ u, frame u = frame s ∧
      (Configurable env t → configureLink env ph t key i s = (none,t.cidrs.foldl (claimOne t.id i t.metric) u)) ∧
      (¬ Configurable env t → ∃ e v, configureLink env ph t key i s = (some e,v) ∧ v.kernel.lookup = s.kernel.lookup ∧
        Grown i s v ∧ ((∀ key, ∀ o ∈ s.refs.ownersOf key, o.tunnelID ≠ t.id) →
          ∀ key o, o ∈ v.refs.ownersOf key ↔ o ∈ s.refs.ownersOf key)) := by
  have present {u : State} (same : frame u = frame s) :
      (u.kernel.find t.interfaceName).isSome = true ∧ u.kernel.hasIndex i = true := by
    have here : u.kernel.lookup t.interfaceName = some i := by rw [frameLookup same,found]
    exact ⟨findPresent here,Kernel.hasIndexOfLookup here⟩
  have early {e : GoError} {u : State} (same : frame u = frame s) (ran : configureLink env ph t key i s = (some e,u)) :
      ∃ e v, configureLink env ph t key i s = (some e,v) ∧ v.kernel.lookup = s.kernel.lookup ∧
        Grown i s v ∧ ((∀ key, ∀ o ∈ s.refs.ownersOf key, o.tunnelID ≠ t.id) →
          ∀ key o, o ∈ v.refs.ownersOf key ↔ o ∈ s.refs.ownersOf key) := by
    refine ⟨e,u,ran,frameLookup same,fun p => .inl (by rw [frameRoutes same]),fun _ key o => ?_⟩
    rw [frameRefs same]
  obtain ⟨a,ranA,sameA⟩ : ∃ a, (if t.mtu ≠ 0 then wrapping "set MTU" (setMTU env ph i t.mtu) else skip : Proc State) s =
      (none,a) ∧ frame a = frame s := by
    split
    · obtain ⟨a,ran⟩ := @adjustIndexOk env ph willing .setMTU rfl i _ enodev s (present rfl).2
      exact ⟨a,wrappingOk.mpr ran,keepsRan adjustIndexFrame ran⟩
    · exact ⟨s,rfl,rfl⟩
  by_cases peer : PeerBuilds env t
  · obtain ⟨b,ranB⟩ := (@configureDeviceRun env ph t willing _ key t.listenPort a (present sameA).1).1 peer
    have sameB : frame b = frame s := (keepsRan configureDeviceFrame ranB).trans sameA
    by_cases address : ValidCIDR t.tunnelAddress
    · obtain ⟨c,ranC⟩ := (@addAddressRun env ph willing i _ b (present sameB).2).1 address
      have sameC : frame c = frame s := (keepsRan addAddressFrame ranC).trans sameB
      obtain ⟨d,ranD⟩ : ∃ d, setInterfaceUp env ph i c = (none,d) := adjustIndexOk willing rfl (present sameC).2
      have sameD : frame d = frame s := (keepsRan adjustIndexFrame ranD).trans sameC
      have unfolded : configureLink env ph t key i s =
          (if 0 < t.cidrs.length then claimRoutes env ph .link t.id i t.metric t.cidrs else skip : Proc State) d := by
        rw [configureLink,seqOk ranA,seqOk ranB,seqOk (wrappingOk.mpr ranC),seqOk (wrappingOk.mpr ranD)]
      refine ⟨d,sameD,fun ok => ?_,fun bad => ?_⟩
      · rw [unfolded]
        split
        · exact claimFromOk willing ok.routes d
        · rename_i none_
          have : t.cidrs = [] := by simpa using none_
          simp [this]
      · have invalid : ¬ ValidRoutes t := fun routes => bad ⟨peer,address,routes⟩
        have some_ : 0 < t.cidrs.length := by
          by_contra none_
          have : t.cidrs = [] := by simpa using none_
          exact invalid (by simp [ValidRoutes,this])
        obtain ⟨e,v,ran,grown,owners⟩ := @claimFromRefused env ph .link t.id i t.metric willing 0 [] t.cidrs d invalid
        rw [unfolded,if_pos some_]
        refine ⟨e,v,ran,?_,?_,fun unowned key o => ?_⟩
        · rw [← frameLookup sameD]
          exact funext (wiresLookup (keepsRan claimFromWires ran))
        · intro p
          simpa only [frameRoutes sameD] using grown p
        · rw [frameRefs sameD] at owners
          rw [owners (fun key o member mine => absurd mine (unowned key o member))]
          exact ⟨And.left,fun member => ⟨member,unowned key o member⟩⟩
    · obtain ⟨e,ranC⟩ := (@addAddressRun env ph willing i _ b (present sameB).2).2 address
      refine ⟨s,rfl,fun ok => absurd ok.address address,fun _ => ?_⟩
      refine early sameB (e := .wrap "add address" e) ?_
      rw [configureLink,seqOk ranA,seqOk ranB,seqFail]
      simp [wrapping,ranC]
  · obtain ⟨e,ranB⟩ := (@configureDeviceRun env ph t willing _ key t.listenPort a (present sameA).1).2 peer
    refine ⟨s,rfl,fun ok => absurd ok.peer peer,fun _ => ?_⟩
    refine early sameA (e := e) ?_
    rw [configureLink,seqOk ranA,seqFail ranB]

structure Opened (name : String) (i : Nat) (s u : State) : Prop where
  refs : u.refs = s.refs
  routes : u.kernel.routes = s.kernel.routes
  lookup : ∀ n, u.kernel.lookup n = if n = name then some i else s.kernel.lookup n
  fresh : ∀ n, s.kernel.lookup n ≠ some i

theorem openedFrame {v : State} (opened : Opened name i s u) (same : frame v = frame u) : Opened name i s v :=
  ⟨(frameRefs same).trans opened.refs,(frameRoutes same).trans opened.routes,
    fun n => by rw [frameLookup same,opened.lookup],opened.fresh⟩

theorem newLinkOpened (made : s.kernel.newLink name = some k) : Opened name s.kernel.nextIndex s {s with kernel := k} := by
  obtain ⟨absent,routes,_,found⟩ := Kernel.newLinkSource made
  refine ⟨rfl,routes,fun n => ?_,fun n clash => ?_⟩
  · simp only [Kernel.lookup,found]
    split <;> rfl
  · exact Nat.lt_irrefl _ (Kernel.lookupBelow clash)

theorem bringUpRun (willing : KernelWilling env) {key : String} {s : State} : ∃ i u, Opened t.interfaceName i (takenDown env ph t s) u ∧
      (Configurable env t → bringUp env ph t key s = (none,t.cidrs.foldl (claimOne t.id i t.metric) u)) ∧
      (¬ Configurable env t → ∃ e v, bringUp env ph t key s = (some e,{v with kernel := v.kernel.deleteLink i}) ∧
        v.kernel.lookup = u.kernel.lookup ∧ Grown i u v ∧ ((∀ key, ∀ o ∈ u.refs.ownersOf key, o.tunnelID ≠ t.id) →
          ∀ key o, o ∈ v.refs.ownersOf key ↔ o ∈ u.refs.ownersOf key)) := by
  obtain ⟨k,made⟩ := Kernel.newLinkFree (@takenDownSelf env ph t s)
  have opened := newLinkOpened made
  have here : k.lookup t.interfaceName = some (takenDown env ph t s).kernel.nextIndex := by
    rw [opened.lookup,if_pos rfl]
  have created : createLink env ph t.interfaceName (takenDown env ph t s) = (none,{takenDown env ph t s with kernel := k}) :=
    onKernelOk (willing ph .linkNew rfl) made
  have unfolded : bringUp env ph t key s = orElse (configureLink env ph t key (takenDown env ph t s).kernel.nextIndex)
        (deleteLink env .undo .linkCleanup (takenDown env ph t s).kernel.nextIndex)
        {takenDown env ph t s with kernel := k} := by
    rw [bringUp,seqOk (cleanupRun willing s),createInterface,seqOk (wrappingOk.mpr created)]
    simp only [willing ph .linkLookup rfl,here]
  obtain ⟨u,same,ok,bad⟩ := @configureLinkRun env ph t willing key _ {takenDown env ph t s with kernel := k} here
  refine ⟨_,u,openedFrame opened same,fun config => ?_,fun refused => ?_⟩
  · rw [unfolded]
    exact orElseOk.mpr (ok config)
  · obtain ⟨e,v,ran,lookup,grown,owners⟩ := bad refused
    have still : v.kernel.hasIndex (takenDown env ph t s).kernel.nextIndex = true := by
      have found : v.kernel.lookup t.interfaceName = some (takenDown env ph t s).kernel.nextIndex := by
        rw [lookup]
        exact here
      exact Kernel.hasIndexOfLookup found
    refine ⟨e,v,?_,?_,?_,?_⟩
    · rw [unfolded]
      simp only [orElse,ran,deleteLinkOk willing (show Step.offKernel .linkCleanup = false from rfl) still]
    · rw [lookup,frameLookup same]
    · intro p
      rw [frameRoutes same]
      exact grown p
    · rw [frameRefs same]
      exact owners

end

/- Which tunnels are up, and what follows for owners and routes. Tunnels that are
pending may still have a link with routes of an earlier run behind it. -/
structure Tracks (up pending : TunnelConfig → Prop) (s : State) : Prop where
  live : ∀ t, up t → s.kernel.lookup t.interfaceName ≠ none
  valid : ∀ t, up t → ValidRoutes t
  owner : ∀ key o, o ∈ s.refs.ownersOf key ↔
    ∃ t, up t ∧ key ∈ t.routeKeys ∧ o.tunnelID = t.id ∧ s.kernel.lookup t.interfaceName = some o.ifIndex
  matched : Matched (fun key i => ∃ t, pending t ∧ key ∈ t.routeKeys ∧ s.kernel.lookup t.interfaceName = some i)
    s.refs s.kernel.routes

def Apart (t u : TunnelConfig) : Prop := u.id ≠ t.id ∧ u.interfaceName ≠ t.interfaceName

def Covers (t u : TunnelConfig) : Prop :=
  u.id = t.id ∧ u.interfaceName = t.interfaceName ∧ u.routeKeys ⊆ t.routeKeys

theorem matchedMono {left right : RouteKey → Nat → Prop} {rc : RouteRefs} {routes : String × Nat → Option Nat}
    (before : Matched left rc routes) (weaker : ∀ key i, Fits key.2 → routes (kernelKey key) = some i → left key i → right key i) :
    Matched right rc routes := by
  refine ⟨before.covered,fun key i inRange via => ?_⟩
  exact (before.sound key i inRange via).imp_right (weaker key i inRange via)

section
variable {env : Env} {ph : Phase} {t : TunnelConfig} {up pending : TunnelConfig → Prop} {s : State}

section
variable {i : Nat} (tracks : Tracks up pending s) (related : ∀ u, up u ∨ pending u → Covers t u ∨ Apart t u)
  (found : s.kernel.lookup t.interfaceName = some i)
include tracks related found

theorem ownIndex : ∀ key, ∀ o ∈ s.refs.ownersOf key, o.tunnelID = t.id → o.ifIndex = i := by
  intro key o member mine
  obtain ⟨u,isUp,_,same,lookup⟩ := (tracks.owner key o).mp member
  rcases related u (.inl isUp) with covered | apart
  · rw [covered.2.1,found] at lookup
    exact (Option.some.inj lookup).symm
  · exact absurd (same.symm.trans mine) apart.1

theorem otherIndex : ∀ key, ∀ o ∈ s.refs.ownersOf key, o.tunnelID ≠ t.id → o.ifIndex ≠ i := by
  intro key o member foreign via
  obtain ⟨u,isUp,_,same,lookup⟩ := (tracks.owner key o).mp member
  have sameLink : u.interfaceName = t.interfaceName := Kernel.lookupInj (via ▸ lookup) found
  rcases related u (.inl isUp) with covered | apart
  · exact foreign (same.trans covered.1)
  · exact apart.2 sameLink

section
variable (willing : KernelWilling env) (fits : Fits t.metric) (ok : ValidRoutes t ∨ ∀ u, up u ∨ pending u → Apart t u) (site : Site)
include willing fits ok site

theorem releasedTracks : Tracks (fun u => up u ∧ u.id ≠ t.id) pending (releaseRoutes env ph site t.id i t.metric t.cidrs s) := by
  have lookup : (releaseRoutes env ph site t.id i t.metric t.cidrs s).kernel.lookup = s.kernel.lookup :=
    funext (wiresLookup (releaseWires t.cidrs s))
  have owners {key : RouteKey} {o : RouteOwner} := @releaseOwners env ph site t.id i t.metric willing 0 t.cidrs s key o
  refine ⟨?_,fun u isUp => tracks.valid u isUp.1,fun key o => ?_,?_⟩
  · intro u isUp
    rw [lookup]
    exact tracks.live u isUp.1
  · rw [lookup,releaseRoutes,owners,tracks.owner]
    constructor
    · rintro ⟨⟨u,isUp,keyed,same,index⟩,kept⟩
      refine ⟨u,⟨isUp,fun mine => kept ⟨same.trans mine,?_⟩⟩,keyed,same,index⟩
      rcases related u (.inl isUp) with covered | apart
      · exact covered.2.2 keyed
      · exact absurd mine apart.1
    · rintro ⟨u,⟨isUp,foreign⟩,keyed,same,index⟩
      exact ⟨⟨u,isUp,keyed,same,index⟩,fun clash => foreign (same.symm.trans clash.1)⟩
  · rw [lookup]
    refine releaseMatched willing fits (ownIndex tracks related found) ?_ tracks.matched
    refine ok.imp_right (fun apart key o member mine => ?_)
    obtain ⟨u,isUp,_,same,_⟩ := (tracks.owner key o).mp member
    exact (apart u (.inl isUp)).1 (same.symm.trans mine)

theorem releasedClear {key : RouteKey} (inRange : Fits key.2) :
    (releaseRoutes env ph site t.id i t.metric t.cidrs s).kernel.routes (kernelKey key) ≠ some i := by
  intro via
  have released := @releasedTracks env ph t up pending s i tracks related found willing fits ok site
  have lookup : (releaseRoutes env ph site t.id i t.metric t.cidrs s).kernel.lookup = s.kernel.lookup :=
    funext (wiresLookup (releaseWires t.cidrs s))
  rcases released.matched.sound key i inRange via with ⟨o,member,index⟩ | ⟨u,isPending,keyed,index⟩
  · obtain ⟨u,⟨isUp,foreign⟩,_,_,index'⟩ := (released.owner key o).mp member
    rw [index,lookup] at index'
    have sameLink := Kernel.lookupInj index' found
    rcases related u (.inl isUp) with covered | apart
    · exact foreign covered.1
    · exact apart.2 sameLink
  · rw [lookup] at index
    have sameLink := Kernel.lookupInj index found
    rcases related u (.inr isPending) with covered | apart
    · rcases ok with valid | apart
      · exact releaseClears willing (otherIndex tracks related found) valid (.inr (covered.2.2 keyed)) via
      · exact (apart u (.inr isPending)).2 sameLink
    · exact apart.2 sameLink

end

end

theorem noLinkTracks (tracks : Tracks up pending s) (related : ∀ u, up u ∨ pending u → Covers t u ∨ Apart t u)
    (gone : s.kernel.lookup t.interfaceName = none) :
    Tracks (fun u => up u ∧ u.id ≠ t.id) (fun u => pending u ∧ u.interfaceName ≠ t.interfaceName) s := by
  have absent (u : TunnelConfig) (isUp : up u) : u.id ≠ t.id := by
    intro mine
    rcases related u (.inl isUp) with covered | apart
    · exact tracks.live u isUp (covered.2.1 ▸ gone)
    · exact apart.1 mine
  refine ⟨fun u isUp => tracks.live u isUp.1,fun u isUp => tracks.valid u isUp.1,fun key o => ?_,?_⟩
  · rw [tracks.owner]
    constructor
    · rintro ⟨u,isUp,rest⟩
      exact ⟨u,⟨isUp,absent u isUp⟩,rest⟩
    · rintro ⟨u,isUp,rest⟩
      exact ⟨u,isUp.1,rest⟩
  · refine matchedMono tracks.matched (fun key i _ _ => ?_)
    rintro ⟨u,isPending,keyed,index⟩
    refine ⟨u,⟨isPending,fun clash => ?_⟩,keyed,index⟩
    rw [clash,gone] at index
    contradiction

theorem takenDownTracks (willing : KernelWilling env) (tracks : Tracks up pending s) (fits : Fits t.metric)
    (related : ∀ u, up u ∨ pending u → Covers t u ∨ Apart t u) (ok : ValidRoutes t ∨ ∀ u, up u ∨ pending u → Apart t u) :
    Tracks (fun u => up u ∧ u.id ≠ t.id) (fun u => pending u ∧ u.interfaceName ≠ t.interfaceName) (takenDown env ph t s) := by
  have elsewhere (u : TunnelConfig) (member : up u) (foreign : u.id ≠ t.id) : u.interfaceName ≠ t.interfaceName := by
    rcases related u (.inl member) with covered | apart
    · exact absurd covered.1 foreign
    · exact apart.2
  have lookup {name : String} (other : name ≠ t.interfaceName) :
      (takenDown env ph t s).kernel.lookup name = s.kernel.lookup name := by
    simp only [Kernel.lookup,takenDownOther s other]
  cases found : s.kernel.lookup t.interfaceName with
  | none =>
    have same : takenDown env ph t s = s := by rw [takenDown,found]
    rw [same]
    exact noLinkTracks tracks related found
  | some i =>
    have released := @releasedTracks env ph t up pending s i tracks related found willing fits ok .link
    have clear {key : RouteKey} (inRange : Fits key.2) :=
      @releasedClear env ph t up pending s i tracks related found willing fits ok .link key inRange
    have wired : (releaseRoutes env ph .link t.id i t.metric t.cidrs s).kernel.lookup = s.kernel.lookup :=
      funext (wiresLookup (releaseWires t.cidrs s))
    have refs : (takenDown env ph t s).refs = (releaseRoutes env ph .link t.id i t.metric t.cidrs s).refs := by
      rw [takenDown,found]
    have routes {key : RouteKey} (inRange : Fits key.2) : (takenDown env ph t s).kernel.routes (kernelKey key) =
        (releaseRoutes env ph .link t.id i t.metric t.cidrs s).kernel.routes (kernelKey key) := by
      rw [takenDown,found]
      exact if_neg (clear inRange)
    refine ⟨?_,fun u isUp => tracks.valid u isUp.1,fun key o => ?_,?_,?_⟩
    · intro u isUp
      rw [lookup (elsewhere u isUp.1 isUp.2)]
      exact tracks.live u isUp.1
    · rw [refs,released.owner,wired]
      constructor
      · rintro ⟨u,isUp,keyed,same,index⟩
        exact ⟨u,isUp,keyed,same,by rw [lookup (elsewhere u isUp.1 isUp.2),index]⟩
      · rintro ⟨u,isUp,keyed,same,index⟩
        exact ⟨u,isUp,keyed,same,by rw [← lookup (elsewhere u isUp.1 isUp.2),index]⟩
    · intro key inRange owned
      rw [refs] at owned
      rw [routes inRange]
      exact released.matched.covered key inRange owned
    · intro key j inRange via
      rw [routes inRange] at via
      rw [refs]
      refine (released.matched.sound key j inRange via).imp_right ?_
      rintro ⟨u,isPending,keyed,index⟩
      have other : u.interfaceName ≠ t.interfaceName := by
        intro clash
        rw [wired,clash,found] at index
        exact clear inRange (index ▸ via)
      exact ⟨u,⟨isPending,other⟩,keyed,by rw [lookup other,← wired,index]⟩

theorem claimedLookup (id : String) (i : Nat) (metric : Int) (cidrs : List String) (u : State) :
    (cidrs.foldl (claimOne id i metric) u).kernel.lookup = u.kernel.lookup := by
  induction cidrs generalizing u with
  | nil => rfl
  | cons cidr rest ih =>
    rw [List.foldl_cons,ih]
    simp only [claimOne]
    split <;> rfl

theorem claimedTracks {i : Nat} (tracks : Tracks up pending s) (fits : Fits t.metric) (valid : ValidRoutes t)
    (absent : ∀ u, up u → u.id ≠ t.id) (found : s.kernel.lookup t.interfaceName = some i) :
    Tracks (fun u => up u ∨ u = t) pending (t.cidrs.foldl (claimOne t.id i t.metric) s) := by
  have lookup := claimedLookup t.id i t.metric t.cidrs s
  have unowned : ∀ key, ∀ o ∈ s.refs.ownersOf key, o.tunnelID ≠ t.id := by
    intro key o member mine
    obtain ⟨u,isUp,_,same,_⟩ := (tracks.owner key o).mp member
    exact absent u isUp (same.symm.trans mine)
  refine ⟨?_,?_,fun key o => ?_,?_⟩
  · rintro u (isUp | rfl)
    · rw [lookup]
      exact tracks.live u isUp
    · rw [lookup,found]
      simp
  · rintro u (isUp | rfl)
    · exact tracks.valid u isUp
    · exact valid
  · rw [claimedOwners,lookup,tracks.owner]
    constructor
    · rintro (⟨keyed,rfl⟩ | ⟨⟨u,isUp,rest⟩,_⟩)
      · exact ⟨t,.inr rfl,keyed,rfl,found⟩
      · exact ⟨u,.inl isUp,rest⟩
    · rintro ⟨u,isUp | rfl,keyed,same,index⟩
      · exact .inr ⟨⟨u,isUp,keyed,same,index⟩,fun clash => absent u isUp (same.symm.trans clash.2)⟩
      · refine .inl ⟨keyed,?_⟩
        rw [found] at index
        obtain ⟨tunnelID,ifIndex⟩ := o
        cases index
        exact congrArg (fun x => RouteOwner.mk x ifIndex) same
  · rw [lookup]
    exact claimedMatched fits (fun key o member mine => absurd mine (unowned key o member)) tracks.matched

theorem openedTracks {i : Nat} {u : State} (tracks : Tracks up pending s) (opened : Opened t.interfaceName i s u)
    (apart : ∀ x, up x ∨ pending x → Apart t x) : Tracks up pending u := by
  have lookup (x : TunnelConfig) (known : up x ∨ pending x) :
      u.kernel.lookup x.interfaceName = s.kernel.lookup x.interfaceName := by
    rw [opened.lookup,if_neg (apart x known).2]
  refine ⟨?_,tracks.valid,fun key o => ?_,?_⟩
  · intro x isUp
    rw [lookup x (.inl isUp)]
    exact tracks.live x isUp
  · rw [opened.refs,tracks.owner]
    constructor
    · rintro ⟨x,isUp,keyed,same,index⟩
      exact ⟨x,isUp,keyed,same,by rw [lookup x (.inl isUp),index]⟩
    · rintro ⟨x,isUp,keyed,same,index⟩
      exact ⟨x,isUp,keyed,same,by rw [← lookup x (.inl isUp),index]⟩
  · rw [opened.refs,opened.routes]
    refine matchedMono tracks.matched (fun key j _ _ => ?_)
    rintro ⟨x,isPending,keyed,index⟩
    exact ⟨x,isPending,keyed,by rw [lookup x (.inr isPending),index]⟩

theorem tracksSame {u : State} (tracks : Tracks up pending s) (lookup : u.kernel.lookup = s.kernel.lookup)
    (owners : ∀ key o, o ∈ u.refs.ownersOf key ↔ o ∈ s.refs.ownersOf key)
    (routes : ∀ key, Fits key.2 → u.kernel.routes (kernelKey key) = s.kernel.routes (kernelKey key)) : Tracks up pending u := by
  refine ⟨?_,tracks.valid,fun key o => ?_,?_,?_⟩
  · rw [lookup]
    exact tracks.live
  · rw [owners,lookup]
    exact tracks.owner key o
  · intro key inRange owned
    obtain ⟨o,member⟩ := List.exists_mem_of_ne_nil _ owned
    rw [routes key inRange]
    exact tracks.matched.covered key inRange (List.ne_nil_of_mem ((owners key o).mp member))
  · intro key i inRange via
    rw [routes key inRange] at via
    rw [lookup]
    refine (tracks.matched.sound key i inRange via).imp_left ?_
    rintro ⟨o,member,index⟩
    exact ⟨o,(owners key o).mpr member,index⟩

theorem freshUnrouted {i : Nat} (tracks : Tracks up pending s) (fresh : ∀ n, s.kernel.lookup n ≠ some i) {key : RouteKey}
    (inRange : Fits key.2) : s.kernel.routes (kernelKey key) ≠ some i := by
  intro via
  rcases tracks.matched.sound key i inRange via with ⟨o,member,rfl⟩ | ⟨u,_,_,index⟩
  · obtain ⟨u,_,_,_,index⟩ := (tracks.owner key o).mp member
    exact fresh _ index
  · exact fresh _ index

theorem bringUpTracks (willing : KernelWilling env) (tracks : Tracks up pending s) (fits : Fits t.metric)
    (related : ∀ u, up u ∨ pending u → Covers t u ∨ Apart t u) (config : Configurable env t) (key : String) :
    ∃ u, bringUp env ph t key s = (none,u) ∧
      Tracks (fun u => (up u ∧ u.id ≠ t.id) ∨ u = t) (fun u => pending u ∧ u.interfaceName ≠ t.interfaceName) u := by
  have down := @takenDownTracks env ph t up pending s willing tracks fits related (.inl config.routes)
  have apart : ∀ x, (up x ∧ x.id ≠ t.id) ∨ (pending x ∧ x.interfaceName ≠ t.interfaceName) → Apart t x := by
    rintro x (⟨isUp,foreign⟩ | ⟨isPending,other⟩)
    · exact (related x (.inl isUp)).resolve_left (fun covered => foreign covered.1)
    · exact (related x (.inr isPending)).resolve_left (fun covered => other covered.2.1)
  obtain ⟨i,u,opened,ok,_⟩ := @bringUpRun env ph t willing key s
  refine ⟨_,ok config,claimedTracks (openedTracks down opened apart) fits config.routes (fun x isUp => isUp.2) ?_⟩
  rw [opened.lookup,if_pos rfl]

theorem bringUpRefused (willing : KernelWilling env) (bad : ¬ Configurable env t) (key : String) :
    ∃ e u, bringUp env ph t key s = (some e,u) ∧ u.kernel.lookup t.interfaceName = none ∧
      (∀ n, n ≠ t.interfaceName → u.kernel.lookup n = s.kernel.lookup n) ∧
      (Tracks up pending s → Fits t.metric → (∀ x, up x ∨ pending x → Apart t x) → Tracks up pending u) := by
  obtain ⟨i,w,opened,_,refused⟩ := @bringUpRun env ph t willing key s
  obtain ⟨e,v,ran,same,grown,owners⟩ := refused bad
  have here : v.kernel.lookup t.interfaceName = some i := by rw [same,opened.lookup,if_pos rfl]
  have gone : (v.kernel.deleteLink i).lookup t.interfaceName = none := Kernel.lookupNone.mpr (Kernel.findDeleteSelf here)
  have others (n : String) (other : n ≠ t.interfaceName) : (v.kernel.deleteLink i).lookup n = (takenDown env ph t s).kernel.lookup n := by
    have elsewhere : v.kernel.lookup n ≠ some i := fun clash => other (Kernel.lookupInj clash here)
    rw [Kernel.lookup,Kernel.findDeleteOther elsewhere,← Kernel.lookup,same,opened.lookup,if_neg other]
  have down (n : String) (other : n ≠ t.interfaceName) : (takenDown env ph t s).kernel.lookup n = s.kernel.lookup n := by
    simp only [Kernel.lookup,takenDownOther s other]
  refine ⟨e,_,ran,gone,fun n other => (others n other).trans (down n other),fun tracks fits apart => ?_⟩
  have lowered := @takenDownTracks env ph t up pending s willing tracks fits (fun x known => .inr (apart x known)) (.inr apart)
  have unowned : ∀ key, ∀ o ∈ w.refs.ownersOf key, o.tunnelID ≠ t.id := by
    intro key o member mine
    rw [opened.refs] at member
    obtain ⟨x,isUp,_,sameId,_⟩ := (lowered.owner key o).mp member
    exact isUp.2 (sameId.symm.trans mine)
  have back : Tracks (fun x => up x ∧ x.id ≠ t.id) (fun x => pending x ∧ x.interfaceName ≠ t.interfaceName)
      {v with kernel := v.kernel.deleteLink i} := by
    refine tracksSame lowered (funext fun n => ?_) ?_ ?_
    · by_cases other : n = t.interfaceName
      · rw [other,gone]
        exact (Kernel.lookupNone.mpr (takenDownSelf s)).symm
      · exact others n other
    · intro key o
      rw [← opened.refs]
      exact owners unowned key o
    · intro key inRange
      have fresh := freshUnrouted lowered opened.fresh inRange
      simp only [Kernel.deleteLink]
      rcases grown (kernelKey key) with kept | ⟨absent,added⟩
      · rw [kept,opened.routes,if_neg fresh]
      · rw [added,if_pos rfl,← opened.routes,absent]
  refine ⟨fun x isUp => back.live x ⟨isUp,(apart x (.inl isUp)).1⟩,tracks.valid,fun key o => ?_,?_⟩
  · rw [back.owner]
    constructor
    · rintro ⟨x,isUp,rest⟩
      exact ⟨x,isUp.1,rest⟩
    · rintro ⟨x,isUp,rest⟩
      exact ⟨x,⟨isUp,(apart x (.inl isUp)).1⟩,rest⟩
  · refine matchedMono back.matched (fun key j _ _ => ?_)
    rintro ⟨x,isPending,rest⟩
    exact ⟨x,isPending.1,rest⟩

end
end VpnPack.Wgs2s
