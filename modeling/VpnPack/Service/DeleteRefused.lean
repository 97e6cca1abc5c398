import VpnPack.Firewall.RuleZone
import VpnPack.Service.PortRuns

/-! A DeleteTunnel that the tunnel manager refuses. -/
namespace VpnPack.Service
open Base Firewall Integration List Ops State Udapi Wgs2s

section
variable {host : Host} {cfg : TunnelConfig} {id : String} {s : System}

theorem closeFrame (host : Host) (port : Int) (iface : String) (s : System) :
    (closeWanPort host port iface s).udapi = s.udapi ∧ (closeWanPort host port iface s).clock = s.clock ∧
      (closeWanPort host port iface s).manifest.wgS2s = s.manifest.wgS2s := by
  have entries_ : (CloseWanPort host.world host.fw.disk port (wanMarkerWgS2sPrefix ++ iface) s.wan).2.manifest.wgS2s = s.manifest.wgS2s := by
    have erased (w : Wan) : (saving host.fw.disk (Manifest.removeWanPort (wanMarkerWgS2sPrefix ++ iface)) w).2.manifest.wgS2s =
        w.manifest.wgS2s := by
      rcases (savingSource host.fw.disk (Manifest.removeWanPort (wanMarkerWgS2sPrefix ++ iface)) w).2 with changed | kept
      · rw [changed]
        rfl
      · rw [kept]
    simp only [CloseWanPort]
    split
    · rfl
    split
    · rfl
    split
    · split
      · exact erased _
      · rfl
    · exact erased _
  unfold closeWanPort noting
  split
  · exact ⟨rfl,rfl,rfl⟩
  · split <;> exact ⟨rfl,rfl,entries_⟩

theorem openUdapi (host : Host) (port : Int) (iface : String) (s : System) : (openWanPort host port iface s).udapi = s.udapi := by
  unfold openWanPort noting
  split <;> rfl

theorem notingUdapi (r : Option GoError × System) : (noting r).udapi = r.2.udapi := by
  unfold noting
  split <;> rfl

theorem removeEntriesRules {env : FwEnv} (answering : Answering env.link) (tunnelID : String) (cidrs : List String) (f : Fw) :
    (RemoveWgS2sIPSetEntries env tunnelID cidrs f).2.udapi.rules = f.udapi.rules := by
  have each : ∀ cidr ∈ cidrs, Keeps (fun g : Fw => g.udapi.rules) (ignoring (onUdapi (RemoveZoneSubnet env.link
      (zoneIPSetName (f.manifest.wgS2sChainPrefix tunnelID)) cidr))) := fun cidr _ g =>
    (removeSubnetSource (Prod.ext (removeSubnetAnswered answering _ cidr g.udapi) rfl)).rules
  unfold RemoveWgS2sIPSetEntries
  split
  · rfl
  · exact keepsForEach each f

theorem removedFirewall {env : FwEnv} (answering : Answering env.link) (tunnelID iface : String) (allowedIPs : List String) (f : Fw) (chain : Chain) :
    Marked (wgS2sMarker iface) ((RemoveWgS2sFirewall env tunnelID iface allowedIPs f).2.udapi.rules chain) = [] := by
  have ran : RemoveInterfaceRules env.link (wgS2sMarker iface) f.udapi = (none,_) :=
    Prod.ext (removeInterfaceAnswered answering (wgS2sMarker iface) f.udapi) rfl
  have rules : (RemoveWgS2sFirewall env tunnelID iface allowedIPs f).2.udapi.rules chain = unmarked (wgS2sMarker iface) (f.udapi.rules chain) := by
    change (RemoveWgS2sIPSetEntries env tunnelID allowedIPs (onUdapi (RemoveInterfaceRules env.link (wgS2sMarker iface)) f).2).2.udapi.rules chain = _
    rw [removeEntriesRules answering]
    exact (removeInterfaceSource ran).2 chain
  rw [rules]
  exact unmarkedNone _ _

theorem tornDownUdapi (host : Host) (cfg : TunnelConfig) (id : String) (s : System) :
    (tornDown host cfg id s).udapi = (RemoveWgS2sFirewall host.fw cfg.id cfg.interfaceName cfg.cidrs s.fw).2.udapi :=
  (closeFrame host cfg.listenPort cfg.interfaceName (RemoveFirewall host cfg.id cfg.interfaceName cfg.cidrs s)).1

theorem removeSubnetsClock (env : FwEnv) (ipsetName : String) (cidrs : List String) : Keeps Fw.clock (removeSubnets env ipsetName cidrs) :=
  keepsForEach (fun _ _ => keepsIgnoring (fun _ => rfl))

theorem tornDownClock (host : Host) (cfg : TunnelConfig) (id : String) (s : System) : (tornDown host cfg id s).clock = s.clock := by
  have removed : Keeps Fw.clock (RemoveWgS2sFirewall host.fw cfg.id cfg.interfaceName cfg.cidrs) := by
    refine keepsSeq (keepsIgnoring (fun _ => rfl)) (fun f => ?_)
    unfold RemoveWgS2sIPSetEntries
    split
    · rfl
    · exact removeSubnetsClock _ _ _ f
  exact (closeFrame host cfg.listenPort cfg.interfaceName (RemoveFirewall host cfg.id cfg.interfaceName cfg.cidrs s)).2.1.trans (removed s.fw)

theorem tornDownEntry (saved : ∀ n, host.fw.disk.fails n = none) (cfg : TunnelConfig) (id : String) (s : System) :
    (tornDown host cfg id s).manifest.wgS2s.lookup id = none := by
  have torn := @teardownSource host.backend host.fw.disk (teardownTunnelFirewall host cfg s).orch id
  have forgot : (forgotten host.fw.disk id (teardownTunnelFirewall host cfg s).orch).manifest.wgS2s.lookup id = none := by
    rw [forgotten,Orch.manifest,recording,updateKept (.inr (saved _))]
    exact AList.lookup_erase ..
  change (TeardownWgS2sZone host.backend host.fw.disk id (teardownTunnelFirewall host cfg s).orch).manifest.wgS2s.lookup id = none
  generalize TeardownWgS2sZone host.backend host.fw.disk id (teardownTunnelFirewall host cfg s).orch = o at torn ⊢
  cases torn with
  | absent missing => exact missing
  | blank _ _ | shared _ _ _ | off _ => exact forgot
  | deleted found named ready alone =>
    rw [Orch.manifest,(rollbackSource host.backend _ _ _).1]
    exact forgot

end

theorem targetDefault {chainPrefix : String} {chain : Chain} (same : Chain.forwardIn.target defaultChainPrefix = chain.target chainPrefix) :
    chainPrefix = defaultChainPrefix := by
  have texts := congrArg String.toList same
  cases chain with
  | forwardIn =>
    simp only [Chain.target,String.toList_append] at texts
    exact String.toList_inj.mp (append_cancel_right texts).symm
  | input =>
    have lasts := congrArg List.getLast? texts
    simp [Chain.target,defaultChainPrefix] at lasts
  | output =>
    have heads := congrArg List.head? texts
    simp [Chain.target,defaultChainPrefix] at heads

structure InZone (chainPrefix : String) (cfg : TunnelConfig) (s : System) : Prop where
  rules : ∀ chain, ∀ r ∈ Marked (wgS2sMarker cfg.interfaceName) (s.udapi.rules chain), ∃ other : Chain, r.target = other.target chainPrefix
  networks : ∀ cidr ∈ cfg.cidrs, cidr ∈ entries s.udapi (zoneIPSetName chainPrefix)

structure Refused (host : Host) (ctx : Context) (wg : WireGuard) (id : String) (cfg : TunnelConfig) (s : System) : Prop where
  found : findTunnelByID id s = some cfg
  enabled : cfg.enabled = true
  shared : ∃ other zm entry, other ≠ id ∧ s.manifest.wgS2s.lookup id = some zm ∧ s.manifest.wgS2s.lookup other = some entry ∧
    entry.zoneID = zm.zoneID
  follows : Follows id cfg.interfaceName s.fw
  live : LiveUntil ctx 5
  refused : (wg.delete id s.wg).1 ≠ none
  answering : Answering host.fw.link
  replies : ∀ n, host.backend.replies n = .ok
  saved : ∀ n, host.fw.disk.fails n = none
  quiet : (DeleteTunnel host ctx wg id s).2.warned = s.warned

section
variable {host : Host} {ctx : Context} {wg : WireGuard} {id : String} {cfg : TunnelConfig} {s : System}

theorem refusedSetup (refused : Refused host ctx wg id cfg s) :
    ∃ f g, SetupWgS2sFirewall host.fw (laterContext ctx) cfg.id cfg.interfaceName cfg.cidrs f = (none,g) ∧
      f.udapi = (RemoveWgS2sFirewall host.fw cfg.id cfg.interfaceName cfg.cidrs s.fw).2.udapi ∧ f.clock = s.clock ∧
      f.manifest.wgS2s.lookup cfg.id = none ∧ (DeleteTunnel host ctx wg id s).2.udapi = g.udapi := by
  obtain ⟨idx,place,_⟩ := foundTunnel refused.found
  have own : cfg.id = id := (findTunnelSource place).2
  have quiet := refused.quiet
  have ends := deleteEnds host ctx wg cfg id s
  rw [deleteSame host ctx wg cfg id s refused.found] at quiet ⊢
  generalize run ctx (deleteSteps host ctx wg cfg id) s = r at ends quiet ⊢
  cases ends with
  | untouched gone =>
    have live := refused.live 0 (by omega)
    rw [gone] at live
    contradiction
  | cancelled inside gone log =>
    rcases inside with early | ⟨_,deleted⟩
    · have live := refused.live _ early
      rw [gone] at live
      contradiction
    · exact absurd deleted refused.refused
  | done live deleted => exact absurd deleted refused.refused
  | refused live failed =>
    generalize (wg.delete id s.wg).2 = w at quiet ⊢
    have down := (tornDownWg host cfg id s).2
    have installed := (installWg host (laterContext ctx) cfg {tornDown host cfg id s with wg := w}).2
    have setup := setupQuiet (quietBetween down installed quiet).2
    refine ⟨({tornDown host cfg id s with wg := w} : System).fw,_,Prod.ext setup rfl,tornDownUdapi host cfg id s,
      tornDownClock host cfg id s,own ▸ tornDownEntry refused.saved cfg id s,?_⟩
    exact (openUdapi host _ _ _).trans (notingUdapi _)

theorem refusedUdapi (refused : Refused host ctx wg id cfg s) :
    (∀ chain, ∃ r, Marked (wgS2sMarker cfg.interfaceName) ((DeleteTunnel host ctx wg id s).2.udapi.rules chain) = [r] ∧
      r.target = chain.target defaultChainPrefix) ∧
    ∀ cidr, cidr ∈ entries (DeleteTunnel host ctx wg id s).2.udapi (zoneIPSetName defaultChainPrefix) ↔
      cidr ∈ entries (RemoveWgS2sFirewall host.fw cfg.id cfg.interfaceName cfg.cidrs s.fw).2.udapi (zoneIPSetName defaultChainPrefix) ∨
        cidr ∈ filterBlockedAllowedIPs host.fw cfg.interfaceName cfg.cidrs s.fw := by
  obtain ⟨f,g,ran,udapi,clock,missing,final⟩ := refusedSetup refused
  have default : f.manifest.wgS2sChainPrefix cfg.id = defaultChainPrefix := by simp only [Manifest.wgS2sChainPrefix,missing]
  have used : (currentChainPrefix host.fw cfg.id f).1 = defaultChainPrefix := by
    simp only [currentChainPrefix,default,if_true,missing]
  have filtered : filterBlockedAllowedIPs host.fw cfg.interfaceName cfg.cidrs f =
      filterBlockedAllowedIPs host.fw cfg.interfaceName cfg.cidrs s.fw := by
    simp only [filterBlockedAllowedIPs,clock]
    rfl
  have plain : Plain (wgS2sMarker cfg.interfaceName) := by
    obtain ⟨r,one,_⟩ := refused.follows .forwardIn
    by_contra unplain
    rw [unplainMarked unplain] at one
    contradiction
  obtain ⟨_,v,added,sets⟩ := setupSource ran
  rw [used,filtered] at sets
  rw [used,udapi] at added
  obtain ⟨sameSets,installed⟩ := addInterfaceSource added
  have rules : g.udapi.rules = v.rules := by
    rcases ensureSubnetsSource sets with ⟨_,same⟩ | ⟨_,_,set⟩
    · rw [same]
    · exact set.rules
  constructor
  · intro chain
    rw [final,rules]
    exact (installedMarked plain (installed chain)).mpr (.inl (removedFirewall refused.answering _ _ _ _ chain))
  · intro cidr
    rw [final,(filled sets).here]
    simp only [entries,sameSets,not_mem_nil,not_false_eq_true,and_true]

end

theorem refusedKeepsZone {host : Host} {ctx : Context} {wg : WireGuard} {id chainPrefix : String} {cfg : TunnelConfig} {s : System}
    (refused : Refused host ctx wg id cfg s) (used : s.manifest.wgS2sChainPrefix id = chainPrefix) :
    InZone chainPrefix cfg (DeleteTunnel host ctx wg id s).2 ↔ chainPrefix = defaultChainPrefix ∧
      ∀ cidr ∈ cfg.cidrs, cidr ∈ entries s.udapi (zoneIPSetName chainPrefix) ∨
        cidr ∈ filterBlockedAllowedIPs host.fw cfg.interfaceName cfg.cidrs s.fw := by
  obtain ⟨idx,place,_⟩ := foundTunnel refused.found
  have own : cfg.id = id := (findTunnelSource place).2
  obtain ⟨rules,networks⟩ := refusedUdapi refused
  by_cases default : chainPrefix = defaultChainPrefix
  · subst default
    have taken := @removeChanged host.fw cfg.id cfg.interfaceName cfg.cidrs refused.answering s.fw _ (own.symm ▸ used)
    have kept (cidr : String) : cidr ∈ entries (DeleteTunnel host ctx wg id s).2.udapi (zoneIPSetName defaultChainPrefix) ↔
        cidr ∈ entries s.udapi (zoneIPSetName defaultChainPrefix) ∨ cidr ∈ filterBlockedAllowedIPs host.fw cfg.interfaceName cfg.cidrs s.fw := by
      rw [networks,taken.here]
      simp only [if_true,not_mem_nil,not_false_eq_true,and_true,or_false]
      rfl
    constructor
    · intro inside
      exact ⟨rfl,fun cidr own => (kept cidr).mp (inside.networks cidr own)⟩
    · intro both
      refine ⟨fun chain r marked => ?_,fun cidr own => (kept cidr).mpr (both.2 cidr own)⟩
      obtain ⟨only,one,target⟩ := rules chain
      rw [one,mem_singleton] at marked
      exact ⟨chain,marked ▸ target⟩
  · refine iff_of_false (fun inside => ?_) (fun both => default both.1)
    obtain ⟨r,one,target⟩ := rules .forwardIn
    obtain ⟨other,same⟩ := inside.rules .forwardIn r (one ▸ mem_singleton_self r)
    exact default (targetDefault (target.symm.trans same))

def enabledBranch : TunnelConfig := {branchTunnel with id := "t1", enabled := true}
def enabledDepot : TunnelConfig := {enabledBranch with id := "t2", name := "depot", interfaceName := "wg-s2s1", listenPort := 51821}

def sharedManifest (chainPrefix : String) : Manifest :=
  {bareManifest with wgS2s := (AList.singleton "t2" ⟨"z1","VPN Pack: A",[],chainPrefix⟩).insert "t1" ⟨"z1","VPN Pack: A",[],chainPrefix⟩}

def branchRule (chainPrefix : String) (chain : Udapi.Chain) : Rule :=
  ⟨1,chain.target chainPrefix,"branch (wg-s2s-manager:wg-s2s0)",.inInterface,"wg-s2s0"⟩

def sharedSystem (chainPrefix : String) : System :=
  {vacantSystem with
    wg := {vacant with config := [enabledBranch,enabledDepot]}
    store := ⟨sharedManifest chainPrefix,0⟩
    udapi := ⟨fun chain => [branchRule chainPrefix chain],2,
      (AList.singleton "VPN_subnets" ["192.168.7.0/24"]).insert "CUSTOM1_subnets" ["192.168.7.0/24"],0⟩}

theorem sharedRefused {chainPrefix : String} (used : (sharedManifest chainPrefix).wgS2sChainPrefix "t1" = chainPrefix)
    (quiet : (DeleteTunnel quietHost background busyManager "t1" (sharedSystem chainPrefix)).2.warned = []) :
    Refused quietHost background busyManager "t1" enabledBranch (sharedSystem chainPrefix) where
  found := by
    change (findTunnel "t1" [enabledBranch,enabledDepot]).map Prod.snd = _
    decide +kernel
  enabled := rfl
  shared := by
    refine ⟨"t2",⟨"z1","VPN Pack: A",[],chainPrefix⟩,⟨"z1","VPN Pack: A",[],chainPrefix⟩,by decide,AList.lookup_insert _,?_,rfl⟩
    exact (AList.lookup_insert_ne (by decide)).trans (dlookup_cons_eq [] "t2" _)
  follows := fun chain => by
    have marked : (branchRule chainPrefix chain).marker = wgS2sMarker "wg-s2s0" := by
      change markerFromDescription "branch (wg-s2s-manager:wg-s2s0)" = _
      decide +kernel
    refine ⟨branchRule chainPrefix chain,?_,?_⟩
    · exact filter_cons_of_pos (by simp [marked,enabledBranch,branchTunnel])
    · exact (congrArg chain.target used).symm
  live := fun _ _ => rfl
  refused := Option.some_ne_none _
  answering := fun _ => rfl
  replies := fun _ => rfl
  saved := fun _ => rfl
  quiet := quiet

theorem refusedKeepsZoneVpn : InZone "VPN" enabledBranch (DeleteTunnel quietHost background busyManager "t1" (sharedSystem "VPN")).2 := by
  have used : (sharedManifest "VPN").wgS2sChainPrefix "t1" = "VPN" := by decide +kernel
  have quiet : (DeleteTunnel quietHost background busyManager "t1" (sharedSystem "VPN")).2.warned = [] := by decide +kernel
  exact (refusedKeepsZone (sharedRefused used quiet) used).mpr ⟨rfl,by decide +kernel⟩

theorem refusedLeavesZone : Refused quietHost background busyManager "t1" enabledBranch (sharedSystem "CUSTOM1") ∧
      (sharedManifest "CUSTOM1").wgS2sChainPrefix "t1" = "CUSTOM1" ∧
      Chain.all.map (fun chain => ((DeleteTunnel quietHost background busyManager "t1" (sharedSystem "CUSTOM1")).2.udapi.rules chain).map
        Rule.target) = [["VPN_IN"],["VPN_LOCAL"],["LOCAL_VPN"]] ∧
      entries (DeleteTunnel quietHost background busyManager "t1" (sharedSystem "CUSTOM1")).2.udapi "CUSTOM1_subnets" = [] ∧
      ¬ InZone "CUSTOM1" enabledBranch (DeleteTunnel quietHost background busyManager "t1" (sharedSystem "CUSTOM1")).2 := by
  have used : (sharedManifest "CUSTOM1").wgS2sChainPrefix "t1" = "CUSTOM1" := by decide +kernel
  have quiet : (DeleteTunnel quietHost background busyManager "t1" (sharedSystem "CUSTOM1")).2.warned = [] := by decide +kernel
  have emptied : entries (DeleteTunnel quietHost background busyManager "t1" (sharedSystem "CUSTOM1")).2.udapi "CUSTOM1_subnets" = [] := by
    decide +kernel
  refine ⟨sharedRefused used quiet,used,by decide +kernel,emptied,fun inside => ?_⟩
  have back : "192.168.7.0/24" ∈ entries (DeleteTunnel quietHost background busyManager "t1" (sharedSystem "CUSTOM1")).2.udapi
      (zoneIPSetName "CUSTOM1") := inside.networks _ (by decide +kernel)
  have name : zoneIPSetName "CUSTOM1" = "CUSTOM1_subnets" := by decide +kernel
  rw [name,emptied] at back
  contradiction

end VpnPack.Service
