import Mathlib.Logic.Function.Basic
import VpnPack.Service.TunnelFrame
import VpnPack.Wgs2s.RouteRuns

/-! The WAN ports of the tunnels over runs of WgS2sService: a table of ports by interface name,
and the tunnel list it has to follow. A run is looked at only while every call of the
firewall succeeds, which shows in the log. -/
namespace VpnPack.Service
open Base Firewall Integration List Ops State Wgs2s
open Function (update update_of_ne update_self update_apply)

def wantedPort (t : TunnelConfig) : Option Int := if t.enabled then some t.listenPort else none

structure FollowedBy (tunnels : List TunnelConfig) (table : String → Option Int) : Prop where
  own : ∀ t ∈ tunnels, table t.interfaceName = wantedPort t
  strays : ∀ iface, iface ∉ tunnels.map TunnelConfig.interfaceName → table iface = none

section
variable {tunnels before rest : List TunnelConfig} {table : String → Option Int} {cfg other : TunnelConfig} {idx : Nat}

theorem followedAppend (followed : FollowedBy tunnels table) (unused : cfg.interfaceName ∉ tunnels.map TunnelConfig.interfaceName) :
    FollowedBy (tunnels ++ [cfg]) (update table cfg.interfaceName (wantedPort cfg)) := by
  constructor
  · intro t member
    rcases mem_append.mp member with old | new
    · have differs : t.interfaceName ≠ cfg.interfaceName := fun same => unused (same ▸ mem_map_of_mem old)
      rw [update_of_ne differs]
      exact followed.own t old
    · cases mem_singleton.mp new
      exact update_self ..
  · intro iface outside
    rw [map_append,mem_append,not_or,map_singleton,mem_singleton] at outside
    rw [update_of_ne outside.2]
    exact followed.strays iface outside.1

theorem namesAround (names : ((before ++ cfg :: rest).map TunnelConfig.interfaceName).Nodup) :
    ∀ t ∈ before ++ rest, t.interfaceName ≠ cfg.interfaceName := by
  rw [map_append,map_cons,nodup_append,nodup_cons] at names
  intro t member
  rcases mem_append.mp member with left | right
  · exact names.2.2 _ (mem_map_of_mem left) _ mem_cons_self
  · exact fun same => names.2.1.1 (same ▸ mem_map_of_mem right)

section
variable (followed : FollowedBy tunnels table) (names : (tunnels.map TunnelConfig.interfaceName).Nodup) (here : tunnels[idx]? = some cfg)
include followed names here

theorem followedSet (named : other.interfaceName = cfg.interfaceName) :
    FollowedBy (tunnels.set idx other) (update table cfg.interfaceName (wantedPort other)) := by
  obtain ⟨before,rest,shape,replaced,_⟩ := splitHere here other
  rw [replaced]
  rw [shape] at followed names
  have around := namesAround names
  constructor
  · intro t member
    by_cases same : t = other
    · rw [same,named]
      exact update_self ..
    · have aside : t ∈ before ++ rest := by
        simp only [mem_append,mem_cons,same,false_or] at member ⊢
        exact member
      rw [update_of_ne (around t aside)]
      refine followed.own t ?_
      simp only [mem_append,mem_cons] at aside ⊢
      exact aside.imp_right .inr
  · intro iface outside
    rw [map_append,map_cons,named] at outside
    have differs : iface ≠ cfg.interfaceName := fun same => outside (by simp [same])
    rw [update_of_ne differs]
    exact followed.strays iface (by rw [map_append,map_cons]; exact outside)

theorem followedErase : FollowedBy (tunnels.eraseIdx idx) (update table cfg.interfaceName none) := by
  obtain ⟨before,rest,shape,_,erased⟩ := splitHere here cfg
  rw [erased]
  rw [shape] at followed names
  have around := namesAround names
  constructor
  · intro t member
    rw [update_of_ne (around t member)]
    refine followed.own t ?_
    simp only [mem_append,mem_cons] at member ⊢
    exact member.imp_right .inr
  · intro iface outside
    by_cases same : iface = cfg.interfaceName
    · rw [same,update_self]
    · rw [update_of_ne same]
      refine followed.strays iface (fun inside => outside ?_)
      simp only [map_append,map_cons,mem_append,mem_cons,same,false_or] at inside ⊢
      exact inside

end

end

def portEntry (s : System) (iface : String) : Option WanPortEntry := s.ports.lookup (wanMarkerWgS2sPrefix ++ iface)
def portTable (s : System) : String → Option Int := fun iface => (portEntry s iface).map WanPortEntry.port
def PortsFollow (s : System) : Prop := FollowedBy s.tunnels (portTable s)
def PortTexts (s : System) : Prop := ∀ iface e, portEntry s iface = some e → e.policyID ≠ ""

section
variable {host : Host} {ctx : Context} {port : Int} {iface : String} {s t : System}

theorem asideTable (aside : Aside s t) : portTable t = portTable s ∧ (PortTexts s → PortTexts t) := by
  have same : portEntry t = portEntry s := by
    funext name
    rw [portEntry,aside.ports]
    rfl
  refine ⟨?_,fun texts => by simpa only [PortTexts,same] using texts⟩
  funext name
  simp only [portTable,same]

theorem policyIDEntry (texts : PortTexts s) : s.manifest.wanPortPolicyID (wanMarkerWgS2sPrefix ++ iface) = "" ↔ portEntry s iface = none := by
  have unfolded : s.manifest.wanPortPolicyID (wanMarkerWgS2sPrefix ++ iface) = ((portEntry s iface).map WanPortEntry.policyID).getD "" := by
    simp only [Manifest.wanPortPolicyID,portEntry,System.ports]
    split <;> rename_i found <;> rw [found] <;> rfl
  rw [unfolded]
  cases found : portEntry s iface with
  | none => simp
  | some e => simpa using texts iface e found

theorem markerOther {other : String} (differs : other ≠ iface) : wanMarkerWgS2sPrefix ++ other ≠ wanMarkerWgS2sPrefix ++ iface :=
  fun same => differs (String.append_right_inj _ |>.mp same)

theorem onWanQuiet {p : Proc Wan} (quiet : (noting (onWan p s)).warned = s.warned) :
    ∃ w, p s.wan = (none,w) ∧ noting (onWan p s) = s.withWan w := by
  obtain ⟨returned,final⟩ := notingQuiet quiet
  exact ⟨(p s.wan).2,Prod.ext returned rfl,final⟩

theorem openTable (texts : PortTexts s) (quiet : (openWanPort host port iface s).warned = s.warned) :
    PortTexts (openWanPort host port iface s) ∧
      portTable (openWanPort host port iface s) = update (portTable s) iface (some ((portTable s iface).getD port)) := by
  obtain ⟨w,ran,final⟩ := onWanQuiet quiet
  have ports : (openWanPort host port iface s).ports = w.manifest.wanPorts := by
    rw [openWanPort,final]
    rfl
  rcases openPorts ran with ⟨present,same⟩ | ⟨absent,e,text,entered,grown⟩
  · have kept : portEntry (openWanPort host port iface s) = portEntry s := by
      funext name
      rw [portEntry,ports,same]
      rfl
    refine ⟨by simpa only [PortTexts,kept] using texts,?_⟩
    have found : portEntry s iface ≠ none := fun missing => present ((policyIDEntry texts).mpr missing)
    obtain ⟨e,here⟩ := Option.ne_none_iff_exists'.mp found
    have own : portTable s iface = some e.port := by rw [portTable,here]; rfl
    have table : portTable (openWanPort host port iface s) = portTable s := by
      funext name
      simp only [portTable,kept]
    rw [table,own,Option.getD_some,← own,Function.update_eq_self]
  · have looked (name : String) : portEntry (openWanPort host port iface s) name = if name = iface then some e else portEntry s name := by
      rw [portEntry,ports,grown]
      split
      · rename_i same
        rw [same,AList.lookup_insert]
      · rename_i differs
        rw [AList.lookup_insert_ne (markerOther differs)]
        rfl
    have missing : portEntry s iface = none := (policyIDEntry texts).mp absent
    refine ⟨fun name entry here => ?_,?_⟩
    · rw [looked] at here
      split at here
      · cases here
        exact text
      · exact texts name entry here
    · funext name
      rw [portTable,looked,update_apply]
      split
      · rw [portTable,missing,Option.map_none,Option.getD_none,Option.map_some,entered]
      · rfl

theorem closeTable (texts : PortTexts s) (positive : 0 < port) (quiet : (closeWanPort host port iface s).warned = s.warned) :
    PortTexts (closeWanPort host port iface s) ∧ portTable (closeWanPort host port iface s) = update (portTable s) iface none := by
  have shape : closeWanPort host port iface s =
      noting (onWan (CloseWanPort host.world host.fw.disk port (wanMarkerWgS2sPrefix ++ iface)) s) := if_neg (by omega)
  rw [shape] at quiet ⊢
  obtain ⟨w,ran,final⟩ := onWanQuiet quiet
  have looked (name : String) : portEntry (noting (onWan (CloseWanPort host.world host.fw.disk port (wanMarkerWgS2sPrefix ++ iface)) s)) name =
      if name = iface then none else portEntry s name := by
    have ports : (noting (onWan (CloseWanPort host.world host.fw.disk port (wanMarkerWgS2sPrefix ++ iface)) s)).ports =
        w.manifest.wanPorts := by
      rw [final]
      rfl
    rw [portEntry,ports]
    rcases closePorts ran with ⟨absent,same⟩ | erased
    · rw [same]
      split
      · rename_i equal
        rw [equal]
        exact (policyIDEntry texts).mp absent
      · rfl
    · rw [erased]
      split
      · rename_i equal
        rw [equal,AList.lookup_erase]
      · rename_i differs
        rw [AList.lookup_erase_ne (markerOther differs)]
        rfl
  refine ⟨fun name entry here => ?_,?_⟩
  · rw [looked] at here
    split at here
    · contradiction
    · exact texts name entry here
  · funext name
    rw [portTable,looked,update_apply]
    split <;> rfl

theorem setupQuiet {cfg : TunnelConfig} (quiet : (installTunnelFirewall host ctx cfg s).2.warned = s.warned) :
    (SetupFirewall host ctx cfg.id cfg.interfaceName cfg.cidrs s).1 = none := by
  have setup := setupFirewallAside host ctx cfg.id cfg.interfaceName cfg.cidrs s
  have opened := (openWg host cfg.listenPort cfg.interfaceName (noting (SetupFirewall host ctx cfg.id cfg.interfaceName cfg.cidrs s))).2
  have noted := (quietBetween (notingAside setup).log opened quiet).1
  exact (notingQuiet (quietBetween setup.log (notingLog _) noted).2).1

theorem installTable {cfg : TunnelConfig} (texts : PortTexts s) (quiet : (installTunnelFirewall host ctx cfg s).2.warned = s.warned) :
    PortTexts (installTunnelFirewall host ctx cfg s).2 ∧ portTable (installTunnelFirewall host ctx cfg s).2 =
      update (portTable s) cfg.interfaceName (some ((portTable s cfg.interfaceName).getD cfg.listenPort)) := by
  have setup := notingAside (setupFirewallAside host ctx cfg.id cfg.interfaceName cfg.cidrs s)
  have opened := (openWg host cfg.listenPort cfg.interfaceName (noting (SetupFirewall host ctx cfg.id cfg.interfaceName cfg.cidrs s))).2
  obtain ⟨table,kept⟩ := asideTable setup
  rw [← table]
  exact openTable (kept texts) (quietBetween setup.log opened quiet).2

theorem teardownTable {cfg : TunnelConfig} (texts : PortTexts s) (positive : 0 < cfg.listenPort)
    (quiet : (teardownTunnelFirewall host cfg s).warned = s.warned) : PortTexts (teardownTunnelFirewall host cfg s) ∧
      portTable (teardownTunnelFirewall host cfg s) = update (portTable s) cfg.interfaceName none := by
  have removed := removeFirewallAside host cfg.id cfg.interfaceName cfg.cidrs s
  obtain ⟨table,kept⟩ := asideTable removed
  have after := closeTable (kept texts) positive (quiet.trans (quietBetween removed.log (closeWg host _ _ _).2 quiet).1.symm)
  rw [← table]
  exact after

end
end VpnPack.Service
