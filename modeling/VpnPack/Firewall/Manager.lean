import VpnPack.Firewall.Subnets
import VpnPack.Ops
import VpnPack.State.Manifest
import VpnPack.Udapi.Sets

/-! FirewallManager for the site-to-site tunnels: chain rules and subnet ipsets in UDAPI
under the chain prefix the manifest records. What the host answers about its networks
and about the prefix of a zone may differ from call to call. -/
namespace VpnPack.Firewall
open Base Ops State Udapi

structure FwEnv where
  link : Link
  disk : Disk
  discover : Nat → String → String
  collect : Nat → String → Option SystemSubnets

structure Fw where
  udapi : Config
  store : Store
  clock : Nat

def Fw.manifest (f : Fw) : Manifest := f.store.manifest
def onUdapi (p : Proc Config) : Proc Fw := fun f => ((p f.udapi).1,{f with udapi := (p f.udapi).2})
def wgS2sMarker (iface : String) : String := "wg-s2s-manager:" ++ iface

theorem wgS2sMarkerText (iface : String) : (wgS2sMarker iface).toList = "wg-s2s-manager:".toList ++ iface.toList := String.toList_append

def zoneIPSetName (chainPrefix : String) : String := chainPrefix ++ "_subnets"

def DiscoverChainPrefix (env : FwEnv) (zoneID : String) (f : Fw) : String :=
  if zoneID = "" then "" else env.discover f.clock zoneID

-- A failing save is only logged, and the prefix is used all the same.
def rediscoverAndSaveWgS2s (env : FwEnv) (tunnelID : String) (zm : ZoneManifest) (current : String) (f : Fw) : String × Fw :=
  if DiscoverChainPrefix env zm.zoneID f = "" then (current,f)
  else
    (DiscoverChainPrefix env zm.zoneID f,
      {f with store := (update env.disk (Manifest.setWgS2sZone tunnelID
        {zm with chainPrefix := DiscoverChainPrefix env zm.zoneID f}) f.store).2})

def currentChainPrefix (env : FwEnv) (tunnelID : String) (f : Fw) : String × Fw :=
  if f.manifest.wgS2sChainPrefix tunnelID = defaultChainPrefix then
    match f.manifest.wgS2s.lookup tunnelID with
    | some zm =>
      if zm.zoneID ≠ "" then rediscoverAndSaveWgS2s env tunnelID zm (f.manifest.wgS2sChainPrefix tunnelID) f
      else (f.manifest.wgS2sChainPrefix tunnelID,f)
    | none => (f.manifest.wgS2sChainPrefix tunnelID,f)
  else (f.manifest.wgS2sChainPrefix tunnelID,f)

def filterBlockedAllowedIPs (env : FwEnv) (iface : String) (allowedIPs : List String) (f : Fw) : List String :=
  if allowedIPs.length = 0 then []
  else
    match env.collect f.clock iface with
    | none => allowedIPs
    | some sys =>
      allowedIPs.filter (fun cidr => !(ValidateAllowedIPs allowedIPs sys).blocked.any (fun conflict => conflict.cidr == cidr))

def installRules (env : FwEnv) (iface chainPrefix : String) : Op Fw :=
  ⟨"install wg-s2s chain rules",onUdapi (AddInterfaceRulesForZone env.link iface (wgS2sMarker iface) chainPrefix),
    onUdapi (RemoveInterfaceRules env.link (wgS2sMarker iface))⟩

def removeSubnets (env : FwEnv) (ipsetName : String) (cidrs : List String) : Proc Fw :=
  forEach (fun cidr => ignoring (onUdapi (RemoveZoneSubnet env.link ipsetName cidr))) cidrs

def fillIPSet (env : FwEnv) (ipsetName : String) (filtered : List String) : Op Fw :=
  ⟨"fill wg-s2s ipset",onUdapi (EnsureZoneSubnets env.link ipsetName filtered),removeSubnets env ipsetName filtered⟩

def setupSteps (env : FwEnv) (iface chainPrefix : String) (filtered : List String) : List (Op Fw) :=
  installRules env iface chainPrefix :: (if 0 < filtered.length then [fillIPSet env (zoneIPSetName chainPrefix) filtered] else [])

def SetupWgS2sFirewall (env : FwEnv) (ctx : Context) (tunnelID iface : String) (allowedIPs : List String) : Proc Fw := fun f =>
  let known := currentChainPrefix env tunnelID f
  run ctx (setupSteps env iface known.1 (filterBlockedAllowedIPs env iface allowedIPs f)) {known.2 with clock := f.clock+1}

def RemoveWgS2sIPSetEntries (env : FwEnv) (tunnelID : String) (cidrs : List String) : Proc Fw := fun f =>
  if f.manifest.wgS2sChainPrefix tunnelID = defaultChainPrefix ∨ cidrs.length = 0 then (none,f)
  else removeSubnets env (zoneIPSetName (f.manifest.wgS2sChainPrefix tunnelID)) cidrs f

def RemoveWgS2sFirewall (env : FwEnv) (tunnelID iface : String) (allowedIPs : List String) : Proc Fw :=
  seq (ignoring (onUdapi (RemoveInterfaceRules env.link (wgS2sMarker iface)))) (RemoveWgS2sIPSetEntries env tunnelID allowedIPs)

section
variable {env : FwEnv} {ctx : Context} {tunnelID iface : String} {allowedIPs : List String} {f g : Fw}

theorem onUdapiDone {p : Proc Config} (ran : onUdapi p f = (none,g)) :
    p f.udapi = (none,g.udapi) ∧ g.store = f.store ∧ g.clock = f.clock := by
  obtain ⟨returned,rfl⟩ := Prod.mk.inj ran
  exact ⟨Prod.ext returned rfl,rfl,rfl⟩

theorem prefixUdapi (env : FwEnv) (tunnelID : String) (f : Fw) : (currentChainPrefix env tunnelID f).2.udapi = f.udapi := by
  unfold currentChainPrefix rediscoverAndSaveWgS2s
  repeat' split
  all_goals rfl

theorem setupSource (ran : SetupWgS2sFirewall env ctx tunnelID iface allowedIPs f = (none,g)) :
    g.store = (currentChainPrefix env tunnelID f).2.store ∧
      ∃ u, AddInterfaceRulesForZone env.link iface (wgS2sMarker iface) (currentChainPrefix env tunnelID f).1 f.udapi = (none,u) ∧
        EnsureZoneSubnets env.link (zoneIPSetName (currentChainPrefix env tunnelID f).1)
          (filterBlockedAllowedIPs env iface allowedIPs f) u = (none,g.udapi) := by
  obtain ⟨t,first,rest⟩ := seqSource (runDone ran)
  obtain ⟨rules,store,_⟩ := onUdapiDone first
  rw [prefixUdapi] at rules
  split at rest
  · obtain ⟨v,filled,last⟩ := seqSource rest
    cases last
    obtain ⟨sets,same,_⟩ := onUdapiDone filled
    exact ⟨same.trans store,t.udapi,rules,sets⟩
  · rename_i empty
    cases rest
    refine ⟨store,g.udapi,rules,?_⟩
    rw [List.length_eq_zero_iff.mp (Nat.eq_zero_of_not_pos empty)]
    rfl

theorem prefixRecorded (kept : env.disk.reverts = false ∨ env.disk.fails f.store.saves = none) (store : g.store = (currentChainPrefix env tunnelID f).2.store) :
    g.manifest.wgS2sChainPrefix tunnelID = (currentChainPrefix env tunnelID f).1 := by
  rw [Fw.manifest,store]
  unfold currentChainPrefix
  split
  · split
    · split
      · unfold rediscoverAndSaveWgS2s
        split
        · rfl
        · rename_i found
          simp only [updateKept kept,Manifest.wgS2sChainPrefix,Manifest.setWgS2sZone,AList.lookup_insert,if_pos found]
      · rfl
    · rfl
  · rfl

end
end VpnPack.Firewall
