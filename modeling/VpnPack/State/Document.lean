import Mathlib.Data.Set.Defs
import VpnPack.Exit.Service
import VpnPack.State.Manifest

/-! state.Manifest as a whole: the part the firewall reads, the DNS entries and the part of the
exit nodes, with every mutator and every getter. A nil map or slice is the empty one. The
lock is not modelled, and saving ends in one of three ways: the old file stays, or the
new one is there, with or without an error. -/
namespace VpnPack.State
open Base

structure DNSPolicyEntry where
  policyID : String
  domain : String
  ipAddress : String
  deriving DecidableEq, Repr

-- Nanoseconds of UTC.
abbrev Time := Int

structure Document where
  version : Int
  createdAt : Time
  updatedAt : Time
  firewall : Manifest
  dnsPolicies : Dict DNSPolicyEntry
  exit : Exit.Manifest

def noZone : ZoneManifest := ⟨"","",[],""⟩
def NewManifest (now : Time) : Document := ⟨2,now,0,⟨"",noZone,∅,∅,"",""⟩,∅,⟨none,none,false⟩⟩

structure WgS2sZoneInfo where
  zoneID : String
  zoneName : String
  tunnelCount : Nat
  deriving DecidableEq, Repr

def countZone (infos : List WgS2sZoneInfo) (zm : ZoneManifest) : List WgS2sZoneInfo :=
  if zm.zoneID = "" then infos
  else if infos.any (fun info => info.zoneID == zm.zoneID) then
    infos.map (fun info => if info.zoneID = zm.zoneID then {info with tunnelCount := info.tunnelCount+1} else info)
  else infos ++ [⟨zm.zoneID,zm.zoneName,1⟩]

def GetWgS2sZones (order : List ZoneManifest) : List WgS2sZoneInfo := order.foldl countZone []

structure ExitView where
  mode : String
  clients : List Exit.ExitNodeClient
  deriving DecidableEq, Repr

def policyView (p : Exit.ExitNodePolicy) : ExitView := ⟨p.mode.text,p.clients⟩
def remoteView (r : Exit.RemoteExitNode) : String × ExitView := (r.peerID,⟨r.mode.text,r.clients⟩)

namespace Document

def GetExitNodePolicy (d : Document) : ExitView := policyView (d.exit.exitNodePolicy.getD ⟨.off,[]⟩)
def GetRemoteExitNode (d : Document) : Option (String × ExitView) := d.exit.remoteExitNode.map remoteView

end Document

/- The getters side by side. A range over a map may visit it in any order, so GetWgS2sZones
has a set of results; a snapshot is read by its keys. -/
structure Getters where
  siteID : String
  hasSiteID : Bool
  tailscaleZone : ZoneManifest
  tailscaleChainPrefix : String
  systemZoneIDs : String × String
  wgS2sZone : String → Option ZoneManifest
  wgS2sChainPrefix : String → String
  wgS2sZones : Set (List WgS2sZoneInfo)
  wanPortPolicyID : String → String
  wanPortEntry : String → Option WanPortEntry
  dnsPolicy : String → Option DNSPolicyEntry
  hasDNSPolicy : String → Bool
  exitNodePolicy : ExitView
  advertiseExitNodeEnabled : Bool
  remoteExitNode : Option (String × ExitView)

def values {α : Type} (entries : Dict α) : List α := entries.entries.map Sigma.snd

def getters (d : Document) : Getters where
  siteID := d.firewall.siteID
  hasSiteID := d.firewall.siteID ≠ ""
  tailscaleZone := d.firewall.tailscale
  tailscaleChainPrefix := d.firewall.tailscaleChainPrefix
  systemZoneIDs := (d.firewall.externalZoneID,d.firewall.gatewayZoneID)
  wgS2sZone := d.firewall.wgS2s.lookup
  wgS2sChainPrefix := d.firewall.wgS2sChainPrefix
  wgS2sZones := fun result => ∃ order : List ZoneManifest, order.Perm (values d.firewall.wgS2s) ∧ result = GetWgS2sZones order
  wanPortPolicyID := d.firewall.wanPortPolicyID
  wanPortEntry := d.firewall.wanPorts.lookup
  dnsPolicy := d.dnsPolicies.lookup
  hasDNSPolicy := fun marker => (d.dnsPolicies.lookup marker).isSome
  exitNodePolicy := d.GetExitNodePolicy
  advertiseExitNodeEnabled := d.exit.advertiseExitNodeEnabled
  remoteExitNode := d.GetRemoteExitNode

inductive Mutator where
  | setTailscaleZone (zoneID zoneName : String) (policyIDs : List String) (chainPrefix : String)
  | setWgS2sZone (tunnelID : String) (zm : ZoneManifest)
  | removeWgS2sTunnel (tunnelID : String)
  | setWanPort (marker policyID policyName : String) (port : Int)
  | removeWanPort (marker : String)
  | setSystemZoneIDs (externalID gatewayID : String)
  | setSiteID (siteID : String)
  | setDNSPolicy (marker policyID domain ipAddress : String)
  | removeDNSPolicy (marker : String)
  | setExitNodePolicy (p : Exit.ExitNodePolicy)
  | setAdvertiseExitNode (enabled : Bool)
  | setRemoteExitNode (r : Option Exit.RemoteExitNode)
  | resetIntegration
  deriving DecidableEq

def resetFirewall (m : Manifest) : Manifest := ⟨m.siteID,noZone,∅,∅,"",""⟩

def Mutator.change : Mutator → Document → Document
  | .setTailscaleZone zoneID zoneName policyIDs chainPrefix,d =>
    {d with firewall := d.firewall.setTailscaleZone ⟨zoneID,zoneName,policyIDs,chainPrefix⟩}
  | .setWgS2sZone tunnelID zm,d => {d with firewall := d.firewall.setWgS2sZone tunnelID zm}
  | .removeWgS2sTunnel tunnelID,d => {d with firewall := d.firewall.removeWgS2sTunnel tunnelID}
  | .setWanPort marker policyID policyName port,d => {d with firewall := d.firewall.setWanPort marker policyID policyName port}
  | .removeWanPort marker,d => {d with firewall := d.firewall.removeWanPort marker}
  | .setSystemZoneIDs externalID gatewayID,d => {d with firewall := d.firewall.setSystemZoneIDs externalID gatewayID}
  | .setSiteID siteID,d => {d with firewall := {d.firewall with siteID := siteID}}
  | .setDNSPolicy marker policyID domain ipAddress,d => {d with dnsPolicies := d.dnsPolicies.insert marker ⟨policyID,domain,ipAddress⟩}
  | .removeDNSPolicy marker,d => {d with dnsPolicies := d.dnsPolicies.erase marker}
  | .setExitNodePolicy p,d => {d with exit := {d.exit with exitNodePolicy := some p}}
  | .setAdvertiseExitNode enabled,d => {d with exit := {d.exit with advertiseExitNodeEnabled := enabled}}
  | .setRemoteExitNode r,d => {d with exit := {d.exit with remoteExitNode := r}}
  | .resetIntegration,d => {d with firewall := resetFirewall d.firewall, dnsPolicies := ∅}

def MigrateExitNode (tsAdvertising : Bool) (d : Document) : Option Document :=
  if d.exit.advertiseExitNodeEnabled ∨ d.exit.remoteExitNode.isSome then none
  else
    match d.exit.exitNodePolicy with
    | none => if tsAdvertising then some {d with exit := {d.exit with advertiseExitNodeEnabled := true}} else none
    | some p =>
      some {d with exit := {d.exit with exitNodePolicy := none, advertiseExitNodeEnabled := p.mode.text ≠ "off" || tsAdvertising}}

-- The rename of WriteFile is the moment at which the new file is there.
inductive Written where
  | ok
  | noDir (e : GoError)
  | failedBefore (e : GoError)
  | failedAfter (e : GoError)
  deriving DecidableEq, Repr

structure Kept where
  memory : Document
  file : Option Document

def saveLocked (written : Written) : Proc Kept := fun k =>
  match written with
  | .ok => (none,{k with file := some k.memory})
  | .noDir e => (some (.wrap "manifest dir create" e),k)
  | .failedBefore e => (some (.wrap "manifest save" e),k)
  | .failedAfter e => (some (.wrap "manifest save" e),{k with file := some k.memory})

def mutate (written : Written) (now : Time) (c : Mutator) : Proc Kept := fun k =>
  saveLocked written {k with memory := {c.change k.memory with updatedAt := now}}

def Written.beforeRename : Written → Prop
  | .ok => False
  | .noDir _ => True
  | .failedBefore _ => True
  | .failedAfter _ => False

def Mutator.Recorded : Mutator → Document → Prop
  | .setTailscaleZone zoneID zoneName policyIDs chainPrefix,d => d.firewall.tailscale = ⟨zoneID,zoneName,policyIDs,chainPrefix⟩
  | .setWgS2sZone tunnelID zm,d => d.firewall.wgS2s.lookup tunnelID = some zm
  | .removeWgS2sTunnel tunnelID,d => d.firewall.wgS2s.lookup tunnelID = none
  | .setWanPort marker policyID policyName port,d => d.firewall.wanPorts.lookup marker = some ⟨policyID,policyName,port⟩
  | .removeWanPort marker,d => d.firewall.wanPorts.lookup marker = none
  | .setSystemZoneIDs externalID gatewayID,d => d.firewall.externalZoneID = externalID ∧ d.firewall.gatewayZoneID = gatewayID
  | .setSiteID siteID,d => d.firewall.siteID = siteID
  | .setDNSPolicy marker policyID domain ipAddress,d => d.dnsPolicies.lookup marker = some ⟨policyID,domain,ipAddress⟩
  | .removeDNSPolicy marker,d => d.dnsPolicies.lookup marker = none
  | .setExitNodePolicy p,d => d.GetExitNodePolicy = policyView p
  | .setAdvertiseExitNode enabled,d => d.exit.advertiseExitNodeEnabled = enabled
  | .setRemoteExitNode r,d => d.GetRemoteExitNode = r.map remoteView
  | .resetIntegration,d => d.firewall.tailscale = noZone ∧ d.firewall.wgS2s = ∅ ∧ d.firewall.wanPorts = ∅ ∧
    d.firewall.externalZoneID = "" ∧ d.firewall.gatewayZoneID = "" ∧ d.dnsPolicies = ∅

def SameMap {α : Type} (entries other : Dict α) : Prop := ∀ key, entries.lookup key = other.lookup key

section
variable {α : Type} {entries other : Dict α} {key : String} {value : α}

theorem valuesPerm (same : SameMap entries other) : (values entries).Perm (values other) := by
  refine List.Perm.map _ (List.lookup_ext entries.nodupKeys other.nodupKeys fun k v => ?_)
  exact Eq.to_iff (congrArg (fun found => v ∈ found) (same k))

theorem insertSame : SameMap (entries.insert key value) entries ↔ entries.lookup key = some value := by
  constructor
  · intro same
    rw [← same]
    exact AList.lookup_insert _
  · intro found k
    by_cases here : k = key
    · subst here
      rw [AList.lookup_insert,found]
    · exact AList.lookup_insert_ne here

theorem eraseSame : SameMap (entries.erase key) entries ↔ entries.lookup key = none := by
  constructor
  · intro same
    rw [← same]
    exact AList.lookup_erase ..
  · intro missing k
    by_cases here : k = key
    · subst here
      rw [AList.lookup_erase,missing]
    · exact AList.lookup_erase_ne here

theorem emptySame : SameMap ∅ entries ↔ entries = ∅ := by
  constructor
  · intro same
    refine AList.ext (List.eq_nil_iff_forall_not_mem.mpr fun entry member => ?_)
    have found : entries.lookup entry.1 = some entry.2 := AList.mem_lookup_iff.mpr member
    rw [← same] at found
    simp at found
  · intro empty k
    rw [empty]

end

structure Alike (d e : Document) : Prop where
  siteID : d.firewall.siteID = e.firewall.siteID
  tailscale : d.firewall.tailscale = e.firewall.tailscale
  wgS2s : SameMap d.firewall.wgS2s e.firewall.wgS2s
  wanPorts : SameMap d.firewall.wanPorts e.firewall.wanPorts
  externalZoneID : d.firewall.externalZoneID = e.firewall.externalZoneID
  gatewayZoneID : d.firewall.gatewayZoneID = e.firewall.gatewayZoneID
  dnsPolicies : SameMap d.dnsPolicies e.dnsPolicies
  exitNodePolicy : d.GetExitNodePolicy = e.GetExitNodePolicy
  advertiseExitNodeEnabled : d.exit.advertiseExitNodeEnabled = e.exit.advertiseExitNodeEnabled
  remoteExitNode : d.GetRemoteExitNode = e.GetRemoteExitNode

theorem zonesAlike {m n : Manifest} (same : SameMap m.wgS2s n.wgS2s) (result : List WgS2sZoneInfo) :
    (∃ order : List ZoneManifest, order.Perm (values m.wgS2s) ∧ result = GetWgS2sZones order) ↔
      ∃ order : List ZoneManifest, order.Perm (values n.wgS2s) ∧ result = GetWgS2sZones order := by
  have perm := valuesPerm same
  constructor
  · rintro ⟨order,visits,counted⟩
    exact ⟨order,visits.trans perm,counted⟩
  · rintro ⟨order,visits,counted⟩
    exact ⟨order,visits.trans perm.symm,counted⟩

theorem gettersIff {d e : Document} : getters d = getters e ↔ Alike d e := by
  constructor
  · intro same
    exact ⟨congrArg Getters.siteID same,congrArg Getters.tailscaleZone same,congrFun (congrArg Getters.wgS2sZone same),
      congrFun (congrArg Getters.wanPortEntry same),congrArg (fun g => g.systemZoneIDs.1) same,
      congrArg (fun g => g.systemZoneIDs.2) same,congrFun (congrArg Getters.dnsPolicy same),congrArg Getters.exitNodePolicy same,
      congrArg Getters.advertiseExitNodeEnabled same,congrArg Getters.remoteExitNode same⟩
  · intro alike
    have chain : d.firewall.wgS2sChainPrefix = e.firewall.wgS2sChainPrefix := by
      funext tunnelID
      simp only [Manifest.wgS2sChainPrefix,alike.wgS2s tunnelID]
    have policy : d.firewall.wanPortPolicyID = e.firewall.wanPortPolicyID := by
      funext marker
      simp only [Manifest.wanPortPolicyID,alike.wanPorts marker]
    simp only [getters,chain,policy,Manifest.tailscaleChainPrefix,alike.siteID,alike.tailscale,alike.externalZoneID,
      alike.gatewayZoneID,alike.wgS2s _,zonesAlike alike.wgS2s,alike.wanPorts _,alike.dnsPolicies _,alike.exitNodePolicy,
      alike.advertiseExitNodeEnabled,alike.remoteExitNode]

theorem alikeRefl (d : Document) : Alike d d := ⟨rfl,rfl,fun _ => rfl,fun _ => rfl,rfl,rfl,fun _ => rfl,rfl,rfl,rfl⟩

theorem changeAlike (c : Mutator) (d : Document) (now : Time) : Alike {c.change d with updatedAt := now} d ↔ c.Recorded d := by
  have same := alikeRefl d
  cases c with
  | setTailscaleZone zoneID zoneName policyIDs chainPrefix =>
    exact ⟨fun alike => alike.tailscale.symm,fun recorded => {same with tailscale := recorded.symm}⟩
  | setWgS2sZone tunnelID zm =>
    exact ⟨fun alike => insertSame.mp alike.wgS2s,fun recorded => {same with wgS2s := insertSame.mpr recorded}⟩
  | removeWgS2sTunnel tunnelID =>
    exact ⟨fun alike => eraseSame.mp alike.wgS2s,fun recorded => {same with wgS2s := eraseSame.mpr recorded}⟩
  | setWanPort marker policyID policyName port =>
    exact ⟨fun alike => insertSame.mp alike.wanPorts,fun recorded => {same with wanPorts := insertSame.mpr recorded}⟩
  | removeWanPort marker =>
    exact ⟨fun alike => eraseSame.mp alike.wanPorts,fun recorded => {same with wanPorts := eraseSame.mpr recorded}⟩
  | setSystemZoneIDs externalID gatewayID =>
    exact ⟨fun alike => ⟨alike.externalZoneID.symm,alike.gatewayZoneID.symm⟩,
      fun recorded => {same with externalZoneID := recorded.1.symm, gatewayZoneID := recorded.2.symm}⟩
  | setSiteID siteID => exact ⟨fun alike => alike.siteID.symm,fun recorded => {same with siteID := recorded.symm}⟩
  | setDNSPolicy marker policyID domain ipAddress =>
    exact ⟨fun alike => insertSame.mp alike.dnsPolicies,fun recorded => {same with dnsPolicies := insertSame.mpr recorded}⟩
  | removeDNSPolicy marker =>
    exact ⟨fun alike => eraseSame.mp alike.dnsPolicies,fun recorded => {same with dnsPolicies := eraseSame.mpr recorded}⟩
  | setExitNodePolicy p => exact ⟨fun alike => alike.exitNodePolicy.symm,fun recorded => {same with exitNodePolicy := recorded.symm}⟩
  | setAdvertiseExitNode enabled =>
    exact ⟨fun alike => alike.advertiseExitNodeEnabled.symm,fun recorded => {same with advertiseExitNodeEnabled := recorded.symm}⟩
  | setRemoteExitNode r => exact ⟨fun alike => alike.remoteExitNode.symm,fun recorded => {same with remoteExitNode := recorded.symm}⟩
  | resetIntegration =>
    constructor
    · intro alike
      exact ⟨alike.tailscale.symm,emptySame.mp alike.wgS2s,emptySame.mp alike.wanPorts,alike.externalZoneID.symm,
        alike.gatewayZoneID.symm,emptySame.mp alike.dnsPolicies⟩
    · rintro ⟨tailscale,wgS2s,wanPorts,externalZoneID,gatewayZoneID,dnsPolicies⟩
      exact {same with
        tailscale := tailscale.symm, wgS2s := emptySame.mpr wgS2s, wanPorts := emptySame.mpr wanPorts,
        externalZoneID := externalZoneID.symm, gatewayZoneID := gatewayZoneID.symm, dnsPolicies := emptySame.mpr dnsPolicies}

theorem failedBeforeRename {written : Written} (failed : written.beforeRename) (k : Kept) :
    (saveLocked written k).1 ≠ none ∧ (saveLocked written k).2 = k := by
  cases written with
  | ok => exact failed.elim
  | noDir _ | failedBefore _ => exact ⟨Option.some_ne_none _,rfl⟩
  | failedAfter e => exact failed.elim

theorem failedMutatorKeeps {written : Written} (failed : written.beforeRename) (now : Time) (c : Mutator) (k : Kept) :
    (mutate written now c k).1 ≠ none ∧ (mutate written now c k).2.file = k.file ∧
      (getters (mutate written now c k).2.memory = getters k.memory ↔ c.Recorded k.memory) := by
  obtain ⟨returned,kept⟩ := failedBeforeRename failed {k with memory := {c.change k.memory with updatedAt := now}}
  rw [mutate,kept]
  exact ⟨returned,rfl,gettersIff.trans (changeAlike c k.memory now)⟩

def diskFull : Written := .failedBefore (.wrap "write tmp" (.new "no space left on device"))
def savedManifest : Kept := ⟨NewManifest 0,some (NewManifest 0)⟩

theorem failedMutatorKeepsSite : getters (mutate diskFull 1 (.setSiteID "") savedManifest).2.memory = getters savedManifest.memory := by
  have failed : diskFull.beforeRename := trivial
  exact (failedMutatorKeeps failed 1 (.setSiteID "") savedManifest).2.2.mpr rfl

theorem failedSaveStays : (mutate diskFull 1 (.setSiteID "default") savedManifest).1 ≠ none ∧
      (mutate diskFull 1 (.setSiteID "default") savedManifest).2.file = savedManifest.file ∧
      (mutate diskFull 1 (.setSiteID "default") savedManifest).2.memory.firewall.siteID = "default" ∧
      getters (mutate diskFull 1 (.setSiteID "default") savedManifest).2.memory ≠ getters savedManifest.memory := by
  refine ⟨by decide,rfl,rfl,fun same => ?_⟩
  have sites : "default" = "" := congrArg Getters.siteID same
  contradiction

end VpnPack.State
