import VpnPack.Integration.Dns
import VpnPack.State.Document

/-! The part of the uninstall clean-up that talks to the Integration API, over an API with three
collections per site. Every request either fails with no effect or is served; a delete
addresses one collection and finds an ID there or not. Lists are served whole. -/
namespace VpnPack.Cleanup
open Base List State
open Function (update update_eq_self update_idem update_self update_of_ne)
open Integration (Zone Policy DNSPolicy errNotFound)

-- derived: the API reports the origin DERIVED.
structure StoredPolicy extends Policy where
  derived : Bool
  deriving DecidableEq, Repr

structure Collections where
  zones : List Zone
  policies : List StoredPolicy
  dnsPolicies : List DNSPolicy
  deriving DecidableEq, Repr

structure Console where
  siteIDs : List String
  sites : String → Collections
  calls : Nat

abbrev Outages := Nat → Option GoError

def errZoneInUse : GoError := .new "integration API error: delete zone returned 409"

def request {α : Type} (net : Outages) (serve : Console → Except GoError α × Console) (c : Console) : Except GoError α × Console :=
  match net c.calls with
  | some e => (.error e,{c with calls := c.calls+1})
  | none => serve {c with calls := c.calls+1}

def Console.put (c : Console) (siteID : String) (site : Collections) : Console := {c with sites := update c.sites siteID site}
def refers (zoneID : String) (p : StoredPolicy) : Bool := p.source.zoneID == zoneID || p.destination.zoneID == zoneID

def removePolicy (siteID policyID : String) (c : Console) : Except GoError Unit × Console :=
  if (c.sites siteID).policies.any (fun p => p.id == policyID) then
    (.ok (),c.put siteID {c.sites siteID with policies := (c.sites siteID).policies.filter (fun p => p.id != policyID)})
  else (.error errNotFound,c)

def removeZone (siteID zoneID : String) (c : Console) : Except GoError Unit × Console :=
  if (c.sites siteID).zones.any (fun z => z.id == zoneID) then
    if (c.sites siteID).policies.any (refers zoneID) then (.error errZoneInUse,c)
    else (.ok (),c.put siteID {c.sites siteID with zones := (c.sites siteID).zones.filter (fun z => z.id != zoneID)})
  else (.error errNotFound,c)

def DeletePolicy (net : Outages) (siteID policyID : String) : Console → Except GoError Unit × Console :=
  request net (removePolicy siteID policyID)

def DeleteZone (net : Outages) (siteID zoneID : String) : Console → Except GoError Unit × Console := request net (removeZone siteID zoneID)

def ListPolicies (net : Outages) (siteID : String) : Console → Except GoError (List StoredPolicy) × Console :=
  request net (fun c => (.ok (c.sites siteID).policies,c))

def ListZones (net : Outages) (siteID : String) : Console → Except GoError (List Zone) × Console :=
  request net (fun c => (.ok (c.sites siteID).zones,c))

def DiscoverSiteID (net : Outages) : Console → Except GoError String × Console :=
  request net (fun c =>
    match c.siteIDs with
    | [] => (.error (.new "no sites found"),c)
    | siteID :: _ => (.ok siteID,c))

def deleteResourceBestEffort (fn : Console → Except GoError Unit × Console) (c : Console) : Console := (fn c).2
def vpnPackResourceNamePrefix : String := "VPN Pack: "
def discoveredPolicy (p : StoredPolicy) : Bool := p.name.startsWith vpnPackResourceNamePrefix && !p.derived

def removeIntegrationResourcesByDiscovery (net : Outages) (c : Console) : Console :=
  match DiscoverSiteID net c with
  | (.error _,c) => c
  | (.ok siteID,c) =>
    if siteID = "" then c
    else
      let c :=
        match ListPolicies net siteID c with
        | (.error _,c) => c
        | (.ok policies,c) =>
          (policies.filter discoveredPolicy).foldl (fun c p => deleteResourceBestEffort (DeletePolicy net siteID p.id) c) c
      match ListZones net siteID c with
      | (.error _,c) => c
      | (.ok zones,c) =>
        (zones.filter (fun z => z.name.startsWith vpnPackResourceNamePrefix)).foldl
          (fun c z => deleteResourceBestEffort (DeleteZone net siteID z.id) c) c

/- The values of the maps in the order in which each range visits them. -/
structure Ranges (d : Document) where
  wanPorts : List WanPortEntry
  wgS2s : List ZoneManifest
  dnsPolicies : List DNSPolicyEntry
  wgS2sAgain : List ZoneManifest
  wanPortsAll : ∀ e, e ∈ wanPorts ↔ ∃ marker, d.firewall.wanPorts.lookup marker = some e
  wgS2sAll : ∀ zm, zm ∈ wgS2s ↔ ∃ tunnelID, d.firewall.wgS2s.lookup tunnelID = some zm
  dnsPoliciesAll : ∀ e, e ∈ dnsPolicies ↔ ∃ marker, d.dnsPolicies.lookup marker = some e
  wgS2sAgainAll : ∀ zm, zm ∈ wgS2sAgain ↔ ∃ tunnelID, d.firewall.wgS2s.lookup tunnelID = some zm

def deletePolicies (net : Outages) (siteID : String) (policyIDs : List String) (c : Console) : Console :=
  policyIDs.foldl (fun c policyID => deleteResourceBestEffort (DeletePolicy net siteID policyID) c) c

def deleteZones (net : Outages) (siteID : String) : List String → List ZoneManifest → Console → Console
  | _,[],c => c
  | deletedZones,zm :: rest,c =>
    if zm.zoneID = "" ∨ zm.zoneID ∈ deletedZones then deleteZones net siteID deletedZones rest c
    else deleteZones net siteID (zm.zoneID :: deletedZones) rest (deleteResourceBestEffort (DeleteZone net siteID zm.zoneID) c)

-- All four kinds of policies are deleted as firewall policies, the DNS policies too.
def removeRecorded (net : Outages) (d : Document) (ranges : Ranges d) (c : Console) : Console :=
  let siteID := d.firewall.siteID
  let c := deletePolicies net siteID (ranges.wanPorts.map WanPortEntry.policyID) c
  let c := deletePolicies net siteID (ranges.wgS2s.flatMap ZoneManifest.policyIDs) c
  let c := deletePolicies net siteID d.firewall.tailscale.policyIDs c
  let c := deletePolicies net siteID (ranges.dnsPolicies.map DNSPolicyEntry.policyID) c
  let c := deleteZones net siteID [] ranges.wgS2sAgain c
  if d.firewall.tailscale.zoneID ≠ "" then deleteResourceBestEffort (DeleteZone net siteID d.firewall.tailscale.zoneID) c else c

structure Device where
  apiKey : String
  hasAPIKey : Bool
  manifest : Except GoError Document
  ranges : (d : Document) → Ranges d

def removeIntegrationResources (net : Outages) (device : Device) (c : Console) : Console :=
  if device.apiKey = "" then c
  else if !device.hasAPIKey then c
  else
    match device.manifest with
    | .error _ => removeIntegrationResourcesByDiscovery net c
    | .ok d => if d.firewall.siteID = "" then removeIntegrationResourcesByDiscovery net c else removeRecorded net d (device.ranges d) c

section
variable (d : Document)

def recordedZones : Set String := {id | id ≠ "" ∧ (id = d.firewall.tailscale.zoneID ∨ ∃ tunnelID zm, d.firewall.wgS2s.lookup tunnelID = some zm ∧ id = zm.zoneID)}

def recordedPolicies : Set String := {id | (∃ marker e, d.firewall.wanPorts.lookup marker = some e ∧ id = e.policyID) ∨
  (∃ tunnelID zm, d.firewall.wgS2s.lookup tunnelID = some zm ∧ id ∈ zm.policyIDs) ∨ id ∈ d.firewall.tailscale.policyIDs}

def recordedDNSPolicies : Set String := {id | ∃ marker e, d.dnsPolicies.lookup marker = some e ∧ id = e.policyID}

end

structure Cleaned (d : Document) (c c' : Console) : Prop where
  zones : ∀ z ∈ (c'.sites d.firewall.siteID).zones, z.id ∉ recordedZones d
  policies : ∀ p ∈ (c'.sites d.firewall.siteID).policies, p.id ∉ recordedPolicies d
  dnsPolicies : ∀ p ∈ (c'.sites d.firewall.siteID).dnsPolicies, p.id ∉ recordedDNSPolicies d
  otherZones : ∀ z ∈ (c.sites d.firewall.siteID).zones, z.id ∉ recordedZones d → z ∈ (c'.sites d.firewall.siteID).zones
  otherPolicies : ∀ p ∈ (c.sites d.firewall.siteID).policies, p.id ∉ recordedPolicies d → p ∈ (c'.sites d.firewall.siteID).policies
  otherDNSPolicies : ∀ p ∈ (c.sites d.firewall.siteID).dnsPolicies, p.id ∉ recordedDNSPolicies d →
    p ∈ (c'.sites d.firewall.siteID).dnsPolicies
  otherSites : ∀ siteID, siteID ≠ d.firewall.siteID → c'.sites siteID = c.sites siteID

section
variable {net : Outages} {siteID : String} {c : Console}

def Answering (net : Outages) : Prop := ∀ n, net n = none
def keepPolicies (keep : String → Bool) (site : Collections) : Collections := {site with policies := site.policies.filter (fun p => keep p.id)}
def keepZones (keep : String → Bool) (site : Collections) : Collections := {site with zones := site.zones.filter (fun z => keep z.id)}

theorem deletePolicySites (up : Answering net) (policyID : String) : (deleteResourceBestEffort (DeletePolicy net siteID policyID) c).sites =
      update c.sites siteID (keepPolicies (fun id => id != policyID) (c.sites siteID)) := by
  simp only [deleteResourceBestEffort,DeletePolicy,request,up c.calls,removePolicy]
  split
  · rfl
  · rename_i absent
    have all : (c.sites siteID).policies.filter (fun p => p.id != policyID) = (c.sites siteID).policies := by
      refine filter_eq_self.mpr (fun p member => ?_)
      simp only [any_eq_true,not_exists,not_and] at absent
      simpa using absent p member
    rw [keepPolicies,all,update_eq_self]

theorem deletePoliciesSites (up : Answering net) (policyIDs : List String) : (deletePolicies net siteID policyIDs c).sites =
      update c.sites siteID (keepPolicies (fun id => decide (id ∉ policyIDs)) (c.sites siteID)) := by
  induction policyIDs generalizing c with
  | nil =>
    have all : keepPolicies (fun id => decide (id ∉ [])) (c.sites siteID) = c.sites siteID := by simp [keepPolicies]
    rw [all,update_eq_self]
    rfl
  | cons policyID rest ih =>
    rw [deletePolicies,foldl_cons]
    refine ih.trans ?_
    rw [deletePolicySites up,update_idem,update_self,keepPolicies,keepPolicies,keepPolicies]
    congr 2
    rw [filter_filter]
    congr 1
    funext p
    rw [Bool.eq_iff_iff]
    simp [and_comm]

def Unused (zoneID : String) (site : Collections) : Prop := ∀ p ∈ site.policies, refers zoneID p = false

theorem deleteZoneSites (up : Answering net) {zoneID : String} (unused : Unused zoneID (c.sites siteID)) :
    (deleteResourceBestEffort (DeleteZone net siteID zoneID) c).sites =
      update c.sites siteID (keepZones (fun id => id != zoneID) (c.sites siteID)) := by
  have free : (c.sites siteID).policies.any (refers zoneID) = false := any_eq_false.mpr (fun p member => by simp [unused p member])
  simp only [deleteResourceBestEffort,DeleteZone,request,up c.calls,removeZone,free]
  split
  · rfl
  · rename_i absent
    have all : (c.sites siteID).zones.filter (fun z => z.id != zoneID) = (c.sites siteID).zones := by
      refine filter_eq_self.mpr (fun z member => ?_)
      simp only [any_eq_true,not_exists,not_and] at absent
      simpa using absent z member
    rw [keepZones,all,update_eq_self]

theorem deleteZonesSites (up : Answering net) (deletedZones : List String) (entries : List ZoneManifest)
    (gone : ∀ z ∈ (c.sites siteID).zones, z.id ∉ deletedZones)
    (unused : ∀ zm ∈ entries, zm.zoneID ≠ "" → Unused zm.zoneID (c.sites siteID)) : (deleteZones net siteID deletedZones entries c).sites =
      update c.sites siteID (keepZones (fun id => decide (id = "" ∨ ∀ zm ∈ entries, id ≠ zm.zoneID)) (c.sites siteID)) := by
  induction entries generalizing c deletedZones with
  | nil =>
    have all : keepZones (fun id => decide (id = "" ∨ ∀ zm ∈ ([] : List ZoneManifest), id ≠ zm.zoneID)) (c.sites siteID) = c.sites siteID := by
      simp [keepZones]
    rw [all,update_eq_self]
    rfl
  | cons zm rest ih =>
    rw [deleteZones]
    have later : ∀ other ∈ rest, other.zoneID ≠ "" → Unused other.zoneID (c.sites siteID) := fun other member =>
      unused other (mem_cons_of_mem _ member)
    by_cases skipped : zm.zoneID = "" ∨ zm.zoneID ∈ deletedZones
    · rw [if_pos skipped,ih deletedZones gone later]
      congr 1
      rw [keepZones,keepZones]
      congr 1
      refine filter_congr (fun z member => ?_)
      have apart : z.id = "" ∨ z.id ≠ zm.zoneID := by
        rcases skipped with blank | seen
        · by_cases named : z.id = ""
          · exact .inl named
          · exact .inr (fun same => named (same.trans blank))
        · exact .inr (fun same => gone z member (same ▸ seen))
      rw [decide_eq_decide,forall_mem_cons]
      constructor
      · intro either
        rcases either with blank | others
        · exact .inl blank
        · exact apart.imp_right (fun here => ⟨here,others⟩)
      · exact fun either => either.imp_right (fun both => both.2)
    · obtain ⟨named,_⟩ := not_or.mp skipped
      have deleted := @deleteZoneSites net siteID c up zm.zoneID (unused zm mem_cons_self named)
      have site : (deleteResourceBestEffort (DeleteZone net siteID zm.zoneID) c).sites siteID =
          keepZones (fun id => id != zm.zoneID) (c.sites siteID) := by rw [deleted,update_self]
      rw [if_neg skipped,ih (zm.zoneID :: deletedZones),deleted,update_idem,update_self]
      · congr 1
        rw [keepZones,keepZones,keepZones,filter_filter]
        congr 1
        refine filter_congr (fun z _ => ?_)
        rw [Bool.eq_iff_iff,Bool.and_eq_true,decide_eq_true_eq,decide_eq_true_eq,bne_iff_ne,forall_mem_cons]
        constructor
        · rintro ⟨either,here⟩
          exact either.imp_right (fun others => ⟨here,others⟩)
        · intro either
          rcases either with blank | ⟨here,others⟩
          · exact ⟨.inl blank,fun same => named (same.symm.trans blank)⟩
          · exact ⟨.inr others,here⟩
      · intro z member
        rw [site] at member
        obtain ⟨inside,kept⟩ := mem_filter.mp member
        rw [mem_cons,not_or]
        exact ⟨bne_iff_ne.mp kept,gone z inside⟩
      · rw [site]
        exact later

end

structure Left (d : Document) (c c' : Console) : Prop where
  zones : ∀ z, z ∈ (c'.sites d.firewall.siteID).zones ↔ z ∈ (c.sites d.firewall.siteID).zones ∧ z.id ∉ recordedZones d
  policies : ∀ p, p ∈ (c'.sites d.firewall.siteID).policies ↔
    p ∈ (c.sites d.firewall.siteID).policies ∧ p.id ∉ recordedPolicies d ∧ p.id ∉ recordedDNSPolicies d
  dnsPolicies : (c'.sites d.firewall.siteID).dnsPolicies = (c.sites d.firewall.siteID).dnsPolicies
  otherSites : ∀ siteID, siteID ≠ d.firewall.siteID → c'.sites siteID = c.sites siteID

section
variable {net : Outages} {d : Document} {c : Console}

def OwnPolicies (d : Document) (site : Collections) : Prop :=
  ∀ p ∈ site.policies, ∀ zoneID ∈ recordedZones d, refers zoneID p = true → p.id ∈ recordedPolicies d

def deletedIDs (d : Document) (ranges : Ranges d) : List String :=
  ranges.wanPorts.map WanPortEntry.policyID ++ (ranges.wgS2s.flatMap ZoneManifest.policyIDs ++
    (d.firewall.tailscale.policyIDs ++ ranges.dnsPolicies.map DNSPolicyEntry.policyID))

theorem deletedIDsSource {ranges : Ranges d} {id : String} : id ∈ deletedIDs d ranges ↔ id ∈ recordedPolicies d ∨ id ∈ recordedDNSPolicies d := by
  have wan : id ∈ ranges.wanPorts.map WanPortEntry.policyID ↔ ∃ marker e, d.firewall.wanPorts.lookup marker = some e ∧ id = e.policyID := by
    rw [mem_map]
    constructor
    · rintro ⟨e,member,same⟩
      obtain ⟨marker,found⟩ := (ranges.wanPortsAll e).mp member
      exact ⟨marker,e,found,same.symm⟩
    · rintro ⟨marker,e,found,same⟩
      exact ⟨e,(ranges.wanPortsAll e).mpr ⟨marker,found⟩,same.symm⟩
  have tunnels : id ∈ ranges.wgS2s.flatMap ZoneManifest.policyIDs ↔
      ∃ tunnelID zm, d.firewall.wgS2s.lookup tunnelID = some zm ∧ id ∈ zm.policyIDs := by
    rw [mem_flatMap]
    constructor
    · rintro ⟨zm,member,inside⟩
      obtain ⟨tunnelID,found⟩ := (ranges.wgS2sAll zm).mp member
      exact ⟨tunnelID,zm,found,inside⟩
    · rintro ⟨tunnelID,zm,found,inside⟩
      exact ⟨zm,(ranges.wgS2sAll zm).mpr ⟨tunnelID,found⟩,inside⟩
  have dns : id ∈ ranges.dnsPolicies.map DNSPolicyEntry.policyID ↔ id ∈ recordedDNSPolicies d := by
    rw [mem_map]
    constructor
    · rintro ⟨e,member,same⟩
      obtain ⟨marker,found⟩ := (ranges.dnsPoliciesAll e).mp member
      exact ⟨marker,e,found,same.symm⟩
    · rintro ⟨marker,e,found,same⟩
      exact ⟨e,(ranges.dnsPoliciesAll e).mpr ⟨marker,found⟩,same.symm⟩
  rw [deletedIDs,mem_append,mem_append,mem_append,wan,tunnels,dns,← or_assoc,← or_assoc]
  exact or_congr_left or_assoc

theorem deletePoliciesAppend (siteID : String) (xs ys : List String) :
    deletePolicies net siteID (xs ++ ys) c = deletePolicies net siteID ys (deletePolicies net siteID xs c) := foldl_append

theorem removeRecordedSteps (ranges : Ranges d) : removeRecorded net d ranges c =
      let left := deleteZones net d.firewall.siteID [] ranges.wgS2sAgain (deletePolicies net d.firewall.siteID (deletedIDs d ranges) c)
      if d.firewall.tailscale.zoneID ≠ "" then
        deleteResourceBestEffort (DeleteZone net d.firewall.siteID d.firewall.tailscale.zoneID) left
      else left := by
  simp only [removeRecorded,deletedIDs,deletePoliciesAppend]

theorem zoneKept {ranges : Ranges d} {id : String} :
    (id = "" ∨ ∀ zm ∈ ranges.wgS2sAgain, id ≠ zm.zoneID) ∧ (d.firewall.tailscale.zoneID ≠ "" → id ≠ d.firewall.tailscale.zoneID) ↔
      id ∉ recordedZones d := by
  constructor
  · rintro ⟨tunnels,tailscale⟩ ⟨named,either⟩
    rcases either with same | ⟨tunnelID,zm,found,same⟩
    · exact tailscale (same ▸ named) same
    · exact tunnels.resolve_left named zm ((ranges.wgS2sAgainAll zm).mpr ⟨tunnelID,found⟩) same
  · intro kept
    refine ⟨?_,fun named same => kept ⟨same ▸ named,.inl same⟩⟩
    by_cases blank : id = ""
    · exact .inl blank
    · refine .inr (fun zm member same => kept ⟨blank,.inr ?_⟩)
      obtain ⟨tunnelID,found⟩ := (ranges.wgS2sAgainAll zm).mp member
      exact ⟨tunnelID,zm,found,same⟩

theorem removeRecordedLeft (up : Answering net) (own : OwnPolicies d (c.sites d.firewall.siteID)) (ranges : Ranges d) :
    Left d c (removeRecorded net d ranges c) := by
  have policies := @deletePoliciesSites net d.firewall.siteID c up (deletedIDs d ranges)
  generalize middle : deletePolicies net d.firewall.siteID (deletedIDs d ranges) c = m at policies
  have site : m.sites d.firewall.siteID = keepPolicies (fun id => decide (id ∉ deletedIDs d ranges)) (c.sites d.firewall.siteID) := by
    rw [policies,update_self]
  have unused (zoneID : String) (recorded : zoneID ∈ recordedZones d) : Unused zoneID (m.sites d.firewall.siteID) := by
    intro p member
    rw [site] at member
    obtain ⟨inside,kept⟩ := mem_filter.mp member
    refine Bool.eq_false_iff.mpr (fun hit => of_decide_eq_true kept ?_)
    exact deletedIDsSource.mpr (.inl (own p inside zoneID recorded hit))
  have tunnels := @deleteZonesSites net d.firewall.siteID m up [] ranges.wgS2sAgain (fun _ _ => not_mem_nil) (fun zm member named => by
    obtain ⟨tunnelID,found⟩ := (ranges.wgS2sAgainAll zm).mp member
    exact unused zm.zoneID ⟨named,.inr ⟨tunnelID,zm,found,rfl⟩⟩)
  generalize emptied : deleteZones net d.firewall.siteID [] ranges.wgS2sAgain m = left at tunnels
  have tunnelSite : left.sites d.firewall.siteID = _ := (congrFun tunnels _).trans (update_self _ _ _)
  have last : (removeRecorded net d ranges c).sites = update m.sites d.firewall.siteID
      (keepZones (fun id => decide ((id = "" ∨ ∀ zm ∈ ranges.wgS2sAgain, id ≠ zm.zoneID) ∧
        (d.firewall.tailscale.zoneID ≠ "" → id ≠ d.firewall.tailscale.zoneID))) (m.sites d.firewall.siteID)) := by
    rw [removeRecordedSteps,middle,emptied]
    by_cases named : d.firewall.tailscale.zoneID ≠ ""
    · have free : Unused d.firewall.tailscale.zoneID (left.sites d.firewall.siteID) := by
        rw [tunnelSite]
        exact unused _ ⟨named,.inl rfl⟩
      simp only [if_pos named]
      rw [deleteZoneSites up free,tunnelSite,tunnels,update_idem,keepZones,keepZones,keepZones,filter_filter]
      congr 2
      refine filter_congr (fun z _ => ?_)
      rw [Bool.eq_iff_iff]
      simp [named,and_comm]
    · simp only [if_neg named]
      rw [tunnels]
      congr 2
      funext id
      simp [named]
  have final : (removeRecorded net d ranges c).sites d.firewall.siteID = _ := (congrFun last _).trans (update_self _ _ _)
  refine ⟨fun z => ?_,fun p => ?_,?_,fun siteID other => ?_⟩
  · rw [final,keepZones,mem_filter,decide_eq_true_eq,zoneKept,site]
    rfl
  · rw [final,keepZones,site,keepPolicies,mem_filter,decide_eq_true_eq,deletedIDsSource,not_or]
  · rw [final,keepZones,site,keepPolicies]
  · rw [last,update_of_ne other,policies,update_of_ne other]

theorem removeRecordedCleans {device : Device} (up : Answering net) (keyed : device.apiKey ≠ "" ∧ device.hasAPIKey = true)
    (loaded : device.manifest = .ok d) (sited : d.firewall.siteID ≠ "") (own : OwnPolicies d (c.sites d.firewall.siteID)) :
    Cleaned d c (removeIntegrationResources net device c) ↔ (∀ p ∈ (c.sites d.firewall.siteID).dnsPolicies, p.id ∉ recordedDNSPolicies d) ∧
        ∀ p ∈ (c.sites d.firewall.siteID).policies, p.id ∈ recordedDNSPolicies d → p.id ∈ recordedPolicies d := by
  have ran : removeIntegrationResources net device c = removeRecorded net d (device.ranges d) c := by
    simp only [removeIntegrationResources,keyed.1,keyed.2,loaded,sited,Bool.not_true,if_false]
    rfl
  rw [ran]
  have left := removeRecordedLeft up own (device.ranges d)
  constructor
  · intro cleaned
    refine ⟨fun p member => cleaned.dnsPolicies p (left.dnsPolicies ▸ member),fun p member recorded => ?_⟩
    by_contra other
    exact ((left.policies p).mp (cleaned.otherPolicies p member other)).2.2 recorded
  · rintro ⟨absent,shared⟩
    refine ⟨fun z member => ((left.zones z).mp member).2,fun p member => ((left.policies p).mp member).2.1,
      fun p member => absent p (left.dnsPolicies ▸ member),fun z member other => (left.zones z).mpr ⟨member,other⟩,
      fun p member other => (left.policies p).mpr ⟨member,other,fun recorded => other (shared p member recorded)⟩,
      fun p member _ => left.dnsPolicies ▸ member,left.otherSites⟩

end

theorem entryLookup {α : Type} (entries : Dict α) (x : α) : x ∈ values entries ↔ ∃ key, entries.lookup key = some x := by
  rw [values,mem_map]
  constructor
  · rintro ⟨⟨key,y⟩,member,same⟩
    exact ⟨key,AList.mem_lookup_iff.mpr (same ▸ member)⟩
  · rintro ⟨key,found⟩
    exact ⟨⟨key,x⟩,AList.mem_lookup_iff.mp found,rfl⟩

def entryRanges (d : Document) : Ranges d :=
  ⟨values d.firewall.wanPorts,values d.firewall.wgS2s,values d.dnsPolicies,values d.firewall.wgS2s,
    entryLookup _,entryLookup _,entryLookup _,entryLookup _⟩

def recordedDay : Document :=
  {NewManifest 0 with
    firewall := ⟨"default",⟨"z0","VPN Pack: Tailscale",["p0"],"CUSTOM1"⟩,AList.singleton "t1" ⟨"z1","VPN Pack: Branch",["p1"],"CUSTOM2"⟩,
      AList.singleton "tailscale-wg" ⟨"p2","VPN Pack: Tailscale WireGuard UDP 41641",41641⟩,"ext","gw"⟩
    dnsPolicies := AList.singleton "tailscale-dns" ⟨"d1","example.ts.net","100.100.100.100"⟩}

def policyOf (id source destination : String) : StoredPolicy :=
  ⟨⟨⟨true,"VPN Pack",⟨"ALLOW",true⟩,⟨source,none⟩,⟨destination,none⟩,⟨"IPV4_AND_IPV6",none⟩,false⟩,id⟩,false⟩

def installed : Device := ⟨"key",true,.ok recordedDay,entryRanges⟩

def consoleWith (policies : List StoredPolicy) (dnsPolicies : List DNSPolicy) : Console :=
  ⟨["default"],fun _ => ⟨[⟨"z0","VPN Pack: Tailscale"⟩,⟨"z1","VPN Pack: Branch"⟩,⟨"gw","Gateway"⟩],
    [policyOf "p0" "z0" "gw",policyOf "p1" "gw" "z1",policyOf "p2" "ext" "gw"] ++ policies,dnsPolicies⟩,0⟩

theorem recordedDayPolicies {id : String} : id ∈ recordedPolicies recordedDay ↔ id = "p2" ∨ id = "p1" ∨ id = "p0" := by
  have wan (e : WanPortEntry) := entryLookup recordedDay.firewall.wanPorts e
  have tunnels (zm : ZoneManifest) := entryLookup recordedDay.firewall.wgS2s zm
  constructor
  · intro recorded
    rcases recorded with ⟨marker,e,found,same⟩ | ⟨tunnelID,zm,found,inside⟩ | inside
    · cases mem_singleton.mp ((wan e).mpr ⟨marker,found⟩)
      exact .inl same
    · cases mem_singleton.mp ((tunnels zm).mpr ⟨tunnelID,found⟩)
      exact .inr (.inl (mem_singleton.mp inside))
    · exact .inr (.inr (mem_singleton.mp inside))
  · intro either
    rcases either with rfl | rfl | rfl
    · exact .inl ⟨"tailscale-wg",_,rfl,rfl⟩
    · exact .inr (.inl ⟨"t1",_,rfl,mem_singleton_self _⟩)
    · exact .inr (.inr (mem_singleton_self _))

theorem removeRecordedCleansForwardingGone :
    Cleaned recordedDay (consoleWith [] []) (removeIntegrationResources (fun _ => none) installed (consoleWith [] [])) := by
  have all : ∀ p ∈ ((consoleWith [] []).sites "default").policies, p.id ∈ recordedPolicies recordedDay := by
    intro p member
    rw [recordedDayPolicies]
    rcases mem_cons.mp member with rfl | member
    · exact .inr (.inr rfl)
    rcases mem_cons.mp member with rfl | member
    · exact .inr (.inl rfl)
    rcases mem_cons.mp member with rfl | member
    · exact .inl rfl
    · contradiction
  have cleans := @removeRecordedCleans (fun _ => none) recordedDay (consoleWith [] []) installed (fun _ => rfl) ⟨by decide,rfl⟩ rfl (by decide)
    (fun p member _ _ _ => all p member)
  exact cleans.mpr ⟨fun p member => absurd member not_mem_nil,fun p member _ => all p member⟩

theorem forwardingStays : let forwarding : DNSPolicy := ⟨⟨"FORWARD_DOMAIN","example.ts.net","100.100.100.100",true⟩,"d1"⟩
    let left := removeIntegrationResources (fun _ => none) installed (consoleWith [] [forwarding])
    let other := removeIntegrationResources (fun _ => none) installed (consoleWith [policyOf "d1" "ext" "gw"] [])
    (left.sites "default").dnsPolicies = [forwarding] ∧ ¬ Cleaned recordedDay (consoleWith [] [forwarding]) left ∧
      (other.sites "default").policies = [] ∧ ¬ Cleaned recordedDay (consoleWith [policyOf "d1" "ext" "gw"] []) other := by
  intro forwarding left other
  have stays : (left.sites "default").dnsPolicies = [forwarding] := by decide +kernel
  have gone : (other.sites "default").policies = [] := by decide +kernel
  refine ⟨stays,fun cleaned => ?_,gone,fun cleaned => ?_⟩
  · exact cleaned.dnsPolicies forwarding (stays ▸ mem_singleton_self _) ⟨"tailscale-dns",_,rfl,rfl⟩
  · have kept := cleaned.otherPolicies (policyOf "d1" "ext" "gw") (by simp [consoleWith])
      (fun recorded => absurd (recordedDayPolicies.mp recorded) (by decide))
    rw [show (other.sites recordedDay.firewall.siteID).policies = [] from gone] at kept
    contradiction

end VpnPack.Cleanup
