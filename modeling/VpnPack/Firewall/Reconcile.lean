import VpnPack.Firewall.DnsForwarding
import VpnPack.Integration.Paging

/-! reconcileWanPortPolicies: the recorded ports whose policy the API does not list are
forgotten and opened again. What a port needs to be opened again is said in terms of
the answers to come; the order of the range over the map is a parameter. -/
namespace VpnPack.Firewall
open Base Integration List State
open Paging (pageCount listAnswered listRefused afterCalls)

def wanPortsSnapshot (m : Manifest) : List (String × WanPortEntry) := m.wanPorts.entries.map (fun e => (e.1,e.2))

def recreateWanPort (world : World) (disk : Disk) (port : Int) (marker : String) (w : Wan) : Wan :=
  (OpenWanPort world disk port marker (saving disk (Manifest.removeWanPort marker) w).2).2

def listedPolicy (policies : List Policy) (e : WanPortEntry) : Bool := policies.any (fun p => p.id == e.policyID)

def reconcileEntry (world : World) (disk : Disk) (policies : List Policy) (x : String × WanPortEntry) (w : Wan) : Wan :=
  if listedPolicy policies x.2 then w else recreateWanPort world disk x.2.port x.1 w

def reconcileWanPortPolicies (world : World) (disk : Disk) (degraded : Bool) (order : List (String × WanPortEntry)) (w : Wan) : Wan :=
  if degraded then w
  else if order.length = 0 then w
  else
    match ListPolicies world w.store.manifest.siteID w.client with
    | (.error _,c) => {w with client := c}
    | (.ok policies,c) => order.foldl (fun w x => reconcileEntry world disk policies x w) {w with client := c}

section
variable (world : World) (fails : Nat → Option GoError)

instance Resolved.decidable (m : Manifest) : Decidable (Resolved m) :=
  inferInstanceAs (Decidable (m.externalZoneID ≠ "" ∧ m.gatewayZoneID ≠ ""))

def systemZones (w : Wan) : String × String := (listing world w.manifest.siteID w.client).foldl systemFrom ("","")

def zoneRequests (w : Wan) : Nat :=
  if Resolved w.manifest ∨ cached world w.manifest.siteID w.client = true then 0
  else pageCount world.totals (w.client.sites w.manifest.siteID).zones.length

def policyRequests (w : Wan) : Nat := pageCount world.totals w.policies.length

def ZonesKnown (save : Nat) (w : Wan) : Prop :=
  Resolved w.manifest ∨ Paging.Answered world w.client.calls (zoneRequests world w) ∧
    (systemZones world w).1 ≠ "" ∧ (systemZones world w).2 ≠ "" ∧ fails save = none

structure Openable (save : Nat) (port : Int) (marker : String) (w : Wan) : Prop where
  key : w.client.apiKey ≠ ""
  site : w.manifest.siteID ≠ ""
  zones : ZonesKnown world fails save w
  listed : Paging.Answered world (w.client.calls + zoneRequests world w) (policyRequests world w)
  policy : findExistingPolicy (w.policies.take pageCap) (WanPortPolicyName port marker) ≠ "" ∨
    world.answers (w.client.calls + zoneRequests world w + policyRequests world w) = .ok

def Reopens (x : String × WanPortEntry) (w : Wan) : Prop := Openable world fails (w.store.saves+1) x.2.port x.1 w

end

section
variable {world : World} {fails : Nat → Option GoError} {siteID : String} {c d : Client} {w v : Wan}

theorem listZonesAll (key : c.apiKey ≠ "")
    (answered : Paging.Answered world c.calls (if cached world siteID c = true then 0 else pageCount world.totals (c.sites siteID).zones.length)) :
    ∃ d, ListZones world siteID c = (.ok (listing world siteID c),d) ∧ d.sites = c.sites ∧ d.apiKey = c.apiKey ∧
      d.calls = c.calls + (if cached world siteID c = true then 0 else pageCount world.totals (c.sites siteID).zones.length) := by
  unfold ListZones listing
  by_cases hit : cached world siteID c = true
  · rw [if_pos hit,if_pos hit,if_pos hit]
    exact ⟨_,rfl,rfl,rfl,rfl⟩
  · rw [if_neg hit] at answered
    rw [if_neg hit,if_neg hit,if_neg hit,
      @listAnswered Zone world (fun sites => (sites siteID).zones) {c with readings := c.readings+1} key answered]
    exact ⟨_,rfl,rfl,rfl,rfl⟩

theorem listZonesCut (key : c.apiKey ≠ "")
    (refused : ¬ Paging.Answered world c.calls (if cached world siteID c = true then 0 else pageCount world.totals (c.sites siteID).zones.length)) :
    ∃ e d, ListZones world siteID c = (.error e,d) := by
  unfold ListZones
  by_cases hit : cached world siteID c = true
  · rw [if_pos hit] at refused
    exact absurd (fun i small => absurd small (Nat.not_lt_zero i)) refused
  · rw [if_neg hit] at refused
    obtain ⟨e,d,ran⟩ := @listRefused Zone world (fun sites => (sites siteID).zones) {c with readings := c.readings+1} key refused
    rw [if_neg hit,ran]
    exact ⟨e,d,rfl⟩

theorem zoneRequestsOpen (missing : ¬ Resolved w.manifest) : zoneRequests world w = if cached world w.manifest.siteID w.client = true then 0
      else pageCount world.totals (w.client.sites w.manifest.siteID).zones.length := by
  simp only [zoneRequests,missing,false_or]

theorem resolveKnown (key : w.client.apiKey ≠ "") (known : ZonesKnown world fails w.store.saves w) :
    ∃ extID gwID v, resolveSystemZones world (savingTo fails) w.manifest.siteID w = (.ok (extID,gwID),v) ∧
      v.client.sites = w.client.sites ∧ v.client.apiKey = w.client.apiKey ∧ v.client.calls = w.client.calls + zoneRequests world w := by
  by_cases resolved : Resolved w.manifest
  · have none_ : zoneRequests world w = 0 := if_pos (.inl resolved)
    rw [none_]
    exact ⟨_,_,w,if_pos resolved,rfl,rfl,rfl⟩
  · obtain ⟨answered,ext,gw,saved⟩ := known.resolve_left resolved
    rw [zoneRequestsOpen resolved] at answered ⊢
    obtain ⟨d,listed,sites,apiKey,calls⟩ := listZonesAll key answered
    have found : FindSystemZoneIDs world w.manifest.siteID w.client = (.ok (systemZones world w),d) := by
      simp only [FindSystemZoneIDs,listed]
      exact (if_neg ext).trans (if_neg gw)
    have kept : saving (savingTo fails) (Manifest.setSystemZoneIDs (systemZones world w).1 (systemZones world w).2) {w with client := d} =
        (none,⟨d,⟨w.manifest.setSystemZoneIDs (systemZones world w).1 (systemZones world w).2,w.store.saves+1⟩⟩) := by
      simp only [saving,@updateSaved (savingTo fails) w.store saved]
      rfl
    refine ⟨(systemZones world w).1,(systemZones world w).2,
      ⟨d,⟨w.manifest.setSystemZoneIDs (systemZones world w).1 (systemZones world w).2,w.store.saves+1⟩⟩,
      (if_neg resolved).trans ?_,sites,apiKey,calls⟩
    rw [found]
    simp only [kept]

theorem resolveUnknown (key : w.client.apiKey ≠ "") (unknown : ¬ ZonesKnown world fails w.store.saves w) :
    ∃ e v, resolveSystemZones world (savingTo fails) w.manifest.siteID w = (.error e,v) ∧ v.manifest.wanPorts = w.manifest.wanPorts := by
  have missing : ¬ Resolved w.manifest := fun resolved => unknown (.inl resolved)
  have asks : resolveSystemZones world (savingTo fails) w.manifest.siteID w = _ := if_neg missing
  rw [asks]
  by_cases answered : Paging.Answered world w.client.calls (zoneRequests world w)
  · have asked := answered
    rw [zoneRequestsOpen missing] at asked
    obtain ⟨d,listed,_⟩ := listZonesAll key asked
    by_cases ext : (systemZones world w).1 = ""
    · have found : FindSystemZoneIDs world w.manifest.siteID w.client = (.error (.new "no External zone found"),d) := by
        simp only [FindSystemZoneIDs,listed]
        exact if_pos ext
      rw [found]
      exact ⟨_,_,rfl,rfl⟩
    by_cases gw : (systemZones world w).2 = ""
    · have found : FindSystemZoneIDs world w.manifest.siteID w.client = (.error (.new "no Gateway zone found"),d) := by
        simp only [FindSystemZoneIDs,listed]
        exact (if_neg ext).trans (if_pos gw)
      rw [found]
      exact ⟨_,_,rfl,rfl⟩
    have found : FindSystemZoneIDs world w.manifest.siteID w.client = (.ok (systemZones world w),d) := by
      simp only [FindSystemZoneIDs,listed]
      exact (if_neg ext).trans (if_neg gw)
    cases saved : fails w.store.saves with
    | none => exact absurd (.inr ⟨answered,ext,gw,saved⟩) unknown
    | some e =>
      rw [found]
      simp only [saving,update,savingTo,saved]
      exact ⟨_,_,rfl,rfl⟩
  · rw [zoneRequestsOpen missing] at answered
    obtain ⟨e,d,listed⟩ := listZonesCut key answered
    have found : FindSystemZoneIDs world w.manifest.siteID w.client = (.error e,d) := by simp only [FindSystemZoneIDs,listed]
    rw [found]
    exact ⟨_,_,rfl,rfl⟩

end

section
variable {world : World} {fails : Nat → Option GoError} {siteID name extID gwID : String} {port : Int} {marker : String} {c : Client} {w : Wan}

theorem ensureAll (key : c.apiKey ≠ "") (listed : Paging.Answered world c.calls (pageCount world.totals (c.sites siteID).policies.length))
    (policy : findExistingPolicy ((c.sites siteID).policies.take pageCap) name ≠ "" ∨
      world.answers (c.calls + pageCount world.totals (c.sites siteID).policies.length) = .ok) :
    ∃ policyID d, EnsureWanPortPolicy world siteID port name extID gwID c = (.ok policyID,d) := by
  have all := @listAnswered Policy world (fun sites => (sites siteID).policies) c key listed
  simp only [EnsureWanPortPolicy,ListPolicies,all]
  split
  · exact ⟨_,_,rfl⟩
  · rename_i unnamed
    have answered := policy.resolve_left (fun named => unnamed named)
    simp only [CreatePolicy,doRequest,afterCalls,if_neg key,answered]
    exact ⟨_,_,rfl⟩

theorem ensureCut (key : c.apiKey ≠ "")
    (short : ¬ (Paging.Answered world c.calls (pageCount world.totals (c.sites siteID).policies.length) ∧
      (findExistingPolicy ((c.sites siteID).policies.take pageCap) name ≠ "" ∨
        world.answers (c.calls + pageCount world.totals (c.sites siteID).policies.length) = .ok))) :
    ∃ e d, EnsureWanPortPolicy world siteID port name extID gwID c = (.error e,d) := by
  by_cases listed : Paging.Answered world c.calls (pageCount world.totals (c.sites siteID).policies.length)
  · have all := @listAnswered Policy world (fun sites => (sites siteID).policies) c key listed
    simp only [EnsureWanPortPolicy,ListPolicies,all]
    split
    · rename_i named
      exact absurd ⟨listed,.inl named⟩ short
    · cases answer : world.answers (c.calls + pageCount world.totals (c.sites siteID).policies.length) with
      | ok => exact absurd ⟨listed,.inr answer⟩ short
      | failed _ | lost _ =>
        simp only [CreatePolicy,doRequest,afterCalls,if_neg key,answer]
        exact ⟨_,_,rfl⟩
  · obtain ⟨e,d,cut⟩ := @listRefused Policy world (fun sites => (sites siteID).policies) c key listed
    simp only [EnsureWanPortPolicy,ListPolicies,cut]
    exact ⟨_,_,rfl⟩

theorem savedPorts (fails : Nat → Option GoError) (change : Manifest → Manifest) (w : Wan) :
    (saving (savingTo fails) change w).2 = ⟨w.client,⟨change w.manifest,w.store.saves+1⟩⟩ := by
  simp only [saving,update,savingTo]
  cases fails w.store.saves <;> rfl

theorem readyWan (key : w.client.apiKey ≠ "") (site : w.manifest.siteID ≠ "") : ¬ integrationReady w = false := by
  have named : w.store.manifest.siteID ≠ "" := site
  simp [integrationReady,key,named]

section
variable (ready : ¬ integrationReady w = false) (absent : w.manifest.wanPortPolicyID marker = "")
include ready absent

theorem openUnresolved {e : GoError} {v : Wan} (stopped : resolveSystemZones world (savingTo fails) w.manifest.siteID w = (.error e,v)) :
    (OpenWanPort world (savingTo fails) port marker w).2 = v := by
  have none_ : ¬ w.store.manifest.wanPortPolicyID marker ≠ "" := not_not.mpr absent
  change resolveSystemZones world (savingTo fails) w.store.manifest.siteID w = (.error e,v) at stopped
  simp only [OpenWanPort,if_neg ready,if_neg none_,stopped]

theorem openEnsured {v : Wan} {r : Except GoError String}
    (resolved : resolveSystemZones world (savingTo fails) w.manifest.siteID w = (.ok (extID,gwID),v))
    (ensured : EnsureWanPortPolicy world w.manifest.siteID port (WanPortPolicyName port marker) extID gwID v.client = (r,c)) :
    (OpenWanPort world (savingTo fails) port marker w).2.manifest.wanPorts = (r.toOption.elim w.manifest.wanPorts (fun policyID =>
        w.manifest.wanPorts.insert marker ⟨policyID,WanPortPolicyName port marker,port⟩)) := by
  have none_ : ¬ w.store.manifest.wanPortPolicyID marker ≠ "" := not_not.mpr absent
  have ports : v.manifest.wanPorts = w.manifest.wanPorts := resolvePorts resolved
  change resolveSystemZones world (savingTo fails) w.store.manifest.siteID w = (.ok (extID,gwID),v) at resolved
  change EnsureWanPortPolicy world w.store.manifest.siteID port (WanPortPolicyName port marker) extID gwID v.client = (r,c) at ensured
  simp only [OpenWanPort,if_neg ready,if_neg none_,resolved,ensured]
  cases r with
  | error e => exact ports
  | ok policyID =>
    simp only [wrappingState,savedPorts]
    rw [← ports]
    rfl

end

theorem openMakes (absent : w.manifest.wanPortPolicyID marker = "") (able : Openable world fails w.store.saves port marker w) :
    ∃ policyID, (OpenWanPort world (savingTo fails) port marker w).2.manifest.wanPorts =
      w.manifest.wanPorts.insert marker ⟨policyID,WanPortPolicyName port marker,port⟩ := by
  obtain ⟨extID,gwID,v,resolved,sites,apiKey,calls⟩ := resolveKnown able.key able.zones
  have listed := able.listed
  have policy := able.policy
  rw [policyRequests] at listed policy
  rw [← calls] at listed policy
  rw [Wan.policies,← sites] at listed policy
  obtain ⟨policyID,d,made⟩ := @ensureAll world w.manifest.siteID (WanPortPolicyName port marker) extID gwID port v.client
    (apiKey ▸ able.key) listed policy
  refine ⟨policyID,?_⟩
  exact openEnsured (readyWan able.key able.site) absent resolved made

theorem openFails (absent : w.manifest.wanPortPolicyID marker = "") (unable : ¬ Openable world fails w.store.saves port marker w) :
    (OpenWanPort world (savingTo fails) port marker w).2.manifest.wanPorts = w.manifest.wanPorts := by
  by_cases key : w.client.apiKey = ""
  · have idle : integrationReady w = false := by simp [integrationReady,key]
    simp only [OpenWanPort,if_pos idle]
  by_cases site : w.manifest.siteID = ""
  · have site' : w.store.manifest.siteID = "" := site
    have idle : integrationReady w = false := by simp [integrationReady,site']
    simp only [OpenWanPort,if_pos idle]
  by_cases known : ZonesKnown world fails w.store.saves w
  · obtain ⟨extID,gwID,v,resolved,sites,apiKey,calls⟩ := resolveKnown key known
    have short : ¬ (Paging.Answered world v.client.calls (pageCount world.totals (v.client.sites w.manifest.siteID).policies.length) ∧
        (findExistingPolicy ((v.client.sites w.manifest.siteID).policies.take pageCap) (WanPortPolicyName port marker) ≠ "" ∨
          world.answers (v.client.calls + pageCount world.totals (v.client.sites w.manifest.siteID).policies.length) = .ok)) := by
      rw [sites,calls]
      exact fun both => unable ⟨key,site,known,both.1,both.2⟩
    obtain ⟨e,d,cut⟩ := @ensureCut world w.manifest.siteID (WanPortPolicyName port marker) extID gwID port v.client (apiKey ▸ key) short
    exact openEnsured (readyWan key site) absent resolved cut
  · obtain ⟨e,v,cut,ports⟩ := resolveUnknown key known
    rw [openUnresolved (readyWan key site) absent cut]
    exact ports

end

section
variable {world : World} {fails : Nat → Option GoError} {policies : List Policy} {w : Wan} {x : String × WanPortEntry}
  {order : List (String × WanPortEntry)}

theorem recreatePorts (world : World) (fails : Nat → Option GoError) (x : String × WanPortEntry) (w : Wan) :
    (Reopens world fails x w ∧ ∃ policyID, (recreateWanPort world (savingTo fails) x.2.port x.1 w).manifest.wanPorts =
        (w.manifest.wanPorts.erase x.1).insert x.1 ⟨policyID,WanPortPolicyName x.2.port x.1,x.2.port⟩) ∨ (¬ Reopens world fails x w ∧
        (recreateWanPort world (savingTo fails) x.2.port x.1 w).manifest.wanPorts = w.manifest.wanPorts.erase x.1) := by
  let u : Wan := ⟨w.client,⟨w.manifest.removeWanPort x.1,w.store.saves+1⟩⟩
  have same : Openable world fails u.store.saves x.2.port x.1 u ↔ Reopens world fails x w :=
    ⟨fun able => ⟨able.key,able.site,able.zones,able.listed,able.policy⟩,
      fun able => ⟨able.key,able.site,able.zones,able.listed,able.policy⟩⟩
  have absent : u.manifest.wanPortPolicyID x.1 = "" := by
    change (w.manifest.removeWanPort x.1).wanPortPolicyID x.1 = ""
    simp only [Manifest.wanPortPolicyID,Manifest.removeWanPort,AList.lookup_erase]
  rw [recreateWanPort,savedPorts]
  by_cases able : Reopens world fails x w
  · exact .inl ⟨able,openMakes absent (same.mpr able)⟩
  · exact .inr ⟨able,openFails absent (fun still => able (same.mp still))⟩

def KeptEntry (policies : List Policy) (x : String × WanPortEntry) (t : Wan) : Prop :=
  ∃ e, t.manifest.wanPorts.lookup x.1 = some e ∧ e.port = x.2.port ∧ (listedPolicy policies x.2 = true → e.policyID = x.2.policyID)

def Spared (world : World) (fails : Nat → Option GoError) (policies : List Policy) (x : String × WanPortEntry) (w : Wan) : Prop :=
  listedPolicy policies x.2 = false → Reopens world fails x w

theorem entryKept (held : w.manifest.wanPorts.lookup x.1 = some x.2) :
    KeptEntry policies x (reconcileEntry world (savingTo fails) policies x w) ↔ Spared world fails policies x w := by
  unfold KeptEntry Spared reconcileEntry
  cases listed : listedPolicy policies x.2 with
  | true => exact iff_of_true ⟨x.2,held,rfl,fun _ => rfl⟩ (fun bad => by cases bad)
  | false =>
    simp only [Bool.false_eq_true,if_false,false_implies,and_true,forall_const]
    rcases recreatePorts world fails x w with ⟨able,policyID,ports⟩ | ⟨unable,ports⟩
    · refine iff_of_true ⟨⟨policyID,WanPortPolicyName x.2.port x.1,x.2.port⟩,?_,rfl⟩ able
      rw [ports,AList.lookup_insert]
    · refine iff_of_false ?_ unable
      rintro ⟨e,found,_⟩
      rw [ports,AList.lookup_erase] at found
      cases found

theorem entryOther {marker : String} (other : marker ≠ x.1) :
    (reconcileEntry world (savingTo fails) policies x w).manifest.wanPorts.lookup marker = w.manifest.wanPorts.lookup marker := by
  unfold reconcileEntry
  split
  · rfl
  · rcases recreatePorts world fails x w with ⟨_,policyID,ports⟩ | ⟨_,ports⟩
    · rw [ports,AList.lookup_insert_ne other,AList.lookup_erase_ne other]
    · rw [ports,AList.lookup_erase_ne other]

theorem loopOther {marker : String} (other : ∀ x ∈ order, marker ≠ x.1) :
    (order.foldl (fun w x => reconcileEntry world (savingTo fails) policies x w) w).manifest.wanPorts.lookup marker =
      w.manifest.wanPorts.lookup marker := by
  induction order generalizing w with
  | nil => rfl
  | cons x rest ih =>
    rw [foldl_cons,ih (fun y member => other y (mem_cons_of_mem x member)),entryOther (other x mem_cons_self)]

theorem loopKept (distinct : (order.map Prod.fst).Nodup) (held : ∀ x ∈ order, w.manifest.wanPorts.lookup x.1 = some x.2) :
    (∀ x ∈ order, KeptEntry policies x (order.foldl (fun w x => reconcileEntry world (savingTo fails) policies x w) w)) ↔
      Along (reconcileEntry world (savingTo fails) policies) (Spared world fails policies) order w := by
  induction order generalizing w with
  | nil => simp [Along]
  | cons x rest ih =>
    rw [map_cons,nodup_cons] at distinct
    have apart : ∀ y ∈ rest, x.1 ≠ y.1 := by
      intro y member same
      exact distinct.1 (same ▸ mem_map_of_mem member)
    have later : ∀ y ∈ rest, (reconcileEntry world (savingTo fails) policies x w).manifest.wanPorts.lookup y.1 = some y.2 := by
      intro y member
      rw [entryOther (apart y member).symm]
      exact held y (mem_cons_of_mem x member)
    have own : KeptEntry policies x (rest.foldl (fun w x => reconcileEntry world (savingTo fails) policies x w)
        (reconcileEntry world (savingTo fails) policies x w)) ↔ Spared world fails policies x w := by
      rw [← entryKept (held x mem_cons_self),KeptEntry,KeptEntry,loopOther apart]
    rw [forall_mem_cons,foldl_cons,own,ih distinct.2 later]
    rfl

end

theorem snapshotLookup {m : Manifest} {marker : String} {e : WanPortEntry} :
    (marker,e) ∈ wanPortsSnapshot m ↔ m.wanPorts.lookup marker = some e := by
  rw [wanPortsSnapshot,← Option.mem_def,AList.mem_lookup_iff,mem_map]
  constructor
  · rintro ⟨⟨key,value⟩,member,same⟩
    cases same
    exact member
  · intro member
    exact ⟨⟨marker,e⟩,member,rfl⟩

theorem snapshotDistinct (m : Manifest) : ((wanPortsSnapshot m).map Prod.fst).Nodup := by
  rw [wanPortsSnapshot,map_map]
  exact m.wanPorts.nodupKeys

def PortsKept (w t : Wan) : Prop := ∀ x ∈ wanPortsSnapshot w.manifest, KeptEntry (w.policies.take pageCap) x t

theorem reconcileKeeps (world : World) (fails : Nat → Option GoError) (degraded : Bool) (w : Wan)
    (order : List (String × WanPortEntry)) (ranged : order.Perm (wanPortsSnapshot w.manifest)) :
    PortsKept w (reconcileWanPortPolicies world (savingTo fails) degraded order w) ↔
      (degraded = false → w.client.apiKey ≠ "" → Paging.Answered world w.client.calls (policyRequests world w) →
        Along (reconcileEntry world (savingTo fails) (w.policies.take pageCap)) (Spared world fails (w.policies.take pageCap)) order
          {w with client := afterCalls w.client (policyRequests world w)}) := by
  have same {t : Wan} (ports : t.manifest.wanPorts = w.manifest.wanPorts) : PortsKept w t := by
    rintro ⟨marker,e⟩ member
    exact ⟨e,by rw [ports]; exact snapshotLookup.mp member,rfl,fun _ => rfl⟩
  unfold reconcileWanPortPolicies
  cases degraded with
  | true => exact iff_of_true (same rfl) (fun bad => by cases bad)
  | false =>
    rw [if_neg Bool.false_ne_true,forall_prop_of_true rfl]
    by_cases empty : order.length = 0
    · rw [if_pos empty,length_eq_zero_iff.mp empty]
      exact iff_of_true (same rfl) (fun _ _ => trivial)
    rw [if_neg empty]
    by_cases key : w.client.apiKey = ""
    · have stopped : ListPolicies world w.store.manifest.siteID w.client = (.error errUnauthorized,w.client) := by
        have first : maxListPages = 999+1 := rfl
        simp only [ListPolicies,Integration.doListRequest,first,listFrom,getPage,doRequest,if_pos key]
      rw [stopped]
      exact iff_of_true (same rfl) (fun keyed => absurd key keyed)
    rw [forall_prop_of_true key]
    by_cases answered : Paging.Answered world w.client.calls (policyRequests world w)
    · have listed : ListPolicies world w.store.manifest.siteID w.client =
          (.ok (w.policies.take pageCap),afterCalls w.client (policyRequests world w)) :=
        @listAnswered Policy world (fun sites => (sites w.store.manifest.siteID).policies) w.client key answered
      rw [listed,forall_prop_of_true answered,← loopKept]
      · exact ⟨fun kept x member => kept x (ranged.mem_iff.mp member),fun kept x member => kept x (ranged.mem_iff.mpr member)⟩
      · exact (ranged.map Prod.fst).nodup_iff.mpr (snapshotDistinct w.manifest)
      · intro x member
        exact snapshotLookup.mp (ranged.mem_iff.mp member)
    · obtain ⟨e,d,stopped⟩ := @listRefused Policy world (fun sites => (sites w.store.manifest.siteID).policies) w.client key answered
      have stopped : ListPolicies world w.store.manifest.siteID w.client = (.error e,d) := stopped
      rw [stopped]
      exact iff_of_true (same rfl) (fun yes => absurd yes answered)

def relayWan : Wan :=
  {freshWan with store := ⟨{bareManifest with
    wanPorts := AList.singleton wanMarkerRelay ⟨"p1","VPN Pack: Relay Server UDP 40000",40000⟩
    externalZoneID := "ext"
    gatewayZoneID := "gw"},0⟩}

theorem reconcileKeepsRelay :
    PortsKept relayWan (reconcileWanPortPolicies slow (savingTo (fun _ => none)) false (wanPortsSnapshot relayWan.manifest) relayWan) := by
  have resolved : Resolved relayWan.manifest := by decide
  rw [reconcileKeeps slow (fun _ => none) false relayWan _ (List.Perm.refl _)]
  refine fun _ _ _ => ⟨fun _ => ⟨by decide,by decide,.inl resolved,fun _ _ => rfl,.inr rfl⟩,trivial⟩

def createRefused : World := {slow with answers := fun n => if n = 2 then .failed (.new "integration API error") else .ok}

theorem reconcileForgets : (relayWan.manifest.wanPorts.lookup wanMarkerRelay).map WanPortEntry.port = some 40000 ∧
    (reconcileWanPortPolicies createRefused (savingTo (fun _ => none)) false (wanPortsSnapshot relayWan.manifest) relayWan).manifest.wanPorts.lookup
      wanMarkerRelay = none ∧
    ¬ PortsKept relayWan (reconcileWanPortPolicies createRefused (savingTo (fun _ => none)) false (wanPortsSnapshot relayWan.manifest) relayWan) := by
  have gone : (reconcileWanPortPolicies createRefused (savingTo (fun _ => none)) false (wanPortsSnapshot relayWan.manifest)
      relayWan).manifest.wanPorts.lookup wanMarkerRelay = none := by decide +kernel
  refine ⟨by decide +kernel,gone,fun kept => ?_⟩
  obtain ⟨e,found,_⟩ := kept (wanMarkerRelay,⟨"p1","VPN Pack: Relay Server UDP 40000",40000⟩) (by decide)
  rw [gone] at found
  cases found

end VpnPack.Firewall
