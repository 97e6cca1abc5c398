import VpnPack.Firewall.DnsForwarding
import VpnPack.Firewall.ZoneUse

/-! Entries that leave the manifest, against the deletes of the same call. An entry names objects
of the API; one that no other entry names is forgotten with it. What a call is told about
its deletes is listed in its reports: deleted, not found, or neither. The memory of the
manifest counts, which keeps a change also when the save fails. -/
namespace VpnPack.Firewall
open Base Integration List State

inductive Object where
  | dnsPolicy (id : String)
  | policy (id : String)
  | zone (id : String)
  deriving DecidableEq, Repr

def Object.id : Object → String
  | .dnsPolicy id => id
  | .policy id => id
  | .zone id => id

inductive Entry where
  | dns (e : DNSPolicyEntry)
  | wan (e : WanPortEntry)
  | zone (zm : ZoneManifest)
  deriving DecidableEq, Repr

def Entry.mentions : Entry → List Object
  | .dns e => [.dnsPolicy e.policyID]
  | .wan e => [.policy e.policyID]
  | .zone zm => zm.policyIDs.map .policy ++ [.zone zm.zoneID]

def Entry.objects (entry : Entry) : List Object := entry.mentions.filter (fun o => o.id != "")

inductive Slot where
  | dns (marker : String)
  | wan (marker : String)
  | tunnel (tunnelID : String)
  | tailscale
  deriving DecidableEq, Repr

structure Records where
  manifest : Manifest
  entries : Dict DNSPolicyEntry

def Records.entry (r : Records) : Slot → Option Entry
  | .dns marker => (r.entries.lookup marker).map .dns
  | .wan marker => (r.manifest.wanPorts.lookup marker).map .wan
  | .tunnel tunnelID => (r.manifest.wgS2s.lookup tunnelID).map .zone
  | .tailscale => some (.zone r.manifest.tailscale)

def Records.NamedOnlyBy (r : Records) (slot : Slot) (o : Object) : Prop :=
  ∀ other entry, other ≠ slot → r.entry other = some entry → o ∉ entry.objects

abbrev Reports := List (Object × Bool)

def KeepsRecords (before after : Records) (reports : Reports) : Prop :=
  ∀ slot entry, before.entry slot = some entry → after.entry slot ≠ some entry →
    ∀ o ∈ entry.objects, before.NamedOnlyBy slot o → (o,true) ∈ reports

def gone : Except GoError Unit → Bool
  | .ok _ => true
  | .error e => e.wraps errNotFound

def closeReports (world : World) (marker : String) (w : Wan) : Reports :=
  if integrationReady w = true ∧ w.store.manifest.wanPortPolicyID marker ≠ "" then
    [(.policy (w.store.manifest.wanPortPolicyID marker),
      gone (DeletePolicy world w.store.manifest.siteID (w.store.manifest.wanPortPolicyID marker) w.client).1)]
  else []

def Forwarding.records (f : Forwarding) : Records := ⟨f.store.manifest,f.entries⟩

def forwardingReports (world : World) (policyID : String) (f : Forwarding) : Reports :=
  [(.dnsPolicy policyID,gone (DeleteDNSPolicy world f.siteID policyID f.resolver).1)]

def ensureReports (world : World) (magicDNSSuffix : String) (f : Forwarding) : Reports :=
  match f.entries.lookup dnsMarkerTailscale with
  | some entry => if integrationReady f.wan = true ∧ entry.domain ≠ magicDNSSuffix then forwardingReports world entry.policyID f else []
  | none => []

def removeReports (world : World) (f : Forwarding) : Reports :=
  match f.entries.lookup dnsMarkerTailscale with
  | some entry => if integrationReady f.wan = true then forwardingReports world entry.policyID f else []
  | none => []

def accepted (b : Backend) (n : Nat) : Bool := b.replies n = .ok

def clears (b : Backend) (tunnelID : String) (zm : ZoneManifest) (s : Orch) : Bool :=
  zm.zoneID ≠ "" && !(b.order (s.manifest.wgS2s.erase tunnelID)).any (fun other => other.zoneID == zm.zoneID) && requireIntegration b s

def teardownReports (b : Backend) (tunnelID : String) (s : Orch) : Reports :=
  match s.manifest.wgS2s.lookup tunnelID with
  | some zm =>
    if clears b tunnelID zm s then (Entry.zone zm).mentions.mapIdx (fun k o => (o,accepted b (s.calls+k))) else []
  | none => []

section
variable {m : Manifest} {entries : Dict DNSPolicyEntry} {slot : Slot} {entry : Entry}

theorem onlySlot {before after : Records} {changed : Slot} (others : ∀ slot, slot ≠ changed → after.entry slot = before.entry slot)
    (old : before.entry slot = some entry) (new : after.entry slot ≠ some entry) : slot = changed := by
  by_contra other
  exact new ((others slot other).trans old)

theorem eraseWan {marker : String} (slot : Slot) (other : slot ≠ .wan marker) :
    Records.entry ⟨m.removeWanPort marker,entries⟩ slot = Records.entry ⟨m,entries⟩ slot := by
  cases slot with
  | wan x => simp only [Records.entry,Manifest.removeWanPort,AList.lookup_erase_ne (fun same => other (congrArg Slot.wan same))]
  | _ => rfl

theorem eraseTunnel {tunnelID : String} (slot : Slot) (other : slot ≠ .tunnel tunnelID) :
    Records.entry ⟨m.removeWgS2sTunnel tunnelID,entries⟩ slot = Records.entry ⟨m,entries⟩ slot := by
  cases slot with
  | tunnel x => simp only [Records.entry,Manifest.removeWgS2sTunnel,AList.lookup_erase_ne (fun same => other (congrArg Slot.tunnel same))]
  | _ => rfl

theorem changeDns {marker : String} {entries' : Dict DNSPolicyEntry} (others : ∀ x, x ≠ marker → entries'.lookup x = entries.lookup x)
    (slot : Slot) (other : slot ≠ .dns marker) : Records.entry ⟨m,entries'⟩ slot = Records.entry ⟨m,entries⟩ slot := by
  cases slot with
  | dns x => simp only [Records.entry,others x (fun same => other (congrArg Slot.dns same))]
  | _ => rfl

theorem keepsSame (r : Records) (reports : Reports) : KeepsRecords r r reports :=
  fun _ _ before after => absurd before after

end
section
variable {world : World} {siteID policyID : String}

def Answer.gone : Answer → Bool
  | .ok => true
  | .failed e => e.wraps errNotFound
  | .lost e => e.wraps errNotFound

theorem dnsRequestGone {r : Resolver} (keyed : r.client.apiKey ≠ "") :
    gone (dnsRequest world (fun _ => removeDNSPolicy siteID policyID) r).1 = Answer.gone (world.answers r.client.calls) := by
  unfold dnsRequest
  rw [if_neg keyed]
  cases world.answers r.client.calls with
  | ok =>
    dsimp only
    unfold removeDNSPolicy
    split
    · rfl
    · exact GoError.wrapsSelf _
  | failed _ | lost _ => rfl

theorem deleteDnsGone {r : Resolver} (keyed : r.client.apiKey ≠ "") :
    gone (DeleteDNSPolicy world siteID policyID r).1 = Answer.gone (world.answers r.client.calls) := by
  rw [← @dnsRequestGone world siteID policyID r keyed]
  unfold DeleteDNSPolicy
  rcases asked : dnsRequest world (fun _ => removeDNSPolicy siteID policyID) r with ⟨result,q⟩
  cases result with
  | ok => rfl
  | error e =>
    dsimp only
    split
    · rename_i missing
      exact missing.symm
    · rfl

end
section
variable {world : World} {fails : Nat → Option GoError} {port : Int} {marker : String} {w : Wan}

theorem closeManifest : (CloseWanPort world (savingTo fails) port marker w).2.store.manifest = w.store.manifest ∨
    closeReports world marker w = [(.policy (w.store.manifest.wanPortPolicyID marker),true)] ∧
      (CloseWanPort world (savingTo fails) port marker w).2.store.manifest = w.store.manifest.removeWanPort marker := by
  by_cases ready : integrationReady w = false
  · exact .inl (by rw [CloseWanPort,if_pos ready])
  by_cases blank : w.store.manifest.wanPortPolicyID marker = ""
  · exact .inl (by rw [CloseWanPort,if_neg ready,if_pos blank])
  have saved (c : Client) : (wrapping "save manifest" (saving (savingTo fails) (Manifest.removeWanPort marker))
      {w with client := c}).2.store.manifest = w.store.manifest.removeWanPort marker := updateKept (.inl rfl) _
  have reports : closeReports world marker w = [(.policy (w.store.manifest.wanPortPolicyID marker),
      gone (DeletePolicy world w.store.manifest.siteID (w.store.manifest.wanPortPolicyID marker) w.client).1)] :=
    if_pos ⟨Bool.of_not_eq_false ready,blank⟩
  rw [CloseWanPort,if_neg ready,if_neg blank,reports]
  cases DeletePolicy world w.store.manifest.siteID (w.store.manifest.wanPortPolicyID marker) w.client with
  | mk result c =>
    cases result with
    | ok => exact .inr ⟨rfl,saved c⟩
    | error e =>
      by_cases missing : e.wraps errNotFound = true
      · refine .inr ⟨by rw [gone,missing],?_⟩
        simp only [missing,if_true]
        exact saved c
      · simp only [missing]
        exact .inl rfl

theorem closeKeeps (entries : Dict DNSPolicyEntry) :
    KeepsRecords ⟨w.store.manifest,entries⟩ ⟨(CloseWanPort world (savingTo fails) port marker w).2.store.manifest,entries⟩
      (closeReports world marker w) := by
  rcases @closeManifest world fails port marker w with same | ⟨reported,removed⟩
  · rw [same]
    exact keepsSame _ _
  · rw [removed,reported]
    intro slot entry before after o member only
    cases onlySlot eraseWan before after
    obtain ⟨e,found,rfl⟩ := Option.map_eq_some_iff.mp before
    have here : o = .policy e.policyID := mem_singleton.mp (mem_of_mem_filter member)
    have id : w.store.manifest.wanPortPolicyID marker = e.policyID := by
      simp only [Manifest.wanPortPolicyID,show w.store.manifest.wanPorts.lookup marker = some e from found]
    rw [here,id]
    exact mem_singleton_self _

end
section
variable {world : World} {fails : Nat → Option GoError} {suffix : String} {f : Forwarding} {entry : DNSPolicyEntry}

theorem savingEntriesKept (change : Dict DNSPolicyEntry → Dict DNSPolicyEntry) (f : Forwarding) :
    (savingEntries (savingTo fails) change f).2.entries = change f.entries ∧
      (savingEntries (savingTo fails) change f).2.store.manifest = f.store.manifest := by
  unfold savingEntries
  split <;> exact ⟨rfl,rfl⟩

theorem dropEntries (world : World) (fails : Nat → Option GoError) (entry : DNSPolicyEntry) (f : Forwarding) :
    (dropForwarding world (savingTo fails) entry f).entries = f.entries.erase dnsMarkerTailscale ∧
      (dropForwarding world (savingTo fails) entry f).store.manifest = f.store.manifest := savingEntriesKept _ _

theorem addEntries (world : World) (fails : Nat → Option GoError) (suffix : String) (f : Forwarding) :
    (addForwarding world (savingTo fails) suffix f).2.store.manifest = f.store.manifest ∧
      ((addForwarding world (savingTo fails) suffix f).2.entries = f.entries ∨
        ∃ policyID, (addForwarding world (savingTo fails) suffix f).2.entries =
          f.entries.insert dnsMarkerTailscale ⟨policyID,suffix,tailscaleDNSResolverIP⟩) := by
  unfold addForwarding
  cases EnsureDNSForwardDomain world f.siteID suffix tailscaleDNSResolverIP f.resolver with
  | mk result r =>
    cases result with
    | error e => exact ⟨rfl,.inl rfl⟩
    | ok pol =>
      obtain ⟨set,same⟩ := @savingEntriesKept fails
        (fun entries => entries.insert dnsMarkerTailscale ⟨pol.id,suffix,tailscaleDNSResolverIP⟩) {f with resolver := r}
      exact ⟨same,.inr ⟨pol.id,set⟩⟩

theorem readyKeyed (ready : integrationReady f.wan = true) : f.resolver.client.apiKey ≠ "" := by
  have both := (Bool.and_eq_true_iff.mp ready).1
  exact of_decide_eq_true both

theorem forwardingReported {policyID : String} (ready : integrationReady f.wan = true) :
    (Object.dnsPolicy policyID,true) ∈ forwardingReports world policyID f ↔ Answer.gone (world.answers f.resolver.client.calls) = true := by
  rw [forwardingReports,mem_singleton,deleteDnsGone (readyKeyed ready)]
  constructor
  · intro same
    exact (Prod.mk.inj same).2.symm
  · intro answered
    rw [answered]

theorem dnsObjects {o : Object} : o ∈ (Entry.dns entry).objects ↔ o = .dnsPolicy entry.policyID ∧ entry.policyID ≠ "" := by
  rw [Entry.objects,mem_filter]
  constructor
  · rintro ⟨member,named⟩
    have here : o = .dnsPolicy entry.policyID := mem_singleton.mp member
    exact ⟨here,by simpa [here,Object.id] using named⟩
  · rintro ⟨here,named⟩
    exact ⟨here ▸ mem_singleton_self _,by simpa [here,Object.id] using named⟩

def Exposed (f : Forwarding) (entry : DNSPolicyEntry) : Prop :=
  f.entries.lookup dnsMarkerTailscale = some entry ∧ entry.policyID ≠ "" ∧
    f.records.NamedOnlyBy (.dns dnsMarkerTailscale) (.dnsPolicy entry.policyID)

theorem forwardingKeeps {after : Records} {reports : Reports} (same : after.manifest = f.store.manifest)
    (others : ∀ marker, marker ≠ dnsMarkerTailscale → after.entries.lookup marker = f.entries.lookup marker) :
    KeepsRecords f.records after reports ↔ ∀ entry, Exposed f entry →
      after.entries.lookup dnsMarkerTailscale ≠ some entry → (Object.dnsPolicy entry.policyID,true) ∈ reports := by
  obtain ⟨manifest,entries⟩ := after
  cases same
  constructor
  · intro keeps entry ⟨found,named,only⟩ left
    refine keeps (.dns dnsMarkerTailscale) (.dns entry) (by simp [Records.entry,Forwarding.records,found]) (fun still => left ?_) _
      (dnsObjects.mpr ⟨rfl,named⟩) only
    obtain ⟨e,here,inner⟩ := Option.map_eq_some_iff.mp still
    cases inner
    exact here
  · intro exposed slot entry before left o member only
    cases onlySlot (changeDns others) before left
    obtain ⟨e,found,rfl⟩ := Option.map_eq_some_iff.mp before
    obtain ⟨rfl,named⟩ := dnsObjects.mp member
    refine exposed e ⟨found,named,only⟩ (fun still => left ?_)
    simp [Records.entry,still]

theorem redirectedEntries {entry : DNSPolicyEntry} (differs : entry.domain ≠ suffix) : (∀ marker, marker ≠ dnsMarkerTailscale →
      (addForwarding world (savingTo fails) suffix (dropForwarding world (savingTo fails) entry f)).2.entries.lookup marker =
        f.entries.lookup marker) ∧
    (addForwarding world (savingTo fails) suffix (dropForwarding world (savingTo fails) entry f)).2.entries.lookup dnsMarkerTailscale ≠
      some entry := by
  obtain ⟨_,kept⟩ := addEntries world fails suffix (dropForwarding world (savingTo fails) entry f)
  rw [(dropEntries world fails entry f).1] at kept
  rcases kept with left | ⟨policyID,set⟩
  · refine ⟨fun marker other => by rw [left,AList.lookup_erase_ne other],?_⟩
    rw [left,AList.lookup_erase]
    intro named
    cases named
  · refine ⟨fun marker other => by rw [set,AList.lookup_insert_ne other,AList.lookup_erase_ne other],?_⟩
    rw [set,AList.lookup_insert]
    intro same
    exact differs (congrArg DNSPolicyEntry.domain (Option.some.inj same)).symm

theorem ensureKeeps : KeepsRecords f.records (EnsureDNSForwarding world (savingTo fails) suffix f).2.records (ensureReports world suffix f) ↔
    ∀ entry, Exposed f entry → integrationReady f.wan = true → entry.domain ≠ suffix →
      Answer.gone (world.answers f.resolver.client.calls) = true := by
  by_cases ready : integrationReady f.wan = false
  · have ran : (EnsureDNSForwarding world (savingTo fails) suffix f).2 = f := by rw [EnsureDNSForwarding,if_pos ready]
    rw [ran]
    refine iff_of_true (keepsSame _ _) (fun _ _ given => ?_)
    rw [ready] at given
    contradiction
  have able : integrationReady f.wan = true := Bool.of_not_eq_false ready
  cases found : f.entries.lookup dnsMarkerTailscale with
  | none =>
    have ran : EnsureDNSForwarding world (savingTo fails) suffix f = addForwarding world (savingTo fails) suffix f := by
      simp only [EnsureDNSForwarding,if_neg ready,found]
    have unexposed {entry : DNSPolicyEntry} (exposed : Exposed f entry) : False := by
      have given := exposed.1
      rw [found] at given
      contradiction
    rw [ran]
    obtain ⟨same,kept⟩ := addEntries world fails suffix f
    refine iff_of_true ((forwardingKeeps same (fun marker other => ?_)).mpr (fun _ exposed => (unexposed exposed).elim))
      (fun _ exposed => (unexposed exposed).elim)
    rcases kept with left | ⟨policyID,set⟩
    · exact congrArg (fun entries : Dict DNSPolicyEntry => entries.lookup marker) left
    · exact (congrArg (fun entries : Dict DNSPolicyEntry => entries.lookup marker) set).trans (AList.lookup_insert_ne other)
  | some entry =>
    have alone {other : DNSPolicyEntry} (exposed : Exposed f other) : other = entry := Option.some.inj (exposed.1.symm.trans found)
    by_cases settled : entry.domain = suffix
    · have ran : (EnsureDNSForwarding world (savingTo fails) suffix f).2 = f := by
        simp only [EnsureDNSForwarding,if_neg ready,found,if_pos settled]
      rw [ran]
      refine iff_of_true (keepsSame _ _) (fun other exposed _ differs => ?_)
      rw [alone exposed] at differs
      contradiction
    · have ran : EnsureDNSForwarding world (savingTo fails) suffix f =
          addForwarding world (savingTo fails) suffix (dropForwarding world (savingTo fails) entry f) := by
        simp only [EnsureDNSForwarding,if_neg ready,found,if_neg settled]
      have reports : ensureReports world suffix f = forwardingReports world entry.policyID f := by
        simp only [ensureReports,found,able,ne_eq,settled,not_false_eq_true,and_self,if_true]
      obtain ⟨_,first⟩ := dropEntries world fails entry f
      obtain ⟨second,_⟩ := addEntries world fails suffix (dropForwarding world (savingTo fails) entry f)
      obtain ⟨others,replaced⟩ := @redirectedEntries world fails suffix f entry settled
      rw [ran,reports,forwardingKeeps (second.trans first) others]
      constructor
      · intro keeps other exposed _ _
        cases alone exposed
        exact (forwardingReported able).mp (keeps entry exposed replaced)
      · intro answered other exposed _
        cases alone exposed
        exact (forwardingReported able).mpr (answered entry exposed able settled)

theorem removeKeeps : KeepsRecords f.records (RemoveDNSForwarding world (savingTo fails) f).2.records (removeReports world f) ↔
    ∀ entry, Exposed f entry → integrationReady f.wan = true ∧ Answer.gone (world.answers f.resolver.client.calls) = true := by
  cases found : f.entries.lookup dnsMarkerTailscale with
  | none =>
    have ran : (RemoveDNSForwarding world (savingTo fails) f).2 = f := by simp only [RemoveDNSForwarding,found]
    rw [ran]
    refine iff_of_true (keepsSame _ _) (fun entry exposed => ?_)
    have given := exposed.1
    rw [found] at given
    contradiction
  | some entry =>
    have alone {other : DNSPolicyEntry} (exposed : Exposed f other) : other = entry := Option.some.inj (exposed.1.symm.trans found)
    have ran : (RemoveDNSForwarding world (savingTo fails) f).2 = (savingEntries (savingTo fails) (fun entries => entries.erase dnsMarkerTailscale)
        {f with resolver := if integrationReady f.wan then (DeleteDNSPolicy world f.siteID entry.policyID f.resolver).2 else f.resolver}).2 := by
      simp only [RemoveDNSForwarding,found,wrappingState]
    obtain ⟨erased,same⟩ := @savingEntriesKept fails (fun entries => entries.erase dnsMarkerTailscale)
      {f with resolver := if integrationReady f.wan then (DeleteDNSPolicy world f.siteID entry.policyID f.resolver).2 else f.resolver}
    rw [← ran] at erased same
    have removed : (RemoveDNSForwarding world (savingTo fails) f).2.entries.lookup dnsMarkerTailscale ≠ some entry := by
      rw [erased,AList.lookup_erase]
      intro named
      cases named
    have keeps := @forwardingKeeps f (RemoveDNSForwarding world (savingTo fails) f).2.records (removeReports world f) same (fun marker other =>
      (congrArg (fun entries : Dict DNSPolicyEntry => entries.lookup marker) erased).trans (AList.lookup_erase_ne other))
    rw [keeps]
    have reports : removeReports world f = if integrationReady f.wan = true then forwardingReports world entry.policyID f else [] := by
      simp only [removeReports,found]
    rw [reports]
    by_cases able : integrationReady f.wan = true
    · rw [if_pos able]
      constructor
      · intro told other exposed
        cases alone exposed
        exact ⟨able,(forwardingReported able).mp (told entry exposed removed)⟩
      · intro answered other exposed _
        cases alone exposed
        exact (forwardingReported able).mpr (answered entry exposed).2
    · rw [if_neg able]
      constructor
      · intro told other exposed
        cases alone exposed
        exact absurd (told entry exposed removed) not_mem_nil
      · intro answered other exposed _
        exact absurd (answered other exposed).1 able

end
section
variable {b : Backend} {fails : Nat → Option GoError} {tunnelID : String} {s : Orch} {zm : ZoneManifest}

structure Clears (b : Backend) (tunnelID : String) (zm : ZoneManifest) (s : Orch) : Prop where
  named : zm.zoneID ≠ ""
  unshared : ∀ other entry, other ≠ tunnelID → s.manifest.wgS2s.lookup other = some entry → entry.zoneID ≠ zm.zoneID
  able : requireIntegration b s = true

theorem unsharedIff : (b.order (s.manifest.wgS2s.erase tunnelID)).any (fun other => other.zoneID == zm.zoneID) = false ↔
    ∀ other entry, other ≠ tunnelID → s.manifest.wgS2s.lookup other = some entry → entry.zoneID ≠ zm.zoneID := by
  rw [any_eq_false]
  constructor
  · intro none_ other entry differs found
    have member : entry ∈ b.order (s.manifest.wgS2s.erase tunnelID) :=
      (b.orderSame _ _).mpr ⟨other,(AList.lookup_erase_ne differs).trans found⟩
    simpa using none_ entry member
  · intro unshared entry member
    obtain ⟨other,found⟩ := (b.orderSame _ _).mp member
    by_cases same : other = tunnelID
    · rw [same,AList.lookup_erase] at found
      contradiction
    · rw [AList.lookup_erase_ne same] at found
      simpa using unshared other entry same found

theorem clearsIff : clears b tunnelID zm s = true ↔ Clears b tunnelID zm s := by
  simp only [clears,Bool.and_eq_true,decide_eq_true_eq,Bool.not_eq_true',unsharedIff]
  exact ⟨fun all => ⟨all.1.1,all.1.2,all.2⟩,fun all => ⟨⟨all.named,all.unshared⟩,all.able⟩⟩

theorem removedManifest : (recording (savingTo fails) (Manifest.removeWgS2sTunnel tunnelID) s).2.manifest =
    s.manifest.removeWgS2sTunnel tunnelID := updateKept (.inl rfl) _

theorem teardownManifest (found : s.manifest.wgS2s.lookup tunnelID = some zm) :
    (TeardownWgS2sZone b (savingTo fails) tunnelID s).manifest = s.manifest.removeWgS2sTunnel tunnelID := by
  rw [← @removedManifest fails]
  simp only [TeardownWgS2sZone,found]
  split
  · rfl
  split
  · rfl
  split
  · rfl
  · exact congrArg Store.manifest (deletePoliciesOnly zm.policyIDs _).store

theorem teardownReported {o : Object} (found : s.manifest.wgS2s.lookup tunnelID = some zm) : (o,true) ∈ teardownReports b tunnelID s ↔
      Clears b tunnelID zm s ∧ ∃ k : Nat, (Entry.zone zm).mentions[k]? = some o ∧ b.replies (s.calls+k) = .ok := by
  simp only [teardownReports,found]
  by_cases clear : clears b tunnelID zm s = true
  · rw [if_pos clear,and_iff_right (clearsIff.mp clear),mem_mapIdx]
    constructor
    · rintro ⟨k,bound,same⟩
      obtain ⟨here,answered⟩ := Prod.mk.inj same
      exact ⟨k,List.getElem?_eq_some_iff.mpr ⟨bound,here⟩,of_decide_eq_true answered⟩
    · rintro ⟨k,here,answered⟩
      obtain ⟨bound,same⟩ := List.getElem?_eq_some_iff.mp here
      exact ⟨k,bound,Prod.ext same (decide_eq_true answered)⟩
  · rw [if_neg clear]
    exact iff_of_false not_mem_nil (fun both => clear (clearsIff.mpr both.1))

theorem teardownKeeps (entries : Dict DNSPolicyEntry) :
    KeepsRecords ⟨s.manifest,entries⟩ ⟨(TeardownWgS2sZone b (savingTo fails) tunnelID s).manifest,entries⟩ (teardownReports b tunnelID s) ↔
      ∀ zm, s.manifest.wgS2s.lookup tunnelID = some zm → ∀ o ∈ (Entry.zone zm).objects,
        Records.NamedOnlyBy ⟨s.manifest,entries⟩ (.tunnel tunnelID) o →
          Clears b tunnelID zm s ∧ ∃ k : Nat, (Entry.zone zm).mentions[k]? = some o ∧ b.replies (s.calls+k) = .ok := by
  cases found : s.manifest.wgS2s.lookup tunnelID with
  | none =>
    have ran : TeardownWgS2sZone b (savingTo fails) tunnelID s = s := by simp only [TeardownWgS2sZone,found]
    rw [ran]
    exact iff_of_true (keepsSame _ _) (fun zm given => by cases given)
  | some zm =>
    rw [teardownManifest found]
    constructor
    · intro keeps other same o member only
      cases same
      refine (teardownReported found).mp (keeps (.tunnel tunnelID) (.zone zm) (by simp only [Records.entry,found,Option.map_some]) ?_ o member only)
      simp only [Records.entry,Manifest.removeWgS2sTunnel,AList.lookup_erase]
      intro named
      cases named
    · intro told slot entry before after o member only
      cases onlySlot eraseTunnel before after
      obtain ⟨other,given,rfl⟩ := Option.map_eq_some_iff.mp before
      cases Option.some.inj (found.symm.trans given)
      exact (teardownReported found).mpr (told zm rfl o member only)

end

theorem recordsKept (fails : Nat → Option GoError) : (∀ world port marker w entries, KeepsRecords ⟨w.store.manifest,entries⟩
      ⟨(CloseWanPort world (savingTo fails) port marker w).2.store.manifest,entries⟩ (closeReports world marker w)) ∧
    (∀ world suffix f, KeepsRecords f.records (EnsureDNSForwarding world (savingTo fails) suffix f).2.records (ensureReports world suffix f) ↔
      ∀ entry, Exposed f entry → integrationReady f.wan = true → entry.domain ≠ suffix →
        Answer.gone (world.answers f.resolver.client.calls) = true) ∧
    (∀ world f, KeepsRecords f.records (RemoveDNSForwarding world (savingTo fails) f).2.records (removeReports world f) ↔
      ∀ entry, Exposed f entry → integrationReady f.wan = true ∧ Answer.gone (world.answers f.resolver.client.calls) = true) ∧
    ∀ b tunnelID s entries, KeepsRecords ⟨s.manifest,entries⟩
        ⟨(TeardownWgS2sZone b (savingTo fails) tunnelID s).manifest,entries⟩ (teardownReports b tunnelID s) ↔
      ∀ zm, s.manifest.wgS2s.lookup tunnelID = some zm → ∀ o ∈ (Entry.zone zm).objects,
        Records.NamedOnlyBy ⟨s.manifest,entries⟩ (.tunnel tunnelID) o →
          Clears b tunnelID zm s ∧ ∃ k : Nat, (Entry.zone zm).mentions[k]? = some o ∧ b.replies (s.calls+k) = .ok :=
  ⟨fun _ _ _ _ entries => closeKeeps entries,fun _ _ _ => ensureKeeps,fun _ _ => removeKeeps,fun _ _ _ entries => teardownKeeps entries⟩

def outage : World := {slow with answers := fun _ => .failed (.new "integration API error")}
def saveAll : Nat → Option GoError := fun _ => none
def forwardOld : DNSPolicyEntry := ⟨"d1","old.ts.net",tailscaleDNSResolverIP⟩

def forwardingOld : Forwarding :=
  ⟨⟨freshWan.client,fun _ => [⟨⟨"FORWARD_DOMAIN","old.ts.net",tailscaleDNSResolverIP,true⟩,"d1"⟩]⟩,freshWan.store,
    AList.singleton dnsMarkerTailscale forwardOld⟩

def outageBackend : Backend := {answering with replies := fun _ => .failed (.new "integration API error") 0}
def tunnelZone : ZoneManifest := ⟨"z1","VPN Pack: WireGuard S2S",["p1"],"VPN"⟩
def zoned : Orch := ⟨⟨⟨[internalZone,⟨"z1","VPN Pack: WireGuard S2S"⟩],[]⟩,0⟩,0,⟨bareManifest.setWgS2sZone "t1" tunnelZone,0⟩,[]⟩

theorem forwardOldExposed : Exposed forwardingOld forwardOld := by
  refine ⟨by decide +kernel,by decide +kernel,?_⟩
  intro other entry differs found
  cases other with
  | dns marker =>
    have another : marker ≠ dnsMarkerTailscale := fun same => differs (by rw [same])
    have absent : forwardingOld.entries.lookup marker = none := by
      rw [AList.lookup_eq_none]
      intro member
      exact another (mem_singleton.mp member)
    rw [show forwardingOld.records.entry (.dns marker) = (forwardingOld.entries.lookup marker).map .dns from rfl,absent] at found
    contradiction
  | wan _ | tunnel _ => cases found
  | tailscale =>
    cases found
    decide +kernel

theorem tunnelZoneAlone : Records.NamedOnlyBy ⟨zoned.manifest,∅⟩ (.tunnel "t1") (.zone "z1") := by
  intro other entry differs found
  cases other with
  | dns _ | wan _ => cases found
  | tunnel tunnelID =>
    have another : tunnelID ≠ "t1" := fun same => differs (by rw [same])
    have absent : zoned.manifest.wgS2s.lookup tunnelID = none := (AList.lookup_insert_ne another).trans rfl
    rw [show Records.entry ⟨zoned.manifest,∅⟩ (.tunnel tunnelID) = (zoned.manifest.wgS2s.lookup tunnelID).map .zone from rfl,absent] at found
    contradiction
  | tailscale =>
    cases found
    decide +kernel

theorem failedDeletesForgotten :
    ¬ KeepsRecords forwardingOld.records (RemoveDNSForwarding outage (savingTo saveAll) forwardingOld).2.records
        (removeReports outage forwardingOld) ∧
      ¬ KeepsRecords forwardingOld.records (EnsureDNSForwarding outage (savingTo saveAll) "new.ts.net" forwardingOld).2.records
        (ensureReports outage "new.ts.net" forwardingOld) ∧
      ¬ KeepsRecords ⟨zoned.manifest,∅⟩ ⟨(TeardownWgS2sZone outageBackend (savingTo saveAll) "t1" zoned).manifest,∅⟩
        (teardownReports outageBackend "t1" zoned) := by
  refine ⟨fun keeps => ?_,fun keeps => ?_,fun keeps => ?_⟩
  · have answered := (removeKeeps.mp keeps forwardOld forwardOldExposed).2
    exact absurd answered (by decide +kernel)
  · have answered := ensureKeeps.mp keeps forwardOld forwardOldExposed (by decide +kernel) (by decide +kernel)
    exact absurd answered (by decide +kernel)
  · obtain ⟨_,k,_,answered⟩ := (teardownKeeps ∅).mp keeps tunnelZone (by decide +kernel) (.zone "z1") (by decide +kernel) tunnelZoneAlone
    cases answered


end VpnPack.Firewall
