import VpnPack.Firewall.Reconcile
import VpnPack.Service.SettingsFailed

/-! The relay port and its WAN entry across SetSettings. The port to close comes from the
prefs, and only with UDAPI, while opening goes by the entry of the manifest. -/
namespace VpnPack.Service
open Base Firewall Integration State

def relayEntry (s : SettingsState) : Option WanPortEntry := s.fwd.store.manifest.wanPorts.lookup wanMarkerRelay

def EntryFor (p : Int) (entry : Option WanPortEntry) : Prop :=
  (p ≤ 0 → entry = none) ∧ (0 < p → ∃ e, entry = some e ∧ e.port = p)

def oldRelayPort (env : SettingsEnv) (s : SettingsState) : Int :=
  if env.hasUDAPI then (s.prefs.relayServerPort.map (fun port => (port.toNat : Int))).getD 0 else 0

/- An entry that was recorded before has to be closed, or to be what is asked for. -/
def Replaceable (oldPort p : Int) (entry : Option WanPortEntry) : Prop :=
  ∀ e, entry = some e → (p ≤ 0 → 0 < oldPort ∧ e.policyID ≠ "") ∧ (0 < p → e.policyID = "" ∨ 0 < oldPort ∨ e.port = p)

section
variable {world : World} {fails : Nat → Option GoError} {port : Int} {marker other : String} {w v : Wan}

theorem openPresent (present : w.manifest.wanPortPolicyID marker ≠ "") : (OpenWanPort world (savingTo fails) port marker w).2 = w := by
  simp only [OpenWanPort]
  split
  · rfl
  · exact congrArg Prod.snd (if_pos present)

theorem closeAbsent (absent : w.manifest.wanPortPolicyID marker = "") : (CloseWanPort world (savingTo fails) port marker w).2 = w := by
  simp only [CloseWanPort]
  split
  · rfl
  · exact congrArg Prod.snd (if_pos absent)

theorem openOther (differs : other ≠ marker) :
    (OpenWanPort world (savingTo fails) port marker w).2.manifest.wanPorts.lookup other = w.manifest.wanPorts.lookup other := by
  by_cases absent : w.manifest.wanPortPolicyID marker = ""
  · by_cases able : Openable world fails w.store.saves port marker w
    · obtain ⟨policyID,ports⟩ := openMakes absent able
      rw [ports,AList.lookup_insert_ne differs]
    · rw [openFails absent able]
  · rw [openPresent absent]

theorem closeOther (differs : other ≠ marker) :
    (CloseWanPort world (savingTo fails) port marker w).2.manifest.wanPorts.lookup other = w.manifest.wanPorts.lookup other := by
  have erased (c : Client) : (saving (savingTo fails) (Manifest.removeWanPort marker) {w with client := c}).2.manifest.wanPorts.lookup other =
      w.manifest.wanPorts.lookup other := by
    rw [savedPorts]
    exact AList.lookup_erase_ne differs
  unfold CloseWanPort
  split
  · rfl
  split
  · rfl
  split
  · split
    · exact erased _
    · rfl
  · exact erased _

theorem swapOther {oldPort newPort : Int} (differs : other ≠ marker) :
    (swapWanPort world (savingTo fails) oldPort newPort marker w).manifest.wanPorts.lookup other = w.manifest.wanPorts.lookup other := by
  have closed : (if 0 < oldPort then (CloseWanPort world (savingTo fails) oldPort marker w).2 else w).manifest.wanPorts.lookup other =
      w.manifest.wanPorts.lookup other := by
    split
    · exact closeOther differs
    · rfl
  simp only [swapWanPort]
  split
  · exact (openOther differs).trans closed
  · exact closed

theorem closeEntry (closed : (CloseWanPort world (savingTo fails) port marker w).1 = none) :
    (CloseWanPort world (savingTo fails) port marker w).2.manifest.wanPorts.lookup marker =
      (w.manifest.wanPorts.lookup marker).filter (fun e => e.policyID = "") := by
  cases found : w.manifest.wanPorts.lookup marker with
  | none =>
    have absent : w.manifest.wanPortPolicyID marker = "" := by rw [Manifest.wanPortPolicyID,found]
    rw [closeAbsent absent,found]
    rfl
  | some e =>
    have named : w.manifest.wanPortPolicyID marker = e.policyID := by rw [Manifest.wanPortPolicyID,found]
    by_cases blank : e.policyID = ""
    · rw [closeAbsent (named.trans blank),found]
      simp [Option.filter,blank]
    · have ran : CloseWanPort world (savingTo fails) port marker w = (none,(CloseWanPort world (savingTo fails) port marker w).2) :=
        Prod.ext closed rfl
      rcases closePorts ran with ⟨absent,_⟩ | erased
      · exact absurd (named.symm.trans absent) blank
      · rw [erased,AList.lookup_erase]
        simp [Option.filter,blank]

theorem openEntry (opened : (OpenWanPort world (savingTo fails) port marker w).1 = none) :
    (∃ e, (OpenWanPort world (savingTo fails) port marker w).2.manifest.wanPorts.lookup marker = some e ∧ e.port = port) ↔
      ∀ e, w.manifest.wanPorts.lookup marker = some e → e.policyID = "" ∨ e.port = port := by
  have ran : OpenWanPort world (savingTo fails) port marker w = (none,(OpenWanPort world (savingTo fails) port marker w).2) :=
    Prod.ext opened rfl
  generalize (OpenWanPort world (savingTo fails) port marker w).2 = v at ran ⊢
  rcases openPorts ran with ⟨present,rfl⟩ | ⟨absent,e,_,same,ports⟩
  · obtain ⟨e,found⟩ := policyIDPresent present
    have text : e.policyID ≠ "" := by
      rw [Manifest.wanPortPolicyID,found] at present
      exact present
    rw [found]
    simp [text]
  · refine iff_of_true ⟨e,by rw [ports,AList.lookup_insert],same⟩ (fun old found => .inl ?_)
    rw [Manifest.wanPortPolicyID,found] at absent
    exact absent

end

structure SwapSucceeds (world : World) (fails : Nat → Option GoError) (oldPort newPort : Int) (w : Wan) : Prop where
  closed : 0 < oldPort → (CloseWanPort world (savingTo fails) oldPort wanMarkerRelay w).1 = none
  opened : 0 < newPort → (OpenWanPort world (savingTo fails) newPort wanMarkerRelay
    (if 0 < oldPort then (CloseWanPort world (savingTo fails) oldPort wanMarkerRelay w).2 else w)).1 = none

theorem swapEntry {world : World} {fails : Nat → Option GoError} {oldPort newPort : Int} {w : Wan}
    (succeeds : SwapSucceeds world fails oldPort newPort w) :
    EntryFor newPort ((swapWanPort world (savingTo fails) oldPort newPort wanMarkerRelay w).manifest.wanPorts.lookup wanMarkerRelay) ↔
      Replaceable oldPort newPort (w.manifest.wanPorts.lookup wanMarkerRelay) := by
  have left : (if 0 < oldPort then (CloseWanPort world (savingTo fails) oldPort wanMarkerRelay w).2 else w).manifest.wanPorts.lookup wanMarkerRelay =
      (w.manifest.wanPorts.lookup wanMarkerRelay).filter (fun e => ¬ 0 < oldPort ∨ e.policyID = "") := by
    by_cases closing : 0 < oldPort
    · rw [if_pos closing,closeEntry (succeeds.closed closing)]
      simp [closing]
    · rw [if_neg closing]
      cases w.manifest.wanPorts.lookup wanMarkerRelay <;> simp [Option.filter,closing]
  have opened := succeeds.opened
  unfold swapWanPort EntryFor Replaceable
  dsimp only
  generalize (if 0 < oldPort then (CloseWanPort world (savingTo fails) oldPort wanMarkerRelay w).2 else w) = v at left opened ⊢
  by_cases opening : 0 < newPort
  · rw [if_pos opening,openEntry (opened opening),left]
    cases w.manifest.wanPorts.lookup wanMarkerRelay with
    | none => simp [not_le.mpr opening]
    | some e =>
      by_cases closing : 0 < oldPort
      · by_cases blank : e.policyID = "" <;> simp [Option.filter,opening,not_le.mpr opening,closing,blank]
      · simp [Option.filter,opening,not_le.mpr opening,closing]
  · rw [if_neg opening,left]
    cases w.manifest.wanPorts.lookup wanMarkerRelay with
    | none => simp [opening]
    | some e => simp [Option.filter,opening,not_lt.mp opening]

section
variable {world : World}

theorem dnsRequestKey {α : Type} (serve : String → DNSSites → Except GoError α × DNSSites) (r : Resolver) :
    (dnsRequest world serve r).2.client.apiKey = r.client.apiKey := by
  unfold dnsRequest
  split
  · rfl
  · dsimp only
    split <;> rfl

variable (disk : Disk) (siteID suffix : String) (f : Forwarding)

theorem deleteDNSKey (policyID : String) (r : Resolver) : (DeleteDNSPolicy world siteID policyID r).2.client.apiKey = r.client.apiKey := by
  have kept := @dnsRequestKey world Unit (fun _ => removeDNSPolicy siteID policyID) r
  unfold DeleteDNSPolicy
  split
  · rename_i e q ran
    rw [ran] at kept
    split <;> exact kept
  · rename_i q ran
    rw [ran] at kept
    exact kept

theorem ensureDomainKey (domain ip : String) (r : Resolver) :
    (EnsureDNSForwardDomain world siteID domain ip r).2.client.apiKey = r.client.apiKey := by
  have kept := (findLeaves world siteID domain r).2
  unfold EnsureDNSForwardDomain
  split
  · rename_i e q ran
    rw [ran] at kept
    exact kept
  · rename_i existing q ran
    rw [ran] at kept
    exact kept
  · rename_i q ran
    rw [ran] at kept
    exact (dnsRequestKey _ q).trans kept

theorem savingEntriesKey (change : Dict DNSPolicyEntry → Dict DNSPolicyEntry) (f : Forwarding) :
    (savingEntries disk change f).2.resolver = f.resolver := by
  unfold savingEntries
  dsimp only
  split <;> rfl

theorem addForwardingKey :
    (addForwarding world disk suffix f).2.resolver.client.apiKey = f.resolver.client.apiKey := by
  have kept := @ensureDomainKey world f.siteID suffix tailscaleDNSResolverIP f.resolver
  unfold addForwarding
  split
  · rename_i e r ran
    rw [ran] at kept
    exact kept
  · rename_i pol r ran
    rw [ran] at kept
    rw [wrappingState,savingEntriesKey]
    exact kept

theorem removeKey :
    (RemoveDNSForwarding world disk f).2.resolver.client.apiKey = f.resolver.client.apiKey := by
  unfold RemoveDNSForwarding
  split
  · rfl
  · rw [wrappingState,savingEntriesKey]
    dsimp only
    split
    · exact deleteDNSKey _ _ _
    · rfl

theorem ensureKey :
    (EnsureDNSForwarding world disk suffix f).2.resolver.client.apiKey = f.resolver.client.apiKey := by
  unfold EnsureDNSForwarding
  split
  · rfl
  split
  · split
    · rfl
    · rw [addForwardingKey,dropForwarding,savingEntriesKey]
      exact deleteDNSKey _ _ _
  · exact addForwardingKey _ _ _

theorem touchKey (env : SettingsEnv) (req : SettingsRequest) (s : SettingsState) :
    (touchDNSForwarding env req s).2.fwd.resolver.client.apiKey = s.fwd.resolver.client.apiKey := by
  obtain ⟨f,left,key⟩ := @touchForwards env req s (fun f => f.resolver.client.apiKey = s.fwd.resolver.client.apiKey) rfl
    (removeKey (savingTo env.saves) s.fwd) (ensureKey (savingTo env.saves) (dnsSuffix env) s.fwd)
  rw [left]
  exact key

theorem touchFwd {env : SettingsEnv} {req : SettingsRequest} {s t : SettingsState} (same : t.fwd = s.fwd) :
    (touchDNSForwarding env req t).2.fwd = (touchDNSForwarding env req s).2.fwd := by
  unfold touchDNSForwarding
  cases req.acceptDNS with
  | none => exact same
  | some enable =>
    dsimp only
    unfold applyDNSForwarding
    rw [same]
    split
    · split
      · exact same
      · dsimp only
        split
        · exact same
        · rfl
    · rfl

end

def rulesWan (env : SettingsEnv) (req : SettingsRequest) (s : SettingsState) : Wan := (touchDNSForwarding env req s).2.fwd.wan

section
variable {env : SettingsEnv} {req : SettingsRequest} {s t u v : SettingsState} {r : SetResult} {p : Int}

theorem setSettingsSource (ran : SetSettings env req s = (.ok r,t)) :
    ∃ u old v, Begun s u ∧ fetchPreEditPrefs env req (touchDNSForwarding env req u).2 = .ok old ∧
      v.fwd = (touchDNSForwarding env req u).2.fwd ∧ t.fwd = (updateRules env req old v).fwd := by
  unfold SetSettings at ran
  split at ran
  · simp at ran
  rename_i endpoints u valid
  split at ran
  · simp at ran
  rename_i w touched
  dsimp only at ran
  split at ran
  · simp at ran
  rename_i old read
  split at ran
  · simp at ran
  rename_i updated x edited
  split at ran
  · simp at ran
  rename_i restart v written
  cases ran
  have touched' : (touchDNSForwarding env req u).2 = w := congrArg Prod.snd touched
  have kept : x.fwd = w.fwd := by
    have left := congrArg (fun ended : Except GoError Prefs × SettingsState => ended.2.fwd) edited
    refine left.symm.trans ?_
    unfold EditPrefs
    split <;> rfl
  have same : v.fwd = x.fwd := by
    have left := congrArg (fun ended : Except Error Bool × SettingsState => ended.2.fwd) written
    refine left.symm.trans ?_
    unfold applyUDPPortChange
    split
    · rfl
    · dsimp only
      split
      · rfl
      · split <;> rfl
  refine ⟨u,old,v,validateBegun valid,touched' ▸ read,?_,rfl⟩
  rw [touched',same,kept]

theorem fetchedRelay {old : PreEditPrefs} (asked : req.relayServerPort = some p) (read : fetchPreEditPrefs env req u = .ok old) :
    (old.relayPort.map (fun port => (port.toNat : Int))).getD 0 = oldRelayPort env u := by
  unfold fetchPreEditPrefs GetPrefs needsPreEdit at read
  unfold oldRelayPort
  rw [asked] at read
  split at read
  · rename_i idle
    have bare : env.hasUDAPI = false := by simp_all
    cases read
    simp [bare]
  · split at read
    · cases read
    · rename_i prefs got
      have same : prefs = u.prefs := by
        split at got
        · cases got
        · exact (Except.ok.inj got).symm
      cases read
      rw [same]
      cases env.hasUDAPI <;> rfl

theorem rulesEntry {old : PreEditPrefs} (asked : req.relayServerPort = some p) (key : s.fwd.resolver.client.apiKey ≠ "") :
    relayEntry (updateRules env req old s) =
      (swapWanPort env.world (savingTo env.saves) ((old.relayPort.map (fun port => (port.toNat : Int))).getD 0) p wanMarkerRelay
        s.fwd.wan).manifest.wanPorts.lookup wanMarkerRelay := by
  have keyed : ¬ s.fwd.wan.client.apiKey = "" := key
  have relay : relayEntry (s.onWan (updateRelayPortRules env.world (savingTo env.saves) p (old.relayPort.map (fun port => (port.toNat : Int))))) =
      (swapWanPort env.world (savingTo env.saves) ((old.relayPort.map (fun port => (port.toNat : Int))).getD 0) p wanMarkerRelay
        s.fwd.wan).manifest.wanPorts.lookup wanMarkerRelay := by
    simp only [relayEntry,SettingsState.onWan,updateRelayPortRules,if_neg keyed]
    rfl
  have differs : wanMarkerRelay ≠ wanMarkerTailscaleWG := by decide
  simp only [updateRules,asked]
  cases req.udpPort with
  | none => exact relay
  | some port =>
    refine Eq.trans ?_ relay
    generalize s.onWan (updateRelayPortRules env.world (savingTo env.saves) p (old.relayPort.map (fun port => (port.toNat : Int)))) = x
    change (updateTailscaleWgPortRules env.world (savingTo env.saves) port x.fwd.wan).manifest.wanPorts.lookup wanMarkerRelay =
      x.fwd.wan.manifest.wanPorts.lookup wanMarkerRelay
    unfold updateTailscaleWgPortRules
    split
    · rfl
    · dsimp only
      split
      · rfl
      · exact swapOther differs

end

theorem relayPortInStep (env : SettingsEnv) (req : SettingsRequest) (p : Int) (s t : SettingsState) (r : SetResult)
    (asked : req.relayServerPort = some p) (key : s.fwd.resolver.client.apiKey ≠ "")
    (ran : SetSettings env req s = (.ok r,t)) (succeeds : SwapSucceeds env.world env.saves (oldRelayPort env s) p (rulesWan env req s)) :
    EntryFor p (relayEntry t) ↔ Replaceable (oldRelayPort env s) p (relayEntry s) := by
  obtain ⟨u,old,v,begun,read,left,ended⟩ := setSettingsSource ran
  obtain ⟨f,touched,manifest⟩ := touchLeaves env req u
  have keyed : v.fwd.resolver.client.apiKey ≠ "" := by rw [left,touchKey,begun.fwd]; exact key
  have port : (old.relayPort.map (fun port => (port.toNat : Int))).getD 0 = oldRelayPort env s := by
    rw [fetchedRelay asked read,oldRelayPort,oldRelayPort,touched]
    simp only [begun.prefs]
  have wan : v.fwd.wan = rulesWan env req s := by rw [left,touchFwd begun.fwd,rulesWan]
  have before : (rulesWan env req s).manifest.wanPorts.lookup wanMarkerRelay = relayEntry s := by
    rw [← wan,left,touched,relayEntry,← begun.fwd,← manifest]
    rfl
  have after : relayEntry t = relayEntry (updateRules env req old v) := by rw [relayEntry,ended,relayEntry]
  rw [after,rulesEntry asked keyed,port,wan,swapEntry succeeds,before]

def relayState : SettingsState :=
  {plainState with fwd := ⟨⟨relayWan.client,fun _ => []⟩,relayWan.store,∅⟩, prefs := {plainPrefs with relayServerPort := some 40000}}

def relayOff : SettingsRequest := {noChange with relayServerPort := some (-1)}

theorem completed {α : Type} {result : Except Error α} (done : result.toBool = true) : ∃ r, result = .ok r := by
  cases result with
  | error e => contradiction
  | ok r => exact ⟨r,rfl⟩

theorem relayPortInStepOff : EntryFor (-1) (relayEntry (SetSettings calmEnv relayOff relayState).2) := by
  obtain ⟨r,done⟩ := completed (show (SetSettings calmEnv relayOff relayState).1.toBool = true by decide +kernel)
  have closed : (CloseWanPort slow (savingTo (fun _ => none)) 40000 wanMarkerRelay relayState.fwd.wan).1 = none := by decide +kernel
  refine (relayPortInStep calmEnv relayOff (-1) relayState _ r rfl (by decide) (Prod.ext done rfl)
    ⟨fun _ => closed,fun positive => absurd positive (by decide)⟩).mpr ?_
  intro e found
  cases found
  exact ⟨fun _ => ⟨by decide,by decide⟩,fun positive => absurd positive (by decide)⟩

theorem relayPortStays :
    relayState.fwd.resolver.client.apiKey ≠ "" ∧ (SetSettings {calmEnv with hasUDAPI := false} relayOff relayState).1.toBool = true ∧
    SwapSucceeds slow (fun _ => none) (oldRelayPort {calmEnv with hasUDAPI := false} relayState) (-1)
      (rulesWan {calmEnv with hasUDAPI := false} relayOff relayState) ∧
    (relayEntry (SetSettings {calmEnv with hasUDAPI := false} relayOff relayState).2).map WanPortEntry.port = some 40000 ∧
    ¬ EntryFor (-1) (relayEntry (SetSettings {calmEnv with hasUDAPI := false} relayOff relayState).2) := by
  have stays : (relayEntry (SetSettings {calmEnv with hasUDAPI := false} relayOff relayState).2).map WanPortEntry.port = some 40000 := by
    decide +kernel
  refine ⟨by decide,by decide +kernel,⟨fun positive => absurd positive (by decide),fun positive => absurd positive (by decide)⟩,stays,?_⟩
  intro asked
  rw [asked.1 (by decide)] at stays
  cases stays

end VpnPack.Service
