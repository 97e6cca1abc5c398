import VpnPack.Firewall.Dropped
import VpnPack.Service.Settings

/-! What SetSettings leaves behind when it returns an error. The manifest counts as it is in
memory. -/
namespace VpnPack.Service
open Base Firewall Integration State

structure Unchanged (s t : SettingsState) : Prop where
  entries : t.fwd.entries = s.fwd.entries
  dns : t.fwd.resolver.dns = s.fwd.resolver.dns
  prefs : t.prefs = s.prefs
  file : t.defaults.file = s.defaults.file
  wanPorts : t.fwd.store.manifest.wanPorts = s.fwd.store.manifest.wanPorts

def dnsSuffix (env : SettingsEnv) : String := (env.status .dnsStatus).magicDNSSuffix.getD ""

def AddRefused (world : World) (suffix : String) (f : Forwarding) : Prop :=
  (∃ e, (findDNSPolicyByDomain world f.siteID suffix f.resolver).1 = .error e) ∨
    (findDNSPolicyByDomain world f.siteID suffix f.resolver).1 = .ok none ∧
      ∃ e, world.answers (findDNSPolicyByDomain world f.siteID suffix f.resolver).2.client.calls = .failed e

def DnsStops (env : SettingsEnv) (req : SettingsRequest) (s : SettingsState) : Prop :=
  req.acceptDNS = some true ∧ (env.refuses .dnsStatus ≠ none ∨ dnsSuffix env = "" ∨
    s.fwd.entries.lookup dnsMarkerTailscale = none ∧ AddRefused env.world (dnsSuffix env) s.fwd)

def DnsIdle (env : SettingsEnv) (req : SettingsRequest) (s : SettingsState) : Prop :=
  match req.acceptDNS with
  | none => True
  | some false => s.fwd.entries.lookup dnsMarkerTailscale = none
  | some true => env.refuses .dnsStatus = none ∧ dnsSuffix env ≠ "" ∧
    ∃ entry, s.fwd.entries.lookup dnsMarkerTailscale = some entry ∧ entry.domain = dnsSuffix env

def requestedPrefs (env : SettingsEnv) (req : SettingsRequest) (p : Prefs) : Prefs :=
  match checkEndpoints env req with
  | .ok endpoints => (BuildMaskedPrefs req endpoints).apply p
  | .error _ => p

def WriteSpares (env : SettingsEnv) (req : SettingsRequest) (s : SettingsState) : Prop :=
  ∀ port kept e, req.udpPort = some port → env.writing = .short kept e →
    s.defaults.file = some ((portContent port s.defaults.file).take kept)

def LaterSpares (env : SettingsEnv) (req : SettingsRequest) (s : SettingsState) : Prop :=
  needsPreEdit env req = true ∧ env.refuses .oldPrefs ≠ none ∨
    (∃ e, env.edit = .failed e) ∨
      requestedPrefs env req s.prefs = s.prefs ∧ ((∃ e, env.edit = .lost e) ∨ WriteSpares env req s)

def Harmless (env : SettingsEnv) (req : SettingsRequest) (s : SettingsState) : Prop :=
  (∃ e, (validate env req s).1 = .error e) ∨ DnsStops env req s ∨ DnsIdle env req s ∧ LaterSpares env req s

inductive SettingsStopped (env : SettingsEnv) (req : SettingsRequest) (s : SettingsState) : SettingsState → Prop where
  | validation {e t} (ran : validate env req s = (.error e,t)) : SettingsStopped env req s t
  | forwarding {endpoints t e u} (valid : validate env req s = (.ok endpoints,t))
      (ran : touchDNSForwarding env req t = (some e,u)) : SettingsStopped env req s u
  | reading {endpoints t u e} (valid : validate env req s = (.ok endpoints,t)) (touched : touchDNSForwarding env req t = (none,u))
      (ran : fetchPreEditPrefs env req u = .error e) : SettingsStopped env req s u
  | editing {endpoints t u old e v} (valid : validate env req s = (.ok endpoints,t)) (touched : touchDNSForwarding env req t = (none,u))
      (read : fetchPreEditPrefs env req u = .ok old)
      (ran : EditPrefs env (BuildMaskedPrefs req endpoints) u = (.error e,v)) : SettingsStopped env req s v
  | writing {endpoints t u old updated v e w} (valid : validate env req s = (.ok endpoints,t))
      (touched : touchDNSForwarding env req t = (none,u)) (read : fetchPreEditPrefs env req u = .ok old)
      (edited : EditPrefs env (BuildMaskedPrefs req endpoints) u = (.ok updated,v))
      (ran : applyUDPPortChange env req.udpPort v = (.error e,w)) : SettingsStopped env req s w

section
variable {env : SettingsEnv} {req : SettingsRequest} {s t u : SettingsState} {e : Error}

theorem setSettingsStopped (failed : SetSettings env req s = (.error e,t)) : SettingsStopped env req s t := by
  unfold SetSettings at failed
  split at failed
  · rename_i e' t' ran
    cases failed
    exact .validation ran
  rename_i endpoints t' valid
  split at failed
  · rename_i e' u ran
    cases failed
    exact .forwarding valid ran
  rename_i u touched
  dsimp only at failed
  split at failed
  · rename_i e' ran
    cases failed
    exact .reading valid touched ran
  rename_i old read
  split at failed
  · rename_i e' v ran
    cases failed
    exact .editing valid touched read ran
  rename_i updated v edited
  split at failed
  · rename_i e' w ran
    cases failed
    exact .writing valid touched read edited ran
  · simp at failed

theorem checkUDPPortLeaves (env : SettingsEnv) (req : SettingsRequest) (s : SettingsState) :
    (checkUDPPort env req s).2 = s ∨ (checkUDPPort env req s).2 = {s with defaults := (ReadTailscaledPort s.defaults).2} := by
  unfold checkUDPPort
  split
  · exact .inl rfl
  · split
    · exact .inl rfl
    · dsimp only
      split <;> exact .inr rfl

theorem validateLeaves (env : SettingsEnv) (req : SettingsRequest) (s : SettingsState) :
    (validate env req s).2 = s ∨ (validate env req s).2 = {s with defaults := (ReadTailscaledPort s.defaults).2} := by
  have checked := checkUDPPortLeaves env req s
  unfold validate
  split
  · exact .inl rfl
  split
  · exact .inl rfl
  split
  · rename_i ran
    rw [ran] at checked
    exact checked
  · rename_i ran
    rw [ran] at checked
    split
    · exact checked
    split <;> exact checked

theorem validateOk {endpoints : List AddrPort} (valid : validate env req s = (.ok endpoints,t)) :
    (req.acceptDNS = some true → integrationReady s.fwd.wan = true) ∧ checkEndpoints env req = .ok endpoints := by
  unfold validate at valid
  split at valid
  · simp at valid
  rename_i accepted
  split at valid
  · simp at valid
  split at valid
  · simp at valid
  split at valid
  · simp at valid
  split at valid
  · simp at valid
  refine ⟨fun asked => ?_,(Prod.mk.inj valid).1⟩
  unfold checkAcceptDNS at accepted
  split at accepted
  · contradiction
  · rename_i able
    exact Bool.of_not_eq_false (fun unready => able ⟨asked,unready⟩)

end
section
variable {world : World} {fails : Nat → Option GoError} {suffix : String} {f g : Forwarding} {r : Option GoError}

def SameDns (f g : Forwarding) : Prop := g.entries = f.entries ∧ g.resolver.dns = f.resolver.dns

theorem findLeaves (world : World) (siteID suffix : String) (r : Resolver) : (findDNSPolicyByDomain world siteID suffix r).2.dns = r.dns ∧
      (findDNSPolicyByDomain world siteID suffix r).2.client.apiKey = r.client.apiKey := by
  have asked := (listSource (rfl : doListRequest world (fun _ => r.dns siteID) r.client = (_,_))).1
  unfold findDNSPolicyByDomain ListDNSPolicies
  split
  · rename_i e q ran
    cases (Prod.mk.inj ran).2
    exact ⟨rfl,asked.apiKey⟩
  · rename_i policies q ran
    cases (Prod.mk.inj ran).2
    exact ⟨rfl,asked.apiKey⟩

theorem insertChanges {entries : Dict DNSPolicyEntry} {marker : String} (absent : entries.lookup marker = none) (entry : DNSPolicyEntry) :
    entries.insert marker entry ≠ entries := by
  intro same
  have found : (entries.insert marker entry).lookup marker = some entry := AList.lookup_insert entries
  rw [same,absent] at found
  contradiction

theorem appendChanges (siteID : String) (req : CreateDNSPolicyRequest) (id : String) (dns : DNSSites) :
    (addDNSPolicy siteID req id dns).2 ≠ dns := by
  intro same
  have lengths := congrArg (fun sites : DNSSites => (sites siteID).length) same
  simp [addDNSPolicy] at lengths

theorem addSets {pol : DNSPolicy} {q : Resolver} (absent : f.entries.lookup dnsMarkerTailscale = none)
    (made : EnsureDNSForwardDomain world f.siteID suffix tailscaleDNSResolverIP f.resolver = (.ok pol,q)) :
    ¬ SameDns f (addForwarding world (savingTo fails) suffix f).2 := by
  intro same
  have set : (addForwarding world (savingTo fails) suffix f).2.entries =
      f.entries.insert dnsMarkerTailscale ⟨pol.id,suffix,tailscaleDNSResolverIP⟩ := by
    simp only [addForwarding,made,wrappingState]
    exact (savingEntriesKept _ _).1
  exact insertChanges absent _ (set.symm.trans same.1)

theorem addSame (keyed : f.resolver.client.apiKey ≠ "") (absent : f.entries.lookup dnsMarkerTailscale = none) :
    (SameDns f (addForwarding world (savingTo fails) suffix f).2 ↔ AddRefused world suffix f) ∧
      (AddRefused world suffix f → (addForwarding world (savingTo fails) suffix f).1 ≠ none) := by
  obtain ⟨same,key⟩ := findLeaves world f.siteID suffix f.resolver
  rcases found : findDNSPolicyByDomain world f.siteID suffix f.resolver with ⟨result,q⟩
  rw [found] at same key
  cases result with
  | error e =>
    have refused : AddRefused world suffix f := .inl ⟨e,congrArg Prod.fst found⟩
    simp only [addForwarding,EnsureDNSForwardDomain,found]
    exact ⟨iff_of_true ⟨rfl,same⟩ refused,fun _ given => by cases given⟩
  | ok listed =>
    cases listed with
    | some existing =>
      have made : EnsureDNSForwardDomain world f.siteID suffix tailscaleDNSResolverIP f.resolver = (.ok existing,q) := by
        simp only [EnsureDNSForwardDomain,found]
      have unrefused : ¬ AddRefused world suffix f := by
        rintro (⟨e,failed⟩ | ⟨unlisted,_⟩)
        · rw [found] at failed
          contradiction
        · rw [found] at unlisted
          cases unlisted
      exact ⟨iff_of_false (addSets absent made) unrefused,fun refused => absurd refused unrefused⟩
    | none =>
      have ran : EnsureDNSForwardDomain world f.siteID suffix tailscaleDNSResolverIP f.resolver =
          CreateDNSPolicy world f.siteID ⟨"FORWARD_DOMAIN",suffix,tailscaleDNSResolverIP,true⟩ q := by
        simp only [EnsureDNSForwardDomain,found]
      have unkeyed : q.client.apiKey ≠ "" := key ▸ keyed
      have refusedIff : AddRefused world suffix f ↔ ∃ e, world.answers q.client.calls = .failed e := by
        simp only [AddRefused,found]
        constructor
        · rintro (⟨e,failed⟩ | ⟨_,refused⟩)
          · contradiction
          · exact refused
        · exact fun refused => .inr ⟨trivial,refused⟩
      rw [refusedIff]
      unfold CreateDNSPolicy dnsRequest at ran
      rw [if_neg unkeyed] at ran
      cases answer : world.answers q.client.calls with
      | failed e =>
        rw [answer] at ran
        simp only [addForwarding,ran]
        exact ⟨iff_of_true ⟨rfl,same⟩ ⟨e,rfl⟩,fun _ given => by cases given⟩
      | lost e =>
        rw [answer] at ran
        refine ⟨iff_of_false (fun kept => ?_) (by rintro ⟨_,refused⟩; cases refused),by rintro ⟨_,refused⟩; cases refused⟩
        have dns := kept.2
        simp only [addForwarding,ran] at dns
        exact appendChanges _ _ _ _ (dns.trans same.symm)
      | ok =>
        rw [answer] at ran
        exact ⟨iff_of_false (addSets absent ran) (by rintro ⟨_,refused⟩; cases refused),by rintro ⟨_,refused⟩; cases refused⟩

theorem ensureSame (ready : integrationReady f.wan = true) : ((EnsureDNSForwarding world (savingTo fails) suffix f).1 ≠ none →
      (SameDns f (EnsureDNSForwarding world (savingTo fails) suffix f).2 ↔
        f.entries.lookup dnsMarkerTailscale = none ∧ AddRefused world suffix f)) ∧
    ((EnsureDNSForwarding world (savingTo fails) suffix f).1 = none → (SameDns f (EnsureDNSForwarding world (savingTo fails) suffix f).2 ↔
        ∃ entry, f.entries.lookup dnsMarkerTailscale = some entry ∧ entry.domain = suffix)) := by
  have able : ¬ integrationReady f.wan = false := by simp [ready]
  cases found : f.entries.lookup dnsMarkerTailscale with
  | none =>
    have ran : EnsureDNSForwarding world (savingTo fails) suffix f = addForwarding world (savingTo fails) suffix f := by
      simp only [EnsureDNSForwarding,if_neg able,found]
    obtain ⟨same,fails_⟩ := @addSame world fails suffix f (readyKeyed ready) found
    rw [ran,same]
    refine ⟨fun _ => (and_iff_right rfl).symm,fun returned => iff_of_false (fun refused => fails_ refused returned) ?_⟩
    rintro ⟨entry,given,_⟩
    contradiction
  | some entry =>
    by_cases settled : entry.domain = suffix
    · have ran : EnsureDNSForwarding world (savingTo fails) suffix f = (none,f) := by
        simp only [EnsureDNSForwarding,if_neg able,found,if_pos settled]
      rw [ran]
      exact ⟨fun failed => absurd rfl failed,fun _ => iff_of_true ⟨rfl,rfl⟩ ⟨entry,rfl,settled⟩⟩
    · have ran : EnsureDNSForwarding world (savingTo fails) suffix f =
          addForwarding world (savingTo fails) suffix (dropForwarding world (savingTo fails) entry f) := by
        simp only [EnsureDNSForwarding,if_neg able,found,if_neg settled]
      have changed : ¬ SameDns f (EnsureDNSForwarding world (savingTo fails) suffix f).2 := by
        intro same
        have kept := congrArg (fun entries : Dict DNSPolicyEntry => entries.lookup dnsMarkerTailscale) same.1
        rw [ran] at kept
        rcases (addEntries world fails suffix (dropForwarding world (savingTo fails) entry f)).2 with left | ⟨policyID,set⟩
        · simp only [left,(dropEntries world fails entry f).1,AList.lookup_erase,found] at kept
          contradiction
        · simp only [set,AList.lookup_insert,found] at kept
          exact settled (congrArg DNSPolicyEntry.domain (Option.some.inj kept)).symm
      refine ⟨fun _ => iff_of_false changed (fun both => by cases both.1),fun _ => iff_of_false changed ?_⟩
      rintro ⟨other,given,domain⟩
      cases given
      exact settled domain

theorem removeSame : (SameDns f (RemoveDNSForwarding world (savingTo fails) f).2 ↔ f.entries.lookup dnsMarkerTailscale = none) ∧
    (f.entries.lookup dnsMarkerTailscale = none → (RemoveDNSForwarding world (savingTo fails) f).1 = none) := by
  cases found : f.entries.lookup dnsMarkerTailscale with
  | none =>
    simp only [RemoveDNSForwarding,found]
    exact ⟨iff_of_true ⟨rfl,rfl⟩ trivial,fun _ => trivial⟩
  | some entry =>
    refine ⟨iff_of_false (fun same => ?_) (fun given => by cases given),fun given => by cases given⟩
    have kept := congrArg (fun entries : Dict DNSPolicyEntry => entries.lookup dnsMarkerTailscale) same.1
    simp only [RemoveDNSForwarding,found,wrappingState,(savingEntriesKept _ _).1,AList.lookup_erase] at kept
    contradiction

theorem ensureManifest (world : World) (fails : Nat → Option GoError) (suffix : String) (f : Forwarding) :
    (EnsureDNSForwarding world (savingTo fails) suffix f).2.store.manifest = f.store.manifest := by
  unfold EnsureDNSForwarding
  split
  · rfl
  split
  · rename_i entry found
    split
    · rfl
    · exact (addEntries world fails suffix _).1.trans (dropEntries world fails entry f).2
  · exact (addEntries world fails suffix f).1

theorem removeManifest (world : World) (fails : Nat → Option GoError) (f : Forwarding) :
    (RemoveDNSForwarding world (savingTo fails) f).2.store.manifest = f.store.manifest := by
  unfold RemoveDNSForwarding
  split
  · rfl
  · exact (savingEntriesKept _ _).2

end
section
variable {env : SettingsEnv} {req : SettingsRequest} {s : SettingsState}

theorem applyOn (reached : env.refuses .dnsStatus = none) (connected : dnsSuffix env ≠ "") (s : SettingsState) :
    applyDNSForwarding env true s = ((EnsureDNSForwarding env.world (savingTo env.saves) (dnsSuffix env) s.fwd).1.map
        (fun e => internalError "failed to create DNS forwarding" (some e)),
        {s with fwd := (EnsureDNSForwarding env.world (savingTo env.saves) (dnsSuffix env) s.fwd).2}) := by
  unfold applyDNSForwarding askStatus
  rw [if_pos rfl,reached]
  exact if_neg connected

theorem applyUnanswered (unanswered : env.refuses .dnsStatus ≠ none ∨ dnsSuffix env = "") (s : SettingsState) :
    ∃ e, applyDNSForwarding env true s = (some e,s) := by
  unfold applyDNSForwarding askStatus
  rw [if_pos rfl]
  cases refused : env.refuses .dnsStatus with
  | some e => exact ⟨localFailure e,rfl⟩
  | none =>
    rcases unanswered with silent | blank
    · exact absurd refused silent
    · exact ⟨_,if_pos blank⟩

theorem touchForwards {p : Forwarding → Prop} (idle : p s.fwd) (removed : p (RemoveDNSForwarding env.world (savingTo env.saves) s.fwd).2)
    (ensured : p (EnsureDNSForwarding env.world (savingTo env.saves) (dnsSuffix env) s.fwd).2) :
    ∃ f, (touchDNSForwarding env req s).2 = {s with fwd := f} ∧ p f := by
  unfold touchDNSForwarding
  cases req.acceptDNS with
  | none => exact ⟨s.fwd,rfl,idle⟩
  | some enable =>
    cases enable with
    | false => exact ⟨_,rfl,removed⟩
    | true =>
      by_cases unanswered : env.refuses .dnsStatus ≠ none ∨ dnsSuffix env = ""
      · obtain ⟨e,ran⟩ := applyUnanswered unanswered s
        exact ⟨s.fwd,congrArg Prod.snd ran,idle⟩
      · simp only [not_or,ne_eq,not_not] at unanswered
        exact ⟨_,congrArg Prod.snd (applyOn unanswered.1 unanswered.2 s),ensured⟩

theorem touchLeaves (env : SettingsEnv) (req : SettingsRequest) (s : SettingsState) :
    ∃ f, (touchDNSForwarding env req s).2 = {s with fwd := f} ∧ f.store.manifest = s.fwd.store.manifest :=
  touchForwards rfl (removeManifest env.world env.saves s.fwd) (ensureManifest env.world env.saves _ s.fwd)

section
variable (ready : req.acceptDNS = some true → integrationReady s.fwd.wan = true)
include ready

theorem touchIdle (idle : DnsIdle env req s) :
    (touchDNSForwarding env req s).1 = none ∧ SameDns s.fwd (touchDNSForwarding env req s).2.fwd := by
  unfold DnsIdle at idle
  unfold touchDNSForwarding
  cases wanted : req.acceptDNS with
  | none => exact ⟨rfl,rfl,rfl⟩
  | some enable =>
    rw [wanted] at idle
    cases enable with
    | false =>
      obtain ⟨same,done⟩ := @removeSame env.world env.saves s.fwd
      exact ⟨Option.map_eq_none_iff.mpr (done idle),same.mpr idle⟩
    | true =>
      obtain ⟨reached,connected,entry,found,domain⟩ := idle
      have able : ¬ integrationReady s.fwd.wan = false := by simp [ready wanted]
      have ran : EnsureDNSForwarding env.world (savingTo env.saves) (dnsSuffix env) s.fwd = (none,s.fwd) := by
        simp only [EnsureDNSForwarding,if_neg able,found,if_pos domain]
      dsimp only
      rw [applyOn reached connected,ran]
      exact ⟨rfl,rfl,rfl⟩

theorem touchStops (stops : DnsStops env req s) :
    (touchDNSForwarding env req s).1 ≠ none ∧ SameDns s.fwd (touchDNSForwarding env req s).2.fwd := by
  obtain ⟨wanted,cause⟩ := stops
  unfold touchDNSForwarding
  rw [wanted]
  dsimp only
  by_cases unanswered : env.refuses .dnsStatus ≠ none ∨ dnsSuffix env = ""
  · obtain ⟨e,ran⟩ := applyUnanswered unanswered s
    rw [ran]
    exact ⟨nofun,rfl,rfl⟩
  · simp only [not_or,ne_eq,not_not] at unanswered
    rcases cause with silent | blank | ⟨absent,refused⟩
    · exact absurd unanswered.1 silent
    · exact absurd blank unanswered.2
    · have able : ¬ integrationReady s.fwd.wan = false := by simp [ready wanted]
      have ran : EnsureDNSForwarding env.world (savingTo env.saves) (dnsSuffix env) s.fwd =
          addForwarding env.world (savingTo env.saves) (dnsSuffix env) s.fwd := by
        simp only [EnsureDNSForwarding,if_neg able,absent]
      obtain ⟨same,failed⟩ := @addSame env.world env.saves (dnsSuffix env) s.fwd (readyKeyed (ready wanted)) absent
      rw [applyOn unanswered.1 unanswered.2,ran]
      exact ⟨fun done => failed refused (Option.map_eq_none_iff.mp done),same.mpr refused⟩

theorem touchSame (same : SameDns s.fwd (touchDNSForwarding env req s).2.fwd) : DnsStops env req s ∨ DnsIdle env req s := by
  unfold touchDNSForwarding at same
  unfold DnsIdle
  cases wanted : req.acceptDNS with
  | none => exact .inr trivial
  | some enable =>
    rw [wanted] at same
    cases enable with
    | false => exact .inr (removeSame.1.mp same)
    | true =>
      by_cases unanswered : env.refuses .dnsStatus ≠ none ∨ dnsSuffix env = ""
      · exact .inl ⟨wanted,unanswered.imp id .inl⟩
      · simp only [not_or,ne_eq,not_not] at unanswered
        dsimp only at same
        rw [applyOn unanswered.1 unanswered.2] at same
        obtain ⟨failed,done⟩ := @ensureSame env.world env.saves (dnsSuffix env) s.fwd (ready wanted)
        by_cases returned : (EnsureDNSForwarding env.world (savingTo env.saves) (dnsSuffix env) s.fwd).1 = none
        · exact .inr ⟨unanswered.1,unanswered.2,(done returned).mp same⟩
        · exact .inl ⟨wanted,.inr (.inr ((failed returned).mp same))⟩

end

end
section
variable {env : SettingsEnv} {req : SettingsRequest} {s t u v w : SettingsState} {e : Error}

structure Begun (s t : SettingsState) : Prop where
  fwd : t.fwd = s.fwd
  prefs : t.prefs = s.prefs
  file : t.defaults.file = s.defaults.file

theorem validateBegun {r : Except Error (List AddrPort)} (ran : validate env req s = (r,t)) : Begun s t := by
  have leaves := validateLeaves env req s
  rw [ran] at leaves
  rcases leaves with same | read
  · cases same
    exact ⟨rfl,rfl,rfl⟩
  · cases read
    exact ⟨rfl,rfl,readPortFile s.defaults⟩

theorem begunReady (begun : Begun s t) (ready : req.acceptDNS = some true → integrationReady s.fwd.wan = true) :
    req.acceptDNS = some true → integrationReady t.fwd.wan = true := by
  rw [begun.fwd]
  exact ready

theorem begunStops (begun : Begun s t) : DnsStops env req t ↔ DnsStops env req s := by
  unfold DnsStops
  rw [begun.fwd]

theorem begunIdle (begun : Begun s t) : DnsIdle env req t ↔ DnsIdle env req s := by
  unfold DnsIdle
  rw [begun.fwd]

theorem unchangedIff (begun : Begun s t) (later : w.fwd = (touchDNSForwarding env req t).2.fwd) :
    Unchanged s w ↔ SameDns t.fwd (touchDNSForwarding env req t).2.fwd ∧ w.prefs = s.prefs ∧ w.defaults.file = s.defaults.file := by
  obtain ⟨f,ran,manifest⟩ := touchLeaves env req t
  rw [ran] at later ⊢
  have wanPorts : w.fwd.store.manifest.wanPorts = s.fwd.store.manifest.wanPorts := by rw [later,manifest,begun.fwd]
  have sameDns : SameDns t.fwd f ↔ w.fwd.entries = s.fwd.entries ∧ w.fwd.resolver.dns = s.fwd.resolver.dns := by
    rw [SameDns,later,begun.fwd]
  rw [sameDns]
  exact ⟨fun same => ⟨⟨same.entries,same.dns⟩,same.prefs,same.file⟩,fun ⟨⟨entries,dns⟩,prefs,file⟩ => ⟨entries,dns,prefs,file,wanPorts⟩⟩

theorem touchedPrefs (begun : Begun s t) (touched : touchDNSForwarding env req t = (none,u)) :
    u.prefs = s.prefs ∧ u.defaults.file = s.defaults.file := by
  obtain ⟨f,ran,_⟩ := touchLeaves env req t
  rw [touched] at ran
  rw [show u = {t with fwd := f} from ran]
  exact ⟨begun.prefs,begun.file⟩

theorem writeStopped (file : v.defaults.file = s.defaults.file) (ran : applyUDPPortChange env req.udpPort v = (.error e,w)) :
    w.fwd = v.fwd ∧ w.prefs = v.prefs ∧ (w.defaults.file = s.defaults.file ↔ WriteSpares env req s) := by
  unfold applyUDPPortChange at ran
  cases wanted : req.udpPort with
  | none =>
    rw [wanted] at ran
    simp at ran
  | some port =>
    rw [wanted] at ran
    dsimp only at ran
    split at ran
    · simp at ran
    simp only [WriteTailscaledPort,readPortFile,file] at ran
    cases tried : env.writing with
    | done =>
      rw [tried] at ran
      simp [writeFile] at ran
    | refused e' =>
      rw [tried] at ran
      cases ran
      refine ⟨rfl,rfl,iff_of_true rfl (fun _ _ _ _ short => ?_)⟩
      rw [tried] at short
      contradiction
    | short kept e' =>
      rw [tried] at ran
      cases ran
      refine ⟨rfl,rfl,fun same port' kept' e'' given short => ?_,fun spares => ?_⟩
      · cases Option.some.inj (wanted.symm.trans given)
        cases tried.symm.trans short
        exact same.symm
      · exact (spares port kept e' wanted tried).symm

theorem fetchFails : (∃ e, fetchPreEditPrefs env req u = .error e) ↔ needsPreEdit env req = true ∧ env.refuses .oldPrefs ≠ none := by
  unfold fetchPreEditPrefs GetPrefs
  cases needsPreEdit env req with
  | false => simp
  | true => cases env.refuses .oldPrefs <;> simp

variable {endpoints : List AddrPort}

theorem requestedOk (parsed : checkEndpoints env req = .ok endpoints) (p : Prefs) :
    requestedPrefs env req p = (BuildMaskedPrefs req endpoints).apply p := by
  unfold requestedPrefs
  rw [parsed]

theorem laterUnchanged (valid : validate env req s = (.ok endpoints,t))
    (touched : touchDNSForwarding env req t = (none,u)) (later : w.fwd = u.fwd)
    (rest : w.prefs = s.prefs ∧ w.defaults.file = s.defaults.file ↔ LaterSpares env req s) : Unchanged s w ↔ Harmless env req s := by
  have begun := validateBegun valid
  have ready := begunReady begun (validateOk valid).1
  have returned : (touchDNSForwarding env req t).1 = none := by rw [touched]
  have idle : SameDns t.fwd (touchDNSForwarding env req t).2.fwd ↔ DnsIdle env req s := by
    rw [← begunIdle begun]
    refine ⟨fun same => (touchSame ready same).resolve_left (fun stops => (touchStops ready stops).1 returned),fun idle => (touchIdle ready idle).2⟩
  rw [unchangedIff begun (later.trans (congrArg (fun r => r.2.fwd) touched).symm),idle,rest]
  constructor
  · exact fun both => .inr (.inr both)
  · rintro (⟨e,invalid⟩ | stops | both)
    · rw [valid] at invalid
      contradiction
    · exact absurd returned (touchStops ready ((begunStops begun).mpr stops)).1
    · exact both

theorem forwardingUnchanged (valid : validate env req s = (.ok endpoints,t))
    (failed : touchDNSForwarding env req t = (some e,u)) : Unchanged s u ↔ Harmless env req s := by
  have begun := validateBegun valid
  have ready := begunReady begun (validateOk valid).1
  have stopped : (touchDNSForwarding env req t).1 ≠ none := by
    rw [failed]
    nofun
  obtain ⟨f,ran,_⟩ := touchLeaves env req t
  rw [failed] at ran
  have rest : u.prefs = s.prefs ∧ u.defaults.file = s.defaults.file := by
    rw [show u = {t with fwd := f} from ran]
    exact ⟨begun.prefs,begun.file⟩
  rw [unchangedIff begun (congrArg (fun r => r.2.fwd) failed).symm,and_iff_left rest]
  constructor
  · intro same
    rcases touchSame ready same with stops | idle
    · exact .inr (.inl ((begunStops begun).mp stops))
    · exact absurd (touchIdle ready idle).1 stopped
  · rintro (⟨e',invalid⟩ | stops | ⟨idle,_⟩)
    · rw [valid] at invalid
      contradiction
    · exact (touchStops ready ((begunStops begun).mpr stops)).2
    · exact absurd (touchIdle ready ((begunIdle begun).mpr idle)).1 stopped

theorem setSettingsUnchanged (failed : SetSettings env req s = (.error e,t)) : Unchanged s t ↔ Harmless env req s := by
  cases setSettingsStopped failed with
  | validation ran =>
    obtain ⟨fwd,prefs,file⟩ := validateBegun ran
    refine iff_of_true ⟨by rw [fwd],by rw [fwd],prefs,file,by rw [fwd]⟩ (.inl ⟨_,congrArg Prod.fst ran⟩)
  | forwarding valid ran => exact forwardingUnchanged valid ran
  | reading valid touched ran =>
    have kept := touchedPrefs (validateBegun valid) touched
    exact laterUnchanged valid touched rfl (iff_of_true kept (.inl (fetchFails.mp ⟨_,ran⟩)))
  | @editing endpoints t' u old e' v valid touched read ran =>
    obtain ⟨prefs,file⟩ := touchedPrefs (validateBegun valid) touched
    have fetched : ¬ (needsPreEdit env req = true ∧ env.refuses .oldPrefs ≠ none) := by
      rw [← @fetchFails env req u,read]
      simp
    unfold EditPrefs at ran
    cases edit : env.edit with
    | failed e'' =>
      rw [edit] at ran
      cases ran
      exact laterUnchanged valid touched rfl (iff_of_true ⟨prefs,file⟩ (.inr (.inl ⟨_,edit⟩)))
    | lost e'' =>
      rw [edit] at ran
      cases ran
      refine laterUnchanged valid touched rfl ?_
      rw [LaterSpares,requestedOk (validateOk valid).2,edit]
      simp [fetched,prefs,file]
    | ok =>
      rw [edit] at ran
      simp at ran
  | @writing endpoints t' u old updated v e' w valid touched read edited ran =>
    obtain ⟨prefs,file⟩ := touchedPrefs (validateBegun valid) touched
    have fetched : ¬ (needsPreEdit env req = true ∧ env.refuses .oldPrefs ≠ none) := by
      rw [← @fetchFails env req u,read]
      simp
    unfold EditPrefs at edited
    cases edit : env.edit with
    | failed e'' =>
      rw [edit] at edited
      simp at edited
    | lost e'' =>
      rw [edit] at edited
      simp at edited
    | ok =>
      rw [edit] at edited
      cases edited
      obtain ⟨fwd,applied,spares⟩ := @writeStopped env req s {u with prefs := (BuildMaskedPrefs req endpoints).apply u.prefs} t e' file ran
      refine laterUnchanged valid touched fwd ?_
      rw [LaterSpares,requestedOk (validateOk valid).2,edit,spares,applied]
      simp [fetched,prefs]

end

def refusal : GoError := .new "connection refused"

def calmEnv : SettingsEnv :=
  ⟨slow,fun _ => none,fun _ => none,fun _ => ⟨"Running",some "tail.ts.net",[]⟩,.ok,.done,fun _ => false,fun _ => false,
    fun _ => .ok ("https","control"),fun _ => .error (.new "not an ip:port"),true,[]⟩

def noChange : SettingsRequest := ⟨none,none,none,none,none,none,none,none,none,none,none⟩
def plainPrefs : Prefs := ⟨"gateway",false,false,false,false,false,none,[],[],""⟩

def plainState : SettingsState :=
  ⟨⟨⟨freshWan.client,fun _ => []⟩,freshWan.store,∅⟩,plainPrefs,⟨some "PORT=\"41641\"\n".toList,none⟩,[]⟩

theorem erroneous {α : Type} {r : Except Error α} (failed : r.toBool = false) : ∃ e, r = .error e := by
  cases r with
  | error e => exact ⟨e,rfl⟩
  | ok a => contradiction

def turnOff : SettingsRequest := {noChange with hostname := some "edge", acceptDNS := some false}

theorem setSettingsUnchangedOff : (∃ e, (SetSettings {calmEnv with edit := .failed refusal} turnOff plainState).1 = .error e) ∧
    Unchanged plainState (SetSettings {calmEnv with edit := .failed refusal} turnOff plainState).2 := by
  obtain ⟨e,failed⟩ := erroneous
    (show (SetSettings {calmEnv with edit := .failed refusal} turnOff plainState).1.toBool = false by decide +kernel)
  have ran : SetSettings {calmEnv with edit := .failed refusal} turnOff plainState =
      (.error e,(SetSettings {calmEnv with edit := .failed refusal} turnOff plainState).2) := Prod.ext failed rfl
  have absent : DnsIdle {calmEnv with edit := .failed refusal} turnOff plainState :=
    show plainState.fwd.entries.lookup dnsMarkerTailscale = none from rfl
  exact ⟨⟨e,failed⟩,(setSettingsUnchanged ran).mpr (.inr (.inr ⟨absent,.inr (.inl ⟨refusal,rfl⟩)⟩))⟩

def turnOn : SettingsRequest := {noChange with acceptDNS := some true}
def movePort : SettingsRequest := {noChange with hostname := some "edge", udpPort := some 41700}

theorem failedSettingsStay : (∃ e, (SetSettings {calmEnv with edit := .failed refusal} turnOn plainState).1 = .error e) ∧
    ¬ Unchanged plainState (SetSettings {calmEnv with edit := .failed refusal} turnOn plainState).2 ∧
    (∃ e, (SetSettings {calmEnv with writing := .refused refusal} movePort plainState).1 = .error e) ∧
    ¬ Unchanged plainState (SetSettings {calmEnv with writing := .refused refusal} movePort plainState).2 := by
  refine ⟨erroneous (by decide +kernel),fun same => ?_,erroneous (by decide +kernel),fun same => ?_⟩
  · have set : isDNSForwardingEnabled (SetSettings {calmEnv with edit := .failed refusal} turnOn plainState).2 = true := by decide +kernel
    rw [isDNSForwardingEnabled,HasDNSPolicy,same.entries] at set
    contradiction
  · have edited : (SetSettings {calmEnv with writing := .refused refusal} movePort plainState).2.prefs.hostname = "edge" := by decide +kernel
    rw [same.prefs] at edited
    exact absurd edited (by decide +kernel)

end VpnPack.Service
