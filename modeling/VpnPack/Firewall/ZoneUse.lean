import VpnPack.Firewall.Setup
import VpnPack.Firewall.WanPort

/-! Runs of the orchestrator and the zones they delete. A zone may go when no entry of the
manifest names it. -/
namespace VpnPack.Firewall
open Base Integration List Ops State
open Manifest (setWgS2sZone removeWgS2sTunnel setTailscaleZone)

inductive OrchCall where
  | setupTailscale (ctx : Context)
  | setupWgS2sZone (tunnelID zoneID zoneName : String)
  | teardownWgS2sZone (tunnelID : String)

def orchCall (b : Backend) (disk : Disk) : OrchCall → Orch → Orch
  | .setupTailscale ctx,s => (SetupTailscaleFirewall b disk ctx s).2
  | .setupWgS2sZone tunnelID zoneID zoneName,s => (SetupWgS2sZone b disk tunnelID zoneID zoneName s).2
  | .teardownWgS2sZone tunnelID,s => TeardownWgS2sZone b disk tunnelID s

def Unused (zoneID : String) (m : Manifest) : Prop :=
  m.tailscale.zoneID ≠ zoneID ∧ ∀ tunnelID zm, m.wgS2s.lookup tunnelID = some zm → zm.zoneID ≠ zoneID

def RollsBack (b : Backend) (disk : Disk) (ctxErr : Option GoError) (s : Orch) : Prop :=
  b.replies s.calls = .ok ∧ (ctxErr ≠ none ∨ internalFrom "" s.zones = none ∨
    b.replies (s.calls+1) ≠ .ok ∨ disk.fails s.store.saves ≠ none)

def RollbackSpares (b : Backend) (disk : Disk) (ctxErr : Option GoError) (name : String) (s : Orch) : Prop :=
  RollsBack b disk ctxErr s → ∀ z, zoneNamed s.zones name = some z → Unused z.id s.manifest

def Spares (b : Backend) (disk : Disk) : OrchCall → Orch → Prop
  | .setupTailscale ctx,s => requireIntegration b s = true → RollbackSpares b disk (ctx 0) tailscaleZoneName s
  | .setupWgS2sZone _ zoneID zoneName,s =>
    requireIntegration b s = true → zoneID = "" → RollbackSpares b disk none (displayName zoneName) s
  | .teardownWgS2sZone tunnelID,s =>
    ∀ zm, s.manifest.wgS2s.lookup tunnelID = some zm → zm.zoneID ≠ "" → requireIntegration b s = true →
      disk.fails s.store.saves = none →
      (∀ other entry, other ≠ tunnelID → s.manifest.wgS2s.lookup other = some entry → entry.zoneID ≠ zm.zoneID) →
      s.manifest.tailscale.zoneID ≠ zm.zoneID

structure Orch.Fresh (b : Backend) (s : Orch) : Prop where
  api : s.api.Fresh b.ids
  manifest : ∀ n, s.api.issued ≤ n → Unused (b.ids n) s.manifest

section
variable {b : Backend} {disk : Disk} {ctxErr : Option GoError} {name policyName : String}
  {entry : ZoneManifest → Manifest → Manifest} {s t u : Orch} {o : Outcome}

variable {z tunnelID : String} {m : Manifest} {zm : ZoneManifest} (zoneID : String) (policyIDs : List String)

theorem unusedSetTailscale (unused : Unused z m) (other : zm.zoneID ≠ z) :
    Unused z (m.setTailscaleZone zm) := ⟨other,unused.2⟩

theorem unusedSetWgS2s (unused : Unused z m) (other : zm.zoneID ≠ z) :
    Unused z (m.setWgS2sZone tunnelID zm) := by
  refine ⟨unused.1,fun t entry found => ?_⟩
  by_cases same : t = tunnelID
  · rw [same,setWgS2sZone,AList.lookup_insert] at found
    exact Option.some.inj found ▸ other
  · rw [setWgS2sZone,AList.lookup_insert_ne same] at found
    exact unused.2 t entry found

theorem unusedRemove (unused : Unused z m) : Unused z (m.removeWgS2sTunnel tunnelID) := by
  refine ⟨unused.1,fun t entry found => ?_⟩
  by_cases same : t = tunnelID
  · rw [same,removeWgS2sTunnel,AList.lookup_erase] at found
    contradiction
  · rw [removeWgS2sTunnel,AList.lookup_erase_ne same] at found
    exact unused.2 t entry found

theorem recordingFresh {change : Manifest → Manifest} (fresh : s.Fresh b)
    (keeps : ∀ n, s.api.issued ≤ n → Unused (b.ids n) s.manifest → Unused (b.ids n) (change s.manifest)) :
    (recording disk change s).2.Fresh b := by
  refine ⟨fresh.api,fun n later => ?_⟩
  rcases updateManifest disk change s.store with same | same
  · change Unused (b.ids n) (update disk change s.store).2.manifest
    rw [same]
    exact keeps n later (fresh.manifest n later)
  · change Unused (b.ids n) (update disk change s.store).2.manifest
    rw [same]
    exact fresh.manifest n later

theorem deletePolicyFresh (fresh : s.Fresh b) (policyID : String) : (deletePolicy b s policyID).Fresh b := by
  simp only [deletePolicy]
  split
  · exact ⟨Api.deletePolicyFresh policyID fresh.api,fresh.manifest⟩
  · exact ⟨fresh.api,fresh.manifest⟩

theorem rollbackFresh (fresh : s.Fresh b) : (rollbackZone b zoneID policyIDs s).Fresh b := by
  have policies : (policyIDs.foldl (deletePolicy b) s).Fresh b := by
    induction policyIDs generalizing s with
    | nil => exact fresh
    | cons policyID rest ih => exact ih (deletePolicyFresh fresh policyID)
  simp only [rollbackZone,deleteZone]
  split
  · exact ⟨Api.deleteZoneFresh zoneID policies.api,policies.manifest⟩
  · exact ⟨policies.api,policies.manifest⟩

theorem ensureZoneIssued (ids : Nat → String) (name : String) (a : Api) : a.issued ≤ (a.ensureZone ids name).2.issued := by
  rcases Api.ensureZoneSource ids name a with ⟨z,_,same⟩ | ⟨_,same⟩ <;> rw [same]
  exact Nat.le_succ _

theorem afterZoneFresh (name : String) (fresh : s.Fresh b) : (afterZone b name s).Fresh b :=
  ⟨(Api.ensureZoneFresh b.idsInj name fresh.api).1,
    fun n later => fresh.manifest n (Nat.le_trans (ensureZoneIssued b.ids name s.api) later)⟩

theorem policiesFresh {zoneID : String} {made : Except GoError (List String)} (fresh : s.Fresh b)
    (ran : ensurePolicies b policyName zoneID s = (made,u)) : u.Fresh b ∧ s.api.issued ≤ u.api.issued := by
  have added (wants : List CreatePolicyRequest) (reached : Nat) (same : u.store = s.store)
      (grown : u.api = s.api.addPolicies ((Api.ensureEach b.ids s.api.site.policies wants s.api.issued).2.take reached)) :
      u.Fresh b ∧ s.api.issued ≤ u.api.issued := by
    have later : s.api.issued ≤ u.api.issued := by rw [grown]; exact Nat.le_add_right _ _
    refine ⟨⟨grown ▸ Api.addPoliciesFresh b.idsInj reached fresh.api,fun n after => ?_⟩,later⟩
    rw [Orch.manifest,same]
    exact fresh.manifest n (Nat.le_trans later after)
  cases made with
  | error e =>
    obtain ⟨only,_,⟨_,same⟩ | ⟨internal,reached,_,_,grown⟩⟩ := policiesFailedSource ran
    · refine ⟨⟨same ▸ fresh.api,fun n after => ?_⟩,same ▸ le_refl _⟩
      rw [Orch.manifest,only.store]
      exact fresh.manifest n (same ▸ after)
    · exact added _ reached only.store grown
  | ok policyIDs =>
    obtain ⟨only,_,_,internal,_,_,grown⟩ := policiesMadeSource ran
    exact added (wantPolicies policyName zoneID internal) _ only.store
      (grown.trans (congrArg (fun made => s.api.addPolicies made) take_length.symm))

theorem endedFresh (ended : Ended b disk ctxErr name policyName entry s o t) (fresh : s.Fresh b)
    (keeps : ∀ z zm m, Unused z m → zm.zoneID ≠ z → Unused z (entry zm m)) : t.Fresh b := by
  have after := afterZoneFresh name fresh
  have saved {policyIDs chainPrefix u r} (made : ensurePolicies b policyName (ensured b name s).id (afterZone b name s) = (.ok policyIDs,u))
      (ran : recording disk (entry ⟨(ensured b name s).id,(ensured b name s).name,policyIDs,chainPrefix⟩) u = r) : r.2.Fresh b := by
    obtain ⟨grown,issued⟩ := policiesFresh after made
    rw [← ran]
    refine recordingFresh grown (fun n after unused => keeps _ _ _ unused ?_)
    exact (Api.ensureZoneFresh b.idsInj name fresh.api).2 n (Nat.le_trans issued after)
  cases ended with
  | @zoneFailed e reached reply =>
    by_cases none_ : reached = 0
    · simp only [if_pos none_]
      exact ⟨fresh.api,fresh.manifest⟩
    · simp only [if_neg none_]
      exact ⟨after.api,after.manifest⟩
  | cancelled reply ctx => exact rollbackFresh _ _ after
  | policiesFailed reply ctx failed => exact rollbackFresh _ _ (policiesFresh after failed).1
  | saveFailed reply ctx made stopped => exact rollbackFresh _ _ (saved made stopped)
  | recorded reply ctx made stopped => exact saved made stopped

theorem rollbackIssued (s : Orch) :
    (rollbackZone b zoneID policyIDs s).api.issued = s.api.issued := by
  have policies : (policyIDs.foldl (deletePolicy b) s).api.issued = s.api.issued := by
    induction policyIDs generalizing s with
    | nil => rfl
    | cons policyID rest ih =>
      refine (ih (deletePolicy b s policyID)).trans ?_
      simp only [deletePolicy]
      split <;> rfl
  simp only [rollbackZone,deleteZone]
  split <;> exact policies

theorem endedIssued (fresh : s.Fresh b) (ended : Ended b disk ctxErr name policyName entry s o t) : s.api.issued ≤ t.api.issued := by
  have after := afterZoneFresh name fresh
  have later : s.api.issued ≤ (afterZone b name s).api.issued := ensureZoneIssued b.ids name s.api
  cases ended with
  | @zoneFailed e reached reply =>
    dsimp only
    split
    · exact Nat.le_refl _
    · exact later
  | cancelled reply ctx => exact rollbackIssued _ _ (afterZone b name s) ▸ later
  | policiesFailed reply ctx failed =>
    rw [rollbackIssued]
    exact Nat.le_trans later (policiesFresh after failed).2
  | saveFailed reply ctx made stopped =>
    rw [rollbackIssued,← congrArg (fun r => r.2.api.issued) stopped]
    exact Nat.le_trans later (policiesFresh after made).2
  | recorded reply ctx made saved =>
    rw [← congrArg (fun r => r.2.api.issued) saved]
    exact Nat.le_trans later (policiesFresh after made).2

theorem ensuredUnused (fresh : s.Fresh b) :
    Unused (ensured b name s).id s.manifest ↔ ∀ z, zoneNamed s.zones name = some z → Unused z.id s.manifest := by
  simp only [ensured,Orch.zones]
  rcases Api.ensureZoneSource b.ids name s.api with ⟨z,found,same⟩ | ⟨absent,same⟩
  · rw [same,found]
    exact ⟨fun unused y here => Option.some.inj here ▸ unused,fun unused => unused z rfl⟩
  · rw [same,absent]
    exact iff_of_true (fresh.manifest _ (Nat.le_refl _)) (fun z here => by cases here)

theorem rollbackUnused {policyIDs : List String} (fresh : s.Fresh b) (deletes : u.deletes = s.deletes)
    (manifest : u.manifest = s.manifest) (rolls : RollsBack b disk ctxErr s) :
    ∃ new, (rollbackZone b (ensured b name s).id policyIDs u).deletes = s.deletes ++ new ∧
      ((∀ d ∈ new, Unused d.1 d.2) ↔ RollbackSpares b disk ctxErr name s) := by
  refine ⟨[((ensured b name s).id,s.manifest)],?_,?_⟩
  · rw [(rollbackSource b _ policyIDs u).2,deletes,manifest]
  · rw [forall_mem_singleton,ensuredUnused fresh]
    exact ⟨fun unused _ => unused,fun spares => spares rolls⟩

theorem recordedSafe {zoneID : String} {policyIDs : List String} {change : Manifest → Manifest}
    (other : name ≠ "Internal" ∧ name ≠ "LAN" ∧ name ≠ "Default") (ctx : ctxErr = none)
    (made : ensurePolicies b policyName zoneID (afterZone b name s) = (.ok policyIDs,u))
    (saved : recording disk change u = (none,t)) : ¬ RollsBack b disk ctxErr s := by
  obtain ⟨only,_,answered,internal,found,_⟩ := policiesMadeSource made
  intro rolls
  rcases rolls.2 with stops | absent | refused | fails
  · exact stops ctx
  · rw [internalAfterZone other,absent] at found
    cases found
  · exact refused answered
  · have fine := (recordingFails saved).mp rfl
    rw [only.store] at fine
    exact fails fine

theorem endedDeletes (reverts : disk.reverts = true) (other : name ≠ "Internal" ∧ name ≠ "LAN" ∧ name ≠ "Default")
    (fresh : s.Fresh b) (ended : Ended b disk ctxErr name policyName entry s o t) :
    ∃ new, t.deletes = s.deletes ++ new ∧ ((∀ d ∈ new, Unused d.1 d.2) ↔ RollbackSpares b disk ctxErr name s) := by
  have nothing (safe : ¬ RollsBack b disk ctxErr s) :
      ∃ new, s.deletes = s.deletes ++ new ∧ ((∀ d ∈ new, Unused d.1 d.2) ↔ RollbackSpares b disk ctxErr name s) :=
    ⟨[],(append_nil _).symm,iff_of_true (fun d member => by cases member) (fun rolls => absurd rolls safe)⟩
  cases ended with
  | zoneFailed reply =>
    refine nothing (fun rolls => ?_)
    have answered := rolls.1
    rw [reply] at answered
    cases answered
  | cancelled reply ctx => exact rollbackUnused fresh rfl rfl ⟨reply,.inl (by simp [ctx])⟩
  | policiesFailed reply ctx failed =>
    obtain ⟨only,_,cause⟩ := policiesFailedSource failed
    refine rollbackUnused fresh only.deletes (congrArg Store.manifest only.store) ⟨reply,.inr ?_⟩
    rcases cause with ⟨absent,_⟩ | ⟨_,_,_,refused,_⟩
    · exact .inl (internalAfterZone other ▸ absent)
    · exact .inr (.inl (by rw [afterZone] at refused; simp [refused]))
  | @saveFailed e policyIDs chainPrefix u v reply ctx made stopped =>
    obtain ⟨only,_⟩ := policiesMadeSource made
    have kept : v.manifest = s.manifest := (recordingReverts reverts stopped).trans (congrArg Store.manifest only.store)
    have deletes : v.deletes = s.deletes := (congrArg (fun r => r.2.deletes) stopped).symm.trans only.deletes
    refine rollbackUnused fresh deletes kept ⟨reply,.inr (.inr (.inr (fun fine => ?_)))⟩
    cases (recordingFails stopped).mpr (only.store.symm ▸ fine)
  | @recorded policyIDs chainPrefix u _ reply ctx made saved =>
    have deletes : t.deletes = s.deletes := (congrArg (fun r => r.2.deletes) saved).symm.trans (policiesMadeSource made).1.deletes
    rw [deletes]
    exact nothing (recordedSafe other ctx made saved)

end
section
variable {b : Backend} {disk : Disk} {s : Orch}

theorem tailscaleSource (ctx : Context) (ready : requireIntegration b s = true) :
    ∃ o t, Ended b disk (ctx 0) tailscaleZoneName "Tailscale" setTailscaleZone s o t ∧ ((SetupTailscaleFirewall b disk ctx s).2 = t ∨
        ∃ oldPrefix, (SetupTailscaleFirewall b disk ctx s).2 = (recording disk (setTailscaleZone
          ⟨s.manifest.tailscale.zoneID,s.manifest.tailscale.zoneName,s.manifest.tailscale.policyIDs,oldPrefix⟩) t).2) := by
  rcases ran : ensureRecorded b disk (ctx 0) tailscaleZoneName "Tailscale" setTailscaleZone s with ⟨o,t⟩
  refine ⟨o,t,ensureRecordedEnded ran,?_⟩
  simp only [SetupTailscaleFirewall,ready,Bool.true_eq_false,if_false,ran]
  cases o with
  | recorded zone policyIDs chainPrefix =>
    dsimp only
    split
    · exact .inr ⟨_,rfl⟩
    · split
      · exact .inr ⟨_,rfl⟩
      · exact .inl rfl
  | _ => exact .inl rfl

variable (tunnelID zoneName : String)

theorem wgS2sZoneSource (ready : requireIntegration b s = true) :
    ∃ o, Ended b disk none (displayName zoneName) (orDefaultZone zoneName) (setWgS2sZone tunnelID) s o
      (SetupWgS2sZone b disk tunnelID "" zoneName s).2 := by
  rcases ran : ensureRecorded b disk none (displayName zoneName) (orDefaultZone zoneName) (setWgS2sZone tunnelID) s with ⟨o,t⟩
  have same : (SetupWgS2sZone b disk tunnelID "" zoneName s).2 = t := by
    simp only [SetupWgS2sZone,ready,Bool.true_eq_false,if_false,ne_eq,not_true_eq_false,ran]
    cases o <;> rfl
  exact ⟨o,same ▸ ensureRecordedEnded ran⟩

theorem joinZoneSource {zoneID : String} (tunnelID zoneName : String) (named : zoneID ≠ "") :
    (SetupWgS2sZone b disk tunnelID zoneID zoneName s).2 = s ∨ ∃ other zm, s.manifest.wgS2s.lookup other = some zm ∧
        (SetupWgS2sZone b disk tunnelID zoneID zoneName s).2 = (recording disk (setWgS2sZone tunnelID zm) s).2 := by
  simp only [SetupWgS2sZone,if_pos named]
  split
  · exact .inl rfl
  · split
    · exact .inl rfl
    · rename_i zm found
      obtain ⟨other,here⟩ := (b.orderSame _ zm).mp (mem_of_find?_eq_some found)
      refine .inr ⟨other,zm,here,?_⟩
      split
      · rename_i e t stopped
        exact (congrArg Prod.snd stopped).symm
      · rename_i t saved
        exact (congrArg Prod.snd saved).symm

def forgotten (disk : Disk) (tunnelID : String) (s : Orch) : Orch :=
  (recording disk (removeWgS2sTunnel tunnelID) s).2

inductive TornDown (b : Backend) (disk : Disk) (tunnelID : String) (s : Orch) : Orch → Prop where
  | absent (missing : s.manifest.wgS2s.lookup tunnelID = none) : TornDown b disk tunnelID s s
  | blank {zm} (found : s.manifest.wgS2s.lookup tunnelID = some zm) (unnamed : zm.zoneID = "") :
    TornDown b disk tunnelID s (forgotten disk tunnelID s)
  | shared {zm other entry} (found : s.manifest.wgS2s.lookup tunnelID = some zm)
      (here : (forgotten disk tunnelID s).manifest.wgS2s.lookup other = some entry) (same : entry.zoneID = zm.zoneID) :
    TornDown b disk tunnelID s (forgotten disk tunnelID s)
  | off (off : requireIntegration b (forgotten disk tunnelID s) = false) :
    TornDown b disk tunnelID s (forgotten disk tunnelID s)
  | deleted {zm} (found : s.manifest.wgS2s.lookup tunnelID = some zm) (named : zm.zoneID ≠ "")
      (ready : requireIntegration b (forgotten disk tunnelID s) = true)
      (alone : ∀ other entry, (forgotten disk tunnelID s).manifest.wgS2s.lookup other = some entry → entry.zoneID ≠ zm.zoneID) :
    TornDown b disk tunnelID s (rollbackZone b zm.zoneID zm.policyIDs (forgotten disk tunnelID s))

theorem teardownSource : TornDown b disk tunnelID s (TeardownWgS2sZone b disk tunnelID s) := by
  simp only [TeardownWgS2sZone]
  split
  · exact .absent (by assumption)
  · rename_i zm found
    split
    · exact .blank found (by assumption)
    · rename_i named
      split
      · rename_i shared
        obtain ⟨entry,member,same⟩ := any_eq_true.mp shared
        obtain ⟨other,here⟩ := (b.orderSame _ entry).mp member
        exact .shared found here (beq_iff_eq.mp same)
      · rename_i alone
        split
        · exact .off (by assumption)
        · rename_i ready
          refine .deleted found named (Bool.not_eq_false _ ▸ ready) (fun other entry here same => alone ?_)
          exact any_eq_true.mpr ⟨entry,(b.orderSame _ entry).mpr ⟨other,here⟩,beq_iff_eq.mpr same⟩

theorem callFresh (a : OrchCall) (fresh : s.Fresh b) : (orchCall b disk a s).Fresh b := by
  cases a with
  | setupTailscale ctx =>
    simp only [orchCall]
    cases ready : requireIntegration b s with
    | false =>
      simp only [SetupTailscaleFirewall,ready,if_true]
      exact fresh
    | true =>
      obtain ⟨o,t,ended,final⟩ := @tailscaleSource b disk s ctx ready
      have kept : t.Fresh b := endedFresh ended fresh (fun _ _ _ => unusedSetTailscale)
      rcases final with same | ⟨oldPrefix,same⟩
      · exact same ▸ kept
      · rw [same]
        refine recordingFresh kept (fun n later unused => unusedSetTailscale unused ?_)
        exact (fresh.manifest n (Nat.le_trans (endedIssued fresh ended) later)).1
  | setupWgS2sZone tunnelID zoneID zoneName =>
    simp only [orchCall]
    cases ready : requireIntegration b s with
    | false =>
      simp only [SetupWgS2sZone,ready,if_true]
      exact fresh
    | true =>
      by_cases blank : zoneID = ""
      · obtain ⟨o,ended⟩ := @wgS2sZoneSource b disk s tunnelID zoneName ready
        rw [blank]
        exact endedFresh ended fresh (fun _ _ _ => unusedSetWgS2s)
      · rcases @joinZoneSource b disk s zoneID tunnelID zoneName blank with same | ⟨other,zm,found,same⟩
        · exact same.symm ▸ fresh
        · rw [same]
          exact recordingFresh fresh (fun n later unused => unusedSetWgS2s unused (unused.2 other zm found))
  | teardownWgS2sZone tunnelID =>
    have kept : (forgotten disk tunnelID s).Fresh b := recordingFresh fresh (fun _ _ unused => unusedRemove unused)
    have torn := @teardownSource b disk s tunnelID
    simp only [orchCall]
    generalize TeardownWgS2sZone b disk tunnelID s = t at torn ⊢
    cases torn with
    | absent => exact fresh
    | deleted => exact rollbackFresh _ _ kept
    | _ => exact kept

theorem forgottenOther (reverts : disk.reverts = true) {tunnelID : String} :
    (disk.fails s.store.saves = none ∧ (forgotten disk tunnelID s).manifest = s.manifest.removeWgS2sTunnel tunnelID) ∨
      (disk.fails s.store.saves ≠ none ∧ (forgotten disk tunnelID s).manifest = s.manifest) := by
  rcases ran : recording disk (removeWgS2sTunnel tunnelID) s with ⟨err,t⟩
  have final : forgotten disk tunnelID s = t := congrArg Prod.snd ran
  rw [final]
  cases err with
  | none => exact .inl ⟨(recordingFails ran).mp rfl,recordingOk ran⟩
  | some e => exact .inr ⟨fun fine => (by cases (recordingFails ran).mpr fine),recordingReverts reverts ran⟩

theorem forgottenReady : requireIntegration b (forgotten disk tunnelID s) = requireIntegration b s := by
  have siteID : (forgotten disk tunnelID s).manifest.siteID = s.manifest.siteID := by
    rcases updateManifest disk (removeWgS2sTunnel tunnelID) s.store with same | same
    · exact (congrArg Manifest.siteID same).trans rfl
    · exact congrArg Manifest.siteID same
  simp only [requireIntegration,siteID]

theorem nothingDeleted {allowed : Prop} (safe : allowed) : ∃ new, s.deletes = s.deletes ++ new ∧ ((∀ d ∈ new, Unused d.1 d.2) ↔ allowed) :=
  ⟨[],(append_nil _).symm,iff_of_true (fun d member => by cases member) safe⟩

theorem removedOther {m : Manifest} {tunnelID other : String} {entry : ZoneManifest}
    (here : (m.removeWgS2sTunnel tunnelID).wgS2s.lookup other = some entry) : other ≠ tunnelID ∧ m.wgS2s.lookup other = some entry := by
  have different : other ≠ tunnelID := by
    rintro rfl
    rw [removeWgS2sTunnel,AList.lookup_erase] at here
    contradiction
  rw [removeWgS2sTunnel,AList.lookup_erase_ne different] at here
  exact ⟨different,here⟩

section
variable (reverts : disk.reverts = true)
include reverts

theorem tailscaleDeletes (fresh : s.Fresh b) (ctx : Context) : ∃ new, (orchCall b disk (.setupTailscale ctx) s).deletes = s.deletes ++ new ∧
      ((∀ d ∈ new, Unused d.1 d.2) ↔ Spares b disk (.setupTailscale ctx) s) := by
  simp only [orchCall,Spares]
  cases ready : requireIntegration b s with
  | false =>
    simp only [SetupTailscaleFirewall,ready,if_true]
    exact nothingDeleted (fun bad => by cases bad)
  | true =>
    obtain ⟨o,t,ended,final⟩ := @tailscaleSource b disk s ctx ready
    have deletes : (SetupTailscaleFirewall b disk ctx s).2.deletes = t.deletes := by
      rcases final with same | ⟨oldPrefix,same⟩ <;> rw [same]
      rfl
    simp only [deletes,true_implies]
    exact endedDeletes reverts (by decide) fresh ended

theorem wgS2sZoneDeletes (fresh : s.Fresh b) (tunnelID zoneID zoneName : String) :
    ∃ new, (orchCall b disk (.setupWgS2sZone tunnelID zoneID zoneName) s).deletes = s.deletes ++ new ∧
      ((∀ d ∈ new, Unused d.1 d.2) ↔ Spares b disk (.setupWgS2sZone tunnelID zoneID zoneName) s) := by
  simp only [orchCall,Spares]
  cases ready : requireIntegration b s with
  | false =>
    simp only [SetupWgS2sZone,ready,if_true]
    exact nothingDeleted (fun bad => by cases bad)
  | true =>
    by_cases blank : zoneID = ""
    · obtain ⟨o,ended⟩ := @wgS2sZoneSource b disk s tunnelID zoneName ready
      simp only [blank,true_implies]
      exact endedDeletes reverts (displayOther zoneName) fresh ended
    · have deletes : (SetupWgS2sZone b disk tunnelID zoneID zoneName s).2.deletes = s.deletes := by
        rcases @joinZoneSource b disk s zoneID tunnelID zoneName blank with same | ⟨other,zm,found,same⟩ <;> rw [same]
        rfl
      rw [deletes]
      exact nothingDeleted (fun _ named => absurd named blank)

theorem teardownDeletes (tunnelID : String) : ∃ new, (orchCall b disk (.teardownWgS2sZone tunnelID) s).deletes = s.deletes ++ new ∧
      ((∀ d ∈ new, Unused d.1 d.2) ↔ Spares b disk (.teardownWgS2sZone tunnelID) s) := by
  have torn := @teardownSource b disk s tunnelID
  simp only [orchCall,Spares]
  generalize TeardownWgS2sZone b disk tunnelID s = t at torn ⊢
  cases torn with
  | absent missing =>
    refine nothingDeleted (fun zm found => ?_)
    rw [missing] at found
    contradiction
  | @blank zm found unnamed =>
    refine nothingDeleted (fun zm' found' named => ?_)
    rw [found] at found'
    exact absurd (Option.some.inj found' ▸ unnamed) named
  | @shared zm other entry found here same =>
    refine nothingDeleted (fun zm' found' _ _ fine alone => ?_)
    rw [found] at found'
    cases Option.some.inj found'
    rcases @forgottenOther disk s reverts tunnelID with ⟨_,manifest⟩ | ⟨fails,_⟩
    · rw [manifest] at here
      obtain ⟨different,listed⟩ := removedOther here
      exact absurd same (alone other entry different listed)
    · exact absurd fine fails
  | off off =>
    rw [forgottenReady] at off
    exact nothingDeleted (fun _ _ _ ready => absurd ready (by simp [off]))
  | @deleted zm found named ready alone =>
    rw [forgottenReady] at ready
    rcases @forgottenOther disk s reverts tunnelID with ⟨fine,manifest⟩ | ⟨_,manifest⟩
    · rw [manifest] at alone
      refine ⟨[(zm.zoneID,s.manifest.removeWgS2sTunnel tunnelID)],?_,?_⟩
      · rw [(rollbackSource b _ _ _).2,manifest]
        rfl
      · rw [forall_mem_singleton]
        constructor
        · intro unused zm' found' _ _ _ _
          rw [found] at found'
          exact Option.some.inj found' ▸ unused.1
        · intro spares
          refine ⟨spares zm found named ready fine (fun other entry different here => alone other entry ?_),alone⟩
          rw [removeWgS2sTunnel,AList.lookup_erase_ne different]
          exact here
    · rw [manifest] at alone
      exact absurd rfl (alone tunnelID zm found)

theorem callDeletes (a : OrchCall) (fresh : s.Fresh b) :
    ∃ new, (orchCall b disk a s).deletes = s.deletes ++ new ∧ ((∀ d ∈ new, Unused d.1 d.2) ↔ Spares b disk a s) := by
  cases a with
  | setupTailscale ctx => exact tailscaleDeletes reverts fresh ctx
  | setupWgS2sZone tunnelID zoneID zoneName => exact wgS2sZoneDeletes reverts fresh tunnelID zoneID zoneName
  | teardownWgS2sZone tunnelID => exact teardownDeletes reverts tunnelID

theorem runDeletes (run : List OrchCall) (fresh : s.Fresh b) :
    ∃ new, (run.foldl (fun s a => orchCall b disk a s) s).deletes = s.deletes ++ new ∧
      ((∀ d ∈ new, Unused d.1 d.2) ↔ Along (orchCall b disk) (Spares b disk) run s) := by
  induction run generalizing s with
  | nil => exact ⟨[],(append_nil _).symm,iff_of_true (fun d member => by cases member) trivial⟩
  | cons a rest ih =>
    obtain ⟨first,deletes,known⟩ := callDeletes reverts a fresh
    obtain ⟨later,more,rest_⟩ := ih (@callFresh b disk s a fresh)
    refine ⟨first ++ later,?_,?_⟩
    · rw [foldl_cons,more,deletes,append_assoc]
    · rw [forall_mem_append,known,rest_]
      exact Iff.rfl

end

end

theorem zoneDeletesUnused {b : Backend} {disk : Disk} {start : Orch} (reverts : disk.reverts = true) (fresh : start.Fresh b)
    (begins : start.deletes = []) (run : List OrchCall) :
    (∀ d ∈ (run.foldl (fun s a => orchCall b disk a s) start).deletes, Unused d.1 d.2) ↔
      Along (orchCall b disk) (Spares b disk) run start := by
  obtain ⟨new,deletes,known⟩ := runDeletes reverts run fresh
  rw [deletes,begins,nil_append]
  exact known

def entryList (entries : Dict ZoneManifest) : List ZoneManifest := entries.entries.map Sigma.snd

theorem entryListSame (entries : Dict ZoneManifest) (zm : ZoneManifest) :
    zm ∈ entryList entries ↔ ∃ tunnelID, entries.lookup tunnelID = some zm := by
  rw [entryList,mem_map]
  constructor
  · rintro ⟨⟨tunnelID,zm'⟩,member,same⟩
    exact ⟨tunnelID,same ▸ AList.mem_lookup_iff.mpr member⟩
  · rintro ⟨tunnelID,found⟩
    exact ⟨⟨tunnelID,zm⟩,AList.mem_lookup_iff.mp found,rfl⟩

def answering : Backend :=
  ⟨true,fun _ => .ok,strokes,fun _ _ => "",fun _ => none,entryList,strokesInj,strokesText,entryListSame⟩

def revertingDisk : Disk := ⟨fun _ => none,true⟩
def freshOrch : Orch := ⟨⟨⟨[internalZone],[]⟩,0⟩,0,⟨bareManifest,0⟩,[]⟩

theorem strokesHead (n : Nat) : (strokes n).toList.head? = some '|' := by simp [strokes,replicate_succ]

theorem freshOrchFresh : freshOrch.Fresh answering := by
  refine ⟨⟨fun z member n _ same => ?_,fun p member => by cases member⟩,fun n _ => ⟨fun blank => strokesText n blank.symm,?_⟩⟩
  · cases mem_singleton.mp member
    have heads := congrArg (fun id => id.toList.head?) same
    exact absurd (heads.trans (strokesHead n)) (by decide)
  · intro tunnelID zm found
    cases found

def ownZone : List OrchCall :=
  [.setupTailscale background,.setupWgS2sZone "t1" "" "",.teardownWgS2sZone "t1"]

theorem zoneDeletesUnusedOwn :
    (ownZone.foldl (fun s a => orchCall answering revertingDisk a s) freshOrch).deletes.map Prod.fst = [strokes 3] ∧
    ∀ d ∈ (ownZone.foldl (fun s a => orchCall answering revertingDisk a s) freshOrch).deletes, Unused d.1 d.2 := by
  refine ⟨by decide +kernel,(zoneDeletesUnused rfl freshOrchFresh rfl ownZone).mpr ⟨?_,?_,?_,trivial⟩⟩
  · intro _ _ z found
    have absent : zoneNamed freshOrch.zones tailscaleZoneName = none := by decide +kernel
    rw [absent] at found
    contradiction
  · intro _ _ _ z found
    have absent : zoneNamed (orchCall answering revertingDisk (.setupTailscale background) freshOrch).zones
        (displayName "") = none := by decide +kernel
    rw [absent] at found
    contradiction
  · intro zm found _ _ _ _
    have own : (orchCall answering revertingDisk (.setupWgS2sZone "t1" "" "")
        (orchCall answering revertingDisk (.setupTailscale background) freshOrch)).manifest.wgS2s.lookup "t1" =
          some ⟨strokes 3,"VPN Pack: WireGuard S2S",[strokes 4,strokes 5],"VPN"⟩ := by decide +kernel
    rw [own] at found
    cases found
    decide +kernel

def namesake : List OrchCall :=
  [.setupTailscale background,.setupWgS2sZone "t1" "" "Tailscale",.teardownWgS2sZone "t1"]

theorem namesakeDeletesTailscale : freshOrch.Fresh answering ∧ freshOrch.deletes = [] ∧
    ∃ m, (namesake.foldl (fun s a => orchCall answering revertingDisk a s) freshOrch).deletes = [(strokes 0,m)] ∧
      m.tailscale.zoneID = strokes 0 ∧ ¬ Unused (strokes 0) m := by
  have deletes : (namesake.foldl (fun s a => orchCall answering revertingDisk a s) freshOrch).deletes.map
      (fun d => (d.1,d.2.tailscale.zoneID)) = [(strokes 0,strokes 0)] := by decide +kernel
  obtain ⟨⟨zoneID,m⟩,only,same⟩ := map_eq_singleton_iff.mp deletes
  obtain ⟨rfl,used⟩ := Prod.mk.inj same
  exact ⟨freshOrchFresh,rfl,m,only,used,fun unused => unused.1 used⟩

end VpnPack.Firewall
