import VpnPack.Firewall.ZoneUse

/-! What a failing zone setup leaves in the Integration API when the calls of its rollback
succeed. -/
namespace VpnPack.Firewall
open Base Integration List Ops State

structure SameObjects (s t : Orch) : Prop where
  zones : ∀ z, z ∈ t.zones ↔ z ∈ s.zones
  policies : ∀ p, p ∈ t.api.site.policies ↔ p ∈ s.api.site.policies

def RollbackAnswered (b : Backend) (ctxErr : Option GoError) (s : Orch) : Prop :=
  ∀ n, s.calls + (if ctxErr = none then 2 else 1) ≤ n → b.replies n = .ok

def knownPolicy (s : Orch) (name : String) : Prop := findExistingPolicy s.api.site.policies name ≠ ""

def Restores (b : Backend) (ctxErr : Option GoError) (name policyName : String) (s : Orch) : Prop :=
  zoneNamed s.zones name = none ∧ (ctxErr = none → internalFrom "" s.zones ≠ none →
    match b.replies (s.calls+1) with
    | .failed _ reached => reached = 0 ∨ (knownPolicy s (allowTo policyName) ∧ knownPolicy s (allowFrom policyName))
    | .ok => ¬ knownPolicy s (allowTo policyName) ∧ ¬ knownPolicy s (allowFrom policyName))

section
variable {b : Backend} {disk : Disk} {ctxErr : Option GoError} {name policyName zoneID internal : String}
  {entry : ZoneManifest → Manifest → Manifest} {s t u : Orch} {o : Outcome} {policyIDs : List String}

theorem tookAnswered (answered : b.replies s.calls = .ok) : took b s = true := by
  simp only [took,answered]

theorem deletePoliciesAnswered (answered : ∀ n, u.calls ≤ n → b.replies n = .ok) :
    u.calls ≤ (policyIDs.foldl (deletePolicy b) u).calls ∧ (policyIDs.foldl (deletePolicy b) u).zones = u.zones ∧
      ∀ p, p ∈ (policyIDs.foldl (deletePolicy b) u).api.site.policies ↔ p ∈ u.api.site.policies ∧ p.id ∉ policyIDs := by
  induction policyIDs generalizing u with
  | nil => exact ⟨Nat.le_refl _,rfl,fun p => by simp⟩
  | cons policyID rest ih =>
    have next : deletePolicy b u policyID = {u with calls := u.calls+1, api := u.api.deletePolicy policyID} := by
      rw [deletePolicy,tookAnswered (answered u.calls (Nat.le_refl _)),if_pos rfl]
    have later := @ih {u with calls := u.calls+1, api := u.api.deletePolicy policyID}
      (fun n more => answered n (Nat.le_of_succ_le more))
    rw [foldl_cons,next]
    refine ⟨Nat.le_of_succ_le later.1,later.2.1,fun p => ?_⟩
    rw [later.2.2,Api.deletePolicy,mem_filter,mem_cons]
    simp only [bne_iff_ne,ne_eq,not_or,and_assoc]

theorem rollbackAnswered (answered : ∀ n, u.calls ≤ n → b.replies n = .ok) :
    (∀ z, z ∈ (rollbackZone b zoneID policyIDs u).zones ↔ z ∈ u.zones ∧ z.id ≠ zoneID) ∧
      ∀ p, p ∈ (rollbackZone b zoneID policyIDs u).api.site.policies ↔ p ∈ u.api.site.policies ∧ p.id ∉ policyIDs := by
  obtain ⟨more,zones,policies⟩ := @deletePoliciesAnswered b u policyIDs answered
  simp only [rollbackZone,deleteZone,tookAnswered (answered _ more),if_true]
  refine ⟨fun z => ?_,policies⟩
  simp only [Orch.zones] at zones ⊢
  rw [Api.deleteZone,zones,mem_filter,bne_iff_ne]

theorem zonesRestored (fresh : s.api.Fresh b.ids) :
    (∀ z, (z ∈ (afterZone b name s).zones ∧ z.id ≠ (ensured b name s).id) ↔ z ∈ s.zones) ↔ zoneNamed s.zones name = none := by
  simp only [afterZone,ensured,Orch.zones]
  rcases Api.ensureZoneSource b.ids name s.api with ⟨z,found,same⟩ | ⟨absent,same⟩
  · rw [same,found]
    exact iff_of_false (fun all => ((all z).mpr (zoneNamedSource found).1).2 rfl) (fun bad => by cases bad)
  · rw [same,absent]
    refine iff_of_true (fun z => ?_) rfl
    rw [mem_append,mem_singleton]
    constructor
    · rintro ⟨member,other⟩
      exact member.resolve_right (fun own => other (congrArg Zone.id own))
    · intro member
      exact ⟨.inl member,fresh.zones z member _ (Nat.le_refl _)⟩

theorem afterZonePolicies (name : String) (s : Orch) : (afterZone b name s).api.site.policies = s.api.site.policies := by
  simp only [afterZone]
  rcases Api.ensureZoneSource b.ids name s.api with ⟨z,_,same⟩ | ⟨_,same⟩ <;> rw [same]

theorem wantNames {P : String → Prop} :
    (∀ want ∈ wantPolicies policyName zoneID internal, P want.name) ↔ P (allowTo policyName) ∧ P (allowFrom policyName) := by
  simp only [wantPolicies,forall_mem_cons,not_mem_nil,false_implies,implies_true,and_true]
  exact Iff.rfl

variable {wants : List CreatePolicyRequest}

theorem policiesLeft {reached : Nat} {a : Api} (fresh : a.Fresh b.ids) :
    (∀ p, p ∈ a.site.policies ++ (Api.ensureEach b.ids a.site.policies wants a.issued).2.take reached ↔ p ∈ a.site.policies) ↔
      reached = 0 ∨ ∀ want ∈ wants, findExistingPolicy a.site.policies want.name ≠ "" := by
  rw [← Api.createdNone,← take_eq_nil_iff]
  constructor
  · intro all
    refine eq_nil_iff_forall_not_mem.mpr (fun p made => ?_)
    have old := (all p).mp (mem_append_right _ made)
    exact Api.createdFresh fresh (mem_of_mem_take made) p old rfl
  · intro nothing p
    rw [nothing,append_nil]

theorem policiesTaken {a : Api} (fresh : a.Fresh b.ids) :
    (∀ p, (p ∈ a.site.policies ++ (Api.ensureEach b.ids a.site.policies wants a.issued).2 ∧
        p.id ∉ (Api.ensureEach b.ids a.site.policies wants a.issued).1) ↔ p ∈ a.site.policies) ↔
      ∀ want ∈ wants, ¬ findExistingPolicy a.site.policies want.name ≠ "" := by
  constructor
  · intro all want member found
    obtain ⟨p,old,_,id⟩ := findExistingSource found
    exact ((all p).mpr old).2 (Api.ensureEachMember.mpr (.inl ⟨want,member,found,id.symm⟩))
  · intro absent p
    rw [mem_append,Api.ensureEachMember]
    constructor
    · rintro ⟨member,kept⟩
      exact member.resolve_right (fun made => kept (.inr ⟨p,made,rfl⟩))
    · intro old
      refine ⟨.inl old,fun taken => ?_⟩
      rcases taken with ⟨want,member,found,_⟩ | ⟨q,made,same⟩
      · exact absent want member found
      · exact Api.createdFresh fresh made p old same.symm

theorem sameIff (zones : ∀ z, z ∈ t.zones ↔ z ∈ u.zones ∧ z.id ≠ (ensured b name s).id)
    (asked : u.zones = (afterZone b name s).zones) (fresh : s.api.Fresh b.ids) {left : Prop}
    (policies : (∀ p, p ∈ t.api.site.policies ↔ p ∈ s.api.site.policies) ↔ left) :
    SameObjects s t ↔ zoneNamed s.zones name = none ∧ left := by
  rw [← policies,← zonesRestored fresh,← asked]
  constructor
  · intro objects
    exact ⟨fun z => (zones z).symm.trans (objects.zones z),objects.policies⟩
  · rintro ⟨restored,kept⟩
    exact ⟨fun z => (zones z).trans (restored z),kept⟩

theorem endedRestores (other : name ≠ "Internal" ∧ name ≠ "LAN" ∧ name ≠ "Default") (fresh : s.api.Fresh b.ids)
    (rolls : RollsBack b disk ctxErr s) (answered : RollbackAnswered b ctxErr s)
    (ended : Ended b disk ctxErr name policyName entry s o t) : SameObjects s t ↔ Restores b ctxErr name policyName s := by
  have after : (afterZone b name s).api.Fresh b.ids := (Api.ensureZoneFresh b.idsInj name fresh).1
  have before : (afterZone b name s).api.site.policies = s.api.site.policies := afterZonePolicies name s
  simp only [Restores]
  cases ended with
  | zoneFailed reply =>
    have answer := rolls.1
    rw [reply] at answer
    cases answer
  | recorded reply ctx made saved => exact absurd rolls (recordedSafe other ctx made saved)
  | cancelled reply ctx =>
    obtain ⟨zones,policies⟩ := @rollbackAnswered b (ensured b name s).id (afterZone b name s) [] (fun n more => answered n (by
      rw [ctx]
      exact more))
    refine sameIff zones rfl fresh (iff_of_true (fun p => ?_) (fun bad => ?_))
    · rw [policies,before]
      simp
    · rw [ctx] at bad
      contradiction
  | @policiesFailed e u reply ctx failed =>
    obtain ⟨only,calls,cause⟩ := policiesFailedSource failed
    obtain ⟨zones,policies⟩ := @rollbackAnswered b (ensured b name s).id u [] (fun n more => answered n (by
      rw [if_pos ctx]
      rw [calls] at more
      exact more))
    have kept (p : Policy) : p ∈ (rollbackZone b (ensured b name s).id [] u).api.site.policies ↔ p ∈ u.api.site.policies := by
      rw [policies]
      simp
    rcases cause with ⟨absent,same⟩ | ⟨internal,reached,found,refused,grown⟩
    · rw [internalAfterZone other] at absent
      refine sameIff zones (congrArg (fun a => a.site.zones) same) fresh (iff_of_true (fun p => ?_) (fun _ some_ => ?_))
      · rw [kept,same,before]
      · exact absurd absent some_
    · rw [internalAfterZone other] at found
      refine sameIff zones (congrArg (fun a => a.site.zones) grown) fresh ?_
      have refused : b.replies (s.calls+1) = .failed e reached := refused
      simp only [kept,grown,Api.addPolicies,before,refused,found,ctx,ne_eq,reduceCtorEq,not_false_eq_true,true_implies]
      have left := @policiesLeft b (wantPolicies policyName (ensured b name s).id internal) reached _ after
      rw [before] at left
      exact left.trans (or_congr_right (@wantNames policyName (ensured b name s).id internal (knownPolicy s)))
  | @saveFailed e policyIDs chainPrefix u v reply ctx made stopped =>
    obtain ⟨only,calls,fine,internal,found,ids,grown⟩ := policiesMadeSource made
    have api : v.api = u.api := (congrArg (fun r => r.2.api) stopped).symm
    have calls' : v.calls = u.calls := (congrArg (fun r => r.2.calls) stopped).symm
    obtain ⟨zones,policies⟩ := @rollbackAnswered b (ensured b name s).id v policyIDs (fun n more => answered n (by
      rw [if_pos ctx]
      rw [calls',calls] at more
      exact more))
    rw [internalAfterZone other] at found
    refine sameIff zones (congrArg (fun a => a.site.zones) (api.trans grown)) fresh ?_
    have fine : b.replies (s.calls+1) = .ok := fine
    simp only [policies]
    simp only [api,grown,Api.addPolicies,before,ids,fine,found,ctx,ne_eq,reduceCtorEq,not_false_eq_true,true_implies]
    have taken := @policiesTaken b (wantPolicies policyName (ensured b name s).id internal) _ after
    rw [before] at taken
    exact taken.trans (@wantNames policyName (ensured b name s).id internal (fun name => ¬ knownPolicy s name))

end
def fullDisk : Disk := ⟨fun _ => some (.new "no space left on device"),true⟩

theorem fullDiskRolls (s : Orch) : RollsBack answering fullDisk none s ∧ RollbackAnswered answering none s :=
  ⟨⟨rfl,.inr (.inr (.inr (by simp [fullDisk])))⟩,fun _ _ => rfl⟩

def oneTunnel : Orch := (SetupWgS2sZone answering revertingDisk "t1" "" "" freshOrch).2

end VpnPack.Firewall
