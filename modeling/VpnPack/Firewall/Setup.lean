import VpnPack.Firewall.Orchestrator

/-! The ways in which the common part of the two zone setups can end, and what each of
its calls leaves alone. -/
namespace VpnPack.Firewall
open Base Integration Ops State

def afterZone (b : Backend) (name : String) (s : Orch) : Orch :=
  {s with calls := s.calls+1, api := (s.api.ensureZone b.ids name).2}

def ensured (b : Backend) (name : String) (s : Orch) : Zone := (s.api.ensureZone b.ids name).1

inductive Ended (b : Backend) (disk : Disk) (ctxErr : Option GoError) (name policyName : String)
    (entry : ZoneManifest → Manifest → Manifest) (s : Orch) : Outcome → Orch → Prop where
  | zoneFailed {e reached} (reply : b.replies s.calls = .failed e reached) :
    Ended b disk ctxErr name policyName entry s (.zoneFailed e)
      {s with calls := s.calls+1, api := if reached = 0 then s.api else (s.api.ensureZone b.ids name).2}
  | cancelled {e} (reply : b.replies s.calls = .ok) (ctx : ctxErr = some e) :
    Ended b disk ctxErr name policyName entry s (.cancelled e)
      (rollbackZone b (ensured b name s).id [] (afterZone b name s))
  | policiesFailed {e u} (reply : b.replies s.calls = .ok) (ctx : ctxErr = none)
      (failed : ensurePolicies b policyName (ensured b name s).id (afterZone b name s) = (.error e,u)) :
    Ended b disk ctxErr name policyName entry s (.policiesFailed e) (rollbackZone b (ensured b name s).id [] u)
  | saveFailed {e policyIDs chainPrefix u v} (reply : b.replies s.calls = .ok) (ctx : ctxErr = none)
      (made : ensurePolicies b policyName (ensured b name s).id (afterZone b name s) = (.ok policyIDs,u))
      (stopped : recording disk (entry ⟨(ensured b name s).id,(ensured b name s).name,policyIDs,chainPrefix⟩) u = (some e,v)) :
    Ended b disk ctxErr name policyName entry s (.saveFailed e chainPrefix) (rollbackZone b (ensured b name s).id policyIDs v)
  | recorded {policyIDs chainPrefix u v} (reply : b.replies s.calls = .ok) (ctx : ctxErr = none)
      (made : ensurePolicies b policyName (ensured b name s).id (afterZone b name s) = (.ok policyIDs,u))
      (saved : recording disk (entry ⟨(ensured b name s).id,(ensured b name s).name,policyIDs,chainPrefix⟩) u = (none,v)) :
    Ended b disk ctxErr name policyName entry s (.recorded (ensured b name s) policyIDs chainPrefix) v

section
variable {b : Backend} {disk : Disk} {ctxErr : Option GoError} {name policyName : String}
  {entry : ZoneManifest → Manifest → Manifest} {s t u : Orch} {o : Outcome}

theorem ensureRecordedEnded (ran : ensureRecorded b disk ctxErr name policyName entry s = (o,t)) :
    Ended b disk ctxErr name policyName entry s o t := by
  simp only [ensureRecorded,ensureZone] at ran
  cases reply : b.replies s.calls with
  | failed e reached =>
    simp only [reply] at ran
    cases ran
    exact .zoneFailed reply
  | ok =>
    simp only [reply] at ran
    cases ctx : ctxErr with
    | some e =>
      simp only [ctx] at ran
      cases ran
      exact .cancelled reply rfl
    | none =>
      simp only [ctx] at ran
      split at ran
      · rename_i e u failed
        cases ran
        exact .policiesFailed reply rfl failed
      · rename_i policyIDs u made
        split at ran
        · rename_i e v stopped
          cases ran
          exact .saveFailed reply rfl made stopped
        · rename_i v saved
          cases ran
          exact .recorded reply rfl made saved

structure ApiOnly (s t : Orch) : Prop where
  store : t.store = s.store
  deletes : t.deletes = s.deletes

theorem apiOnlyTrans (first : ApiOnly s t) (second : ApiOnly t u) : ApiOnly s u :=
  ⟨second.store.trans first.store,second.deletes.trans first.deletes⟩

theorem deletePoliciesOnly (policyIDs : List String) (s : Orch) : ApiOnly s (policyIDs.foldl (deletePolicy b) s) := by
  induction policyIDs generalizing s with
  | nil => exact ⟨rfl,rfl⟩
  | cons policyID rest ih => exact @apiOnlyTrans s (deletePolicy b s policyID) _ ⟨rfl,rfl⟩ (ih (deletePolicy b s policyID))

theorem rollbackSource (b : Backend) (zoneID : String) (policyIDs : List String) (s : Orch) :
    (rollbackZone b zoneID policyIDs s).store = s.store ∧
      (rollbackZone b zoneID policyIDs s).deletes = s.deletes ++ [(zoneID,s.manifest)] := by
  obtain ⟨store,deletes⟩ := @deletePoliciesOnly b policyIDs s
  constructor
  · exact store
  · change (policyIDs.foldl (deletePolicy b) s).deletes ++ [(zoneID,(policyIDs.foldl (deletePolicy b) s).store.manifest)] = _
    rw [store,deletes]
    rfl

variable {zoneID : String} {change : Manifest → Manifest} {e : GoError}

theorem policiesFailedSource (ran : ensurePolicies b policyName zoneID s = (.error e,u)) :
    ApiOnly s u ∧ u.calls = s.calls+1 ∧ (internalFrom "" s.zones = none ∧ u.api = s.api ∨
        ∃ internal reached, internalFrom "" s.zones = some internal ∧ b.replies s.calls = .failed e reached ∧
          u.api = s.api.addPolicies ((Api.ensureEach b.ids s.api.site.policies (wantPolicies policyName zoneID internal)
            s.api.issued).2.take reached)) := by
  simp only [ensurePolicies] at ran
  split at ran
  · rename_i missing
    cases ran
    exact ⟨⟨rfl,rfl⟩,rfl,.inl ⟨missing,rfl⟩⟩
  · rename_i internal found
    split at ran
    · rename_i e' reached reply
      cases ran
      exact ⟨⟨rfl,rfl⟩,rfl,.inr ⟨internal,reached,found,reply,rfl⟩⟩
    · simp at ran

theorem policiesMadeSource {policyIDs : List String} (ran : ensurePolicies b policyName zoneID s = (.ok policyIDs,u)) :
    ApiOnly s u ∧ u.calls = s.calls+1 ∧ b.replies s.calls = .ok ∧ ∃ internal, internalFrom "" s.zones = some internal ∧
        policyIDs = (Api.ensureEach b.ids s.api.site.policies (wantPolicies policyName zoneID internal) s.api.issued).1 ∧
        u.api = s.api.addPolicies (Api.ensureEach b.ids s.api.site.policies (wantPolicies policyName zoneID internal)
          s.api.issued).2 := by
  simp only [ensurePolicies] at ran
  split at ran
  · simp at ran
  · rename_i internal found
    split at ran
    · simp at ran
    · rename_i reply
      cases ran
      exact ⟨⟨rfl,rfl⟩,rfl,reply,internal,found,rfl,rfl⟩

theorem recordingFails {err : Option GoError} (ran : recording disk change s = (err,t)) :
    err = none ↔ disk.fails s.store.saves = none := by
  simp only [recording,update] at ran
  cases fails : disk.fails s.store.saves with
  | none | some _ =>
    rw [fails] at ran
    cases ran
    simp

theorem recordingReverts (reverts : disk.reverts = true)
    (stopped : recording disk change s = (some e,t)) : t.manifest = s.manifest := by
  have final : (update disk change s.store).2 = t.store := congrArg (fun r => r.2.store) stopped
  have failed : (update disk change s.store).1 = some e := congrArg Prod.fst stopped
  rw [Orch.manifest,← final]
  unfold update at failed ⊢
  split
  · rw [if_pos reverts]
    rfl
  · rename_i fine
    rw [fine] at failed
    simp at failed

theorem recordingOk (saved : recording disk change s = (none,t)) : t.manifest = change s.manifest := by
  have final : (update disk change s.store).2 = t.store := congrArg (fun r => r.2.store) saved
  have first : (update disk change s.store).1 = none := congrArg Prod.fst saved
  rw [Orch.manifest,← final]
  exact updateOk (Prod.ext first rfl)

end

theorem internalAppend {z : Zone} (other : z.name ≠ "Internal" ∧ z.name ≠ "LAN" ∧ z.name ≠ "Default") (fallback : String)
    (zones : List Zone) : internalFrom fallback (zones ++ [z]) = internalFrom fallback zones := by
  induction zones generalizing fallback with
  | nil => simp [internalFrom,other.1,other.2.1,other.2.2]
  | cons y rest ih =>
    simp only [List.cons_append,internalFrom]
    split
    · rfl
    · exact ih _

theorem displayOther (zoneName : String) :
    displayName zoneName ≠ "Internal" ∧ displayName zoneName ≠ "LAN" ∧ displayName zoneName ≠ "Default" := by
  have first : (displayName zoneName).toList.head? = some 'V' := by simp [displayName]
  refine ⟨fun same => ?_,fun same => ?_,fun same => ?_⟩ <;> rw [same] at first <;> simp at first

theorem internalAfterZone {b : Backend} {name : String} {s : Orch} (other : name ≠ "Internal" ∧ name ≠ "LAN" ∧ name ≠ "Default") :
    internalFrom "" (afterZone b name s).zones = internalFrom "" s.zones := by
  rcases Api.ensureZoneSource b.ids name s.api with ⟨z,_,same⟩ | ⟨_,same⟩
  · simp only [afterZone,Orch.zones,same]
  · simp only [afterZone,Orch.zones,same]
    exact internalAppend other "" _

end VpnPack.Firewall
