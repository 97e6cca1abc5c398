import VpnPack.Integration.Api
import VpnPack.Ops
import VpnPack.State.Manifest

/-! FirewallOrchestrator over the Integration API and the manifest. Each call of the API
gets its reply by its number; a failing EnsurePolicies has created as many policies
as the reply says. The UDAPI rules are not part of this state, and every DeleteZone
is noted together with the manifest it finds. -/
namespace VpnPack.Firewall
open Base Integration Ops State

-- How far a failing call got before it failed.
inductive Reply where
  | ok
  | failed (e : GoError) (reached : Nat)
  deriving DecidableEq, Repr

-- order lists the values of a map in the order in which a range happens to visit them.
structure Backend where
  hasAPIKey : Bool
  replies : Nat → Reply
  ids : Nat → String
  discover : Nat → String → String
  rules : Nat → Option GoError
  order : Dict ZoneManifest → List ZoneManifest
  idsInj : Function.Injective ids
  idsText : ∀ n, ids n ≠ ""
  orderSame : ∀ entries zm, zm ∈ order entries ↔ ∃ tunnelID, entries.lookup tunnelID = some zm

structure Orch where
  api : Api
  calls : Nat
  store : Store
  deletes : List (String × Manifest)

def Orch.manifest (s : Orch) : Manifest := s.store.manifest
def Orch.zones (s : Orch) : List Zone := s.api.site.zones

structure SetupResult where
  zoneCreated : Bool
  zoneID : String
  zoneName : String
  policiesReady : Bool
  policyIDs : List String
  udapiApplied : Bool
  chainPrefix : String
  errors : List String
  deriving DecidableEq, Repr

def newResult : SetupResult := ⟨false,"","",false,[],false,defaultChainPrefix,[]⟩

def SetupResult.addError (r : SetupResult) (step : String) (e : GoError) : SetupResult :=
  {r with errors := r.errors ++ [step ++ ": " ++ e.text]}

def requireIntegration (b : Backend) (s : Orch) : Bool := b.hasAPIKey && s.manifest.siteID ≠ ""
def errNotConfigured : GoError := .new "integration API not configured"

def ensureZone (b : Backend) (name : String) (s : Orch) : Except GoError Zone × Orch :=
  match b.replies s.calls with
  | .failed e reached =>
    (.error e,{s with calls := s.calls+1, api := if reached = 0 then s.api else (s.api.ensureZone b.ids name).2})
  | .ok => (.ok (s.api.ensureZone b.ids name).1,{s with calls := s.calls+1, api := (s.api.ensureZone b.ids name).2})

def noInternalZone : GoError := .wrap "find internal zone" (.new "no Internal/LAN/Default zone found")

def ensurePolicies (b : Backend) (name zoneID : String) (s : Orch) : Except GoError (List String) × Orch :=
  match internalFrom "" s.zones with
  | none => (.error noInternalZone,{s with calls := s.calls+1})
  | some internal =>
    let each := Api.ensureEach b.ids s.api.site.policies (wantPolicies name zoneID internal) s.api.issued
    match b.replies s.calls with
    | .failed e reached => (.error e,{s with calls := s.calls+1, api := s.api.addPolicies (each.2.take reached)})
    | .ok => (.ok each.1,{s with calls := s.calls+1, api := s.api.addPolicies each.2})

-- The adapter turns a missing object into success; other errors are only logged.
def took (b : Backend) (s : Orch) : Bool :=
  match b.replies s.calls with
  | .failed _ reached => reached ≠ 0
  | .ok => true

def deletePolicy (b : Backend) (s : Orch) (policyID : String) : Orch :=
  {s with calls := s.calls+1, api := if took b s then s.api.deletePolicy policyID else s.api}

def deleteZone (b : Backend) (zoneID : String) (s : Orch) : Orch :=
  {s with
    calls := s.calls+1
    api := if took b s then s.api.deleteZone zoneID else s.api
    deletes := s.deletes ++ [(zoneID,s.manifest)]}

def rollbackZone (b : Backend) (zoneID : String) (policyIDs : List String) (s : Orch) : Orch :=
  deleteZone b zoneID (policyIDs.foldl (deletePolicy b) s)

def recording (disk : Disk) (change : Manifest → Manifest) : Proc Orch := fun s =>
  ((update disk change s.store).1,{s with store := (update disk change s.store).2})

inductive Outcome where
  | zoneFailed (e : GoError)
  | cancelled (e : GoError)
  | policiesFailed (e : GoError)
  | saveFailed (e : GoError) (chainPrefix : String)
  | recorded (zone : Zone) (policyIDs : List String) (chainPrefix : String)
  deriving DecidableEq, Repr

def ensureRecorded (b : Backend) (disk : Disk) (ctxErr : Option GoError) (displayName policyName : String)
    (entry : ZoneManifest → Manifest → Manifest) (s : Orch) : Outcome × Orch :=
  match ensureZone b displayName s with
  | (.error e,t) => (.zoneFailed e,t)
  | (.ok zone,t) =>
    match ctxErr with
    | some e => (.cancelled e,rollbackZone b zone.id [] t)
    | none =>
      match ensurePolicies b policyName zone.id t with
      | (.error e,u) => (.policiesFailed e,rollbackZone b zone.id [] u)
      | (.ok policyIDs,u) =>
        let found := b.discover u.calls zone.id
        let chainPrefix := if found ≠ "" then found else defaultChainPrefix
        match recording disk (entry ⟨zone.id,zone.name,policyIDs,chainPrefix⟩) u with
        | (some e,v) => (.saveFailed e chainPrefix,rollbackZone b zone.id policyIDs v)
        | (none,v) => (.recorded zone policyIDs chainPrefix,v)

def tailscaleZoneName : String := "VPN Pack: Tailscale"

def SetupTailscaleFirewall (b : Backend) (disk : Disk) (ctx : Context) (s : Orch) : SetupResult × Orch :=
  if requireIntegration b s = false then (newResult,s)
  else
    match ensureRecorded b disk (ctx 0) tailscaleZoneName "Tailscale" Manifest.setTailscaleZone s with
    | (.zoneFailed e,t) => (newResult.addError "zone" e,t)
    | (.cancelled e,t) => (newResult.addError "context" e,t)
    | (.policiesFailed e,t) => (newResult.addError "policies" e,t)
    | (.saveFailed e chainPrefix,t) => ({newResult with chainPrefix := chainPrefix}.addError "manifest" e,t)
    | (.recorded zone policyIDs chainPrefix,t) =>
      let old := s.manifest.tailscale
      let oldPrefix := if old.chainPrefix = "" then s.manifest.tailscaleChainPrefix else old.chainPrefix
      let restored := (recording disk (Manifest.setTailscaleZone ⟨old.zoneID,old.zoneName,old.policyIDs,oldPrefix⟩) t).2
      let result := ⟨true,zone.id,zone.name,true,policyIDs,false,chainPrefix,[]⟩
      match ctx 1 with
      | some e => (SetupResult.addError result "context" e,restored)
      | none =>
        match b.rules t.calls with
        | some e => (SetupResult.addError result "udapi" e,restored)
        | none => ({result with udapiApplied := true},t)

def orDefaultZone (zoneName : String) : String := if zoneName = "" then "WireGuard S2S" else zoneName
def displayName (zoneName : String) : String := "VPN Pack: " ++ orDefaultZone zoneName

def SetupWgS2sZone (b : Backend) (disk : Disk) (tunnelID zoneID zoneName : String) (s : Orch) : SetupResult × Orch :=
  if requireIntegration b s = false then (newResult.addError "integration" errNotConfigured,s)
  else if zoneID ≠ "" then
    match (b.order s.manifest.wgS2s).find? (fun zm => zm.zoneID == zoneID) with
    | none => (newResult.addError "zone" (.new ("zone " ++ zoneID ++ " not found in manifest")),s)
    | some zm =>
      match recording disk (Manifest.setWgS2sZone tunnelID zm) s with
      | (some e,t) => (newResult.addError "manifest" e,t)
      | (none,t) =>
        (⟨true,zm.zoneID,zm.zoneName,decide (0 < zm.policyIDs.length),zm.policyIDs,false,zm.chainPrefix,[]⟩,t)
  else
    match ensureRecorded b disk none (displayName zoneName) (orDefaultZone zoneName) (Manifest.setWgS2sZone tunnelID) s with
    | (.zoneFailed e,t) => (newResult.addError "zone" (.wrap ("ensure zone " ++ quoted (displayName zoneName)) e),t)
    | (.cancelled e,t) => (newResult.addError "context" e,t)
    | (.policiesFailed e,t) => (newResult.addError "policies" e,t)
    | (.saveFailed e chainPrefix,t) =>
      ({newResult with chainPrefix := chainPrefix}.addError "manifest" (.wrap "save manifest" e),t)
    | (.recorded zone policyIDs chainPrefix,t) => (⟨true,zone.id,zone.name,true,policyIDs,false,chainPrefix,[]⟩,t)

-- Errors are only logged. The entry goes before the others are asked for the zone.
def TeardownWgS2sZone (b : Backend) (disk : Disk) (tunnelID : String) (s : Orch) : Orch :=
  match s.manifest.wgS2s.lookup tunnelID with
  | none => s
  | some zm =>
    let removed := (recording disk (Manifest.removeWgS2sTunnel tunnelID) s).2
    if zm.zoneID = "" then removed
    else if (b.order removed.manifest.wgS2s).any (fun other => other.zoneID == zm.zoneID) then removed
    else if requireIntegration b removed = false then removed
    else deleteZone b zm.zoneID (zm.policyIDs.foldl (deletePolicy b) removed)

end VpnPack.Firewall
