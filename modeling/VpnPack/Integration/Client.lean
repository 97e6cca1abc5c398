import VpnPack.Integration.Site

/-! IntegrationClient: requests with their answers looked up by the number of the call,
listing by pages, the zone cache and the two Ensure functions built on them. A
request may fail with or without having taken effect. TLS, JSON and the texts of
the errors a request returns are not modelled. -/
namespace VpnPack.Integration
open Base

def errUnauthorized : GoError := .new "integration API: unauthorized (invalid or missing API key)"
def errNotFound : GoError := .new "integration API: resource not found"

inductive Answer where
  | ok
  | failed (e : GoError)
  | lost (e : GoError)
  deriving DecidableEq, Repr

-- totals: the API reports totalCount with a page.
structure World where
  answers : Nat → Answer
  ids : Nat → String
  clock : Nat → Int
  totals : Bool
  idsInj : Function.Injective ids
  idsText : ∀ n, ids n ≠ ""

structure Client where
  sites : Sites
  apiKey : String
  calls : Nat
  readings : Nat
  zonesCache : List Zone
  zonesSiteID : String
  zonesTime : Int

abbrev Fetch (α : Type) : Type := Client → Except GoError α × Client

-- serve gets the ID that the API gives out if it creates something.
def doRequest {α : Type} (world : World) (serve : String → Sites → Except GoError α × Sites) : Fetch α := fun c =>
  if c.apiKey = "" then (.error errUnauthorized,c)
  else
    let reply := serve (world.ids c.calls) c.sites
    match world.answers c.calls with
    | .failed e => (.error e,{c with calls := c.calls+1})
    | .lost e => (.error e,{c with calls := c.calls+1, sites := reply.2})
    | .ok => (reply.1,{c with calls := c.calls+1, sites := reply.2})

def paginationLimit : Nat := 200
def maxListPages : Nat := 1000

structure Page (α : Type) where
  data : List α
  totalCount : Nat

def getPage {α : Type} (world : World) (select : Sites → List α) (offset : Nat) : Fetch (Page α) :=
  doRequest world (fun _ sites =>
    (.ok ⟨((select sites).drop offset).take paginationLimit,if world.totals then (select sites).length else 0⟩,sites))

def listFrom {α : Type} (world : World) (select : Sites → List α) : Nat → Nat → List α → Fetch (List α)
  | 0,_,items => fun c => (.ok items,c)
  | pages+1,offset,items => fun c =>
    match getPage world select offset c with
    | (.error e,d) => (.error e,d)
    | (.ok page,d) =>
      let items := items ++ page.data
      if page.data.length < paginationLimit then (.ok items,d)
      else if 0 < page.totalCount ∧ page.totalCount ≤ items.length then (.ok items,d)
      else listFrom world select pages (offset + paginationLimit) items d

def doListRequest {α : Type} (world : World) (select : Sites → List α) : Fetch (List α) :=
  listFrom world select maxListPages 0 []

def zonesTTL : Int := 5000000000

-- doListRequest returns nil for an empty list, so an empty list is never taken from the cache.
def cached (world : World) (siteID : String) (c : Client) : Bool :=
  decide (c.zonesSiteID = siteID ∧ c.zonesCache ≠ [] ∧ world.clock c.readings - c.zonesTime < zonesTTL)

def ListZones (world : World) (siteID : String) : Fetch (List Zone) := fun c =>
  if cached world siteID c then (.ok c.zonesCache,{c with readings := c.readings+1})
  else
    match doListRequest world (fun sites => (sites siteID).zones) {c with readings := c.readings+1} with
    | (.error e,d) => (.error e,d)
    | (.ok zones,d) =>
      (.ok zones,{d with
        zonesCache := zones, zonesSiteID := siteID, zonesTime := world.clock d.readings, readings := d.readings+1})

def CreateZone (world : World) (siteID name : String) : Fetch Zone :=
  doRequest world (fun id sites =>
    (.ok ⟨id,name⟩,sites.set siteID {sites siteID with zones := (sites siteID).zones ++ [⟨id,name⟩]}))

def findZoneByName (world : World) (siteID name : String) : Fetch (Option Zone) := fun c =>
  match ListZones world siteID c with
  | (.error e,d) => (.error e,d)
  | (.ok zones,d) => (.ok (zoneNamed zones name),d)

def ListPolicies (world : World) (siteID : String) : Fetch (List Policy) :=
  doListRequest world (fun sites => (sites siteID).policies)

def CreatePolicy (world : World) (siteID : String) (req : CreatePolicyRequest) : Fetch Policy :=
  doRequest world (fun id sites =>
    (.ok ⟨req,id⟩,sites.set siteID {sites siteID with policies := (sites siteID).policies ++ [⟨req,id⟩]}))

-- The API answers 404 for an ID that does not exist.
def removePolicy (siteID policyID : String) (sites : Sites) : Except GoError Unit × Sites :=
  if (sites siteID).policies.any (fun p => p.id == policyID) then
    (.ok (),sites.set siteID {sites siteID with policies := (sites siteID).policies.filter (fun p => p.id != policyID)})
  else (.error errNotFound,sites)

def removeZone (siteID zoneID : String) (sites : Sites) : Except GoError Unit × Sites :=
  if (sites siteID).zones.any (fun z => z.id == zoneID) then
    (.ok (),sites.set siteID {sites siteID with zones := (sites siteID).zones.filter (fun z => z.id != zoneID)})
  else (.error errNotFound,sites)

def DeletePolicy (world : World) (siteID policyID : String) : Fetch Unit :=
  doRequest world (fun _ => removePolicy siteID policyID)

def DeleteZone (world : World) (siteID zoneID : String) : Fetch Unit := doRequest world (fun _ => removeZone siteID zoneID)

def FindInternalZoneID (world : World) (siteID : String) : Fetch String := fun c =>
  match ListZones world siteID c with
  | (.error e,d) => (.error e,d)
  | (.ok zones,d) =>
    match internalFrom "" zones with
    | some id => (.ok id,d)
    | none => (.error (.new "no Internal/LAN/Default zone found"),d)

def EnsureZone (world : World) (siteID name : String) : Fetch Zone := fun c =>
  match findZoneByName world siteID name c with
  | (.error e,d) => (.error (.wrap "check existing zone" e),d)
  | (.ok (some z),d) => (.ok z,d)
  | (.ok none,d) => CreateZone world siteID name d

-- The escapes of %q are not modelled.
def quoted (s : String) : String := "\"" ++ s ++ "\""

def createMissing (world : World) (siteID : String) (existing : List Policy) :
    List CreatePolicyRequest → List String → Client → (List String × Option GoError) × Client
  | [],ids,c => ((ids,none),c)
  | want :: rest,ids,c =>
    if findExistingPolicy existing want.name ≠ "" then
      createMissing world siteID existing rest (ids ++ [findExistingPolicy existing want.name]) c
    else
      match CreatePolicy world siteID want c with
      | (.error e,d) => ((ids,some (.wrap ("create policy " ++ quoted want.name) e)),d)
      | (.ok p,d) => createMissing world siteID existing rest (ids ++ [p.id]) d

-- On an error the IDs collected so far are returned with it.
def EnsurePolicies (world : World) (siteID zoneName zoneID : String) (c : Client) : (List String × Option GoError) × Client :=
  match FindInternalZoneID world siteID c with
  | (.error e,d) => (([],some (.wrap "find internal zone" e)),d)
  | (.ok internal,d) =>
    match ListPolicies world siteID d with
    | (.error e,d') => (([],some (.wrap "list existing policies" e)),d')
    | (.ok existing,d') => createMissing world siteID existing (wantPolicies zoneName zoneID internal) [] d'

def FindSystemZoneIDs (world : World) (siteID : String) : Fetch (String × String) := fun c =>
  match ListZones world siteID c with
  | (.error e,d) => (.error e,d)
  | (.ok zones,d) =>
    let found := zones.foldl systemFrom ("","")
    if found.1 = "" then (.error (.new "no External zone found"),d)
    else if found.2 = "" then (.error (.new "no Gateway zone found"),d)
    else (.ok found,d)

def EnsureWanPortPolicy (world : World) (siteID : String) (port : Int) (name externalZoneID gatewayZoneID : String) :
    Fetch String := fun c =>
  match ListPolicies world siteID c with
  | (.error e,d) => (.error (.wrap "list existing policies" e),d)
  | (.ok existing,d) =>
    if findExistingPolicy existing name ≠ "" then (.ok (findExistingPolicy existing name),d)
    else
      match CreatePolicy world siteID (wanPortPolicy port name externalZoneID gatewayZoneID) d with
      | (.error e,d') => (.error (.wrap ("create WAN port policy " ++ quoted name) e),d')
      | (.ok p,d') => (.ok p.id,d')

end VpnPack.Integration
