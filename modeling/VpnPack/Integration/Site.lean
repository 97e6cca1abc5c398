import VpnPack.Base.Proc

/-! What the Integration API stores for a site, the requests that create policies and
the searches the client runs over what it has listed. The networks of a zone and
the metadata of a policy are read by nothing here and left out. -/
namespace VpnPack.Integration
open Base

structure Zone where
  id : String
  name : String
  deriving DecidableEq, Repr

structure PolicyAction where
  type : String
  allowReturnTraffic : Bool
  deriving DecidableEq, Repr

structure PortFilterItem where
  type : String
  value : Int
  deriving DecidableEq, Repr

structure PortFilter where
  type : String
  matchOpposite : Bool
  items : List PortFilterItem
  deriving DecidableEq, Repr

structure TrafficFilter where
  type : String
  portFilter : PortFilter
  deriving DecidableEq, Repr

structure PolicyEndpoint where
  zoneID : String
  trafficFilter : Option TrafficFilter
  deriving DecidableEq, Repr

structure ProtocolFilter where
  type : String
  protocol : String
  matchOpposite : Bool
  deriving DecidableEq, Repr

structure IPProtocolScope where
  ipVersion : String
  protocolFilter : Option ProtocolFilter
  deriving DecidableEq, Repr

structure CreatePolicyRequest where
  enabled : Bool
  name : String
  action : PolicyAction
  source : PolicyEndpoint
  destination : PolicyEndpoint
  ipProtocolScope : IPProtocolScope
  loggingEnabled : Bool
  deriving DecidableEq, Repr

-- The API stores what it is sent, under an ID of its own.
structure Policy extends CreatePolicyRequest where
  id : String
  deriving DecidableEq, Repr

structure Site where
  zones : List Zone
  policies : List Policy
  deriving DecidableEq, Repr

abbrev Sites := String → Site

def Sites.set (sites : Sites) (siteID : String) (site : Site) : Sites := fun s => if s = siteID then site else sites s

variable (sites : Sites) {zones : List Zone} {name : String}

@[simp] theorem Sites.setHere (siteID : String) (site : Site) : sites.set siteID site siteID = site :=
  if_pos rfl

theorem Sites.setOther {siteID s : String} (site : Site) (other : s ≠ siteID) :
    sites.set siteID site s = sites s := if_neg other

def zoneNamed (zones : List Zone) (name : String) : Option Zone := zones.find? (fun z => z.name == name)

def findExistingPolicy (policies : List Policy) (name : String) : String :=
  match policies.find? (fun p => p.name == name) with
  | some p => p.id
  | none => ""

def internalFrom : String → List Zone → Option String
  | fallback,[] => if fallback ≠ "" then some fallback else none
  | fallback,z :: rest =>
    if z.name = "Internal" then some z.id
    else internalFrom (if fallback = "" ∧ (z.name = "LAN" ∨ z.name = "Default") then z.id else fallback) rest

def systemFrom (found : String × String) (z : Zone) : String × String :=
  if z.name = "External" then (z.id,found.2)
  else if z.name = "Gateway" then (found.1,z.id)
  else found

def wantPolicies (zoneName zoneID internalZoneID : String) : List CreatePolicyRequest :=
  [⟨true,"VPN Pack: Allow " ++ zoneName ++ " to Internal",⟨"ALLOW",true⟩,⟨zoneID,none⟩,⟨internalZoneID,none⟩,
      ⟨"IPV4_AND_IPV6",none⟩,false⟩,
    ⟨true,"VPN Pack: Allow Internal to " ++ zoneName,⟨"ALLOW",true⟩,⟨internalZoneID,none⟩,⟨zoneID,none⟩,
      ⟨"IPV4_AND_IPV6",none⟩,false⟩]

def wanPortPolicy (port : Int) (name externalZoneID gatewayZoneID : String) : CreatePolicyRequest :=
  ⟨true,name,⟨"ALLOW",false⟩,⟨externalZoneID,none⟩,
    ⟨gatewayZoneID,some ⟨"PORT",⟨"PORTS",false,[⟨"PORT_NUMBER",port⟩]⟩⟩⟩,
    ⟨"IPV4",some ⟨"NAMED_PROTOCOL","UDP",false⟩⟩,false⟩

theorem findExistingSource {policies : List Policy} {name : String} (found : findExistingPolicy policies name ≠ "") :
    ∃ p ∈ policies, p.name = name ∧ p.id = findExistingPolicy policies name := by
  unfold findExistingPolicy at found ⊢
  cases search : policies.find? (fun p => p.name == name) with
  | none =>
    rw [search] at found
    exact absurd rfl found
  | some p => exact ⟨p,List.mem_of_find?_eq_some search,by simpa using List.find?_some search,rfl⟩

theorem zoneNamedSource {z : Zone} (found : zoneNamed zones name = some z) :
    z ∈ zones ∧ z.name = name :=
  ⟨List.mem_of_find?_eq_some found,by simpa using List.find?_some found⟩

theorem zoneNamedNone : zoneNamed zones name = none ↔ ∀ z ∈ zones, z.name ≠ name := by
  simp [zoneNamed]

end VpnPack.Integration
