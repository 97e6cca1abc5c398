import VpnPack.Integration.Client

/-! The DNS policies of the Integration API and the calls of the client for them. They use the
same requests, answers and call numbers as the firewall calls, over a collection of
their own. -/
namespace VpnPack.Integration
open Base

structure CreateDNSPolicyRequest where
  type : String
  domain : String
  ipAddress : String
  enabled : Bool
  deriving DecidableEq, Repr

structure DNSPolicy extends CreateDNSPolicyRequest where
  id : String
  deriving DecidableEq, Repr

abbrev DNSSites := String → List DNSPolicy

structure Resolver where
  client : Client
  dns : DNSSites

def dnsRequest {α : Type} (world : World) (serve : String → DNSSites → Except GoError α × DNSSites) (r : Resolver) :
    Except GoError α × Resolver :=
  if r.client.apiKey = "" then (.error errUnauthorized,r)
  else
    let reply := serve (world.ids r.client.calls) r.dns
    let client := {r.client with calls := r.client.calls+1}
    match world.answers r.client.calls with
    | .failed e => (.error e,⟨client,r.dns⟩)
    | .lost e => (.error e,⟨client,reply.2⟩)
    | .ok => (reply.1,⟨client,reply.2⟩)

def ListDNSPolicies (world : World) (siteID : String) (r : Resolver) : Except GoError (List DNSPolicy) × Resolver :=
  let listed := doListRequest world (fun _ => r.dns siteID) r.client
  (listed.1,{r with client := listed.2})

def addDNSPolicy (siteID : String) (req : CreateDNSPolicyRequest) (id : String) (dns : DNSSites) : Except GoError DNSPolicy × DNSSites :=
  (.ok ⟨req,id⟩,Function.update dns siteID (dns siteID ++ [⟨req,id⟩]))

def CreateDNSPolicy (world : World) (siteID : String) (req : CreateDNSPolicyRequest) : Resolver → Except GoError DNSPolicy × Resolver :=
  dnsRequest world (addDNSPolicy siteID req)

def removeDNSPolicy (siteID policyID : String) (dns : DNSSites) : Except GoError Unit × DNSSites :=
  if (dns siteID).any (fun p => p.id == policyID) then (.ok (),Function.update dns siteID ((dns siteID).filter (fun p => p.id != policyID)))
  else (.error errNotFound,dns)

def DeleteDNSPolicy (world : World) (siteID policyID : String) (r : Resolver) : Except GoError Unit × Resolver :=
  match dnsRequest world (fun _ => removeDNSPolicy siteID policyID) r with
  | (.error e,q) => if e.wraps errNotFound then (.ok (),q) else (.error e,q)
  | (.ok _,q) => (.ok (),q)

def findDNSPolicyByDomain (world : World) (siteID domainName : String) (r : Resolver) : Except GoError (Option DNSPolicy) × Resolver :=
  match ListDNSPolicies world siteID r with
  | (.error e,q) => (.error e,q)
  | (.ok policies,q) => (.ok (policies.find? (fun p => p.domain == domainName)),q)

def EnsureDNSForwardDomain (world : World) (siteID domainName ipAddress : String) (r : Resolver) : Except GoError DNSPolicy × Resolver :=
  match findDNSPolicyByDomain world siteID domainName r with
  | (.error e,q) => (.error (.wrap "check existing DNS policy" e),q)
  | (.ok (some existing),q) => (.ok existing,q)
  | (.ok none,q) => CreateDNSPolicy world siteID ⟨"FORWARD_DOMAIN",domainName,ipAddress,true⟩ q

end VpnPack.Integration
