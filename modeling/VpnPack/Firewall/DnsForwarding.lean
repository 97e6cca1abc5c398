import VpnPack.Firewall.WanPort
import VpnPack.Integration.Dns
import VpnPack.State.Document

/-! DNS forwarding of the firewall manager: the entry of the manifest and the policy of the API
behind it. The manifest has its DNS entries here beside the part the other firewall code
uses; one file holds both, so the saves are counted together. -/
namespace VpnPack.Firewall
open Base Integration State

structure Forwarding where
  resolver : Resolver
  store : Store
  entries : Dict DNSPolicyEntry

def Forwarding.wan (f : Forwarding) : Wan := ⟨f.resolver.client,f.store⟩
def Forwarding.siteID (f : Forwarding) : String := f.store.manifest.siteID

def dnsMarkerTailscale : String := "tailscale-dns"
def tailscaleDNSResolverIP : String := "100.100.100.100"

-- The manifest keeps a change in memory when its save fails.
def savingTo (fails : Nat → Option GoError) : Disk := ⟨fails,false⟩

def savingEntries (disk : Disk) (change : Dict DNSPolicyEntry → Dict DNSPolicyEntry) : Proc Forwarding := fun f =>
  let store := {f.store with saves := f.store.saves+1}
  match disk.fails f.store.saves with
  | some e => (some (.wrap "manifest save" e),{f with store := store, entries := if disk.reverts then f.entries else change f.entries})
  | none => (none,{f with store := store, entries := change f.entries})

def HasDNSPolicy (marker : String) (f : Forwarding) : Bool := (f.entries.lookup marker).isSome

-- Errors of the delete and of the save are only logged.
def dropForwarding (world : World) (disk : Disk) (entry : DNSPolicyEntry) (f : Forwarding) : Forwarding :=
  let deleted := (DeleteDNSPolicy world f.siteID entry.policyID f.resolver).2
  (savingEntries disk (fun entries => entries.erase dnsMarkerTailscale) {f with resolver := deleted}).2

def addForwarding (world : World) (disk : Disk) (magicDNSSuffix : String) : Proc Forwarding := fun f =>
  match EnsureDNSForwardDomain world f.siteID magicDNSSuffix tailscaleDNSResolverIP f.resolver with
  | (.error e,r) => (some (.wrap "create DNS forward domain" e),{f with resolver := r})
  | (.ok pol,r) =>
    wrapping "save manifest"
      (savingEntries disk (fun entries => entries.insert dnsMarkerTailscale ⟨pol.id,magicDNSSuffix,tailscaleDNSResolverIP⟩))
      {f with resolver := r}

def EnsureDNSForwarding (world : World) (disk : Disk) (magicDNSSuffix : String) : Proc Forwarding := fun f =>
  if integrationReady f.wan = false then (some errIntegrationNotConfigured,f)
  else
    match f.entries.lookup dnsMarkerTailscale with
    | some entry =>
      if entry.domain = magicDNSSuffix then (none,f)
      else addForwarding world disk magicDNSSuffix (dropForwarding world disk entry f)
    | none => addForwarding world disk magicDNSSuffix f

-- Without the API the entry goes all the same.
def RemoveDNSForwarding (world : World) (disk : Disk) : Proc Forwarding := fun f =>
  match f.entries.lookup dnsMarkerTailscale with
  | none => (none,f)
  | some entry =>
    let deleted := if integrationReady f.wan then (DeleteDNSPolicy world f.siteID entry.policyID f.resolver).2 else f.resolver
    wrapping "save manifest" (savingEntries disk (fun entries => entries.erase dnsMarkerTailscale)) {f with resolver := deleted}

end VpnPack.Firewall
