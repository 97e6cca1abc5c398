import VpnPack.Firewall.Manager
import VpnPack.Firewall.Orchestrator
import VpnPack.Firewall.WanPort
import VpnPack.Service.Errors
import VpnPack.Service.TunnelRequest
import VpnPack.Wgs2s.Listed

/-! WgS2sService over its interface to the tunnel manager, the firewall manager and the orchestrator, which
share one manifest. The policies of WAN ports and the zones with their policies are
kept apart: neither side ever asks for a name of the other. What SetupFirewall and the
two calls for WAN ports return is noted where it is only logged. The public key of a response is left out, and so is the restoring
of Tailscale rules that an opened or closed port sets off. -/
namespace VpnPack.Service
open Base Firewall Integration Ops State Wgs2s

-- subnets is what the validator is told of the networks of the host.
structure Host where
  fw : FwEnv
  world : World
  backend : Backend
  subnets : Nat → Option String → Except GoError SystemSubnets

structure System where
  wg : Wgs2s.State
  store : Store
  udapi : Udapi.Config
  clock : Nat
  client : Client
  api : Api
  calls : Nat
  deletes : List (String × Manifest)
  warned : List String

namespace System

def manifest (s : System) : Manifest := s.store.manifest
def tunnels (s : System) : List TunnelConfig := s.wg.config
def fw (s : System) : Fw := ⟨s.udapi,s.store,s.clock⟩
def wan (s : System) : Wan := ⟨s.client,s.store⟩
def orch (s : System) : Orch := ⟨s.api,s.calls,s.store,s.deletes⟩

def withFw (s : System) (f : Fw) : System := {s with udapi := f.udapi, store := f.store, clock := f.clock}
def withWan (s : System) (w : Wan) : System := {s with client := w.client, store := w.store}
def withOrch (s : System) (o : Orch) : System :=
  {s with api := o.api, calls := o.calls, store := o.store, deletes := o.deletes}

end System

def onWg (p : Proc Wgs2s.State) : Proc System := fun s => ((p s.wg).1,{s with wg := (p s.wg).2})
def onFw (p : Proc Fw) : Proc System := fun s => ((p s.fw).1,s.withFw (p s.fw).2)
def onWan (p : Proc Wan) : Proc System := fun s => ((p s.wan).1,s.withWan (p s.wan).2)

def noting (r : Option GoError × System) : System :=
  match r.1 with
  | none => r.2
  | some e => {r.2 with warned := r.2.warned ++ [e.text]}

section
variable (host : Host)

def SetupZone (tunnelID zoneID zoneName : String) (s : System) : SetupResult × System :=
  ((SetupWgS2sZone host.backend host.fw.disk tunnelID zoneID zoneName s.orch).1,
    s.withOrch (SetupWgS2sZone host.backend host.fw.disk tunnelID zoneID zoneName s.orch).2)

def SetupFirewall (ctx : Context) (tunnelID iface : String) (allowedIPs : List String) : Proc System :=
  onFw (SetupWgS2sFirewall host.fw ctx tunnelID iface allowedIPs)

def RemoveFirewall (tunnelID iface : String) (allowedIPs : List String) (s : System) : System :=
  (onFw (RemoveWgS2sFirewall host.fw tunnelID iface allowedIPs) s).2

def RemoveIPSetEntries (tunnelID : String) (cidrs : List String) (s : System) : System :=
  (onFw (RemoveWgS2sIPSetEntries host.fw tunnelID cidrs) s).2

def TeardownZone (tunnelID : String) (s : System) : System :=
  s.withOrch (TeardownWgS2sZone host.backend host.fw.disk tunnelID s.orch)

def openWanPort (port : Int) (iface : String) (s : System) : System :=
  noting (onWan (OpenWanPort host.world host.fw.disk port (wanMarkerWgS2sPrefix ++ iface)) s)

def closeWanPort (port : Int) (iface : String) (s : System) : System :=
  if port ≤ 0 then s else noting (onWan (CloseWanPort host.world host.fw.disk port (wanMarkerWgS2sPrefix ++ iface)) s)

def validateSubnets (allowedIPs : List String) (exclude : Option String) (s : System) : ValidationResult :=
  match host.subnets s.clock exclude with
  | .error e => ⟨[⟨"","","","block","subnet validation unavailable: " ++ e.text⟩],[]⟩
  | .ok sys => ValidateAllowedIPs allowedIPs sys

end

inductive Failure where
  | service (e : Error)
  | subnets (msg : String) (conflicts : List SubnetConflict)
  deriving DecidableEq, Repr

def wgFailure (e : GoError) : Failure := .service (upstreamError (humanizeWgS2sError e) e)

structure FirewallStatus where
  zoneCreated : Bool
  policiesReady : Bool
  udapiApplied : Bool
  errors : List String
  deriving DecidableEq, Repr

structure TunnelInfo where
  config : TunnelConfig
  zoneID : String
  zoneName : String
  warnings : List SubnetConflict
  deriving DecidableEq, Repr

structure TunnelResponse where
  info : TunnelInfo
  setupStatus : String
  firewall : Option FirewallStatus
  deriving DecidableEq, Repr

structure EnableResponse where
  ok : Bool
  setupStatus : String
  firewall : Option FirewallStatus
  deriving DecidableEq, Repr

def hasErrors (zoneResult : Option SetupResult) : Bool := zoneResult.any (fun r => 0 < r.errors.length)

def firewallResultStatus (zoneResult : Option SetupResult) (fwErr : Option GoError) : String :=
  if hasErrors zoneResult = false ∧ fwErr = none then "ok" else "partial"

def buildFirewallStatus (zoneResult : Option SetupResult) (fwErr : Option GoError) : FirewallStatus :=
  let errors := (fwErr.map GoError.text).toList
  match zoneResult with
  | none => ⟨false,false,false,errors⟩
  | some r => ⟨r.zoneCreated,r.policiesReady,r.udapiApplied,r.errors ++ errors⟩

def enrichTunnelInfo (config : TunnelConfig) (warnings : List SubnetConflict) (s : System) : TunnelInfo :=
  match s.manifest.wgS2s.lookup config.id with
  | some zm => ⟨config,zm.zoneID,zm.zoneName,warnings⟩
  | none => ⟨config,"","",warnings⟩

def findTunnelByID (id : String) (s : System) : Option TunnelConfig := (findTunnel id s.tunnels).map Prod.snd

-- The zones of GetZones in the order of its range over the map, each once.
def getZones (host : Host) (s : System) : List String :=
  (((host.backend.order s.manifest.wgS2s).map ZoneManifest.zoneID).filter (fun zoneID => zoneID ≠ "")).eraseDups

section
variable (host : Host)

def setupTunnelZone (tunnelID : String) (createZone : Bool) (zoneID zoneName : String) (s : System) : Option SetupResult × System :=
  if integrationReady s.wan = false then (none,s)
  else if createZone then Prod.map some id (SetupZone host tunnelID "" zoneName s)
  else if zoneID ≠ "" then Prod.map some id (SetupZone host tunnelID zoneID "" s)
  else if (getZones host s).length = 0 then Prod.map some id (SetupZone host tunnelID "" "WireGuard S2S" s)
  else (none,s)

def teardownTunnelFirewall (t : TunnelConfig) (s : System) : System :=
  closeWanPort host t.listenPort t.interfaceName (RemoveFirewall host t.id t.interfaceName t.cidrs s)

def installTunnelFirewall (ctx : Context) (t : TunnelConfig) (s : System) : Option GoError × System :=
  let rules := SetupFirewall host ctx t.id t.interfaceName t.cidrs s
  (rules.1,openWanPort host t.listenPort t.interfaceName (noting rules))

def CreateTunnel (ctx : Context) (wg : WireGuard) (req : CreateRequest) (s : System) : Except Failure TunnelResponse × System :=
  match validateCreateRequest req with
  | some e => (.error (.service (validationError e.text)),s)
  | none =>
    let validated := validateSubnets host req.config.cidrs none s
    match validated.blocked with
    | first :: rest => (.error (.subnets ("Subnet conflict: " ++ first.message) (first :: rest)),s)
    | [] =>
      match wg.create req.config req.privateKey s.wg with
      | (.error e,w) => (.error (wgFailure e),{s with wg := w})
      | (.ok tunnel,w) =>
        let zoned := setupTunnelZone host tunnel.id req.createZone req.zoneID req.zoneName {s with wg := w}
        let installed := installTunnelFirewall host ctx tunnel zoned.2
        let status := firewallResultStatus zoned.1 installed.1
        (.ok ⟨enrichTunnelInfo tunnel validated.warnings installed.2,status,
          if status = "partial" then some (buildFirewallStatus zoned.1 installed.1) else none⟩,installed.2)

def refreshFirewall (ctx : Context) (id : String) (existing : Option TunnelConfig) (updates tunnel : TunnelConfig) (s : System) :
    Option GoError × System :=
  match existing with
  | none => (none,s)
  | some old =>
    if updates.allowedIPs.isSome ∧ tunnel.enabled then
      let rules := SetupFirewall host ctx tunnel.id tunnel.interfaceName tunnel.cidrs (RemoveIPSetEntries host id old.cidrs s)
      (rules.1,noting rules)
    else (none,s)

-- OpenWanPort alone would find the marker and keep the old port.
def refreshWanPort (oldPort : Int) (tunnel : TunnelConfig) (s : System) : System :=
  if tunnel.enabled ∧ oldPort ≠ tunnel.listenPort then
    openWanPort host tunnel.listenPort tunnel.interfaceName (closeWanPort host oldPort tunnel.interfaceName s)
  else s

def subnetCheck (existing : Option TunnelConfig) (updates : TunnelConfig) (s : System) : ValidationResult :=
  match existing,updates.allowedIPs with
  | some old,some cidrs => validateSubnets host cidrs (some old.interfaceName) s
  | _,_ => ⟨[],[]⟩

def UpdateTunnel (ctx : Context) (wg : WireGuard) (id : String) (updates : TunnelConfig) (s : System) :
    Except Failure TunnelResponse × System :=
  match validateUpdateRequest updates with
  | some e => (.error (.service (validationError e.text)),s)
  | none =>
    let existing := findTunnelByID id s
    let oldPort := (existing.map TunnelConfig.listenPort).getD 0
    let validated := subnetCheck host existing updates s
    match validated.blocked with
    | first :: rest => (.error (.subnets ("Subnet conflict: " ++ first.message) (first :: rest)),s)
    | [] =>
      match wg.update id updates s.wg with
      | (.error e,w) => (.error (wgFailure e),{s with wg := w})
      | (.ok tunnel,w) =>
        let rules := refreshFirewall host ctx id existing updates tunnel {s with wg := w}
        let final := refreshWanPort host oldPort tunnel rules.2
        let status := firewallResultStatus none rules.1
        (.ok ⟨enrichTunnelInfo tunnel validated.warnings final,status,
          if status = "partial" then some (buildFirewallStatus none rules.1) else none⟩,final)

-- The context of the undo is the one of the call, after the six looks of the saga at it.
def deleteSteps (ctx : Context) (wg : WireGuard) (t : TunnelConfig) (id : String) : List (Op System) :=
  [⟨"tear down tunnel firewall",modify (teardownTunnelFirewall host t),
      modify (fun s => (installTunnelFirewall host (fun n => ctx (6+n)) t s).2)⟩,
    ⟨"teardown firewall zone",modify (TeardownZone host id),skip⟩,
    Noop "low-level wg delete (kernel + disk + keys)" (onWg (wg.delete id))]

def DeleteTunnel (ctx : Context) (wg : WireGuard) (id : String) (s : System) : Option Failure × System :=
  match findTunnelByID id s with
  | none => (some (.service (notFoundError "tunnel not found")),s)
  | some t => Prod.map (Option.map wgFailure) (fun u => u) (run ctx (deleteSteps host ctx wg t id) s)

def EnableTunnel (ctx : Context) (wg : WireGuard) (id : String) (s : System) : Except Failure EnableResponse × System :=
  match findTunnelByID id s with
  | none => (.error (.service (notFoundError "tunnel not found")),s)
  | some _ =>
    match onWg (wg.enable id) s with
    | (some e,t) => (.error (wgFailure e),t)
    | (none,t) =>
      match findTunnelByID id t with
      | none => (.ok ⟨true,"",none⟩,t)
      | some tunnel =>
        match installTunnelFirewall host ctx tunnel t with
        | (none,u) => (.ok ⟨true,"",none⟩,u)
        | (some e,u) => (.ok ⟨true,"partial",some ⟨false,false,false,[e.text]⟩⟩,u)

def DisableTunnel (wg : WireGuard) (id : String) (s : System) : Option Failure × System :=
  match findTunnelByID id s with
  | none => (some (.service (notFoundError "tunnel not found")),s)
  | some t =>
    match onWg (wg.disable id) s with
    | (some e,u) => (some (wgFailure e),u)
    | (none,u) => (none,teardownTunnelFirewall host t u)

end
end VpnPack.Service
