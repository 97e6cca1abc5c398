import VpnPack.Base.Threads
import VpnPack.Firewall.KernelView
import VpnPack.Service.Tunnels

/-! The calls that the tunnel service and the watcher make of the tunnel manager, the manifest,
the Integration API and UDAPI, each as one step on the system, and CreateTunnel,
DeleteTunnel and restoreWgS2sRules as programs of such calls. Of contexts there is
only the one that is never cancelled. A tick of a degraded watcher does nothing and
is not modelled. -/
namespace VpnPack.Service
open Base Firewall Integration Ops State Udapi Wgs2s

-- log and pass are not calls: they keep the warnings and the clock of the model.
inductive Call where
  | getTunnels
  | createTunnel (cfg : TunnelConfig) (privateKey : String)
  | deleteTunnel (id : String)
  | collectSubnets (exclude : Option String)
  | integrationReady
  | requireIntegration
  | getSiteID
  | getWgS2sZone (tunnelID : String)
  | getWgS2sZones
  | getWgS2sSnapshot
  | getWgS2sChainPrefix (tunnelID : String)
  | setWgS2sZone (tunnelID : String) (zm : ZoneManifest)
  | removeWgS2sTunnel (tunnelID : String)
  | ensureZone (name : String)
  | ensurePolicies (name zoneID : String)
  | deletePolicy (policyID : String)
  | deleteZone (zoneID : String)
  | discoverZone (zoneID : String)
  | discoverChainPrefix (zoneID : String)
  | collect (iface : String)
  | listRules (chain : Chain)
  | postRule (r : FirewallRule)
  | deleteRule (chain : Chain) (id : Nat)
  | findIPSet (ipsetName : String)
  | putSet (ipsetName : String) (entries : List String)
  | chainProbe (chain : Chain) (interfaceName : String)
  | ipsetProbe (setName cidr : String)
  | getWanPortPolicyID (marker : String)
  | getSystemZoneIDs
  | findSystemZoneIDs (siteID : String)
  | setSystemZoneIDs (extID gwID : String)
  | ensureWanPortPolicy (siteID : String) (port : Int) (name extID gwID : String)
  | setWanPort (marker policyID policyName : String) (port : Int)
  | deleteWanPolicy (siteID policyID : String)
  | removeWanPort (marker : String)
  | log (err : Option GoError)
  | pass
  deriving DecidableEq, Repr

@[reducible] def Call.Answer : Call → Type
  | .getTunnels => List TunnelConfig
  | .createTunnel _ _ => Except GoError TunnelConfig
  | .deleteTunnel _ => Option GoError
  | .collectSubnets _ => Except GoError SystemSubnets
  | .integrationReady => Bool
  | .requireIntegration => Bool
  | .getSiteID => String
  | .getWgS2sZone _ => Option ZoneManifest
  | .getWgS2sZones => List String
  | .getWgS2sSnapshot => List ZoneManifest
  | .getWgS2sChainPrefix _ => String
  | .setWgS2sZone _ _ => Option GoError
  | .removeWgS2sTunnel _ => Option GoError
  | .ensureZone _ => Except GoError Zone
  | .ensurePolicies _ _ => Except GoError (List String)
  | .deletePolicy _ => Unit
  | .deleteZone _ => Unit
  | .discoverZone _ => String
  | .discoverChainPrefix _ => String
  | .collect _ => Option SystemSubnets
  | .listRules _ => Except GoError (List Rule)
  | .postRule _ => Option GoError
  | .deleteRule _ _ => Option GoError
  | .findIPSet _ => Except GoError (Option (List String))
  | .putSet _ _ => Option GoError
  | .chainProbe _ _ => Bool
  | .ipsetProbe _ _ => Bool
  | .getWanPortPolicyID _ => String
  | .getSystemZoneIDs => String × String
  | .findSystemZoneIDs _ => Except GoError (String × String)
  | .setSystemZoneIDs _ _ => Option GoError
  | .ensureWanPortPolicy _ _ _ _ _ => Except GoError String
  | .setWanPort _ _ _ _ => Option GoError
  | .deleteWanPolicy _ _ => Except GoError Unit
  | .removeWanPort _ => Option GoError
  | .log _ => Unit
  | .pass => Unit

def System.withUdapi (s : System) (u : Config) : System := {s with udapi := u}
def System.withClient (s : System) (c : Client) : System := {s with client := c}

def recordIn (disk : Disk) (change : Manifest → Manifest) : Proc System := fun s =>
  ((update disk change s.store).1,{s with store := (update disk change s.store).2})

def onConfig (p : Proc Config) : Proc System := fun s => ((p s.udapi).1,s.withUdapi (p s.udapi).2)

def listRulesOf (link : Udapi.Link) (chain : Chain) (u : Config) : Except GoError (List Rule) × Config :=
  match request link id u with
  | (some e,v) => (.error e,v)
  | (none,v) => (.ok (v.rules chain),v)

def execute (host : Host) (wg : WireGuard) : (c : Call) → System → c.Answer × System
  | .getTunnels,s => (s.tunnels,s)
  | .createTunnel cfg privateKey,s => ((wg.create cfg privateKey s.wg).1,{s with wg := (wg.create cfg privateKey s.wg).2})
  | .deleteTunnel id,s => onWg (wg.delete id) s
  | .collectSubnets exclude,s => (host.subnets s.clock exclude,s)
  | .integrationReady,s => (Firewall.integrationReady s.wan,s)
  | .requireIntegration,s => (Firewall.requireIntegration host.backend s.orch,s)
  | .getSiteID,s => (s.manifest.siteID,s)
  | .getWgS2sZone tunnelID,s => (s.manifest.wgS2s.lookup tunnelID,s)
  | .getWgS2sZones,s => (getZones host s,s)
  | .getWgS2sSnapshot,s => (host.backend.order s.manifest.wgS2s,s)
  | .getWgS2sChainPrefix tunnelID,s => (s.manifest.wgS2sChainPrefix tunnelID,s)
  | .setWgS2sZone tunnelID zm,s => recordIn host.fw.disk (Manifest.setWgS2sZone tunnelID zm) s
  | .removeWgS2sTunnel tunnelID,s => recordIn host.fw.disk (Manifest.removeWgS2sTunnel tunnelID) s
  | .ensureZone name,s => ((Firewall.ensureZone host.backend name s.orch).1,s.withOrch (Firewall.ensureZone host.backend name s.orch).2)
  | .ensurePolicies name zoneID,s =>
    ((Firewall.ensurePolicies host.backend name zoneID s.orch).1,s.withOrch (Firewall.ensurePolicies host.backend name zoneID s.orch).2)
  | .deletePolicy policyID,s => ((),s.withOrch (Firewall.deletePolicy host.backend s.orch policyID))
  | .deleteZone zoneID,s => ((),s.withOrch (Firewall.deleteZone host.backend zoneID s.orch))
  | .discoverZone zoneID,s => (host.backend.discover s.calls zoneID,s)
  | .discoverChainPrefix zoneID,s => (DiscoverChainPrefix host.fw zoneID s.fw,s)
  | .collect iface,s => (host.fw.collect s.clock iface,s)
  | .listRules chain,s => ((listRulesOf host.fw.link chain s.udapi).1,s.withUdapi (listRulesOf host.fw.link chain s.udapi).2)
  | .postRule r,s => onConfig (request host.fw.link (Udapi.postRule r)) s
  | .deleteRule chain id,s => onConfig (request host.fw.link (Udapi.deleteRule chain id)) s
  | .findIPSet ipsetName,s => ((Udapi.findIPSet host.fw.link ipsetName s.udapi).1,s.withUdapi (Udapi.findIPSet host.fw.link ipsetName s.udapi).2)
  | .putSet ipsetName entries,s => onConfig (request host.fw.link (putEntries ipsetName entries)) s
  | .chainProbe chain interfaceName,s => (Firewall.chainProbe s.udapi chain interfaceName,s)
  | .ipsetProbe setName cidr,s => (ipsetHasMember (ipsetList s.udapi setName) cidr,s)
  | .getWanPortPolicyID marker,s => (s.manifest.wanPortPolicyID marker,s)
  | .getSystemZoneIDs,s => ((s.manifest.externalZoneID,s.manifest.gatewayZoneID),s)
  | .findSystemZoneIDs siteID,s =>
    ((FindSystemZoneIDs host.world siteID s.client).1,s.withClient (FindSystemZoneIDs host.world siteID s.client).2)
  | .setSystemZoneIDs extID gwID,s => recordIn host.fw.disk (Manifest.setSystemZoneIDs extID gwID) s
  | .ensureWanPortPolicy siteID port name extID gwID,s =>
    ((EnsureWanPortPolicy host.world siteID port name extID gwID s.client).1,
      s.withClient (EnsureWanPortPolicy host.world siteID port name extID gwID s.client).2)
  | .setWanPort marker policyID policyName port,s => recordIn host.fw.disk (Manifest.setWanPort marker policyID policyName port) s
  | .deleteWanPolicy siteID policyID,s =>
    ((DeletePolicy host.world siteID policyID s.client).1,s.withClient (DeletePolicy host.world siteID policyID s.client).2)
  | .removeWanPort marker,s => recordIn host.fw.disk (Manifest.removeWanPort marker) s
  | .log err,s => ((),noting (err,s))
  | .pass,s => ((),{s with clock := s.clock+1})

abbrev Program (α : Type) : Type := Prog Call Call.Answer α

namespace Program

def ask (c : Call) : Program c.Answer := Prog.ask c

structure Step where
  name : String
  Do : Program (Option GoError)
  Undo : Program (Option GoError)

-- ops.Run under a context that is never cancelled; the completed steps come last first.
def undoAll : List Step → Program (List GoError)
  | [] => pure []
  | step :: rest => do
    match ← step.Undo with
    | some e => do
      let errs ← undoAll rest
      pure (.wrap ("undo " ++ step.name) e :: errs)
    | none => undoAll rest

def rollback (completed : List Step) (cause : GoError) : Program (Option GoError) := do
  let errs ← undoAll completed
  pure (some (if errs.length > 0 then joinAll cause errs else cause))

def runFrom (completed : List Step) : List Step → Program (Option GoError)
  | [] => pure none
  | step :: rest => do
    match ← step.Do with
    | some e => rollback completed (.wrap step.name e)
    | none => runFrom (step :: completed) rest

def run (steps : List Step) : Program (Option GoError) := runFrom [] steps

def AddRule (r : FirewallRule) : Program (Option GoError) := do
  match ← ask (.listRules r.chain) with
  | .error e => pure (some (.wrap ("check " ++ r.chain.name) e))
  | .ok rules =>
    if rules.any (fun rule => rule.marker == r.marker) then pure none
    else Prog.wrapping ("add " ++ r.chain.name ++ " rule") (ask (.postRule r))

def AddInterfaceRulesForZone (iface marker chainPrefix : String) : Program (Option GoError) :=
  Prog.attemptAll AddRule (zoneRules iface marker chainPrefix)

def removeMarkerRules (marker : String) (chain : Chain) : Program (Option GoError) := do
  match ← ask (.listRules chain) with
  | .error e => pure (some (.wrap ("list " ++ chain.name ++ " rules") e))
  | .ok rules =>
    Prog.forEach (fun r : Rule => Prog.wrapping ("delete " ++ chain.name ++ " rule " ++ Nat.repr r.id) (ask (.deleteRule chain r.id)))
      (rules.filter (fun r => r.marker == marker))

def RemoveInterfaceRules (marker : String) : Program (Option GoError) := Prog.attemptAll (removeMarkerRules marker) Chain.all

def putSet (ipsetName : String) (entries : List String) : Program (Option GoError) :=
  Prog.wrapping ("update " ++ ipsetName) (ask (.putSet ipsetName entries))

def EnsureZoneSubnets (ipsetName : String) (cidrs : List String) : Program (Option GoError) :=
  if cidrs.length = 0 then pure none
  else do
    match ← ask (.findIPSet ipsetName) with
    | .error e => pure (some e)
    | .ok none => pure (some (ipsetNotFound ipsetName))
    | .ok (some entries) =>
      let added := cidrs.filter (fun cidr => decide (cidr ∉ entries))
      if added = [] then pure none else putSet ipsetName (entries ++ added)

def RemoveZoneSubnet (ipsetName cidr : String) : Program (Option GoError) := do
  match ← ask (.findIPSet ipsetName) with
  | .error e => pure (some e)
  | .ok none => pure none
  | .ok (some entries) =>
    let filtered := entries.filter (fun entry => entry != cidr)
    if filtered.length = entries.length then pure none else putSet ipsetName filtered

def ignoring (p : Program (Option GoError)) : Program (Option GoError) := do
  let _ ← p
  pure none

def removeSubnets (ipsetName : String) (cidrs : List String) : Program (Option GoError) :=
  Prog.forEach (fun cidr => ignoring (RemoveZoneSubnet ipsetName cidr)) cidrs

def rediscoverAndSaveWgS2s (tunnelID : String) (zm : ZoneManifest) (current : String) : Program String := do
  let rediscovered ← ask (.discoverChainPrefix zm.zoneID)
  if rediscovered = "" then pure current
  else do
    let _ ← ask (.setWgS2sZone tunnelID {zm with chainPrefix := rediscovered})
    pure rediscovered

def currentChainPrefix (tunnelID : String) : Program String := do
  let chainPrefix ← ask (.getWgS2sChainPrefix tunnelID)
  if chainPrefix = defaultChainPrefix then do
    match ← ask (.getWgS2sZone tunnelID) with
    | some zm => if zm.zoneID ≠ "" then rediscoverAndSaveWgS2s tunnelID zm chainPrefix else pure chainPrefix
    | none => pure chainPrefix
  else pure chainPrefix

def filterBlockedAllowedIPs (iface : String) (allowedIPs : List String) : Program (List String) :=
  if allowedIPs.length = 0 then pure []
  else do
    match ← ask (.collect iface) with
    | none => pure allowedIPs
    | some sys =>
      pure (allowedIPs.filter (fun cidr => !(ValidateAllowedIPs allowedIPs sys).blocked.any (fun conflict => conflict.cidr == cidr)))

def setupSteps (iface chainPrefix : String) (filtered : List String) : List Step :=
  ⟨"install wg-s2s chain rules",AddInterfaceRulesForZone iface (wgS2sMarker iface) chainPrefix,RemoveInterfaceRules (wgS2sMarker iface)⟩ ::
    (if 0 < filtered.length then
      [⟨"fill wg-s2s ipset",EnsureZoneSubnets (zoneIPSetName chainPrefix) filtered,removeSubnets (zoneIPSetName chainPrefix) filtered⟩]
    else [])

def SetupWgS2sFirewall (tunnelID iface : String) (allowedIPs : List String) : Program (Option GoError) := do
  let chainPrefix ← currentChainPrefix tunnelID
  let filtered ← filterBlockedAllowedIPs iface allowedIPs
  let _ ← ask .pass
  run (setupSteps iface chainPrefix filtered)

def RemoveWgS2sIPSetEntries (tunnelID : String) (cidrs : List String) : Program (Option GoError) := do
  let chainPrefix ← ask (.getWgS2sChainPrefix tunnelID)
  if chainPrefix = defaultChainPrefix ∨ cidrs.length = 0 then pure none
  else removeSubnets (zoneIPSetName chainPrefix) cidrs

def RemoveWgS2sFirewall (tunnelID iface : String) (allowedIPs : List String) : Program Unit := do
  let _ ← RemoveInterfaceRules (wgS2sMarker iface)
  let _ ← RemoveWgS2sIPSetEntries tunnelID allowedIPs
  pure ()

def resolveSystemZones (siteID : String) : Program (Except GoError (String × String)) := do
  let known ← ask .getSystemZoneIDs
  if known.1 ≠ "" ∧ known.2 ≠ "" then pure (.ok known)
  else do
    match ← ask (.findSystemZoneIDs siteID) with
    | .error e => pure (.error (.wrap "find system zones" e))
    | .ok (extID,gwID) => do
      match ← ask (.setSystemZoneIDs extID gwID) with
      | some e => pure (.error (.wrap "save manifest" e))
      | none => pure (.ok (extID,gwID))

def OpenWanPort (port : Int) (marker : String) : Program (Option GoError) := do
  if (← ask .integrationReady) = false then pure (some errIntegrationNotConfigured)
  else if (← ask (.getWanPortPolicyID marker)) ≠ "" then pure none
  else do
    let siteID ← ask .getSiteID
    match ← resolveSystemZones siteID with
    | .error e => pure (some (.wrap "resolve system zones" e))
    | .ok (extID,gwID) => do
      match ← ask (.ensureWanPortPolicy siteID port (WanPortPolicyName port marker) extID gwID) with
      | .error e => pure (some (.wrap "ensure WAN port policy" e))
      | .ok policyID =>
        Prog.wrapping "save manifest" (ask (.setWanPort marker policyID (WanPortPolicyName port marker) port))

def CloseWanPort (marker : String) : Program (Option GoError) := do
  if (← ask .integrationReady) = false then pure (some errIntegrationNotConfigured)
  else do
    let policyID ← ask (.getWanPortPolicyID marker)
    if policyID = "" then pure none
    else do
      let siteID ← ask .getSiteID
      match ← ask (.deleteWanPolicy siteID policyID) with
      | .error e =>
        if e.wraps errNotFound then Prog.wrapping "save manifest" (ask (.removeWanPort marker))
        else pure (some (.wrap "delete WAN port policy" e))
      | .ok _ => Prog.wrapping "save manifest" (ask (.removeWanPort marker))

def deletePolicies : List String → Program Unit
  | [] => pure ()
  | policyID :: rest => do
    let _ ← ask (.deletePolicy policyID)
    deletePolicies rest

def rollbackZone (zoneID : String) (policyIDs : List String) : Program Unit := do
  let _ ← deletePolicies policyIDs
  ask (.deleteZone zoneID)

def setupNamedZone (tunnelID zoneName : String) : Program SetupResult := do
  match ← ask (.ensureZone (displayName zoneName)) with
  | .error e => pure (newResult.addError "zone" (.wrap ("ensure zone " ++ quoted (displayName zoneName)) e))
  | .ok zone => do
    match ← ask (.ensurePolicies (orDefaultZone zoneName) zone.id) with
    | .error e => do
      let _ ← rollbackZone zone.id []
      pure (newResult.addError "policies" e)
    | .ok policyIDs => do
      let found ← ask (.discoverZone zone.id)
      let chainPrefix := if found ≠ "" then found else defaultChainPrefix
      match ← ask (.setWgS2sZone tunnelID ⟨zone.id,zone.name,policyIDs,chainPrefix⟩) with
      | some e => do
        let _ ← rollbackZone zone.id policyIDs
        pure ({newResult with chainPrefix := chainPrefix}.addError "manifest" (.wrap "save manifest" e))
      | none => pure ⟨true,zone.id,zone.name,true,policyIDs,false,chainPrefix,[]⟩

def SetupWgS2sZone (tunnelID zoneID zoneName : String) : Program SetupResult := do
  if (← ask .requireIntegration) = false then pure (newResult.addError "integration" errNotConfigured)
  else if zoneID ≠ "" then do
    let snapshot ← ask .getWgS2sSnapshot
    match snapshot.find? (fun zm => zm.zoneID == zoneID) with
    | none => pure (newResult.addError "zone" (.new ("zone " ++ zoneID ++ " not found in manifest")))
    | some zm => do
      match ← ask (.setWgS2sZone tunnelID zm) with
      | some e => pure (newResult.addError "manifest" e)
      | none => pure ⟨true,zm.zoneID,zm.zoneName,decide (0 < zm.policyIDs.length),zm.policyIDs,false,zm.chainPrefix,[]⟩
  else setupNamedZone tunnelID zoneName

def TeardownWgS2sZone (tunnelID : String) : Program Unit := do
  match ← ask (.getWgS2sZone tunnelID) with
  | none => pure ()
  | some zm => do
    let _ ← ask (.removeWgS2sTunnel tunnelID)
    if zm.zoneID = "" then pure ()
    else do
      let snapshot ← ask .getWgS2sSnapshot
      if snapshot.any (fun other => other.zoneID == zm.zoneID) then pure ()
      else if (← ask .requireIntegration) = false then pure ()
      else rollbackZone zm.zoneID zm.policyIDs

def setupTunnelZone (tunnelID : String) (createZone : Bool) (zoneID zoneName : String) : Program (Option SetupResult) := do
  if (← ask .integrationReady) = false then pure none
  else if createZone then some <$> SetupWgS2sZone tunnelID "" zoneName
  else if zoneID ≠ "" then some <$> SetupWgS2sZone tunnelID zoneID ""
  else do
    let zones ← ask .getWgS2sZones
    if zones.length = 0 then some <$> SetupWgS2sZone tunnelID "" "WireGuard S2S" else pure none

def openWanPort (port : Int) (iface : String) : Program Unit := do
  let err ← OpenWanPort port (wanMarkerWgS2sPrefix ++ iface)
  ask (.log err)

def closeWanPort (port : Int) (iface : String) : Program Unit :=
  if port ≤ 0 then pure ()
  else do
    let err ← CloseWanPort (wanMarkerWgS2sPrefix ++ iface)
    ask (.log err)

def teardownTunnelFirewall (t : TunnelConfig) : Program Unit := do
  let _ ← RemoveWgS2sFirewall t.id t.interfaceName t.cidrs
  closeWanPort t.listenPort t.interfaceName

def installTunnelFirewall (t : TunnelConfig) : Program (Option GoError) := do
  let err ← SetupWgS2sFirewall t.id t.interfaceName t.cidrs
  let _ ← ask (.log err)
  let _ ← openWanPort t.listenPort t.interfaceName
  pure err

def validateSubnets (allowedIPs : List String) : Program ValidationResult := do
  match ← ask (.collectSubnets none) with
  | .error e => pure ⟨[⟨"","","","block","subnet validation unavailable: " ++ e.text⟩],[]⟩
  | .ok sys => pure (ValidateAllowedIPs allowedIPs sys)

def enrichTunnelInfo (config : TunnelConfig) (warnings : List SubnetConflict) : Program TunnelInfo := do
  match ← ask (.getWgS2sZone config.id) with
  | some zm => pure ⟨config,zm.zoneID,zm.zoneName,warnings⟩
  | none => pure ⟨config,"","",warnings⟩

def furnish (req : CreateRequest) (warnings : List SubnetConflict) (tunnel : TunnelConfig) : Program TunnelResponse := do
  let zoneResult ← setupTunnelZone tunnel.id req.createZone req.zoneID req.zoneName
  let fwErr ← installTunnelFirewall tunnel
  let info ← enrichTunnelInfo tunnel warnings
  let status := firewallResultStatus zoneResult fwErr
  pure ⟨info,status,if status = "partial" then some (buildFirewallStatus zoneResult fwErr) else none⟩

def CreateTunnel (req : CreateRequest) : Program (Except Failure TunnelResponse) :=
  match validateCreateRequest req with
  | some e => pure (.error (.service (validationError e.text)))
  | none => do
    let validated ← validateSubnets req.config.cidrs
    match validated.blocked with
    | first :: rest => pure (.error (.subnets ("Subnet conflict: " ++ first.message) (first :: rest)))
    | [] => do
      match ← ask (.createTunnel req.config req.privateKey) with
      | .error e => pure (.error (wgFailure e))
      | .ok tunnel => .ok <$> furnish req validated.warnings tunnel

def always (p : Program Unit) : Program (Option GoError) := do
  let _ ← p
  pure none

def restoreFirewall (t : TunnelConfig) : Program (Option GoError) := do
  let _ ← installTunnelFirewall t
  pure none

def deleteSteps (t : TunnelConfig) (id : String) : List Step :=
  [⟨"tear down tunnel firewall",always (teardownTunnelFirewall t),restoreFirewall t⟩,
    ⟨"teardown firewall zone",always (TeardownWgS2sZone id),pure none⟩,
    ⟨"low-level wg delete (kernel + disk + keys)",ask (.deleteTunnel id),pure none⟩]

def DeleteTunnel (id : String) : Program (Option Failure) := do
  let tunnels ← ask .getTunnels
  match findTunnel id tunnels with
  | none => pure (some (.service (notFoundError "tunnel not found")))
  | some (_,t) => Option.map wgFailure <$> run (deleteSteps t id)

def reconcileTunnelZone (tunnelID : String) : Program (Option SetupResult) := do
  if (← ask .integrationReady) = false then pure none
  else do
    match ← ask .getWgS2sZones with
    | zoneID :: _ => some <$> SetupWgS2sZone tunnelID zoneID ""
    | [] => some <$> SetupWgS2sZone tunnelID "" "WireGuard S2S"

def reconcileEach : List TunnelConfig → Program Unit
  | [] => pure ()
  | t :: rest => do
    match ← ask (.getWgS2sZone t.id) with
    | some _ => reconcileEach rest
    | none => do
      match ← reconcileTunnelZone t.id with
      | none => pure ()
      | some _ => reconcileEach rest

def ReconcileZones : Program Unit := do
  let tunnels ← ask .getTunnels
  reconcileEach tunnels

def checkSpecs : List TunnelConfig → Program (List WgS2sCheckSpec)
  | [] => pure []
  | t :: rest =>
    if t.enabled then do
      let chainPrefix ← ask (.getWgS2sChainPrefix t.id)
      let specs ← checkSpecs rest
      pure (⟨t.interfaceName,chainPrefix,t.cidrs⟩ :: specs)
    else checkSpecs rest

def ipsetHas (setName : String) : List String → Program Bool
  | [] => pure true
  | cidr :: rest => do
    if ← ask (.ipsetProbe setName cidr) then ipsetHas setName rest else pure false

def checkSpec (spec : WgS2sCheckSpec) : Program Bool := do
  let forward ← ask (.chainProbe .forwardIn spec.interfaceName)
  let input ← ask (.chainProbe .input spec.interfaceName)
  let output ← ask (.chainProbe .output spec.interfaceName)
  let ipsetOK ← if spec.chainPrefix ≠ "" ∧ 0 < spec.subnets.length then ipsetHas ("UBIOS4" ++ spec.chainPrefix ++ "_subnets") spec.subnets
    else pure true
  pure (forward && input && output && ipsetOK)

def checkEach : List WgS2sCheckSpec → Dict Bool → Program (Dict Bool)
  | [],present => pure present
  | spec :: rest,present => do
    let found ← checkSpec spec
    checkEach rest (present.insert spec.interfaceName found)

def CheckWgS2sRulesPresent (specs : List WgS2sCheckSpec) : Program (Dict Bool) := checkEach specs ∅

def restoreEach (present : Dict Bool) : List TunnelConfig → Program Unit
  | [] => pure ()
  | t :: rest =>
    if t.enabled ∧ present.lookup t.interfaceName ≠ some true then do
      let err ← SetupWgS2sFirewall t.id t.interfaceName t.cidrs
      let _ ← ask (.log err)
      restoreEach present rest
    else restoreEach present rest

def restoreWgS2sRules : Program Unit := do
  let _ ← ReconcileZones
  let tunnels ← ask .getTunnels
  let specs ← checkSpecs tunnels
  if specs.length = 0 then pure ()
  else do
    let present ← CheckWgS2sRulesPresent specs
    restoreEach present tunnels

end Program

end VpnPack.Service
