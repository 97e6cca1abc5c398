import VpnPack.Firewall.DnsForwarding
import VpnPack.Firewall.Subnets
import VpnPack.Service.Errors
import VpnPack.Service.TailscaledPort

/-! SettingsService over the stores it writes: the DNS forwarding of the firewall manager,
the prefs of tailscaled, its defaults file and the WAN port entries. A request is made
of tailscaled at most once in each place of the code, so the place names its answer.
url.Parse and netip.ParseAddrPort are parameters. The rules that
RestoreRulesWithRetry puts back are not part of these stores. -/
namespace VpnPack.Service
open Base Firewall Integration Net State

structure AddrPort where
  addr : Addr
  port : UInt16
  deriving DecidableEq, Repr

def AddrPort.text (ap : AddrPort) : String :=
  let host := String.ofList ap.addr.text
  (if ap.addr.Is4 then host else "[" ++ host ++ "]") ++ ":" ++ toString ap.port.toNat

structure Prefs where
  hostname : String
  corpDNS : Bool
  routeAll : Bool
  shieldsUp : Bool
  runSSH : Bool
  noSNAT : Bool
  relayServerPort : Option UInt16
  relayServerStaticEndpoints : List AddrPort
  advertiseTags : List String
  controlURL : String
  deriving DecidableEq, Repr

structure SettingsRequest where
  hostname : Option String
  acceptDNS : Option Bool
  acceptRoutes : Option Bool
  shieldsUp : Option Bool
  runSSH : Option Bool
  controlURL : Option String
  noSNAT : Option Bool
  udpPort : Option Int
  relayServerPort : Option Int
  relayServerEndpoints : Option String
  advertiseTags : Option (List String)
  deriving DecidableEq, Repr

-- A field whose Set flag is off is none.
structure MaskedPrefs where
  hostname : Option String
  routeAll : Option Bool
  shieldsUp : Option Bool
  runSSH : Option Bool
  controlURL : Option String
  noSNAT : Option Bool
  relayServerPort : Option (Option UInt16)
  relayServerStaticEndpoints : Option (List AddrPort)
  advertiseTags : Option (List String)
  deriving DecidableEq, Repr

def MaskedPrefs.apply (mp : MaskedPrefs) (p : Prefs) : Prefs :=
  {p with
    hostname := mp.hostname.getD p.hostname
    routeAll := mp.routeAll.getD p.routeAll
    shieldsUp := mp.shieldsUp.getD p.shieldsUp
    runSSH := mp.runSSH.getD p.runSSH
    controlURL := mp.controlURL.getD p.controlURL
    noSNAT := mp.noSNAT.getD p.noSNAT
    relayServerPort := mp.relayServerPort.getD p.relayServerPort
    relayServerStaticEndpoints := mp.relayServerStaticEndpoints.getD p.relayServerStaticEndpoints
    advertiseTags := mp.advertiseTags.getD p.advertiseTags}

structure PeerStatus where
  hostName : String
  dnsName : String
  primaryRoutes : Option (List Prefix)
  deriving DecidableEq, Repr

-- The suffix is none without a current tailnet; the peers come in the order of the range.
structure Status where
  backendState : String
  magicDNSSuffix : Option String
  peers : List PeerStatus
  deriving DecidableEq, Repr

structure S2sTunnelInfo where
  name : String
  allowedIPs : List String
  deriving DecidableEq, Repr

inductive LocalCall where
  | controlPrefs
  | controlStatus
  | relayPrefs
  | dnsStatus
  | peerStatus
  | oldPrefs
  deriving DecidableEq, Repr

inductive PortField where
  | udpPort
  | relayServerPort
  deriving DecidableEq, Repr

structure SettingsEnv where
  world : World
  saves : Nat → Option GoError
  refuses : LocalCall → Option GoError
  status : LocalCall → Status
  edit : Answer
  writing : Writing
  taken4 : PortField → Bool
  taken6 : PortField → Bool
  parseURL : String → Except GoError (String × String)
  parseAddrPort : String → Except GoError AddrPort
  hasUDAPI : Bool
  s2sTunnels : List S2sTunnelInfo

inductive Notice where
  | restartRequired
  | dnsChanged (enabled : Bool)
  deriving DecidableEq, Repr

structure SettingsState where
  fwd : Forwarding
  prefs : Prefs
  defaults : Defaults
  notices : List Notice

structure SettingsResponse where
  hostname : String
  acceptDNS : Bool
  acceptRoutes : Bool
  shieldsUp : Bool
  runSSH : Bool
  noSNAT : Bool
  udpPort : Int
  relayServerPort : Option UInt16
  relayServerEndpoints : String
  advertiseTags : List String
  controlURL : String
  warnings : List SubnetConflict
  deriving DecidableEq, Repr

structure SetResult where
  response : SettingsResponse
  dnsChanged : Bool
  acceptDNSEnabled : Bool
  needsRestart : Bool
  acceptRoutesWarnings : List SubnetConflict
  deriving DecidableEq, Repr

def FormatAddrPorts (addrs : List AddrPort) : String := ", ".intercalate (addrs.map AddrPort.text)

def parseEach (parse : String → Except GoError AddrPort) : List (List Char) → Except GoError (List AddrPort)
  | [] => .ok []
  | part :: rest =>
    let p := trimSpace part
    if p = [] then parseEach parse rest
    else
      match parse (String.ofList p) with
      | .error e => .error (.wrap ("invalid endpoint " ++ (String.ofList p).quote) e)
      | .ok ap =>
        match parseEach parse rest with
        | .error e => .error e
        | .ok later => .ok (ap :: later)

def ParseAddrPorts (parse : String → Except GoError AddrPort) (s : String) : Except GoError (List AddrPort) :=
  if s = "" then .ok [] else parseEach parse (s.toList.splitOn ',')

def localFailure (e : GoError) : Error := upstreamError (humanizeLocalAPIError e) e

def GetPrefs (env : SettingsEnv) (call : LocalCall) (s : SettingsState) : Except GoError Prefs :=
  match env.refuses call with
  | some e => .error e
  | none => .ok s.prefs

def askStatus (env : SettingsEnv) (call : LocalCall) : Except GoError Status :=
  match env.refuses call with
  | some e => .error e
  | none => .ok (env.status call)

-- The reply to an edit that was made can be lost.
def EditPrefs (env : SettingsEnv) (mp : MaskedPrefs) (s : SettingsState) : Except GoError Prefs × SettingsState :=
  match env.edit with
  | .failed e => (.error e,s)
  | .lost e => (.error e,{s with prefs := mp.apply s.prefs})
  | .ok => (.ok (mp.apply s.prefs),{s with prefs := mp.apply s.prefs})

def isDNSForwardingEnabled (s : SettingsState) : Bool := HasDNSPolicy dnsMarkerTailscale s.fwd

def ValidateControlURL (env : SettingsEnv) (raw : String) : Option GoError :=
  if raw = "" then none
  else
    match env.parseURL raw with
    | .error e => some (.wrap "invalid URL" e)
    | .ok (scheme,host) =>
      if scheme ≠ "https" then some (.new "control server URL must use HTTPS scheme")
      else if host = "" then some (.new "control server URL must have a host")
      else none

def ValidateTag (tag : String) : Option GoError :=
  if "tag:".toList.isPrefixOf tag.toList = false then some (.new "must start with 'tag:'")
  else
    match tag.toList.drop 4 with
    | [] => some (.new "name must not be empty")
    | c :: rest =>
      if c.isAlpha = false then some (.new "name must start with a letter")
      else if (c :: rest).all (fun b => b.isAlpha || b.isDigit || b == '-') then none
      else some (.new "name can only contain letters, numbers, or dashes")

def unifiReservedUDPPorts : List (Int × String) :=
  [(53,"DNS"),(67,"DHCP"),(123,"NTP"),(161,"SNMP"),(500,"IPsec IKE"),(1900,"SSDP/UPnP"),(2647,"discovery"),(3478,"STUN"),
    (4500,"IPsec NAT-T"),(5353,"mDNS"),(5514,"syslog"),(10001,"discovery"),(10101,"discovery")]

def checkWanUDPPortAvailable (env : SettingsEnv) (field : PortField) (port : Int) : Option GoError :=
  match unifiReservedUDPPorts.lookup port with
  | some svc => some (.new ("port " ++ toString port ++ " is reserved by the UniFi " ++ svc ++ " service; choose a different port"))
  | none =>
    if env.taken4 field || env.taken6 field then
      some (.new ("port " ++ toString port ++ " is already in use by another service; choose a different port"))
    else none

def relayPortChanged (env : SettingsEnv) (newPort : Int) (s : SettingsState) : Except Error Bool :=
  match GetPrefs env .relayPrefs s with
  | .error e => .error (localFailure e)
  | .ok prefs => .ok (newPort != (prefs.relayServerPort.map (fun p => (p.toNat : Int))).getD 0)

def checkAcceptDNS (req : SettingsRequest) (s : SettingsState) : Option Error :=
  if req.acceptDNS = some true ∧ integrationReady s.fwd.wan = false then
    some (validationError "DNS forwarding requires Integration API. Configure in Settings > Integration.")
  else none

def checkControlURL (env : SettingsEnv) (req : SettingsRequest) (s : SettingsState) : Option Error :=
  match req.controlURL with
  | none => none
  | some raw =>
    match ValidateControlURL env raw with
    | some e => some (validationError e.text)
    | none =>
      match GetPrefs env .controlPrefs s with
      | .error e => some (localFailure e)
      | .ok prefs =>
        if raw = prefs.controlURL then none
        else
          match askStatus env .controlStatus with
          | .error e => some (localFailure e)
          | .ok st =>
            if st.backendState = "Running" then some (validationError "Must log out before changing control server URL") else none

-- tailscaled holds the current port, so only another one is probed.
def checkUDPPort (env : SettingsEnv) (req : SettingsRequest) (s : SettingsState) : Option Error × SettingsState :=
  match req.udpPort with
  | none => (none,s)
  | some port =>
    if port < 1 ∨ maxPort < port then (some (validationError "UDP port must be between 1 and 65535"),s)
    else
      let read := ReadTailscaledPort s.defaults
      let t := {s with defaults := read.2}
      if port = read.1 then (none,t)
      else ((checkWanUDPPortAvailable env .udpPort port).map (fun e => validationError e.text),t)

def checkRelayPort (env : SettingsEnv) (req : SettingsRequest) (s : SettingsState) : Option Error :=
  match req.relayServerPort with
  | none => none
  | some port =>
    if port < -1 ∨ maxPort < port then some (validationError "Relay server port must be between 0 and 65535, or -1 to disable")
    else if 0 < port then
      match relayPortChanged env port s with
      | .error e => some e
      | .ok false => none
      | .ok true => (checkWanUDPPortAvailable env .relayServerPort port).map (fun e => validationError e.text)
    else none

def checkTags (req : SettingsRequest) : Option Error :=
  (req.advertiseTags.getD []).findSome? (fun tag =>
    (ValidateTag tag).map (fun e => validationError ("Invalid tag " ++ tag.quote ++ ": " ++ e.text)))

def checkEndpoints (env : SettingsEnv) (req : SettingsRequest) : Except Error (List AddrPort) :=
  match req.relayServerEndpoints with
  | none => .ok []
  | some text =>
    match ParseAddrPorts env.parseAddrPort text with
    | .error e => .error (validationError ("Invalid relay server endpoints: " ++ e.text))
    | .ok endpoints => .ok endpoints

def validate (env : SettingsEnv) (req : SettingsRequest) (s : SettingsState) : Except Error (List AddrPort) × SettingsState :=
  match checkAcceptDNS req s with
  | some e => (.error e,s)
  | none =>
    match checkControlURL env req s with
    | some e => (.error e,s)
    | none =>
      match checkUDPPort env req s with
      | (some e,t) => (.error e,t)
      | (none,t) =>
        match checkRelayPort env req t with
        | some e => (.error e,t)
        | none =>
          match checkTags req with
          | some e => (.error e,t)
          | none => (checkEndpoints env req,t)

def applyDNSForwarding (env : SettingsEnv) (enable : Bool) (s : SettingsState) : Option Error × SettingsState :=
  if enable then
    match askStatus env .dnsStatus with
    | .error e => (some (localFailure e),s)
    | .ok st =>
      let suffix := st.magicDNSSuffix.getD ""
      if suffix = "" then (some (validationError "Cannot determine tailnet DNS suffix. Ensure Tailscale is connected."),s)
      else
        let ran := EnsureDNSForwarding env.world (savingTo env.saves) suffix s.fwd
        (ran.1.map (fun e => internalError "failed to create DNS forwarding" (some e)),{s with fwd := ran.2})
  else
    let ran := RemoveDNSForwarding env.world (savingTo env.saves) s.fwd
    (ran.1.map (fun e => internalError "failed to remove DNS forwarding" (some e)),{s with fwd := ran.2})

def touchDNSForwarding (env : SettingsEnv) (req : SettingsRequest) (s : SettingsState) : Option Error × SettingsState :=
  match req.acceptDNS with
  | none => (none,s)
  | some enable => applyDNSForwarding env enable s

structure PeerRoute where
  cidr : String
  net : Prefix
  peerName : String
  deriving DecidableEq, Repr

def peerRoutes (peer : PeerStatus) : List PeerRoute :=
  (peer.primaryRoutes.getD []).filterMap (fun p =>
    (parseCIDR p.text).map (fun found =>
      ⟨String.ofList p.text,found.2,if peer.hostName = "" then peer.dnsName else peer.hostName⟩))

def collectPeerSubnetRoutes (env : SettingsEnv) : List PeerRoute :=
  match askStatus env .peerStatus with
  | .error _ => []
  | .ok st => st.peers.flatMap peerRoutes

structure TunnelSubnet where
  tunnelName : String
  cidr : String
  net : Prefix
  deriving DecidableEq, Repr

def tunnelSubnets (t : S2sTunnelInfo) : List TunnelSubnet :=
  t.allowedIPs.filterMap (fun cidr => (parseCIDR cidr.toList).map (fun found => ⟨t.name,cidr,found.2⟩))

def overrideWarning (pr : PeerRoute) (ts : TunnelSubnet) : SubnetConflict :=
  ⟨pr.cidr,ts.cidr ++ " (S2S tunnel " ++ ts.tunnelName.quote ++ ")","","warn",
    "Tailscale route " ++ pr.cidr ++ " from peer " ++ pr.peerName.quote ++ " (table 52, priority 5270) will override " ++
      "S2S tunnel " ++ ts.tunnelName.quote ++ " route " ++ ts.cidr ++ " (main table, priority 32000). " ++
      "Traffic will go through Tailscale instead of the WireGuard tunnel."⟩

def validateAcceptRoutes (env : SettingsEnv) : List SubnetConflict :=
  (collectPeerSubnetRoutes env).flatMap (fun pr =>
    ((env.s2sTunnels.flatMap tunnelSubnets).filter (fun ts => subnetsOverlap pr.net ts.net)).map (overrideWarning pr))

structure PreEditPrefs where
  controlURL : String
  relayPort : Option UInt16
  deriving DecidableEq, Repr

def needsPreEdit (env : SettingsEnv) (req : SettingsRequest) : Bool :=
  req.controlURL.isSome || (req.relayServerPort.isSome && env.hasUDAPI)

def fetchPreEditPrefs (env : SettingsEnv) (req : SettingsRequest) (s : SettingsState) : Except Error PreEditPrefs :=
  if needsPreEdit env req = false then .ok ⟨"",none⟩
  else
    match GetPrefs env .oldPrefs s with
    | .error e => .error (localFailure e)
    | .ok prefs =>
      .ok ⟨if req.controlURL.isSome then prefs.controlURL else "",
        if req.relayServerPort.isSome && env.hasUDAPI then prefs.relayServerPort else none⟩

def BuildMaskedPrefs (req : SettingsRequest) (relayEndpoints : List AddrPort) : MaskedPrefs where
  hostname := req.hostname
  routeAll := req.acceptRoutes
  shieldsUp := req.shieldsUp
  runSSH := req.runSSH
  controlURL := req.controlURL
  noSNAT := req.noSNAT
  relayServerPort := req.relayServerPort.map (fun port => if port < 0 then none else some (UInt16.ofNat port.toNat))
  relayServerStaticEndpoints := req.relayServerEndpoints.map (fun _ => relayEndpoints)
  advertiseTags := req.advertiseTags

def applyUDPPortChange (env : SettingsEnv) (newPort : Option Int) (s : SettingsState) : Except Error Bool × SettingsState :=
  match newPort with
  | none => (.ok false,s)
  | some port =>
    let read := ReadTailscaledPort s.defaults
    if port = read.1 then (.ok false,{s with defaults := read.2})
    else
      match WriteTailscaledPort env.writing port read.2 with
      | (some _,d) => (.error (internalError "Failed to update UDP port configuration" none),{s with defaults := d})
      | (none,d) => (.ok true,{s with defaults := d})

def SettingsState.onWan (change : Wan → Wan) (s : SettingsState) : SettingsState :=
  let w := change s.fwd.wan
  {s with fwd := {s.fwd with resolver := {s.fwd.resolver with client := w.client}, store := w.store}}

def updateRules (env : SettingsEnv) (req : SettingsRequest) (old : PreEditPrefs) (s : SettingsState) : SettingsState :=
  let t :=
    match req.relayServerPort with
    | none => s
    | some port => s.onWan (updateRelayPortRules env.world (savingTo env.saves) port (old.relayPort.map (fun p => (p.toNat : Int))))
  match req.udpPort with
  | none => t
  | some port => t.onWan (updateTailscaleWgPortRules env.world (savingTo env.saves) port)

def ToSettingsResponse (prefs : Prefs) (udpPort : Int) : SettingsResponse :=
  ⟨prefs.hostname,prefs.corpDNS,prefs.routeAll,prefs.shieldsUp,prefs.runSSH,prefs.noSNAT,udpPort,prefs.relayServerPort,
    FormatAddrPorts prefs.relayServerStaticEndpoints,prefs.advertiseTags,prefs.controlURL,[]⟩

def finish (env : SettingsEnv) (req : SettingsRequest) (warnings : List SubnetConflict) (old : PreEditPrefs) (updated : Prefs)
    (portRestart : Bool) (s : SettingsState) : SetResult × SettingsState :=
  let needsRestart := req.controlURL.any (fun raw => raw != old.controlURL) || portRestart
  let t := updateRules env req old s
  let enabled := isDNSForwardingEnabled t
  let read := ReadTailscaledPort t.defaults
  let restart := if needsRestart then [Notice.restartRequired] else []
  let changed := if req.acceptDNS.isSome then [Notice.dnsChanged enabled] else []
  (⟨{ToSettingsResponse updated read.1 with acceptDNS := enabled, warnings := warnings},req.acceptDNS.isSome,enabled,needsRestart,warnings⟩,
    {t with defaults := read.2, notices := t.notices ++ restart ++ changed})

def SetSettings (env : SettingsEnv) (req : SettingsRequest) (s : SettingsState) : Except Error SetResult × SettingsState :=
  match validate env req s with
  | (.error e,t) => (.error e,t)
  | (.ok relayEndpoints,t) =>
    match touchDNSForwarding env req t with
    | (some e,u) => (.error e,u)
    | (none,u) =>
      let warnings := if req.acceptRoutes = some true then validateAcceptRoutes env else []
      match fetchPreEditPrefs env req u with
      | .error e => (.error e,u)
      | .ok old =>
        match EditPrefs env (BuildMaskedPrefs req relayEndpoints) u with
        | (.error e,v) => (.error (localFailure e),v)
        | (.ok updated,v) =>
          match applyUDPPortChange env req.udpPort v with
          | (.error e,w) => (.error e,w)
          | (.ok portRestart,w) =>
            let finished := finish env req warnings old updated portRestart w
            (.ok finished.1,finished.2)

end VpnPack.Service
