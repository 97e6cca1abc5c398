import VpnPack.Ops
import VpnPack.Wgs2s.Kernel

/-! TunnelManager: the five tunnel operations and RestoreAll as procedures over the
tunnel list, tunnels.json, the key files, routeRefs and the kernel. The answers
of the environment are an argument: each call that can fail is named, once for
the forward path and once for undo and rollback. lookupIface and listIfaces have
no error result and are taken to answer truthfully. The mutex is not modelled:
every operation holds it from start to end. -/
namespace VpnPack.Wgs2s
open Base Net Ops

structure State where
  config : List TunnelConfig
  disk : List TunnelConfig
  keys : String → Option String
  refs : RouteRefs
  kernel : Kernel

inductive Phase where
  | forward
  | undo
  deriving DecidableEq, Repr

inductive Site where
  | link
  | hot
  deriving DecidableEq, Repr

inductive Step where
  | portProbe4
  | portProbe6
  | random
  | keyGenerate
  | keyWrite
  | pubWrite
  | keyRemove
  | keyPreflight
  | keyRead
  | dial
  | linkDelete
  | linkDeleteAgain
  | linkCleanup
  | linkNew
  | linkLookup
  | setMTU
  | configureDevice
  | updatePeer
  | addAddress
  | linkUp
  | routeAdd (site : Site) (position : Nat)
  | routeDelete (site : Site) (position : Nat)
  | routeReplace (site : Site) (position : Nat)
  | save
  deriving DecidableEq, Repr

structure Env where
  answer : Phase → Step → Option GoError
  random : BitVec 32
  now : Int
  newKey : String
  parseKey : String → Except GoError String
  resolve : String → Option GoError

def eexist : GoError := .new "file exists"
def esrch : GoError := .new "no such process"
def enodev : GoError := .new "no such device"
def enoent : GoError := .new "no such file or directory"

def tunnelNotFound (id : String) : GoError := .new ("tunnel " ++ id ++ " not found")
def invalidTunnelID (id : String) : GoError := .new ("invalid tunnel ID: " ++ id.quote)
def invalidCIDR (cidr : String) : GoError := .new ("invalid CIDR address: " ++ cidr)
def uint32 (n : Int) : Nat := (n % 2^32).toNat

def onKernel (env : Env) (ph : Phase) (step : Step) (change : Kernel → Option Kernel) (refusal : GoError) : Proc State := fun s =>
  match env.answer ph step with
  | some e => (some e,s)
  | none =>
    match change s.kernel with
    | none => (some refusal,s)
    | some k => (none,{s with kernel := k})

def adjustIndex (i : Nat) (f : Settings → Settings) (k : Kernel) : Option Kernel :=
  if k.hasIndex i then some (k.adjust (fun l => l.index = i) f) else none

def adjustNamed (name : String) (f : Settings → Settings) (k : Kernel) : Option Kernel :=
  if (k.find name).isSome then some (k.adjust (fun l => l.name = name) f) else none

def deleteLink (env : Env) (ph : Phase) (step : Step) (i : Nat) : Proc State :=
  onKernel env ph step (fun k => if k.hasIndex i then some (k.deleteLink i) else none) enodev

def createLink (env : Env) (ph : Phase) (name : String) : Proc State :=
  onKernel env ph .linkNew (fun k => k.newLink name) eexist

-- createInterface hands the index it looked up to the rest of the bring-up.
def createInterface (env : Env) (ph : Phase) (name : String) (next : Nat → Proc State) : Proc State :=
  seq (wrapping ("create interface " ++ name) (createLink env ph name)) fun s =>
    match env.answer ph .linkLookup with
    | some e => (some (.wrap ("interface " ++ name ++ " created but not found") e),s)
    | none =>
      match s.kernel.lookup name with
      | none => (some (.wrap ("interface " ++ name ++ " created but not found") enodev),s)
      | some i => next i s

def setMTU (env : Env) (ph : Phase) (i : Nat) (mtu : Int) : Proc State :=
  onKernel env ph .setMTU (adjustIndex i (fun st => {st with mtu := uint32 mtu})) enodev

def setInterfaceUp (env : Env) (ph : Phase) (i : Nat) : Proc State :=
  onKernel env ph .linkUp (adjustIndex i (fun st => {st with up := true})) enodev

def addAddress (env : Env) (ph : Phase) (i : Nat) (cidr : String) : Proc State :=
  match parseCIDR cidr.toList with
  | none => fail (.wrap ("parse CIDR " ++ cidr) (invalidCIDR cidr))
  | some (ip,ipNet) =>
    onKernel env ph .addAddress
      (adjustIndex i (fun st => {st with addresses := st.addresses ++ [(shortAddr ip,ipNet.bits)]})) enodev

structure PeerConfig where
  publicKey : String
  endpoint : String
  allowedIPs : List String
  persistentKeepalive : Int

def TunnelConfig.peer (t : TunnelConfig) : PeerConfig :=
  ⟨t.peerPublicKey,t.peerEndpoint,t.cidrs,t.persistentKeepalive⟩

def parseAllowed : List String → Except GoError (List Prefix)
  | [] => .ok []
  | cidr :: rest =>
    match parseCIDR cidr.toList with
    | none => .error (.wrap ("parse allowed IP " ++ cidr) (invalidCIDR cidr))
    | some (_,ipNet) =>
      match parseAllowed rest with
      | .error e => .error e
      | .ok nets => .ok (ipNet :: nets)

-- The endpoint is kept as the text that was resolved.
def buildPeerConfig (env : Env) (peer : PeerConfig) : Except GoError Peer :=
  match env.parseKey peer.publicKey with
  | .error e => .error (.wrap "parse peer public key" e)
  | .ok key =>
    match if peer.endpoint ≠ "" then env.resolve peer.endpoint else none with
    | some e => .error (.wrap ("resolve peer endpoint " ++ peer.endpoint) e)
    | none =>
      match parseAllowed peer.allowedIPs with
      | .error e => .error e
      | .ok nets =>
        .ok ⟨key,if peer.endpoint ≠ "" then some peer.endpoint else none,nets,
          if 0 < peer.persistentKeepalive then some peer.persistentKeepalive else none⟩

def configureDevice (env : Env) (ph : Phase) (name key : String) (port : Int) (peer : PeerConfig) : Proc State :=
  let apply (peers : List Peer) : Proc State :=
    wrapping ("configure device " ++ name) (onKernel env ph .configureDevice
      (adjustNamed name (fun st => {st with privateKey := some key, listenPort := port, peers := peers})) enodev)
  if peer.publicKey = "" then apply []
  else
    match buildPeerConfig env peer with
    | .error e => fail e
    | .ok pc => apply [pc]

-- UpdateOnly with ReplaceAllowedIPs: an absent endpoint or keepalive is left as it is.
def updateOnly (pc old : Peer) : Peer :=
  if old.publicKey = pc.publicKey then
    {old with endpoint := pc.endpoint.or old.endpoint, allowedIPs := pc.allowedIPs, keepalive := pc.keepalive.or old.keepalive}
  else old

def updatePeer (env : Env) (name : String) (peer : PeerConfig) : Proc State :=
  if peer.publicKey = "" then skip
  else
    match buildPeerConfig env peer with
    | .error e => fail e
    | .ok pc =>
      wrapping ("update peer on " ++ name) (onKernel env .forward .updatePeer
        (adjustNamed name (fun st => {st with peers := st.peers.map (updateOnly pc)})) enodev)

def buildRouteMessage (cidr : String) (ifIndex : Nat) (metric : Int) : Except GoError RouteMessage :=
  match parseCIDR cidr.toList with
  | none => .error (.wrap ("parse route CIDR " ++ cidr) (invalidCIDR cidr))
  | some (_,ipNet) => .ok ⟨ipNet,ifIndex,uint32 metric⟩

def routesAdd (env : Env) (ph : Phase) (step : Step) (msg : RouteMessage) : Proc State :=
  onKernel env ph step
    (fun k => if (k.routes msg.key).isSome then none else some (k.setRoute msg.key (some msg.outIface))) eexist

def routesDelete (env : Env) (ph : Phase) (step : Step) (msg : RouteMessage) : Proc State :=
  onKernel env ph step
    (fun k => if k.routes msg.key = some msg.outIface then some (k.setRoute msg.key none) else none) esrch

def routesReplace (env : Env) (ph : Phase) (step : Step) (msg : RouteMessage) : Proc State :=
  onKernel env ph step (fun k => some (k.setRoute msg.key (some msg.outIface))) esrch

def unregisterRoutes (tunnelID : String) (metric : Int) (cidrs : List String) (s : State) : State :=
  cidrs.foldl (fun s cidr => {s with refs := (s.refs.remove cidr tunnelID metric).2}) s

section
variable (env : Env) (ph : Phase) (site : Site) (tunnelID : String) (ifIndex : Nat) (metric : Int)

-- A shared owner re-asserts the route and ignores every error of that Add.
def claimFrom : Nat → List String → List String → Proc State
  | _,_,[] => skip
  | i,registered,cidr :: rest => fun s =>
    let added := s.refs.add cidr tunnelID ifIndex metric
    let s := {s with refs := added.2}
    let registered := registered ++ [cidr]
    match buildRouteMessage cidr ifIndex metric with
    | .error e => (some e,unregisterRoutes tunnelID metric registered s)
    | .ok msg =>
      match routesAdd env ph (.routeAdd site i) msg s with
      | (none,t) => claimFrom (i+1) registered rest t
      | (some e,t) =>
        if added.1 && !e.wraps eexist then
          (some (.wrap ("add route " ++ cidr) e),unregisterRoutes tunnelID metric registered t)
        else claimFrom (i+1) registered rest t

def claimRoutes (cidrs : List String) : Proc State := claimFrom env ph site tunnelID ifIndex metric 0 [] cidrs

def releaseOne (i : Nat) (cidr : String) (s : State) : State :=
  let removed := s.refs.remove cidr tunnelID metric
  let s := {s with refs := removed.2}
  match removed.1 with
  | [] =>
    match buildRouteMessage cidr ifIndex metric with
    | .error _ => s
    | .ok msg => (routesDelete env ph (.routeDelete site i) msg s).2
  | o :: _ =>
    match buildRouteMessage cidr o.ifIndex metric with
    | .error _ => s
    | .ok msg => (routesReplace env ph (.routeReplace site i) msg s).2

def releaseFrom : Nat → List String → State → State
  | _,[],s => s
  | i,cidr :: rest,s => releaseFrom (i+1) rest (releaseOne env ph site tunnelID ifIndex metric i cidr s)

def releaseRoutes (cidrs : List String) (s : State) : State := releaseFrom env ph site tunnelID ifIndex metric 0 cidrs s

end

def tearDown (env : Env) (ph : Phase) (cfg : TunnelConfig) : Proc State := fun s =>
  match s.kernel.lookup cfg.interfaceName with
  | none => (none,s)
  | some i =>
    wrapping ("deleteInterface " ++ cfg.interfaceName) (deleteLink env ph .linkDelete i)
      (releaseRoutes env ph .link cfg.id i cfg.metric cfg.cidrs s)

def cleanupExistingInterface (env : Env) (ph : Phase) (cfg : TunnelConfig) : Proc State := fun s =>
  match s.kernel.lookup cfg.interfaceName with
  | none => (none,s)
  | some i =>
    match deleteLink env ph .linkDelete i (releaseRoutes env ph .link cfg.id i cfg.metric cfg.cidrs s) with
    | (none,t) => (none,t)
    | (some _,t) =>
      match env.answer ph .dial with
      | some e => (some (.wrap "reconnect rtnetlink" (.wrap "dial rtnetlink" e)),t)
      | none =>
        match t.kernel.lookup cfg.interfaceName with
        | none => (none,t)
        | some j =>
          wrapping ("delete interface " ++ cfg.interfaceName ++ " after reconnect") (deleteLink env ph .linkDeleteAgain j) t

def configureLink (env : Env) (ph : Phase) (cfg : TunnelConfig) (key : String) (i : Nat) : Proc State :=
  seq (if cfg.mtu ≠ 0 then wrapping "set MTU" (setMTU env ph i cfg.mtu) else skip)
    (seq (configureDevice env ph cfg.interfaceName key cfg.listenPort cfg.peer)
      (seq (wrapping "add address" (addAddress env ph i cfg.tunnelAddress))
        (seq (wrapping "set interface up" (setInterfaceUp env ph i))
          (if 0 < cfg.cidrs.length then claimRoutes env ph .link cfg.id i cfg.metric cfg.cidrs else skip))))

def bringUp (env : Env) (ph : Phase) (cfg : TunnelConfig) (key : String) : Proc State :=
  seq (cleanupExistingInterface env ph cfg)
    (createInterface env ph cfg.interfaceName fun i =>
      orElse (configureLink env ph cfg key i) (deleteLink env .undo .linkCleanup i))

def loadPrivateKey (env : Env) (ph : Phase) (step : Step) (id : String) (s : State) : Except GoError String :=
  if validTunnelID id then
    match env.answer ph step with
    | some e => .error (.wrap "read private key" e)
    | none =>
      match s.keys id with
      | none => .error (.wrap "read private key" enoent)
      | some text => env.parseKey text
  else .error (invalidTunnelID id)

def saveKeyFiles (env : Env) (id key : String) : Proc State := fun s =>
  if validTunnelID id then
    match env.answer .forward .keyWrite with
    | some e => (some (.wrap "write private key" e),s)
    | none =>
      ((env.answer .forward .pubWrite).map (.wrap "write public key"),
        {s with keys := fun k => if k = id then some key else s.keys k})
  else (some (invalidTunnelID id),s)

def deleteKeyFiles (env : Env) (ph : Phase) (id : String) (s : State) : State :=
  if validTunnelID id ∧ env.answer ph .keyRemove = none then
    {s with keys := fun k => if k = id then none else s.keys k}
  else s

def bringUpTunnel (env : Env) (ph : Phase) (cfg : TunnelConfig) : Proc State := fun s =>
  match loadPrivateKey env ph .keyRead cfg.id s with
  | .error e => (some (.wrap "load key" e),s)
  | .ok key => bringUp env ph cfg key s

def save (env : Env) (ph : Phase) : Proc State := fun s =>
  match env.answer ph .save with
  | some e => (some (.wrap "save config" e),s)
  | none => (none,{s with disk := s.config})

def checkPortAvailable (env : Env) : Option GoError :=
  match env.answer .forward .portProbe4 with
  | some e => some (.wrap "port in use or unavailable (udp4)" e)
  | none => (env.answer .forward .portProbe6).map (.wrap "port in use or unavailable (udp6)")

def findTunnel (id : String) : List TunnelConfig → Option (Nat × TunnelConfig)
  | [] => none
  | t :: rest => if t.id = id then some (0,t) else (findTunnel id rest).map (fun p => (p.1+1,p.2))

theorem findTunnelSource {id : String} {tunnels : List TunnelConfig} {idx : Nat} {t : TunnelConfig}
    (found : findTunnel id tunnels = some (idx,t)) : tunnels[idx]? = some t ∧ t.id = id := by
  induction tunnels generalizing idx with
  | nil => simp [findTunnel] at found
  | cons head rest ih =>
    simp only [findTunnel] at found
    split at found
    · rename_i same
      cases found
      exact ⟨rfl,same⟩
    · simp only [Option.map_eq_some_iff,Prod.mk.injEq,Prod.exists] at found
      obtain ⟨j,u,inside,rfl,rfl⟩ := found
      simpa using ih inside

def completed (env : Env) (tunnels : List TunnelConfig) (cfg : TunnelConfig) : TunnelConfig :=
  { cfg with
    id := generateID env.random
    interfaceName := nextInterfaceName tunnels
    createdAt := env.now
    enabled := true
    persistentKeepalive := orElseInt cfg.persistentKeepalive defaultPersistentKeepalive
    mtu := orElseInt cfg.mtu defaultMTU
    routeMetric := orElseInt cfg.routeMetric defaultRouteMetric }

-- saveExistingKeypair or generateKeypair, up to the key they store.
def chooseKey (env : Env) (privateKey : String) : Except GoError String :=
  if privateKey ≠ "" then
    match env.parseKey (String.ofList (trimSpace privateKey.toList)) with
    | .error e => .error (.wrap "parse private key" e)
    | .ok key => .ok key
  else
    match env.answer .forward .keyGenerate with
    | some e => .error (.wrap "generate private key" e)
    | none => .ok env.newKey

def refuseCreate (env : Env) (cfg : TunnelConfig) : Option GoError :=
  if cfg.name = "" then some (.new "tunnel name is required")
  else if cfg.listenPort = 0 then some (.new "listen port is required")
  else if cfg.tunnelAddress = "" then some (.new "tunnel address is required")
  else
    match checkPortAvailable env with
    | some e => some (.wrap ("port " ++ toString cfg.listenPort) e)
    | none => (env.answer .forward .random).map (.wrap "crypto/rand failed")

def installTunnel (env : Env) (cfg : TunnelConfig) (key : String) : Proc State := fun s =>
  match bringUp env .forward cfg key s with
  | (some e,t) => (some e,deleteKeyFiles env .undo cfg.id t)
  | (none,t) =>
    match save env .forward {t with config := t.config ++ [cfg]} with
    | (some e,u) => (some e,deleteKeyFiles env .undo cfg.id (tearDown env .undo cfg u).2)
    | (none,u) => (none,u)

def CreateTunnel (env : Env) (cfg : TunnelConfig) (privateKey : String) : Proc State := fun s =>
  match refuseCreate env cfg with
  | some e => (some e,s)
  | none =>
    let cfg := completed env s.config cfg
    match chooseKey env privateKey with
    | .error e => (some e,s)
    | .ok key => seq (saveKeyFiles env cfg.id key) (installTunnel env cfg key) s

def removeLinkStep (env : Env) (cfg : TunnelConfig) : Op State where
  name := "tear down kernel interface"
  Do := if !cfg.enabled then skip else tearDown env .forward cfg
  Undo := if !cfg.enabled then skip else bringUpTunnel env .undo cfg

def removeTunnelStep (env : Env) (idx : Nat) (cfg : TunnelConfig) : Op State where
  name := "remove tunnel from disk config"
  Do := fun s => save env .forward {s with config := s.config.eraseIdx idx}
  Undo := ignoring fun s => save env .undo {s with config := s.config.insertIdx idx cfg}

def deleteKeysStep (env : Env) (cfg : TunnelConfig) : Op State :=
  Noop "delete key files" (modify (deleteKeyFiles env .forward cfg.id))

def DeleteTunnel (env : Env) (id : String) : Proc State := fun s =>
  match findTunnel id s.config with
  | none => (some (tunnelNotFound id),s)
  | some (idx,cfg) => run background [removeLinkStep env cfg,removeTunnelStep env idx cfg,deleteKeysStep env cfg] s

def setEnabled (idx : Nat) (cfg : TunnelConfig) (value : Bool) (s : State) : State :=
  {s with config := s.config.set idx {cfg with enabled := value}}

def persistStep (env : Env) (idx : Nat) (cfg : TunnelConfig) (value : Bool) : Op State :=
  Noop ("persist enabled=" ++ toString value ++ " to disk") fun s => save env .forward (setEnabled idx cfg value s)

def bringUpStep (env : Env) (cfg : TunnelConfig) : Op State where
  name := "bring up kernel interface"
  Do := bringUpTunnel env .forward cfg
  Undo := fun s =>
    match s.kernel.lookup cfg.interfaceName with
    | none => (none,s)
    | some i => deleteLink env .undo .linkDelete i (releaseRoutes env .undo .link cfg.id i cfg.metric cfg.cidrs s)

def EnableTunnel (env : Env) (id : String) : Proc State := fun s =>
  match findTunnel id s.config with
  | none => (some (tunnelNotFound id),s)
  | some (idx,cfg) =>
    if cfg.enabled then (none,s)
    else run background [bringUpStep env cfg,persistStep env idx cfg true] s

def tearDownStep (env : Env) (cfg : TunnelConfig) : Op State where
  name := "tear down kernel interface"
  Do := tearDown env .forward cfg
  Undo := bringUpTunnel env .undo cfg

def DisableTunnel (env : Env) (id : String) : Proc State := fun s =>
  match findTunnel id s.config with
  | none => (some (tunnelNotFound id),s)
  | some (idx,cfg) =>
    if !cfg.enabled then (none,s)
    else run background [tearDownStep env cfg,persistStep env idx cfg false] s

def hotUpdate (env : Env) (cfg : TunnelConfig) (oldAllowedIPs : List String) (oldMetric : Int) : Proc State :=
  seq (updatePeer env cfg.interfaceName cfg.peer) fun s =>
    match s.kernel.lookup cfg.interfaceName with
    | none => (some (.new ("interface " ++ cfg.interfaceName ++ " not found")),s)
    | some i =>
      if oldAllowedIPs ≠ cfg.cidrs ∨ oldMetric ≠ cfg.metric then
        wrapping "hot update: claimRoutes" (claimRoutes env .forward .hot cfg.id i cfg.metric cfg.cidrs)
          (releaseRoutes env .forward .hot cfg.id i oldMetric oldAllowedIPs s)
      else (none,s)

def recreateTunnel (env : Env) (cfg : TunnelConfig) (teardown : Bool) : Proc State := fun s =>
  match loadPrivateKey env .forward .keyPreflight cfg.id s with
  | .error e => (some (.wrap "preflight" e),s)
  | .ok _ =>
    seq (if teardown then wrapping "tearDown before recreate" (tearDown env .forward cfg) else skip)
      (wrapping "bringUp failed (tunnel disabled)" (bringUpTunnel env .forward cfg)) s

def preflight (env : Env) (cfg merged : TunnelConfig) : Option GoError :=
  match if merged.peerEndpoint ≠ "" ∧ merged.peerEndpoint ≠ cfg.peerEndpoint then env.resolve merged.peerEndpoint else none with
  | some e => some (.wrap ("preflight: cannot resolve peer endpoint " ++ merged.peerEndpoint) e)
  | none =>
    if merged.listenPort ≠ cfg.listenPort ∧ merged.listenPort ≠ 0 then
      (checkPortAvailable env).map (.wrap ("preflight: port " ++ toString merged.listenPort))
    else none

def refuseUpdate (env : Env) (cfg merged : TunnelConfig) : Option GoError :=
  if merged.tunnelAddress ≠ "" ∧ parseCIDR merged.tunnelAddress.toList = none then
    some (.wrap ("invalid tunnel address " ++ merged.tunnelAddress.quote) (invalidCIDR merged.tunnelAddress))
  else if cfg.enabled then preflight env cfg merged
  else none

def updateKernel (env : Env) (cfg merged : TunnelConfig) : Proc State := fun s =>
  if cfg.enabled then
    if needsRecreate cfg merged then recreateTunnel env merged true s
    else
      match hotUpdate env merged cfg.cidrs cfg.metric s with
      | (none,t) => (none,t)
      | (some _,t) => recreateTunnel env merged true t
  else (none,s)

def commitUpdate (env : Env) (idx : Nat) (cfg merged : TunnelConfig) : Proc State := fun s =>
  match save env .forward {s with config := s.config.set idx merged} with
  | (some e,t) => (some e,{t with config := t.config.set idx cfg})
  | (none,t) => (none,t)

-- recreateTunnel sets Enabled on the local copy, which has it already.
def UpdateTunnel (env : Env) (id : String) (updates : TunnelConfig) : Proc State := fun s =>
  match findTunnel id s.config with
  | none => (some (tunnelNotFound id),s)
  | some (idx,cfg) =>
    let merged := applyUpdates cfg updates
    match refuseUpdate env cfg merged with
    | some e => (some e,s)
    | none => seq (updateKernel env cfg merged) (commitUpdate env idx cfg merged) s

structure RestoreEnv where
  orphan : String → Option GoError
  tunnel : String → Env

-- listInterfacesByPrefix takes its snapshot before the first delete.
def removeOrphanInterfaces (env : RestoreEnv) (s : State) : State :=
  (s.kernel.links.filter (fun l => l.name.startsWith "wg-s2s")).foldl (fun t l =>
    if l.name ∈ s.config.map TunnelConfig.interfaceName ∨ (env.orphan l.name).isSome then t
    else {t with kernel := t.kernel.deleteLink l.index}) s

def restoreTunnel (env : Env) (cfg : TunnelConfig) : Proc State := fun s =>
  match loadPrivateKey env .forward .keyRead cfg.id s with
  | .error e => (some e,s)
  | .ok key => bringUp env .forward cfg key s

def restoreEach (env : String → Env) : List TunnelConfig → State → List GoError × State
  | [],s => ([],s)
  | cfg :: rest,s =>
    if !cfg.enabled then restoreEach env rest s
    else
      match restoreTunnel (env cfg.id) cfg s with
      | (none,t) => restoreEach env rest t
      | (some e,t) => (e :: (restoreEach env rest t).1,(restoreEach env rest t).2)

def RestoreAll (env : RestoreEnv) : Proc State := fun s =>
  let swept := removeOrphanInterfaces env s
  let restored := restoreEach env.tunnel swept.config swept
  (match restored.1 with
    | [] => none
    | e :: rest => some (joinAll e rest),restored.2)

inductive Operation where
  | create (env : Env) (cfg : TunnelConfig) (privateKey : String)
  | update (env : Env) (id : String) (updates : TunnelConfig)
  | enable (env : Env) (id : String)
  | disable (env : Env) (id : String)
  | delete (env : Env) (id : String)
  | restoreAll (env : RestoreEnv)

def perform : Operation → Proc State
  | .create env cfg privateKey => CreateTunnel env cfg privateKey
  | .update env id updates => UpdateTunnel env id updates
  | .enable env id => EnableTunnel env id
  | .disable env id => DisableTunnel env id
  | .delete env id => DeleteTunnel env id
  | .restoreAll env => RestoreAll env

def after (op : Operation) (s : State) : State := (perform op s).2
def obliging : Env := ⟨fun _ _ => none,0,0,"key",fun text => .ok text,fun _ => none⟩

def branchTunnel : TunnelConfig :=
  ⟨"0a1b2c3d","branch","wg-s2s0",51820,"10.9.0.1/30","","",some ["192.168.7.0/24"],none,25,1420,100,false,0⟩

def vacant : State := ⟨[],[],fun _ => none,.empty,.empty⟩

end VpnPack.Wgs2s
