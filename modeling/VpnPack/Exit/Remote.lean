import VpnPack.Exit.Sound
import VpnPack.Ops.Outline
import VpnPack.Service.Errors

/-! RemoteExitService: the Enable saga over manifest, exit rules and Tailscale prefs, and
Disable. The saga lock and the applying flag belong to the interleavings and are not part of
this state. -/
namespace VpnPack.Exit
open Base Net Ops Service

structure PeerStatus where
  id : String
  hostName : String
  exitNodeOption : Bool
  deriving DecidableEq, Repr

structure EnableRemoteExitRequest where
  peerID : String
  mode : ExitNodeMode
  clients : List ExitNodeClient
  confirm : Bool
  deriving DecidableEq, Repr

structure EnableRemoteExitResult where
  ok : Bool
  message : String
  confirmRequired : Bool
  deriving DecidableEq, Repr

def findPeerByID (peers : List PeerStatus) (peerID : String) : Option PeerStatus := peers.find? (fun p => p.id == peerID)

def allIPv4 : Prefix := ⟨.v4 0,0,by decide,rfl⟩
def allIPv6 : Prefix := ⟨.v6 0 "",0,by decide,rfl⟩

-- ipn.Prefs: both default routes are advertised.
def Prefs.AdvertisesExitNode (p : Prefs) : Bool := p.advertiseRoutes.contains allIPv4 && p.advertiseRoutes.contains allIPv6
def filterNonExitRoutes (routes : List Prefix) : List Prefix := routes.filter (fun r => r.bits ≠ 0)

structure MaskedPrefs where
  exitNodeID : Option String
  exitNodeAllowLANAccess : Option Bool
  advertiseRoutes : Option (List Prefix)
  deriving DecidableEq, Repr

def MaskedPrefs.apply (mp : MaskedPrefs) (p : Prefs) : Prefs :=
  ⟨mp.exitNodeID.getD p.exitNodeID,mp.exitNodeAllowLANAccess.getD p.exitNodeAllowLANAccess,
    mp.advertiseRoutes.getD p.advertiseRoutes⟩

def asking (world : World) (call : Call) : Proc State := fun s =>
  ((world s.log.length).map Failure.err,{s with log := s.log ++ [call]})

def EditPrefs (world : World) (mp : MaskedPrefs) : Proc State := fun s =>
  match world s.log.length with
  | some f => (some f.err,{s with log := s.log ++ [.editPrefs]})
  | none => (none,{s with prefs := mp.apply s.prefs, log := s.log ++ [.editPrefs]})

def setRemoteExitNode (world : World) (r : Option RemoteExitNode) : Proc State := fun s =>
  saveLocked world {s with manifest := {s.manifest with remoteExitNode := r}}

def setAdvertiseExitNode (world : World) (enabled : Bool) : Proc State := fun s =>
  saveLocked world {s with manifest := {s.manifest with advertiseExitNodeEnabled := enabled}}

structure Env where
  world : World
  back : World
  ctx : Context
  inner : Context
  discover : Bridges
  peers : List PeerStatus
  exitSvc : Bool

namespace EnableRemoteExitRequest

def requestMode (req : EnableRemoteExitRequest) : ExitNodeMode := if req.mode = .unset then .all else req.mode
def policy (req : EnableRemoteExitRequest) : ExitNodePolicy := ⟨req.requestMode,req.clients⟩
def newRemote (req : EnableRemoteExitRequest) : RemoteExitNode := ⟨req.peerID,req.requestMode,req.clients⟩

def newPrefs (req : EnableRemoteExitRequest) (prefs : Prefs) : MaskedPrefs :=
  ⟨some req.peerID,some true,
    if prefs.AdvertisesExitNode then some (filterNonExitRoutes prefs.advertiseRoutes) else none⟩

end EnableRemoteExitRequest

def restorePrefs (prefs : Prefs) : MaskedPrefs :=
  ⟨some prefs.exitNodeID,some prefs.exitNodeAllowLANAccess,
    if prefs.AdvertisesExitNode then some prefs.advertiseRoutes else none⟩

inductive EnableStep where
  | persistRemote
  | clearAdvertise
  | applyRules
  | setPrefs
  deriving DecidableEq, Repr

def enableSteps (env : Env) (prefs : Prefs) : List EnableStep :=
  .persistRemote :: ((if prefs.AdvertisesExitNode then [.clearAdvertise] else []) ++
    ((if env.exitSvc then [.applyRules] else []) ++ [.setPrefs]))

-- s is the state when the saga is put together: its prefs and its manifest are captured.
def EnableStep.op (env : Env) (req : EnableRemoteExitRequest) (s : State) : EnableStep → Op State
  | .persistRemote =>
    ⟨"persist manifest with new peer",setRemoteExitNode env.world (some req.newRemote),
      setRemoteExitNode env.back s.manifest.remoteExitNode⟩
  | .clearAdvertise =>
    ⟨"clear advertise-exit-node in manifest",setAdvertiseExitNode env.world false,setAdvertiseExitNode env.back true⟩
  | .applyRules =>
    ⟨"apply local exit-node rules",Apply env.world env.back env.inner env.discover req.policy,Cleanup env.back⟩
  | .setPrefs =>
    ⟨"set Tailscale prefs",EditPrefs env.world (req.newPrefs s.prefs),EditPrefs env.back (restorePrefs s.prefs)⟩

def enableSaga (env : Env) (req : EnableRemoteExitRequest) (s : State) : Proc State :=
  run env.ctx ((enableSteps env s.prefs).map (EnableStep.op env req s))

def routedThrough (hostName : String) : String :=
  "All internet traffic from ALL clients behind this router will be routed through " ++ hostName ++
    ". Direct internet access will be lost."

def confirmMessage (req : EnableRemoteExitRequest) (prefs : Prefs) (peer : PeerStatus) : Option String :=
  if req.confirm then none
  else if prefs.AdvertisesExitNode then
    some ("Advertise as Exit Node will be disabled. " ++
      if req.requestMode = .all then routedThrough peer.hostName
      else "Selected clients will be routed through " ++ peer.hostName ++ ".")
  else if req.requestMode = .all then some (routedThrough peer.hostName)
  else none

def invalidRequest (req : EnableRemoteExitRequest) : Option GoError :=
  if req.requestMode = .selective then ValidateExitNodePolicy req.policy else none

def upstream (e : GoError) : Error := upstreamError (humanizeLocalAPIError e) e

def Enable (env : Env) (req : EnableRemoteExitRequest) (s : State) : Except Error EnableRemoteExitResult × State :=
  if req.peerID = "" then (.error (validationError "peerId is required"),s)
  else
    match asking env.world .status s with
    | (some e,t) => (.error (upstream e),t)
    | (none,t) =>
      match findPeerByID env.peers req.peerID with
      | none => (.error (notFoundError ("peer " ++ req.peerID ++ " not found")),t)
      | some peer =>
        if peer.exitNodeOption = false then
          (.error (validationError ("peer " ++ peer.hostName ++ " is not an exit node option")),t)
        else
          match asking env.world .getPrefs t with
          | (some e,u) => (.error (upstream e),u)
          | (none,u) =>
            match confirmMessage req u.prefs peer with
            | some msg => (.ok ⟨false,msg,true⟩,u)
            | none =>
              match invalidRequest req with
              | some e => (.error (validationError e.text),u)
              | none =>
                match enableSaga env req u u with
                | (some e,v) => (.error (upstream e),v)
                | (none,v) => (.ok ⟨true,"Traffic routed through " ++ peer.hostName ++ ".",false⟩,v)

def errPartialDisable : GoError := .new "exit-node disabled with cleanup errors"
def disablePrefs : MaskedPrefs := ⟨some "",some false,none⟩

def partialErrors : List GoError → Option GoError
  | [] => none
  | errs => some (joinAll errPartialDisable errs)

def Disable (env : Env) (s : State) : Option (Error ⊕ GoError) × State :=
  match EditPrefs env.world disablePrefs s with
  | (some e,t) => (some (.inl (upstream e)),t)
  | (none,t) =>
    let cleaned := if env.exitSvc then Cleanup env.world t else (none,t)
    let cleared := setRemoteExitNode env.world none cleaned.2
    ((partialErrors ((cleaned.1.map (GoError.wrap "cleanup local rules")).toList ++
      (cleared.1.map (GoError.wrap "clear manifest")).toList)).map .inr,cleared.2)

end VpnPack.Exit
