import VpnPack.Base.Json
import VpnPack.State.Document

/-! The manifest as a JSON file: saveLocked, LoadManifest and the migration of version 1. The
keys of a map are written in the order of the model, not sorted, and the texts of times
are given by a format that can be read back. -/
namespace VpnPack.State
open Base

structure Calendar where
  format : Time → String
  parse : String → Option Time
  readable : ∀ t, parse (format t) = some t

section
variable (cal : Calendar)

def timeCodec : Codec Time where
  zero := 0
  encode t := .str (cal.format t)
  decode
    | .null => some 0
    | .str s => cal.parse s
    | _ => none

def zoneMembers (zm : ZoneManifest) : Members :=
  Codec.text.writeUnless (zm.zoneID == "") "zoneId" zm.zoneID ++
    Codec.text.writeUnless (zm.zoneName == "") "zoneName" zm.zoneName ++
    Codec.text.list.writeUnless zm.policyIDs.isEmpty "policyIds" zm.policyIDs ++
    Codec.text.writeUnless (zm.chainPrefix == "") "chainPrefix" zm.chainPrefix

def readZone (members : Members) : Option ZoneManifest := do
  let zoneID ← Codec.text.field "zoneId" members
  let zoneName ← Codec.text.field "zoneName" members
  let policyIDs ← Codec.text.list.field "policyIds" members
  let chainPrefix ← Codec.text.field "chainPrefix" members
  some ⟨zoneID,zoneName,policyIDs,chainPrefix⟩

def zoneCodec : Codec ZoneManifest := .struct noZone zoneMembers readZone

def wanPortMembers (e : WanPortEntry) : Members :=
  Codec.text.write "policyId" e.policyID ++ Codec.text.write "policyName" e.policyName ++ Codec.int.write "port" e.port

def readWanPort (members : Members) : Option WanPortEntry := do
  let policyID ← Codec.text.field "policyId" members
  let policyName ← Codec.text.field "policyName" members
  let port ← Codec.int.field "port" members
  some ⟨policyID,policyName,port⟩

def wanPortCodec : Codec WanPortEntry := .struct ⟨"","",0⟩ wanPortMembers readWanPort

def dnsPolicyMembers (e : DNSPolicyEntry) : Members :=
  Codec.text.write "policyId" e.policyID ++ Codec.text.write "domain" e.domain ++ Codec.text.write "ipAddress" e.ipAddress

def readDnsPolicy (members : Members) : Option DNSPolicyEntry := do
  let policyID ← Codec.text.field "policyId" members
  let domain ← Codec.text.field "domain" members
  let ipAddress ← Codec.text.field "ipAddress" members
  some ⟨policyID,domain,ipAddress⟩

def dnsPolicyCodec : Codec DNSPolicyEntry := .struct ⟨"","",""⟩ dnsPolicyMembers readDnsPolicy

def clientMembers (c : Exit.ExitNodeClient) : Members :=
  Codec.text.write "ip" (String.ofList c.ip) ++ Codec.text.writeUnless (c.label == "") "label" c.label

def readClient (members : Members) : Option Exit.ExitNodeClient := do
  let ip ← Codec.text.field "ip" members
  let label ← Codec.text.field "label" members
  some ⟨ip.toList,label⟩

def clientCodec : Codec Exit.ExitNodeClient := .struct ⟨[],""⟩ clientMembers readClient

def modeOf (text : String) : Exit.ExitNodeMode :=
  if text = "" then .unset
  else if text = "off" then .off
  else if text = "all" then .all
  else if text = "selective" then .selective
  else .other text

def exitPolicyMembers (p : Exit.ExitNodePolicy) : Members :=
  Codec.text.write "mode" p.mode.text ++ clientCodec.list.writeUnless p.clients.isEmpty "clients" p.clients

def readExitPolicy (members : Members) : Option Exit.ExitNodePolicy := do
  let mode ← Codec.text.field "mode" members
  let clients ← clientCodec.list.field "clients" members
  some ⟨modeOf mode,clients⟩

def exitPolicyCodec : Codec Exit.ExitNodePolicy := .struct ⟨.unset,[]⟩ exitPolicyMembers readExitPolicy

def remoteExitMembers (r : Exit.RemoteExitNode) : Members :=
  Codec.text.write "peerId" r.peerID ++ Codec.text.write "mode" r.mode.text ++
    clientCodec.list.writeUnless r.clients.isEmpty "clients" r.clients

def readRemoteExit (members : Members) : Option Exit.RemoteExitNode := do
  let peerID ← Codec.text.field "peerId" members
  let mode ← Codec.text.field "mode" members
  let clients ← clientCodec.list.field "clients" members
  some ⟨peerID,modeOf mode,clients⟩

def remoteExitCodec : Codec Exit.RemoteExitNode := .struct ⟨"",.unset,[]⟩ remoteExitMembers readRemoteExit

def documentMembers (d : Document) : Members :=
  Codec.int.write "version" d.version ++
    (timeCodec cal).write "createdAt" d.createdAt ++
    (timeCodec cal).write "updatedAt" d.updatedAt ++
    Codec.text.writeUnless (d.firewall.siteID == "") "siteId" d.firewall.siteID ++
    zoneCodec.write "tailscale" d.firewall.tailscale ++
    zoneCodec.map.writeUnless d.firewall.wgS2s.entries.isEmpty "wgS2s" d.firewall.wgS2s ++
    wanPortCodec.map.writeUnless d.firewall.wanPorts.entries.isEmpty "wanPorts" d.firewall.wanPorts ++
    Codec.text.writeUnless (d.firewall.externalZoneID == "") "externalZoneId" d.firewall.externalZoneID ++
    Codec.text.writeUnless (d.firewall.gatewayZoneID == "") "gatewayZoneId" d.firewall.gatewayZoneID ++
    dnsPolicyCodec.map.writeUnless d.dnsPolicies.entries.isEmpty "dnsPolicies" d.dnsPolicies ++
    exitPolicyCodec.optional.writeUnless d.exit.exitNodePolicy.isNone "exitNodePolicy" d.exit.exitNodePolicy ++
    Codec.flag.writeUnless (!d.exit.advertiseExitNodeEnabled) "advertiseExitNode" d.exit.advertiseExitNodeEnabled ++
    remoteExitCodec.optional.writeUnless d.exit.remoteExitNode.isNone "remoteExitNode" d.exit.remoteExitNode

def readDocument (members : Members) : Option Document := do
  let version ← Codec.int.field "version" members
  let createdAt ← (timeCodec cal).field "createdAt" members
  let updatedAt ← (timeCodec cal).field "updatedAt" members
  let siteID ← Codec.text.field "siteId" members
  let tailscale ← zoneCodec.field "tailscale" members
  let wgS2s ← zoneCodec.map.field "wgS2s" members
  let wanPorts ← wanPortCodec.map.field "wanPorts" members
  let externalZoneID ← Codec.text.field "externalZoneId" members
  let gatewayZoneID ← Codec.text.field "gatewayZoneId" members
  let dnsPolicies ← dnsPolicyCodec.map.field "dnsPolicies" members
  let exitNodePolicy ← exitPolicyCodec.optional.field "exitNodePolicy" members
  let advertiseExitNode ← Codec.flag.field "advertiseExitNode" members
  let remoteExitNode ← remoteExitCodec.optional.field "remoteExitNode" members
  some ⟨version,createdAt,updatedAt,⟨siteID,tailscale,wgS2s,wanPorts,externalZoneID,gatewayZoneID⟩,dnsPolicies,
    ⟨exitNodePolicy,remoteExitNode,advertiseExitNode⟩⟩

structure ModeB where
  zoneID : String
  policyIDs : List String
  deriving DecidableEq, Repr

structure ManifestV1 where
  version : Int
  createdAt : Time
  updatedAt : Time
  firewallMode : String
  modeB : ModeB
  deriving DecidableEq, Repr

def modeBMembers (b : ModeB) : Members :=
  Codec.text.write "zoneID" b.zoneID ++ Codec.text.list.write "policyIDs" b.policyIDs

def readModeB (members : Members) : Option ModeB := do
  let zoneID ← Codec.text.field "zoneID" members
  let policyIDs ← Codec.text.list.field "policyIDs" members
  some ⟨zoneID,policyIDs⟩

def modeBCodec : Codec ModeB := .struct ⟨"",[]⟩ modeBMembers readModeB

def readV1 (members : Members) : Option ManifestV1 := do
  let version ← Codec.int.field "version" members
  let createdAt ← (timeCodec cal).field "createdAt" members
  let updatedAt ← (timeCodec cal).field "updatedAt" members
  let firewallMode ← Codec.text.field "firewallMode" members
  let modeB ← modeBCodec.field "modeB" members
  some ⟨version,createdAt,updatedAt,firewallMode,modeB⟩

end

-- A file that does not decode gives a new manifest, and no error.
def migrateV1 (cal : Calendar) (now : Time) (members : Members) : Document :=
  match readV1 cal members with
  | none => NewManifest now
  | some v1 =>
    let zone : ZoneManifest := if v1.modeB.zoneID ≠ "" then ⟨v1.modeB.zoneID,"",v1.modeB.policyIDs,"VPN"⟩ else ⟨"","",[],"VPN"⟩
    {NewManifest now with
      createdAt := v1.createdAt, updatedAt := v1.updatedAt, firewall := {(NewManifest now).firewall with tailscale := zone}}

structure Loaded where
  document : Document
  recovered : Bool
  quarantined : Bool

def recoverFromCorrupt (now : Time) : Loaded := ⟨NewManifest now,true,true⟩

inductive Content where
  | missing
  | unreadable (e : GoError)
  | broken
  | value (j : Json)

-- The members that json.Unmarshal finds for a map of raw messages.
def rawMembers : Json → Option Members
  | .null => some []
  | .obj members => some members
  | _ => none

def loadMembers (cal : Calendar) (now : Time) (members : Members) : Loaded :=
  match Codec.int.field "version" members with
  | none => recoverFromCorrupt now
  | some version =>
    if version ≤ 1 then ⟨migrateV1 cal now members,false,false⟩
    else
      match readDocument cal members with
      | none => recoverFromCorrupt now
      | some d => ⟨d,false,false⟩

def LoadManifest (cal : Calendar) (now : Time) : Content → Except GoError Loaded
  | .missing => .ok ⟨NewManifest now,false,false⟩
  | .unreadable e => .error e
  | .broken => .ok (recoverFromCorrupt now)
  | .value j =>
    match rawMembers j with
    | none => .ok (recoverFromCorrupt now)
    | some members => .ok (loadMembers cal now members)

def fileContent (cal : Calendar) : Option Document → Content
  | none => .missing
  | some d => .value (.obj (documentMembers cal d))

end VpnPack.State
