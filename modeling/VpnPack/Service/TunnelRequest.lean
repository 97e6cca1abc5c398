import VpnPack.Integration.Client
import VpnPack.Wgs2s.Config

/-! What WgS2sService checks in a request before it calls anything. The first complaint is
the one returned. Of a decoded key only the length is asked for. -/
namespace VpnPack.Service
open Base Net Wgs2s

structure CreateRequest where
  config : TunnelConfig
  privateKey : String
  zoneID : String
  zoneName : String
  createZone : Bool
  deriving DecidableEq, Repr

def wgMaxPort : Int := 65535
def wgMinMTU : Int := 576
def wgMaxMTU : Int := 65535
def wgMaxKeepalive : Int := 86400
def wgMaxNameLen : Nat := 128
def maxRouteMetric : Int := 9999
def wgKeyBase64Len : Nat := 44
def wgKeyBytes : Nat := 32
def refuse (refused : Bool) (msg : String) : Option GoError := if refused then some (.new msg) else none

-- fmt.Errorf("… %s", err): the text of the error, not the error.
def within (msg : String) (err : Option GoError) : Option GoError := err.map (fun e => .new (msg ++ ": " ++ e.text))
def firstError (checks : List (Option GoError)) : Option GoError := checks.findSome? id

def validateName (name : String) : Option GoError :=
  refuse (wgMaxNameLen < name.length) ("name must be at most " ++ toString wgMaxNameLen ++ " characters")

def validateMTU (mtu : Int) : Option GoError :=
  refuse (mtu ≠ 0 ∧ (mtu < wgMinMTU ∨ wgMaxMTU < mtu))
    ("mtu must be between " ++ toString wgMinMTU ++ " and " ++ toString wgMaxMTU ++ " (0 = default)")

def validateKeepalive (seconds : Int) : Option GoError :=
  refuse (seconds < 0 ∨ wgMaxKeepalive < seconds)
    ("persistentKeepalive must be between 0 and " ++ toString wgMaxKeepalive ++ " seconds")

def validateRouteMetric (metric : Int) : Option GoError :=
  refuse (metric < 0 ∨ maxRouteMetric < metric)
    ("routeMetric must be between 0 and " ++ toString maxRouteMetric ++ " (0 = default 100)")

def validateCIDR (s : String) : Option GoError := refuse (parseCIDR s.toList = none) "not a valid CIDR notation"

def validateCIDRList (cidrs : List String) (fieldName : String) : Option GoError :=
  cidrs.findSome? (fun cidr => within ("invalid " ++ fieldName ++ " " ++ Integration.quoted cidr) (validateCIDR cidr))

def base64Char (c : Char) : Bool :=
  ('A' ≤ c ∧ c ≤ 'Z') ∨ ('a' ≤ c ∧ c ≤ 'z') ∨ ('0' ≤ c ∧ c ≤ '9') ∨ c = '+' ∨ c = '/'

-- base64.StdEncoding.DecodeString, which passes over line ends: the number of bytes.
def decodedLen (s : List Char) : Option Nat :=
  let body := s.filter (fun c => c ≠ '\n' ∧ c ≠ '\r')
  let padding := body.dropWhile (fun c => c ≠ '=')
  if body.length % 4 = 0 ∧ (body.takeWhile (fun c => c ≠ '=')).all base64Char ∧ (padding = [] ∨ padding = ['='] ∨ padding = ['=','=']) then
    some (body.length / 4 * 3 - padding.length)
  else none

def validateBase64Key (s : String) : Option GoError :=
  if s.utf8ByteSize ≠ wgKeyBase64Len then some (.new "must be 44 characters (base64-encoded 32 bytes)")
  else
    match decodedLen s.toList with
    | none => some (.new "invalid base64 encoding")
    | some n => refuse (n ≠ wgKeyBytes) "decoded key must be 32 bytes"

def validateCreateRequest (req : CreateRequest) : Option GoError :=
  firstError
    [refuse (req.config.name = "") "name is required",
      validateName req.config.name,
      refuse (req.config.listenPort < 1 ∨ wgMaxPort < req.config.listenPort) "listenPort must be between 1 and 65535",
      validateMTU req.config.mtu,
      validateKeepalive req.config.persistentKeepalive,
      within "invalid tunnelAddress" (validateCIDR req.config.tunnelAddress),
      within "invalid peerPublicKey" (validateBase64Key req.config.peerPublicKey),
      validateCIDRList req.config.cidrs "allowedIP",
      validateCIDRList (req.config.localSubnets.getD []) "localSubnet",
      validateRouteMetric req.config.routeMetric]

-- On update an empty name, address or key keeps the one there is.
def validateUpdateRequest (updates : TunnelConfig) : Option GoError :=
  firstError
    [validateName updates.name,
      refuse (updates.listenPort < 0 ∨ wgMaxPort < updates.listenPort) "listenPort must be between 0 and 65535",
      validateMTU updates.mtu,
      validateKeepalive updates.persistentKeepalive,
      if updates.tunnelAddress ≠ "" then within "invalid tunnelAddress" (validateCIDR updates.tunnelAddress) else none,
      if updates.peerPublicKey ≠ "" then within "invalid peerPublicKey" (validateBase64Key updates.peerPublicKey) else none,
      validateCIDRList updates.cidrs "allowedIP",
      validateCIDRList (updates.localSubnets.getD []) "localSubnet",
      validateRouteMetric updates.routeMetric]

theorem refuseNone {refused : Bool} {msg : String} : refuse refused msg = none ↔ refused = false := by
  cases refused <;> simp [refuse]

theorem firstErrorNone {checks : List (Option GoError)} : firstError checks = none ↔ ∀ check ∈ checks, check = none := by
  rw [firstError,List.findSome?_eq_none_iff]
  rfl

theorem createPort {req : CreateRequest} (accepted : validateCreateRequest req = none) : 0 < req.config.listenPort := by
  have inside := refuseNone.mp (firstErrorNone.mp accepted
    (refuse (req.config.listenPort < 1 ∨ wgMaxPort < req.config.listenPort) "listenPort must be between 1 and 65535") (by simp))
  simp only [decide_eq_false_iff_not,not_or] at inside
  omega

theorem updatePort {updates : TunnelConfig} (accepted : validateUpdateRequest updates = none) : 0 ≤ updates.listenPort := by
  have inside := refuseNone.mp (firstErrorNone.mp accepted
    (refuse (updates.listenPort < 0 ∨ wgMaxPort < updates.listenPort) "listenPort must be between 0 and 65535") (by simp))
  simp only [decide_eq_false_iff_not,not_or] at inside
  omega

end VpnPack.Service
