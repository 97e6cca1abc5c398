import Mathlib.Data.List.Nodup
import Mathlib.Data.List.Perm.Subperm
import VpnPack.Net.Prefix

/-! Site-to-site tunnel records: domain.TunnelConfig, the defaults, the merge of an
update and the choice of interface names. A slice that Go tells apart from an
empty one when it is nil is an Option here. JSON tags are not modelled. -/
namespace VpnPack.Wgs2s
open Net

structure TunnelConfig where
  id : String
  name : String
  interfaceName : String
  listenPort : Int
  tunnelAddress : String
  peerPublicKey : String
  peerEndpoint : String
  allowedIPs : Option (List String)
  localSubnets : Option (List String)
  persistentKeepalive : Int
  mtu : Int
  routeMetric : Int
  enabled : Bool
  createdAt : Int
  deriving DecidableEq, Repr

def TunnelConfig.cidrs (t : TunnelConfig) : List String := t.allowedIPs.getD []

def defaultPersistentKeepalive : Int := 25
def defaultMTU : Int := 1420
def defaultRouteMetric : Int := 100
def effectiveMetric (metric : Int) : Int := if metric ≤ 0 then defaultRouteMetric else metric
def TunnelConfig.metric (t : TunnelConfig) : Int := effectiveMetric t.routeMetric

def validTunnelID (id : String) : Bool :=
  id.toList ≠ [] ∧ id.utf8ByteSize ≤ 64 ∧
    id.toList.all (fun r => ('0' ≤ r ∧ r ≤ '9') ∨ ('a' ≤ r ∧ r ≤ 'z') ∨ ('A' ≤ r ∧ r ≤ 'Z') ∨ r = '-' ∨ r = '_')

-- fmt.Sprintf("%x", b) of the four random bytes.
def generateID (random : BitVec 32) : String :=
  String.ofList ((octets random).flatMap (fun b => [Nat.digitChar (b/16),Nat.digitChar (b%16)]))

def orElseText (updated base : String) : String := if updated ≠ "" then updated else base
def orElseInt (updated base : Int) : Int := if updated ≠ 0 then updated else base

def applyUpdates (base updates : TunnelConfig) : TunnelConfig :=
  { base with
    name := orElseText updates.name base.name
    listenPort := orElseInt updates.listenPort base.listenPort
    tunnelAddress := orElseText updates.tunnelAddress base.tunnelAddress
    peerPublicKey := orElseText updates.peerPublicKey base.peerPublicKey
    peerEndpoint := orElseText updates.peerEndpoint base.peerEndpoint
    allowedIPs := updates.allowedIPs.or base.allowedIPs
    localSubnets := updates.localSubnets.or base.localSubnets
    persistentKeepalive := orElseInt updates.persistentKeepalive base.persistentKeepalive
    mtu := orElseInt updates.mtu base.mtu
    routeMetric := orElseInt updates.routeMetric base.routeMetric }

variable (base updates : TunnelConfig) {used : List String} {fuel i : Nat}

@[simp] theorem applyUpdatesInterface : (applyUpdates base updates).interfaceName = base.interfaceName := rfl
@[simp] theorem applyUpdatesEnabled : (applyUpdates base updates).enabled = base.enabled := rfl

def needsRecreate (old merged : TunnelConfig) : Bool :=
  old.listenPort ≠ merged.listenPort ∨ old.tunnelAddress ≠ merged.tunnelAddress ∨
    old.mtu ≠ merged.mtu ∨ old.peerPublicKey ≠ merged.peerPublicKey

def interfaceNameAt (i : Nat) : String := "wg-s2s" ++ toString i

-- The unbounded for loop of nextInterfaceName, cut off after fuel iterations.
def nextNameFrom (used : List String) : Nat → Nat → Option String
  | 0,_ => none
  | fuel+1,i => if interfaceNameAt i ∈ used then nextNameFrom used fuel (i+1) else some (interfaceNameAt i)

theorem interfaceNameInj {j : Nat} (same : interfaceNameAt i = interfaceNameAt j) : i = j := by
  have texts : (toString i).toList = (toString j).toList := by
    have := congrArg String.toList same
    simpa [interfaceNameAt] using this
  refine digitsInj ?_
  simpa [toString,Nat.repr] using texts

theorem nextNameMissing (missing : nextNameFrom used fuel i = none) :
    ∀ k < fuel, interfaceNameAt (i+k) ∈ used := by
  induction fuel generalizing i with
  | zero => intro k below; omega
  | succ fuel ih =>
    simp only [nextNameFrom] at missing
    split at missing <;> try contradiction
    rename_i taken
    intro k below
    cases k with
    | zero => exact taken
    | succ k =>
      have later := ih missing k (by omega)
      rwa [Nat.add_assoc,Nat.add_comm 1 k] at later

/- Pigeonhole: length+1 distinct names cannot all be in use. -/
theorem nextNameFound (used : List String) : (nextNameFrom used (used.length+1) 0).isSome = true := by
  by_contra stuck
  have missing := nextNameMissing (Option.not_isSome_iff_eq_none.mp stuck)
  have distinct : ((List.range (used.length+1)).map interfaceNameAt).Nodup :=
    List.Nodup.map (fun _ _ same => interfaceNameInj same) List.nodup_range
  have inside : (List.range (used.length+1)).map interfaceNameAt ⊆ used := by
    intro name member
    obtain ⟨k,below,rfl⟩ := List.mem_map.mp member
    simpa using missing k (List.mem_range.mp below)
  have bound := (distinct.subperm inside).length_le
  simp at bound

def nextInterfaceName (existing : List TunnelConfig) : String :=
  (nextNameFrom (existing.map TunnelConfig.interfaceName)
    ((existing.map TunnelConfig.interfaceName).length+1) 0).get (nextNameFound _)

theorem nextNameSource {name : String} (found : nextNameFrom used fuel i = some name) :
    ∃ k < fuel, name = interfaceNameAt (i+k) ∧ name ∉ used ∧ ∀ j < k, interfaceNameAt (i+j) ∈ used := by
  induction fuel generalizing i with
  | zero => simp [nextNameFrom] at found
  | succ fuel ih =>
    simp only [nextNameFrom] at found
    split at found
    · rename_i taken
      obtain ⟨k,below,named,unused,earlier⟩ := ih found
      refine ⟨k+1,by omega,?_,unused,?_⟩
      · rw [named]
        congr 1
        omega
      · intro j before
        cases j with
        | zero => exact taken
        | succ j =>
          have := earlier j (by omega)
          rwa [Nat.add_assoc,Nat.add_comm 1 j] at this
    · rename_i unused
      cases found
      exact ⟨0,by omega,rfl,unused,fun j before => absurd before (Nat.not_lt_zero j)⟩

theorem nextInterfaceNameUnused (existing : List TunnelConfig) : nextInterfaceName existing ∉ existing.map TunnelConfig.interfaceName := by
  obtain ⟨_,_,_,unused,_⟩ := nextNameSource (Option.some_get (nextNameFound _)).symm
  exact unused

example : nextInterfaceName [] = "wg-s2s0" := by decide

end VpnPack.Wgs2s
