import Mathlib.Data.List.AList
import VpnPack.Base.Proc

/-! The part of the manifest that the firewall code reads and writes. A Go map is an
association list without double keys; where the code ranges over one, the order is
a parameter. Times and the version are not modelled. -/
namespace VpnPack.State
open Base

structure ZoneManifest where
  zoneID : String
  zoneName : String
  policyIDs : List String
  chainPrefix : String
  deriving DecidableEq, Repr

structure WanPortEntry where
  policyID : String
  policyName : String
  port : Int
  deriving DecidableEq, Repr

abbrev Dict (α : Type) : Type := AList (fun _ : String => α)

structure Manifest where
  siteID : String
  tailscale : ZoneManifest
  wgS2s : Dict ZoneManifest
  wanPorts : Dict WanPortEntry
  externalZoneID : String
  gatewayZoneID : String
  deriving DecidableEq

def defaultChainPrefix : String := "VPN"

namespace Manifest

def tailscaleChainPrefix (m : Manifest) : String :=
  if m.tailscale.chainPrefix ≠ "" then m.tailscale.chainPrefix else defaultChainPrefix

def wgS2sChainPrefix (m : Manifest) (tunnelID : String) : String :=
  match m.wgS2s.lookup tunnelID with
  | some zm => if zm.chainPrefix ≠ "" then zm.chainPrefix else defaultChainPrefix
  | none => defaultChainPrefix

def wanPortPolicyID (m : Manifest) (marker : String) : String :=
  match m.wanPorts.lookup marker with
  | some e => e.policyID
  | none => ""

def setTailscaleZone (zm : ZoneManifest) (m : Manifest) : Manifest := {m with tailscale := zm}

def setWgS2sZone (tunnelID : String) (zm : ZoneManifest) (m : Manifest) : Manifest :=
  {m with wgS2s := m.wgS2s.insert tunnelID zm}

def removeWgS2sTunnel (tunnelID : String) (m : Manifest) : Manifest := {m with wgS2s := m.wgS2s.erase tunnelID}

def setWanPort (marker policyID policyName : String) (port : Int) (m : Manifest) : Manifest :=
  {m with wanPorts := m.wanPorts.insert marker ⟨policyID,policyName,port⟩}

def removeWanPort (marker : String) (m : Manifest) : Manifest := {m with wanPorts := m.wanPorts.erase marker}

def setSystemZoneIDs (externalID gatewayID : String) (m : Manifest) : Manifest :=
  {m with externalZoneID := externalID, gatewayZoneID := gatewayID}

end Manifest

-- Whether a failing save takes the change back; the setters of state.Manifest do not.
structure Disk where
  fails : Nat → Option GoError
  reverts : Bool

structure Store where
  manifest : Manifest
  saves : Nat

def update (disk : Disk) (change : Manifest → Manifest) : Proc Store := fun s =>
  match disk.fails s.saves with
  | some e => (some (.wrap "manifest save" e),⟨if disk.reverts then s.manifest else change s.manifest,s.saves+1⟩)
  | none => (none,⟨change s.manifest,s.saves+1⟩)

theorem updateManifest (disk : Disk) (change : Manifest → Manifest) (s : Store) :
    (update disk change s).2.manifest = change s.manifest ∨ (update disk change s).2.manifest = s.manifest := by
  unfold update
  split
  · cases disk.reverts with
    | true => exact .inr rfl
    | false => exact .inl rfl
  · exact .inl rfl

variable {disk : Disk} {s : Store}

theorem updateSaved (saved : disk.fails s.saves = none) (change : Manifest → Manifest) :
    update disk change s = (none,⟨change s.manifest,s.saves+1⟩) := by
  simp only [update,saved]

theorem updateKept (kept : disk.reverts = false ∨ disk.fails s.saves = none)
    (change : Manifest → Manifest) : (update disk change s).2.manifest = change s.manifest := by
  rcases kept with lasting | saved
  · unfold update
    split
    · rw [lasting]
      rfl
    · rfl
  · rw [updateSaved saved]

theorem updateOk {change : Manifest → Manifest} {s t : Store} (ran : update disk change s = (none,t)) :
    t.manifest = change s.manifest := by
  unfold update at ran
  split at ran
  · simp at ran
  · cases ran
    rfl

end VpnPack.State
