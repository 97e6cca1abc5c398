import VpnPack.State.RoundTrip

/-! What of a manifest file LoadManifest keeps. A member counts as kept if the field it
belongs to has the value it decodes to. A file of version 1 or without a version goes
through the migration, which looks at nothing but modeB and calls a file it cannot
decode a new one. -/
namespace VpnPack.State
open Base Codec List
open Option (bind_eq_some_iff some.inj)

section
variable {α : Type}

def Holds (c : Codec α) (name : String) (members : Members) (x : α) : Prop :=
  ∀ value, member name members = some value → c.decode value = some x

theorem fieldHolds {c : Codec α} {name : String} {members : Members} {x : α} (read : c.field name members = some x) :
    Holds c name members x := by
  intro value found
  rw [field,found] at read
  exact read

end

structure Represents (members : Members) (d : Document) : Prop where
  siteID : Holds text "siteId" members d.firewall.siteID
  tailscale : Holds zoneCodec "tailscale" members d.firewall.tailscale
  wgS2s : Holds zoneCodec.map "wgS2s" members d.firewall.wgS2s
  wanPorts : Holds wanPortCodec.map "wanPorts" members d.firewall.wanPorts
  externalZoneID : Holds text "externalZoneId" members d.firewall.externalZoneID
  gatewayZoneID : Holds text "gatewayZoneId" members d.firewall.gatewayZoneID
  dnsPolicies : Holds dnsPolicyCodec.map "dnsPolicies" members d.dnsPolicies
  exitNodePolicy : Holds exitPolicyCodec.optional "exitNodePolicy" members d.exit.exitNodePolicy
  advertiseExitNode : Holds flag "advertiseExitNode" members d.exit.advertiseExitNodeEnabled
  remoteExitNode : Holds remoteExitCodec.optional "remoteExitNode" members d.exit.remoteExitNode

def modeBObject (members : Members) : Members :=
  match member "modeB" members with
  | some (.obj inner) => inner
  | _ => []

def recordedZone (members : Members) : Option String :=
  match member "zoneID" (modeBObject members) with
  | some (.str zoneID) => if zoneID ≠ "" then some zoneID else none
  | _ => none

def asText : Json → Option String
  | .str s => some s
  | _ => none

def recordedPolicies (members : Members) : List String :=
  match member "policyIDs" (modeBObject members) with
  | some (.arr items) => items.filterMap asText
  | _ => []

structure RepresentsModeB (members : Members) (zm : ZoneManifest) : Prop where
  zone : ∀ zoneID, recordedZone members = some zoneID → zm.zoneID = zoneID
  policies : ∀ policyID ∈ recordedPolicies members, policyID ∈ zm.policyIDs

def Old (members : Members) : Prop := ∃ version, int.field "version" members = some version ∧ version ≤ 1

/- Nothing recorded is lost without Recovered and an attempt at a copy. -/
inductive Faithful (members : Members) : Loaded → Prop where
  | recovered (d : Document) : Faithful members ⟨d,true,true⟩
  | kept (d : Document) (copied : Bool) (represents : Represents members d)
      (modeB : Old members → RepresentsModeB members d.firewall.tailscale) : Faithful members ⟨d,false,copied⟩

def Blank {α : Type} (c : Codec α) (name : String) (members : Members) : Prop := Holds c name members c.zero
def migratedZone (b : ModeB) : ZoneManifest := if b.zoneID ≠ "" then ⟨b.zoneID,"",b.policyIDs,"VPN"⟩ else ⟨"","",[],"VPN"⟩

/- An old file has no members of version 2 beyond empty ones, and what it has in modeB is
found by the migration. -/
structure OldKept (cal : Calendar) (members : Members) : Prop where
  siteID : Blank text "siteId" members
  wgS2s : Blank zoneCodec.map "wgS2s" members
  wanPorts : Blank wanPortCodec.map "wanPorts" members
  externalZoneID : Blank text "externalZoneId" members
  gatewayZoneID : Blank text "gatewayZoneId" members
  dnsPolicies : Blank dnsPolicyCodec.map "dnsPolicies" members
  exitNodePolicy : Blank exitPolicyCodec.optional "exitNodePolicy" members
  advertiseExitNode : Blank flag "advertiseExitNode" members
  remoteExitNode : Blank remoteExitCodec.optional "remoteExitNode" members
  decoded : ∀ v1, readV1 cal members = some v1 →
    Holds zoneCodec "tailscale" members (migratedZone v1.modeB) ∧ (v1.modeB.zoneID = "" → recordedPolicies members = [])
  undecoded : readV1 cal members = none →
    Blank zoneCodec "tailscale" members ∧ recordedZone members = none ∧ recordedPolicies members = []

section
variable {cal : Calendar} {now : Time} {members : Members} {d : Document} {v1 : ManifestV1}

theorem readDocumentRepresents (read : readDocument cal members = some d) : Represents members d := by
  unfold readDocument at read
  obtain ⟨version,_,read⟩ := bind_eq_some_iff.mp read
  obtain ⟨createdAt,_,read⟩ := bind_eq_some_iff.mp read
  obtain ⟨updatedAt,_,read⟩ := bind_eq_some_iff.mp read
  obtain ⟨siteID,hasSite,read⟩ := bind_eq_some_iff.mp read
  obtain ⟨tailscale,hasTailscale,read⟩ := bind_eq_some_iff.mp read
  obtain ⟨wgS2s,hasWgS2s,read⟩ := bind_eq_some_iff.mp read
  obtain ⟨wanPorts,hasWanPorts,read⟩ := bind_eq_some_iff.mp read
  obtain ⟨externalZoneID,hasExternal,read⟩ := bind_eq_some_iff.mp read
  obtain ⟨gatewayZoneID,hasGateway,read⟩ := bind_eq_some_iff.mp read
  obtain ⟨dnsPolicies,hasDns,read⟩ := bind_eq_some_iff.mp read
  obtain ⟨exitNodePolicy,hasExit,read⟩ := bind_eq_some_iff.mp read
  obtain ⟨advertise,hasAdvertise,read⟩ := bind_eq_some_iff.mp read
  obtain ⟨remoteExitNode,hasRemote,read⟩ := bind_eq_some_iff.mp read
  cases read
  exact ⟨fieldHolds hasSite,fieldHolds hasTailscale,fieldHolds hasWgS2s,fieldHolds hasWanPorts,fieldHolds hasExternal,
    fieldHolds hasGateway,fieldHolds hasDns,fieldHolds hasExit,fieldHolds hasAdvertise,fieldHolds hasRemote⟩

theorem itemsKept {items : List Json} {ids : List String} (read : decodeItems text items = some ids) :
    ∀ id ∈ items.filterMap asText, id ∈ ids := by
  induction items generalizing ids with
  | nil => exact fun id member => by cases member
  | cons item rest ih =>
    obtain ⟨head,first,read⟩ := bind_eq_some_iff.mp read
    obtain ⟨tail,later,read⟩ := bind_eq_some_iff.mp read
    cases read
    intro id member
    rw [filterMap_cons] at member
    cases item with
    | str s =>
      cases first
      rcases mem_cons.mp member with same | inside
      · rw [same]
        exact mem_cons_self
      · exact mem_cons_of_mem _ (ih later id inside)
    | _ => exact mem_cons_of_mem _ (ih later id member)

theorem modeBRead {b : ModeB} (read : modeBCodec.field "modeB" members = some b) :
    (∀ zoneID, recordedZone members = some zoneID → b.zoneID = zoneID) ∧ ∀ policyID ∈ recordedPolicies members, policyID ∈ b.policyIDs := by
  have absent (missing : modeBObject members = []) :
      (∀ zoneID, recordedZone members = some zoneID → b.zoneID = zoneID) ∧ ∀ policyID ∈ recordedPolicies members, policyID ∈ b.policyIDs := by
    have zone : recordedZone members = none := by simp [recordedZone,missing,member]
    have policies : recordedPolicies members = [] := by simp [recordedPolicies,missing,member]
    rw [zone,policies]
    exact ⟨fun _ found => (by cases found),fun _ member => by cases member⟩
  cases found : member "modeB" members with
  | none => exact absent (by simp only [modeBObject,found])
  | some value =>
    have decoded := fieldHolds read value found
    cases value with
    | null => exact absent (by simp only [modeBObject,found])
    | obj inner =>
      have object : modeBObject members = inner := by simp only [modeBObject,found]
      obtain ⟨zoneID,hasZone,decoded⟩ := bind_eq_some_iff.mp decoded
      obtain ⟨policyIDs,hasPolicies,decoded⟩ := bind_eq_some_iff.mp decoded
      cases decoded
      constructor
      · intro recorded zone
        unfold recordedZone at zone
        rw [object] at zone
        split at zone
        · rename_i here
          have same := some.inj (fieldHolds hasZone _ here)
          split at zone
          · exact same.symm.trans (some.inj zone)
          · contradiction
        · contradiction
      · intro policyID member
        unfold recordedPolicies at member
        rw [object] at member
        split at member
        · rename_i items here
          exact itemsKept (fieldHolds hasPolicies _ here) policyID member
        · contradiction
    | _ => contradiction

theorem readV1ModeB (read : readV1 cal members = some v1) : modeBCodec.field "modeB" members = some v1.modeB := by
  unfold readV1 at read
  obtain ⟨version,_,read⟩ := bind_eq_some_iff.mp read
  obtain ⟨createdAt,_,read⟩ := bind_eq_some_iff.mp read
  obtain ⟨updatedAt,_,read⟩ := bind_eq_some_iff.mp read
  obtain ⟨firewallMode,_,read⟩ := bind_eq_some_iff.mp read
  obtain ⟨modeB,found,read⟩ := bind_eq_some_iff.mp read
  cases read
  exact found

theorem migratedUndecoded (read : readV1 cal members = none) : migrateV1 cal now members = NewManifest now := by
  simp only [migrateV1,read]

theorem migratedDecoded (read : readV1 cal members = some v1) : migrateV1 cal now members = {NewManifest now with
      createdAt := v1.createdAt, updatedAt := v1.updatedAt,
      firewall := {(NewManifest now).firewall with tailscale := migratedZone v1.modeB}} := by
  simp only [migrateV1,read,migratedZone]

theorem migratedModeB (read : readV1 cal members = some v1) :
    RepresentsModeB members (migratedZone v1.modeB) ↔ (v1.modeB.zoneID = "" → recordedPolicies members = []) := by
  obtain ⟨zone,policies⟩ := modeBRead (readV1ModeB read)
  by_cases blank : v1.modeB.zoneID = ""
  · have empty : migratedZone v1.modeB = ⟨"","",[],"VPN"⟩ := if_neg (not_not_intro blank)
    rw [empty,imp_iff_right blank]
    constructor
    · intro kept
      exact eq_nil_iff_forall_not_mem.mpr (fun policyID member => not_mem_nil (kept.policies policyID member))
    · intro unnamed
      refine ⟨fun zoneID recorded => ?_,fun policyID member => ?_⟩
      · exact blank.symm.trans (zone zoneID recorded)
      · rw [unnamed] at member
        contradiction
  · have named : migratedZone v1.modeB = ⟨v1.modeB.zoneID,"",v1.modeB.policyIDs,"VPN"⟩ := if_pos blank
    rw [named]
    exact iff_of_true ⟨zone,policies⟩ (fun given => absurd given blank)

theorem undecodedModeB : RepresentsModeB members noZone ↔ recordedZone members = none ∧ recordedPolicies members = [] := by
  constructor
  · intro kept
    refine ⟨?_,eq_nil_iff_forall_not_mem.mpr (fun policyID member => not_mem_nil (kept.policies policyID member))⟩
    cases found : recordedZone members with
    | none => rfl
    | some zoneID =>
      have same := kept.zone zoneID found
      unfold recordedZone at found
      split at found
      · split at found
        · rename_i named
          exact absurd (same.trans (some.inj found).symm).symm named
        · contradiction
      · contradiction
  · rintro ⟨zone,policies⟩
    refine ⟨fun zoneID recorded => ?_,fun policyID member => ?_⟩
    · rw [zone] at recorded
      contradiction
    · rw [policies] at member
      contradiction

theorem migrationFaithful (old : Old members) : Faithful members ⟨migrateV1 cal now members,false,false⟩ ↔ OldKept cal members := by
  have unfolded : Faithful members ⟨migrateV1 cal now members,false,false⟩ ↔ Represents members (migrateV1 cal now members) ∧
      RepresentsModeB members (migrateV1 cal now members).firewall.tailscale := by
    constructor
    · intro faithful
      cases faithful with
      | kept _ _ represents modeB => exact ⟨represents,modeB old⟩
    · rintro ⟨represents,modeB⟩
      exact .kept _ _ represents (fun _ => modeB)
  rw [unfolded]
  cases read : readV1 cal members with
  | none =>
    rw [migratedUndecoded read]
    constructor
    · rintro ⟨r,modeB⟩
      refine ⟨r.siteID,r.wgS2s,r.wanPorts,r.externalZoneID,r.gatewayZoneID,r.dnsPolicies,r.exitNodePolicy,r.advertiseExitNode,
        r.remoteExitNode,fun v1 decoded => ?_,fun _ => ⟨r.tailscale,undecodedModeB.mp modeB⟩⟩
      rw [read] at decoded
      contradiction
    · intro k
      obtain ⟨tailscale,modeB⟩ := k.undecoded read
      exact ⟨⟨k.siteID,tailscale,k.wgS2s,k.wanPorts,k.externalZoneID,k.gatewayZoneID,k.dnsPolicies,k.exitNodePolicy,
        k.advertiseExitNode,k.remoteExitNode⟩,undecodedModeB.mpr modeB⟩
  | some v1 =>
    rw [migratedDecoded read]
    constructor
    · rintro ⟨r,modeB⟩
      refine ⟨r.siteID,r.wgS2s,r.wanPorts,r.externalZoneID,r.gatewayZoneID,r.dnsPolicies,r.exitNodePolicy,r.advertiseExitNode,
        r.remoteExitNode,fun other decoded => ?_,fun missing => ?_⟩
      · cases some.inj (read.symm.trans decoded)
        exact ⟨r.tailscale,(migratedModeB read).mp modeB⟩
      · rw [read] at missing
        contradiction
    · intro k
      obtain ⟨tailscale,modeB⟩ := k.decoded v1 read
      exact ⟨⟨k.siteID,tailscale,k.wgS2s,k.wanPorts,k.externalZoneID,k.gatewayZoneID,k.dnsPolicies,k.exitNodePolicy,
        k.advertiseExitNode,k.remoteExitNode⟩,(migratedModeB read).mpr modeB⟩

end

def numberedMode : Members := [("version",.int 1),("firewallMode",.int 5),("modeB",.obj [("zoneID",.str "z1")])]
def unversioned : Members := [("siteId",.str "default")]

end VpnPack.State
