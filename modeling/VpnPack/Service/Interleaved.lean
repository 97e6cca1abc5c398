import VpnPack.Service.Calls

/-! Any interleaving of CreateTunnel and DeleteTunnel calls with ticks of the watcher, call by
call. An observer notes which DeleteTunnel has read the entry it is to remove, which
chains it has listed, and for which zones of the API a thread has still to
see to an entry or to their deletion. -/
namespace VpnPack.Service
open Base Firewall Integration List Ops State Udapi Wgs2s

inductive Name where
  | create (n : Nat)
  | delete (id : String)
  | tick (n : Nat)
  deriving DecidableEq, Repr

structure Notes where
  read : List String
  listed : List (String × Chain)
  held : Name → List String

structure Noted where
  sys : System
  notes : Notes

namespace Notes

def setHeld (n : Notes) (x : Name) (zones : List String) : Notes := {n with held := Function.update n.held x zones}

-- An entry is read; an empty zone ID stands for no zone.
def readBy (n : Notes) (id : String) (entry : Option ZoneManifest) : Notes :=
  match entry with
  | none => {n with read := id :: n.read}
  | some zm => {n with read := id :: n.read, held := Function.update n.held (.delete id) (if zm.zoneID = "" then [] else [zm.zoneID])}

end Notes

def note (x : Name) : (c : Call) → c.Answer → Notes → Notes
  | .getWgS2sZone _,entry,n =>
    match x with
    | .delete id => n.readBy id entry
    | _ => n
  | .listRules chain,_,n =>
    match x with
    | .delete id => {n with listed := (id,chain) :: n.listed}
    | _ => n
  | .getWgS2sSnapshot,snapshot,n =>
    n.setHeld x ((n.held x).filter (fun zoneID => !snapshot.any (fun zm => zm.zoneID == zoneID)))
  | .ensureZone _,.ok zone,n => n.setHeld x [zone.id]
  | .setWgS2sZone _ _,_,n => n.setHeld x []
  | .deleteZone zoneID,_,n => n.setHeld x ((n.held x).filter (fun other => other != zoneID))
  | _,_,n => n

def perform (host : Host) (wg : WireGuard) (x : Name) (c : Call) (s : Noted) : c.Answer × Noted :=
  ((execute host wg c s.sys).1,⟨(execute host wg c s.sys).2,note x c (execute host wg c s.sys).1 s.notes⟩)

def Listed (id : String) (s : System) : Prop := ∃ t ∈ s.tunnels, t.id = id

def Succeeds (host : Host) (wg : WireGuard) (c : Call) (s : System) : Prop :=
  match c with
  | .createTunnel cfg privateKey => (wg.create cfg privateKey s.wg).1.toBool = true
  | .deleteTunnel id => (wg.delete id s.wg).1 = none
  | .setWgS2sZone _ _ => host.fw.disk.fails s.store.saves = none
  | .removeWgS2sTunnel _ => host.fw.disk.fails s.store.saves = none
  | .setSystemZoneIDs _ _ => host.fw.disk.fails s.store.saves = none
  | .setWanPort _ _ _ _ => host.fw.disk.fails s.store.saves = none
  | .removeWanPort _ => host.fw.disk.fails s.store.saves = none
  | .ensureZone _ => host.backend.replies s.calls = .ok
  | .ensurePolicies name zoneID => (Firewall.ensurePolicies host.backend name zoneID s.orch).1.toBool = true
  | .deletePolicy _ => host.backend.replies s.calls = .ok
  | .deleteZone _ => host.backend.replies s.calls = .ok
  | .listRules _ => host.fw.link s.udapi.calls = none
  | .postRule _ => host.fw.link s.udapi.calls = none
  | .deleteRule _ _ => host.fw.link s.udapi.calls = none
  | .findIPSet _ => host.fw.link s.udapi.calls = none
  | .putSet _ _ => host.fw.link s.udapi.calls = none
  | .findSystemZoneIDs siteID => (FindSystemZoneIDs host.world siteID s.client).1.toBool = true
  | .ensureWanPortPolicy siteID port name extID gwID => (EnsureWanPortPolicy host.world siteID port name extID gwID s.client).1.toBool = true
  | .deleteWanPolicy siteID policyID => (DeletePolicy host.world siteID policyID s.client).1.toBool = true
  | _ => True

instance Succeeds.decidable (host : Host) (wg : WireGuard) (c : Call) (s : System) : Decidable (Succeeds host wg c s) := by
  cases c with
  | createTunnel cfg privateKey => exact inferInstanceAs (Decidable (_ = true))
  | deleteTunnel id => exact inferInstanceAs (Decidable (_ = none))
  | setWgS2sZone tunnelID zm => exact inferInstanceAs (Decidable (_ = none))
  | removeWgS2sTunnel tunnelID => exact inferInstanceAs (Decidable (_ = none))
  | setSystemZoneIDs extID gwID => exact inferInstanceAs (Decidable (_ = none))
  | setWanPort marker policyID policyName port => exact inferInstanceAs (Decidable (_ = none))
  | removeWanPort marker => exact inferInstanceAs (Decidable (_ = none))
  | ensureZone name => exact inferInstanceAs (Decidable (_ = Reply.ok))
  | ensurePolicies name zoneID => exact inferInstanceAs (Decidable (_ = true))
  | deletePolicy policyID => exact inferInstanceAs (Decidable (_ = Reply.ok))
  | deleteZone zoneID => exact inferInstanceAs (Decidable (_ = Reply.ok))
  | listRules chain => exact inferInstanceAs (Decidable (_ = none))
  | postRule r => exact inferInstanceAs (Decidable (_ = none))
  | deleteRule chain id => exact inferInstanceAs (Decidable (_ = none))
  | findIPSet ipsetName => exact inferInstanceAs (Decidable (_ = none))
  | putSet ipsetName entries => exact inferInstanceAs (Decidable (_ = none))
  | findSystemZoneIDs siteID => exact inferInstanceAs (Decidable (_ = true))
  | ensureWanPortPolicy siteID port name extID gwID => exact inferInstanceAs (Decidable (_ = true))
  | deleteWanPolicy siteID policyID => exact inferInstanceAs (Decidable (_ = true))
  | _ => exact inferInstanceAs (Decidable True)

/- A tunnel with the interface is listed, and no DeleteTunnel of such a tunnel has yet listed the chain. -/
def Postable (chain : Chain) (iface : String) (s : Noted) : Prop :=
  (∃ t ∈ s.sys.tunnels, t.interfaceName = iface) ∧ ∀ t ∈ s.sys.tunnels, t.interfaceName = iface → (t.id,chain) ∉ s.notes.listed

instance (chain : Chain) (iface : String) (s : Noted) : Decidable (Postable chain iface s) := inferInstanceAs (Decidable (_ ∧ _))

/- An entry is written only for a tunnel that is listed, whose DeleteTunnel has not yet read it and
that has no entry of another zone. -/
def Timely (c : Call) (s : Noted) : Prop :=
  match c with
  | .setWgS2sZone tunnelID zm =>
    Listed tunnelID s.sys ∧ tunnelID ∉ s.notes.read ∧
      ∀ old, s.sys.manifest.wgS2s.lookup tunnelID = some old → old.zoneID = zm.zoneID
  | .postRule r => ∀ iface, markerFromDescription r.desc = wgS2sMarker iface → Postable r.chain iface s
  | _ => True

def markerInterface (marker : String) : Option String := (marker.toList.dropPrefix? "wg-s2s-manager:".toList).map String.ofList

theorem markerInterfaceSome {marker iface : String} : markerInterface marker = some iface ↔ marker = wgS2sMarker iface := by
  unfold markerInterface wgS2sMarker
  simp only [Option.map_eq_some_iff,dropPrefix?_eq_some_iff,beq_iff_eq]
  constructor
  · rintro ⟨rest,⟨front,whole,rfl⟩,rfl⟩
    exact String.toList_inj.mp (by simp [whole])
  · rintro rfl
    exact ⟨iface.toList,⟨_,String.toList_append,rfl⟩,String.ofList_toList⟩

instance Timely.decidable (c : Call) (s : Noted) : Decidable (Timely c s) := by
  cases c with
  | setWgS2sZone tunnelID zm =>
    exact match found : s.sys.manifest.wgS2s.lookup tunnelID with
      | none => decidable_of_iff ((∃ t ∈ s.sys.tunnels, t.id = tunnelID) ∧ tunnelID ∉ s.notes.read)
        (by simp [Timely,Listed,found])
      | some old => decidable_of_iff ((∃ t ∈ s.sys.tunnels, t.id = tunnelID) ∧ tunnelID ∉ s.notes.read ∧ old.zoneID = zm.zoneID)
        (by simp [Timely,Listed,found])
  | postRule r =>
    exact decidable_of_iff (∀ iface ∈ markerInterface (markerFromDescription r.desc), Postable r.chain iface s)
      (forall_congr' (fun iface => imp_congr_left markerInterfaceSome))
  | _ => exact isTrue trivial

def Ready (host : Host) (s : System) : Prop := Firewall.requireIntegration host.backend s.orch = true

def Promised (host : Host) (x : Name) (c : Call) (s : Noted) : Prop :=
  match c with
  | .removeWgS2sTunnel tunnelID => x = .delete tunnelID ∧
    ∀ zm, s.sys.manifest.wgS2s.lookup tunnelID = some zm → zm.zoneID = "" ∨ zm.zoneID ∈ s.notes.held x
  | .deleteTunnel id => x = .delete id ∧ s.sys.manifest.wgS2s.lookup id = none ∧
    ∀ idx t, findTunnel id s.sys.tunnels = some (idx,t) → ∀ chain, ∀ r ∈ s.sys.udapi.rules chain, r.marker ≠ wgS2sMarker t.interfaceName
  | .setWgS2sZone _ zm => ∀ zoneID ∈ s.notes.held x, zoneID = zm.zoneID
  | .ensureZone _ => Ready host s.sys ∧ s.notes.held x = []
  | .getWgS2sZone tunnelID => ∀ id, x = .delete id → tunnelID = id ∧ s.notes.held x = []
  | _ => True

def EntriesListed (s : System) : Prop := ∀ tunnelID zm, s.manifest.wgS2s.lookup tunnelID = some zm → Listed tunnelID s

def RulesListed (s : System) : Prop :=
  ∀ chain, ∀ r ∈ s.udapi.rules chain, ∀ iface, r.marker = wgS2sMarker iface → ∃ t ∈ s.tunnels, t.interfaceName = iface

def Referenced (zoneID : String) (s : System) : Prop := ∃ tunnelID zm, s.manifest.wgS2s.lookup tunnelID = some zm ∧ zm.zoneID = zoneID

theorem entryMember {s : System} {tunnelID : String} {zm : ZoneManifest} :
    s.manifest.wgS2s.lookup tunnelID = some zm ↔ (⟨tunnelID,zm⟩ : Sigma (fun _ : String => ZoneManifest)) ∈ s.manifest.wgS2s.entries :=
  AList.mem_lookup_iff

instance (s : System) : Decidable (EntriesListed s) :=
  decidable_of_iff (∀ e ∈ s.manifest.wgS2s.entries, ∃ t ∈ s.tunnels, t.id = e.1)
    ⟨fun each tunnelID zm found => each ⟨tunnelID,zm⟩ (entryMember.mp found),fun listed e member => listed e.1 e.2 (entryMember.mpr member)⟩

instance (s : System) : Decidable (RulesListed s) :=
  decidable_of_iff (∀ chain ∈ Chain.all, ∀ r ∈ s.udapi.rules chain, ∀ iface ∈ markerInterface r.marker, ∃ t ∈ s.tunnels, t.interfaceName = iface)
    ⟨fun each chain r member iface marked => each chain (by cases chain <;> decide) r member iface (markerInterfaceSome.mpr marked),
      fun listed chain _ r member iface marked => listed chain r member iface (markerInterfaceSome.mp marked)⟩

instance (zoneID : String) (s : System) : Decidable (Referenced zoneID s) :=
  decidable_of_iff (∃ e ∈ s.manifest.wgS2s.entries, e.2.zoneID = zoneID)
    ⟨fun ⟨e,member,same⟩ => ⟨e.1,e.2,entryMember.mpr member,same⟩,fun ⟨tunnelID,zm,found,same⟩ => ⟨⟨tunnelID,zm⟩,entryMember.mp found,same⟩⟩

def Held (zoneID : String) (n : Notes) : Prop := ∃ x, zoneID ∈ n.held x

/- A zone that was not there at the start is named by an entry, or a thread has still to see to it. -/
structure Consistent (host : Host) (first : List String) (s : Noted) : Prop where
  entries : EntriesListed s.sys
  rules : RulesListed s.sys
  zones : ∀ z ∈ s.sys.api.site.zones, z.id ∈ first ∨ Ready host s.sys ∧ z.id ≠ "" ∧ (Referenced z.id s.sys ∨ Held z.id s.notes)

def discipline (host : Host) (wg : WireGuard) (first : List String) : Discipline Name Call Call.Answer Noted where
  step := perform host wg
  inv := Consistent host first
  allowed := fun _ c s => Succeeds host wg c s.sys ∧ Timely c s
  promised := Promised host

def Call.loud : Call → Bool
  | .createTunnel _ _ => true
  | .deleteTunnel _ => true
  | .setWgS2sZone _ _ => true
  | .removeWgS2sTunnel _ => true
  | .ensureZone _ => true
  | .deleteZone _ => true
  | .postRule _ => true
  | .deleteRule _ _ => true
  | _ => false

structure SameView (s t : System) : Prop where
  tunnels : t.tunnels = s.tunnels
  entries : t.manifest.wgS2s = s.manifest.wgS2s
  siteID : t.manifest.siteID = s.manifest.siteID
  zones : t.api.site.zones = s.api.site.zones
  rules : t.udapi.rules = s.udapi.rules

section
variable {host : Host} {wg : WireGuard} {s : System} {c : Call}

theorem recordView (disk : Disk) {change : Manifest → Manifest} (s : System)
    (keeps : (change s.manifest).wgS2s = s.manifest.wgS2s ∧ (change s.manifest).siteID = s.manifest.siteID) :
    SameView s (recordIn disk change s).2 := by
  have manifest : (recordIn disk change s).2.manifest = s.manifest ∨ (recordIn disk change s).2.manifest = change s.manifest := by
    change (update disk change s.store).2.manifest = _ ∨ (update disk change s.store).2.manifest = _
    unfold update
    split
    · dsimp only
      split
      · exact .inl rfl
      · exact .inr rfl
    · exact .inr rfl
  rcases manifest with same | changed
  · exact ⟨rfl,by rw [same],by rw [same],rfl,rfl⟩
  · exact ⟨rfl,by rw [changed,keeps.1],by rw [changed,keeps.2],rfl,rfl⟩

theorem requestView {link : Udapi.Link} {effect : Config → Config} (s : System) (keeps : ∀ u, (effect u).rules = u.rules) :
    SameView s (onConfig (request link effect) s).2 := by
  have rules : (request link effect s.udapi).2.rules = s.udapi.rules := by
    unfold request
    split
    · rfl
    · exact keeps _
  exact ⟨rfl,rfl,rfl,rfl,rules⟩

theorem notingView (err : Option GoError) (s : System) : SameView s (noting (err,s)) := by
  cases err with
  | none | some _ => exact ⟨rfl,rfl,rfl,rfl,rfl⟩

theorem policiesView (b : Backend) (name zoneID : String) (o : Orch) :
    (Firewall.ensurePolicies b name zoneID o).2.api.site.zones = o.api.site.zones ∧
      (Firewall.ensurePolicies b name zoneID o).2.store = o.store := by
  unfold Firewall.ensurePolicies
  split
  · exact ⟨rfl,rfl⟩
  · dsimp only
    split <;> exact ⟨rfl,rfl⟩

theorem listedView (link : Udapi.Link) (chain : Chain) (u : Config) : (listRulesOf link chain u).2.rules = u.rules := by
  unfold listRulesOf request
  cases link u.calls with
  | some _ | none => rfl

theorem foundView (link : Udapi.Link) (ipsetName : String) (u : Config) : (Udapi.findIPSet link ipsetName u).2.rules = u.rules := by
  unfold Udapi.findIPSet request
  cases link u.calls with
  | some _ | none => rfl

theorem quietView (quiet : c.loud = false) : SameView s (execute host wg c s).2 := by
  cases c with
  | createTunnel _ _ | deleteTunnel _ | setWgS2sZone _ _ | removeWgS2sTunnel _ | ensureZone _ | deleteZone _ | postRule _ | deleteRule _ _ => contradiction
  | ensurePolicies name zoneID =>
    obtain ⟨zones,store⟩ := policiesView host.backend name zoneID s.orch
    exact ⟨rfl,congrArg (fun store : Store => store.manifest.wgS2s) store,congrArg (fun store : Store => store.manifest.siteID) store,zones,rfl⟩
  | listRules chain => exact ⟨rfl,rfl,rfl,rfl,listedView host.fw.link chain s.udapi⟩
  | findIPSet ipsetName => exact ⟨rfl,rfl,rfl,rfl,foundView host.fw.link ipsetName s.udapi⟩
  | putSet ipsetName entries => exact requestView s (fun _ => rfl)
  | setSystemZoneIDs _ _ | setWanPort _ _ _ _ | removeWanPort _ => exact recordView host.fw.disk s ⟨rfl,rfl⟩
  | log err => exact notingView err s
  | deletePolicy policyID =>
    refine ⟨rfl,rfl,rfl,?_,rfl⟩
    change (if took host.backend s.orch = true then s.api.deletePolicy policyID else s.api).site.zones = s.api.site.zones
    split <;> rfl
  | _ => exact ⟨rfl,rfl,rfl,rfl,rfl⟩

theorem createEffect {cfg : TunnelConfig} {privateKey : String} (ok : Succeeds host wg (.createTunnel cfg privateKey) s) :
    ∃ tunnel, (execute host wg (.createTunnel cfg privateKey) s).1 = .ok tunnel ∧
      (execute host wg (.createTunnel cfg privateKey) s).2.tunnels = s.tunnels ++ [tunnel] := by
  unfold Succeeds at ok
  dsimp only at ok
  rcases ran : wg.create cfg privateKey s.wg with ⟨result,w⟩
  rw [ran] at ok
  cases result with
  | error e => contradiction
  | ok tunnel =>
    refine ⟨tunnel,congrArg Prod.fst ran,?_⟩
    change (wg.create cfg privateKey s.wg).2.config = s.wg.config ++ [tunnel]
    rw [ran]
    exact (wg.created ran).2

theorem deleteEffect {id : String} (ok : Succeeds host wg (.deleteTunnel id) s) :
    (execute host wg (.deleteTunnel id) s).1 = none ∧ ∃ idx t, findTunnel id s.tunnels = some (idx,t) ∧
      (execute host wg (.deleteTunnel id) s).2.tunnels = s.tunnels.eraseIdx idx := by
  have returned : (wg.delete id s.wg).1 = none := ok
  obtain ⟨idx,t,found,erased⟩ := wg.deleted (Prod.ext returned rfl : wg.delete id s.wg = (none,(wg.delete id s.wg).2))
  exact ⟨returned,idx,t,found,erased⟩

theorem recordEffect {disk : Disk} {change : Manifest → Manifest} (ok : disk.fails s.store.saves = none) :
    (recordIn disk change s).1 = none ∧ (recordIn disk change s).2.manifest = change s.manifest := by
  constructor
  · change (update disk change s.store).1 = none
    unfold update
    rw [ok]
  · exact updateKept (.inr ok) change

theorem ensureZoneEffect {name : String} (ok : Succeeds host wg (.ensureZone name) s) :
    ∃ zone, (execute host wg (.ensureZone name) s).1 = .ok zone ∧ (execute host wg (.ensureZone name) s).2.manifest = s.manifest ∧
      ((execute host wg (.ensureZone name) s).2.api.site.zones = s.api.site.zones ∨
        zone.id ≠ "" ∧ (execute host wg (.ensureZone name) s).2.api.site.zones = s.api.site.zones ++ [zone]) := by
  have reply : host.backend.replies s.orch.calls = .ok := ok
  have ran : Firewall.ensureZone host.backend name s.orch =
      (.ok (s.api.ensureZone host.backend.ids name).1,{s.orch with calls := s.orch.calls+1, api := (s.api.ensureZone host.backend.ids name).2}) := by
    unfold Firewall.ensureZone
    rw [reply]
    rfl
  refine ⟨(s.api.ensureZone host.backend.ids name).1,congrArg Prod.fst ran,congrArg (fun r => r.2.store.manifest) ran,?_⟩
  have zones : (execute host wg (.ensureZone name) s).2.api.site.zones = (s.api.ensureZone host.backend.ids name).2.site.zones :=
    congrArg (fun r => r.2.api.site.zones) ran
  rw [zones]
  rcases Api.ensureZoneSource host.backend.ids name s.api with ⟨z,_,same⟩ | ⟨_,made⟩
  · exact .inl (by rw [same])
  · exact .inr (by rw [made]; exact ⟨host.backend.idsText _,rfl⟩)

theorem deleteZoneEffect {zoneID : String} (ok : Succeeds host wg (.deleteZone zoneID) s) :
    (execute host wg (.deleteZone zoneID) s).2.api.site.zones = s.api.site.zones.filter (fun z => z.id != zoneID) := by
  have reply : host.backend.replies s.orch.calls = .ok := ok
  have accepted : took host.backend s.orch = true := by
    unfold took
    rw [reply]
  change (if took host.backend s.orch = true then s.api.deleteZone zoneID else s.api).site.zones = _
  rw [if_pos accepted]
  rfl

theorem configEffect {effect : Config → Config} (ok : host.fw.link s.udapi.calls = none) :
    (onConfig (request host.fw.link effect) s).1 = none ∧
      (onConfig (request host.fw.link effect) s).2.udapi = effect {s.udapi with calls := s.udapi.calls+1} := by
  constructor
  · change (request host.fw.link effect s.udapi).1 = none
    unfold request
    rw [ok]
  · change (request host.fw.link effect s.udapi).2 = _
    unfold request
    rw [ok]

theorem listEffect {chain : Chain} (ok : Succeeds host wg (.listRules chain) s) :
    (execute host wg (.listRules chain) s).1 = .ok (s.udapi.rules chain) := by
  have reply : host.fw.link s.udapi.calls = none := ok
  change (listRulesOf host.fw.link chain s.udapi).1 = _
  unfold listRulesOf request
  rw [reply]
  rfl

end
section
variable {host : Host} {wg : WireGuard} {first : List String} {x : Name} {c : Call} {s : Noted}

theorem readySame {s t : System} (same : t.manifest.siteID = s.manifest.siteID) : Ready host t ↔ Ready host s := by
  change (host.backend.hasAPIKey && t.manifest.siteID ≠ "") = true ↔ (host.backend.hasAPIKey && s.manifest.siteID ≠ "") = true
  rw [same]

theorem setHeldOther {n : Notes} {x y : Name} {zones : List String} (differs : y ≠ x) : (n.setHeld x zones).held y = n.held y :=
  Function.update_of_ne differs _ _

theorem setHeldOwn {n : Notes} {x : Name} {zones : List String} : (n.setHeld x zones).held x = zones := Function.update_self _ _ _

theorem quietHeld (quiet : c.loud = false) (promises : Promised host x c s) {zoneID : String} (held : Held zoneID s.notes) :
    Held zoneID (perform host wg x c s).2.notes ∨ Referenced zoneID s.sys := by
  obtain ⟨y,member⟩ := held
  cases c with
  | getWgS2sZone tunnelID =>
    refine .inl ⟨y,?_⟩
    cases x with
    | create n => exact member
    | tick n => exact member
    | delete id =>
      by_cases own : y = .delete id
      · have none_ := (promises id rfl).2
        rw [own,none_] at member
        contradiction
      · change zoneID ∈ (s.notes.readBy id _).held y
        unfold Notes.readBy
        split
        · exact member
        · simp only [Function.update_of_ne own]
          exact member
  | listRules chain =>
    refine .inl ⟨y,?_⟩
    cases x with
    | create _ | tick _ | delete _ => exact member
  | getWgS2sSnapshot =>
    by_cases own : y = x
    · by_cases named : (host.backend.order s.sys.manifest.wgS2s).any (fun zm => zm.zoneID == zoneID) = true
      · obtain ⟨zm,inside,same⟩ := any_eq_true.mp named
        obtain ⟨tunnelID,found⟩ := (host.backend.orderSame _ _).mp inside
        exact .inr ⟨tunnelID,zm,found,eq_of_beq same⟩
      · refine .inl ⟨x,?_⟩
        change zoneID ∈ (s.notes.setHeld x ((s.notes.held x).filter (fun zoneID =>
          !(host.backend.order s.sys.manifest.wgS2s).any (fun zm => zm.zoneID == zoneID)))).held x
        rw [setHeldOwn,mem_filter]
        exact ⟨own ▸ member,by simpa using named⟩
    · refine .inl ⟨y,?_⟩
      change zoneID ∈ (s.notes.setHeld x _).held y
      rw [setHeldOther own]
      exact member
  | createTunnel _ _ | deleteTunnel _ | setWgS2sZone _ _ | removeWgS2sTunnel _ | ensureZone _ | deleteZone _ | postRule _ | deleteRule _ _ => contradiction
  | _ => exact .inl ⟨y,member⟩

theorem quietConsistent (consistent : Consistent host first s) (quiet : c.loud = false) (promises : Promised host x c s) :
    Consistent host first (perform host wg x c s).2 := by
  have view := @quietView host wg s.sys c quiet
  refine ⟨fun tunnelID zm found => ?_,fun chain r member iface marked => ?_,fun z member => ?_⟩
  · change (execute host wg c s.sys).2.manifest.wgS2s.lookup tunnelID = some zm at found
    rw [view.entries] at found
    obtain ⟨t,inside,id⟩ := consistent.entries tunnelID zm found
    exact ⟨t,view.tunnels.symm ▸ inside,id⟩
  · change r ∈ (execute host wg c s.sys).2.udapi.rules chain at member
    rw [view.rules] at member
    obtain ⟨t,inside,name⟩ := consistent.rules chain r member iface marked
    exact ⟨t,view.tunnels.symm ▸ inside,name⟩
  · change z ∈ (execute host wg c s.sys).2.api.site.zones at member
    rw [view.zones] at member
    have kept {zoneID : String} (named : Referenced zoneID s.sys) : Referenced zoneID (perform host wg x c s).2.sys := by
      obtain ⟨tunnelID,zm,found,same⟩ := named
      refine ⟨tunnelID,zm,?_,same⟩
      change (execute host wg c s.sys).2.manifest.wgS2s.lookup tunnelID = some zm
      rw [view.entries]
      exact found
    rcases consistent.zones z member with old | ⟨ready,named,covered⟩
    · exact .inl old
    · refine .inr ⟨(readySame view.siteID).mpr ready,named,?_⟩
      rcases covered with referenced | held
      · exact .inl (kept referenced)
      · rcases quietHeld quiet promises held with still | referenced
        · exact .inr still
        · exact .inl (kept referenced)

theorem createConsistent {cfg : TunnelConfig} {privateKey : String} (consistent : Consistent host first s)
    (ok : Succeeds host wg (.createTunnel cfg privateKey) s.sys) :
    Consistent host first (perform host wg x (.createTunnel cfg privateKey) s).2 := by
  obtain ⟨tunnel,_,tunnels⟩ := createEffect ok
  have more {t : TunnelConfig} (inside : t ∈ s.sys.tunnels) : t ∈ (perform host wg x (.createTunnel cfg privateKey) s).2.sys.tunnels := by
    change t ∈ (execute host wg (.createTunnel cfg privateKey) s.sys).2.tunnels
    rw [tunnels]
    exact mem_append_left _ inside
  refine ⟨fun tunnelID zm found => ?_,fun chain r member iface marked => ?_,consistent.zones⟩
  · obtain ⟨t,inside,id⟩ := consistent.entries tunnelID zm found
    exact ⟨t,more inside,id⟩
  · obtain ⟨t,inside,name⟩ := consistent.rules chain r member iface marked
    exact ⟨t,more inside,name⟩

theorem memErase {tunnels : List TunnelConfig} {idx : Nat} {t u : TunnelConfig} (here : tunnels[idx]? = some t) (member : u ∈ tunnels)
    (differs : u ≠ t) : u ∈ tunnels.eraseIdx idx := by
  obtain ⟨j,found⟩ := getElem?_of_mem member
  refine mem_eraseIdx_iff_getElem?.mpr ⟨j,fun same => differs ?_,found⟩
  rw [same,here] at found
  exact (Option.some.inj found).symm

theorem deleteConsistent {id : String} (consistent : Consistent host first s) (ok : Succeeds host wg (.deleteTunnel id) s.sys)
    (promises : Promised host x (.deleteTunnel id) s) : Consistent host first (perform host wg x (.deleteTunnel id) s).2 := by
  obtain ⟨_,idx,t,found,tunnels⟩ := deleteEffect ok
  obtain ⟨_,absent,unruled⟩ := promises
  obtain ⟨here,own⟩ := findTunnelSource found
  have others {u : TunnelConfig} (inside : u ∈ s.sys.tunnels) (differs : u ≠ t) :
      u ∈ (perform host wg x (.deleteTunnel id) s).2.sys.tunnels := by
    change u ∈ (execute host wg (.deleteTunnel id) s.sys).2.tunnels
    rw [tunnels]
    exact memErase here inside differs
  refine ⟨fun tunnelID zm recorded => ?_,fun chain r member iface marked => ?_,consistent.zones⟩
  · obtain ⟨u,inside,same⟩ := consistent.entries tunnelID zm recorded
    refine ⟨u,others inside (fun erased => ?_),same⟩
    have given : s.sys.manifest.wgS2s.lookup tunnelID = some zm := recorded
    rw [← same,erased,own,absent] at given
    contradiction
  · obtain ⟨u,inside,name⟩ := consistent.rules chain r member iface marked
    refine ⟨u,others inside (fun erased => ?_),name⟩
    exact unruled idx t found chain r member (by rw [marked,← name,erased])

theorem performSet {tunnelID : String} {zm : ZoneManifest} (ok : Succeeds host wg (.setWgS2sZone tunnelID zm) s.sys) :
    (perform host wg x (.setWgS2sZone tunnelID zm) s).2.sys.manifest = s.sys.manifest.setWgS2sZone tunnelID zm := (recordEffect ok).2

theorem performRemove {tunnelID : String} (ok : Succeeds host wg (.removeWgS2sTunnel tunnelID) s.sys) :
    (perform host wg x (.removeWgS2sTunnel tunnelID) s).2.sys.manifest = s.sys.manifest.removeWgS2sTunnel tunnelID := (recordEffect ok).2

section
variable (consistent : Consistent host first s)
include consistent

theorem setConsistent {tunnelID : String} {zm : ZoneManifest}
    (ok : Succeeds host wg (.setWgS2sZone tunnelID zm) s.sys) (timely : Timely (.setWgS2sZone tunnelID zm) s)
    (promises : Promised host x (.setWgS2sZone tunnelID zm) s) : Consistent host first (perform host wg x (.setWgS2sZone tunnelID zm) s).2 := by
  obtain ⟨listed,_,replaced⟩ := timely
  have manifest := @performSet host wg x s tunnelID zm ok
  have here : (perform host wg x (.setWgS2sZone tunnelID zm) s).2.sys.manifest.wgS2s.lookup tunnelID = some zm := by
    rw [manifest]
    exact AList.lookup_insert _
  have named {zoneID : String} (referenced : Referenced zoneID s.sys) :
      Referenced zoneID (perform host wg x (.setWgS2sZone tunnelID zm) s).2.sys := by
    obtain ⟨other,old,found,same⟩ := referenced
    by_cases own : other = tunnelID
    · subst own
      exact ⟨other,zm,here,(replaced old found).symm.trans same⟩
    · refine ⟨other,old,?_,same⟩
      rw [manifest]
      exact (AList.lookup_insert_ne own).trans found
  refine ⟨fun other old found => ?_,consistent.rules,fun z member => ?_⟩
  · by_cases own : other = tunnelID
    · subst own
      exact listed
    · rw [manifest] at found
      exact consistent.entries other old ((AList.lookup_insert_ne own).symm.trans found)
  · rcases consistent.zones z member with old | ⟨ready,text,covered⟩
    · exact .inl old
    · refine .inr ⟨(readySame (by rw [manifest]; rfl)).mpr ready,text,?_⟩
      rcases covered with referenced | ⟨y,held⟩
      · exact .inl (named referenced)
      · by_cases own : y = x
        · subst own
          exact .inl ⟨tunnelID,zm,here,(promises z.id held).symm⟩
        · refine .inr ⟨y,?_⟩
          change z.id ∈ (s.notes.setHeld x []).held y
          rw [setHeldOther own]
          exact held

theorem removeConsistent {tunnelID : String}
    (ok : Succeeds host wg (.removeWgS2sTunnel tunnelID) s.sys) (promises : Promised host x (.removeWgS2sTunnel tunnelID) s) :
    Consistent host first (perform host wg x (.removeWgS2sTunnel tunnelID) s).2 := by
  have manifest := @performRemove host wg x s tunnelID ok
  refine ⟨fun other old found => ?_,consistent.rules,fun z member => ?_⟩
  · rw [manifest] at found
    by_cases own : other = tunnelID
    · subst own
      have gone : (s.sys.manifest.wgS2s.erase other).lookup other = none := AList.lookup_erase _ _
      exact absurd (gone.symm.trans found) (by nofun)
    · exact consistent.entries other old ((AList.lookup_erase_ne own).symm.trans found)
  · rcases consistent.zones z member with old | ⟨ready,text,covered⟩
    · exact .inl old
    · refine .inr ⟨(readySame (by rw [manifest]; rfl)).mpr ready,text,?_⟩
      rcases covered with ⟨other,old,found,same⟩ | held
      · by_cases own : other = tunnelID
        · subst own
          rcases promises.2 old found with blank | held
          · exact absurd (same.symm.trans blank) text
          · exact .inr ⟨x,same ▸ held⟩
        · refine .inl ⟨other,old,?_,same⟩
          rw [manifest]
          exact (AList.lookup_erase_ne own).trans found
      · exact .inr held

theorem ensureConsistent {name : String} (ok : Succeeds host wg (.ensureZone name) s.sys)
    (promises : Promised host x (.ensureZone name) s) : Consistent host first (perform host wg x (.ensureZone name) s).2 := by
  obtain ⟨zone,returned,manifest,zones⟩ := ensureZoneEffect ok
  obtain ⟨ready,free⟩ := promises
  have entries : (perform host wg x (.ensureZone name) s).2.sys.manifest = s.sys.manifest := manifest
  have notes : (perform host wg x (.ensureZone name) s).2.notes = s.notes.setHeld x [zone.id] := by
    change note x (.ensureZone name) (execute host wg (.ensureZone name) s.sys).1 s.notes = _
    rw [returned]
    rfl
  have still : Ready host (perform host wg x (.ensureZone name) s).2.sys := (readySame (by rw [entries])).mpr ready
  have kept (z : Zone) (member : z ∈ s.sys.api.site.zones) : z.id ∈ first ∨ Ready host (perform host wg x (.ensureZone name) s).2.sys ∧
      z.id ≠ "" ∧ (Referenced z.id (perform host wg x (.ensureZone name) s).2.sys ∨ Held z.id (perform host wg x (.ensureZone name) s).2.notes) := by
    rcases consistent.zones z member with old | ⟨_,text,covered⟩
    · exact .inl old
    · refine .inr ⟨still,text,?_⟩
      rcases covered with ⟨tunnelID,zm,found,same⟩ | ⟨y,held⟩
      · exact .inl ⟨tunnelID,zm,by rw [entries]; exact found,same⟩
      · refine .inr ⟨y,?_⟩
        rw [notes]
        by_cases own : y = x
        · rw [own,free] at held
          contradiction
        · rw [setHeldOther own]
          exact held
  refine ⟨fun tunnelID zm found => consistent.entries tunnelID zm (entries ▸ found),consistent.rules,fun z member => ?_⟩
  rcases zones with same | ⟨text,grown⟩
  · exact kept z (same ▸ member)
  · have inside : z ∈ s.sys.api.site.zones ++ [zone] := grown ▸ member
    rcases mem_append.mp inside with old | new
    · exact kept z old
    · cases mem_singleton.mp new
      refine .inr ⟨still,text,.inr ⟨x,?_⟩⟩
      rw [notes,setHeldOwn]
      exact mem_singleton_self _

theorem deleteZoneConsistent {zoneID : String} (ok : Succeeds host wg (.deleteZone zoneID) s.sys) :
    Consistent host first (perform host wg x (.deleteZone zoneID) s).2 := by
  have zones := deleteZoneEffect ok
  refine ⟨consistent.entries,consistent.rules,fun z member => ?_⟩
  have inside : z ∈ s.sys.api.site.zones.filter (fun z => z.id != zoneID) := zones ▸ member
  obtain ⟨old,other⟩ := mem_filter.mp inside
  rcases consistent.zones z old with known | ⟨ready,text,covered⟩
  · exact .inl known
  · refine .inr ⟨ready,text,covered.imp id ?_⟩
    rintro ⟨y,held⟩
    refine ⟨y,?_⟩
    change z.id ∈ (s.notes.setHeld x ((s.notes.held x).filter (fun other => other != zoneID))).held y
    by_cases own : y = x
    · rw [own,setHeldOwn,mem_filter]
      exact ⟨own ▸ held,other⟩
    · rw [setHeldOther own]
      exact held

end

theorem performRules (ok : Succeeds host wg c s.sys) {chain : Chain} {r : Rule} (member : r ∈ (perform host wg x c s).2.sys.udapi.rules chain) :
    r ∈ s.sys.udapi.rules chain ∨ ∃ posted : FirewallRule, c = .postRule posted ∧ chain = posted.chain ∧ r.marker = markerFromDescription posted.desc := by
  by_cases quiet : c.loud = false
  · have rules := (@quietView host wg s.sys c quiet).rules
    change r ∈ (execute host wg c s.sys).2.udapi.rules chain at member
    rw [rules] at member
    exact .inl member
  · cases c with
    | postRule posted =>
      have udapi : (perform host wg x (.postRule posted) s).2.sys.udapi = Udapi.postRule posted {s.sys.udapi with calls := s.sys.udapi.calls+1} :=
        (@configEffect host s.sys (Udapi.postRule posted) ok).2
      rw [udapi] at member
      change r ∈ (if chain = posted.chain then s.sys.udapi.rules posted.chain ++ [posted.rule s.sys.udapi.nextID] else s.sys.udapi.rules chain) at member
      split at member
      · rename_i here
        rcases mem_append.mp member with old | new
        · exact .inl (here ▸ old)
        · cases mem_singleton.mp new
          exact .inr ⟨posted,rfl,here,rfl⟩
      · exact .inl member
    | deleteRule other ruleID =>
      have udapi : (perform host wg x (.deleteRule other ruleID) s).2.sys.udapi =
          Udapi.deleteRule other ruleID {s.sys.udapi with calls := s.sys.udapi.calls+1} :=
        (@configEffect host s.sys (Udapi.deleteRule other ruleID) ok).2
      rw [udapi] at member
      change r ∈ (if chain = other then (s.sys.udapi.rules other).filter (fun r => r.id != ruleID) else s.sys.udapi.rules chain) at member
      split at member
      · rename_i here
        exact .inl (here ▸ mem_of_mem_filter member)
      · exact .inl member
    | createTunnel _ _ | deleteTunnel _ | setWgS2sZone _ _ | removeWgS2sTunnel _ | ensureZone _ | deleteZone _ => exact .inl member
    | _ => exact absurd rfl quiet

theorem rulesConsistent (consistent : Consistent host first s) (ok : Succeeds host wg c s.sys) (timely : Timely c s) {chain : Chain} {r : Rule}
    (member : r ∈ (perform host wg x c s).2.sys.udapi.rules chain) {iface : String} (marked : r.marker = wgS2sMarker iface) :
    ∃ t ∈ s.sys.tunnels, t.interfaceName = iface := by
  rcases performRules ok member with old | ⟨posted,rfl,_,marker⟩
  · exact consistent.rules chain r old iface marked
  · exact (timely iface (marker.symm.trans marked)).1

theorem performConsistent (consistent : Consistent host first s) (allows : (discipline host wg first).allowed x c s)
    (promises : Promised host x c s) : Consistent host first (perform host wg x c s).2 := by
  obtain ⟨ok,timely⟩ := allows
  by_cases quiet : c.loud = false
  · exact quietConsistent consistent quiet promises
  · cases c with
    | createTunnel cfg privateKey => exact createConsistent consistent ok
    | deleteTunnel id => exact deleteConsistent consistent ok promises
    | setWgS2sZone tunnelID zm => exact setConsistent consistent ok timely promises
    | removeWgS2sTunnel tunnelID => exact removeConsistent consistent ok promises
    | ensureZone name => exact ensureConsistent consistent ok promises
    | deleteZone zoneID => exact deleteZoneConsistent consistent ok
    | postRule _ | deleteRule _ _ =>
      exact ⟨consistent.entries,fun _ _ member _ marked => rulesConsistent consistent ok timely member marked,consistent.zones⟩
    | _ => exact absurd rfl quiet

end
end VpnPack.Service
