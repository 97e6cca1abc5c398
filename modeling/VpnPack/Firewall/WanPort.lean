import VpnPack.Integration.Policies
import VpnPack.State.Manifest
import VpnPack.Wgs2s.RouteRefs

/-! WAN ports: OpenWanPort and CloseWanPort of the firewall manager, and the callers
that open, swap or close a port. The restoring of UDAPI rules that follows a change
touches nothing of this state and is left out. -/
namespace VpnPack.Firewall
open Base Integration List State
open Manifest (setSystemZoneIDs setWanPort removeWanPort wanPortPolicyID)

structure Wan where
  client : Client
  store : Store

def saving (disk : Disk) (change : Manifest → Manifest) : Proc Wan := fun w =>
  ((update disk change w.store).1,{w with store := (update disk change w.store).2})

def integrationReady (w : Wan) : Bool := w.client.apiKey ≠ "" && w.store.manifest.siteID ≠ ""
def errIntegrationNotConfigured : GoError := .new "integration API not configured"

def wanMarkerTailscaleWG : String := "tailscale-wg"
def wanMarkerRelay : String := "relay-server"
def wanMarkerWgS2sPrefix : String := "wg-s2s:"

def WanPortPolicyName (port : Int) (marker : String) : String :=
  if wanMarkerWgS2sPrefix.toList.isPrefixOf marker.toList then
    "VPN Pack: WG S2S UDP " ++ toString port ++ " (" ++ String.ofList (marker.toList.drop wanMarkerWgS2sPrefix.length) ++ ")"
  else if marker = wanMarkerRelay then "VPN Pack: Relay Server UDP " ++ toString port
  else if marker = wanMarkerTailscaleWG then "VPN Pack: Tailscale WireGuard UDP " ++ toString port
  else "VPN Pack: UDP " ++ toString port ++ " (" ++ marker ++ ")"

def resolveSystemZones (world : World) (disk : Disk) (siteID : String) (w : Wan) : Except GoError (String × String) × Wan :=
  if w.store.manifest.externalZoneID ≠ "" ∧ w.store.manifest.gatewayZoneID ≠ "" then
    (.ok (w.store.manifest.externalZoneID,w.store.manifest.gatewayZoneID),w)
  else
    match FindSystemZoneIDs world siteID w.client with
    | (.error e,c) => (.error (.wrap "find system zones" e),{w with client := c})
    | (.ok (extID,gwID),c) =>
      match saving disk (setSystemZoneIDs extID gwID) {w with client := c} with
      | (some e,v) => (.error (.wrap "save manifest" e),v)
      | (none,v) => (.ok (extID,gwID),v)

def OpenWanPort (world : World) (disk : Disk) (port : Int) (marker : String) : Proc Wan := fun w =>
  if integrationReady w = false then (some errIntegrationNotConfigured,w)
  else if w.store.manifest.wanPortPolicyID marker ≠ "" then (none,w)
  else
    match resolveSystemZones world disk w.store.manifest.siteID w with
    | (.error e,v) => (some (.wrap "resolve system zones" e),v)
    | (.ok (extID,gwID),v) =>
      match EnsureWanPortPolicy world w.store.manifest.siteID port (WanPortPolicyName port marker) extID gwID v.client with
      | (.error e,c) => (some (.wrap "ensure WAN port policy" e),{v with client := c})
      | (.ok policyID,c) =>
        wrapping "save manifest" (saving disk (setWanPort marker policyID (WanPortPolicyName port marker) port))
          {v with client := c}

def CloseWanPort (world : World) (disk : Disk) (_port : Int) (marker : String) : Proc Wan := fun w =>
  if integrationReady w = false then (some errIntegrationNotConfigured,w)
  else if w.store.manifest.wanPortPolicyID marker = "" then (none,w)
  else
    match DeletePolicy world w.store.manifest.siteID (w.store.manifest.wanPortPolicyID marker) w.client with
    | (.error e,c) =>
      if e.wraps errNotFound then wrapping "save manifest" (saving disk (removeWanPort marker)) {w with client := c}
      else (some (.wrap "delete WAN port policy" e),{w with client := c})
    | (.ok _,c) => wrapping "save manifest" (saving disk (removeWanPort marker)) {w with client := c}

def swapWanPort (world : World) (disk : Disk) (oldPort newPort : Int) (marker : String) (w : Wan) : Wan :=
  let closed := if 0 < oldPort then (CloseWanPort world disk oldPort marker w).2 else w
  if 0 < newPort then (OpenWanPort world disk newPort marker closed).2 else closed

def updateTailscaleWgPortRules (world : World) (disk : Disk) (newPort : Int) (w : Wan) : Wan :=
  if w.client.apiKey = "" then w
  else
    let currentPort := ((w.store.manifest.wanPorts.lookup wanMarkerTailscaleWG).map WanPortEntry.port).getD 0
    if currentPort = newPort then w else swapWanPort world disk currentPort newPort wanMarkerTailscaleWG w

def updateRelayPortRules (world : World) (disk : Disk) (newPort : Int) (oldPort : Option Int) (w : Wan) : Wan :=
  if w.client.apiKey = "" then w else swapWanPort world disk (oldPort.getD 0) newPort wanMarkerRelay w

def openTailscaleWanPort (world : World) (disk : Disk) (port : Int) (w : Wan) : Wan :=
  if port ≤ 0 then w else (OpenWanPort world disk port wanMarkerTailscaleWG w).2

inductive WanCall where
  | openPort (port : Int) (marker : String)
  | closePort (port : Int) (marker : String)
  | swapPort (oldPort newPort : Int) (marker : String)
  | relayPort (newPort : Int) (oldPort : Option Int)
  | tailscalePort (newPort : Int)
  | openTailscale (port : Int)
  deriving DecidableEq, Repr

def wanCall (world : World) (disk : Disk) : WanCall → Wan → Wan
  | .openPort port marker,w => (OpenWanPort world disk port marker w).2
  | .closePort port marker,w => (CloseWanPort world disk port marker w).2
  | .swapPort oldPort newPort marker,w => swapWanPort world disk oldPort newPort marker w
  | .relayPort newPort oldPort,w => updateRelayPortRules world disk newPort oldPort w
  | .tailscalePort newPort,w => updateTailscaleWgPortRules world disk newPort w
  | .openTailscale port,w => openTailscaleWanPort world disk port w

def namePrefixes : List (List Char) :=
  ["VPN Pack: WG S2S UDP ".toList,"VPN Pack: Relay Server UDP ".toList,"VPN Pack: Tailscale WireGuard UDP ".toList,
    "VPN Pack: UDP ".toList]

theorem policyNameShape (port : Int) (marker : String) :
    ∃ first ∈ namePrefixes, ∃ rest, (WanPortPolicyName port marker).toList = first ++ ((toString port).toList ++ rest) ∧
      (rest = [] ∨ ∃ tail, rest = ' ' :: tail) := by
  unfold WanPortPolicyName namePrefixes
  split
  · exact ⟨_,mem_cons_self,' ' :: '(' :: (marker.toList.drop wanMarkerWgS2sPrefix.length ++ [')']),
      by simp [String.toList_append],.inr ⟨_,rfl⟩⟩
  split
  · exact ⟨_,mem_cons_of_mem _ mem_cons_self,[],by simp [String.toList_append],.inl rfl⟩
  split
  · exact ⟨_,mem_cons_of_mem _ (mem_cons_of_mem _ mem_cons_self),[],by simp [String.toList_append],.inl rfl⟩
  · exact ⟨_,mem_cons_of_mem _ (mem_cons_of_mem _ (mem_cons_of_mem _ mem_cons_self)),
      ' ' :: '(' :: (marker.toList ++ [')']),by simp [String.toList_append],.inr ⟨_,rfl⟩⟩

theorem prefixesApart {a b : List Char} (left : a ∈ namePrefixes) (right : b ∈ namePrefixes) {s t : List Char}
    (same : a ++ s = b ++ t) : a = b := by
  have long : ∀ x ∈ namePrefixes, 11 ≤ x.length := by decide
  have differ : ∀ x ∈ namePrefixes, ∀ y ∈ namePrefixes, x.take 11 = y.take 11 → x = y := by decide
  refine differ a left b right ?_
  have taken := congrArg (List.take 11) same
  rw [take_append_of_le_length (long a left),take_append_of_le_length (long b right)] at taken
  exact taken

theorem portText {port : Int} {rest : List Char} (ends : rest = [] ∨ ∃ tail, rest = ' ' :: tail) :
    ((toString port).toList ++ rest).takeWhile (fun c => c ≠ ' ') = (toString port).toList := by
  have clean : ∀ c ∈ (toString port).toList, (decide (c ≠ ' ')) = true := by
    intro c member
    have other : c ≠ ' ' := by
      rintro rfl
      exact Net.intTextAvoids (by decide) (by decide) port member
    simpa using other
  rw [takeWhile_append_of_pos clean]
  rcases ends with rfl | ⟨tail,rfl⟩ <;> simp

theorem policyNamePort {p q : Int} {m n : String} (same : WanPortPolicyName p m = WanPortPolicyName q n) : p = q := by
  obtain ⟨first,left,rest,shape,ends⟩ := policyNameShape p m
  obtain ⟨second,right,tail,shape',ends'⟩ := policyNameShape q n
  rw [same,shape'] at shape
  have equal := prefixesApart right left shape
  subst equal
  have numbers := congrArg (List.takeWhile (fun c => c ≠ ' ')) (append_cancel_left shape)
  rw [portText ends,portText ends'] at numbers
  exact (Net.intTextInj (String.toList_inj.mp numbers)).symm

structure Allows (extID gwID : String) (port : Int) (p : Policy) : Prop where
  enabled : p.enabled = true
  action : p.action.type = "ALLOW"
  source : p.source = ⟨extID,none⟩
  destination : p.destination = ⟨gwID,some ⟨"PORT",⟨"PORTS",false,[⟨"PORT_NUMBER",port⟩]⟩⟩⟩
  protocol : p.ipProtocolScope.protocolFilter = some ⟨"NAMED_PROTOCOL","UDP",false⟩

def Wan.manifest (w : Wan) : Manifest := w.store.manifest
def Wan.policies (w : Wan) : List Policy := (w.client.sites w.manifest.siteID).policies

def Opened (w : Wan) (port : Int) (marker : String) : Prop :=
  ∃ e, w.manifest.wanPorts.lookup marker = some e ∧ e.port = port ∧
    ∀ p ∈ w.policies, p.id = e.policyID → Allows w.manifest.externalZoneID w.manifest.gatewayZoneID port p

structure Idle (policies : List Policy) (m : Manifest) : Prop where
  entries : ∀ marker, m.wanPorts.lookup marker = none
  names : ∀ p ∈ policies, ∀ port marker, p.name ≠ WanPortPolicyName port marker

def Resolved (m : Manifest) : Prop := m.externalZoneID ≠ "" ∧ m.gatewayZoneID ≠ ""

/- What the entries and the policy names stand for, with the system zones as recorded;
calls is the number of IDs that may have been given out. -/
structure Recorded (world : World) (calls : Nat) (policies : List Policy) (m : Manifest) : Prop where
  issued : ∀ p ∈ policies, ∀ n, calls ≤ n → p.id ≠ world.ids n
  single : (policies.map Policy.id).Nodup
  text : ∀ marker e, m.wanPorts.lookup marker = some e → e.policyID ≠ "" ∧ ∀ n, calls ≤ n → e.policyID ≠ world.ids n
  entries : ∀ marker e, m.wanPorts.lookup marker = some e → ∀ p ∈ policies, p.id = e.policyID →
    Allows m.externalZoneID m.gatewayZoneID e.port p
  names : ∀ p ∈ policies, ∀ port marker, p.name = WanPortPolicyName port marker → Allows m.externalZoneID m.gatewayZoneID port p
  resolved : ¬ Resolved m → Idle policies m

def Wan.Recorded (world : World) (w : Wan) : Prop := Firewall.Recorded world w.client.calls w.policies w.manifest

section
variable {world : World} {calls later : Nat} {policies others : List Policy} {m : Manifest} {port : Int} {marker : String}

theorem idleRecorded (issued : ∀ p ∈ policies, ∀ n, calls ≤ n → p.id ≠ world.ids n) (single : (policies.map Policy.id).Nodup)
    (idle : Idle policies m) : Recorded world calls policies m where
  issued := issued
  single := single
  text marker e found := by simp [idle.entries] at found
  entries marker e found := by simp [idle.entries] at found
  names p member port marker same := absurd same (idle.names p member port marker)
  resolved _ := idle

theorem recordedLater (recorded : Recorded world calls policies m) (more : calls ≤ later) : Recorded world later policies m :=
  {recorded with
    issued := fun p member n bound => recorded.issued p member n (Nat.le_trans more bound)
    text := fun marker e found =>
      ⟨(recorded.text marker e found).1,fun n bound => (recorded.text marker e found).2 n (Nat.le_trans more bound)⟩}

theorem recordedFewer (recorded : Recorded world calls policies m) (fewer : others.Sublist policies) : Recorded world calls others m where
  issued p member := recorded.issued p (fewer.subset member)
  single := recorded.single.sublist (fewer.map _)
  text := recorded.text
  entries marker e found p member := recorded.entries marker e found p (fewer.subset member)
  names p member := recorded.names p (fewer.subset member)
  resolved missing :=
    ⟨(recorded.resolved missing).entries,fun p member => (recorded.resolved missing).names p (fewer.subset member)⟩

theorem requestAllows (port : Int) (name extID gwID id : String) : Allows extID gwID port ⟨wanPortPolicy port name extID gwID,id⟩ :=
  ⟨rfl,rfl,rfl,rfl,rfl⟩

section
variable (recorded : Recorded world calls policies m)
include recorded

theorem recordedAdded {n : Nat} (resolved : Resolved m) (from_ : calls ≤ n) (before : n < later) : Recorded world later
      (policies ++ [⟨wanPortPolicy port (WanPortPolicyName port marker) m.externalZoneID m.gatewayZoneID,world.ids n⟩]) m := by
  refine ⟨fun p member k bound => ?_,?_,fun mark e found => ?_,fun mark e found p member same => ?_,
    fun p member other mark same => ?_,fun missing => absurd resolved missing⟩
  · rcases mem_append.mp member with old | new
    · exact recorded.issued p old k (by omega)
    · cases mem_singleton.mp new
      intro equal
      have := world.idsInj equal
      omega
  · rw [map_append,nodup_append]
    refine ⟨recorded.single,by simp,fun a old b new => ?_⟩
    obtain ⟨p,member,rfl⟩ := mem_map.mp old
    rw [map_singleton,mem_singleton] at new
    rw [new]
    exact recorded.issued p member n from_
  · exact ⟨(recorded.text mark e found).1,fun k bound => (recorded.text mark e found).2 k (by omega)⟩
  · rcases mem_append.mp member with old | new
    · exact recorded.entries mark e found p old same
    · cases mem_singleton.mp new
      exact absurd same.symm ((recorded.text mark e found).2 n from_)
  · rcases mem_append.mp member with old | new
    · exact recorded.names p old other mark same
    · cases mem_singleton.mp new
      cases policyNamePort same
      exact requestAllows _ _ _ _ _

theorem recordedEntry {policyID : String} (resolved : Resolved m) (text : policyID ≠ "") (fresh : ∀ n, calls ≤ n → policyID ≠ world.ids n)
    (allows : ∀ p ∈ policies, p.id = policyID → Allows m.externalZoneID m.gatewayZoneID port p) (name : String) :
    Recorded world calls policies (m.setWanPort marker policyID name port) := by
  have looked {mark : String} {e : WanPortEntry} (found : (m.setWanPort marker policyID name port).wanPorts.lookup mark = some e) :
      e = ⟨policyID,name,port⟩ ∨ m.wanPorts.lookup mark = some e := by
    by_cases same : mark = marker
    · subst same
      rw [setWanPort,AList.lookup_insert] at found
      exact .inl (Option.some.inj found).symm
    · rw [setWanPort,AList.lookup_insert_ne same] at found
      exact .inr found
  refine ⟨recorded.issued,recorded.single,fun mark e found => ?_,fun mark e found p member same => ?_,recorded.names,
    fun missing => absurd resolved missing⟩
  · rcases looked found with rfl | old
    · exact ⟨text,fresh⟩
    · exact recorded.text mark e old
  · rcases looked found with rfl | old
    · exact allows p member same
    · exact recorded.entries mark e old p member same

theorem recordedErased : Recorded world calls policies (m.removeWanPort marker) := by
  have looked {mark : String} {e : WanPortEntry} (found : (m.removeWanPort marker).wanPorts.lookup mark = some e) :
      m.wanPorts.lookup mark = some e := by
    by_cases same : mark = marker
    · subst same
      rw [removeWanPort,AList.lookup_erase] at found
      contradiction
    · rw [removeWanPort,AList.lookup_erase_ne same] at found
      exact found
  refine ⟨recorded.issued,recorded.single,fun mark e found => recorded.text mark e (looked found),
    fun mark e found => recorded.entries mark e (looked found),recorded.names,fun missing => ⟨fun mark => ?_,?_⟩⟩
  · cases found : (m.removeWanPort marker).wanPorts.lookup mark with
    | none => rfl
    | some e =>
      have old := looked found
      rw [(recorded.resolved missing).entries mark] at old
      contradiction
  · exact (recorded.resolved missing).names

end

end

section
variable {world : World} {disk : Disk} {w v : Wan} {port : Int} {marker : String} {c d : Client}

theorem savingSource (disk : Disk) (change : Manifest → Manifest) (w : Wan) : (saving disk change w).2.client = w.client ∧
      ((saving disk change w).2.manifest = change w.manifest ∨ (saving disk change w).2.manifest = w.manifest) :=
  ⟨rfl,updateManifest disk change w.store⟩

theorem savingOk {change : Manifest → Manifest} (ran : saving disk change w = (none,v)) : v.manifest = change w.manifest := by
  have first : (update disk change w.store).1 = none := congrArg Prod.fst ran
  have saved : update disk change w.store = (none,(update disk change w.store).2) := Prod.ext first rfl
  rw [← (Prod.mk.inj ran).2]
  exact updateOk saved

theorem wanPolicies {v : Wan} (client : v.client = c) (site : v.manifest.siteID = w.manifest.siteID) :
    v.policies = (c.sites w.manifest.siteID).policies := by
  rw [Wan.policies,client,site]

theorem wanRecorded {v : Wan} (recorded : Recorded world c.calls (c.sites w.manifest.siteID).policies v.manifest)
    (client : v.client = c) (site : v.manifest.siteID = w.manifest.siteID) : v.Recorded world := by
  rw [Wan.Recorded,wanPolicies client site,client]
  exact recorded

theorem askedRecorded (recorded : w.Recorded world) (asked : Asked w.client c) :
    Recorded world c.calls (c.sites w.manifest.siteID).policies w.manifest := by
  rw [asked.sites]
  exact recordedLater recorded asked.calls

variable {siteID extID gwID : String} {r : Except GoError (String × String)}

theorem systemSource (ran : FindSystemZoneIDs world siteID c = (r,d)) :
    Asked c d ∧ ∀ extID gwID, r = .ok (extID,gwID) → extID ≠ "" ∧ gwID ≠ "" := by
  simp only [FindSystemZoneIDs] at ran
  split at ran
  · rename_i listed
    cases ran
    exact ⟨(listZonesSource listed).1,fun _ _ bad => (by cases bad)⟩
  · rename_i zones d' listed
    have asked := (listZonesSource listed).1
    split at ran
    · cases ran
      exact ⟨asked,fun _ _ bad => (by cases bad)⟩
    · split at ran
      · cases ran
        exact ⟨asked,fun _ _ bad => (by cases bad)⟩
      · rename_i first second
        cases ran
        refine ⟨asked,fun extID gwID same => ?_⟩
        rw [Except.ok.inj same] at first second
        exact ⟨first,second⟩

theorem resolveSource (recorded : w.Recorded world)
    (ran : resolveSystemZones world disk w.manifest.siteID w = (r,v)) : v.Recorded world ∧ v.manifest.siteID = w.manifest.siteID ∧
      ∀ extID gwID, r = .ok (extID,gwID) → Resolved v.manifest ∧ v.manifest.externalZoneID = extID ∧ v.manifest.gatewayZoneID = gwID := by
  simp only [resolveSystemZones] at ran
  split at ran
  · rename_i resolved
    cases ran
    refine ⟨recorded,rfl,fun extID gwID same => ?_⟩
    cases same
    exact ⟨resolved,rfl,rfl⟩
  rename_i missing
  have idle : Idle w.policies w.manifest := recorded.resolved missing
  split at ran
  · rename_i e c found
    cases ran
    have before := askedRecorded recorded (systemSource found).1
    exact ⟨@wanRecorded world w c {w with client := c} before rfl rfl,rfl,fun _ _ bad => (by cases bad)⟩
  · rename_i extID gwID c found
    obtain ⟨asked,texts⟩ := systemSource found
    have before := askedRecorded recorded asked
    have after : Recorded world c.calls (c.sites w.manifest.siteID).policies (w.manifest.setSystemZoneIDs extID gwID) := by
      refine idleRecorded before.issued before.single ⟨idle.entries,?_⟩
      rw [asked.sites]
      exact idle.names
    obtain ⟨client,manifest⟩ := savingSource disk (setSystemZoneIDs extID gwID) {w with client := c}
    have site : (saving disk (setSystemZoneIDs extID gwID) {w with client := c}).2.manifest.siteID = w.manifest.siteID := by
      rcases manifest with changed | kept
      · rw [changed]
        rfl
      · rw [kept]
        rfl
    have saved : Recorded world c.calls (c.sites w.manifest.siteID).policies
        (saving disk (setSystemZoneIDs extID gwID) {w with client := c}).2.manifest := by
      rcases manifest with changed | kept
      · rw [changed]
        exact after
      · rw [kept]
        exact before
    have whole := wanRecorded saved client site
    split at ran
    · rename_i stopped
      cases ran
      rw [stopped] at whole site
      exact ⟨whole,site,fun _ _ bad => (by cases bad)⟩
    · rename_i done
      cases ran
      have set := savingOk done
      rw [done] at whole site
      refine ⟨whole,site,fun a b same => ?_⟩
      cases same
      rw [set]
      exact ⟨texts extID gwID rfl,rfl,rfl⟩

theorem ensureWanSource {name extID gwID : String} {r : Except GoError String}
    (ran : EnsureWanPortPolicy world siteID port name extID gwID c = (r,d)) :
    Asked c d ∧ (∀ id, r = .ok id → id ≠ "" ∧ ∃ p ∈ (c.sites siteID).policies, p.name = name ∧ p.id = id) ∨ ∃ n, c.calls ≤ n ∧ n < d.calls ∧
        (d.sites siteID).policies = (c.sites siteID).policies ++ [⟨wanPortPolicy port name extID gwID,world.ids n⟩] ∧
        ∀ id, r = .ok id → id = world.ids n := by
  simp only [EnsureWanPortPolicy] at ran
  split at ran
  · rename_i listed
    cases ran
    exact .inl ⟨(listSource listed).1,fun _ bad => (by cases bad)⟩
  rename_i existing m listed
  obtain ⟨asked,same⟩ := listSource listed
  split at ran
  · rename_i found
    cases ran
    refine .inl ⟨asked,fun id equal => ?_⟩
    cases equal
    obtain ⟨p,member,named,here⟩ := findExistingSource found
    rw [same existing rfl] at member
    exact ⟨found,p,mem_of_mem_take member,named,here⟩
  · have grown (sites : d.sites = withPolicy m.sites siteID ⟨wanPortPolicy port name extID gwID,world.ids m.calls⟩) :
        (d.sites siteID).policies = (c.sites siteID).policies ++ [⟨wanPortPolicy port name extID gwID,world.ids m.calls⟩] := by
      rw [sites,policiesWith,asked.sites]
    split at ran
    · rename_i e d' created
      cases ran
      obtain ⟨key,calls,sites | ⟨sites,more⟩⟩ := requestFailed created
      · exact .inl ⟨askedTrans asked ⟨sites,key,calls⟩,fun _ bad => (by cases bad)⟩
      · exact .inr ⟨m.calls,asked.calls,more,grown sites,fun _ bad => (by cases bad)⟩
    · rename_i p d' created
      cases ran
      obtain ⟨reply,final⟩ := requestOk created
      refine .inr ⟨m.calls,asked.calls,?_,grown (by rw [final]; rfl),fun id equal => ?_⟩
      · rw [final]
        exact Nat.lt_succ_self _
      · rw [← Except.ok.inj equal,← Except.ok.inj reply]

theorem ensuredRecorded {policyID : String} (before : v.Recorded world) (resolved : Resolved v.manifest)
    (ensured : EnsureWanPortPolicy world v.manifest.siteID port (WanPortPolicyName port marker) v.manifest.externalZoneID v.manifest.gatewayZoneID
      v.client = (.ok policyID,c)) : Recorded world c.calls (c.sites v.manifest.siteID).policies v.manifest ∧
      Recorded world c.calls (c.sites v.manifest.siteID).policies
        (v.manifest.setWanPort marker policyID (WanPortPolicyName port marker) port) := by
  rcases ensureWanSource ensured with ⟨asked,result⟩ | ⟨n,first,last,grown,result⟩
  · obtain ⟨text,p,member,named,here⟩ := result policyID rfl
    have kept := askedRecorded before asked
    refine ⟨kept,recordedEntry kept resolved text (fun n bound => ?_) (fun q inside same => ?_) _⟩
    · rw [← here]
      exact before.issued p member n (Nat.le_trans asked.calls bound)
    · rw [asked.sites] at inside
      have equal : q = p := inj_on_of_nodup_map before.single inside member (same.trans here.symm)
      rw [equal]
      exact before.names p member port marker named
  · cases result policyID rfl
    have added : Recorded world c.calls (c.sites v.manifest.siteID).policies v.manifest := by
      rw [grown]
      exact recordedAdded before resolved first last
    refine ⟨added,recordedEntry added resolved (world.idsText n) (fun k bound same => ?_) (fun q inside same => ?_) _⟩
    · have := world.idsInj same
      omega
    · rw [grown] at inside
      rcases mem_append.mp inside with old | new
      · exact absurd same (before.issued q old n first)
      · cases mem_singleton.mp new
        exact requestAllows _ _ _ _ _

theorem openSource {r : Option GoError} {t : Wan} (recorded : w.Recorded world) (ran : OpenWanPort world disk port marker w = (r,t)) :
    t.Recorded world ∧ (r = none → w.manifest.wanPortPolicyID marker ≠ "" ∧ t = w ∨
        w.manifest.wanPortPolicyID marker = "" ∧
          ∃ id, t.manifest.wanPorts.lookup marker = some ⟨id,WanPortPolicyName port marker,port⟩) := by
  simp only [OpenWanPort] at ran
  split at ran
  · cases ran
    exact ⟨recorded,fun bad => (by cases bad)⟩
  split at ran
  · rename_i present
    cases ran
    exact ⟨recorded,fun _ => .inl ⟨present,rfl⟩⟩
  rename_i absent
  split at ran
  · rename_i failed
    cases ran
    exact ⟨(resolveSource recorded failed).1,fun bad => (by cases bad)⟩
  rename_i extID gwID v found
  obtain ⟨before,site,known⟩ := resolveSource recorded found
  obtain ⟨resolved,rfl,rfl⟩ := known extID gwID rfl
  have here : w.store.manifest.siteID = v.manifest.siteID := site.symm
  rw [here] at ran
  split at ran
  · rename_i e c ensured
    cases ran
    refine ⟨?_,fun bad => (by cases bad)⟩
    rcases ensureWanSource ensured with ⟨asked,_⟩ | ⟨n,first,last,grown,_⟩
    · exact @wanRecorded world v c {v with client := c} (askedRecorded before asked) rfl rfl
    · refine @wanRecorded world v c {v with client := c} ?_ rfl rfl
      rw [grown]
      exact recordedAdded before resolved first last
  · rename_i policyID c ensured
    have entered := ensuredRecorded before resolved ensured
    obtain ⟨client,manifest⟩ := savingSource disk (setWanPort marker policyID (WanPortPolicyName port marker) port) {v with client := c}
    have final : t = (saving disk (setWanPort marker policyID (WanPortPolicyName port marker) port)
        {v with client := c}).2 := (congrArg Prod.snd ran).symm
    rw [← final] at client manifest
    refine ⟨?_,fun returned => .inr ⟨not_not.mp absent,policyID,?_⟩⟩
    · rcases manifest with changed | kept
      · refine @wanRecorded world v c t ?_ client (by rw [changed]; rfl)
        rw [changed]
        exact entered.2
      · refine @wanRecorded world v c t ?_ client (by rw [kept]; rfl)
        rw [kept]
        exact entered.1
    · subst returned
      rw [savingOk (wrappingOk.mp ran)]
      exact AList.lookup_insert _

theorem resolvePorts (ran : resolveSystemZones world disk siteID w = (.ok (extID,gwID),v)) :
    v.manifest.wanPorts = w.manifest.wanPorts := by
  simp only [resolveSystemZones] at ran
  split at ran
  · cases ran
    rfl
  split at ran
  · simp at ran
  · rename_i extID gwID c found
    split at ran
    · simp at ran
    · rename_i u saved
      cases ran
      rw [savingOk saved]
      rfl

theorem openPorts (ran : OpenWanPort world disk port marker w = (none,v)) : w.manifest.wanPortPolicyID marker ≠ "" ∧ v = w ∨
      w.manifest.wanPortPolicyID marker = "" ∧ ∃ e, e.policyID ≠ "" ∧ e.port = port ∧
        v.manifest.wanPorts = w.manifest.wanPorts.insert marker e := by
  simp only [OpenWanPort] at ran
  split at ran
  · simp at ran
  split at ran
  · rename_i present
    cases ran
    exact .inl ⟨present,rfl⟩
  rename_i absent
  split at ran
  · simp at ran
  rename_i extID gwID u found
  split at ran
  · simp at ran
  · rename_i policyID c ensured
    have text : policyID ≠ "" := by
      rcases ensureWanSource ensured with ⟨_,result⟩ | ⟨n,_,_,_,result⟩
      · exact (result policyID rfl).1
      · rw [result policyID rfl]
        exact world.idsText n
    refine .inr ⟨not_not.mp absent,⟨policyID,WanPortPolicyName port marker,port⟩,text,rfl,?_⟩
    have same : u.manifest.wanPorts = w.manifest.wanPorts := resolvePorts found
    rw [savingOk (wrappingOk.mp ran),← same]
    rfl

theorem closePorts (ran : CloseWanPort world disk port marker w = (none,v)) :
    w.manifest.wanPortPolicyID marker = "" ∧ v = w ∨ v.manifest.wanPorts = w.manifest.wanPorts.erase marker := by
  simp only [CloseWanPort] at ran
  split at ran
  · simp at ran
  split at ran
  · rename_i absent
    cases ran
    exact .inl ⟨absent,rfl⟩
  split at ran
  · split at ran
    · rw [savingOk (wrappingOk.mp ran)]
      exact .inr rfl
    · simp at ran
  · rw [savingOk (wrappingOk.mp ran)]
    exact .inr rfl

theorem closeRecorded (recorded : w.Recorded world) : (CloseWanPort world disk port marker w).2.Recorded world := by
  have erased {c : Client} (kept : Recorded world c.calls (c.sites w.manifest.siteID).policies w.manifest) :
      (saving disk (removeWanPort marker) {w with client := c}).2.Recorded world := by
    obtain ⟨client,changed | same⟩ := savingSource disk (removeWanPort marker) {w with client := c}
    · refine @wanRecorded world w c _ ?_ client (by rw [changed]; rfl)
      rw [changed]
      exact recordedErased kept
    · refine @wanRecorded world w c _ ?_ client (by rw [same]; rfl)
      rw [same]
      exact kept
  simp only [CloseWanPort]
  split
  · exact recorded
  split
  · exact recorded
  have fewer {r : Except GoError Unit} {c : Client}
      (ran : DeletePolicy world w.manifest.siteID (w.manifest.wanPortPolicyID marker) w.client = (r,c)) :
      Recorded world c.calls (c.sites w.manifest.siteID).policies w.manifest := by
    obtain ⟨calls,sub⟩ := deletePolicySource ran
    exact recordedFewer (recordedLater recorded calls) sub
  split
  · rename_i e c deleted
    split
    · exact erased (fewer deleted)
    · exact @wanRecorded world w c {w with client := c} (fewer deleted) rfl rfl
  · rename_i a c deleted
    exact erased (fewer deleted)

theorem openRecorded (recorded : w.Recorded world) : (OpenWanPort world disk port marker w).2.Recorded world :=
  (openSource recorded rfl).1

theorem swapRecorded {oldPort newPort : Int} (recorded : w.Recorded world) :
    (swapWanPort world disk oldPort newPort marker w).Recorded world := by
  have closed : (if 0 < oldPort then (CloseWanPort world disk oldPort marker w).2 else w).Recorded world := by
    split
    · exact closeRecorded recorded
    · exact recorded
  simp only [swapWanPort]
  split
  · exact openRecorded closed
  · exact closed

theorem wanCallRecorded (a : WanCall) (recorded : w.Recorded world) : (wanCall world disk a w).Recorded world := by
  cases a with
  | openPort port marker => exact openRecorded recorded
  | closePort port marker => exact closeRecorded recorded
  | swapPort oldPort newPort marker => exact swapRecorded recorded
  | relayPort newPort oldPort =>
    simp only [wanCall,updateRelayPortRules]
    split
    · exact recorded
    · exact swapRecorded recorded
  | tailscalePort newPort =>
    simp only [wanCall,updateTailscaleWgPortRules]
    split
    · exact recorded
    · split
      · exact recorded
      · exact swapRecorded recorded
  | openTailscale port =>
    simp only [wanCall,openTailscaleWanPort]
    split
    · exact recorded
    · exact openRecorded recorded

theorem policyIDPresent (present : w.manifest.wanPortPolicyID marker ≠ "") : ∃ e, w.manifest.wanPorts.lookup marker = some e := by
  unfold wanPortPolicyID at present
  split at present
  · rename_i e found
    exact ⟨e,found⟩
  · exact absurd rfl present

end

theorem openWanPortExact {world : World} {disk : Disk} {start w t : Wan} {port : Int} {marker : String}
    (issued : ∀ p ∈ start.policies, ∀ n, start.client.calls ≤ n → p.id ≠ world.ids n)
    (single : (start.policies.map Policy.id).Nodup) (idle : Idle start.policies start.manifest)
    (reached : Reached (wanCall world disk) (fun _ _ => True) start w) (ran : OpenWanPort world disk port marker w = (none,t)) :
    Opened t port marker ↔ ∀ e, w.manifest.wanPorts.lookup marker = some e → e.port = port := by
  have recorded : w.Recorded world := reachedInvariant (Wan.Recorded world) (idleRecorded issued single idle)
    (fun a _ inv _ => wanCallRecorded a inv) reached
  obtain ⟨after,outcome⟩ := openSource recorded ran
  rcases outcome rfl with ⟨present,rfl⟩ | ⟨absent,id,found⟩
  · obtain ⟨e,found⟩ := policyIDPresent present
    constructor
    · rintro ⟨e',same,asked,_⟩ e'' same'
      rw [found] at same same'
      cases same
      cases Option.some.inj same'
      exact asked
    · intro right
      have same := right e found
      exact ⟨e,found,same,fun p member here => same ▸ recorded.entries marker e found p member here⟩
  · refine iff_of_true ⟨_,found,rfl,fun p member here => after.entries marker _ found p member here⟩ (fun e old => ?_)
    rw [wanPortPolicyID,old] at absent
    exact absurd absent (recorded.text marker e old).1

def goodDisk : Disk := ⟨fun _ => none,false⟩
def bareManifest : Manifest := ⟨"default",⟨"","",[],""⟩,∅,∅,"",""⟩

def freshWan : Wan :=
  ⟨⟨fun _ => ⟨[⟨"ext","External"⟩,⟨"gw","Gateway"⟩],[]⟩,"key",0,0,[],"",0⟩,⟨bareManifest,0⟩⟩

theorem openWanPortExactFirst : (OpenWanPort slow goodDisk 41641 wanMarkerTailscaleWG freshWan).1 = none ∧
    Opened (OpenWanPort slow goodDisk 41641 wanMarkerTailscaleWG freshWan).2 41641 wanMarkerTailscaleWG := by
  have returned : (OpenWanPort slow goodDisk 41641 wanMarkerTailscaleWG freshWan).1 = none := by decide +kernel
  have ran : OpenWanPort slow goodDisk 41641 wanMarkerTailscaleWG freshWan =
      (none,(OpenWanPort slow goodDisk 41641 wanMarkerTailscaleWG freshWan).2) := Prod.ext returned rfl
  have none_ : freshWan.policies = [] := rfl
  refine ⟨returned,(openWanPortExact ?_ ?_ ⟨fun _ => rfl,?_⟩ .start ran).mpr (fun e found => ?_)⟩
  · simp [none_]
  · simp [none_]
  · simp [none_]
  · have absent : freshWan.manifest.wanPorts.lookup wanMarkerTailscaleWG = none := rfl
    rw [absent] at found
    contradiction

def refusing : World :=
  {slow with answers := fun n => if n = 3 then .failed (.new "integration API error") else .ok}

def afterSwap : Wan :=
  [WanCall.openPort 41641 wanMarkerTailscaleWG,.swapPort 41641 41642 wanMarkerTailscaleWG].foldl
    (fun w a => wanCall refusing goodDisk a w) freshWan

theorem failedCloseKeepsPort : Reached (wanCall refusing goodDisk) (fun _ _ => True) freshWan afterSwap ∧
    (OpenWanPort refusing goodDisk 41642 wanMarkerTailscaleWG afterSwap).1 = none ∧
    ((OpenWanPort refusing goodDisk 41642 wanMarkerTailscaleWG afterSwap).2.manifest.wanPorts.lookup
      wanMarkerTailscaleWG).map WanPortEntry.port = some 41641 := by
  refine ⟨reachedAlong ⟨trivial,trivial,trivial⟩,by decide +kernel,by decide +kernel⟩

end VpnPack.Firewall
