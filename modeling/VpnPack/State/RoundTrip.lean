import VpnPack.State.ManifestFile

/-! The manifest read back from the file it was saved to. A mode of the model that is not the
one its text stands for comes back as that one, which no getter tells apart. -/
namespace VpnPack.State
open Base Codec List

theorem zoneInverts (zm : ZoneManifest) : zoneCodec.Inverts zm := by
  have zoneID : text.field "zoneId" (zoneMembers zm) = some zm.zoneID :=
    fieldReads (by simp [zoneMembers]) eq_of_beq (textInverts _)
  have zoneName : text.field "zoneName" (zoneMembers zm) = some zm.zoneName :=
    fieldReads (by simp [zoneMembers]) eq_of_beq (textInverts _)
  have policyIDs : text.list.field "policyIds" (zoneMembers zm) = some zm.policyIDs :=
    fieldReads (by simp [zoneMembers]) isEmpty_iff.mp (listInverts fun _ _ => textInverts _)
  have chainPrefix : text.field "chainPrefix" (zoneMembers zm) = some zm.chainPrefix :=
    fieldReads (by simp [zoneMembers]) eq_of_beq (textInverts _)
  change readZone (zoneMembers zm) = some zm
  simp only [readZone,zoneID,zoneName,policyIDs,chainPrefix,bind,Option.bind]

theorem wanPortInverts {e : WanPortEntry} (fits : IntFits e.port) : wanPortCodec.Inverts e := by
  have policyID : text.field "policyId" (wanPortMembers e) = some e.policyID :=
    fieldWritten (by simp [wanPortMembers]) (textInverts _)
  have policyName : text.field "policyName" (wanPortMembers e) = some e.policyName :=
    fieldWritten (by simp [wanPortMembers]) (textInverts _)
  have port : int.field "port" (wanPortMembers e) = some e.port :=
    fieldWritten (by simp [wanPortMembers]) (intInverts fits)
  change readWanPort (wanPortMembers e) = some e
  simp only [readWanPort,policyID,policyName,port,bind,Option.bind]

theorem dnsPolicyInverts (e : DNSPolicyEntry) : dnsPolicyCodec.Inverts e := by
  have policyID : text.field "policyId" (dnsPolicyMembers e) = some e.policyID :=
    fieldWritten (by simp [dnsPolicyMembers]) (textInverts _)
  have domain : text.field "domain" (dnsPolicyMembers e) = some e.domain :=
    fieldWritten (by simp [dnsPolicyMembers]) (textInverts _)
  have ipAddress : text.field "ipAddress" (dnsPolicyMembers e) = some e.ipAddress :=
    fieldWritten (by simp [dnsPolicyMembers]) (textInverts _)
  change readDnsPolicy (dnsPolicyMembers e) = some e
  simp only [readDnsPolicy,policyID,domain,ipAddress,bind,Option.bind]

theorem clientInverts (c : Exit.ExitNodeClient) : clientCodec.Inverts c := by
  have ip : text.field "ip" (clientMembers c) = some (String.ofList c.ip) :=
    fieldWritten (by simp [clientMembers]) (textInverts _)
  have label : text.field "label" (clientMembers c) = some c.label :=
    fieldReads (by simp [clientMembers]) eq_of_beq (textInverts _)
  change readClient (clientMembers c) = some c
  simp only [readClient,ip,label,bind,Option.bind,String.toList_ofList]

theorem modeOfText (text : String) : (modeOf text).text = text := by
  unfold modeOf
  split
  · rename_i same
    exact same.symm
  split
  · rename_i same
    exact same.symm
  split
  · rename_i same
    exact same.symm
  split
  · rename_i same
    exact same.symm
  rfl

def readPolicy (p : Exit.ExitNodePolicy) : Exit.ExitNodePolicy := {p with mode := modeOf p.mode.text}
def readRemote (r : Exit.RemoteExitNode) : Exit.RemoteExitNode := {r with mode := modeOf r.mode.text}

theorem exitPolicyReads (p : Exit.ExitNodePolicy) : exitPolicyCodec.decode (exitPolicyCodec.encode p) = some (readPolicy p) := by
  have mode : text.field "mode" (exitPolicyMembers p) = some p.mode.text :=
    fieldWritten (by simp [exitPolicyMembers]) (textInverts _)
  have clients : clientCodec.list.field "clients" (exitPolicyMembers p) = some p.clients :=
    fieldReads (by simp [exitPolicyMembers]) isEmpty_iff.mp
      (listInverts fun c _ => clientInverts c)
  change readExitPolicy (exitPolicyMembers p) = some (readPolicy p)
  simp only [readExitPolicy,mode,clients,bind,Option.bind,readPolicy]

theorem remoteExitReads (r : Exit.RemoteExitNode) : remoteExitCodec.decode (remoteExitCodec.encode r) = some (readRemote r) := by
  have peerID : text.field "peerId" (remoteExitMembers r) = some r.peerID :=
    fieldWritten (by simp [remoteExitMembers]) (textInverts _)
  have mode : text.field "mode" (remoteExitMembers r) = some r.mode.text :=
    fieldWritten (by simp [remoteExitMembers]) (textInverts _)
  have clients : clientCodec.list.field "clients" (remoteExitMembers r) = some r.clients :=
    fieldReads (by simp [remoteExitMembers]) isEmpty_iff.mp
      (listInverts fun c _ => clientInverts c)
  change readRemoteExit (remoteExitMembers r) = some (readRemote r)
  simp only [readRemoteExit,peerID,mode,clients,bind,Option.bind,readRemote]

def readBack (d : Document) : Document :=
  {d with exit := ⟨d.exit.exitNodePolicy.map readPolicy,d.exit.remoteExitNode.map readRemote,d.exit.advertiseExitNodeEnabled⟩}

structure Sized (d : Document) : Prop where
  version : d.version = 2
  ports : ∀ entry ∈ d.firewall.wanPorts.entries, IntFits entry.2.port

theorem emptyEntries {α : Type} {entries : Dict α} (empty : entries.entries.isEmpty = true) : entries = ∅ :=
  AList.ext (isEmpty_iff.mp empty)

section
variable (cal : Calendar) {d : Document}

theorem documentReads (sized : Sized d) : readDocument cal (documentMembers cal d) = some (readBack d) := by
  have version : int.field "version" (documentMembers cal d) = some d.version :=
    fieldWritten (by simp [documentMembers]) (intInverts (by rw [sized.version]; decide))
  have createdAt : (timeCodec cal).field "createdAt" (documentMembers cal d) = some d.createdAt :=
    fieldWritten (by simp [documentMembers]) (cal.readable _)
  have updatedAt : (timeCodec cal).field "updatedAt" (documentMembers cal d) = some d.updatedAt :=
    fieldWritten (by simp [documentMembers]) (cal.readable _)
  have siteID : text.field "siteId" (documentMembers cal d) = some d.firewall.siteID :=
    fieldReads (by simp [documentMembers]) eq_of_beq (textInverts _)
  have tailscale : zoneCodec.field "tailscale" (documentMembers cal d) = some d.firewall.tailscale :=
    fieldWritten (by simp [documentMembers]) (zoneInverts _)
  have wgS2s : zoneCodec.map.field "wgS2s" (documentMembers cal d) = some d.firewall.wgS2s :=
    fieldReads (by simp [documentMembers]) emptyEntries
      (mapInverts fun entry _ => zoneInverts entry.2)
  have wanPorts : wanPortCodec.map.field "wanPorts" (documentMembers cal d) = some d.firewall.wanPorts :=
    fieldReads (by simp [documentMembers]) emptyEntries
      (mapInverts fun entry member => wanPortInverts (sized.ports entry member))
  have externalZoneID : text.field "externalZoneId" (documentMembers cal d) = some d.firewall.externalZoneID :=
    fieldReads (by simp [documentMembers]) eq_of_beq (textInverts _)
  have gatewayZoneID : text.field "gatewayZoneId" (documentMembers cal d) = some d.firewall.gatewayZoneID :=
    fieldReads (by simp [documentMembers]) eq_of_beq (textInverts _)
  have dnsPolicies : dnsPolicyCodec.map.field "dnsPolicies" (documentMembers cal d) = some d.dnsPolicies :=
    fieldReads (by simp [documentMembers]) emptyEntries
      (mapInverts fun entry _ => dnsPolicyInverts entry.2)
  have exitNodePolicy : exitPolicyCodec.optional.field "exitNodePolicy" (documentMembers cal d) =
      some (d.exit.exitNodePolicy.map readPolicy) :=
    optionalField (by simp [documentMembers]) (fun _ => Json.noConfusion) exitPolicyReads
  have advertise : flag.field "advertiseExitNode" (documentMembers cal d) = some d.exit.advertiseExitNodeEnabled :=
    fieldReads (by simp [documentMembers])
      (fun off : (!d.exit.advertiseExitNodeEnabled) = true => (Bool.not_eq_true' _).mp off) (flagInverts _)
  have remoteExitNode : remoteExitCodec.optional.field "remoteExitNode" (documentMembers cal d) =
      some (d.exit.remoteExitNode.map readRemote) :=
    optionalField (by simp [documentMembers]) (fun _ => Json.noConfusion) remoteExitReads
  simp only [readDocument,version,createdAt,updatedAt,siteID,tailscale,wgS2s,wanPorts,externalZoneID,gatewayZoneID,dnsPolicies,
    exitNodePolicy,advertise,remoteExitNode,bind,Option.bind]
  rfl

theorem readBackAlike (d : Document) : Alike (readBack d) d := by
  refine {alikeRefl d with exitNodePolicy := ?_, remoteExitNode := ?_}
  · unfold Document.GetExitNodePolicy readBack
    cases d.exit.exitNodePolicy with
    | none => rfl
    | some p => exact congrArg (fun mode => ExitView.mk mode p.clients) (modeOfText p.mode.text)
  · unfold Document.GetRemoteExitNode readBack
    cases d.exit.remoteExitNode with
    | none => rfl
    | some r => exact congrArg (fun mode => some (r.peerID,ExitView.mk mode r.clients)) (modeOfText r.mode.text)

theorem loadsSized (now : Time) (sized : Sized d) : LoadManifest cal now (fileContent cal (some d)) = .ok ⟨readBack d,false,false⟩ := by
  have version : int.field "version" (documentMembers cal d) = some 2 := by
    rw [← sized.version]
    exact fieldWritten (by simp [documentMembers]) (intInverts (by rw [sized.version]; decide))
  have later : ¬ (2 : Int) ≤ 1 := by decide
  simp only [LoadManifest,fileContent,rawMembers,loadMembers,version,if_neg later,documentReads cal sized]

end

def Mutator.Typed : Mutator → Prop
  | .setWanPort _ _ _ port => IntFits port
  | _ => True

theorem changeSized {d : Document} {c : Mutator} (typed : c.Typed) (sized : Sized d) : Sized (c.change d) := by
  cases c with
  | setWanPort marker policyID policyName port =>
    refine ⟨sized.version,fun entry member => ?_⟩
    change entry ∈ (AList.insert marker ⟨policyID,policyName,port⟩ d.firewall.wanPorts).entries at member
    rw [AList.entries_insert] at member
    rcases mem_cons.mp member with same | old
    · rw [same]
      exact typed
    · exact sized.ports entry ((kerase_sublist _ _).subset old)
  | removeWanPort marker => exact ⟨sized.version,fun entry member => sized.ports entry ((kerase_sublist _ _).subset member)⟩
  | resetIntegration => exact ⟨sized.version,fun entry member => by cases member⟩
  | _ => exact ⟨sized.version,sized.ports⟩

theorem migrateSized {tsAdvertising : Bool} {d e : Document} (migrated : MigrateExitNode tsAdvertising d = some e) (sized : Sized d) :
    Sized e := by
  unfold MigrateExitNode at migrated
  split at migrated
  · contradiction
  split at migrated
  · split at migrated
    · cases migrated
      exact ⟨sized.version,sized.ports⟩
    · contradiction
  · cases migrated
    exact ⟨sized.version,sized.ports⟩

inductive Edit where
  | mutator (c : Mutator)
  | migrateExitNode (tsAdvertising : Bool)
  deriving DecidableEq

def Edit.Typed : Edit → Prop
  | .mutator c => c.Typed
  | .migrateExitNode _ => True

def edit (now : Time) : Edit → Kept → Kept
  | .mutator c,k => (mutate .ok now c k).2
  | .migrateExitNode tsAdvertising,k =>
    match MigrateExitNode tsAdvertising k.memory with
    | none => k
    | some d => (saveLocked .ok {k with memory := {d with updatedAt := now}}).2

def saving (run : List (Time × Edit)) (k : Kept) : Kept := run.foldl (fun k call => edit call.1 call.2 k) k

structure Current (k : Kept) : Prop where
  sized : Sized k.memory
  file : k.file = none ∧ Alike (NewManifest 0) k.memory ∨ k.file = some k.memory

theorem editCurrent {call : Edit} (now : Time) (typed : call.Typed) {k : Kept} (current : Current k) : Current (edit now call k) := by
  cases call with
  | mutator c =>
    have changed := changeSized typed current.sized
    exact ⟨⟨changed.version,changed.ports⟩,.inr rfl⟩
  | migrateExitNode tsAdvertising =>
    cases migrated : MigrateExitNode tsAdvertising k.memory with
    | none =>
      simp only [edit,migrated]
      exact current
    | some d =>
      simp only [edit,migrated]
      have changed := migrateSized migrated current.sized
      exact ⟨⟨changed.version,changed.ports⟩,.inr rfl⟩

theorem savingCurrent {run : List (Time × Edit)} (typed : ∀ call ∈ run, call.2.Typed) {k : Kept} (current : Current k) :
    Current (saving run k) := by
  induction run generalizing k with
  | nil => exact current
  | cons call rest ih =>
    exact ih (fun later member => typed later (mem_cons_of_mem call member)) (editCurrent call.1 (typed call mem_cons_self) current)

theorem savedLoads (cal : Calendar) (created now : Time) {run : List (Time × Edit)} (typed : ∀ call ∈ run, call.2.Typed) :
    ∃ loaded, LoadManifest cal now (fileContent cal (saving run ⟨NewManifest created,none⟩).file) = .ok loaded ∧
      loaded.recovered = false ∧ getters loaded.document = getters (saving run ⟨NewManifest created,none⟩).memory := by
  have fresh : Alike (NewManifest 0) (NewManifest created) := ⟨rfl,rfl,fun _ => rfl,fun _ => rfl,rfl,rfl,fun _ => rfl,rfl,rfl,rfl⟩
  have current := @savingCurrent run typed ⟨NewManifest created,none⟩ ⟨⟨rfl,fun _ member => by cases member⟩,.inl ⟨rfl,fresh⟩⟩
  generalize saving run ⟨NewManifest created,none⟩ = k at current ⊢
  rcases current.file with ⟨missing,alike⟩ | written
  · have same : getters (NewManifest now) = getters (NewManifest 0) := rfl
    rw [missing]
    exact ⟨_,rfl,rfl,same.trans (gettersIff.mpr alike)⟩
  · rw [written]
    exact ⟨_,loadsSized cal now current.sized,rfl,gettersIff.mpr (readBackAlike k.memory)⟩

def tally (t : Time) : String := String.ofList ((if 0 ≤ t then '+' else '-') :: List.replicate t.natAbs '|')

def readTally (s : String) : Option Time :=
  match s.toList with
  | '+' :: rest => some rest.length
  | '-' :: rest => some (-rest.length)
  | _ => none

def tallies : Calendar where
  format := tally
  parse := readTally
  readable t := by
    unfold tally readTally
    rw [String.toList_ofList]
    by_cases positive : 0 ≤ t
    · simp only [if_pos positive,length_replicate,Option.some.injEq]
      exact Int.natAbs_of_nonneg positive
    · have count : (t.natAbs : Int) = -t := Int.ofNat_natAbs_of_nonpos (Int.le_of_lt (Int.not_le.mp positive))
      simp only [if_neg positive,length_replicate,Option.some.injEq,count]
      exact Int.neg_neg t

def busyDay : List (Time × Edit) :=
  [(1,.mutator (.setSiteID "default")),(2,.mutator (.setWanPort "tailscale-wg" "p1" "VPN Pack: Tailscale WireGuard UDP 41641" 41641)),
    (3,.mutator (.setExitNodePolicy ⟨.other "off",[]⟩)),(4,.mutator (.removeWanPort "tailscale-wg")),(5,.migrateExitNode true)]

theorem savedLoadsBusyDay : ∃ loaded, LoadManifest tallies 9 (fileContent tallies (saving busyDay ⟨NewManifest 0,none⟩).file) = .ok loaded ∧
      loaded.recovered = false ∧ getters loaded.document = getters (saving busyDay ⟨NewManifest 0,none⟩).memory := by
  refine savedLoads tallies 0 9 fun call member => ?_
  simp only [busyDay,mem_cons,not_mem_nil,or_false] at member
  rcases member with rfl | rfl | rfl | rfl | rfl
  · trivial
  · exact ⟨by decide,by decide⟩
  · trivial
  · trivial
  · trivial

end VpnPack.State
