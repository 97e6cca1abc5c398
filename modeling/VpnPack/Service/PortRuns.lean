import VpnPack.Firewall.SetOwners
import VpnPack.Service.WanPorts

/-! Runs of the five tunnel operations. Each keeps the WAN ports in step with the tunnel list
but one: DeleteTunnel opens the port again when the tunnel manager refuses, also the one
of a disabled tunnel. -/
namespace VpnPack.Service
open Base Firewall Integration List Ops State Wgs2s

inductive TunnelCall where
  | create (ctx : Context) (wg : WireGuard) (req : CreateRequest)
  | update (ctx : Context) (wg : WireGuard) (id : String) (updates : TunnelConfig)
  | enable (ctx : Context) (wg : WireGuard) (id : String)
  | disable (wg : WireGuard) (id : String)
  | delete (ctx : Context) (wg : WireGuard) (id : String)

def tunnelCall (host : Host) : TunnelCall → System → System
  | .create ctx wg req,s => (CreateTunnel host ctx wg req s).2
  | .update ctx wg id updates,s => (UpdateTunnel host ctx wg id updates s).2
  | .enable ctx wg id,s => (EnableTunnel host ctx wg id s).2
  | .disable wg id,s => (DisableTunnel host wg id s).2
  | .delete ctx wg id,s => (DeleteTunnel host ctx wg id s).2

def TunnelCall.Atomic : TunnelCall → System → Prop
  | .create _ wg req,s => failing (wg.create req.config req.privateKey s.wg).1 →
      (wg.create req.config req.privateKey s.wg).2.config = s.tunnels
  | .update _ wg id updates,s => failing (wg.update id updates s.wg).1 → (wg.update id updates s.wg).2.config = s.tunnels
  | .enable _ wg id,s => failed (wg.enable id s.wg).1 → (wg.enable id s.wg).2.config = s.tunnels
  | .disable wg id,s => failed (wg.disable id s.wg).1 → (wg.disable id s.wg).2.config = s.tunnels
  | .delete _ wg id,s => failed (wg.delete id s.wg).1 → (wg.delete id s.wg).2.config = s.tunnels

def StaysCancelled (ctx : Context) : Prop := ∀ n m, n ≤ m → ctx n ≠ none → ctx m ≠ none

def TunnelCall.Contexts : TunnelCall → Prop
  | .delete ctx _ _ => StaysCancelled ctx
  | _ => True

structure Smooth (host : Host) (a : TunnelCall) (s : System) : Prop where
  quiet : (tunnelCall host a s).warned = s.warned
  atomic : a.Atomic s
  contexts : a.Contexts

def Reopens : TunnelCall → System → Prop
  | .delete ctx wg id,s => ∃ t, findTunnelByID id s = some t ∧ t.enabled = false ∧ ctx 0 = none ∧
      (wg.delete id s.wg).1 ≠ none
  | _,_ => False

structure PortInv (s : System) : Prop where
  follow : PortsFollow s
  texts : PortTexts s
  names : (s.tunnels.map TunnelConfig.interfaceName).Nodup
  positive : ∀ t ∈ s.tunnels, 0 < t.listenPort

section
variable {host : Host} {ctx : Context} {wg : WireGuard} {id : String} {s t u : System}

variable {idx : Nat} {cfg other : TunnelConfig} {w : Wgs2s.State}

theorem invSameList (inv : PortInv s) (same : w.config = s.tunnels) : PortInv {s with wg := w} := by
  have list : ({s with wg := w} : System).tunnels = s.tunnels := same
  refine ⟨?_,inv.texts,list ▸ inv.names,list ▸ inv.positive⟩
  rw [PortsFollow,list]
  exact inv.follow

theorem setNames {tunnels : List TunnelConfig} (here : tunnels[idx]? = some cfg)
    (named : other.interfaceName = cfg.interfaceName) :
    (tunnels.set idx other).map TunnelConfig.interfaceName = tunnels.map TunnelConfig.interfaceName := by
  obtain ⟨before,rest,shape,replaced,_⟩ := splitHere here other
  rw [replaced,shape]
  simp [named]

theorem invSet (inv : PortInv s) (here : s.tunnels[idx]? = some cfg)
    (named : other.interfaceName = cfg.interfaceName) (positive : 0 < other.listenPort)
    (list : t.tunnels = s.tunnels.set idx other) (texts : PortTexts t)
    (table : portTable t = Function.update (portTable s) cfg.interfaceName (wantedPort other)) : PortInv t := by
  refine ⟨?_,texts,?_,fun x member => ?_⟩
  · rw [PortsFollow,list,table]
    exact followedSet inv.follow inv.names here named
  · rw [list,setNames here named]
    exact inv.names
  · rw [list] at member
    rcases mem_or_eq_of_mem_set member with old | rfl
    · exact inv.positive x old
    · exact positive

theorem invStopped {α : Type} {refusal : α → Prop} {called : α × Wgs2s.State} (inv : PortInv s) (stopped : Stopped s refusal called t)
    (atomic : refusal called.1 → called.2.config = s.tunnels) : PortInv t := by
  cases stopped with
  | early => exact inv
  | refused failed => exact invSameList inv (atomic failed)

theorem createFollows {req : CreateRequest} (inv : PortInv s) (smooth : Smooth host (.create ctx wg req) s) :
    PortInv (CreateTunnel host ctx wg req s).2 := by
  have quiet : (CreateTunnel host ctx wg req s).2.warned = s.warned := smooth.quiet
  rcases @createSource host ctx wg s req with stopped | ⟨accepted,tunnel,w,t,ran,aside,final⟩
  · exact invStopped inv stopped smooth.atomic
  rw [final] at quiet ⊢
  obtain ⟨⟨env,shape⟩,grown⟩ := wg.created ran
  have on : tunnel.enabled = true := by rw [shape]; rfl
  have port : 0 < tunnel.listenPort := by rw [shape]; exact createPort accepted
  have unused : tunnel.interfaceName ∉ s.tunnels.map TunnelConfig.interfaceName := by
    rw [shape]
    exact nextInterfaceNameUnused s.tunnels
  have installed := installWg host ctx tunnel t
  have list : (installTunnelFirewall host ctx tunnel t).2.tunnels = s.tunnels ++ [tunnel] := by
    rw [System.tunnels,installed.1,aside.wg]
    exact grown
  obtain ⟨table,kept⟩ := asideTable aside
  obtain ⟨texts,after⟩ := installTable (kept inv.texts) (quietBetween aside.log installed.2 quiet).2
  have absent : portTable t tunnel.interfaceName = none := by
    rw [table]
    exact inv.follow.strays _ unused
  have wanted : wantedPort tunnel = some tunnel.listenPort := if_pos on
  refine ⟨?_,texts,?_,fun x member => ?_⟩
  · rw [PortsFollow,list,after,absent,Option.getD_none,table,← wanted]
    exact followedAppend inv.follow unused
  · rw [list,map_append,map_singleton,nodup_append]
    refine ⟨inv.names,nodup_singleton _,fun a inside b only same => unused ?_⟩
    rw [← mem_singleton.mp only,← same]
    exact inside
  · rw [list] at member
    rcases mem_append.mp member with old | new
    · exact inv.positive x old
    · cases mem_singleton.mp new
      exact port

theorem updateFollows {updates : TunnelConfig} (inv : PortInv s) (smooth : Smooth host (.update ctx wg id updates) s) :
    PortInv (UpdateTunnel host ctx wg id updates s).2 := by
  have quiet : (UpdateTunnel host ctx wg id updates s).2.warned = s.warned := smooth.quiet
  rcases @updateSource host ctx wg id s updates with stopped | ⟨accepted,old,w,t,found,ran,aside,final⟩
  · exact invStopped inv stopped smooth.atomic
  rw [final] at quiet ⊢
  obtain ⟨idx,place,here,member⟩ := foundTunnel found
  obtain ⟨idx',old',place',_,list⟩ := wg.updated ran
  cases Option.some.inj (place.symm.trans place')
  have positive : 0 < (applyUpdates old updates).listenPort := by
    have bound := updatePort accepted
    have before := inv.positive old member
    simp only [applyUpdates,orElseInt]
    split <;> omega
  obtain ⟨same,kept⟩ := asideTable aside
  have table : portTable t = portTable s := same
  have own : portTable s old.interfaceName = wantedPort old := inv.follow.own old member
  unfold refreshWanPort at quiet ⊢
  split
  · rename_i moved
    rw [if_pos moved] at quiet
    have closed := closeWg host old.listenPort (applyUpdates old updates).interfaceName t
    have opened := openWg host (applyUpdates old updates).listenPort (applyUpdates old updates).interfaceName
      (closeWanPort host old.listenPort (applyUpdates old updates).interfaceName t)
    obtain ⟨asideQuiet,restQuiet⟩ := quietBetween aside.log (closed.2.trans opened.2) quiet
    obtain ⟨closeQuiet,openQuiet⟩ := quietBetween closed.2 opened.2 restQuiet
    obtain ⟨closedTexts,closedTable⟩ := closeTable (kept inv.texts) (inv.positive old member) closeQuiet
    obtain ⟨texts,after⟩ := openTable closedTexts openQuiet
    refine invSet inv here (applyUpdatesInterface old updates) positive ?_ texts ?_
    · rw [System.tunnels,opened.1,closed.1,aside.wg]
      exact list
    · rw [after,closedTable,table,applyUpdatesInterface,Function.update_self,Option.getD_none,Function.update_idem,wantedPort,
        if_pos moved.1]
  · rename_i stays
    refine invSet inv here (applyUpdatesInterface old updates) positive ?_ (kept inv.texts) ?_
    · rw [System.tunnels,aside.wg]
      exact list
    · have wanted : wantedPort (applyUpdates old updates) = portTable s old.interfaceName := by
        rw [own,wantedPort,wantedPort,applyUpdatesEnabled]
        split
        · rename_i on
          have equal : old.listenPort = (applyUpdates old updates).listenPort := by
            by_contra differs
            exact stays ⟨on,differs⟩
          rw [equal]
        · rfl
      rw [table,wanted,Function.update_eq_self]

theorem enableFollows (inv : PortInv s) (smooth : Smooth host (.enable ctx wg id) s) : PortInv (EnableTunnel host ctx wg id s).2 := by
  have quiet : (EnableTunnel host ctx wg id s).2.warned = s.warned := smooth.quiet
  rcases @enableSource host ctx wg id s with stopped | ⟨w,tunnel,ran,found,final⟩
  · exact invStopped inv stopped smooth.atomic
  rw [final] at quiet ⊢
  obtain ⟨idx,cfg,place,list⟩ := wg.enabled ran
  have again := findSet place (show ({cfg with enabled := true} : TunnelConfig).id = cfg.id from rfl)
  rw [list,again] at found
  cases found
  have here := (findTunnelSource place).1
  have member : cfg ∈ s.tunnels := mem_of_getElem? here
  have own : portTable s cfg.interfaceName = wantedPort cfg := inv.follow.own cfg member
  obtain ⟨texts,after⟩ := installTable (s := {s with wg := w}) inv.texts quiet
  refine invSet inv here (show ({cfg with enabled := true} : TunnelConfig).interfaceName = cfg.interfaceName from rfl)
    (inv.positive cfg member) ?_ texts (after.trans ?_)
  · rw [System.tunnels,(installWg host ctx _ _).1]
    exact list
  · change Function.update (portTable s) cfg.interfaceName (some ((portTable s cfg.interfaceName).getD cfg.listenPort)) = _
    rw [own,wantedPort]
    split <;> rfl

theorem disableFollows (inv : PortInv s) (smooth : Smooth host (.disable wg id) s) : PortInv (DisableTunnel host wg id s).2 := by
  have quiet : (DisableTunnel host wg id s).2.warned = s.warned := smooth.quiet
  rcases @disableSource host wg id s with stopped | ⟨w,t,found,ran,final⟩
  · exact invStopped inv stopped smooth.atomic
  rw [final] at quiet ⊢
  obtain ⟨idx,place,here,member⟩ := foundTunnel found
  obtain ⟨idx',t',place',list⟩ := wg.disabled ran
  cases Option.some.inj (place.symm.trans place')
  obtain ⟨texts,after⟩ := teardownTable (s := {s with wg := w}) inv.texts (inv.positive t member) quiet
  refine invSet inv here (show ({t with enabled := false} : TunnelConfig).interfaceName = t.interfaceName from rfl)
    (inv.positive t member) ?_ texts after
  rw [System.tunnels,(teardownWg host t _).1]
  exact list

theorem tornDownTable (texts : PortTexts s) (positive : 0 < cfg.listenPort)
    (quiet : (tornDown host cfg id s).warned = s.warned) :
    PortTexts (tornDown host cfg id s) ∧ portTable (tornDown host cfg id s) = Function.update (portTable s) cfg.interfaceName none := by
  have zone := teardownZoneAside host id (teardownTunnelFirewall host cfg s)
  obtain ⟨table,kept⟩ := asideTable zone
  obtain ⟨texts',after⟩ := teardownTable texts positive (quietBetween (teardownWg host cfg s).2 zone.log quiet).1
  exact ⟨kept texts',table.trans after⟩

theorem cancelledLogs {n : Nat} {e : GoError} (stays : StaysCancelled ctx) (inside : n ≤ 6) (gone : ctx n = some e)
    (log : s.warned <+: u.warned) : (installTunnelFirewall host (laterContext ctx) cfg u).2.warned ≠ s.warned := by
  intro quiet
  have installed := installWg host (laterContext ctx) cfg u
  have setup := setupQuiet (quietBetween log installed.2 quiet).2
  have later : ctx 6 ≠ none := stays n 6 inside (by simp [gone])
  obtain ⟨e,cancelled⟩ := Option.ne_none_iff_exists'.mp later
  have stopped : (SetupFirewall host (laterContext ctx) cfg.id cfg.interfaceName cfg.cidrs u).1 ≠ none := by
    simp [SetupFirewall,onFw,SetupWgS2sFirewall,setupSteps,run,runFrom,laterContext,cancelled,rollback]
  exact stopped setup

theorem refusedTable (inv : PortInv s) (member : cfg ∈ s.tunnels)
    (quiet : (installTunnelFirewall host (laterContext ctx) cfg {tornDown host cfg id s with wg := w}).2.warned = s.warned) :
    PortTexts (installTunnelFirewall host (laterContext ctx) cfg {tornDown host cfg id s with wg := w}).2 ∧
      portTable (installTunnelFirewall host (laterContext ctx) cfg {tornDown host cfg id s with wg := w}).2 =
        Function.update (portTable s) cfg.interfaceName (some cfg.listenPort) := by
  have down := (tornDownWg host cfg id s).2
  have installed := (installWg host (laterContext ctx) cfg {tornDown host cfg id s with wg := w}).2
  obtain ⟨downQuiet,upQuiet⟩ := quietBetween down installed quiet
  obtain ⟨texts,table⟩ := tornDownTable inv.texts (inv.positive cfg member) downQuiet
  have after := installTable (s := {tornDown host cfg id s with wg := w}) texts upQuiet
  have same : portTable {tornDown host cfg id s with wg := w} = Function.update (portTable s) cfg.interfaceName none := table
  refine ⟨after.1,after.2.trans ?_⟩
  rw [same,Function.update_self,Option.getD_none,Function.update_idem]

theorem deleteFollows (inv : PortInv s) (smooth : Smooth host (.delete ctx wg id) s) :
    (PortsFollow (DeleteTunnel host ctx wg id s).2 ↔ ¬ Reopens (.delete ctx wg id) s) ∧
      (¬ Reopens (.delete ctx wg id) s → PortInv (DeleteTunnel host ctx wg id s).2) := by
  have quiet : (DeleteTunnel host ctx wg id s).2.warned = s.warned := smooth.quiet
  have kept {p : Prop} (fine : PortInv (DeleteTunnel host ctx wg id s).2) (holds : p) :
      (PortsFollow (DeleteTunnel host ctx wg id s).2 ↔ p) ∧ (p → PortInv (DeleteTunnel host ctx wg id s).2) :=
    ⟨iff_of_true fine.follow holds,fun _ => fine⟩
  cases found : findTunnelByID id s with
  | none =>
    have same : (DeleteTunnel host ctx wg id s).2 = s := by simp only [DeleteTunnel,found]
    exact kept (by rw [same]; exact inv) (by rintro ⟨t,here,_⟩; rw [found] at here; contradiction)
  | some cfg =>
    obtain ⟨idx,place,here,member⟩ := foundTunnel found
    have own : portTable s cfg.interfaceName = wantedPort cfg := inv.follow.own cfg member
    have ends := deleteEnds host ctx wg cfg id s
    rw [deleteSame host ctx wg cfg id s found] at quiet kept ⊢
    generalize run ctx (deleteSteps host ctx wg cfg id) s = r at ends quiet kept ⊢
    cases ends with
    | untouched gone => exact kept inv (by rintro ⟨_,_,_,live,_⟩; rw [gone] at live; contradiction)
    | cancelled inside gone log => exact absurd quiet (cancelledLogs smooth.contexts (by omega) gone log)
    | done live deleted =>
      refine kept ?_ (by rintro ⟨_,_,_,_,failed⟩; exact failed deleted)
      obtain ⟨idx',cfg',place',list⟩ := wg.deleted (Prod.ext deleted rfl)
      cases Option.some.inj (place.symm.trans place')
      obtain ⟨texts,table⟩ := tornDownTable inv.texts (inv.positive cfg member) quiet
      have tunnels : ({tornDown host cfg id s with wg := (wg.delete id s.wg).2} : System).tunnels = s.tunnels.eraseIdx idx := list
      refine ⟨?_,texts,?_,fun x inside => ?_⟩
      · rw [PortsFollow,tunnels]
        exact table ▸ followedErase inv.follow inv.names here
      · rw [tunnels]
        exact inv.names.sublist ((eraseIdx_sublist s.tunnels idx).map _)
      · rw [tunnels] at inside
        exact inv.positive x (mem_of_mem_eraseIdx inside)
    | refused live failed =>
      obtain ⟨texts,table⟩ := refusedTable inv member quiet
      have list : (installTunnelFirewall host (laterContext ctx) cfg
          {tornDown host cfg id s with wg := (wg.delete id s.wg).2}).2.tunnels = s.tunnels := by
        rw [System.tunnels,(installWg host (laterContext ctx) cfg _).1]
        exact smooth.atomic (by simp [Service.failed,failed])
      cases on : cfg.enabled with
      | true =>
        refine kept ⟨?_,texts,list ▸ inv.names,list ▸ inv.positive⟩ ?_
        · have wanted : some cfg.listenPort = portTable s cfg.interfaceName := by rw [own,wantedPort,if_pos on]
          rw [PortsFollow,list,table,wanted,Function.update_eq_self]
          exact inv.follow
        · rintro ⟨t,here',off,_⟩
          cases Option.some.inj (found.symm.trans here')
          rw [on] at off
          contradiction
      | false =>
        have reopens : Reopens (.delete ctx wg id) s := ⟨cfg,found,on,live 0 (by omega),by simp [failed]⟩
        refine ⟨iff_of_false (fun follow => ?_) (not_not.mpr reopens),fun never => absurd reopens never⟩
        have closed := follow.own cfg (list ▸ member)
        rw [table,Function.update_self,wantedPort,on] at closed
        contradiction

theorem callFollows (a : TunnelCall) (inv : PortInv s) (smooth : Smooth host a s) :
    (PortsFollow (tunnelCall host a s) ↔ ¬ Reopens a s) ∧ (¬ Reopens a s → PortInv (tunnelCall host a s)) := by
  have kept {t : System} (fine : PortInv t) : (PortsFollow t ↔ ¬ False) ∧ (¬ False → PortInv t) :=
    ⟨iff_of_true fine.follow not_false,fun _ => fine⟩
  cases a with
  | create ctx wg req => exact kept (createFollows inv smooth)
  | update ctx wg id updates => exact kept (updateFollows inv smooth)
  | enable ctx wg id => exact kept (enableFollows inv smooth)
  | disable wg id => exact kept (disableFollows inv smooth)
  | delete ctx wg id => exact deleteFollows inv smooth

end

theorem portsFollowRuns {host : Host} {run : List TunnelCall} {start : System} (empty : start.tunnels = [])
    (closed : ∀ iface, portEntry start iface = none) (smooth : Along (tunnelCall host) (Smooth host) run start) :
    Along (tunnelCall host) (fun a s => PortsFollow (tunnelCall host a s)) run start ↔
      Along (tunnelCall host) (fun a s => ¬ Reopens a s) run start := by
  have initial : PortInv start := by
    refine ⟨⟨fun t member => ?_,fun iface _ => ?_⟩,fun iface e found => ?_,?_,fun t member => ?_⟩
    · rw [empty] at member
      contradiction
    · rw [portTable,closed iface]
      rfl
    · rw [closed iface] at found
      contradiction
    · rw [empty]
      exact nodup_nil
    · rw [empty] at member
      contradiction
  have both := @alongIff _ _ (tunnelCall host) (fun a s => Smooth host a s ∧ PortsFollow (tunnelCall host a s))
    (fun a s => Smooth host a s ∧ ¬ Reopens a s) run start PortInv
    (fun a _ s inv => and_congr_right (fun step => (callFollows a inv step).1))
    (fun a _ s inv allowed => (callFollows a inv allowed.1).2 allowed.2) initial
  rw [alongAnd,alongAnd,and_iff_right smooth,and_iff_right smooth] at both
  exact both

def quietHost : Host := ⟨quietEnv,slow,answering,fun _ _ => .ok ⟨[],[],[],0⟩⟩

def vacantSystem : System :=
  ⟨vacant,⟨bareManifest,0⟩,⟨fun _ => [],1,AList.singleton "VPN_subnets" [],0⟩,0,freshWan.client,freshOrch.api,0,[],[]⟩

def branchRequest : CreateRequest :=
  ⟨{branchTunnel with peerPublicKey := "AAAAAAAAAAAAAAAAAAAAAAAAAAAAAAAAAAAAAAAAAAA="},"","","",false⟩

def createBranch : TunnelCall := .create background (manager obliging) branchRequest
def disableBranch : TunnelCall := .disable (manager obliging) "00000000"
def disabledSystem : System := tunnelCall quietHost disableBranch (tunnelCall quietHost createBranch vacantSystem)
def lifeOf (last : WireGuard) : List TunnelCall := [createBranch,disableBranch,.delete background last "00000000"]

theorem lifeSmooth {last : WireGuard} (smooth : Smooth quietHost (.delete background last "00000000") disabledSystem) :
    Along (tunnelCall quietHost) (Smooth quietHost) (lifeOf last) vacantSystem := by
  refine ⟨⟨by decide +kernel,fun refused => ?_,trivial⟩,⟨by decide +kernel,fun refused => ?_,trivial⟩,smooth,trivial⟩
  · have created : ((manager obliging).create branchRequest.config branchRequest.privateKey vacantSystem.wg).1.toOption.isSome = true := by
      decide +kernel
    cases shape : ((manager obliging).create branchRequest.config branchRequest.privateKey vacantSystem.wg).1 with
    | error e =>
      rw [shape] at created
      contradiction
    | ok tunnel => exact absurd shape (refused tunnel)
  · exact absurd (by decide +kernel) refused

theorem portsFollowRunsLife :
    Along (tunnelCall quietHost) (fun a s => PortsFollow (tunnelCall quietHost a s)) (lifeOf (manager obliging)) vacantSystem := by
  have deleted : ((manager obliging).delete "00000000" disabledSystem.wg).1 = none := by decide +kernel
  have smooth : Smooth quietHost (.delete background (manager obliging) "00000000") disabledSystem :=
    ⟨by decide +kernel,fun refused => absurd deleted refused,fun _ _ _ gone => absurd rfl gone⟩
  have keeps : ¬ Reopens (.delete background (manager obliging) "00000000") disabledSystem := by
    rintro ⟨_,_,_,_,refused⟩
    exact refused deleted
  exact (portsFollowRuns rfl (fun _ => rfl) (lifeSmooth smooth)).mpr ⟨not_false,not_false,keeps,trivial⟩

def busyManager : WireGuard := declining (.new "device or resource busy")
def reopenedSystem : System := tunnelCall quietHost (.delete background busyManager "00000000") disabledSystem

theorem refusedDeleteOpensPort : Along (tunnelCall quietHost) (Smooth quietHost) (lifeOf busyManager) vacantSystem ∧
      reopenedSystem = (lifeOf busyManager).foldl (fun s a => tunnelCall quietHost a s) vacantSystem ∧
      reopenedSystem.tunnels.map (fun t => (t.interfaceName,t.enabled)) = [("wg-s2s0",false)] ∧
      portTable reopenedSystem "wg-s2s0" = some 51820 ∧ ¬ PortsFollow reopenedSystem := by
  have list : reopenedSystem.tunnels.map (fun t => (t.interfaceName,t.enabled)) = [("wg-s2s0",false)] := by decide +kernel
  have stray : portTable reopenedSystem "wg-s2s0" = some 51820 := by decide +kernel
  have smooth : Smooth quietHost (.delete background busyManager "00000000") disabledSystem := by
    refine ⟨by decide +kernel,fun _ => ?_,fun _ _ _ gone => absurd rfl gone⟩
    simp only [busyManager,declining,failRun,System.tunnels]
  refine ⟨lifeSmooth smooth,rfl,list,stray,fun follow => ?_⟩
  obtain ⟨t,member,shape⟩ := mem_map.mp (list ▸ mem_singleton_self ("wg-s2s0",false))
  obtain ⟨named,off⟩ := Prod.mk.inj shape
  have closed := follow.own t member
  rw [named,stray,wantedPort,off] at closed
  simp at closed

end VpnPack.Service
