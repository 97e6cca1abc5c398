import VpnPack.Firewall.ZoneUse
import VpnPack.Service.Tunnels

/-! What the calls of WgS2sService leave alone: the tunnel list belongs to the tunnel
manager and the WAN ports to the two calls that open and close them. DeleteTunnel is
described by the ways in which its saga can end. -/
namespace VpnPack.Service
open Base Firewall Integration List Ops State Wgs2s

def System.ports (s : System) : Dict WanPortEntry := s.manifest.wanPorts

structure Aside (s t : System) : Prop where
  wg : t.wg = s.wg
  ports : t.ports = s.ports
  log : s.warned <+: t.warned

theorem asideTrans {s t u : System} (first : Aside s t) (second : Aside t u) : Aside s u :=
  ⟨second.wg.trans first.wg,second.ports.trans first.ports,first.log.trans second.log⟩

theorem notingLog (r : Option GoError × System) : r.2.warned <+: (noting r).warned := by
  unfold noting
  split
  · exact prefix_rfl
  · exact prefix_append _ _

theorem notingQuiet {r : Option GoError × System} (quiet : (noting r).warned = r.2.warned) : r.1 = none ∧ noting r = r.2 := by
  unfold noting at quiet ⊢
  split
  · rename_i done
    exact ⟨done,rfl⟩
  · rename_i e failed
    rw [failed] at quiet
    simp at quiet

theorem notingAside {s : System} {r : Option GoError × System} (aside : Aside s r.2) : Aside s (noting r) := by
  refine asideTrans aside ?_
  have log := notingLog r
  unfold noting at log ⊢
  split
  · exact ⟨rfl,rfl,prefix_rfl⟩
  · exact ⟨rfl,rfl,prefix_append _ _⟩

theorem quietBetween {a b c : List String} (first : a <+: b) (second : b <+: c) (quiet : c = a) : b = a ∧ c = b := by
  subst quiet
  have same : b = c := second.eq_of_length (Nat.le_antisymm second.length_le first.length_le)
  exact ⟨same,same.symm⟩

section
variable {env : FwEnv} {ctx : Context} {tunnelID iface : String} {allowedIPs : List String}

variable (f : Fw) (b : Backend) (disk : Disk)

theorem updatePorts (change : Manifest → Manifest) (same : ∀ m, (change m).wanPorts = m.wanPorts) (s : Store) :
    (update disk change s).2.manifest.wanPorts = s.manifest.wanPorts := by
  rcases updateManifest disk change s with changed | kept
  · rw [changed,same]
  · rw [kept]

theorem prefixPorts (env : FwEnv) (tunnelID : String) (f : Fw) :
    (currentChainPrefix env tunnelID f).2.manifest.wanPorts = f.manifest.wanPorts := by
  unfold currentChainPrefix rediscoverAndSaveWgS2s
  repeat' split
  all_goals try rfl
  exact updatePorts env.disk (Manifest.setWgS2sZone tunnelID _) (fun _ => rfl) f.store

theorem onUdapiStore (p : Proc Udapi.Config) : Keeps Fw.store (onUdapi p) := fun _ => rfl

theorem removeSubnetsStore (env : FwEnv) (ipsetName : String) (cidrs : List String) : Keeps Fw.store (removeSubnets env ipsetName cidrs) :=
  keepsForEach (fun _ _ => keepsIgnoring (onUdapiStore _))

theorem setupStepsStore (filtered : List String) (chainPrefix : String) :
    Keeps Fw.store (run ctx (setupSteps env iface chainPrefix filtered)) := by
  refine @runAdvances Fw (fun f g => g.store = f.store) (fun _ => rfl) (fun _ _ _ first second => second.trans first) _ _ ?_ ?_
  · intro op member
    simp only [setupSteps,mem_cons] at member
    rcases member with rfl | member
    · exact onUdapiStore _
    · split at member
      · cases mem_singleton.mp member
        exact onUdapiStore _
      · contradiction
  · intro op member
    simp only [setupSteps,mem_cons] at member
    rcases member with rfl | member
    · exact onUdapiStore _
    · split at member
      · cases mem_singleton.mp member
        exact removeSubnetsStore _ _ _
      · contradiction

theorem setupStore : (SetupWgS2sFirewall env ctx tunnelID iface allowedIPs f).2.store = (currentChainPrefix env tunnelID f).2.store :=
  setupStepsStore _ _ _

theorem removeFirewallStore : (RemoveWgS2sFirewall env tunnelID iface allowedIPs f).2.store = f.store := by
  refine keepsSeq (keepsIgnoring (onUdapiStore _)) (fun g => ?_) f
  unfold RemoveWgS2sIPSetEntries
  split
  · rfl
  · exact removeSubnetsStore _ _ _ _

theorem endedPorts {b : Backend} {disk : Disk} {name policyName : String} {s t : Orch} {o : Outcome}
    (ended : Ended b disk none name policyName (Manifest.setWgS2sZone tunnelID) s o t) : t.manifest.wanPorts = s.manifest.wanPorts := by
  have entered {entry : ZoneManifest} {u v : Orch} {r : Option GoError} (kept : u.store = s.store)
      (ran : recording disk (Manifest.setWgS2sZone tunnelID entry) u = (r,v)) : v.manifest.wanPorts = s.manifest.wanPorts := by
    have final : (update disk (Manifest.setWgS2sZone tunnelID entry) u.store).2 = v.store := congrArg (fun r => r.2.store) ran
    rw [Orch.manifest,← final,updatePorts disk (Manifest.setWgS2sZone tunnelID entry) (fun _ => rfl),kept]
    rfl
  cases ended with
  | zoneFailed reply => rfl
  | cancelled reply ctx => contradiction
  | policiesFailed reply ctx failed =>
    rw [Orch.manifest,(rollbackSource b _ [] _).1,(policiesFailedSource failed).1.store]
    rfl
  | saveFailed reply ctx made stopped =>
    rw [Orch.manifest,(rollbackSource b _ _ _).1]
    exact entered (policiesMadeSource made).1.store stopped
  | recorded reply ctx made saved => exact entered (policiesMadeSource made).1.store saved

theorem setupZonePorts (tunnelID zoneID zoneName : String) (s : Orch) :
    (SetupWgS2sZone b disk tunnelID zoneID zoneName s).2.manifest.wanPorts = s.manifest.wanPorts := by
  by_cases named : zoneID = ""
  · subst named
    cases ready : requireIntegration b s with
    | false => rw [SetupWgS2sZone,if_pos ready]
    | true =>
      obtain ⟨o,ended⟩ := @wgS2sZoneSource b disk s tunnelID zoneName ready
      exact endedPorts ended
  · rcases @joinZoneSource b disk s zoneID tunnelID zoneName named with same | ⟨_,zm,_,same⟩
    · rw [same]
    · rw [same]
      exact updatePorts disk (Manifest.setWgS2sZone tunnelID zm) (fun _ => rfl) s.store

theorem teardownZonePorts (tunnelID : String) (s : Orch) :
    (TeardownWgS2sZone b disk tunnelID s).manifest.wanPorts = s.manifest.wanPorts := by
  have erased : (forgotten disk tunnelID s).manifest.wanPorts = s.manifest.wanPorts :=
    updatePorts disk (Manifest.removeWgS2sTunnel tunnelID) (fun _ => rfl) s.store
  have torn := @teardownSource b disk s tunnelID
  generalize TeardownWgS2sZone b disk tunnelID s = t at torn ⊢
  cases torn with
  | absent missing => rfl
  | blank _ _ | shared _ _ _ | off _ => exact erased
  | deleted found named ready alone =>
    rw [Orch.manifest,(rollbackSource b _ _ _).1]
    exact erased

end
section
variable (host : Host)

theorem setupFirewallAside (ctx : Context) (tunnelID iface : String) (allowedIPs : List String) (s : System) :
    Aside s (SetupFirewall host ctx tunnelID iface allowedIPs s).2 := by
  refine ⟨rfl,?_,prefix_rfl⟩
  change (SetupWgS2sFirewall host.fw ctx tunnelID iface allowedIPs s.fw).2.store.manifest.wanPorts = _
  rw [setupStore]
  exact prefixPorts host.fw tunnelID s.fw

theorem removeFirewallAside (tunnelID iface : String) (allowedIPs : List String) (s : System) :
    Aside s (RemoveFirewall host tunnelID iface allowedIPs s) := by
  refine ⟨rfl,?_,prefix_rfl⟩
  change (RemoveWgS2sFirewall host.fw tunnelID iface allowedIPs s.fw).2.store.manifest.wanPorts = _
  rw [removeFirewallStore]
  rfl

theorem removeEntriesAside (tunnelID : String) (cidrs : List String) (s : System) : Aside s (RemoveIPSetEntries host tunnelID cidrs s) := by
  refine ⟨rfl,?_,prefix_rfl⟩
  have kept : (RemoveWgS2sIPSetEntries host.fw tunnelID cidrs s.fw).2.store = s.fw.store := by
    unfold RemoveWgS2sIPSetEntries
    split
    · rfl
    · exact removeSubnetsStore _ _ _ _
  change (RemoveWgS2sIPSetEntries host.fw tunnelID cidrs s.fw).2.store.manifest.wanPorts = _
  rw [kept]
  rfl

theorem teardownZoneAside (tunnelID : String) (s : System) : Aside s (TeardownZone host tunnelID s) :=
  ⟨rfl,teardownZonePorts host.backend host.fw.disk tunnelID s.orch,prefix_rfl⟩

theorem setupZoneAside (tunnelID zoneID zoneName : String) (s : System) : Aside s (SetupZone host tunnelID zoneID zoneName s).2 :=
  ⟨rfl,setupZonePorts host.backend host.fw.disk tunnelID zoneID zoneName s.orch,prefix_rfl⟩

theorem setupTunnelZoneAside (tunnelID : String) (createZone : Bool) (zoneID zoneName : String) (s : System) :
    Aside s (setupTunnelZone host tunnelID createZone zoneID zoneName s).2 := by
  unfold setupTunnelZone
  repeat' split
  all_goals first | exact setupZoneAside _ _ _ _ _ | exact ⟨rfl,rfl,prefix_rfl⟩

theorem openWg (port : Int) (iface : String) (s : System) :
    (openWanPort host port iface s).wg = s.wg ∧ s.warned <+: (openWanPort host port iface s).warned := by
  unfold openWanPort noting
  split
  · exact ⟨rfl,prefix_rfl⟩
  · exact ⟨rfl,prefix_append _ _⟩

theorem closeWg (port : Int) (iface : String) (s : System) :
    (closeWanPort host port iface s).wg = s.wg ∧ s.warned <+: (closeWanPort host port iface s).warned := by
  unfold closeWanPort noting
  split
  · exact ⟨rfl,prefix_rfl⟩
  · split
    · exact ⟨rfl,prefix_rfl⟩
    · exact ⟨rfl,prefix_append _ _⟩

theorem teardownWg (t : TunnelConfig) (s : System) :
    (teardownTunnelFirewall host t s).wg = s.wg ∧ s.warned <+: (teardownTunnelFirewall host t s).warned :=
  closeWg host _ _ _

theorem installWg (ctx : Context) (t : TunnelConfig) (s : System) :
    (installTunnelFirewall host ctx t s).2.wg = s.wg ∧ s.warned <+: (installTunnelFirewall host ctx t s).2.warned := by
  have rules := notingAside (setupFirewallAside host ctx t.id t.interfaceName t.cidrs s)
  have opened := openWg host t.listenPort t.interfaceName (noting (SetupFirewall host ctx t.id t.interfaceName t.cidrs s))
  exact ⟨opened.1.trans rules.wg,rules.log.trans opened.2⟩

end
section
variable {host : Host} {ctx : Context} {wg : WireGuard} {id : String} {s : System}

theorem foundTunnel {cfg : TunnelConfig} (found : findTunnelByID id s = some cfg) :
    ∃ idx, findTunnel id s.tunnels = some (idx,cfg) ∧ s.tunnels[idx]? = some cfg ∧ cfg ∈ s.tunnels := by
  obtain ⟨⟨idx,cfg'⟩,place,rfl⟩ := Option.map_eq_some_iff.mp found
  have here := (findTunnelSource place).1
  exact ⟨idx,place,here,mem_of_getElem? here⟩

inductive Stopped {α : Type} (s : System) (refusal : α → Prop) (called : α × Wgs2s.State) : System → Prop where
  | early : Stopped s refusal called s
  | refused (failed : refusal called.1) : Stopped s refusal called {s with wg := called.2}

def failed (r : Option GoError) : Prop := r ≠ none
def failing (r : Except GoError TunnelConfig) : Prop := ∀ tunnel, r ≠ .ok tunnel

theorem createSource (req : CreateRequest) :
    Stopped s failing (wg.create req.config req.privateKey s.wg) (CreateTunnel host ctx wg req s).2 ∨
      validateCreateRequest req = none ∧ ∃ tunnel w t, wg.create req.config req.privateKey s.wg = (.ok tunnel,w) ∧
        Aside {s with wg := w} t ∧ (CreateTunnel host ctx wg req s).2 = (installTunnelFirewall host ctx tunnel t).2 := by
  simp only [CreateTunnel]
  split
  · exact .inl .early
  rename_i accepted
  split
  · exact .inl .early
  rcases ran : wg.create req.config req.privateKey s.wg with ⟨r,w⟩
  cases r with
  | error e => exact .inl (@Stopped.refused _ s failing (.error e,w) (fun _ => by simp))
  | ok tunnel => exact .inr ⟨accepted,tunnel,w,_,rfl,setupTunnelZoneAside _ _ _ _ _ _,rfl⟩

theorem refreshFirewallAside (host : Host) (ctx : Context) (id : String) (existing : Option TunnelConfig) (updates tunnel : TunnelConfig)
    (s : System) : Aside s (refreshFirewall host ctx id existing updates tunnel s).2 := by
  unfold refreshFirewall
  split
  · exact ⟨rfl,rfl,prefix_rfl⟩
  · split
    · exact notingAside (asideTrans (removeEntriesAside _ _ _ _) (setupFirewallAside _ _ _ _ _ _))
    · exact ⟨rfl,rfl,prefix_rfl⟩

theorem updateSource (updates : TunnelConfig) : Stopped s failing (wg.update id updates s.wg) (UpdateTunnel host ctx wg id updates s).2 ∨
      validateUpdateRequest updates = none ∧ ∃ old w t, findTunnelByID id s = some old ∧
        wg.update id updates s.wg = (.ok (applyUpdates old updates),w) ∧ Aside {s with wg := w} t ∧
        (UpdateTunnel host ctx wg id updates s).2 = refreshWanPort host old.listenPort (applyUpdates old updates) t := by
  simp only [UpdateTunnel]
  split
  · exact .inl .early
  rename_i accepted
  split
  · exact .inl .early
  rcases ran : wg.update id updates s.wg with ⟨r,w⟩
  cases r with
  | error e => exact .inl (@Stopped.refused _ s failing (.error e,w) (fun _ => by simp))
  | ok tunnel =>
    obtain ⟨idx,old,found,rfl,_⟩ := wg.updated ran
    have existing : findTunnelByID id s = some old := by rw [findTunnelByID,System.tunnels,found]; rfl
    refine .inr ⟨accepted,old,w,_,existing,rfl,refreshFirewallAside host ctx id (some old) updates (applyUpdates old updates) _,?_⟩
    simp only [existing,Option.map_some,Option.getD_some]

theorem enableSource : Stopped s failed (wg.enable id s.wg) (EnableTunnel host ctx wg id s).2 ∨
      ∃ w tunnel, wg.enable id s.wg = (none,w) ∧ (findTunnel id w.config).map Prod.snd = some tunnel ∧
        (EnableTunnel host ctx wg id s).2 = (installTunnelFirewall host ctx tunnel {s with wg := w}).2 := by
  simp only [EnableTunnel,onWg]
  split
  · exact .inl .early
  rcases ran : wg.enable id s.wg with ⟨r,w⟩
  cases r with
  | some e => exact .inl (@Stopped.refused _ s failed (some e,w) (by simp [failed]))
  | none =>
    obtain ⟨idx,cfg,found,list⟩ := wg.enabled ran
    refine .inr ?_
    dsimp only
    split
    · rename_i missing
      have again := findSet found (show ({cfg with enabled := true} : TunnelConfig).id = cfg.id from rfl)
      rw [findTunnelByID,System.tunnels,list,again] at missing
      contradiction
    · rename_i tunnel again
      refine ⟨w,tunnel,rfl,again,?_⟩
      split <;> rename_i installed <;> exact (congrArg Prod.snd installed).symm

theorem disableSource : Stopped s failed (wg.disable id s.wg) (DisableTunnel host wg id s).2 ∨
      ∃ w t, findTunnelByID id s = some t ∧ wg.disable id s.wg = (none,w) ∧
        (DisableTunnel host wg id s).2 = teardownTunnelFirewall host t {s with wg := w} := by
  simp only [DisableTunnel,onWg]
  split
  · exact .inl .early
  rename_i t found
  rcases ran : wg.disable id s.wg with ⟨r,w⟩
  cases r with
  | some e => exact .inl (@Stopped.refused _ s failed (some e,w) (by simp [failed]))
  | none => exact .inr ⟨w,t,found,rfl,rfl⟩

end
section
variable (host : Host) (ctx : Context) (wg : WireGuard) (t : TunnelConfig) (id : String) (s : System)

def tornDown : System := TeardownZone host id (teardownTunnelFirewall host t s)
def laterContext : Context := fun n => ctx (6+n)

inductive DeleteEnds : Option GoError × System → Prop where
  | untouched {e cause} (gone : ctx 0 = some e) : DeleteEnds (some cause,s)
  | cancelled {n e cause u} (inside : n < 5 ∨ n = 5 ∧ (wg.delete id s.wg).1 = none) (gone : ctx n = some e) (log : s.warned <+: u.warned) :
    DeleteEnds (some cause,(installTunnelFirewall host (laterContext ctx) t u).2)
  | refused {e cause} (live : LiveUntil ctx 5) (failed : (wg.delete id s.wg).1 = some e) :
    DeleteEnds (some cause,(installTunnelFirewall host (laterContext ctx) t
      {tornDown host t id s with wg := (wg.delete id s.wg).2}).2)
  | done (live : LiveUntil ctx 6) (deleted : (wg.delete id s.wg).1 = none) :
    DeleteEnds (none,{tornDown host t id s with wg := (wg.delete id s.wg).2})

theorem tornDownWg : (tornDown host t id s).wg = s.wg ∧ s.warned <+: (tornDown host t id s).warned := by
  have fw := teardownWg host t s
  have zone := teardownZoneAside host id (teardownTunnelFirewall host t s)
  exact ⟨zone.wg.trans fw.1,fw.2.trans zone.log⟩

theorem deleteEnds : DeleteEnds host ctx wg t id s (run ctx (deleteSteps host ctx wg t id) s) := by
  have fw := teardownWg host t s
  have zone := tornDownWg host t id s
  simp only [run,runFrom,deleteSteps,modifyRun,Noop,onWg,rollback,reverse_nil,nil_append,undoAll,Nat.mul_zero,Nat.zero_add,
    Nat.mul_one,reverse_cons,cons_append,noUndo,skipRun]
  split
  · rename_i e gone
    exact .untouched gone
  rename_i live0
  split
  · rename_i e gone
    exact .cancelled (.inl (by omega)) gone fw.2
  rename_i live1
  split
  · rename_i e gone
    exact .cancelled (.inl (by omega)) gone fw.2
  rename_i live2
  split
  · rename_i e gone
    exact .cancelled (.inl (by omega)) gone zone.2
  rename_i live3
  split
  · rename_i e gone
    exact .cancelled (.inl (by omega)) gone zone.2
  rename_i live4
  have same : (TeardownZone host id (teardownTunnelFirewall host t s)).wg = s.wg := zone.1
  simp only [same]
  have live : LiveUntil ctx 5 := by
    intro n below
    rcases n with _ | _ | _ | _ | _ | n
    · exact live0
    · exact live1
    · exact live2
    · exact live3
    · exact live4
    · omega
  split
  · rename_i e u failed
    obtain ⟨refused,rfl⟩ := Prod.mk.inj failed
    exact .refused live refused
  · rename_i u deleted
    obtain ⟨done,rfl⟩ := Prod.mk.inj deleted
    split
    · rename_i e gone
      exact .cancelled (.inr ⟨rfl,done⟩) gone zone.2
    · rename_i live5
      refine .done (fun n below => ?_) done
      rcases Nat.lt_succ_iff_lt_or_eq.mp below with earlier | rfl
      · exact live n earlier
      · exact live5

theorem deleteSame (found : findTunnelByID id s = some t) :
    (DeleteTunnel host ctx wg id s).2 = (run ctx (deleteSteps host ctx wg t id) s).2 := by
  simp only [DeleteTunnel,found]
  rfl

end
end VpnPack.Service
