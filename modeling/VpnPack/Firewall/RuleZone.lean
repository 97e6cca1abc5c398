import VpnPack.Firewall.Manager

/-! The zone that the rules of a tunnel lead to, against the zone that the manifest
records. AddRule looks for the marker alone, so what a chain already holds decides. -/
namespace VpnPack.Firewall
open Base List Ops State Udapi

def Follows (tunnelID iface : String) (f : Fw) : Prop :=
  ∀ chain, ∃ r, Marked (wgS2sMarker iface) (f.udapi.rules chain) = [r] ∧
    r.target = chain.target (f.manifest.wgS2sChainPrefix tunnelID)

def Admits (iface chainPrefix : String) (u : Config) : Prop :=
  ∀ chain, Marked (wgS2sMarker iface) (u.rules chain) = [] ∨
    ∃ r, Marked (wgS2sMarker iface) (u.rules chain) = [r] ∧ r.target = chain.target chainPrefix

section
variable {iface marker chainPrefix : String} {chain : Chain} {before after : List Rule}

theorem markerPlainIff {iface : String} : Plain (wgS2sMarker iface) ↔ Plain iface := by
  have opens : '(' ∉ "wg-s2s-manager:".toList := by decide
  have closes : ')' ∉ "wg-s2s-manager:".toList := by decide
  rw [Plain,Plain,wgS2sMarkerText]
  generalize "wg-s2s-manager:".toList = front at opens closes ⊢
  rw [mem_append,mem_append,not_or,not_or,and_iff_right opens,and_iff_right closes]

theorem installedMarked (plain : Plain marker) (installed : Installed iface marker chainPrefix chain before after) :
    (∃ r, Marked marker after = [r] ∧ r.target = chain.target chainPrefix) ↔
      (Marked marker before = [] ∨ ∃ r, Marked marker before = [r] ∧ r.target = chain.target chainPrefix) := by
  cases installed with
  | kept present => exact ⟨.inr,fun either => either.resolve_left present⟩
  | added id absent =>
    have own := @zoneRuleMarker iface marker chainPrefix chain plain id
    refine iff_of_true ⟨(zoneRule iface marker chainPrefix chain).rule id,?_,rfl⟩ (.inl absent)
    rw [Marked,filter_append,show before.filter (fun r => r.marker == marker) = [] from absent,nil_append,
      filter_cons_of_pos (by simp [own]),filter_nil]

theorem unplainMarked (unplain : ¬ Plain marker) (rules : List Rule) : Marked marker rules = [] := by
  rw [Marked,filter_eq_nil_iff]
  intro r _ same
  exact unplain (beq_iff_eq.mp same ▸ markerPlain r.description)

end

theorem setupFollows {env : FwEnv} {ctx : Context} {tunnelID iface : String} {allowedIPs : List String} {f g : Fw}
    (ran : SetupWgS2sFirewall env ctx tunnelID iface allowedIPs f = (none,g)) (saved : env.disk.fails f.store.saves = none) :
    Follows tunnelID iface g ↔ Plain iface ∧ Admits iface (currentChainPrefix env tunnelID f).1 f.udapi := by
  obtain ⟨store,u,added,filled⟩ := setupSource ran
  have recorded := prefixRecorded (.inr saved) store
  have rules : g.udapi.rules = u.rules := by
    rcases ensureSubnetsSource filled with ⟨_,same⟩ | ⟨_,_,set⟩
    · rw [same]
    · exact set.rules
  have installed := (addInterfaceSource added).2
  simp only [Follows,rules,recorded]
  by_cases plain : Plain iface
  · rw [and_iff_right plain]
    exact forall_congr' (fun chain => installedMarked (markerPlainIff.mpr plain) (installed chain))
  · refine iff_of_false (fun follows => ?_) (fun both => plain both.1)
    obtain ⟨r,one,_⟩ := follows .input
    rw [unplainMarked (fun fits => plain (markerPlainIff.mp fits))] at one
    contradiction

def lateZone : FwEnv :=
  ⟨fun _ => none,⟨fun _ => none,false⟩,fun n _ => if n = 0 then "" else "CUSTOM1",fun _ _ => none⟩

def zoneEntry : ZoneManifest := ⟨"z1","VPN Pack: WireGuard S2S",["p1","p2"],"VPN"⟩
def oneEntry : Manifest := ⟨"default",⟨"","",[],""⟩,AList.singleton "t1" zoneEntry,∅,"",""⟩

def emptyFw : Fw :=
  ⟨⟨fun _ => [],1,(AList.singleton "VPN_subnets" []).insert "CUSTOM1_subnets" [],0⟩,⟨oneEntry,0⟩,0⟩

theorem emptyFwSetup : (SetupWgS2sFirewall lateZone background "t1" "wg-s2s0" ["10.1.0.0/16"] emptyFw).1 = none := by decide +kernel

theorem setupFollowsFirst : Follows "t1" "wg-s2s0" (SetupWgS2sFirewall lateZone background "t1" "wg-s2s0" ["10.1.0.0/16"] emptyFw).2 := by
  have ran : SetupWgS2sFirewall lateZone background "t1" "wg-s2s0" ["10.1.0.0/16"] emptyFw = (none,_) := Prod.ext emptyFwSetup rfl
  exact (setupFollows ran rfl).mpr ⟨⟨by decide,by decide⟩,fun _ => .inl rfl⟩

theorem rediscoveredKeepsRules : let first := SetupWgS2sFirewall lateZone background "t1" "wg-s2s0" ["10.1.0.0/16"] emptyFw
    let second := SetupWgS2sFirewall lateZone background "t1" "wg-s2s0" ["10.1.0.0/16"] first.2
    first.1 = none ∧ second.1 = none ∧ second.2.manifest.wgS2sChainPrefix "t1" = "CUSTOM1" ∧
      Chain.all.map (fun chain => (second.2.udapi.rules chain).map Rule.target) = [["VPN_IN"],["VPN_LOCAL"],["LOCAL_VPN"]] ∧
      ¬ Follows "t1" "wg-s2s0" second.2 := by
  intro first second
  have targets : Chain.all.map (fun chain => (second.2.udapi.rules chain).map Rule.target) =
      [["VPN_IN"],["VPN_LOCAL"],["LOCAL_VPN"]] := by decide +kernel
  refine ⟨by decide +kernel,by decide +kernel,by decide +kernel,targets,fun follows => ?_⟩
  obtain ⟨r,one,target⟩ := follows .forwardIn
  have inside : r.target ∈ (second.2.udapi.rules .forwardIn).map Rule.target :=
    mem_map_of_mem (mem_filter.mp (one ▸ mem_singleton_self r)).1
  have only : (second.2.udapi.rules .forwardIn).map Rule.target = ["VPN_IN"] := (List.cons.inj targets).1
  rw [only,target] at inside
  exact absurd inside (by decide +kernel)

end VpnPack.Firewall
