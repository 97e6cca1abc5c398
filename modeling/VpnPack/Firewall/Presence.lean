import VpnPack.Firewall.KernelView
import VpnPack.Firewall.SetOwners

/-! What SetupWgS2sFirewall installs against what CheckWgS2sRulesPresent looks for, in the
states that calls with any failures lead to. -/
namespace VpnPack.Firewall
open Base List Net Ops State Udapi Wgs2s

inductive FwCall where
  | setup (ctx : Context) (tunnelID : String) (i : Nat) (allowedIPs : List String)
  | remove (tunnelID : String) (i : Nat) (allowedIPs : List String)
  | removeEntries (tunnelID : String) (cidrs : List String)
  | record (store : Store)

-- The manifest may be written by anyone in between.
def fwCall (env : FwEnv) : FwCall → Fw → Fw
  | .setup ctx tunnelID i allowedIPs,f => (SetupWgS2sFirewall env ctx tunnelID (interfaceNameAt i) allowedIPs f).2
  | .remove tunnelID i allowedIPs,f => (RemoveWgS2sFirewall env tunnelID (interfaceNameAt i) allowedIPs f).2
  | .removeEntries tunnelID cidrs,f => (RemoveWgS2sIPSetEntries env tunnelID cidrs f).2
  | .record store,f => {f with store := store}

def Tagged (u : Config) : Prop :=
  ∀ i chain, ∀ r ∈ u.rules chain, r.marker = wgS2sMarker (interfaceNameAt i) →
    r.iface = interfaceNameAt i ∧ r.direction = chain.direction

theorem digitPlain {c : Char} (digit : '0' ≤ c ∧ c ≤ '9') : c ≠ '(' ∧ c ≠ ')' ∧ isSpace c = false := by
  have low : 48 ≤ c.toNat := digit.1
  have high : c.toNat ≤ 57 := digit.2
  refine ⟨?_,?_,?_⟩
  · rintro rfl
    exact absurd low (by decide)
  · rintro rfl
    exact absurd low (by decide)
  · simp only [isSpace,Bool.or_eq_false_iff,Bool.and_eq_false_iff,decide_eq_false_iff_not,beq_eq_false_iff_ne]
    omega

theorem interfaceChars (i : Nat) : ∀ c ∈ (interfaceNameAt i).toList, c ≠ '(' ∧ c ≠ ')' ∧ isSpace c = false := by
  intro c member
  have text : (interfaceNameAt i).toList = "wg-s2s".toList ++ Nat.toDigits 10 i := by
    simp [interfaceNameAt,toString,Nat.repr]
  rw [text] at member
  rcases mem_append.mp member with front | digit
  · have known : ∀ c ∈ "wg-s2s".toList, c ≠ '(' ∧ c ≠ ')' ∧ isSpace c = false := everyChar (by decide)
    exact known c front
  · exact digitPlain (decimalChars i c digit)

theorem interfacePlain (i : Nat) : Plain (wgS2sMarker (interfaceNameAt i)) := by
  have chars := interfaceChars i
  constructor
  · rw [wgS2sMarkerText,mem_append,not_or]
    exact ⟨by decide,fun member => (chars _ member).1 rfl⟩
  · rw [wgS2sMarkerText,mem_append,not_or]
    exact ⟨by decide,fun member => (chars _ member).2.1 rfl⟩

theorem interfaceWord (i : Nat) : Word (interfaceNameAt i).toList :=
  ⟨by simp [interfaceNameAt],fun c member => (interfaceChars i c member).2.2⟩

theorem markerInj {i j : Nat} (same : wgS2sMarker (interfaceNameAt i) = wgS2sMarker (interfaceNameAt j)) : i = j := by
  refine interfaceNameInj ?_
  have texts := congrArg String.toList same
  rw [wgS2sMarkerText,wgS2sMarkerText,append_cancel_left_eq] at texts
  exact String.toList_inj.mp texts

section
variable {env : FwEnv} {link : Link} {f : Fw}

def Carries (u v : Config) : Prop := Tagged u → Tagged v

variable (i : Nat) (chainPrefix ipsetName : String) (chain : Chain) (u : Config) (cidrs : List String)

theorem carriesSame : Carries u u := fun tagged => tagged

theorem carriesChain (v w : Config) (first : Carries u v) (second : Carries v w) : Carries u w :=
  fun tagged => second (first tagged)

theorem carriesFewer {u v : Config} (fewer : ∀ chain, ∀ r ∈ v.rules chain, r ∈ u.rules chain) : Carries u v :=
  fun tagged i chain r member => tagged i chain r (fewer chain r member)

theorem requestCarries {effect : Config → Config} (each : ∀ u, Carries u (effect u)) : Advances Carries (request link effect) := by
  intro u
  simp only [request]
  split
  · exact carriesFewer (fun _ _ member => member)
  · exact carriesChain _ {u with calls := u.calls+1} _ (carriesFewer (fun _ _ member => member)) (each _)

theorem postCarries :
    Carries u (postRule (zoneRule (interfaceNameAt i) (wgS2sMarker (interfaceNameAt i)) chainPrefix chain) u) := by
  intro tagged j c r member marked
  by_cases here : c = chain
  · subst here
    have grown : r ∈ u.rules c ++ [(zoneRule (interfaceNameAt i) (wgS2sMarker (interfaceNameAt i)) chainPrefix c).rule u.nextID] := by
      simpa [postRule,withRules,zoneRule] using member
    rcases mem_append.mp grown with old | new
    · exact tagged j c r old marked
    · cases mem_singleton.mp new
      rw [zoneRuleMarker (interfacePlain i)] at marked
      cases markerInj marked
      exact ⟨rfl,rfl⟩
  · have old : r ∈ u.rules c := by simpa [postRule,withRules,zoneRule,here] using member
    exact tagged j c r old marked

theorem addRuleCarries :
    Advances Carries (AddRule link (zoneRule (interfaceNameAt i) (wgS2sMarker (interfaceNameAt i)) chainPrefix chain)) := by
  intro u
  have listed := @requestCarries link id (fun _ => carriesSame _) u
  have posted := @requestCarries link _ (postCarries i chainPrefix chain)
  simp only [AddRule,HasMarkerRule]
  rcases asked : request link id u with ⟨err,v⟩
  rw [asked] at listed
  cases err with
  | some e => exact listed
  | none =>
    dsimp only
    split
    · rename_i bad
      cases bad
    · rename_i found
      obtain ⟨_,rfl⟩ := Prod.mk.inj found
      exact listed
    · rename_i found
      obtain ⟨_,rfl⟩ := Prod.mk.inj found
      exact carriesChain _ _ _ listed (posted v)

theorem removeCarries (marker : String) : Advances Carries (RemoveInterfaceRules link marker) := by
  refine advancesAttemptAll carriesChain carriesSame (fun chain _ u => ?_)
  have listed := @requestCarries link id (fun _ => carriesSame _) u
  have deleted (r : Rule) : Advances Carries (wrapping ("delete " ++ chain.name ++ " rule " ++ Nat.repr r.id)
      (request link (deleteRule chain r.id))) := by
    refine fun u => @requestCarries link (deleteRule chain r.id) (fun v => carriesFewer (fun c x member => ?_)) u
    simp only [deleteRule,withRules] at member
    split at member
    · rename_i same
      exact same ▸ (mem_filter.mp member).1
    · exact member
  simp only [removeMarkerRules]
  split <;> rename_i asked <;> rw [asked] at listed
  · exact listed
  · refine carriesChain _ _ _ listed ?_
    exact advancesForEach carriesChain carriesSame (fun r _ => deleted r) _

theorem findCarries : Carries u (findIPSet link ipsetName u).2 := by
  have listed := @requestCarries link id (fun _ => carriesSame _) u
  simp only [findIPSet]
  split <;> rename_i asked <;> rw [asked] at listed <;> exact listed

theorem putCarries (entries : List String) : Advances Carries (putSet link ipsetName entries) :=
  fun u => @requestCarries link (putEntries ipsetName entries) (fun _ => carriesFewer (fun _ _ member => member)) u

theorem ensureCarries : Advances Carries (EnsureZoneSubnets link ipsetName cidrs) := by
  intro u
  have listed := @findCarries link ipsetName u
  simp only [EnsureZoneSubnets]
  split
  · exact carriesSame u
  · split <;> rename_i asked <;> rw [asked] at listed
    · exact listed
    · exact listed
    · split
      · exact listed
      · exact carriesChain _ _ _ listed (putCarries _ _ _)

theorem removeSubnetCarries (cidr : String) : Advances Carries (RemoveZoneSubnet link ipsetName cidr) := by
  intro u
  have listed := @findCarries link ipsetName u
  simp only [RemoveZoneSubnet]
  split <;> rename_i asked <;> rw [asked] at listed
  · exact listed
  · exact listed
  · split
    · exact listed
    · exact carriesChain _ _ _ listed (putCarries _ _ _)

def FwCarries (f g : Fw) : Prop := Carries f.udapi g.udapi

theorem onUdapiCarries {p : Proc Config} (each : Advances Carries p) : Advances FwCarries (onUdapi p) := fun f => each f.udapi

theorem fwChain (f g h : Fw) (first : FwCarries f g) (second : FwCarries g h) : FwCarries f h := carriesChain _ _ _ first second

theorem fwSame (f : Fw) : FwCarries f f := carriesSame _

theorem removeSubnetsCarries : Advances FwCarries (removeSubnets env ipsetName cidrs) :=
  advancesForEach fwChain fwSame (fun cidr _ => onUdapiCarries (removeSubnetCarries ipsetName cidr))

theorem setupCarries {ctx : Context} {tunnelID : String} {i : Nat} {allowedIPs : List String} :
    Advances FwCarries (SetupWgS2sFirewall env ctx tunnelID (interfaceNameAt i) allowedIPs) := by
  intro f
  have steps : ∀ op ∈ setupSteps env (interfaceNameAt i) (currentChainPrefix env tunnelID f).1
      (filterBlockedAllowedIPs env (interfaceNameAt i) allowedIPs f), Advances FwCarries op.Do ∧ Advances FwCarries op.Undo := by
    intro op member
    rcases mem_cons.mp member with rfl | rest
    · refine ⟨onUdapiCarries ?_,onUdapiCarries (removeCarries _)⟩
      exact advancesAttemptAll carriesChain carriesSame (fun r inside => by
        obtain ⟨chain,_,rfl⟩ := mem_map.mp inside
        exact addRuleCarries i _ chain)
    · split at rest
      · cases mem_singleton.mp rest
        exact ⟨onUdapiCarries (ensureCarries _ _),removeSubnetsCarries _ _⟩
      · contradiction
  have ran := @runAdvances Fw FwCarries fwSame fwChain ctx _ (fun op member => (steps op member).1)
    (fun op member => (steps op member).2) {(currentChainPrefix env tunnelID f).2 with clock := f.clock+1}
  rw [FwCarries,prefixUdapi] at ran
  exact ran

theorem removeEntriesCarries (tunnelID : String) (cidrs : List String) :
    Advances FwCarries (RemoveWgS2sIPSetEntries env tunnelID cidrs) := by
  intro f
  simp only [RemoveWgS2sIPSetEntries]
  split
  · exact fwSame f
  · exact removeSubnetsCarries _ _ f

theorem fwCallTagged (a : FwCall) (tagged : Tagged f.udapi) : Tagged (fwCall env a f).udapi := by
  cases a with
  | setup ctx tunnelID i allowedIPs => exact setupCarries f tagged
  | remove tunnelID i allowedIPs =>
    have rules : Advances FwCarries (ignoring (onUdapi (RemoveInterfaceRules env.link (wgS2sMarker (interfaceNameAt i))))) :=
      fun g => removeCarries _ g.udapi
    exact advancesSeq fwChain rules (removeEntriesCarries tunnelID allowedIPs) f tagged
  | removeEntries tunnelID cidrs => exact removeEntriesCarries tunnelID cidrs f tagged
  | record store => exact tagged

end
section
variable {env : FwEnv} {ctx : Context} {f g : Fw}

theorem prefixFilled (m : Manifest) (tunnelID : String) : m.wgS2sChainPrefix tunnelID ≠ "" := by
  unfold Manifest.wgS2sChainPrefix
  split
  · split
    · assumption
    · decide
  · decide

theorem setupShown {i : Nat} {tunnelID : String} {allowedIPs : List String} (tagged : Tagged f.udapi)
    (ran : SetupWgS2sFirewall env ctx tunnelID (interfaceNameAt i) allowedIPs f = (none,g)) (chain : Chain) :
    chainProbe g.udapi chain (interfaceNameAt i) = true := by
  have after : Tagged g.udapi := by
    have carried := @setupCarries env ctx tunnelID i allowedIPs f tagged
    rw [ran] at carried
    exact carried
  obtain ⟨_,u,added,filled_⟩ := setupSource ran
  have rules : g.udapi.rules = u.rules := by
    rcases ensureSubnetsSource filled_ with ⟨_,same⟩ | ⟨_,_,set⟩
    · rw [same]
    · exact set.rules
  have present : Marked (wgS2sMarker (interfaceNameAt i)) (g.udapi.rules chain) ≠ [] := by
    have installed := (addInterfaceSource added).2 chain
    rw [rules]
    generalize u.rules chain = rules_ at installed
    cases installed with
    | kept present => exact present
    | added id absent =>
      rw [Marked,filter_append,filter_cons_of_pos (by simp [zoneRuleMarker (interfacePlain i)])]
      simp
  obtain ⟨r,marked⟩ := exists_mem_of_ne_nil _ present
  obtain ⟨member,same⟩ := mem_filter.mp marked
  obtain ⟨named,facing⟩ := after i chain r member (beq_iff_eq.mp same)
  exact chainProbeFound member named facing (interfaceWord i)

theorem setupEntries {tunnelID iface : String} {allowedIPs : List String}
    (ran : SetupWgS2sFirewall env ctx tunnelID iface allowedIPs f = (none,g)) (cidr : String) :
    cidr ∈ entries g.udapi (zoneIPSetName (currentChainPrefix env tunnelID f).1) ↔
      cidr ∈ entries f.udapi (zoneIPSetName (currentChainPrefix env tunnelID f).1) ∨
        cidr ∈ filterBlockedAllowedIPs env iface allowedIPs f := by
  obtain ⟨_,u,added,sets⟩ := setupSource ran
  have change := changedThen (changedSame (addInterfaceSource added).1) (filled sets)
  rw [change.here]
  simp

end

def tunnelTo (network : String) : TunnelConfig :=
  ⟨"t1","office","wg-s2s0",51820,"10.9.0.1/24","","",some [network],none,25,1420,0,true,0⟩

def setupTo (network : String) : Option GoError × Fw :=
  SetupWgS2sFirewall quietEnv background "t1" "wg-s2s0" [network] (twoZones "CUSTOM1" "CUSTOM2").fw

theorem twoZonesTagged : Tagged (twoZones "CUSTOM1" "CUSTOM2").fw.udapi := fun _ _ _ member => by cases member

end VpnPack.Firewall
