import VpnPack.Base.Runs
import VpnPack.Firewall.Manager

/-! The entries of the zone ipsets over runs of setup, removal and refresh. An entry has no
owner: what a call takes out of a set is gone for every tunnel that wanted it there. -/
namespace VpnPack.Firewall
open Base List Ops State Udapi

inductive SetCall where
  | setup (ctx : Context) (tunnelID iface : String) (allowedIPs : List String)
  | remove (tunnelID iface : String) (allowedIPs : List String)
  | refresh (ctx : Context) (tunnelID iface : String) (old allowedIPs : List String)

structure Tracked where
  fw : Fw
  up : String → Option (List String)

def Tracked.mark (s : Tracked) (tunnelID : String) (networks : Option (List String)) : String → Option (List String) :=
  fun t => if t = tunnelID then networks else s.up t

def setCall (env : FwEnv) : SetCall → Tracked → Tracked
  | .setup ctx tunnelID iface allowedIPs,s =>
    ⟨(SetupWgS2sFirewall env ctx tunnelID iface allowedIPs s.fw).2,s.mark tunnelID (some allowedIPs)⟩
  | .remove tunnelID iface allowedIPs,s => ⟨(RemoveWgS2sFirewall env tunnelID iface allowedIPs s.fw).2,s.mark tunnelID none⟩
  | .refresh ctx tunnelID iface old allowedIPs,s =>
    ⟨(SetupWgS2sFirewall env ctx tunnelID iface allowedIPs (RemoveWgS2sIPSetEntries env tunnelID old s.fw).2).2,
      s.mark tunnelID (some allowedIPs)⟩

def SetCall.tunnelID : SetCall → String
  | .setup _ tunnelID _ _ => tunnelID
  | .remove tunnelID _ _ => tunnelID
  | .refresh _ tunnelID _ _ _ => tunnelID

def SetCall.added : SetCall → List String
  | .setup _ _ _ allowedIPs => allowedIPs
  | .remove _ _ _ => []
  | .refresh _ _ _ _ allowedIPs => allowedIPs

def SetCall.taken (chainPrefix : String) : SetCall → List String
  | .setup _ _ _ _ => []
  | .remove _ _ allowedIPs => if chainPrefix = defaultChainPrefix then [] else allowedIPs
  | .refresh _ _ _ old _ => if chainPrefix = defaultChainPrefix then [] else old

def entries (u : Config) (ipsetName : String) : List String := (u.sets.lookup ipsetName).getD []

structure SetsUp (env : FwEnv) (chainPrefix : String) (ctx : Context) (tunnelID iface : String) (allowedIPs : List String)
    (f : Fw) : Prop where
  used : (currentChainPrefix env tunnelID f).1 = chainPrefix
  unfiltered : filterBlockedAllowedIPs env iface allowedIPs f = allowedIPs
  returned : (SetupWgS2sFirewall env ctx tunnelID iface allowedIPs f).1 = none

def Ordinary (env : FwEnv) (prefixes : String → String) (a : SetCall) (s : Tracked) : Prop :=
  s.fw.manifest.wgS2sChainPrefix a.tunnelID = prefixes a.tunnelID ∧
    match a with
    | .setup ctx tunnelID iface allowedIPs => SetsUp env (prefixes tunnelID) ctx tunnelID iface allowedIPs s.fw
    | .remove _ _ _ => True
    | .refresh ctx tunnelID iface old allowedIPs =>
      SetsUp env (prefixes tunnelID) ctx tunnelID iface allowedIPs (RemoveWgS2sIPSetEntries env tunnelID old s.fw).2

def Exact (prefixes : String → String) (initial : String → List String) (s : Tracked) : Prop :=
  ∀ name cidr, cidr ∈ entries s.fw.udapi name ↔
    cidr ∈ initial name ∨ ∃ t networks, s.up t = some networks ∧ zoneIPSetName (prefixes t) = name ∧ cidr ∈ networks

def Elsewhere (prefixes : String → String) (initial : String → List String) (s : Tracked) (tunnelID cidr : String) : Prop :=
  cidr ∈ initial (zoneIPSetName (prefixes tunnelID)) ∨ ∃ t networks, t ≠ tunnelID ∧ s.up t = some networks ∧
    zoneIPSetName (prefixes t) = zoneIPSetName (prefixes tunnelID) ∧ cidr ∈ networks

def Tracked.own (s : Tracked) (tunnelID : String) : List String := (s.up tunnelID).getD []

structure Unshared (prefixes : String → String) (initial : String → List String) (a : SetCall) (s : Tracked) : Prop where
  taken : ∀ cidr ∈ a.taken (prefixes a.tunnelID), Elsewhere prefixes initial s a.tunnelID cidr → cidr ∈ a.added
  left : ∀ cidr ∈ s.own a.tunnelID, cidr ∈ a.taken (prefixes a.tunnelID) ∨ Elsewhere prefixes initial s a.tunnelID cidr ∨ cidr ∈ a.added

section
variable {env : FwEnv} {ctx : Context} {tunnelID iface ipsetName : String} {allowedIPs cidrs : List String} {f : Fw}

structure Changed (ipsetName : String) (taken added : List String) (u v : Config) : Prop where
  here : ∀ cidr, cidr ∈ entries v ipsetName ↔ cidr ∈ entries u ipsetName ∧ cidr ∉ taken ∨ cidr ∈ added
  others : ∀ name, name ≠ ipsetName → entries v name = entries u name

theorem changedSame {u v : Config} (same : v.sets = u.sets) : Changed ipsetName [] [] u v :=
  ⟨fun cidr => by simp [entries,same],fun name _ => by simp only [entries,same]⟩

theorem changedThen {taken added : List String} {u v w : Config} (first : Changed ipsetName taken [] u v)
    (second : Changed ipsetName [] added v w) : Changed ipsetName taken added u w := by
  refine ⟨fun cidr => ?_,fun name other => (second.others name other).trans (first.others name other)⟩
  rw [second.here,first.here]
  simp

theorem filled {u v : Config} (ran : EnsureZoneSubnets env.link ipsetName cidrs u = (none,v)) : Changed ipsetName [] cidrs u v := by
  rcases ensureSubnetsSource ran with ⟨empty,same⟩ | ⟨old,found,set⟩
  · rw [empty]
    exact changedSame (by rw [same])
  · refine ⟨fun cidr => ?_,fun name other => by simp only [entries,set.others name other]⟩
    simp only [entries,set.here,found,Option.getD_some,mem_append,mem_filter,decide_eq_true_eq,not_mem_nil,not_false_eq_true,and_true]
    constructor
    · intro either
      exact either.imp_right And.left
    · intro either
      by_cases known : cidr ∈ old
      · exact .inl known
      · exact .inr ⟨either.resolve_left known,known⟩

theorem setsUpChanged {chainPrefix : String} (up : SetsUp env chainPrefix ctx tunnelID iface allowedIPs f) :
    Changed (zoneIPSetName chainPrefix) [] allowedIPs f.udapi (SetupWgS2sFirewall env ctx tunnelID iface allowedIPs f).2.udapi := by
  obtain ⟨_,u,added,sets⟩ := setupSource (Prod.ext up.returned rfl)
  rw [up.unfiltered,up.used] at sets
  exact changedThen (changedSame (addInterfaceSource added).1) (filled sets)

theorem removedSubnet (answering : Answering env.link) (cidr : String) (f : Fw) :
    (onUdapi (RemoveZoneSubnet env.link ipsetName cidr) f).2.store = f.store ∧
      Changed ipsetName [cidr] [] f.udapi (onUdapi (RemoveZoneSubnet env.link ipsetName cidr) f).2.udapi := by
  refine ⟨rfl,?_⟩
  have set := removeSubnetSource (Prod.ext (removeSubnetAnswered answering ipsetName cidr f.udapi) rfl)
  refine ⟨fun other => ?_,fun name different => by simp only [entries,onUdapi,set.others name different]⟩
  simp only [entries,onUdapi,set.here]
  cases f.udapi.sets.lookup ipsetName with
  | none | some _ => simp

theorem removeSubnetsChanged (answering : Answering env.link) (f : Fw) : (removeSubnets env ipsetName cidrs f).2.store = f.store ∧
      Changed ipsetName cidrs [] f.udapi (removeSubnets env ipsetName cidrs f).2.udapi := by
  induction cidrs generalizing f with
  | nil => exact ⟨rfl,changedSame rfl⟩
  | cons cidr rest ih =>
    obtain ⟨store,first⟩ := @removedSubnet env ipsetName answering cidr f
    obtain ⟨kept,later⟩ := ih (onUdapi (RemoveZoneSubnet env.link ipsetName cidr) f).2
    refine ⟨kept.trans store,⟨fun other => ?_,fun name different => (later.others name different).trans (first.others name different)⟩⟩
    refine (later.here other).trans ?_
    rw [first.here]
    simp only [not_mem_nil,or_false,mem_cons,not_or,and_assoc]

theorem removeEntriesChanged (answering : Answering env.link) (f : Fw) {chainPrefix : String}
    (used : f.manifest.wgS2sChainPrefix tunnelID = chainPrefix) : (RemoveWgS2sIPSetEntries env tunnelID cidrs f).2.store = f.store ∧
      Changed (zoneIPSetName chainPrefix) (if chainPrefix = defaultChainPrefix then [] else cidrs) [] f.udapi
        (RemoveWgS2sIPSetEntries env tunnelID cidrs f).2.udapi := by
  simp only [RemoveWgS2sIPSetEntries,used]
  by_cases default : chainPrefix = defaultChainPrefix
  · rw [if_pos (.inl default),if_pos default]
    exact ⟨rfl,changedSame rfl⟩
  · rw [if_neg default]
    by_cases empty : cidrs.length = 0
    · rw [if_pos (.inr empty),length_eq_zero_iff.mp empty]
      exact ⟨rfl,changedSame rfl⟩
    · rw [if_neg (by simp [default,empty])]
      exact removeSubnetsChanged answering f

theorem removeChanged (answering : Answering env.link) (f : Fw) {chainPrefix : String}
    (used : f.manifest.wgS2sChainPrefix tunnelID = chainPrefix) :
    Changed (zoneIPSetName chainPrefix) (if chainPrefix = defaultChainPrefix then [] else allowedIPs) [] f.udapi
      (RemoveWgS2sFirewall env tunnelID iface allowedIPs f).2.udapi := by
  have rules := removeInterfaceSource (Prod.ext (removeInterfaceAnswered answering (wgS2sMarker iface) f.udapi) rfl)
  have entries_ := (@removeEntriesChanged env tunnelID allowedIPs answering
    (onUdapi (RemoveInterfaceRules env.link (wgS2sMarker iface)) f).2 chainPrefix used).2
  refine ⟨fun cidr => (entries_.here cidr).trans ?_,fun name other => (entries_.others name other).trans ?_⟩
  · simp only [entries,onUdapi,rules.1]
  · simp only [entries,onUdapi,rules.1]

end

section
variable {env : FwEnv} {prefixes : String → String} {initial : String → List String} {a : SetCall} {s : Tracked}

theorem setCallChanged (answering : Answering env.link) (ordinary : Ordinary env prefixes a s) :
    Changed (zoneIPSetName (prefixes a.tunnelID)) (a.taken (prefixes a.tunnelID)) a.added s.fw.udapi (setCall env a s).fw.udapi := by
  cases a with
  | setup ctx tunnelID iface allowedIPs => exact setsUpChanged ordinary.2
  | remove tunnelID iface allowedIPs => exact removeChanged answering s.fw ordinary.1
  | refresh ctx tunnelID iface old allowedIPs =>
    exact changedThen (removeEntriesChanged answering s.fw ordinary.1).2 (setsUpChanged ordinary.2)

theorem setCallUp (env : FwEnv) (a : SetCall) (s : Tracked) {t : String} :
    (t ≠ a.tunnelID → (setCall env a s).up t = s.up t) ∧ ((setCall env a s).up a.tunnelID).getD [] = a.added := by
  cases a with
  | _ => exact ⟨fun other => if_neg other,by simp [setCall,SetCall.tunnelID,SetCall.added,Tracked.mark]⟩

theorem wantedSplit (tunnelID : String) (s : Tracked) {name cidr : String} :
    (cidr ∈ initial name ∨ ∃ t networks, s.up t = some networks ∧ zoneIPSetName (prefixes t) = name ∧ cidr ∈ networks) ↔
      (cidr ∈ initial name ∨ ∃ t networks, t ≠ tunnelID ∧ s.up t = some networks ∧ zoneIPSetName (prefixes t) = name ∧ cidr ∈ networks) ∨
        zoneIPSetName (prefixes tunnelID) = name ∧ cidr ∈ s.own tunnelID := by
  constructor
  · intro wanted
    rcases wanted with old | ⟨t,networks,up,zone,member⟩
    · exact .inl (.inl old)
    · by_cases same : t = tunnelID
      · subst same
        exact .inr ⟨zone,by rw [Tracked.own,up]; exact member⟩
      · exact .inl (.inr ⟨t,networks,same,up,zone,member⟩)
  · intro wanted
    rcases wanted with (old | ⟨t,networks,_,rest⟩) | ⟨zone,member⟩
    · exact .inl old
    · exact .inr ⟨t,networks,rest⟩
    · cases up : s.up tunnelID with
      | none =>
        rw [Tracked.own,up] at member
        contradiction
      | some networks =>
        rw [Tracked.own,up] at member
        exact .inr ⟨tunnelID,networks,up,zone,member⟩

theorem elsewhereKept {tunnelID cidr : String} {t : Tracked} (same : ∀ other, other ≠ tunnelID → t.up other = s.up other) {name : String} :
    (∃ other networks, other ≠ tunnelID ∧ t.up other = some networks ∧ zoneIPSetName (prefixes other) = name ∧ cidr ∈ networks) ↔
      ∃ other networks, other ≠ tunnelID ∧ s.up other = some networks ∧ zoneIPSetName (prefixes other) = name ∧ cidr ∈ networks := by
  constructor
  · rintro ⟨other,networks,different,up,rest⟩
    exact ⟨other,networks,different,same other different ▸ up,rest⟩
  · rintro ⟨other,networks,different,up,rest⟩
    exact ⟨other,networks,different,(same other different).trans up,rest⟩

theorem setCallExact (answering : Answering env.link) (ordinary : Ordinary env prefixes a s) (exact_ : Exact prefixes initial s) :
    Exact prefixes initial (setCall env a s) ↔ Unshared prefixes initial a s := by
  have changed := setCallChanged answering ordinary
  have others := fun t => (@setCallUp env a s t).1
  have own : (setCall env a s).own a.tunnelID = a.added := (@setCallUp env a s "").2
  have after (name cidr : String) := @wantedSplit prefixes initial a.tunnelID (setCall env a s) name cidr
  have before (name cidr : String) := (exact_ name cidr).trans (@wantedSplit prefixes initial a.tunnelID s name cidr)
  simp only [elsewhereKept others,own] at after
  have here (cidr : String) : cidr ∈ entries (setCall env a s).fw.udapi (zoneIPSetName (prefixes a.tunnelID)) ↔
      (Elsewhere prefixes initial s a.tunnelID cidr ∨ cidr ∈ s.own a.tunnelID) ∧ cidr ∉ a.taken (prefixes a.tunnelID) ∨ cidr ∈ a.added := by
    rw [changed.here,before]
    simp only [true_and,Elsewhere]
  constructor
  · intro kept
    have wanted (cidr : String) := (here cidr).symm.trans ((kept _ cidr).trans (after _ cidr))
    simp only [true_and] at wanted
    constructor
    · intro cidr taken elsewhere
      exact (((wanted cidr).mpr (.inl elsewhere)).resolve_left (fun both => both.2 taken))
    · intro cidr owned
      by_cases taken : cidr ∈ a.taken (prefixes a.tunnelID)
      · exact .inl taken
      · exact .inr ((wanted cidr).mp (.inl ⟨.inr owned,taken⟩))
  · intro unshared name cidr
    rw [after name cidr]
    by_cases zone : zoneIPSetName (prefixes a.tunnelID) = name
    · subst zone
      rw [here]
      simp only [true_and]
      constructor
      · intro either
        rcases either with ⟨elsewhere | owned,kept⟩ | new
        · exact .inl elsewhere
        · exact (unshared.left cidr owned).resolve_left kept
        · exact .inr new
      · intro either
        rcases either with elsewhere | new
        · by_cases taken : cidr ∈ a.taken (prefixes a.tunnelID)
          · exact .inr (unshared.taken cidr taken elsewhere)
          · exact .inl ⟨.inl elsewhere,taken⟩
        · exact .inr new
    · rw [changed.others name (Ne.symm zone),before]
      simp only [zone,false_and,or_false]

end

theorem setsExact {env : FwEnv} {prefixes : String → String} {run : List SetCall} {start : Tracked}
    (answering : Answering env.link) (begins : ∀ t, start.up t = none) (ordinary : Along (setCall env) (Ordinary env prefixes) run start) :
    Along (setCall env) (fun a s => Exact prefixes (entries start.fw.udapi) (setCall env a s)) run start ↔
      Along (setCall env) (Unshared prefixes (entries start.fw.udapi)) run start := by
  have initial : Exact prefixes (entries start.fw.udapi) start := by
    intro name cidr
    simp [begins]
  have both := @alongIff Tracked SetCall (setCall env)
    (fun a s => Ordinary env prefixes a s ∧ Exact prefixes (entries start.fw.udapi) (setCall env a s))
    (fun a s => Ordinary env prefixes a s ∧ Unshared prefixes (entries start.fw.udapi) a s) run start
    (Exact prefixes (entries start.fw.udapi))
    (fun _ _ s exact_ => and_congr_right (fun fine => setCallExact answering fine exact_))
    (fun _ _ s exact_ allowed => (setCallExact answering allowed.1 exact_).mpr allowed.2) initial
  rw [alongAnd,alongAnd,and_iff_right ordinary,and_iff_right ordinary] at both
  exact both

def quietEnv : FwEnv := ⟨fun _ => none,⟨fun _ => none,false⟩,fun _ _ => "",fun _ _ => none⟩

def twoEntries (first second : String) : Manifest :=
  ⟨"default",⟨"","",[],""⟩,(AList.singleton "t2" ⟨"z2","VPN Pack: B",[],second⟩).insert "t1" ⟨"z1","VPN Pack: A",[],first⟩,∅,"",""⟩

def twoZones (first second : String) : Tracked :=
  ⟨⟨⟨fun _ => [],1,(AList.singleton "CUSTOM1_subnets" ["192.168.9.0/24"]).insert "CUSTOM2_subnets" [],0⟩,
    ⟨twoEntries first second,0⟩,0⟩,fun _ => none⟩

def sharedNetwork : List SetCall :=
  [.setup background "t1" "wg-s2s0" ["10.1.0.0/16"],.setup background "t2" "wg-s2s1" ["10.1.0.0/16"],
    .remove "t1" "wg-s2s0" ["10.1.0.0/16"]]

theorem setsExactTwoZones : Along (setCall quietEnv) (fun a s => Exact (twoEntries "CUSTOM1" "CUSTOM2").wgS2sChainPrefix
        (entries (twoZones "CUSTOM1" "CUSTOM2").fw.udapi) (setCall quietEnv a s)) sharedNetwork (twoZones "CUSTOM1" "CUSTOM2") := by
  have ordinary : Along (setCall quietEnv) (Ordinary quietEnv (twoEntries "CUSTOM1" "CUSTOM2").wgS2sChainPrefix) sharedNetwork
      (twoZones "CUSTOM1" "CUSTOM2") :=
    ⟨⟨rfl,by decide +kernel,by decide +kernel,by decide +kernel⟩,
      ⟨by decide +kernel,by decide +kernel,by decide +kernel,by decide +kernel⟩,⟨by decide +kernel,trivial⟩,trivial⟩
  refine (setsExact (fun _ => rfl) (fun _ => rfl) ordinary).mpr ⟨⟨?_,?_⟩,⟨?_,?_⟩,⟨?_,?_⟩,trivial⟩
  · exact fun cidr taken => by cases taken
  · exact fun cidr owned => by cases owned
  · exact fun cidr taken => by cases taken
  · exact fun cidr owned => by cases owned
  · intro cidr taken elsewhere
    have same : cidr = "10.1.0.0/16" := mem_singleton.mp taken
    subst same
    rcases elsewhere with old | ⟨t,networks,other,up,zone,_⟩
    · exact absurd old (by decide +kernel)
    · by_cases second : t = "t2"
      · subst second
        exact absurd zone (by decide +kernel)
      · have down : (setCall quietEnv (.setup background "t2" "wg-s2s1" ["10.1.0.0/16"])
            (setCall quietEnv (.setup background "t1" "wg-s2s0" ["10.1.0.0/16"]) (twoZones "CUSTOM1" "CUSTOM2"))).up t = none :=
          (if_neg second).trans (if_neg other)
        rw [down] at up
        contradiction
  · exact fun cidr owned => .inl owned

theorem removalTakesShared : Along (setCall quietEnv) (Ordinary quietEnv (twoEntries "CUSTOM1" "CUSTOM1").wgS2sChainPrefix) sharedNetwork
      (twoZones "CUSTOM1" "CUSTOM1") ∧
    (sharedNetwork.foldl (fun s a => setCall quietEnv a s) (twoZones "CUSTOM1" "CUSTOM1")).up "t2" = some ["10.1.0.0/16"] ∧
    entries (sharedNetwork.foldl (fun s a => setCall quietEnv a s) (twoZones "CUSTOM1" "CUSTOM1")).fw.udapi "CUSTOM1_subnets" =
      ["192.168.9.0/24"] :=
  ⟨⟨⟨by decide +kernel,by decide +kernel,by decide +kernel,by decide +kernel⟩,
      ⟨by decide +kernel,by decide +kernel,by decide +kernel,by decide +kernel⟩,⟨by decide +kernel,trivial⟩,trivial⟩,
    by decide +kernel,by decide +kernel⟩

end VpnPack.Firewall
