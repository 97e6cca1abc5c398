import VpnPack.Service.Interleaved

/-! What one step of a thread leaves alone, the assertions of a thread that the steps of the others
therefore cannot break, and the calls that no assertion of a thread depends on. -/
namespace VpnPack.Service
open Base Firewall Integration List Ops State Udapi Wgs2s

section
variable {host : Host} {wg : WireGuard} {x y : Name} {c : Call} {s : Noted} {id : String} {t : TunnelConfig}

theorem performSite (ok : Succeeds host wg c s.sys) : (perform host wg x c s).2.sys.manifest.siteID = s.sys.manifest.siteID := by
  by_cases quiet : c.loud = false
  · exact (@quietView host wg s.sys c quiet).siteID
  · cases c with
    | setWgS2sZone tunnelID zm =>
      rw [performSet ok]
      rfl
    | removeWgS2sTunnel tunnelID =>
      rw [performRemove ok]
      rfl
    | ensureZone name =>
      obtain ⟨_,_,manifest,_⟩ := ensureZoneEffect ok
      exact congrArg Manifest.siteID manifest
    | createTunnel _ _ | deleteTunnel _ | deleteZone _ | postRule _ | deleteRule _ _ => rfl
    | _ => exact absurd rfl quiet

structure Grew (y : Name) (n n' : Notes) : Prop where
  read : ∀ id ∈ n.read, id ∈ n'.read
  listed : ∀ mark ∈ n.listed, mark ∈ n'.listed
  held : ∀ x, x ≠ y → n'.held x = n.held x

variable {n : Notes} {tunnels : List TunnelConfig}

theorem grewSame : Grew y n n := ⟨fun _ => id,fun _ => id,fun _ _ => rfl⟩

theorem grewHeld {zones : List String} : Grew y n (n.setHeld y zones) :=
  ⟨fun _ => id,fun _ => id,fun _ apart => setHeldOther apart⟩

theorem performGrew : Grew y s.notes (perform host wg y c s).2.notes := by
  cases c with
  | getWgS2sZone tunnelID =>
    cases y with
    | create n => exact grewSame
    | tick n => exact grewSame
    | delete other =>
      change Grew _ s.notes (s.notes.readBy other _)
      unfold Notes.readBy
      split
      · exact ⟨fun _ => mem_cons_of_mem _,fun _ => id,fun _ _ => rfl⟩
      · exact ⟨fun _ => mem_cons_of_mem _,fun _ => id,fun _ apart => Function.update_of_ne apart _ _⟩
  | listRules chain =>
    cases y with
    | create n => exact grewSame
    | tick n => exact grewSame
    | delete other => exact ⟨fun _ => id,fun _ => mem_cons_of_mem _,fun _ _ => rfl⟩
  | getWgS2sSnapshot | setWgS2sZone _ _ | deleteZone _ => exact grewHeld
  | ensureZone name =>
    change Grew y s.notes (note y (.ensureZone name) (execute host wg (.ensureZone name) s.sys).1 s.notes)
    cases (execute host wg (.ensureZone name) s.sys).1 with
    | error e => exact grewSame
    | ok zone => exact grewHeld
  | _ => exact grewSame

theorem performEntry (ok : Succeeds host wg c s.sys) (unset : ∀ zm, c ≠ .setWgS2sZone id zm) (unremoved : c ≠ .removeWgS2sTunnel id) :
    (perform host wg y c s).2.sys.manifest.wgS2s.lookup id = s.sys.manifest.wgS2s.lookup id := by
  by_cases quiet : c.loud = false
  · exact congrArg (fun entries => entries.lookup id) (@quietView host wg s.sys c quiet).entries
  · cases c with
    | setWgS2sZone tunnelID zm =>
      have other : id ≠ tunnelID := fun same => unset zm (by rw [same])
      rw [performSet ok]
      exact AList.lookup_insert_ne other
    | removeWgS2sTunnel tunnelID =>
      have other : id ≠ tunnelID := fun same => unremoved (by rw [same])
      rw [performRemove ok]
      exact AList.lookup_erase_ne other
    | ensureZone name =>
      obtain ⟨_,_,manifest,_⟩ := ensureZoneEffect ok
      exact congrArg (fun m : Manifest => m.wgS2s.lookup id) manifest
    | createTunnel _ _ | deleteTunnel _ | deleteZone _ | postRule _ | deleteRule _ _ => rfl
    | _ => exact absurd rfl quiet

theorem findAppend {idx : Nat} (found : findTunnel id tunnels = some (idx,t)) (more : List TunnelConfig) :
    findTunnel id (tunnels ++ more) = some (idx,t) := by
  induction tunnels generalizing idx with
  | nil => simp [findTunnel] at found
  | cons head rest ih =>
    simp only [cons_append,findTunnel] at found ⊢
    split at found
    · rename_i same
      rw [if_pos same]
      exact found
    · rename_i other
      rw [if_neg other]
      simp only [Option.map_eq_some_iff,Prod.mk.injEq,Prod.exists] at found ⊢
      obtain ⟨j,u,inside,next,rfl⟩ := found
      exact ⟨j,u,ih inside,next,rfl⟩

theorem findErase {gone : TunnelConfig} {j : Nat} (here : tunnels[j]? = some gone) (differs : gone.id ≠ id)
    (found : ∃ idx, findTunnel id tunnels = some (idx,t)) : ∃ idx, findTunnel id (tunnels.eraseIdx j) = some (idx,t) := by
  induction tunnels generalizing j with
  | nil => simp [findTunnel] at found
  | cons head rest ih =>
    simp only [findTunnel] at found
    cases j with
    | zero =>
      have same : head = gone := by simpa using here
      rw [if_neg (same ▸ differs)] at found
      obtain ⟨idx,found⟩ := found
      simp only [Option.map_eq_some_iff,Prod.mk.injEq,Prod.exists] at found
      obtain ⟨k,u,inside,_,rfl⟩ := found
      exact ⟨k,inside⟩
    | succ j =>
      simp only [eraseIdx_cons_succ,findTunnel]
      split at found
      · rename_i same
        rw [if_pos same]
        exact found
      · rename_i other
        rw [if_neg other]
        obtain ⟨idx,found⟩ := found
        simp only [Option.map_eq_some_iff,Prod.mk.injEq,Prod.exists] at found
        obtain ⟨k,u,inside,_,rfl⟩ := found
        obtain ⟨k',later⟩ := ih (by simpa using here) ⟨k,inside⟩
        exact ⟨k'+1,by rw [later]; rfl⟩

def Found (id : String) (t : TunnelConfig) (s : System) : Prop := ∃ idx, findTunnel id s.tunnels = some (idx,t)

theorem performFound (ok : Succeeds host wg c s.sys) (undeleted : c ≠ .deleteTunnel id) (found : Found id t s.sys) :
    Found id t (perform host wg y c s).2.sys := by
  by_cases quiet : c.loud = false
  · have tunnels := (@quietView host wg s.sys c quiet).tunnels
    obtain ⟨idx,found⟩ := found
    refine ⟨idx,?_⟩
    change findTunnel id (execute host wg c s.sys).2.tunnels = some (idx,t)
    rw [tunnels]
    exact found
  · cases c with
    | createTunnel cfg privateKey =>
      obtain ⟨tunnel,_,tunnels⟩ := createEffect ok
      obtain ⟨idx,found⟩ := found
      refine ⟨idx,?_⟩
      change findTunnel id (execute host wg (.createTunnel cfg privateKey) s.sys).2.tunnels = some (idx,t)
      rw [tunnels]
      exact findAppend found [tunnel]
    | deleteTunnel other =>
      obtain ⟨_,idx,gone,here,tunnels⟩ := deleteEffect ok
      obtain ⟨there,own⟩ := findTunnelSource here
      have apart : gone.id ≠ id := fun same => undeleted (by rw [← own,same])
      obtain ⟨idx',later⟩ := findErase there apart found
      refine ⟨idx',?_⟩
      change findTunnel id (execute host wg (.deleteTunnel other) s.sys).2.tunnels = some (idx',t)
      rw [tunnels]
      exact later
    | setWgS2sZone _ _ | removeWgS2sTunnel _ | ensureZone _ | deleteZone _ | postRule _ | deleteRule _ _ => exact found
    | _ => exact absurd rfl quiet

structure Clearing (id : String) (t : TunnelConfig) (chain : Chain) (ids : List Nat) (s : Noted) : Prop where
  found : Found id t s.sys
  listed : (id,chain) ∈ s.notes.listed
  left : ∀ r ∈ s.sys.udapi.rules chain, r.marker = wgS2sMarker t.interfaceName → r.id ∈ ids

theorem performClearing {chain : Chain} {ids : List Nat} (ok : Succeeds host wg c s.sys) (timely : Timely c s) (undeleted : c ≠ .deleteTunnel id)
    (clearing : Clearing id t chain ids s) : Clearing id t chain ids (perform host wg y c s).2 := by
  refine ⟨performFound ok undeleted clearing.found,performGrew.listed _ clearing.listed,fun r member marked => ?_⟩
  rcases performRules ok member with old | ⟨posted,rfl,here,marker⟩
  · exact clearing.left r old marked
  · obtain ⟨idx,found⟩ := clearing.found
    obtain ⟨there,own⟩ := findTunnelSource found
    have unlisted := (timely t.interfaceName (marker.symm.trans marked)).2 t (mem_of_getElem? there) rfl
    rw [own,← here] at unlisted
    exact absurd clearing.listed unlisted

structure Entry (id : String) (entry : Option ZoneManifest) (s : Noted) : Prop where
  read : id ∈ s.notes.read
  same : s.sys.manifest.wgS2s.lookup id = entry

theorem performEntryRead {entry : Option ZoneManifest} (ok : Succeeds host wg c s.sys) (timely : Timely c s)
    (unremoved : c ≠ .removeWgS2sTunnel id) (known : Entry id entry s) : Entry id entry (perform host wg y c s).2 := by
  refine ⟨performGrew.read _ known.read,?_⟩
  rw [performEntry ok (fun zm set => ?_) unremoved]
  · exact known.same
  · subst set
    exact timely.2.1 known.read

end

def Call.still : Call → Bool
  | .deleteTunnel _ => false
  | .getWgS2sZone _ => false
  | .getWgS2sSnapshot => false
  | .setWgS2sZone _ _ => false
  | .removeWgS2sTunnel _ => false
  | .ensureZone _ => false
  | .deleteZone _ => false
  | _ => true

def Call.plain : Call → Bool
  | .deleteTunnel _ => false
  | .removeWgS2sTunnel _ => false
  | .ensureZone _ => false
  | _ => true

section
open Prog

abbrev Program.Still {α : Type} (p : Program α) : Prop := p.Uses (fun c => c.still = true)
abbrev Program.Plain {α : Type} (p : Program α) : Prop := p.Uses (fun c => c.plain = true)

theorem stillPlain {α : Type} {p : Program α} (still : Program.Still p) : Program.Plain p :=
  usesMono still (fun c alone => by cases c <;> first | rfl | contradiction)

theorem stillAsk {c : Call} (still : c.still = true) : Program.Still (Program.ask c) := usesAsk still

theorem stillAddRule (r : FirewallRule) : Program.Still (Program.AddRule r) := by
  refine usesBind (usesAsk rfl) (fun listed => ?_)
  cases listed with
  | error e => exact usesPure _
  | ok rules =>
    dsimp only
    split
    · exact usesPure _
    · exact usesWrapping _ (usesAsk rfl)

theorem stillRemoveMarkerRules (marker : String) (chain : Chain) : Program.Still (Program.removeMarkerRules marker chain) := by
  refine usesBind (usesAsk rfl) (fun listed => ?_)
  cases listed with
  | error e => exact usesPure _
  | ok rules => exact usesForEach (fun _ => usesWrapping _ (stillAsk rfl)) _

variable (present : Dict Bool) (tunnels : List TunnelConfig) (port : Int) (tunnelID iface ipsetName : String) (allowedIPs cidrs : List String)

theorem stillEnsureZoneSubnets : Program.Still (Program.EnsureZoneSubnets ipsetName cidrs) := by
  unfold Program.EnsureZoneSubnets
  split
  · exact usesPure _
  · refine usesBind (usesAsk rfl) (fun found => ?_)
    split
    · exact usesPure _
    · exact usesPure _
    · dsimp only
      split
      · exact usesPure _
      · exact usesWrapping _ (usesAsk rfl)

theorem stillRemoveSubnet (cidr : String) : Program.Still (Program.RemoveZoneSubnet ipsetName cidr) := by
  refine usesBind (usesAsk rfl) (fun found => ?_)
  split
  · exact usesPure _
  · exact usesPure _
  · dsimp only
    split
    · exact usesPure _
    · exact usesWrapping _ (usesAsk rfl)

theorem stillRemoveSubnets : Program.Still (Program.removeSubnets ipsetName cidrs) :=
  usesForEach (fun cidr => usesBind (stillRemoveSubnet ipsetName cidr) (fun _ => usesPure _)) cidrs

theorem plainCurrentChainPrefix : Program.Plain (Program.currentChainPrefix tunnelID) := by
  refine usesBind (usesAsk rfl) (fun chainPrefix => ?_)
  split
  · refine usesBind (usesAsk rfl) (fun entry => ?_)
    cases entry with
    | none => exact usesPure _
    | some zm =>
      dsimp only
      split
      · refine usesBind (usesAsk rfl) (fun rediscovered => ?_)
        split
        · exact usesPure _
        · exact usesBind (usesAsk rfl) (fun _ => usesPure _)
      · exact usesPure _
  · exact usesPure _

theorem stillFilterBlocked : Program.Still (Program.filterBlockedAllowedIPs iface allowedIPs) := by
  unfold Program.filterBlockedAllowedIPs
  split
  · exact usesPure _
  · refine usesBind (usesAsk rfl) (fun collected => ?_)
    cases collected with
    | none | some _ => exact usesPure _

theorem stillUndoAll {steps : List Program.Step} (each : ∀ step ∈ steps, Program.Still step.Undo) : Program.Still (Program.undoAll steps) := by
  induction steps with
  | nil => exact usesPure _
  | cons step rest ih =>
    have later := ih (fun other member => each other (mem_cons_of_mem step member))
    refine usesBind (each step mem_cons_self) (fun err => ?_)
    cases err with
    | none => exact later
    | some e => exact usesBind later (fun _ => usesPure _)

theorem stillRunFrom {completed steps : List Program.Step} (before : ∀ step ∈ completed, Program.Still step.Undo)
    (each : ∀ step ∈ steps, Program.Still step.Do ∧ Program.Still step.Undo) : Program.Still (Program.runFrom completed steps) := by
  induction steps generalizing completed with
  | nil => exact usesPure _
  | cons step rest ih =>
    obtain ⟨does,undoes⟩ := each step mem_cons_self
    refine usesBind does (fun err => ?_)
    cases err with
    | some e => exact usesBind (stillUndoAll before) (fun _ => usesPure _)
    | none =>
      refine ih (fun other member => ?_) (fun other member => each other (mem_cons_of_mem step member))
      rcases mem_cons.mp member with rfl | earlier
      · exact undoes
      · exact before other earlier

theorem stillSetupSteps {iface chainPrefix : String} {filtered : List String} {step : Program.Step}
    (member : step ∈ Program.setupSteps iface chainPrefix filtered) : Program.Still step.Do ∧ Program.Still step.Undo := by
  unfold Program.setupSteps at member
  rcases mem_cons.mp member with rfl | fills
  · exact ⟨usesAttemptAll stillAddRule _,usesAttemptAll (stillRemoveMarkerRules _) _⟩
  · split at fills
    · cases mem_singleton.mp fills
      exact ⟨stillEnsureZoneSubnets _ _,stillRemoveSubnets _ _⟩
    · contradiction

theorem plainSetupFirewall : Program.Plain (Program.SetupWgS2sFirewall tunnelID iface allowedIPs) := by
  refine usesBind (plainCurrentChainPrefix tunnelID) (fun chainPrefix => ?_)
  refine usesBind (stillPlain (stillFilterBlocked iface allowedIPs)) (fun filtered => ?_)
  refine usesBind (usesAsk rfl) (fun _ => ?_)
  exact stillPlain (stillRunFrom (fun _ member => by cases member) (fun _ member => stillSetupSteps member))

theorem stillRemoveEntries : Program.Still (Program.RemoveWgS2sIPSetEntries tunnelID cidrs) := by
  refine usesBind (usesAsk rfl) (fun chainPrefix => ?_)
  split
  · exact usesPure _
  · exact stillRemoveSubnets _ _

theorem stillResolve (siteID : String) : Program.Still (Program.resolveSystemZones siteID) := by
  refine usesBind (usesAsk rfl) (fun known => ?_)
  split
  · exact usesPure _
  · refine usesBind (usesAsk rfl) (fun found => ?_)
    split
    · exact usesPure _
    · refine usesBind (usesAsk rfl) (fun err => ?_)
      cases err with
      | none | some _ => exact usesPure _

theorem stillOpenWanPort : Program.Still (Program.openWanPort port iface) := by
  refine usesBind (usesBind (usesAsk rfl) (fun ready => ?_)) (fun err => usesAsk rfl)
  split
  · exact usesPure _
  · refine usesBind (usesAsk rfl) (fun policyID => ?_)
    split
    · exact usesPure _
    · refine usesBind (usesAsk rfl) (fun siteID => usesBind (stillResolve siteID) (fun zones => ?_))
      split
      · exact usesPure _
      · refine usesBind (usesAsk rfl) (fun made => ?_)
        split
        · exact usesPure _
        · exact usesWrapping _ (usesAsk rfl)

theorem stillCloseWanPort : Program.Still (Program.closeWanPort port iface) := by
  unfold Program.closeWanPort
  split
  · exact usesPure _
  · refine usesBind (usesBind (usesAsk rfl) (fun ready => ?_)) (fun err => usesAsk rfl)
    split
    · exact usesPure _
    · refine usesBind (usesAsk rfl) (fun policyID => ?_)
      split
      · exact usesPure _
      · refine usesBind (usesAsk rfl) (fun siteID => usesBind (usesAsk rfl) (fun gone => ?_))
        split
        · split
          · exact usesWrapping _ (usesAsk rfl)
          · exact usesPure _
        · exact usesWrapping _ (usesAsk rfl)

theorem stillDeletePolicies (policyIDs : List String) : Program.Still (Program.deletePolicies policyIDs) := by
  induction policyIDs with
  | nil => exact usesPure _
  | cons policyID rest ih => exact usesBind (usesAsk rfl) (fun _ => ih)

theorem plainInstall (t : TunnelConfig) : Program.Plain (Program.installTunnelFirewall t) := by
  refine usesBind (plainSetupFirewall t.id t.interfaceName t.cidrs) (fun err => usesBind (usesAsk rfl) (fun _ => ?_))
  exact usesBind (stillPlain (stillOpenWanPort t.listenPort t.interfaceName)) (fun _ => usesPure _)

theorem plainEnrich (config : TunnelConfig) (warnings : List SubnetConflict) : Program.Plain (Program.enrichTunnelInfo config warnings) := by
  refine usesBind (usesAsk rfl) (fun entry => ?_)
  cases entry with
  | none | some _ => exact usesPure _

theorem stillValidateSubnets : Program.Still (Program.validateSubnets allowedIPs) := by
  refine usesBind (usesAsk rfl) (fun collected => ?_)
  cases collected with
  | error _ | ok _ => exact usesPure _

theorem stillCheckSpecs : Program.Still (Program.checkSpecs tunnels) := by
  induction tunnels with
  | nil => exact usesPure _
  | cons t rest ih =>
    unfold Program.checkSpecs
    split
    · exact usesBind (usesAsk rfl) (fun _ => usesBind ih (fun _ => usesPure _))
    · exact ih

theorem stillIpsetHas (setName : String) (cidrs : List String) : Program.Still (Program.ipsetHas setName cidrs) := by
  induction cidrs with
  | nil => exact usesPure _
  | cons cidr rest ih =>
    refine usesBind (usesAsk rfl) (fun present => ?_)
    split
    · exact ih
    · exact usesPure _

theorem stillCheckSpec (spec : WgS2sCheckSpec) : Program.Still (Program.checkSpec spec) := by
  refine usesBind (usesAsk rfl) (fun _ => usesBind (usesAsk rfl) (fun _ => usesBind (usesAsk rfl) (fun _ => ?_)))
  split
  · exact usesBind (stillIpsetHas _ _) (fun _ => usesPure _)
  · exact usesPure _

theorem stillCheckEach (specs : List WgS2sCheckSpec) (present : Dict Bool) : Program.Still (Program.checkEach specs present) := by
  induction specs generalizing present with
  | nil => exact usesPure _
  | cons spec rest ih => exact usesBind (stillCheckSpec spec) (fun _ => ih _)

theorem plainRestoreEach : Program.Plain (Program.restoreEach present tunnels) := by
  induction tunnels with
  | nil => exact usesPure _
  | cons t rest ih =>
    unfold Program.restoreEach
    split
    · exact usesBind (plainSetupFirewall _ _ _) (fun _ => usesBind (usesAsk rfl) (fun _ => ih))
    · exact ih

end
section
variable {host : Host} {wg : WireGuard} {first : List String} {x : Name} {c : Call} {s : Noted} {id : String} {t : TunnelConfig}

theorem performStill (still : c.still = true) : Promised host x c s ∧ (perform host wg x c s).2.notes.held = s.notes.held := by
  cases c with
  | listRules chain =>
    refine ⟨trivial,?_⟩
    cases x with
    | create n => rfl
    | tick n => rfl
    | delete id => rfl
  | deleteTunnel _ | getWgS2sZone _ | getWgS2sSnapshot | setWgS2sZone _ _ | removeWgS2sTunnel _ | ensureZone _ | deleteZone _ => contradiction
  | _ => exact ⟨trivial,rfl⟩

theorem performPlain (plain : c.plain = true) (outside : ∀ id, x ≠ .delete id) (free : s.notes.held x = []) :
    Promised host x c s ∧ (perform host wg x c s).2.notes.held x = [] := by
  by_cases still : c.still = true
  · obtain ⟨promises,held⟩ := @performStill host wg x c s still
    exact ⟨promises,(congrFun held x).trans free⟩
  · cases c with
    | getWgS2sZone tunnelID =>
      refine ⟨fun id own => absurd own (outside id),?_⟩
      cases x with
      | create n => exact free
      | tick n => exact free
      | delete id => exact absurd rfl (outside id)
    | getWgS2sSnapshot | deleteZone _ =>
      refine ⟨trivial,setHeldOwn.trans ?_⟩
      rw [free]
      rfl
    | setWgS2sZone tunnelID zm => exact ⟨by intro zoneID held; rw [free] at held; contradiction,setHeldOwn⟩
    | deleteTunnel _ | removeWgS2sTunnel _ | ensureZone _ => contradiction
    | _ => exact absurd rfl still

theorem stableHeld (zones : List String) : (discipline host wg first).Stable x (fun s => s.notes.held x = zones) :=
  fun _ _ _ differs _ _ _ here => (performGrew.held _ (Ne.symm differs)).trans here

theorem stableReady : (discipline host wg first).Stable x (fun s => Ready host s.sys) :=
  fun _ _ _ _ _ allows _ here => (readySame (performSite allows.1)).mpr here

theorem stableUnready : (discipline host wg first).Stable x (fun s => ¬ Ready host s.sys) :=
  fun _ _ _ _ _ allows _ here ready => here ((readySame (performSite allows.1)).mp ready)

theorem stableFound : (discipline host wg first).Stable (.delete id) (fun s => Found id t s.sys) :=
  fun _ _ _ differs _ allows promises found =>
    performFound allows.1 (fun deletes => differs (by subst deletes; exact promises.1)) found

theorem stableClearing {chain : Chain} {ids : List Nat} : (discipline host wg first).Stable (.delete id) (Clearing id t chain ids) :=
  fun _ _ _ differs _ allows promises clearing =>
    performClearing allows.1 allows.2 (fun deletes => differs (by subst deletes; exact promises.1)) clearing

theorem stableEntry {entry : Option ZoneManifest} : (discipline host wg first).Stable (.delete id) (Entry id entry) :=
  fun _ _ _ differs _ allows promises known =>
    performEntryRead allows.1 allows.2 (fun removes => differs (by subst removes; exact promises.1)) known

theorem keepsCall {p : Noted → Prop} {post : c.Answer → Noted → Prop} (stable : (discipline host wg first).Stable x p)
    (after : ∀ r, (discipline host wg first).Stable x (post r)) (here : p s) (does : ∀ t, p t → Succeeds host wg c t.sys → Timely c t →
      Promised host x c t ∧ post (perform host wg x c t).1 (perform host wg x c t).2) :
    (discipline host wg first).Keeps x post (Program.ask c) s := by
  refine Discipline.keepsAsk stable after here (fun t now holds allows => ?_)
  obtain ⟨promises,ends⟩ := does t now allows.1 allows.2
  exact ⟨promises,performConsistent holds allows promises,ends⟩

theorem keepsPlain {α : Type} {prog : Program α} (uses : prog.Uses (fun c => c.plain = true)) (outside : ∀ id, x ≠ .delete id)
    (free : s.notes.held x = []) : (discipline host wg first).Keeps x (fun _ s => s.notes.held x = []) prog s := by
  refine Discipline.keepsUses (stableHeld []) uses (fun c t plain here holds allows => ?_) free
  obtain ⟨promises,kept⟩ := @performPlain host wg x c t plain outside here
  exact ⟨promises,performConsistent holds allows promises,kept⟩

end
end VpnPack.Service
