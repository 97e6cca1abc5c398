import VpnPack.Service.Interference

/-! CreateTunnel, DeleteTunnel and the watcher's tick each keep the system consistent, whatever the
others do meanwhile, as long as every call succeeds and is timely. -/
namespace VpnPack.Service
open Base Firewall Integration List Ops State Udapi Wgs2s
open Program (setupNamedZone ask always)
open Prog (usesBind usesAsk usesPure)
open Discipline (stableAnd stableFalse keepsBind stableFact keepsPure stableIf keepsMap keepsUses keepsMono)

section
variable {host : Host} {wg : WireGuard} {first : List String} {x : Name} {c : Call} {s : Noted} {id : String} {t : TunnelConfig}

variable {tunnelID zoneName zoneID : String}

theorem keepsNamedZone (free : s.notes.held x = []) (ready : Ready host s.sys) :
    (discipline host wg first).Keeps x (fun _ s => s.notes.held x = []) (setupNamedZone tunnelID zoneName) s := by
  unfold setupNamedZone
  have ensures : (discipline host wg first).Keeps x
      (fun made s => match made with
        | .ok zone => s.notes.held x = [zone.id]
        | .error _ => False) (ask (.ensureZone (displayName zoneName))) s := by
    refine keepsCall (stableAnd (stableHeld []) stableReady) (fun made => ?_) ⟨free,ready⟩ (fun t here ok _ => ?_)
    · cases made with
      | ok zone => exact stableHeld [zone.id]
      | error e => exact stableFalse
    · obtain ⟨zone,returned,_,_⟩ := ensureZoneEffect ok
      refine ⟨⟨here.2,here.1⟩,?_⟩
      change match (execute host wg (.ensureZone (displayName zoneName)) t.sys).1 with
        | .ok zone => (note x (.ensureZone (displayName zoneName)) (execute host wg (.ensureZone (displayName zoneName)) t.sys).1 t.notes).held x =
          [zone.id]
        | .error _ => False
      rw [returned]
      exact setHeldOwn
  refine keepsBind ensures (fun made t held _ => ?_)
  cases made with
  | error e => contradiction
  | ok zone =>
    have policies : (discipline host wg first).Keeps x
        (fun made s => match made with
          | .ok _ => s.notes.held x = [zone.id]
          | .error _ => False) (ask (.ensurePolicies (orDefaultZone zoneName) zone.id)) t := by
      refine keepsCall (stableHeld [zone.id]) (fun made => ?_) held (fun u here ok _ => ?_)
      · cases made with
        | ok policyIDs => exact stableHeld [zone.id]
        | error e => exact stableFalse
      · refine ⟨trivial,?_⟩
        have succeeded : (perform host wg x (.ensurePolicies (orDefaultZone zoneName) zone.id) u).1.toBool = true := ok
        cases made : (perform host wg x (.ensurePolicies (orDefaultZone zoneName) zone.id) u).1 with
        | ok policyIDs => exact here
        | error e =>
          rw [made] at succeeded
          contradiction
    refine keepsBind policies (fun made u held _ => ?_)
    cases made with
    | error e => contradiction
    | ok policyIDs =>
      refine keepsBind (keepsCall (stableHeld [zone.id]) (fun _ => stableHeld [zone.id]) held (fun _ here _ _ => ⟨trivial,here⟩))
        (fun found v held _ => ?_)
      have records : (discipline host wg first).Keeps x (fun err s => err = none ∧ s.notes.held x = [])
          (ask (.setWgS2sZone tunnelID ⟨zone.id,zone.name,policyIDs,if found ≠ "" then found else defaultChainPrefix⟩)) v := by
        refine keepsCall (stableHeld [zone.id]) (fun _ => stableFact (stableHeld [])) held (fun u here ok _ => ?_)
        refine ⟨fun zoneID member => ?_,(recordEffect ok).1,setHeldOwn⟩
        rw [here] at member
        exact mem_singleton.mp member
      refine keepsBind records (fun err w written _ => ?_)
      obtain ⟨rfl,free⟩ := written
      exact keepsPure (stableHeld []) free (fun _ _ still => still)

section
variable (outside : ∀ id, x ≠ .delete id) (free : s.notes.held x = [])
include outside free

theorem keepsSetupZone :
    (discipline host wg first).Keeps x (fun _ s => s.notes.held x = []) (Program.SetupWgS2sZone tunnelID zoneID zoneName) s := by
  have asks : (discipline host wg first).Keeps x (fun answer s => s.notes.held x = [] ∧ (answer = true → Ready host s.sys))
      (ask .requireIntegration) s := by
    exact keepsCall (stableHeld []) (fun _ => stableAnd (stableHeld []) (stableIf stableReady)) free
      (fun t here _ _ => ⟨trivial,here,id⟩)
  refine keepsBind asks (fun answer t here _ => ?_)
  obtain ⟨free,ready⟩ := here
  split
  · exact keepsPure (stableHeld []) free (fun _ _ still => still)
  · rename_i asked
    split
    ·
      refine keepsPlain ?_ outside free
      refine usesBind (usesAsk rfl) (fun snapshot => ?_)
      split
      · exact usesPure _
      · refine usesBind (usesAsk rfl) (fun err => ?_)
        cases err with
        | none | some _ => exact usesPure _
    · exact keepsNamedZone free (ready (by simpa using asked))

theorem keepsTunnelZone {createZone : Bool} :
    (discipline host wg first).Keeps x (fun _ s => s.notes.held x = []) (Program.setupTunnelZone tunnelID createZone zoneID zoneName) s := by
  refine keepsBind (keepsPlain (usesAsk rfl) outside free) (fun ready t free _ => ?_)
  split
  · exact keepsPure (stableHeld []) free (fun _ _ still => still)
  · split
    · exact keepsMap (keepsSetupZone outside free)
    · split
      · exact keepsMap (keepsSetupZone outside free)
      · refine keepsBind (keepsPlain (usesAsk rfl) outside free) (fun zones u free _ => ?_)
        split
        · exact keepsMap (keepsSetupZone outside free)
        · exact keepsPure (stableHeld []) free (fun _ _ still => still)

theorem keepsFurnish {req : CreateRequest} {warnings : List SubnetConflict} {tunnel : TunnelConfig} :
    (discipline host wg first).Keeps x (fun _ s => s.notes.held x = []) (Program.furnish req warnings tunnel) s := by
  refine keepsBind (keepsTunnelZone outside free) (fun zoneResult t free _ => ?_)
  refine keepsPlain ?_ outside free
  exact usesBind (plainInstall tunnel) (fun _ => usesBind (plainEnrich tunnel warnings) (fun _ => usesPure _))

theorem keepsCreateTunnel {req : CreateRequest} :
    (discipline host wg first).Keeps x (fun _ s => s.notes.held x = []) (Program.CreateTunnel req) s := by
  unfold Program.CreateTunnel
  split
  · exact keepsPure (stableHeld []) free (fun _ _ still => still)
  · refine keepsBind (keepsPlain (stillPlain (stillValidateSubnets _)) outside free) (fun validated t free _ => ?_)
    split
    · exact keepsPure (stableHeld []) free (fun _ _ still => still)
    · refine keepsBind (keepsPlain (usesAsk rfl) outside free) (fun created u free _ => ?_)
      split
      · exact keepsPure (stableHeld []) free (fun _ _ still => still)
      · exact keepsMap (keepsFurnish outside free)

theorem keepsReconcileEach {tunnels : List TunnelConfig} :
    (discipline host wg first).Keeps x (fun _ s => s.notes.held x = []) (Program.reconcileEach tunnels) s := by
  induction tunnels generalizing s with
  | nil => exact keepsPure (stableHeld []) free (fun _ _ still => still)
  | cons t rest ih =>
    refine keepsBind (keepsPlain (usesAsk rfl) outside free) (fun entry u free _ => ?_)
    cases entry with
    | some zm => exact ih free
    | none =>
      have zone : (discipline host wg first).Keeps x (fun _ s => s.notes.held x = []) (Program.reconcileTunnelZone t.id) u := by
        refine keepsBind (keepsPlain (usesAsk rfl) outside free) (fun ready v free _ => ?_)
        split
        · exact keepsPure (stableHeld []) free (fun _ _ still => still)
        · refine keepsBind (keepsPlain (usesAsk rfl) outside free) (fun zones w free _ => ?_)
          split <;> exact keepsMap (keepsSetupZone outside free)
      refine keepsBind zone (fun result v free _ => ?_)
      cases result with
      | none => exact keepsPure (stableHeld []) free (fun _ _ still => still)
      | some done => exact ih free

theorem keepsTick : (discipline host wg first).Keeps x (fun _ s => s.notes.held x = []) Program.restoreWgS2sRules s := by
  have zones : (discipline host wg first).Keeps x (fun _ s => s.notes.held x = []) Program.ReconcileZones s :=
    keepsBind (keepsPlain (usesAsk rfl) outside free) (fun tunnels t free _ => keepsReconcileEach outside free)
  refine keepsBind zones (fun _ t free _ => keepsPlain ?_ outside free)
  refine usesBind (usesAsk rfl) (fun tunnels => usesBind (stillPlain (stillCheckSpecs tunnels)) (fun specs => ?_))
  split
  · exact usesPure _
  · exact usesBind (stillPlain (stillCheckEach specs ∅)) (fun present => plainRestoreEach present tunnels)

end

/- DeleteTunnel at work: the tunnel is still listed, every chain outside the rest is free of its rules, and
these are the zones it has still to see to. -/
structure Taken (id : String) (t : TunnelConfig) (rest : List Chain) (zones : List String) (s : Noted) : Prop where
  found : Found id t s.sys
  cleared : ∀ chain, chain ∉ rest → Clearing id t chain [] s
  held : s.notes.held (.delete id) = zones

variable {rest : List Chain} {zones : List String} {entry : Option ZoneManifest}

theorem stableTaken : (discipline host wg first).Stable (.delete id) (Taken id t rest zones) :=
  fun y c u differs holds allows promises taken =>
    ⟨stableFound y c u differs holds allows promises taken.found,
      fun chain outside => stableClearing y c u differs holds allows promises (taken.cleared chain outside),
      stableHeld zones y c u differs holds allows promises taken.held⟩

theorem performTaken {later : List String} (ok : Succeeds host wg c s.sys) (timely : Timely c s) (undeleted : c ≠ .deleteTunnel id)
    (held : (perform host wg x c s).2.notes.held (.delete id) = later) (taken : Taken id t rest zones s) :
    Taken id t rest later (perform host wg x c s).2 :=
  ⟨performFound ok undeleted taken.found,fun chain outside => performClearing ok timely undeleted (taken.cleared chain outside),held⟩

theorem stillTaken (still : c.still = true) (ok : Succeeds host wg c s.sys) (timely : Timely c s) (taken : Taken id t rest zones s) :
    Taken id t rest zones (perform host wg (.delete id) c s).2 := by
  refine performTaken ok timely (fun deletes => ?_) ((congrFun (performStill still).2 _).trans taken.held) taken
  subst deletes
  contradiction

theorem stillEntry (still : c.still = true) (ok : Succeeds host wg c s.sys) (timely : Timely c s) (known : Entry id entry s) :
    Entry id entry (perform host wg (.delete id) c s).2 := by
  refine performEntryRead ok timely (fun removes => ?_) known
  subst removes
  contradiction

theorem keepsStill {α : Type} {prog : Program α} {p : Noted → Prop} (uses : Program.Still prog) (stable : (discipline host wg first).Stable x p)
    (kept : ∀ c t, c.still = true → Succeeds host wg c t.sys → Timely c t → p t → p (perform host wg x c t).2) (here : p s) :
    (discipline host wg first).Keeps x (fun _ => p) prog s := by
  refine keepsUses stable uses (fun c t still now holds allows => ?_) here
  have promises := (@performStill host wg x c t still).1
  exact ⟨promises,performConsistent holds allows promises,kept c t still allows.1 allows.2 now⟩

theorem deleteRuleClearing {chain : Chain} {ruleID : Nat} {ids : List Nat} (ok : Succeeds host wg (.deleteRule chain ruleID) s.sys)
    (clearing : Clearing id t chain (ruleID :: ids) s) : Clearing id t chain ids (perform host wg x (.deleteRule chain ruleID) s).2 := by
  refine ⟨clearing.found,clearing.listed,fun r member marked => ?_⟩
  have udapi : (perform host wg x (.deleteRule chain ruleID) s).2.sys.udapi =
      Udapi.deleteRule chain ruleID {s.sys.udapi with calls := s.sys.udapi.calls+1} :=
    (@configEffect host s.sys (Udapi.deleteRule chain ruleID) ok).2
  rw [udapi] at member
  change r ∈ (if chain = chain then (s.sys.udapi.rules chain).filter (fun r => r.id != ruleID) else s.sys.udapi.rules chain) at member
  rw [if_pos rfl] at member
  obtain ⟨old,other⟩ := mem_filter.mp member
  rcases mem_cons.mp (clearing.left r old marked) with same | later
  · rw [same] at other
    simp at other
  · exact later

theorem keepsRemoveMarker {chain : Chain} (taken : Taken id t (chain :: rest) zones s) :
    (discipline host wg first).Keeps (.delete id) (fun _ => Taken id t rest zones)
      (Program.removeMarkerRules (wgS2sMarker t.interfaceName) chain) s := by
  have lists : (discipline host wg first).Keeps (.delete id)
      (fun answer s => match answer with
        | .ok rules => Taken id t (chain :: rest) zones s ∧
          Clearing id t chain ((rules.filter (fun r => r.marker == wgS2sMarker t.interfaceName)).map Rule.id) s
        | .error _ => False) (ask (.listRules chain)) s := by
    refine keepsCall stableTaken (fun answer => ?_) taken (fun u now ok timely => ⟨trivial,?_⟩)
    · cases answer with
      | ok rules => exact stableAnd stableTaken stableClearing
      | error e => exact stableFalse
    · have answered : (perform host wg (.delete id) (.listRules chain) u).1 = .ok (u.sys.udapi.rules chain) := listEffect ok
      rw [answered]
      refine ⟨stillTaken rfl ok timely now,now.found,mem_cons_self,fun r member marked => ?_⟩
      change r ∈ (listRulesOf host.fw.link chain u.sys.udapi).2.rules chain at member
      rw [listedView] at member
      exact mem_map_of_mem (mem_filter.mpr ⟨member,by rw [marked]; exact beq_self_eq_true _⟩)
  refine keepsBind lists (fun answer u now holds' => ?_)
  cases answer with
  | error e => contradiction
  | ok rules =>
    obtain ⟨now,clearing⟩ := now
    have deletes := @Discipline.keepsForEach Name Call Call.Answer Rule Noted (discipline host wg first) (.delete id) u
      (fun left s => Taken id t (chain :: rest) zones s ∧ Clearing id t chain (left.map Rule.id) s)
      (fun r : Rule => Prog.wrapping ("delete " ++ chain.name ++ " rule " ++ Nat.repr r.id) (ask (.deleteRule chain r.id)))
      (rules.filter (fun r => r.marker == wgS2sMarker t.interfaceName))
      (stableAnd stableTaken stableClearing) ⟨now,clearing⟩ holds' (fun r left v both _ => ?_)
    · refine keepsMono deletes (fun err v _ both => ?_)
      obtain ⟨_,taken,last⟩ := both
      refine ⟨taken.found,fun other outside => ?_,taken.held⟩
      by_cases same : other = chain
      · exact same ▸ last
      · exact taken.cleared other (by simp [same,outside])
    · have goes : (discipline host wg first).Keeps (.delete id)
          (fun err s => err = none ∧ Taken id t (chain :: rest) zones s ∧ Clearing id t chain (left.map Rule.id) s)
          (ask (.deleteRule chain r.id)) v :=
        keepsCall (stableAnd stableTaken stableClearing)
          (fun _ => stableFact (stableAnd stableTaken stableClearing)) both
          (fun w now ok timely => ⟨trivial,(@configEffect host w.sys (Udapi.deleteRule chain r.id) ok).1,
            stillTaken rfl ok timely now.1,deleteRuleClearing ok now.2⟩)
      refine keepsBind goes (fun err w now _ => ?_)
      obtain ⟨rfl,still⟩ := now
      exact keepsPure (stableAnd stableTaken stableClearing) still (fun _ _ last => ⟨rfl,last⟩)

theorem keepsTeardownFirewall (found : Found id t s.sys) (free : s.notes.held (.delete id) = []) (holds : Consistent host first s) :
    (discipline host wg first).Keeps (.delete id) (fun _ => Taken id t [] []) (Program.teardownTunnelFirewall t) s := by
  have chains : Taken id t Chain.all [] s := ⟨found,fun chain outside => absurd (by cases chain <;> decide) outside,free⟩
  have removes : (discipline host wg first).Keeps (.delete id) (fun _ => Taken id t [] []) (Program.RemoveInterfaceRules (wgS2sMarker t.interfaceName)) s :=
    @Discipline.keepsAttemptAll Name Call Call.Answer Chain Noted (discipline host wg first) (.delete id) s (fun rest => Taken id t rest [])
      (Program.removeMarkerRules (wgS2sMarker t.interfaceName)) Chain.all stableTaken chains holds (fun _ _ _ taken _ => keepsRemoveMarker taken)
  have clean {α : Type} {prog : Program α} {u : Noted} (uses : Program.Still prog) (taken : Taken id t [] [] u) :
      (discipline host wg first).Keeps (.delete id) (fun _ => Taken id t [] []) prog u :=
    keepsStill uses stableTaken (fun _ _ still ok timely now => stillTaken still ok timely now) taken
  have firewall : (discipline host wg first).Keeps (.delete id) (fun _ => Taken id t [] []) (Program.RemoveWgS2sFirewall t.id t.interfaceName t.cidrs) s :=
    keepsBind removes
      (fun _ _ taken _ => clean (usesBind (stillRemoveEntries t.id t.cidrs) (fun _ => usesPure _)) taken)
  exact keepsBind firewall (fun _ _ taken _ => clean (stillCloseWanPort t.listenPort t.interfaceName) taken)

def zonesOf : Option ZoneManifest → List String
  | none => []
  | some zm => if zm.zoneID = "" then [] else [zm.zoneID]

/- The entry is gone, and with it the zone unless another entry names it; without an API the zone is left. -/
def TornDown (host : Host) (id : String) (t : TunnelConfig) (s : Noted) : Prop :=
  Entry id none s ∧ ∃ zones, Taken id t [] zones s ∧ (zones = [] ∨ ¬ Ready host s.sys)

theorem stableTornDown : (discipline host wg first).Stable (.delete id) (TornDown host id t) := by
  intro y c u differs holds allows promises torn
  obtain ⟨known,zones,taken,ended⟩ := torn
  refine ⟨stableEntry y c u differs holds allows promises known,zones,stableTaken y c u differs holds allows promises taken,?_⟩
  exact ended.imp_right (fun unready => stableUnready y c u differs holds allows promises unready)

theorem keepsReadEntry (taken : Taken id t [] [] s) :
    (discipline host wg first).Keeps (.delete id) (fun entry s => Entry id entry s ∧ Taken id t [] (zonesOf entry) s)
      (ask (.getWgS2sZone id)) s := by
  refine keepsCall stableTaken (fun _ => stableAnd stableEntry stableTaken) taken (fun u now ok timely => ⟨?_,?_,?_⟩)
  · intro other own
    cases own
    exact ⟨rfl,now.held⟩
  · refine ⟨?_,rfl⟩
    change id ∈ (u.notes.readBy id (u.sys.manifest.wgS2s.lookup id)).read
    cases u.sys.manifest.wgS2s.lookup id with
    | none | some _ => exact mem_cons_self
  · refine performTaken ok timely nofun ?_ now
    change (u.notes.readBy id (u.sys.manifest.wgS2s.lookup id)).held (.delete id) = zonesOf (u.sys.manifest.wgS2s.lookup id)
    cases u.sys.manifest.wgS2s.lookup id with
    | none => exact now.held
    | some zm => exact Function.update_self _ _ _

theorem keepsRemoveEntry {zm : ZoneManifest} (known : Entry id (some zm) s) (taken : Taken id t [] (zonesOf (some zm)) s) :
    (discipline host wg first).Keeps (.delete id) (fun _ s => Entry id none s ∧ Taken id t [] (zonesOf (some zm)) s)
      (ask (.removeWgS2sTunnel id)) s := by
  refine keepsCall (stableAnd stableEntry stableTaken) (fun _ => stableAnd stableEntry stableTaken) ⟨known,taken⟩
    (fun u now ok timely => ⟨⟨rfl,?_⟩,⟨now.1.read,?_⟩,?_⟩)
  · intro other found
    cases Option.some.inj (now.1.same.symm.trans found)
    rw [now.2.held]
    unfold zonesOf
    dsimp only
    split
    · exact .inl (by assumption)
    · exact .inr (mem_singleton_self _)
  · rw [performRemove ok]
    exact AList.lookup_erase _ _
  · exact performTaken ok timely nofun now.2.held now.2

theorem keepsRollbackZone {policyIDs : List String} (known : Entry id none s) (taken : Taken id t [] [zoneID] s) :
    (discipline host wg first).Keeps (.delete id) (fun _ => TornDown host id t) (Program.rollbackZone zoneID policyIDs) s := by
  have policies := @keepsStill host wg first (.delete id) s Unit (Program.deletePolicies policyIDs)
    (fun s => Entry id none s ∧ Taken id t [] [zoneID] s) (stillDeletePolicies policyIDs) (stableAnd stableEntry stableTaken)
    (fun _ _ still ok timely now => ⟨stillEntry still ok timely now.1,stillTaken still ok timely now.2⟩) ⟨known,taken⟩
  refine keepsBind policies (fun _ u now _ => ?_)
  refine keepsCall (stableAnd stableEntry stableTaken) (fun _ => stableTornDown) now (fun v now ok timely => ⟨trivial,?_,[],?_,.inl rfl⟩)
  · exact performEntryRead ok timely nofun now.1
  · refine performTaken ok timely nofun (setHeldOwn.trans ?_) now.2
    rw [now.2.held]
    simp

theorem keepsTeardownZone (taken : Taken id t [] [] s) :
    (discipline host wg first).Keeps (.delete id) (fun _ => TornDown host id t) (Program.TeardownWgS2sZone id) s := by
  refine keepsBind (keepsReadEntry taken) (fun entry u now _ => ?_)
  obtain ⟨known,taken⟩ := now
  cases entry with
  | none => exact keepsPure stableTornDown ⟨known,[],taken,.inl rfl⟩ (fun _ _ last => last)
  | some zm =>
    refine keepsBind (keepsRemoveEntry known taken) (fun _ v now _ => ?_)
    obtain ⟨known,taken⟩ := now
    unfold zonesOf at taken
    dsimp only at taken
    split
    · rename_i blank
      rw [if_pos blank] at taken
      exact keepsPure stableTornDown ⟨known,[],taken,.inl rfl⟩ (fun _ _ last => last)
    · rename_i text
      rw [if_neg text] at taken
      have snapshots : (discipline host wg first).Keeps (.delete id)
          (fun snapshot s => Entry id none s ∧
            Taken id t [] (if snapshot.any (fun other => other.zoneID == zm.zoneID) then [] else [zm.zoneID]) s)
          (ask .getWgS2sSnapshot) v := by
        refine keepsCall (stableAnd stableEntry stableTaken) (fun _ => stableAnd stableEntry stableTaken) ⟨known,taken⟩
          (fun w now ok timely => ⟨trivial,performEntryRead ok timely nofun now.1,performTaken ok timely nofun (setHeldOwn.trans ?_) now.2⟩)
        rw [now.2.held]
        change [zm.zoneID].filter (fun zoneID => !(host.backend.order w.sys.manifest.wgS2s).any (fun zm => zm.zoneID == zoneID)) =
          if (host.backend.order w.sys.manifest.wgS2s).any (fun other => other.zoneID == zm.zoneID) then [] else [zm.zoneID]
        cases named : (host.backend.order w.sys.manifest.wgS2s).any (fun other => other.zoneID == zm.zoneID) with
        | true => simp [named]
        | false => simp [named]
      refine keepsBind snapshots (fun snapshot w now _ => ?_)
      obtain ⟨known,taken⟩ := now
      split
      · rename_i named
        rw [if_pos named] at taken
        exact keepsPure stableTornDown ⟨known,[],taken,.inl rfl⟩ (fun _ _ last => last)
      · rename_i unnamed
        rw [if_neg unnamed] at taken
        have asks : (discipline host wg first).Keeps (.delete id)
            (fun answer s => (Entry id none s ∧ Taken id t [] [zm.zoneID] s) ∧ (answer = false → ¬ Ready host s.sys))
            (ask .requireIntegration) w := by
          refine keepsCall (stableAnd stableEntry stableTaken)
            (fun _ => stableAnd (stableAnd stableEntry stableTaken) (stableIf stableUnready)) ⟨known,taken⟩
            (fun v now ok timely => ⟨trivial,⟨stillEntry rfl ok timely now.1,stillTaken rfl ok timely now.2⟩,fun no ready => ?_⟩)
          exact Bool.false_ne_true (no.symm.trans ready)
        refine keepsBind asks (fun answer v now _ => ?_)
        obtain ⟨⟨known,taken⟩,unready⟩ := now
        split
        · rename_i no
          exact keepsPure stableTornDown ⟨known,[zm.zoneID],taken,.inr (unready no)⟩ (fun _ _ last => last)
        · exact keepsRollbackZone known taken

def Through (host : Host) (x : Name) (s : Noted) : Prop := Ready host s.sys → s.notes.held x = []

theorem stableThrough : (discipline host wg first).Stable x (Through host x) :=
  fun _ _ _ differs _ allows _ known ready => (performGrew.held _ (Ne.symm differs)).trans (known ((readySame (performSite allows.1)).mp ready))

theorem keepsManagerDelete (torn : TornDown host id t s) :
    (discipline host wg first).Keeps (.delete id) (fun err s => err = none ∧ Through host (.delete id) s) (ask (.deleteTunnel id)) s := by
  refine keepsCall stableTornDown (fun _ => stableFact stableThrough) torn (fun u now ok timely => ?_)
  obtain ⟨known,zones,taken,ended⟩ := now
  refine ⟨⟨rfl,known.same,fun idx other found chain r member marked => ?_⟩,(deleteEffect ok).1,fun ready => ?_⟩
  · obtain ⟨idx',here⟩ := taken.found
    cases Option.some.inj (here.symm.trans found)
    exact not_mem_nil ((taken.cleared chain not_mem_nil).left r member marked)
  · rcases ended with none_ | unready
    · exact taken.held.trans none_
    · exact absurd ready unready

theorem keepsDeleteTunnel (free : s.notes.held (.delete id) = []) :
    (discipline host wg first).Keeps (.delete id) (fun _ => Through host (.delete id)) (Program.DeleteTunnel id) s := by
  have reads : (discipline host wg first).Keeps (.delete id)
      (fun tunnels s => s.notes.held (.delete id) = [] ∧ ∀ idx t, findTunnel id tunnels = some (idx,t) → Found id t s.sys)
      (ask .getTunnels) s := by
    refine keepsCall (stableHeld []) (fun tunnels => ?_) free (fun u now _ _ => ⟨trivial,now,fun idx t found => ⟨idx,found⟩⟩)
    intro y c u differs holds allows promises both
    exact ⟨stableHeld [] y c u differs holds allows promises both.1,
      fun idx t found => stableFound y c u differs holds allows promises (both.2 idx t found)⟩
  refine keepsBind reads (fun tunnels u now holds => ?_)
  obtain ⟨free,found⟩ := now
  cases here : findTunnel id tunnels with
  | none => exact keepsPure (stableHeld []) free (fun _ _ still _ => still)
  | some pair =>
    obtain ⟨idx,t⟩ := pair
    refine keepsMap ?_
    have teardown : (discipline host wg first).Keeps (.delete id) (fun err s => err = none ∧ Taken id t [] [] s)
        (always (Program.teardownTunnelFirewall t)) u :=
      keepsBind (keepsTeardownFirewall (found idx t here) free holds)
        (fun _ _ taken _ => keepsPure stableTaken taken (fun _ _ last => ⟨rfl,last⟩))
    refine keepsBind teardown (fun err v now _ => ?_)
    obtain ⟨rfl,taken⟩ := now
    have zone : (discipline host wg first).Keeps (.delete id) (fun err s => err = none ∧ TornDown host id t s)
        (always (Program.TeardownWgS2sZone id)) v :=
      keepsBind (keepsTeardownZone taken) (fun _ _ torn _ => keepsPure stableTornDown torn (fun _ _ last => ⟨rfl,last⟩))
    refine keepsBind zone (fun err w now _ => ?_)
    obtain ⟨rfl,torn⟩ := now
    refine keepsBind (keepsManagerDelete torn) (fun err v now _ => ?_)
    obtain ⟨rfl,through⟩ := now
    exact keepsPure stableThrough through (fun _ _ last => last)

end
end VpnPack.Service
