import VpnPack.Wgs2s.Agreement

/-! The links after RestoreAll, for a kernel in any state and a config with distinct
interface names. Routes are left to the route modules. -/
namespace VpnPack.Wgs2s
open Base List Net Ops

section
variable {env : Env} {ph : Phase} {t : TunnelConfig} {s u : State}

def counter (s : State) : Nat := s.kernel.nextIndex

theorem wiresCounter {p : Proc State} (kept : Keeps wires p) : Keeps counter p := fun s => congrArg Prod.snd (kept s)

variable {i : Nat} {step : Step} {key : String}

theorem deleteLinkCounter : Keeps counter (deleteLink env ph step i) := by
  refine onKernelKeeps (fun s k changed => ?_)
  split at changed <;> try contradiction
  cases changed
  rfl

theorem configureLinkCounter : Keeps counter (configureLink env ph t key i) :=
  configureLinkKeeps (fun _ _ _ => rfl) (wiresCounter claimFromWires)

theorem cleanupCounter {cfg : TunnelConfig} : Keeps counter (cleanupExistingInterface env ph cfg) :=
  cleanupKeeps (fun _ _ => deleteLinkCounter) (fun _ s => congrArg Prod.snd (releaseWires cfg.cidrs s))

theorem bringUpIndex (ran : bringUp env ph t key s = (none,u)) :
    u.kernel.lookup t.interfaceName = some (counter s) ∧ counter u = counter s + 1 := by
  obtain ⟨a,swept,ran⟩ := seqSource ran
  obtain ⟨b,created,ran⟩ := seqSource ran
  have start : counter a = counter s := keepsRan cleanupCounter swept
  have made := (onKernelSource (wrappingOk.mp created)).2
  have moved : counter b = counter a + 1 := (Kernel.newLinkSource made).2.2.1
  have fresh := (createLinkSource (wrappingOk.mp created)).1
  have index : b.kernel.lookup t.interfaceName = some (counter a) := Kernel.lookupSource.mpr ⟨_,fresh,rfl⟩
  dsimp only at ran
  split at ran
  · simp at ran
  · rw [index] at ran
    have configured := orElseOk.mp ran
    have remained := (configureLinkLinks fresh configured).1
    refine ⟨start ▸ remained.here,?_⟩
    rw [keepsRan configureLinkCounter configured,moved,start]

end
section
variable {env : RestoreEnv} {s u : State}

structure RestoredBy (env : String → Env) (tunnels : List TunnelConfig) (s u : State) : Prop where
  rises : counter s ≤ counter u
  others : ∀ name, (∀ t ∈ tunnels, t.enabled = true → t.interfaceName ≠ name) → u.kernel.find name = s.kernel.find name
  created : ∀ t ∈ tunnels, t.enabled = true →
    ∃ l, u.kernel.find t.interfaceName = some l ∧ counter s ≤ l.index ∧ Configured (env t.id).parseKey t l

theorem restoreTunnelSource {env : Env} {t : TunnelConfig} (ran : restoreTunnel env t s = (none,u)) :
    (∀ name, name ≠ t.interfaceName → u.kernel.find name = s.kernel.find name) ∧ counter u = counter s + 1 ∧
      ∃ l, u.kernel.find t.interfaceName = some l ∧ l.index = counter s ∧ Configured env.parseKey t l := by
  unfold restoreTunnel at ran
  split at ran
  · simp at ran
  · have links := bringUpLinks ran
    obtain ⟨l,found,configured⟩ := links.done rfl
    obtain ⟨index,moved⟩ := bringUpIndex ran
    obtain ⟨l',found',same⟩ := Kernel.lookupSource.mp index
    rw [found] at found'
    cases Option.some.inj found'
    exact ⟨links.others,moved,l,found,same,configured⟩

theorem restoreEachSource {env : String → Env} {tunnels : List TunnelConfig}
    (names : (tunnels.map TunnelConfig.interfaceName).Nodup) (ran : restoreEach env tunnels s = ([],u)) : RestoredBy env tunnels s u := by
  induction tunnels generalizing s with
  | nil =>
    cases ran
    exact ⟨le_rfl,fun _ _ => rfl,fun t member => by cases member⟩
  | cons cfg rest ih =>
    obtain ⟨apart,distinct⟩ := nodup_cons.mp names
    unfold restoreEach at ran
    by_cases enabled : cfg.enabled = true
    · rw [enabled,Bool.not_true,if_neg Bool.false_ne_true] at ran
      rcases first : restoreTunnel (env cfg.id) cfg s with ⟨err,v⟩
      rw [first] at ran
      cases err with
      | some e => simp at ran
      | none =>
        obtain ⟨others,moved,l,found,index,configured⟩ := restoreTunnelSource first
        have later := ih distinct ran
        have rises := later.rises
        refine ⟨by omega,fun name absent => ?_,fun t member on => ?_⟩
        · have here : name ≠ cfg.interfaceName := Ne.symm (absent cfg mem_cons_self enabled)
          exact (later.others name (fun t member => absent t (mem_cons_of_mem _ member))).trans (others name here)
        · rcases mem_cons.mp member with rfl | inside
          ·
            have kept := later.others t.interfaceName (fun other member _ same => apart (mem_map.mpr ⟨other,member,same⟩))
            exact ⟨l,kept.trans found,index.symm.le,configured⟩
          · obtain ⟨l',found',high,configured'⟩ := later.created t inside on
            exact ⟨l',found',by omega,configured'⟩
    · rw [Bool.not_eq_true] at enabled
      rw [enabled,Bool.not_false,if_pos rfl] at ran
      have later := ih distinct ran
      refine ⟨later.rises,fun name absent => later.others name (fun t member => absent t (mem_cons_of_mem _ member)),
        fun t member on => ?_⟩
      rcases mem_cons.mp member with rfl | inside
      · rw [enabled] at on
        contradiction
      · exact later.created t inside on

def isTunnelName (name : String) : Bool := name.startsWith "wg-s2s"

def sweepOne (env : RestoreEnv) (configured : List String) (t : State) (l : Link) : State :=
  if l.name ∈ configured ∨ (env.orphan l.name).isSome then t else {t with kernel := t.kernel.deleteLink l.index}

theorem sweepFind {env : RestoreEnv} {configured : List String} (willing : ∀ name, env.orphan name = none) (links : List Link) (t : State)
    (name : String) : (links.foldl (sweepOne env configured) t).kernel.find name =
      (t.kernel.find name).filter (fun l => decide (∀ swept ∈ links, swept.name ∉ configured → swept.index ≠ l.index)) := by
  induction links generalizing t with
  | nil => cases found : t.kernel.find name <;> simp [found,Option.filter]
  | cons first rest ih =>
    rw [foldl_cons,ih]
    by_cases spared : first.name ∈ configured
    · have same : sweepOne env configured t first = t := if_pos (.inl spared)
      rw [same]
      congr 1
      funext l
      simp [spared]
    · have deleted : (sweepOne env configured t first).kernel = t.kernel.deleteLink first.index := by
        rw [sweepOne,if_neg]
        simp [spared,willing]
      rw [deleted,Kernel.findDelete,Option.filter_filter]
      congr 1
      funext l
      rw [Bool.eq_iff_iff]
      simp only [ne_eq,mem_cons,Bool.and_eq_true,decide_eq_true_eq]
      constructor
      · rintro ⟨differs,later⟩ swept member free
        rcases member with rfl | inside
        · exact Ne.symm differs
        · exact later swept inside free
      · intro all
        exact ⟨Ne.symm (all first (.inl rfl) spared),fun swept inside => all swept (.inr inside)⟩

theorem sweepCounter {env : RestoreEnv} {configured : List String} (links : List Link) (t : State) :
    counter (links.foldl (sweepOne env configured) t) = counter t := by
  induction links generalizing t with
  | nil => rfl
  | cons first rest ih =>
    rw [foldl_cons,ih]
    unfold sweepOne
    split <;> rfl

theorem sweptFind (willing : ∀ name, env.orphan name = none) (name : String) : (removeOrphanInterfaces env s).kernel.find name =
      if isTunnelName name = true ∧ name ∉ s.config.map TunnelConfig.interfaceName then none else s.kernel.find name := by
  have swept := @sweepFind env (s.config.map TunnelConfig.interfaceName) willing (s.kernel.links.filter (fun l => l.name.startsWith "wg-s2s")) s name
  refine Eq.trans swept ?_
  cases found : s.kernel.find name with
  | none => simp [Option.filter]
  | some l =>
    obtain ⟨member,named⟩ := Kernel.findSource.mp found
    by_cases orphan : isTunnelName name = true ∧ name ∉ s.config.map TunnelConfig.interfaceName
    · rw [if_pos orphan,Option.filter_some,if_neg]
      intro all
      have listed : l ∈ s.kernel.links.filter (fun l => l.name.startsWith "wg-s2s") := mem_filter.mpr ⟨member,named ▸ orphan.1⟩
      exact of_decide_eq_true all l listed (named ▸ orphan.2) rfl
    · rw [if_neg orphan,Option.filter_some,if_pos]
      refine decide_eq_true (fun other listed free same => orphan ?_)
      obtain ⟨inside,prefixed⟩ := mem_filter.mp listed
      cases Kernel.linkInjective s.kernel.indexes inside member same
      exact ⟨named ▸ prefixed,named ▸ free⟩

theorem restoreAllSource (names : (s.config.map TunnelConfig.interfaceName).Nodup) (ran : RestoreAll env s = (none,u)) :
    RestoredBy env.tunnel s.config (removeOrphanInterfaces env s) u := by
  have same : (removeOrphanInterfaces env s).config = s.config := filesConfig (sweepFiles env s)
  have loop : restoreEach env.tunnel s.config (removeOrphanInterfaces env s) = ([],u) := by
    unfold RestoreAll at ran
    dsimp only at ran
    rw [same] at ran
    rcases each : restoreEach env.tunnel s.config (removeOrphanInterfaces env s) with ⟨errs,v⟩
    rw [each] at ran
    cases errs with
    | nil =>
      cases ran
      rfl
    | cons e rest => simp at ran
  exact restoreEachSource names loop

end

structure ExactlyEnabled (env : RestoreEnv) (s u : State) : Prop where
  names : ∀ name, isTunnelName name = true ∧ (u.kernel.find name).isSome = true ↔
    ∃ t ∈ s.config, t.enabled = true ∧ t.interfaceName = name
  created : ∀ t ∈ s.config, t.enabled = true →
    ∃ l, u.kernel.find t.interfaceName = some l ∧ counter s ≤ l.index ∧ Configured (env.tunnel t.id).parseKey t l

structure NoLeftover (s : State) : Prop where
  disabled : ∀ t ∈ s.config, t.enabled = false → isTunnelName t.interfaceName = true → s.kernel.find t.interfaceName = none
  enabled : ∀ t ∈ s.config, t.enabled = true → isTunnelName t.interfaceName = true

def leftLinks (names : List String) : Kernel := names.foldl (fun k name => (k.newLink name).getD k) .empty

def leftState (names : List String) : State :=
  ⟨[{branchTunnel with enabled := true},{branchTunnel with id := "4e5f6a7b", interfaceName := "wg-s2s1"}],[],fun _ => some "key",.empty,
    leftLinks names⟩

def willing : RestoreEnv := ⟨fun _ => none,fun _ => obliging⟩

end VpnPack.Wgs2s
