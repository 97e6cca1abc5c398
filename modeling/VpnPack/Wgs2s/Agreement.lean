import VpnPack.Wgs2s.Atomicity
import VpnPack.Wgs2s.Links

/-! Agreement between the tunnel list and the links: a link exists exactly for the
enabled tunnels and carries the settings of its record. Any forward call may
fail, undo and rollback calls succeed. The names in the list are taken to be
distinct, as nextInterfaceName makes them; RestoreAll is not covered. -/
namespace VpnPack.Wgs2s
open Base List Net Ops

def Agrees (parseKey : String → Except GoError String) (k : Kernel) (t : TunnelConfig) : Prop :=
  match k.find t.interfaceName with
  | none => t.enabled = false
  | some l => t.enabled = true ∧ Configured parseKey t l

def Agreement (parseKey : String → Except GoError String) (s : State) : Prop := ∀ t ∈ s.config, Agrees parseKey s.kernel t

instance {parseKey : String → Except GoError String} {t : TunnelConfig} {l : Link} : Decidable (Configured parseKey t l) := by
  unfold Configured
  infer_instance

instance {parseKey : String → Except GoError String} {k : Kernel} {t : TunnelConfig} : Decidable (Agrees parseKey k t) :=
  match found : k.find t.interfaceName with
  | none => decidable_of_iff (t.enabled = false) (by simp [Agrees,found])
  | some l => decidable_of_iff (t.enabled = true ∧ Configured parseKey t l) (by simp [Agrees,found])

instance {parseKey : String → Except GoError String} {s : State} : Decidable (Agreement parseKey s) := by
  unfold Agreement
  infer_instance

section
variable {parseKey : String → Except GoError String} {s u : State} {idx : Nat} {cfg record : TunnelConfig}

theorem agreesCongr {k k' : Kernel} (same : k'.find cfg.interfaceName = k.find cfg.interfaceName) :
    Agrees parseKey k' cfg ↔ Agrees parseKey k cfg := by
  unfold Agrees
  rw [same]

theorem agreesOff {k : Kernel} (off : cfg.enabled = false) : Agrees parseKey k cfg ↔ k.find cfg.interfaceName = none := by
  unfold Agrees
  cases k.find cfg.interfaceName <;> simp [off]

theorem agreesOn {k : Kernel} (on : cfg.enabled = true) :
    Agrees parseKey k cfg ↔ ∃ l, k.find cfg.interfaceName = some l ∧ Configured parseKey cfg l := by
  unfold Agrees
  cases k.find cfg.interfaceName <;> simp [on]

theorem agreesHere {k : Kernel} {l : Link} (on : cfg.enabled = true) (found : k.find cfg.interfaceName = some l) :
    Agrees parseKey k cfg ↔ Configured parseKey cfg l := by
  simp [agreesOn on,found]

variable (names : (s.config.map TunnelConfig.interfaceName).Nodup) (here : s.config[idx]? = some cfg)

include names here in
theorem elsewhereApart {t : TunnelConfig} {j : Nat} (found : s.config[j]? = some t) (elsewhere : idx ≠ j) :
    t.interfaceName ≠ cfg.interfaceName := by
  intro clash
  refine elsewhere ((getElem?_inj (by simpa using (List.getElem?_eq_some_iff.mp here).1) names).mp ?_)
  rw [getElem?_map,getElem?_map,here,found,Option.map_some,Option.map_some,clash]

variable (before : Agreement parseKey s)
include names here before

theorem agreementSet (list : u.config = s.config.set idx record)
    (others : ∀ n, n ≠ cfg.interfaceName → u.kernel.find n = s.kernel.find n) : Agreement parseKey u ↔ Agrees parseKey u.kernel record := by
  have inside : idx < s.config.length := (List.getElem?_eq_some_iff.mp here).1
  unfold Agreement
  rw [list]
  constructor
  · intro all
    exact all record (mem_set inside record)
  · intro own t member
    obtain ⟨j,found⟩ := mem_iff_getElem?.mp member
    rw [getElem?_set] at found
    split at found
    · exact Option.some.inj found ▸ own
    · rename_i elsewhere
      exact (agreesCongr (others _ (elsewhereApart names here found elsewhere))).mpr (before t (mem_of_getElem? found))

omit names before in
theorem setHere : s.config.set idx cfg = s.config := by
  have := setSelf cfg here
  rwa [set_set] at this

theorem agreementKept (list : u.config = s.config)
    (others : ∀ n, n ≠ cfg.interfaceName → u.kernel.find n = s.kernel.find n) : Agreement parseKey u ↔ Agrees parseKey u.kernel cfg :=
  agreementSet names here before (list.trans (setHere here).symm) others

theorem agreementErase (list : u.config = s.config.eraseIdx idx)
    (others : ∀ n, n ≠ cfg.interfaceName → u.kernel.find n = s.kernel.find n) : Agreement parseKey u := by
  intro t member
  rw [list,mem_eraseIdx_iff_getElem?] at member
  obtain ⟨j,elsewhere,found⟩ := member
  exact (agreesCongr (others _ (elsewhereApart names here found elsewhere.symm))).mpr (before t (mem_of_getElem? found))

omit names here in
theorem agreementOutside {name : String} (unused : name ∉ s.config.map TunnelConfig.interfaceName) (others : ∀ n, n ≠ name → u.kernel.find n = s.kernel.find n) :
    ∀ t ∈ s.config, Agrees parseKey u.kernel t := by
  intro t member
  have differs : t.interfaceName ≠ name := fun clash => unused (mem_map.mpr ⟨t,member,clash⟩)
  exact (agreesCongr (others _ differs)).mpr (before t member)

omit names here in
theorem agreementAppend (unused : record.interfaceName ∉ s.config.map TunnelConfig.interfaceName) (list : u.config = s.config ++ [record])
    (others : ∀ n, n ≠ record.interfaceName → u.kernel.find n = s.kernel.find n) :
    Agreement parseKey u ↔ Agrees parseKey u.kernel record := by
  unfold Agreement
  rw [list]
  simp only [mem_append,mem_singleton]
  constructor
  · intro all
    exact all record (.inr rfl)
  · rintro own t (old | rfl)
    · exact agreementOutside before unused others t old
    · exact own

end

def Operation.env : Operation → Option Env
  | .create env _ _ | .update env _ _ | .enable env _ | .disable env _ | .delete env _ => some env
  | .restoreAll _ => none

/- The bring-up dies between creating its link and looking it up. -/
def Strands (env : Env) (cfg : TunnelConfig) (s : State) : Prop :=
  (∃ key, loadPrivateKey env .forward .keyRead cfg.id s = .ok key) ∧
    env.answer .forward .linkNew = none ∧ env.answer .forward .linkLookup ≠ none

/- recreateTunnel entered with the link as it is in v; patched says that a hot
update has changed its peer before. -/
def RecreateDrift (env : Env) (cfg merged : TunnelConfig) (patched : Prop) (v : State) : Prop :=
  match loadPrivateKey env .forward .keyPreflight merged.id v with
  | .error _ => patched ∧ ¬ SamePeer cfg merged
  | .ok _ =>
    match tearDown env .forward merged v with
    | (some _,_) => patched ∧ ¬ SamePeer cfg merged
    | (none,w) =>
      match bringUpTunnel env .forward merged w with
      | (some _,_) => True
      | (none,_) => env.answer .forward .save ≠ none ∧ imageOf env.parseKey merged ≠ imageOf env.parseKey cfg

def UpdateDrift (env : Env) (cfg merged : TunnelConfig) (s : State) : Prop :=
  if needsRecreate cfg merged then RecreateDrift env cfg merged False s
  else
    match hotUpdate env merged cfg.cidrs cfg.metric s with
    | (none,_) => if env.answer .forward .save = none then KeepaliveDropped cfg merged else ¬ SamePeer cfg merged
    | (some _,v) => RecreateDrift env cfg merged ((updatePeer env merged.interfaceName merged.peer s).1 = none) v

def Drifts : Operation → State → Prop
  | .create env cfg privateKey,s => losesSave (.create env cfg privateKey) s = true
  | .enable env id,s => losesSave (.enable env id) s = true ∨
      ∃ idx cfg, findTunnel id s.config = some (idx,cfg) ∧ cfg.enabled = false ∧ Strands env cfg s
  | .disable env id,s => losesSave (.disable env id) s = true
  | .delete _ _,_ => False
  | .update env id updates,s => ∃ idx cfg, findTunnel id s.config = some (idx,cfg) ∧ cfg.enabled = true ∧
      refuseUpdate env cfg (applyUpdates cfg updates) = none ∧ UpdateDrift env cfg (applyUpdates cfg updates) s
  | .restoreAll _,_ => False

/- The one rollback whose outcome matters: a disable that could not be saved
brings its link up again. -/
def RollbackSucceeds : Operation → State → Prop
  | .disable env id,s => ∀ idx cfg, findTunnel id s.config = some (idx,cfg) →
      (bringUpTunnel env .undo cfg (setEnabled idx cfg false (tearDown env .forward cfg s).2)).1 = none
  | _,_ => True

section
variable {env : Env} {s : State}

variable {idx : Nat} {t cfg merged : TunnelConfig} {ph : Phase} {u v w : State} {id : String} {r : Option GoError}

theorem bringUpTunnelLinks {key : String}
    (loaded : loadPrivateKey env ph .keyRead t.id s = .ok key) (ran : bringUpTunnel env ph t s = (r,u)) : BroughtUp env ph t s r u := by
  unfold bringUpTunnel at ran
  rw [loaded] at ran
  exact bringUpLinks ran

theorem bringUpTunnelUnloaded {e : GoError} (refused : loadPrivateKey env ph .keyRead t.id s = .error e) :
    bringUpTunnel env ph t s = (some (.wrap "load key" e),s) := by
  unfold bringUpTunnel
  rw [refused]

theorem bringUpTunnelOthers (ran : bringUpTunnel env ph t s = (r,u)) (n : String) (other : n ≠ t.interfaceName) :
    u.kernel.find n = s.kernel.find n := by
  cases loaded : loadPrivateKey env ph .keyRead t.id s with
  | error e =>
    rw [bringUpTunnelUnloaded loaded] at ran
    cases ran
    rfl
  | ok key => exact (bringUpTunnelLinks loaded ran).others n other

theorem bringUpTunnelDone (ran : bringUpTunnel env ph t s = (none,u)) :
    ∃ l, u.kernel.find t.interfaceName = some l ∧ Configured env.parseKey t l := by
  cases loaded : loadPrivateKey env ph .keyRead t.id s with
  | error e =>
    rw [bringUpTunnelUnloaded loaded] at ran
    cases ran
  | ok key => exact (bringUpTunnelLinks loaded ran).done rfl

theorem stubUnconfigured {parseKey : String → Except GoError String} {l : Link} (stub : Stub l) : ¬ Configured parseKey t l := by
  rintro ⟨up,_⟩
  rw [stub] at up
  contradiction

theorem bringUpTunnelFailed {e : GoError} (clean : env.answer .undo .linkCleanup = none)
    (absent : s.kernel.find t.interfaceName = none) (ran : bringUpTunnel env .forward t s = (some e,u)) :
    (Strands env t s ∧ ∃ l, u.kernel.find t.interfaceName = some l ∧ Stub l) ∨
    (¬ Strands env t s ∧ u.kernel.find t.interfaceName = none) := by
  cases loaded : loadPrivateKey env .forward .keyRead t.id s with
  | error e =>
    rw [bringUpTunnelUnloaded loaded] at ran
    cases ran
    refine .inr ⟨fun stranded => ?_,absent⟩
    obtain ⟨⟨key,read⟩,_⟩ := stranded
    rw [loaded] at read
    contradiction
  | ok key =>
    have left := (bringUpTunnelLinks loaded ran).failed (by simp) absent clean
    split at left
    · rename_i stranded
      exact .inl ⟨⟨⟨key,loaded⟩,stranded⟩,left⟩
    · rename_i reached
      exact .inr ⟨fun stranded => reached stranded.2,left⟩

theorem deleteKeyFilesKernel (id : String) (s : State) : (deleteKeyFiles env ph id s).kernel = s.kernel := by
  unfold deleteKeyFiles
  split <;> rfl

theorem saveKeyFilesKernel {key : String} : Keeps State.kernel (saveKeyFiles env id key) := by
  intro s
  unfold saveKeyFiles
  split
  · split <;> rfl
  · rfl

theorem tearDownWilling (willing : env.answer ph .linkDelete = none) (s : State) : (tearDown env ph cfg s).1 = none := by
  unfold tearDown
  cases found : s.kernel.lookup cfg.interfaceName with
  | none => rfl
  | some i =>
    have known : (releaseRoutes env ph .link cfg.id i cfg.metric cfg.cidrs s).kernel.hasIndex i = true :=
      Kernel.hasIndexOfLookup ((wiresLookup (releaseWires _ _) _).trans found)
    simp [wrapping,deleteLink,onKernel,willing,known]

theorem tearDownGone {ph : Phase} {cfg : TunnelConfig} (willing : env.answer ph .linkDelete = none) (s : State) :
    (tearDown env ph cfg s).2.kernel.find cfg.interfaceName = none :=
  (tearDownLinks (Prod.ext rfl rfl : tearDown env ph cfg s = (_,_))).2.1 (tearDownWilling willing s)

theorem strandsFails (stranded : Strands env t s) : (bringUpTunnel env .forward t s).1 ≠ none := by
  obtain ⟨⟨key,loaded⟩,_,missed⟩ := stranded
  intro ok
  have ran : bringUpTunnel env .forward t s = (none,(bringUpTunnel env .forward t s).2) := Prod.ext ok rfl
  generalize (bringUpTunnel env .forward t s).2 = u at ran
  unfold bringUpTunnel at ran
  rw [loaded] at ran
  obtain ⟨a,_,ran⟩ := seqSource ran
  obtain ⟨b,_,ran⟩ := seqSource ran
  cases answer : env.answer .forward .linkLookup with
  | none => exact missed answer
  | some e => simp [answer] at ran

theorem createAgreement {privateKey : String} (before : Agreement env.parseKey s) (undo : ∀ step, env.answer .undo step = none) :
    Agreement env.parseKey (CreateTunnel env cfg privateKey s).2 ↔ ¬ losesSave (.create env cfg privateKey) s = true := by
  simp only [CreateTunnel,losesSave,reachesSave]
  cases refused : refuseCreate env cfg with
  | some e => simpa using before
  | none =>
    cases chosen : chooseKey env privateKey with
    | error e => simpa using before
    | ok key =>
      dsimp only
      have unused : (completed env s.config cfg).interfaceName ∉ s.config.map TunnelConfig.interfaceName := nextInterfaceNameUnused s.config
      have on : (completed env s.config cfg).enabled = true := rfl
      generalize completed env s.config cfg = new at unused on
      rcases stored : saveKeyFiles env new.id key s with ⟨r,t⟩
      have sameK : t.kernel = s.kernel := keepsRan saveKeyFilesKernel stored
      have sameT : t.config = s.config := memoryConfig (keepsRan saveKeyFilesMemory stored)
      cases r with
      | some e =>
        rw [seqFail stored,seqFail stored]
        simpa [Agreement,sameK,sameT] using before
      | none =>
        rw [seqOk stored,seqOk stored]
        unfold installTunnel
        rcases raised : bringUp env .forward new key t with ⟨r,u⟩
        have sameU : u.config = s.config := (filesConfig (keepsRan bringUpFiles raised)).trans sameT
        have links := bringUpLinks raised
        have others : ∀ n, n ≠ new.interfaceName → u.kernel.find n = s.kernel.find n :=
          fun n other => (links.others n other).trans (by rw [sameK])
        cases r with
        | some e =>
          have kept : (deleteKeyFiles env .undo new.id u).config = s.config := (memoryConfig (deleteKeyFilesMemory _ _)).trans sameU
          simpa [Agreement,kept,deleteKeyFilesKernel] using agreementOutside before unused others
        | none =>
          dsimp only
          rcases saveSource env .forward {u with config := u.config ++ [new]} with ⟨e,answer,ran⟩ | ⟨answer,ran⟩
          · rw [ran]
            dsimp only
            have torn := tearDownLinks (Prod.ext rfl rfl : tearDown env .undo new {u with config := u.config ++ [new]} = (_,_))
            have gone := @tearDownGone env .undo new (undo _) {u with config := u.config ++ [new]}
            have result := @agreementAppend env.parseKey s (deleteKeyFiles env .undo new.id
              (tearDown env .undo new {u with config := u.config ++ [new]}).2) new before unused
              (by rw [rollbackCreateConfig,sameU])
              (fun n other => by rw [deleteKeyFilesKernel]; exact (torn.1 n other).trans (others n other))
            rw [result,agreesOn on,deleteKeyFilesKernel,gone]
            simp [saveFails,answer]
          · rw [ran]
            have result := @agreementAppend env.parseKey s
              {u with config := u.config ++ [new], disk := u.config ++ [new]} new before unused (by rw [sameU]) others
            refine iff_of_true (result.mpr ((agreesOn on).mpr (links.done rfl))) ?_
            simp [saveFails,answer]

theorem bringUpStepUndo (s : State) : ((bringUpStep env cfg).Undo s).2 = (tearDown env .undo cfg s).2 := by
  unfold bringUpStep tearDown
  dsimp only
  split <;> rfl

theorem removeLinkOthers {t : State} (ran : (removeLinkStep env cfg).Do s = (r,t)) :
    (∀ n, n ≠ cfg.interfaceName → t.kernel.find n = s.kernel.find n) ∧
    (r ≠ none → t.kernel.find cfg.interfaceName = s.kernel.find cfg.interfaceName) ∧ t.config = s.config := by
  unfold removeLinkStep at ran
  dsimp only at ran
  split at ran
  · cases ran
    exact ⟨fun _ _ => rfl,fun _ => rfl,rfl⟩
  · exact ⟨(tearDownLinks ran).1,(tearDownLinks ran).2.2,filesConfig (keepsRan tearDownFiles ran)⟩

theorem removeLinkUndone {cfg : TunnelConfig} (s : State) :
    (∀ n, n ≠ cfg.interfaceName → ((removeLinkStep env cfg).Undo s).2.kernel.find n = s.kernel.find n) ∧
    ((removeLinkStep env cfg).Undo s).2.config = s.config := by
  unfold removeLinkStep
  dsimp only
  split
  · exact ⟨fun _ _ => rfl,rfl⟩
  · exact ⟨bringUpTunnelOthers (Prod.ext rfl rfl),filesConfig (bringUpTunnelFiles s)⟩

theorem agreesImage {k : Kernel} {l : Link} (on : cfg.enabled = true) (found : k.find cfg.interfaceName = some l)
    (up : l.settings.up = true) : Agrees env.parseKey k cfg ↔ imageOf env.parseKey cfg = some l.settings.image := by
  rw [agreesHere on found]
  exact ⟨fun configured => configured.2,fun image => ⟨up,image⟩⟩

inductive Recreated (env : Env) (cfg : TunnelConfig) (s : State) : Option GoError × State → Prop where
  | unreadable {e : GoError} (loaded : loadPrivateKey env .forward .keyPreflight cfg.id s = .error e) :
      Recreated env cfg s (some (.wrap "preflight" e),s)
  | stuck {key : String} {e : GoError} {w : State} (loaded : loadPrivateKey env .forward .keyPreflight cfg.id s = .ok key)
      (torn : tearDown env .forward cfg s = (some e,w)) : Recreated env cfg s (some (.wrap "tearDown before recreate" e),w)
  | down {key : String} {e : GoError} {w u : State} (loaded : loadPrivateKey env .forward .keyPreflight cfg.id s = .ok key)
      (torn : tearDown env .forward cfg s = (none,w)) (raised : bringUpTunnel env .forward cfg w = (some e,u)) :
      Recreated env cfg s (some (.wrap "bringUp failed (tunnel disabled)" e),u)
  | up {key : String} {w u : State} (loaded : loadPrivateKey env .forward .keyPreflight cfg.id s = .ok key)
      (torn : tearDown env .forward cfg s = (none,w)) (raised : bringUpTunnel env .forward cfg w = (none,u)) :
      Recreated env cfg s (none,u)

theorem recreateSource (env : Env) (cfg : TunnelConfig) (s : State) : Recreated env cfg s (recreateTunnel env cfg true s) := by
  unfold recreateTunnel
  cases loaded : loadPrivateKey env .forward .keyPreflight cfg.id s with
  | error e => exact .unreadable loaded
  | ok key =>
    dsimp only
    rw [if_pos rfl]
    rcases torn : tearDown env .forward cfg s with ⟨r,w⟩
    cases r with
    | some e =>
      rw [seqFail (wrappingFail torn)]
      exact .stuck loaded torn
    | none =>
      rw [seqOk (wrappingOk.mpr torn)]
      rcases raised : bringUpTunnel env .forward cfg w with ⟨r,u⟩
      cases r with
      | some e =>
        rw [wrappingFail raised]
        exact .down loaded torn raised
      | none =>
        rw [wrappingOk.mpr raised]
        exact .up loaded torn raised

theorem hotLinks {l : Link} {r : Option GoError} (kept : needsRecreate cfg merged = false)
    (endpoint : merged.peerEndpoint = "" → cfg.peerEndpoint = "") (name : merged.interfaceName = cfg.interfaceName)
    (found : s.kernel.find cfg.interfaceName = some l) (configured : Configured env.parseKey cfg l)
    (ran : hotUpdate env merged cfg.cidrs cfg.metric s = (r,v)) : (∀ n, n ≠ cfg.interfaceName → v.kernel.find n = s.kernel.find n) ∧
    ∃ l', v.kernel.find cfg.interfaceName = some l' ∧ l'.settings.up = true ∧
      ((updatePeer env merged.interfaceName merged.peer s).1 = none →
        (imageOf env.parseKey merged = some l'.settings.image ↔ ¬ KeepaliveDropped cfg merged) ∧
        (imageOf env.parseKey cfg = some l'.settings.image ↔ SamePeer cfg merged)) ∧
      ((updatePeer env merged.interfaceName merged.peer s).1 ≠ none → imageOf env.parseKey cfg = some l'.settings.image) := by
  obtain ⟨up,image⟩ := configured
  have wired := (hotUpdateWires ran).1
  have here : s.kernel.find merged.interfaceName = some ⟨merged.interfaceName,l.index,l.settings⟩ := by
    rw [name,found,← (Kernel.findSource.mp found).2]
  cases patched : updatePeer env merged.interfaceName merged.peer s with
  | mk r' w =>
    rw [patched] at wired
    have finds : ∀ n, v.kernel.find n = w.kernel.find n := wiresFind wired
    obtain ⟨done,failed⟩ := updatePeerLinks here patched
    cases r' with
    | some e =>
      cases failed (by simp)
      exact ⟨fun n _ => finds n,l,(finds _).trans found,up,fun ok => by simp at ok,fun _ => image⟩
    | none =>
      rcases done rfl with ⟨unset,rfl⟩ | ⟨keyed,pc,built,became⟩
      · refine ⟨fun n _ => finds n,l,(finds _).trans found,up,fun _ => ⟨?_,?_⟩,fun bad => absurd rfl bad⟩
        · refine iff_of_true ?_ (fun dropped => dropped.1 unset)
          have old := (imageSource image).1
          rw [peersOf,if_pos ((keptKey kept).trans unset)] at old
          have none : l.settings.image.peers = [] := (Option.some.inj old).symm
          have asked := (imageKept kept image []).mpr (by rw [peersOf,if_pos unset])
          rw [asked,← none]
        · exact iff_of_true image (.inl unset)
      · have patchedTo := patchedImage kept endpoint image keyed built
        have now := (finds merged.interfaceName).trans became.here
        rw [name] at now
        exact ⟨fun n other => (finds n).trans (became.others n (by rwa [name])),_,now,up,fun _ => patchedTo,
          fun bad => absurd rfl bad⟩

variable (names : (s.config.map TunnelConfig.interfaceName).Nodup) (before : Agreement env.parseKey s)
include names before

theorem flagAgreement {kernel : Op State} {value : Bool} (here : s.config[idx]? = some cfg) (did : kernel.Do s = (none,u))
    (same : u.config = s.config) (others : ∀ n, n ≠ cfg.interfaceName → u.kernel.find n = s.kernel.find n)
    (list : (kernel.Undo (setEnabled idx cfg value u)).2.config = (setEnabled idx cfg value u).config)
    (undone : ∀ n, n ≠ cfg.interfaceName → (kernel.Undo (setEnabled idx cfg value u)).2.kernel.find n = u.kernel.find n) :
    Agreement env.parseKey (run background [kernel,persistStep env idx cfg value] s).2 ↔ Agrees env.parseKey
      (if env.answer .forward .save = none then u else (kernel.Undo (setEnabled idx cfg value u)).2).kernel {cfg with enabled := value} := by
  have flagged : (setEnabled idx cfg value u).config = s.config.set idx {cfg with enabled := value} := by rw [setEnabled,same]
  rcases saveSource env .forward (setEnabled idx cfg value u) with ⟨e,answer,saved⟩ | ⟨answer,saved⟩
  · have second : (persistStep env idx cfg value).Do u = _ := saved
    rw [runSecondFailed did second,rollbackOne,if_neg (by simp [answer])]
    exact agreementSet names here before (list.trans flagged) (fun n other => (undone n other).trans (others n other))
  · have second : (persistStep env idx cfg value).Do u = _ := saved
    rw [runPairOk did second,if_pos answer]
    exact agreementSet names here before flagged others

theorem enableAgreement (undo : ∀ step, env.answer .undo step = none) :
    Agreement env.parseKey (EnableTunnel env id s).2 ↔ ¬ Drifts (.enable env id) s := by
  simp only [EnableTunnel,Drifts,losesSave,reachesSave,saveFails]
  cases found : findTunnel id s.config with
  | none => simpa using before
  | some place =>
    obtain ⟨idx,cfg⟩ := place
    have here := (findTunnelSource found).1
    simp only [Option.some.injEq,Prod.mk.injEq,and_assoc]
    cases on : cfg.enabled with
    | true => simpa [on] using before
    | false =>
      have absent : s.kernel.find cfg.interfaceName = none := (agreesOff on).mp (before cfg (mem_of_getElem? here))
      rw [if_neg (by simp)]
      rcases ran : bringUpTunnel env .forward cfg s with ⟨r,t⟩
      have sameT : t.config = s.config := filesConfig (keepsRan bringUpTunnelFiles ran)
      have others := bringUpTunnelOthers ran
      cases r with
      | some e =>
        have first : (bringUpStep env cfg).Do s = (some e,t) := ran
        rw [runFirstFailed first,agreementKept names here before sameT others,agreesOff on]
        rcases bringUpTunnelFailed (undo _) absent ran with ⟨stranded,l,left,_⟩ | ⟨reached,left⟩
        · simp [left,on,stranded]
        · simp [left,on,reached]
      | none =>
        have first : (bringUpStep env cfg).Do s = (none,t) := ran
        have reached : ¬ Strands env cfg s := fun stranded => strandsFails stranded (by rw [ran])
        have torn := tearDownLinks (Prod.ext rfl rfl : tearDown env .undo cfg (setEnabled idx cfg true t) = (_,_))
        have gone := @tearDownGone env .undo cfg (undo _) (setEnabled idx cfg true t)
        rw [flagAgreement names before here first sameT others (by rw [bringUpStepUndo]; exact filesConfig (tearDownFiles _))
          (by rw [bringUpStepUndo]; exact torn.1),bringUpStepUndo,agreesOn rfl]
        cases answer : env.answer .forward .save with
        | none =>
          rw [if_pos rfl]
          exact iff_of_true (bringUpTunnelDone ran) (by simp [reached])
        | some e => simp [gone]

theorem disableAgreement (restored : RollbackSucceeds (.disable env id) s) :
    Agreement env.parseKey (DisableTunnel env id s).2 ↔ ¬ Drifts (.disable env id) s := by
  simp only [DisableTunnel,Drifts,losesSave,reachesSave,saveFails]
  simp only [RollbackSucceeds] at restored
  cases found : findTunnel id s.config with
  | none => simpa using before
  | some place =>
    obtain ⟨idx,cfg⟩ := place
    have here := (findTunnelSource found).1
    have own := before cfg (mem_of_getElem? here)
    dsimp only
    cases on : cfg.enabled with
    | false => simpa using before
    | true =>
      rw [if_neg (by simp)]
      rcases ran : tearDown env .forward cfg s with ⟨r,t⟩
      have sameT : t.config = s.config := filesConfig (keepsRan tearDownFiles ran)
      obtain ⟨others,gone,stuck⟩ := tearDownLinks ran
      cases r with
      | some e =>
        have first : (tearDownStep env cfg).Do s = (some e,t) := ran
        rw [runFirstFailed first,agreementKept names here before sameT others,agreesCongr (stuck (by simp))]
        simpa using own
      | none =>
        have first : (tearDownStep env cfg).Do s = (none,t) := ran
        have success := restored idx cfg found
        rw [ran] at success
        have back : (tearDownStep env cfg).Undo (setEnabled idx cfg false t) = (none,_) := Prod.ext success rfl
        obtain ⟨l,raised,_⟩ := bringUpTunnelDone back
        have apart := bringUpTunnelOthers back
        refine (flagAgreement names before here first sameT others (filesConfig (bringUpTunnelFiles _)) apart).trans ((agreesOff rfl).trans ?_)
        cases answer : env.answer .forward .save with
        | none => simpa using gone rfl
        | some e => simp [raised]

theorem deleteAgreement : Agreement env.parseKey (DeleteTunnel env id s).2 := by
  simp only [DeleteTunnel]
  cases found : findTunnel id s.config with
  | none => exact before
  | some place =>
    obtain ⟨idx,cfg⟩ := place
    have here := (findTunnelSource found).1
    dsimp only
    rcases ran : (removeLinkStep env cfg).Do s with ⟨r,t⟩
    obtain ⟨others,stuck,sameT⟩ := removeLinkOthers ran
    cases r with
    | some e =>
      rw [runFirstFailed ran,agreementKept names here before sameT others,agreesCongr (stuck (by simp))]
      exact before cfg (mem_of_getElem? here)
    | none =>
      rcases saveSource env .forward {t with config := t.config.eraseIdx idx} with ⟨e,answer,saved⟩ | ⟨answer,saved⟩
      · have second : (removeTunnelStep env idx cfg).Do t = _ := saved
        rw [runSecondFailed ran second,rollbackOne]
        have undone := @removeLinkUndone env cfg {t with config := t.config.eraseIdx idx}
        refine agreementErase names here before (undone.2.trans (by rw [sameT])) (fun n other => ?_)
        exact (undone.1 n other).trans (others n other)
      · have second : (removeTunnelStep env idx cfg).Do t = _ := saved
        rw [runTripleOk ran second rfl]
        refine agreementErase names here before ((memoryConfig (deleteKeyFilesMemory _ _)).trans (by rw [sameT])) (fun n other => ?_)
        rw [deleteKeyFilesKernel]
        exact others n other

theorem commitAgreement (here : s.config[idx]? = some cfg) (same : w.config = s.config)
    (others : ∀ n, n ≠ cfg.interfaceName → w.kernel.find n = s.kernel.find n) :
    Agreement env.parseKey (commitUpdate env idx cfg merged w).2 ↔
      Agrees env.parseKey w.kernel (if env.answer .forward .save = none then merged else cfg) := by
  unfold commitUpdate
  rcases saveSource env .forward {w with config := w.config.set idx merged} with ⟨e,answer,saved⟩ | ⟨answer,saved⟩
  · rw [saved,if_neg (by simp [answer])]
    refine agreementKept names here before ?_ others
    change (w.config.set idx merged).set idx cfg = s.config
    rw [same,setSelf _ here]
  · rw [saved,if_pos answer]
    exact agreementSet names here before (by rw [same]) others

section
variable (undo : ∀ step, env.answer .undo step = none) (here : s.config[idx]? = some cfg) (on : cfg.enabled = true)
  (name : merged.interfaceName = cfg.interfaceName) (onMerged : merged.enabled = true)
include undo here on name onMerged

theorem recreateAgreement {patched : Prop} (same : v.config = s.config)
    (others : ∀ n, n ≠ cfg.interfaceName → v.kernel.find n = s.kernel.find n)
    (entry : Agrees env.parseKey v.kernel cfg ↔ ¬ (patched ∧ ¬ SamePeer cfg merged)) :
    Agreement env.parseKey (seq (recreateTunnel env merged true) (commitUpdate env idx cfg merged) v).2 ↔
      ¬ RecreateDrift env cfg merged patched v := by
  have files {r : Option GoError} {w : State} (torn : tearDown env .forward merged v = (r,w)) : w.config = s.config :=
    (filesConfig (keepsRan tearDownFiles torn)).trans same
  have apart {r : Option GoError} {w : State} (torn : tearDown env .forward merged v = (r,w)) :
      ∀ n, n ≠ cfg.interfaceName → w.kernel.find n = s.kernel.find n :=
    fun n other => ((tearDownLinks torn).1 n (by rwa [name])).trans (others n other)
  have raisedFiles {r r' : Option GoError} {w u : State} (torn : tearDown env .forward merged v = (r,w))
      (raised : bringUpTunnel env .forward merged w = (r',u)) : u.config = s.config :=
    (filesConfig (keepsRan bringUpTunnelFiles raised)).trans (files torn)
  have raisedApart {r r' : Option GoError} {w u : State} (torn : tearDown env .forward merged v = (r,w))
      (raised : bringUpTunnel env .forward merged w = (r',u)) : ∀ n, n ≠ cfg.interfaceName → u.kernel.find n = s.kernel.find n :=
    fun n other => (bringUpTunnelOthers raised n (by rwa [name])).trans (apart torn n other)
  unfold RecreateDrift
  have ended := recreateSource env merged v
  generalize ran : recreateTunnel env merged true v = last at ended
  cases ended with
  | unreadable loaded => rw [seqFail ran,agreementKept names here before same others,entry,loaded]
  | stuck loaded torn =>
    have kept := (tearDownLinks torn).2.2 (by simp)
    rw [name] at kept
    rw [seqFail ran,agreementKept names here before (files torn) (apart torn),agreesCongr kept,entry,loaded]
    simp only [torn]
  | down loaded torn raised =>
    have absent := (tearDownLinks torn).2.1 rfl
    rw [seqFail ran,agreementKept names here before (raisedFiles torn raised) (raisedApart torn raised),agreesOn on,← name,loaded]
    refine iff_of_false ?_ (by simp [torn,raised])
    rintro ⟨l,left,configured⟩
    rcases bringUpTunnelFailed (undo _) absent raised with ⟨_,l',left',stub⟩ | ⟨_,left'⟩
    · rw [left] at left'
      cases left'
      exact stubUnconfigured stub configured
    · rw [left] at left'
      contradiction
  | up loaded torn raised =>
    obtain ⟨l,found,up,image⟩ := bringUpTunnelDone raised
    rw [seqOk ran,commitAgreement names before here (raisedFiles torn raised) (raisedApart torn raised),loaded]
    split
    · rename_i saved
      simpa [torn,raised,saved] using (agreesHere onMerged found).mpr ⟨up,image⟩
    · rename_i unsaved
      rw [name] at found
      rw [agreesImage on found up,← image]
      simp [torn,raised,unsaved,eq_comm]

theorem updateKernelAgreement (endpoint : merged.peerEndpoint = "" → cfg.peerEndpoint = "") :
    Agreement env.parseKey (seq (updateKernel env cfg merged) (commitUpdate env idx cfg merged) s).2 ↔ ¬ UpdateDrift env cfg merged s := by
  have own := before cfg (mem_of_getElem? here)
  obtain ⟨l,found,configured⟩ := (agreesOn on).mp own
  unfold UpdateDrift
  cases kept : needsRecreate cfg merged with
  | true =>
    have enter : seq (updateKernel env cfg merged) (commitUpdate env idx cfg merged) s =
        seq (recreateTunnel env merged true) (commitUpdate env idx cfg merged) s := by
      simp only [seq,updateKernel,on,kept,if_true]
    rw [enter,if_pos rfl]
    exact recreateAgreement names before undo here on name onMerged rfl (fun _ _ => rfl) (by simpa using own)
  | false =>
    rw [if_neg (by simp)]
    rcases ran : hotUpdate env merged cfg.cidrs cfg.metric s with ⟨r,v⟩
    obtain ⟨others,l',found',up,patched,unpatched⟩ := hotLinks kept endpoint name found configured ran
    have same : v.config = s.config := filesConfig (keepsRan hotUpdateFiles ran)
    cases r with
    | none =>
      have stepped : updateKernel env cfg merged s = (none,v) := by
        simp [updateKernel,on,kept,ran]
      obtain ⟨toMerged,toOld⟩ := patched ((hotUpdateWires ran).2 rfl)
      rw [seqOk stepped,commitAgreement names before here same others]
      dsimp only
      split
      · rw [agreesImage onMerged (name ▸ found') up,toMerged]
      · rw [agreesImage on found' up,toOld,not_not]
    | some e =>
      have enter : seq (updateKernel env cfg merged) (commitUpdate env idx cfg merged) s =
          seq (recreateTunnel env merged true) (commitUpdate env idx cfg merged) v := by
        simp [seq,updateKernel,on,kept,ran]
      rw [enter]
      refine recreateAgreement names before undo here on name onMerged same others ?_
      rw [agreesImage on found' up]
      by_cases done : (updatePeer env merged.interfaceName merged.peer s).1 = none
      · rw [(patched done).2]
        simp [done]
      · simp [done,unpatched done]

end

theorem updateAgreement {id : String} {updates : TunnelConfig} (undo : ∀ step, env.answer .undo step = none) :
    Agreement env.parseKey (UpdateTunnel env id updates s).2 ↔ ¬ Drifts (.update env id updates) s := by
  simp only [UpdateTunnel,Drifts]
  cases found : findTunnel id s.config with
  | none => simpa using before
  | some place =>
    obtain ⟨idx,cfg⟩ := place
    have here := (findTunnelSource found).1
    have endpoint : (applyUpdates cfg updates).peerEndpoint = "" → cfg.peerEndpoint = "" := by
      simp only [applyUpdates,orElseText]
      split
      · rename_i set
        exact fun unset => absurd unset set
      · exact fun unset => unset
    dsimp only
    cases refused : refuseUpdate env cfg (applyUpdates cfg updates) with
    | some e =>
      refine iff_of_true before ?_
      rintro ⟨idx',cfg',place,_,accepted,_⟩
      cases place
      simp [refused] at accepted
    | none =>
      dsimp only
      cases on : cfg.enabled with
      | true =>
        have result := @updateKernelAgreement env s idx cfg (applyUpdates cfg updates) names before undo here on rfl on endpoint
        rw [result]
        refine not_congr ⟨fun drift => ⟨idx,cfg,rfl,on,refused,drift⟩,?_⟩
        rintro ⟨idx',cfg',place,_,_,drift⟩
        cases place
        exact drift
      | false =>
        have idle : updateKernel env cfg (applyUpdates cfg updates) s = (none,s) := by
          simp [updateKernel,on]
        rw [seqOk idle,commitAgreement names before here rfl (fun _ _ => rfl)]
        refine iff_of_true ?_ ?_
        · have absent := (agreesOff on).mp (before cfg (mem_of_getElem? here))
          split
          · exact (@agreesOff _ (applyUpdates cfg updates) _ on).mpr absent
          · exact (agreesOff on).mpr absent
        · rintro ⟨idx',cfg',place,on',_⟩
          cases place
          rw [on] at on'
          contradiction

end

def keyedState : State := {storedState with keys := fun id => if id = "0a1b2c3d" then some "key" else none}

def noNewLink : Env :=
  {obliging with answer := fun ph step =>
    if ph = .forward ∧ step = .linkNew then some (.new "cannot allocate memory") else none}

def enabledState : State := after (.enable obliging "0a1b2c3d") keyedState

def newPort : TunnelConfig :=
  ⟨"","","",51821,"","","",none,none,0,0,0,false,0⟩

end VpnPack.Wgs2s
