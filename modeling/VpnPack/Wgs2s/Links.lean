import VpnPack.Wgs2s.Frame

/-! The links a tunnel operation leaves behind, call by call, for any answers of the
environment: what a teardown, a bring-up and a hot update do to the link of their own name
and that they touch no other. -/
namespace VpnPack.Wgs2s
open Base Net Ops

structure Image where
  mtu : Nat
  listenPort : Int
  peers : List Peer
  addresses : List (Addr × Nat)
  deriving DecidableEq, Repr

def Settings.image (st : Settings) : Image := ⟨st.mtu,st.listenPort,st.peers,st.addresses⟩

def peerFrom (t : TunnelConfig) (key : String) (nets : List Prefix) : Peer :=
  ⟨key,if t.peerEndpoint ≠ "" then some t.peerEndpoint else none,nets,
    if 0 < t.persistentKeepalive then some t.persistentKeepalive else none⟩

def peersOf (parseKey : String → Except GoError String) (t : TunnelConfig) : Option (List Peer) :=
  if t.peerPublicKey = "" then some []
  else
    match parseKey t.peerPublicKey,parseAllowed t.cidrs with
    | .ok key,.ok nets => some [peerFrom t key nets]
    | _,_ => none

def imageOf (parseKey : String → Except GoError String) (t : TunnelConfig) : Option Image :=
  match peersOf parseKey t,parseCIDR t.tunnelAddress.toList with
  | some peers,some (ip,ipNet) =>
    some ⟨if t.mtu ≠ 0 then uint32 t.mtu else freshSettings.mtu,t.listenPort,peers,[(shortAddr ip,ipNet.bits)]⟩
  | _,_ => none

def Configured (parseKey : String → Except GoError String) (t : TunnelConfig) (l : Link) : Prop :=
  l.settings.up = true ∧ imageOf parseKey t = some l.settings.image

section
variable {env : Env} {ph : Phase} {t : TunnelConfig} {s : State}

theorem buildPeerImage {pc : Peer} (keyed : t.peerPublicKey ≠ "") (built : buildPeerConfig env t.peer = .ok pc) :
    ∃ key nets, env.parseKey t.peerPublicKey = .ok key ∧ parseAllowed t.cidrs = .ok nets ∧ pc = peerFrom t key nets ∧
      peersOf env.parseKey t = some [pc] := by
  unfold buildPeerConfig at built
  split at built <;> try contradiction
  rename_i key parsed
  split at built <;> try contradiction
  split at built <;> try contradiction
  rename_i nets allowed
  cases built
  have parsedKey : env.parseKey t.peerPublicKey = .ok key := parsed
  have parsedNets : parseAllowed t.cidrs = .ok nets := allowed
  refine ⟨key,nets,parsedKey,parsedNets,rfl,?_⟩
  simp only [peersOf,if_neg keyed,parsedKey,parsedNets]
  rfl

variable {u : State} {i : Nat} {r : Option GoError} {st : Settings} {name key : String} {step : Step} {refusal : GoError} {cfg : TunnelConfig} {f : Settings → Settings}

variable {msg : String} {p : Proc State} {change : Kernel → Option Kernel}

theorem onKernelSource (ran : onKernel env ph step change refusal s = (none,u)) :
    env.answer ph step = none ∧ change s.kernel = some u.kernel := by
  unfold onKernel at ran
  cases answer : env.answer ph step with
  | some e => simp [answer] at ran
  | none =>
    cases changed : change s.kernel with
    | none => simp [answer,changed] at ran
    | some k =>
      simp only [answer,changed,Prod.mk.injEq,true_and] at ran
      exact ⟨rfl,congrArg (fun v => some v.kernel) ran⟩

theorem onKernelFailed {e : GoError}
    (ran : onKernel env ph step change refusal s = (some e,u)) : u = s := by
  unfold onKernel at ran
  split at ran
  · cases ran
    rfl
  · split at ran <;> cases ran
    rfl

theorem deleteLinkSource (ran : deleteLink env ph step i s = (none,u)) : u.kernel = s.kernel.deleteLink i := by
  have changed := (onKernelSource ran).2
  split at changed <;> try contradiction
  exact (Option.some.inj changed).symm

structure Became (name : String) (i : Nat) (st : Settings) (s u : State) : Prop where
  here : u.kernel.find name = some ⟨name,i,st⟩
  others : ∀ n, n ≠ name → u.kernel.find n = s.kernel.find n

theorem becameAfter {st' : Settings} {v : State} (first : Became name i st s u) (second : Became name i st' u v) : Became name i st' s v :=
  ⟨second.here,fun n other => (second.others n other).trans (first.others n other)⟩

theorem becameWires {v : State} (first : Became name i st s u) (same : wires v = wires u) : Became name i st s v :=
  ⟨by rw [wiresFind same,first.here],fun n other => by rw [wiresFind same,first.others n other]⟩

section
variable (here : s.kernel.find name = some ⟨name,i,st⟩)
include here

theorem adjustBecame {which : Link → Bool} (changed : u.kernel = s.kernel.adjust which f)
    (hit : which ⟨name,i,st⟩ = true) (only : ∀ l ∈ s.kernel.links, which l = true → l.name = name) : Became name i (f st) s u := by
  refine ⟨?_,fun n other => ?_⟩
  · rw [changed,Kernel.findAdjust,here,Option.map_some,if_pos hit]
  · rw [changed,Kernel.findAdjust]
    cases found : s.kernel.find n with
    | none => rfl
    | some l =>
      obtain ⟨member,named⟩ := Kernel.findSource.mp found
      have missed : ¬ which l = true := fun hits => other (named.symm.trans (only l member hits))
      rw [Option.map_some,if_neg missed]

theorem adjustIndexBecame (ran : onKernel env ph step (adjustIndex i f) refusal s = (none,u)) : Became name i (f st) s u := by
  have changed := (onKernelSource ran).2
  unfold adjustIndex at changed
  split at changed <;> try contradiction
  refine adjustBecame here (Option.some.inj changed).symm (by simp) (fun l member hit => ?_)
  obtain ⟨inside,_⟩ := Kernel.findSource.mp here
  have same : l.index = i := by simpa using hit
  rw [Kernel.linkInjective s.kernel.indexes member inside same]

theorem adjustNamedBecame (ran : onKernel env ph step (adjustNamed name f) refusal s = (none,u)) : Became name i (f st) s u := by
  have changed := (onKernelSource ran).2
  unfold adjustNamed at changed
  split at changed <;> try contradiction
  exact adjustBecame here (Option.some.inj changed).symm (by simp) (fun l _ hit => by simpa using hit)

theorem becameRefl : Became name i st s s := ⟨here,fun _ _ => rfl⟩

end

theorem wrappingSource (ran : wrapping msg p s = (r,u)) : ∃ r', p s = (r',u) ∧ (r = none ↔ r' = none) := by
  simp only [wrapping,Prod.mk.injEq] at ran
  exact ⟨(p s).1,Prod.ext rfl ran.2,by rw [← ran.1,Option.map_eq_none_iff]⟩

theorem wrappedSource {p : Prop}
    (done : onKernel env ph step change refusal s = (none,u) → p)
    (ran : wrapping msg (onKernel env ph step change refusal) s = (r,u)) : (r = none → p) ∧ (r ≠ none → u = s) := by
  obtain ⟨r',inner,same⟩ := wrappingSource ran
  cases r' with
  | none => exact ⟨fun _ => done inner,fun failed => absurd (same.mpr rfl) failed⟩
  | some e => exact ⟨fun ok => absurd (same.mp ok) (by simp),fun _ => onKernelFailed inner⟩

section
variable (here : s.kernel.find t.interfaceName = some ⟨t.interfaceName,i,st⟩)
include here

theorem setMTUBecame (ran : (if t.mtu ≠ 0 then wrapping "set MTU" (setMTU env ph i t.mtu) else skip : Proc State) s = (r,u)) :
    (r = none → Became t.interfaceName i {st with mtu := if t.mtu ≠ 0 then uint32 t.mtu else st.mtu} s u) ∧
    (r ≠ none → u = s) := by
  split at ran
  · rename_i set
    rw [if_pos set]
    exact wrappedSource (adjustIndexBecame here) ran
  · rename_i unset
    cases ran
    rw [if_neg unset]
    exact ⟨fun _ => becameRefl here,fun _ => rfl⟩

theorem configureDeviceBecame (ran : configureDevice env ph t.interfaceName key t.listenPort t.peer s = (r,u)) :
    (r = none → ∃ peers, peersOf env.parseKey t = some peers ∧
      Became t.interfaceName i {st with privateKey := some key, listenPort := t.listenPort, peers := peers} s u) ∧
    (r ≠ none → u = s) := by
  unfold configureDevice at ran
  dsimp only at ran
  split at ran
  · rename_i unset
    exact wrappedSource (fun inner => ⟨[],if_pos unset,adjustNamedBecame here inner⟩) ran
  · rename_i keyed
    cases built : buildPeerConfig env t.peer with
    | error e =>
      rw [built] at ran
      cases ran
      exact ⟨fun ok => by simp at ok,fun _ => rfl⟩
    | ok pc =>
      rw [built] at ran
      obtain ⟨_,_,_,_,_,image⟩ := buildPeerImage keyed built
      exact wrappedSource (fun inner => ⟨[pc],image,adjustNamedBecame here inner⟩) ran

theorem addAddressBecame
    (ran : addAddress env ph i t.tunnelAddress s = (r,u)) : (r = none → ∃ ip ipNet, parseCIDR t.tunnelAddress.toList = some (ip,ipNet) ∧
      Became t.interfaceName i {st with addresses := st.addresses ++ [(shortAddr ip,ipNet.bits)]} s u) ∧
    (r ≠ none → u = s) := by
  unfold addAddress at ran
  cases parsed : parseCIDR t.tunnelAddress.toList with
  | none =>
    rw [parsed] at ran
    cases ran
    exact ⟨fun ok => by simp at ok,fun _ => rfl⟩
  | some pair =>
    obtain ⟨ip,ipNet⟩ := pair
    rw [parsed] at ran
    cases r with
    | none => exact ⟨fun _ => ⟨ip,ipNet,rfl,adjustIndexBecame here ran⟩,fun failed => absurd rfl failed⟩
    | some e => exact ⟨fun ok => by simp at ok,fun _ => onKernelFailed ran⟩

end

theorem deleteOwnLink (here : s.kernel.lookup cfg.interfaceName = some i) (ran : deleteLink env ph step i s = (r,u)) :
    (∀ n, n ≠ cfg.interfaceName → u.kernel.find n = s.kernel.find n) ∧ (r = none → u.kernel.find cfg.interfaceName = none) ∧
    (r ≠ none → u = s) := by
  cases r with
  | none =>
    have gone := deleteLinkSource ran
    refine ⟨fun n other => ?_,fun _ => ?_,fun failed => absurd rfl failed⟩
    · rw [gone]
      exact Kernel.findDeleteOther (fun clash => other (Kernel.lookupInj clash here))
    · rw [gone]
      exact Kernel.findDeleteSelf here
  | some e =>
    cases onKernelFailed ran
    exact ⟨fun _ _ => rfl,fun ok => by simp at ok,fun _ => rfl⟩

theorem tearDownLinks (ran : tearDown env ph cfg s = (r,u)) : (∀ n, n ≠ cfg.interfaceName → u.kernel.find n = s.kernel.find n) ∧
    (r = none → u.kernel.find cfg.interfaceName = none) ∧
    (r ≠ none → u.kernel.find cfg.interfaceName = s.kernel.find cfg.interfaceName) := by
  unfold tearDown at ran
  cases found : s.kernel.lookup cfg.interfaceName with
  | none =>
    rw [found] at ran
    cases ran
    exact ⟨fun _ _ => rfl,fun _ => Kernel.lookupNone.mp found,fun _ => rfl⟩
  | some i =>
    rw [found] at ran
    have same : wires (releaseRoutes env ph .link cfg.id i cfg.metric cfg.cidrs s) = wires s := releaseWires _ _
    obtain ⟨r',inner,agree⟩ := wrappingSource ran
    obtain ⟨others,gone,stuck⟩ := deleteOwnLink ((wiresLookup same _).trans found) inner
    refine ⟨fun n other => (others n other).trans (wiresFind same n),fun ok => gone (agree.mp ok),fun failed => ?_⟩
    rw [stuck (fun ok => failed (agree.mpr ok))]
    exact wiresFind same _

theorem cleanupAbsent (absent : s.kernel.find cfg.interfaceName = none) : cleanupExistingInterface env ph cfg s = (none,s) := by
  unfold cleanupExistingInterface
  rw [Kernel.lookupNone.mpr absent]

theorem cleanupLinks (ran : cleanupExistingInterface env ph cfg s = (r,u)) :
    (∀ n, n ≠ cfg.interfaceName → u.kernel.find n = s.kernel.find n) ∧ (r = none → u.kernel.find cfg.interfaceName = none) := by
  unfold cleanupExistingInterface at ran
  cases found : s.kernel.lookup cfg.interfaceName with
  | none =>
    rw [found] at ran
    cases ran
    exact ⟨fun _ _ => rfl,fun _ => Kernel.lookupNone.mp found⟩
  | some i =>
    rw [found] at ran
    dsimp only at ran
    have same : wires (releaseRoutes env ph .link cfg.id i cfg.metric cfg.cidrs s) = wires s := releaseWires _ _
    have here := (wiresLookup same cfg.interfaceName).trans found
    split at ran
    · rename_i v first
      cases ran
      have deleted := deleteOwnLink here first
      exact ⟨fun n other => (deleted.1 n other).trans (wiresFind same n),deleted.2.1⟩
    · rename_i e v first
      have deleted := deleteOwnLink here first
      have kept : ∀ n, n ≠ cfg.interfaceName → v.kernel.find n = s.kernel.find n :=
        fun n other => (deleted.1 n other).trans (wiresFind same n)
      split at ran
      · cases ran
        exact ⟨kept,fun ok => by simp at ok⟩
      · split at ran
        · rename_i absent
          cases ran
          exact ⟨kept,fun _ => Kernel.lookupNone.mp absent⟩
        · rename_i j present
          obtain ⟨r',inner,agree⟩ := wrappingSource ran
          have again := deleteOwnLink present inner
          exact ⟨fun n other => (again.1 n other).trans (kept n other),fun ok => again.2.1 (agree.mp ok)⟩

structure Remained (name : String) (i : Nat) (s u : State) : Prop where
  here : u.kernel.lookup name = some i
  others : ∀ n, n ≠ name → u.kernel.find n = s.kernel.find n

theorem becameRemained (became : Became name i st s u) : Remained name i s u := ⟨Kernel.lookupSource.mpr ⟨_,became.here,rfl⟩,became.others⟩

theorem seqCases {q : Proc State} (ran : seq p q s = (r,u)) :
    (∃ e, r = some e ∧ p s = (some e,u)) ∨ ∃ v, p s = (none,v) ∧ q v = (r,u) := by
  simp only [seq] at ran
  split at ran
  · rename_i e v first
    cases ran
    exact .inl ⟨e,rfl,first⟩
  · rename_i v first
    exact .inr ⟨v,first,ran⟩

theorem claimStepWires :
    Keeps wires (if 0 < t.cidrs.length then claimRoutes env ph .link t.id i t.metric t.cidrs else skip : Proc State) := by
  split
  · exact claimFromWires
  · exact keepsSkip

theorem configureLinkLinks (here : s.kernel.find t.interfaceName = some ⟨t.interfaceName,i,freshSettings⟩)
    (ran : configureLink env ph t key i s = (r,u)) : Remained t.interfaceName i s u ∧
    (r = none → ∃ l, u.kernel.find t.interfaceName = some l ∧ Configured env.parseKey t l) := by
  have failed : ∀ {e : GoError}, r = some e → r = none → ∃ l, u.kernel.find t.interfaceName = some l ∧
      Configured env.parseKey t l := fun err ok => by rw [ok] at err; contradiction
  rcases seqCases ran with ⟨e,err,first⟩ | ⟨a,first,ran⟩
  · cases (setMTUBecame here first).2 (by simp)
    exact ⟨becameRemained (becameRefl here),failed err⟩
  have toA := (setMTUBecame here first).1 rfl
  rcases seqCases ran with ⟨e,err,second⟩ | ⟨b,second,ran⟩
  · cases (configureDeviceBecame toA.here second).2 (by simp)
    exact ⟨becameRemained toA,failed err⟩
  obtain ⟨peers,peersHere,fromA⟩ := (configureDeviceBecame toA.here second).1 rfl
  have toB := becameAfter toA fromA
  rcases seqCases ran with ⟨e,err,third⟩ | ⟨c,third,ran⟩
  · obtain ⟨r',inner,agree⟩ := wrappingSource third
    cases (addAddressBecame toB.here inner).2 (fun ok => by simpa using agree.mpr ok)
    exact ⟨becameRemained toB,failed err⟩
  obtain ⟨ip,ipNet,parsed,fromB⟩ := (addAddressBecame toB.here (wrappingOk.mp third)).1 rfl
  have toC := becameAfter toB fromB
  rcases seqCases ran with ⟨e,err,fourth⟩ | ⟨d,fourth,ran⟩
  · cases (wrappedSource id fourth).2 (by simp)
    exact ⟨becameRemained toC,failed err⟩
  have toD := becameAfter toC (adjustIndexBecame toC.here (wrappingOk.mp fourth))
  have toU := becameWires toD (keepsRan claimStepWires ran)
  refine ⟨becameRemained toU,fun _ => ⟨_,toU.here,rfl,?_⟩⟩
  simp only [imageOf,peersHere,parsed,Settings.image,freshSettings,List.nil_append]

theorem createLinkSource (ran : createLink env ph name s = (none,u)) : u.kernel.find name = some ⟨name,s.kernel.nextIndex,freshSettings⟩ ∧
    ∀ n, n ≠ name → u.kernel.find n = s.kernel.find n := by
  obtain ⟨_,_,_,finds⟩ := Kernel.newLinkSource (onKernelSource ran).2
  exact ⟨by rw [finds,if_pos rfl],fun n other => by rw [finds,if_neg other]⟩

def Stub (l : Link) : Prop := l.settings = freshSettings

/- What a bring-up can leave behind under its own name, besides a clean failure:
a link it could not look up after creating it stays, because only the steps
after the lookup delete the link they fail on. -/
structure BroughtUp (env : Env) (ph : Phase) (t : TunnelConfig) (s : State) (r : Option GoError) (u : State) : Prop where
  others : ∀ n, n ≠ t.interfaceName → u.kernel.find n = s.kernel.find n
  done : r = none → ∃ l, u.kernel.find t.interfaceName = some l ∧ Configured env.parseKey t l
  failed : r ≠ none → s.kernel.find t.interfaceName = none → env.answer .undo .linkCleanup = none →
    if env.answer ph .linkNew = none ∧ env.answer ph .linkLookup ≠ none then
      ∃ l, u.kernel.find t.interfaceName = some l ∧ Stub l
    else u.kernel.find t.interfaceName = none

theorem bringUpLinks (ran : bringUp env ph t key s = (r,u)) : BroughtUp env ph t s r u := by
  rcases seqCases ran with ⟨e,rfl,swept⟩ | ⟨a,swept,ran⟩
  · refine ⟨(cleanupLinks swept).1,fun ok => by simp at ok,fun _ absent _ => ?_⟩
    rw [cleanupAbsent absent] at swept
    simp at swept
  obtain ⟨others,gone⟩ := cleanupLinks swept
  have absent := gone rfl
  rcases seqCases ran with ⟨e,rfl,created⟩ | ⟨b,created,ran⟩
  · obtain ⟨r',inner,agree⟩ := wrappingSource created
    cases r' with
    | none => simpa using agree.mpr rfl
    | some e' =>
      cases onKernelFailed inner
      refine ⟨others,fun ok => by simp at ok,fun _ _ _ => ?_⟩
      have refused : env.answer ph .linkNew ≠ none := by
        intro willing
        obtain ⟨k,made⟩ := Kernel.newLinkFree absent
        simp [createLink,onKernel,willing,made] at inner
      rw [if_neg (fun both => refused both.1)]
      exact absent
  obtain ⟨fresh,apart⟩ := createLinkSource (wrappingOk.mp created)
  have others : ∀ n, n ≠ t.interfaceName → b.kernel.find n = s.kernel.find n :=
    fun n other => (apart n other).trans (others n other)
  have willing : env.answer ph .linkNew = none := (onKernelSource (wrappingOk.mp created)).1
  dsimp only at ran
  split at ran
  · rename_i e missed
    cases ran
    refine ⟨others,fun ok => by simp at ok,fun _ _ _ => ?_⟩
    rw [if_pos ⟨willing,by simp [missed]⟩]
    exact ⟨_,fresh,rfl⟩
  · rename_i looked
    have index : b.kernel.lookup t.interfaceName = some a.kernel.nextIndex := Kernel.lookupSource.mpr ⟨_,fresh,rfl⟩
    rw [index] at ran
    dsimp only at ran
    simp only [orElse] at ran
    split at ran
    · rename_i e c configured
      cases ran
      have remained := (configureLinkLinks fresh configured).1
      cases deleted : deleteLink env .undo .linkCleanup a.kernel.nextIndex c with
      | mk r' v =>
        have effect := deleteOwnLink remained.here deleted
        refine ⟨fun n other => ?_,fun ok => by simp at ok,fun _ _ clean => ?_⟩
        · exact (effect.1 n other).trans ((remained.others n other).trans (others n other))
        · rw [if_neg (fun both => both.2 looked)]
          refine effect.2.1 ?_
          have known := Kernel.hasIndexOfLookup remained.here
          simp [deleteLink,onKernel,clean,known] at deleted
          exact deleted.1.symm
    · rename_i c configured
      cases ran
      have result := configureLinkLinks fresh configured
      exact ⟨fun n other => (result.1.others n other).trans (others n other),fun _ => result.2 rfl,fun bad => absurd rfl bad⟩

theorem updatePeerLinks (here : s.kernel.find t.interfaceName = some ⟨t.interfaceName,i,st⟩)
    (ran : updatePeer env t.interfaceName t.peer s = (r,u)) :
    (r = none → t.peerPublicKey = "" ∧ u = s ∨ t.peerPublicKey ≠ "" ∧ ∃ pc, buildPeerConfig env t.peer = .ok pc ∧
      Became t.interfaceName i {st with peers := st.peers.map (updateOnly pc)} s u) ∧
    (r ≠ none → u = s) := by
  unfold updatePeer at ran
  split at ran
  · rename_i unset
    cases ran
    exact ⟨fun _ => .inl ⟨unset,rfl⟩,fun _ => rfl⟩
  · rename_i keyed
    cases built : buildPeerConfig env t.peer with
    | error e =>
      rw [built] at ran
      cases ran
      exact ⟨fun ok => by simp at ok,fun _ => rfl⟩
    | ok pc =>
      rw [built] at ran
      exact wrappedSource (fun inner => .inr ⟨keyed,pc,rfl,adjustNamedBecame here inner⟩) ran

theorem hotUpdateWires {old : List String} {metric : Int} (ran : hotUpdate env t old metric s = (r,u)) :
    wires u = wires (updatePeer env t.interfaceName t.peer s).2 ∧ (r = none → (updatePeer env t.interfaceName t.peer s).1 = none) := by
  rcases seqCases ran with ⟨e,rfl,patched⟩ | ⟨v,patched,ran⟩
  · rw [patched]
    exact ⟨rfl,fun ok => by simp at ok⟩
  · rw [patched]
    refine ⟨?_,fun _ => rfl⟩
    split at ran
    · cases ran
      rfl
    · split at ran
      · obtain ⟨r',inner,_⟩ := wrappingSource ran
        exact (keepsRan claimFromWires inner).trans (releaseWires _ _)
      · cases ran
        rfl

end

def KeepaliveDropped (cfg merged : TunnelConfig) : Prop :=
  merged.peerPublicKey ≠ "" ∧ 0 < cfg.persistentKeepalive ∧ merged.persistentKeepalive ≤ 0

def SamePeer (cfg merged : TunnelConfig) : Prop :=
  merged.peerPublicKey = "" ∨ parseAllowed merged.cidrs = parseAllowed cfg.cidrs ∧
    merged.peerEndpoint = cfg.peerEndpoint ∧
    (0 < merged.persistentKeepalive → merged.persistentKeepalive = cfg.persistentKeepalive)

section
variable {env : Env} {cfg merged : TunnelConfig}

theorem keepaliveOr (new old : Int) : ((if 0 < new then some new else none : Option Int).or (if 0 < old then some old else none)) =
      if 0 < new then some new else if 0 < old then some old else none := by
  split <;> rfl

variable {parseKey : String → Except GoError String}

theorem imageSource {t : TunnelConfig} {image : Image} (asked : imageOf parseKey t = some image) : peersOf parseKey t = some image.peers ∧
      ∃ ip ipNet, parseCIDR t.tunnelAddress.toList = some (ip,ipNet) ∧
        image = ⟨if t.mtu ≠ 0 then uint32 t.mtu else freshSettings.mtu,t.listenPort,image.peers,[(shortAddr ip,ipNet.bits)]⟩ := by
  unfold imageOf at asked
  split at asked <;> try contradiction
  rename_i peers ip ipNet found parsed
  cases asked
  exact ⟨found,ip,ipNet,parsed,rfl⟩

theorem imageKept {image : Image} (kept : needsRecreate cfg merged = false)
    (asked : imageOf parseKey cfg = some image) (peers : List Peer) :
    imageOf parseKey merged = some {image with peers := peers} ↔ peersOf parseKey merged = some peers := by
  obtain ⟨_,ip,ipNet,parsed,shape⟩ := imageSource asked
  simp only [needsRecreate,decide_eq_false_iff_not,not_or,not_not] at kept
  obtain ⟨port,address,mtu,_⟩ := kept
  rw [shape]
  unfold imageOf
  rw [← address,parsed]
  cases peersOf parseKey merged with
  | none => simp
  | some ps => simp [port,mtu]

theorem peersSource {t : TunnelConfig} {peers : List Peer} (keyed : t.peerPublicKey ≠ "") (found : peersOf parseKey t = some peers) :
    ∃ key nets, parseKey t.peerPublicKey = .ok key ∧ parseAllowed t.cidrs = .ok nets ∧ peers = [peerFrom t key nets] := by
  unfold peersOf at found
  rw [if_neg keyed] at found
  split at found <;> try contradiction
  rename_i key nets parsed allowed
  exact ⟨key,nets,parsed,allowed,(Option.some.inj found).symm⟩

theorem keptKey (kept : needsRecreate cfg merged = false) : cfg.peerPublicKey = merged.peerPublicKey := by
  simp only [needsRecreate,decide_eq_false_iff_not,not_or,not_not] at kept
  exact kept.2.2.2

theorem patchedPeer {key : String} {nets old : List Prefix} (endpoint : merged.peerEndpoint = "" → cfg.peerEndpoint = "") :
    updateOnly (peerFrom merged key nets) (peerFrom cfg key old) =
      {peerFrom merged key nets with keepalive :=
        if 0 < merged.persistentKeepalive then some merged.persistentKeepalive
        else if 0 < cfg.persistentKeepalive then some cfg.persistentKeepalive else none} := by
  simp only [updateOnly,peerFrom,keepaliveOr,if_true,Peer.mk.injEq,and_true,true_and]
  split
  · rfl
  · rename_i unset
    simp [endpoint (not_not.mp unset)]

theorem patchedPeerMerged {key : String} {nets old : List Prefix} (keyed : merged.peerPublicKey ≠ "")
    (endpoint : merged.peerEndpoint = "" → cfg.peerEndpoint = "") :
    updateOnly (peerFrom merged key nets) (peerFrom cfg key old) = peerFrom merged key nets ↔ ¬ KeepaliveDropped cfg merged := by
  rw [patchedPeer endpoint]
  simp only [peerFrom,Peer.mk.injEq,true_and,KeepaliveDropped]
  by_cases positive : 0 < merged.persistentKeepalive
  · simp [positive]
  · by_cases had : 0 < cfg.persistentKeepalive
    · simp [positive,had,Int.not_lt.mp positive,keyed]
    · simp [positive,had]

theorem endpointSame {a b : String} : (if a ≠ "" then some a else none : Option String) = (if b ≠ "" then some b else none) ↔ a = b := by
  by_cases left : a = "" <;> by_cases right : b = "" <;> simp [left,right,eq_comm]

theorem patchedPeerOld {key : String} {nets old : List Prefix} (keyed : merged.peerPublicKey ≠ "")
    (endpoint : merged.peerEndpoint = "" → cfg.peerEndpoint = "")
    (allowed : parseAllowed merged.cidrs = .ok nets) (allowedOld : parseAllowed cfg.cidrs = .ok old) :
    updateOnly (peerFrom merged key nets) (peerFrom cfg key old) = peerFrom cfg key old ↔ SamePeer cfg merged := by
  rw [patchedPeer endpoint]
  simp only [peerFrom,Peer.mk.injEq,true_and,SamePeer,keyed,false_or,allowed,allowedOld,Except.ok.injEq,endpointSame]
  by_cases positive : 0 < merged.persistentKeepalive
  · by_cases had : 0 < cfg.persistentKeepalive
    · simp only [positive,had,if_true,Option.some.injEq,true_implies]
      tauto
    · have differs : merged.persistentKeepalive ≠ cfg.persistentKeepalive := fun same => had (same ▸ positive)
      simp [positive,had,differs]
  · simp only [positive,if_false,false_implies,and_true]
    tauto

theorem patchedImage {st : Settings} {pc : Peer} (kept : needsRecreate cfg merged = false)
    (endpoint : merged.peerEndpoint = "" → cfg.peerEndpoint = "") (asked : imageOf env.parseKey cfg = some st.image)
    (keyed : merged.peerPublicKey ≠ "") (built : buildPeerConfig env merged.peer = .ok pc) :
    (imageOf env.parseKey merged = some {st with peers := st.peers.map (updateOnly pc)}.image ↔
      ¬ KeepaliveDropped cfg merged) ∧
    (imageOf env.parseKey cfg = some {st with peers := st.peers.map (updateOnly pc)}.image ↔ SamePeer cfg merged) := by
  have sameKey := keptKey kept
  obtain ⟨key,nets,parsed,allowed,rfl,found⟩ := buildPeerImage keyed built
  obtain ⟨key',old,parsed',allowedOld,shape⟩ := peersSource (sameKey ▸ keyed) (imageSource asked).1
  rw [sameKey,parsed] at parsed'
  cases parsed'
  have peers : st.peers = [peerFrom cfg key old] := shape
  refine ⟨?_,?_⟩
  · refine (imageKept kept asked _).trans ?_
    have same := @patchedPeerMerged cfg merged key nets old keyed endpoint
    rw [found,peers,← same]
    simp [eq_comm]
  · have same := @patchedPeerOld cfg merged key nets old keyed endpoint allowed allowedOld
    rw [asked,← same]
    simp [Settings.image,peers,eq_comm]

end
end VpnPack.Wgs2s
