import VpnPack.Base.Runs
import VpnPack.Udapi.Rules

/-! Rules of different markers over runs of successful calls. The IDs are the server's:
any numbering that is unique in a chain, and it may change from one call to the next.
Which rules the manager has added is kept beside the configuration. -/
namespace VpnPack.Udapi
open Base List

inductive RuleCall where
  | add (iface marker chainPrefix : String)
  | remove (iface marker : String)
  deriving DecidableEq, Repr

def RuleCall.marker : RuleCall → String
  | .add _ marker _ => marker
  | .remove _ marker => marker

-- A call, the answers to its requests, and the IDs by position that the rules have meanwhile.
structure RuleTurn where
  call : RuleCall
  link : Link
  ids : Chain → Nat → Nat
  nextID : Nat

def RuleTurn.numbered (turn : RuleTurn) (u : Config) : Config :=
  {u with rules := fun chain => (u.rules chain).mapIdx (fun i r => {r with id := turn.ids chain i}), nextID := turn.nextID}

def RuleTurn.perform (turn : RuleTurn) : Proc Config := fun u =>
  match turn.call with
  | .add iface marker chainPrefix => AddInterfaceRulesForZone turn.link iface marker chainPrefix (turn.numbered u)
  | .remove _ marker => RemoveInterfaceRules turn.link marker (turn.numbered u)

structure Traced where
  config : Config
  own : Chain → List Bool

def ownAfter (before : List Rule) (own : List Bool) (after : List Rule) : List Bool :=
  after.map (fun r => ((before.zip own).lookup r).getD true)

def RuleTurn.step (turn : RuleTurn) (s : Traced) : Traced :=
  let v := (turn.perform s.config).2
  ⟨v,fun chain => ownAfter ((turn.numbered s.config).rules chain) (s.own chain) (v.rules chain)⟩

def untouched (u : Config) : Traced := ⟨u,fun chain => (u.rules chain).map (fun _ => false)⟩
def ownRules (rules : List Rule) (own : List Bool) : List Rule := ((rules.zip own).filter Prod.snd).map Prod.fst
def Traced.managed (s : Traced) (chain : Chain) : List Rule := ownRules (s.config.rules chain) (s.own chain)

structure TurnSucceeds (turn : RuleTurn) (s : Traced) : Prop where
  plain : Plain turn.call.marker
  unique : ∀ chain, Function.Injective (turn.ids chain)
  done : (turn.perform s.config).1 = none

structure Isolated (turn : RuleTurn) (s : Traced) : Prop where
  sets : (turn.step s).config.sets = s.config.sets
  removed : ∀ iface marker, turn.call = .remove iface marker → ∀ chain,
    (turn.step s).config.rules chain = ((turn.numbered s.config).rules chain).filter (fun r => r.marker != marker)
  added : ∀ iface marker chainPrefix, turn.call = .add iface marker chainPrefix → ∀ chain,
    (turn.step s).config.rules chain = (turn.numbered s.config).rules chain ∨
      ∃ id, (turn.step s).config.rules chain = (turn.numbered s.config).rules chain ++ [(zoneRule iface marker chainPrefix chain).rule id]
  single : ∀ chain, (((turn.step s).managed chain).map Rule.marker).Nodup

section
variable {rules before : List Rule} {own : List Bool} {marker : String}

theorem unmarkedExact (distinct : (rules.map Rule.id).Nodup) : unmarked marker rules = rules.filter (fun r => r.marker != marker) := by
  refine filter_congr (fun r member => ?_)
  rw [Bool.eq_iff_iff,decide_eq_true_iff,bne_iff_ne]
  constructor
  · intro kept same
    exact kept (mem_map_of_mem (mem_filter.mpr ⟨member,beq_iff_eq.mpr same⟩))
  · intro differs listed
    obtain ⟨x,marked,same⟩ := mem_map.mp listed
    obtain ⟨inside,hit⟩ := mem_filter.mp marked
    cases inj_on_of_nodup_map distinct inside member same
    exact differs (beq_iff_eq.mp hit)

theorem lookupZip {α β : Type} [BEq α] [LawfulBEq α] {pairs : List (α × β)} {x : α × β} (distinct : (pairs.map Prod.fst).Nodup)
    (member : x ∈ pairs) : pairs.lookup x.1 = some x.2 := by
  induction pairs with
  | nil => cases member
  | cons y rest ih =>
    rw [map_cons,nodup_cons] at distinct
    rcases mem_cons.mp member with rfl | later
    · exact lookup_cons_self
    · have differs : (x.1 == y.1) = false := beq_false_of_ne (fun same => distinct.1 (same ▸ mem_map_of_mem later))
      rw [lookup_cons,differs]
      exact ih distinct.2 later

theorem markedAfter (before : List Rule) (own : List Bool) (after : List Rule) :
    after.zip (ownAfter before own after) = after.map (fun r => (r,((before.zip own).lookup r).getD true)) := by
  have zipped := @zip_map' _ _ _ id (fun r => ((before.zip own).lookup r).getD true) after
  rwa [map_id] at zipped

theorem ownFiltered (distinct : before.Nodup) (aligned : own.length = before.length) (keep : Rule → Bool) :
    (before.filter keep).zip (ownAfter before own (before.filter keep)) = (before.zip own).filter (fun x => keep x.1) := by
  have rules : (before.zip own).map Prod.fst = before := map_fst_zip (le_of_eq aligned.symm)
  rw [markedAfter]
  generalize before.zip own = pairs at rules ⊢
  subst rules
  rw [filter_map,map_map]
  refine (map_congr_left (fun x member => ?_)).trans (map_id _)
  have found := lookupZip distinct (mem_of_mem_filter member)
  simp [found]

theorem ownAppended {x : Rule} (distinct : before.Nodup) (aligned : own.length = before.length) (absent : x ∉ before) :
    (before ++ [x]).zip (ownAfter before own (before ++ [x])) = before.zip own ++ [(x,true)] := by
  have rules : (before.zip own).map Prod.fst = before := map_fst_zip (le_of_eq aligned.symm)
  have missing : (before.zip own).lookup x = none := by
    rw [lookup_eq_none_iff]
    intro y member
    rw [bne_iff_ne]
    intro same
    rw [same,← rules] at absent
    exact absent (mem_map_of_mem member)
  have kept := ownFiltered distinct aligned (fun _ => true)
  simp only [filter_true,markedAfter] at kept
  rw [markedAfter,map_append,kept,map_singleton,missing]
  rfl

theorem ownMarkers (rules : List Rule) (own : List Bool) :
    (ownRules rules own).map Rule.marker = (((rules.map Rule.marker).zip own).filter Prod.snd).map Prod.fst := by
  rw [ownRules,zip_map_left,filter_map,map_map,map_map]
  rfl

end
section
variable {turn : RuleTurn} {s : Traced} {u : Config} {chain : Chain}

theorem numberedMarkers (turn : RuleTurn) (u : Config) (chain : Chain) :
    ((turn.numbered u).rules chain).map Rule.marker = (u.rules chain).map Rule.marker := by
  refine ext_getElem (by simp [RuleTurn.numbered]) (fun i _ _ => ?_)
  simp only [RuleTurn.numbered,getElem_mapIdx,getElem_map]
  rfl

theorem numberedUnique (unique : Function.Injective (turn.ids chain)) : (((turn.numbered u).rules chain).map Rule.id).Nodup := by
  rw [List.Nodup,pairwise_iff_getElem]
  intro i j _ _ before same
  simp only [RuleTurn.numbered,getElem_map,getElem_mapIdx] at same
  exact absurd (unique same) (ne_of_lt before)

structure TracedSound (s : Traced) : Prop where
  aligned : ∀ chain, (s.own chain).length = (s.config.rules chain).length
  single : ∀ chain, ((s.managed chain).map Rule.marker).Nodup

theorem soundStart (u : Config) : TracedSound (untouched u) := by
  refine ⟨fun chain => length_map _,fun chain => ?_⟩
  have none_ : ((u.rules chain).zip ((u.rules chain).map (fun _ => false))).filter Prod.snd = [] := by
    rw [filter_eq_nil_iff]
    intro x member
    obtain ⟨r,_,same⟩ := mem_map.mp (of_mem_zip member).2
    simp [← same]
  change (((((u.rules chain).zip ((u.rules chain).map (fun _ => false))).filter Prod.snd).map Prod.fst).map Rule.marker).Nodup
  rw [none_]
  exact nodup_nil

theorem soundNumbered (sound : TracedSound s) (turn : RuleTurn) (chain : Chain) :
    (s.own chain).length = ((turn.numbered s.config).rules chain).length ∧
      ((ownRules ((turn.numbered s.config).rules chain) (s.own chain)).map Rule.marker).Nodup := by
  constructor
  · rw [sound.aligned chain]
    simp [RuleTurn.numbered]
  · have before := sound.single chain
    rw [Traced.managed,ownMarkers] at before
    rw [ownMarkers,numberedMarkers]
    exact before

theorem removalExact {iface marker : String} (ok : TurnSucceeds turn s) (removes : turn.call = .remove iface marker) :
    (turn.step s).config.sets = s.config.sets ∧ ∀ chain,
      (turn.step s).config.rules chain = ((turn.numbered s.config).rules chain).filter (fun r => r.marker != marker) := by
  have ran : RemoveInterfaceRules turn.link marker (turn.numbered s.config) = (none,(turn.step s).config) := by
    refine Prod.ext ?_ ?_
    · have done := ok.done
      rw [RuleTurn.perform,removes] at done
      exact done
    · rw [RuleTurn.step,RuleTurn.perform,removes]
  obtain ⟨sets,rules⟩ := removeInterfaceSource ran
  exact ⟨sets,fun chain => (rules chain).trans (unmarkedExact (numberedUnique (ok.unique chain)))⟩

theorem additionExact {iface marker chainPrefix : String} (ok : TurnSucceeds turn s) (adds : turn.call = .add iface marker chainPrefix) :
    (turn.step s).config.sets = s.config.sets ∧ ∀ chain,
      Installed iface marker chainPrefix chain ((turn.numbered s.config).rules chain) ((turn.step s).config.rules chain) := by
  have ran : AddInterfaceRulesForZone turn.link iface marker chainPrefix (turn.numbered s.config) = (none,(turn.step s).config) := by
    refine Prod.ext ?_ ?_
    · have done := ok.done
      rw [RuleTurn.perform,adds] at done
      exact done
    · rw [RuleTurn.step,RuleTurn.perform,adds]
  exact addInterfaceSource ran

theorem managedStep (turn : RuleTurn) (s : Traced) (chain : Chain) :
    (turn.step s).managed chain = ownRules ((turn.step s).config.rules chain)
      (ownAfter ((turn.numbered s.config).rules chain) (s.own chain) ((turn.step s).config.rules chain)) := rfl

theorem filteredSingle (sound : TracedSound s) (unique : Function.Injective (turn.ids chain)) (keep : Rule → Bool)
    (rules : (turn.step s).config.rules chain = ((turn.numbered s.config).rules chain).filter keep) :
    (((turn.step s).managed chain).map Rule.marker).Nodup := by
  obtain ⟨aligned,single⟩ := soundNumbered sound turn chain
  rw [managedStep,rules,ownRules,ownFiltered (List.Nodup.of_map _ (numberedUnique unique)) aligned]
  refine single.sublist ((List.Sublist.map _ ?_).map _)
  exact filter_sublist.filter _

theorem appendedSingle {iface marker chainPrefix : String} {id : Nat} (sound : TracedSound s) (unique : Function.Injective (turn.ids chain))
    (plain : Plain marker) (absent : Marked marker ((turn.numbered s.config).rules chain) = []) (rules : (turn.step s).config.rules chain =
      (turn.numbered s.config).rules chain ++ [(zoneRule iface marker chainPrefix chain).rule id]) :
    (((turn.step s).managed chain).map Rule.marker).Nodup := by
  obtain ⟨aligned,single⟩ := soundNumbered sound turn chain
  have fresh : ∀ r ∈ (turn.numbered s.config).rules chain, r.marker ≠ marker := by
    intro r member same
    exact filter_eq_nil_iff.mp absent r member (beq_iff_eq.mpr same)
  have posted : ((zoneRule iface marker chainPrefix chain).rule id).marker = marker := zoneRuleMarker plain id
  have outside : (zoneRule iface marker chainPrefix chain).rule id ∉ (turn.numbered s.config).rules chain :=
    fun member => fresh _ member posted
  rw [managedStep,rules,ownRules,ownAppended (List.Nodup.of_map _ (numberedUnique unique)) aligned outside]
  rw [filter_append,map_append,map_append,nodup_append]
  refine ⟨single,nodup_singleton _,?_⟩
  intro a old b new same
  obtain ⟨r,member,rfl⟩ := mem_map.mp old
  obtain ⟨pair,inside,rfl⟩ := mem_map.mp member
  have known := (of_mem_zip (mem_of_mem_filter inside)).1
  refine fresh _ known ?_
  rw [same,mem_singleton.mp new]
  exact posted

theorem stepIsolated (sound : TracedSound s) (ok : TurnSucceeds turn s) : Isolated turn s := by
  cases call : turn.call with
  | remove iface marker =>
    obtain ⟨sets,rules⟩ := removalExact ok call
    refine ⟨sets,fun iface' marker' same => ?_,fun _ _ _ same => ?_,fun chain => filteredSingle sound (ok.unique chain) _ (rules chain)⟩
    · rw [call] at same
      cases same
      exact rules
    · rw [call] at same
      cases same
  | add iface marker chainPrefix =>
    obtain ⟨sets,rules⟩ := additionExact ok call
    have plain : Plain marker := by
      have plain := ok.plain
      rwa [call] at plain
    refine ⟨sets,fun _ _ same => ?_,fun iface' marker' chainPrefix' same chain => ?_,fun chain => ?_⟩
    · rw [call] at same
      cases same
    · rw [call] at same
      cases same
      generalize known : (turn.step s).config.rules chain = after
      have installed := rules chain
      rw [known] at installed
      cases installed with
      | kept _ => exact .inl rfl
      | added id _ => exact .inr ⟨id,rfl⟩
    · generalize known : (turn.step s).config.rules chain = after
      have installed := rules chain
      rw [known] at installed
      cases installed with
      | kept _ => exact filteredSingle sound (ok.unique chain) (fun _ => true) (known.trans (filter_true _).symm)
      | added id absent => exact appendedSingle sound (ok.unique chain) plain absent known

theorem stepSound (sound : TracedSound s) (ok : TurnSucceeds turn s) : TracedSound (turn.step s) :=
  ⟨fun _ => length_map _,(stepIsolated sound ok).single⟩

end

theorem markersIsolated (u : Config) (run : List RuleTurn) (succeed : Along RuleTurn.step TurnSucceeds run (untouched u)) :
    Along RuleTurn.step Isolated run (untouched u) := by
  have both : Along RuleTurn.step (fun turn s => TurnSucceeds turn s ∧ Isolated turn s) run (untouched u) :=
    (alongIff TracedSound (fun _ _ _ sound => ⟨And.left,fun ok => ⟨ok,stepIsolated sound ok⟩⟩) (fun _ _ _ => stepSound) (soundStart u)).mpr succeed
  exact (alongAnd.mp both).2

def tunnelRun : List RuleTurn :=
  [⟨.add "wg1" "s2s:1" "V",fun _ => none,fun _ i => i,7⟩,
    ⟨.add "wg10" "s2s:10" "V",fun _ => none,fun _ i => i+20,3⟩,
    ⟨.remove "wg1" "s2s:1",fun _ => none,fun _ i => i+1,0⟩]

def foreignRules : Config := ⟨fun _ => [⟨4,"ACCEPT","(LAN) in",.inInterface,"br0"⟩],5,∅,0⟩

theorem markersIsolatedTunnels : Along RuleTurn.step Isolated tunnelRun (untouched foreignRules) := by
  refine markersIsolated foreignRules tunnelRun ⟨⟨?_,?_,?_⟩,⟨?_,?_,?_⟩,⟨?_,?_,?_⟩,trivial⟩
  · exact ⟨by decide,by decide⟩
  · exact fun _ => Function.injective_id
  · decide +kernel
  · exact ⟨by decide,by decide⟩
  · exact fun _ => add_left_injective 20
  · decide +kernel
  · exact ⟨by decide,by decide⟩
  · exact fun _ => add_left_injective 1
  · decide +kernel

end VpnPack.Udapi
