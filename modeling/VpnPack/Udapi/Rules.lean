import Mathlib.Data.List.AList
import VpnPack.Base.Proc
import VpnPack.Net.Prefix

/-! The UDAPI configuration and the filter rules package udapi keeps in it. A request is
answered by its number; one that fails has changed nothing. Rules are recognised by
the marker in their description and by nothing else. -/
namespace VpnPack.Udapi
open Base List Net

inductive Chain where
  | forwardIn
  | input
  | output
  deriving DecidableEq, Repr

def Chain.name : Chain → String
  | .forwardIn => "FORWARD_IN"
  | .input => "INPUT"
  | .output => "OUTPUT"

def Chain.all : List Chain := [.forwardIn,.input,.output]

inductive Direction where
  | inInterface
  | outInterface
  deriving DecidableEq, Repr

structure Rule where
  id : Nat
  target : String
  description : String
  direction : Direction
  iface : String
  deriving DecidableEq, Repr

structure Config where
  rules : Chain → List Rule
  nextID : Nat
  sets : AList (fun _ : String => List String)
  calls : Nat

abbrev Link := Nat → Option GoError

def request (link : Link) (effect : Config → Config) : Proc Config := fun u =>
  match link u.calls with
  | some e => (some e,{u with calls := u.calls+1})
  | none => (none,effect {u with calls := u.calls+1})

structure FirewallRule where
  chain : Chain
  target : String
  iface : String
  direction : Direction
  marker : String
  desc : String
  deriving DecidableEq, Repr

def markerFromDescription (desc : String) : String :=
  match cutLast '(' desc.toList with
  | none => ""
  | some (_,group) =>
    match cutFirst ')' group with
    | none => ""
    | some (marker,_) => String.ofList marker

def Rule.marker (r : Rule) : String := markerFromDescription r.description

def HasMarkerRule (link : Link) (chain : Chain) (marker : String) (u : Config) : Except GoError Bool × Config :=
  match request link id u with
  | (some e,v) => (.error e,v)
  | (none,v) => (.ok ((v.rules chain).any (fun r => r.marker == marker)),v)

def withRules (chain : Chain) (rules : List Rule) (u : Config) : Config :=
  {u with rules := fun c => if c = chain then rules else u.rules c}

def FirewallRule.rule (r : FirewallRule) (id : Nat) : Rule := ⟨id,r.target,r.desc,r.direction,r.iface⟩

def postRule (r : FirewallRule) (u : Config) : Config :=
  {withRules r.chain (u.rules r.chain ++ [r.rule u.nextID]) u with nextID := u.nextID+1}

def AddRule (link : Link) (r : FirewallRule) : Proc Config := fun u =>
  match HasMarkerRule link r.chain r.marker u with
  | (.error e,v) => (some (.wrap ("check " ++ r.chain.name) e),v)
  | (.ok true,v) => (none,v)
  | (.ok false,v) => wrapping ("add " ++ r.chain.name ++ " rule") (request link (postRule r)) v

def Chain.target (chainPrefix : String) : Chain → String
  | .forwardIn => chainPrefix ++ "_IN"
  | .input => chainPrefix ++ "_LOCAL"
  | .output => "LOCAL_" ++ chainPrefix

def Chain.direction : Chain → Direction
  | .forwardIn => .inInterface
  | .input => .inInterface
  | .output => .outInterface

def zoneRule (iface marker chainPrefix : String) (chain : Chain) : FirewallRule :=
  ⟨chain,chain.target chainPrefix,iface,chain.direction,marker,
    iface ++ " " ++ chain.target chainPrefix ++ " (" ++ marker ++ ")"⟩

def zoneRules (iface marker chainPrefix : String) : List FirewallRule := Chain.all.map (zoneRule iface marker chainPrefix)

def AddInterfaceRulesForZone (link : Link) (iface marker chainPrefix : String) : Proc Config :=
  attemptAll (AddRule link) (zoneRules iface marker chainPrefix)

def deleteRule (chain : Chain) (id : Nat) (u : Config) : Config :=
  withRules chain ((u.rules chain).filter (fun r => r.id != id)) u

-- The rules are listed once, before the first of them is deleted.
def removeMarkerRules (link : Link) (marker : String) (chain : Chain) : Proc Config := fun u =>
  match request link id u with
  | (some e,v) => (some (.wrap ("list " ++ chain.name ++ " rules") e),v)
  | (none,v) =>
    forEach (fun r : Rule => wrapping ("delete " ++ chain.name ++ " rule " ++ Nat.repr r.id) (request link (deleteRule chain r.id)))
      ((v.rules chain).filter (fun r => r.marker == marker)) v

def RemoveInterfaceRules (link : Link) (marker : String) : Proc Config :=
  attemptAll (removeMarkerRules link marker) Chain.all

def Plain (s : String) : Prop := '(' ∉ s.toList ∧ ')' ∉ s.toList

theorem markerOfDesc {marker : String} (front : String) (plain : Plain marker) :
    markerFromDescription (front ++ " (" ++ marker ++ ")") = marker := by
  have text : (front ++ " (" ++ marker ++ ")").toList = (front.toList ++ [' ']) ++ '(' :: (marker.toList ++ [')']) := by simp
  have closed : '(' ∉ marker.toList ++ [')'] := by simp [plain.1]
  simp only [markerFromDescription,text,cutLastAppend _ closed,cutFirstAppend [] plain.2,String.ofList_toList]

theorem markerPlain (desc : String) : Plain (markerFromDescription desc) := by
  unfold markerFromDescription
  split
  · exact ⟨by simp,by simp⟩
  · rename_i before group last
    split
    · exact ⟨by simp,by simp⟩
    · rename_i marker after first
      obtain ⟨rfl,closed⟩ := cutFirstShape.mp first
      rw [Plain,String.toList_ofList]
      exact ⟨fun opened => (cutLastShape.mp last).2 (mem_append_left _ opened),closed⟩

theorem zoneRuleMarker {iface marker chainPrefix : String} {chain : Chain} (plain : Plain marker) (id : Nat) :
    ((zoneRule iface marker chainPrefix chain).rule id).marker = marker := markerOfDesc _ plain

section
variable {link : Link} {u v : Config} {effect : Config → Config} {chain : Chain} {marker : String} {r : FirewallRule}

def Answering (link : Link) : Prop := ∀ n, link n = none

theorem requestDone (ran : request link effect u = (none,v)) : v = effect {u with calls := u.calls+1} := by
  unfold request at ran
  split at ran
  · simp at ran
  · exact (congrArg Prod.snd ran).symm

theorem requestAnswered (answering : Answering link) (effect : Config → Config) (u : Config) :
    request link effect u = (none,effect {u with calls := u.calls+1}) := by
  simp only [request,answering u.calls]

structure Only (chain : Chain) (u v : Config) : Prop where
  rules : ∀ c, c ≠ chain → v.rules c = u.rules c
  sets : v.sets = u.sets

theorem onlyTrans {w : Config} (first : Only chain u v) (second : Only chain v w) : Only chain u w :=
  ⟨fun c other => (second.rules c other).trans (first.rules c other),second.sets.trans first.sets⟩

theorem withRulesHere (chain : Chain) (rules : List Rule) (u : Config) : (withRules chain rules u).rules chain = rules :=
  if_pos rfl

def Marked (marker : String) (rules : List Rule) : List Rule := rules.filter (fun r => r.marker == marker)

theorem markedNil {rules : List Rule} : Marked marker rules = [] ↔ rules.any (fun r => r.marker == marker) = false := by
  simp [Marked]

theorem addRuleSource (ran : AddRule link r u = (none,v)) : Only r.chain u v ∧
      (Marked r.marker (u.rules r.chain) ≠ [] ∧ v.rules r.chain = u.rules r.chain ∨
        Marked r.marker (u.rules r.chain) = [] ∧
          v.rules r.chain = u.rules r.chain ++ [r.rule u.nextID]) := by
  simp only [AddRule,HasMarkerRule] at ran
  rcases asked : request link id u with ⟨err,w⟩
  rw [asked] at ran
  cases err with
  | some e => simp at ran
  | none =>
    have listed : w = {u with calls := u.calls+1} := requestDone asked
    subst listed
    dsimp only at ran
    split at ran
    · simp at ran
    · rename_i found
      cases ran
      simp only [Prod.mk.injEq,Except.ok.injEq] at found
      obtain ⟨found,rfl⟩ := found
      refine ⟨⟨fun _ _ => rfl,rfl⟩,.inl ⟨?_,rfl⟩⟩
      rw [ne_eq,markedNil,found]
      simp
    · rename_i found
      simp only [Prod.mk.injEq,Except.ok.injEq] at found
      obtain ⟨found,rfl⟩ := found
      have posted := requestDone (wrappingOk.mp ran)
      subst posted
      exact ⟨⟨fun _ other => if_neg other,rfl⟩,.inr ⟨markedNil.mpr found,if_pos rfl⟩⟩

inductive Installed (iface marker chainPrefix : String) (chain : Chain) (before : List Rule) : List Rule → Prop where
  | kept (present : Marked marker before ≠ []) : Installed iface marker chainPrefix chain before before
  | added (id : Nat) (absent : Marked marker before = []) :
    Installed iface marker chainPrefix chain before
      (before ++ [(zoneRule iface marker chainPrefix chain).rule id])

variable {iface chainPrefix : String} {α : Type} {body : α → Proc Config}

theorem addRuleInstalled (ran : AddRule link (zoneRule iface marker chainPrefix chain) u = (none,v)) :
    Only chain u v ∧ Installed iface marker chainPrefix chain (u.rules chain) (v.rules chain) := by
  obtain ⟨only,⟨present,same⟩ | ⟨absent,grown⟩⟩ := addRuleSource ran
  · refine ⟨only,?_⟩
    rw [show v.rules chain = u.rules chain from same]
    exact .kept present
  · refine ⟨only,?_⟩
    rw [show v.rules chain = _ from grown]
    exact .added u.nextID absent

theorem eachChain {body : Chain → Proc Config} {rel : Chain → List Rule → List Rule → Prop}
    (each : ∀ chain u v, body chain u = (none,v) → Only chain u v ∧ rel chain (u.rules chain) (v.rules chain))
    (ran : attemptAll body Chain.all u = (none,v)) : v.sets = u.sets ∧ ∀ chain, rel chain (u.rules chain) (v.rules chain) := by
  have loop := attemptAllOk.mp ran
  obtain ⟨a,first,loop⟩ := seqSource loop
  obtain ⟨b,second,loop⟩ := seqSource loop
  obtain ⟨c,third,loop⟩ := seqSource loop
  cases loop
  obtain ⟨onlyA,forwardIn⟩ := each _ _ _ first
  obtain ⟨onlyB,input⟩ := each _ _ _ second
  obtain ⟨onlyC,output⟩ := each _ _ _ third
  refine ⟨onlyC.sets.trans (onlyB.sets.trans onlyA.sets),fun chain => ?_⟩
  cases chain with
  | forwardIn =>
    rw [onlyC.rules _ (by decide),onlyB.rules _ (by decide)]
    exact forwardIn
  | input =>
    rw [onlyC.rules _ (by decide),← onlyA.rules _ (by decide)]
    exact input
  | output =>
    rw [← onlyA.rules _ (by decide),← onlyB.rules _ (by decide)]
    exact output

theorem addInterfaceSource (ran : AddInterfaceRulesForZone link iface marker chainPrefix u = (none,v)) :
    v.sets = u.sets ∧ ∀ chain, Installed iface marker chainPrefix chain (u.rules chain) (v.rules chain) :=
  @eachChain u v (fun chain => AddRule link (zoneRule iface marker chainPrefix chain)) _ (fun _ _ _ => addRuleInstalled) ran

theorem forEachAnswered (each : ∀ x u, (body x u).1 = none) (xs : List α) (u : Config) :
    (forEach body xs u).1 = none := by
  induction xs generalizing u with
  | nil => rfl
  | cons x xs ih =>
    rw [forEach,seqOk (Prod.ext (each x u) rfl)]
    exact ih _

theorem attemptAllAnswered (each : ∀ x u, (body x u).1 = none) (xs : List α) (u : Config) :
    (attemptAll body xs u).1 = none :=
  congrArg Prod.fst (attemptAllOk.mpr (Prod.ext (forEachAnswered each xs u) rfl))

theorem deleteEachSource {rs : List Rule} {names : Rule → String}
    (ran : forEach (fun r : Rule => wrapping (names r) (request link (deleteRule chain r.id))) rs u = (none,v)) :
    Only chain u v ∧ v.rules chain = (u.rules chain).filter (fun r => decide (r.id ∉ rs.map Rule.id)) := by
  induction rs generalizing u with
  | nil =>
    cases ran
    exact ⟨⟨fun _ _ => rfl,rfl⟩,by simp⟩
  | cons r rest ih =>
    obtain ⟨w,first,later⟩ := seqSource ran
    have deleted := requestDone (wrappingOk.mp first)
    subst deleted
    obtain ⟨only,final⟩ := ih later
    have step : Only chain u (deleteRule chain r.id {u with calls := u.calls+1}) := ⟨fun _ other => if_neg other,rfl⟩
    refine ⟨onlyTrans step only,?_⟩
    rw [final,deleteRule,withRulesHere,filter_filter]
    congr 1
    funext x
    rw [Bool.eq_iff_iff]
    simp [and_comm]

theorem removeMarkerSource (ran : removeMarkerRules link marker chain u = (none,v)) : Only chain u v ∧ v.rules chain =
      (u.rules chain).filter (fun r => decide (r.id ∉ (Marked marker (u.rules chain)).map Rule.id)) := by
  simp only [removeMarkerRules] at ran
  rcases asked : request link id u with ⟨err,w⟩
  rw [asked] at ran
  cases err with
  | some e => simp at ran
  | none =>
    have listed := requestDone asked
    subst listed
    obtain ⟨only,final⟩ := deleteEachSource ran
    exact ⟨⟨only.rules,only.sets⟩,final⟩

def unmarked (marker : String) (rules : List Rule) : List Rule :=
  rules.filter (fun r => decide (r.id ∉ (Marked marker rules).map Rule.id))

theorem removeInterfaceSource (ran : RemoveInterfaceRules link marker u = (none,v)) :
    v.sets = u.sets ∧ ∀ chain, v.rules chain = unmarked marker (u.rules chain) :=
  @eachChain u v (removeMarkerRules link marker) (fun _ before after => after = unmarked marker before)
    (fun _ _ _ => removeMarkerSource) ran

theorem unmarkedNone (marker : String) (rules : List Rule) : Marked marker (unmarked marker rules) = [] := by
  rw [Marked,unmarked,filter_filter,filter_eq_nil_iff]
  intro r member both
  have marked : r ∈ Marked marker rules := mem_filter.mpr ⟨member,(Bool.and_eq_true_iff.mp both).1⟩
  exact of_decide_eq_true (Bool.and_eq_true_iff.mp both).2 (mem_map_of_mem marked)

theorem removeInterfaceAnswered (answering : Answering link) (marker : String) (u : Config) :
    (RemoveInterfaceRules link marker u).1 = none := by
  refine attemptAllAnswered (fun chain u => ?_) _ u
  simp only [removeMarkerRules,requestAnswered answering]
  exact forEachAnswered (fun r u => by simp [wrapping,requestAnswered answering]) _ _

end
end VpnPack.Udapi
