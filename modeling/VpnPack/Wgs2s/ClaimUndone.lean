import VpnPack.Wgs2s.Routes

/-! releaseRoutes against the claimRoutes before it. The Adds of the claim may answer
anything; the release is not refused. -/
namespace VpnPack.Wgs2s
open Base List Net

/- The refs before, with one more owner at the end of the lists of the held keys. -/
def Holding (owner : RouteOwner) (base refs : RouteRefs) (held : String → Prop) : Prop :=
  ∀ text, (held text → refs.get text = base.get text ++ [owner]) ∧ (¬ held text → refs.get text = base.get text)

section
variable {id : String} {idx : Nat} {list : List RouteOwner} (absent : owned id list = false)
include absent

theorem notOwned : ∀ o ∈ list, o.tunnelID ≠ id := by
  simpa [owned] using absent

theorem upsertFresh : upsert id idx list = list ++ [⟨id,idx⟩] := by
  simp [upsert,absent]

theorem upsertHeld : upsert id idx (list ++ [⟨id,idx⟩]) = list ++ [⟨id,idx⟩] := by
  have present : owned id (list ++ [⟨id,idx⟩]) = true := by simp [owned]
  have same : setIndex id idx (list ++ [⟨id,idx⟩]) = list ++ [⟨id,idx⟩] := by
    have others := notOwned absent
    clear absent present
    induction list with
    | nil => simp [setIndex]
    | cons o rest ih =>
      rw [cons_append,setIndex,if_neg (others o mem_cons_self),ih (fun x member => others x (mem_cons_of_mem o member))]
  rw [upsert,if_pos present,same]

theorem withoutFresh : without id list = list :=
  eraseP_of_forall_not (by simpa using notOwned absent)

theorem withoutHeld : without id (list ++ [⟨id,idx⟩]) = list := by
  rw [without,eraseP_append_right _ (by simpa using notOwned absent)]
  simp

end

section
variable {env : Env} {ph : Phase} {site : Site} {id : String} {idx : Nat} {metric : Int} {base refs : RouteRefs}
  {held : String → Prop} {cidr : String} {cidrs : List String} {s t : State} {i : Nat}

theorem holdingNone (ended : Holding ⟨id,idx⟩ base refs held) (nothing : ∀ text, ¬ held text) : refs = base :=
  RouteRefs.extGet (fun text => (ended text).2 (nothing text))

theorem holdingCongr {others : String → Prop} (start : Holding ⟨id,idx⟩ base refs held) (same : ∀ text, held text ↔ others text) :
    Holding ⟨id,idx⟩ base refs others :=
  fun text => ⟨fun here => (start text).1 ((same text).mpr here),fun absent => (start text).2 (fun here => absent ((same text).mp here))⟩

section
variable (absent : base.owns cidr id metric = false) (start : Holding ⟨id,idx⟩ base refs held)
include absent start

theorem holdingAdd : Holding ⟨id,idx⟩ base (refs.add cidr id idx metric).2 (fun text => held text ∨ text = routeKey cidr metric) := by
  intro text
  rw [RouteRefs.addGet]
  by_cases here : text = routeKey cidr metric
  · rw [if_pos here]
    rw [RouteRefs.owns,← here] at absent
    refine ⟨fun _ => ?_,fun outside => absurd (.inr here) outside⟩
    by_cases mine : held text
    · rw [(start text).1 mine,upsertHeld absent]
    · rw [(start text).2 mine,upsertFresh absent]
  · simpa only [here,if_false,or_false] using start text

theorem holdingRemove : Holding ⟨id,idx⟩ base (refs.remove cidr id metric).2 (fun text => held text ∧ text ≠ routeKey cidr metric) := by
  intro text
  rw [RouteRefs.removeGet]
  by_cases here : text = routeKey cidr metric
  · rw [if_pos here]
    rw [RouteRefs.owns,← here] at absent
    refine ⟨fun outside => absurd here outside.2,fun _ => ?_⟩
    by_cases mine : held text
    · rw [(start text).1 mine,withoutHeld absent]
    · rw [(start text).2 mine,withoutFresh absent]
  · simpa only [here,if_false,ne_eq,not_false_eq_true,and_true] using start text

end

def textsOf (metric : Int) (cidrs : List String) : List String := cidrs.map (fun c => routeKey c metric)

theorem unregisterHolding (absent : ∀ c ∈ cidrs, base.owns c id metric = false) (start : Holding ⟨id,idx⟩ base s.refs held) :
    Holding ⟨id,idx⟩ base (unregisterRoutes id metric cidrs s).refs (fun text => held text ∧ text ∉ textsOf metric cidrs) := by
  induction cidrs generalizing s held with
  | nil => simpa [unregisterRoutes,textsOf] using start
  | cons c rest ih =>
    have removed := holdingRemove (absent c mem_cons_self) start
    have later := @ih _ {s with refs := (s.refs.remove c id metric).2} (fun x member => absent x (mem_cons_of_mem c member)) removed
    refine holdingCongr later (fun text => ?_)
    simp only [textsOf,map_cons,mem_cons,not_or,and_assoc]

theorem releaseHolding (willing : ReleaseWilling env ph site) (absent : ∀ c ∈ cidrs, base.owns c id metric = false)
    (start : Holding ⟨id,idx⟩ base s.refs held) :
    Holding ⟨id,idx⟩ base (releaseFrom env ph site id idx metric i cidrs s).refs (fun text => held text ∧ text ∉ textsOf metric cidrs) := by
  rw [releaseRefs willing]
  exact unregisterHolding absent start

theorem settledTwice (owners : List RouteOwner) (via : Option Nat) : settled idx owners (settled idx owners via) = settled idx owners via := by
  cases owners with
  | nil => by_cases own : via = some idx <;> simp [settled,own]
  | cons o rest => rfl

theorem releaseSettles (willing : ReleaseWilling env ph site) (absent : ∀ c ∈ cidrs, base.owns c id metric = false)
    (valid : ∀ c ∈ cidrs, ValidCIDR c) (start : Holding ⟨id,idx⟩ base s.refs held) (p : String × Nat) :
    (releaseFrom env ph site id idx metric i cidrs s).kernel.routes p =
      if p ∈ (keysOf metric cidrs).map kernelKey then settled idx (base.ownersOf (p.1,metric)) (s.kernel.routes p)
      else s.kernel.routes p := by
  induction cidrs generalizing s held i with
  | nil => simp [releaseFrom,keysOf]
  | cons c rest ih =>
    obtain ⟨refs,_,routes⟩ := @releaseOneRun env ph site id idx metric willing i c s
    have removed := holdingRemove (absent c mem_cons_self) start
    have owners : (s.refs.remove c id metric).2.ownersOf (normalizeCIDR c,metric) = base.ownersOf (normalizeCIDR c,metric) :=
      (removed (routeKey c metric)).2 (fun both => both.2 rfl)
    rw [← refs] at removed
    have later := @ih _ (releaseOne env ph site id idx metric i c s) (i+1) (fun x member => absent x (mem_cons_of_mem c member))
      (fun x member => valid x (mem_cons_of_mem c member)) removed
    rw [releaseFrom,later,routes (valid c mem_cons_self) p,owners]
    simp only [keysOf,map_cons,mem_cons]
    by_cases here : p = kernelKey (normalizeCIDR c,metric)
    · have first : p.1 = normalizeCIDR c := by rw [here,kernelKey]
      simp only [here,true_or,if_true]
      split
      · exact settledTwice _ _
      · rfl
    · simp only [here,false_or,if_false]

/- What a claim does to the table: a route of its own where there was none. -/
def Laid (idx : Nat) (keys : List (String × Nat)) (s t : State) : Prop :=
  Grown idx s t ∧ ∀ p, p ∉ keys → t.kernel.routes p = s.kernel.routes p

theorem laidSame {keys : List (String × Nat)} : Laid idx keys s s := ⟨fun _ => .inl rfl,fun _ _ => rfl⟩

theorem routesAddLaid {step : Step} {msg : RouteMessage} {r : Option GoError} (ran : routesAdd env ph step msg s = (r,t)) :
    t.refs = s.refs ∧ Laid msg.outIface [msg.key] s t := by
  unfold routesAdd onKernel at ran
  split at ran
  · cases ran
    exact ⟨rfl,laidSame⟩
  · dsimp only at ran
    split at ran
    · cases ran
      exact ⟨rfl,laidSame⟩
    · rename_i k changed
      cases ran
      split at changed <;> try contradiction
      rename_i free
      cases changed
      refine ⟨rfl,fun p => ?_,fun p outside => if_neg (by simpa using outside)⟩
      by_cases here : p = msg.key
      · exact .inr ⟨by simpa [here] using free,by simp [Kernel.setRoute,here]⟩
      · exact .inl (if_neg here)

theorem laidTrans {u : State} {keys more : List (String × Nat)} (first : Laid idx keys s t) (second : Laid idx more t u) :
    Laid idx (keys ++ more) s u := by
  refine ⟨grownTrans first.1 second.1,fun p outside => ?_⟩
  rw [mem_append,not_or] at outside
  exact (second.2 p outside.2).trans (first.2 p outside.1)

theorem claimHolding {registered : List String} {r : Option GoError}
    (absent : ∀ c ∈ registered ++ cidrs, base.owns c id metric = false) (valid : ∀ c ∈ cidrs, ValidCIDR c)
    (start : Holding ⟨id,idx⟩ base s.refs (· ∈ textsOf metric registered))
    (ran : claimFrom env ph site id idx metric i registered cidrs s = (r,t)) : (r ≠ none → t.refs = base) ∧
    (r = none → Holding ⟨id,idx⟩ base t.refs (· ∈ textsOf metric (registered ++ cidrs)) ∧
      Laid idx ((keysOf metric cidrs).map kernelKey) s t) := by
  induction cidrs generalizing i registered s with
  | nil =>
    cases ran
    refine ⟨fun failed => absurd rfl failed,fun _ => ⟨?_,laidSame⟩⟩
    rwa [append_nil]
  | cons c rest ih =>
    obtain ⟨msg,built,keyed,out⟩ := messageOk (valid c mem_cons_self) idx metric
    have more : registered ++ c :: rest = (registered ++ [c]) ++ rest := by simp
    rw [more] at absent ⊢
    have added : Holding ⟨id,idx⟩ base (s.refs.add c id idx metric).2 (· ∈ textsOf metric (registered ++ [c])) :=
      holdingCongr (holdingAdd (absent c (by simp)) start) (fun text => by simp [textsOf])
    simp only [claimFrom,built] at ran
    rcases asked : routesAdd env ph (.routeAdd site i) msg {s with refs := (s.refs.add c id idx metric).2} with ⟨answer,u⟩
    obtain ⟨refs,laid⟩ := routesAddLaid asked
    have held : Holding ⟨id,idx⟩ base u.refs (· ∈ textsOf metric (registered ++ [c])) := by
      rw [refs]
      exact added
    rw [keyed,out] at laid
    have goOn (ran : claimFrom env ph site id idx metric (i+1) (registered ++ [c]) rest u = (r,t)) := by
      have later := ih absent (fun x member => valid x (mem_cons_of_mem c member)) held ran
      exact And.intro later.1 (fun done => And.intro (later.2 done).1 (laidTrans laid (later.2 done).2))
    rw [asked] at ran
    cases answer with
    | none => exact goOn ran
    | some e =>
      dsimp only at ran
      split at ran
      · cases ran
        have ended := unregisterHolding (fun x member => absent x (mem_append_left _ member)) held
        exact ⟨fun _ => holdingNone ended (fun text both => both.2 both.1),fun done => absurd done (by simp)⟩
      · exact goOn ran

theorem listedKey {key : RouteKey} (member : key ∈ keysOf metric cidrs) : key = ((kernelKey key).1,metric) := by
  obtain ⟨c,_,rfl⟩ := mem_map.mp member
  rfl

/- A listed key that nobody owns and that has a route through the interface already. -/
def Adopted (idx : Nat) (metric : Int) (cidrs : List String) (s : State) (p : String × Nat) : Prop :=
  s.kernel.routes p = some idx ∧ ∃ key ∈ keysOf metric cidrs, p = kernelKey key ∧ s.refs.ownersOf key = []

theorem settledBack {p : String × Nat} (routed : ∀ key o rest, s.refs.ownersOf key = o :: rest → s.kernel.routes (kernelKey key) = some o.ifIndex)
    (laid : Laid idx ((keysOf metric cidrs).map kernelKey) s t) (listed : p ∈ (keysOf metric cidrs).map kernelKey) :
    (Adopted idx metric cidrs s p → settled idx (s.refs.ownersOf (p.1,metric)) (t.kernel.routes p) = none) ∧
    (¬ Adopted idx metric cidrs s p → settled idx (s.refs.ownersOf (p.1,metric)) (t.kernel.routes p) = s.kernel.routes p) := by
  obtain ⟨key,member,rfl⟩ := mem_map.mp listed
  have adopted : Adopted idx metric cidrs s (kernelKey key) ↔ s.kernel.routes (kernelKey key) = some idx ∧ s.refs.ownersOf key = [] := by
    refine ⟨?_,fun both => ⟨both.1,key,member,rfl,both.2⟩⟩
    rintro ⟨via,twin,inside,same,nobody⟩
    refine ⟨via,?_⟩
    rwa [listedKey member,same,← listedKey inside]
  rw [adopted,← listedKey member]
  cases owners : s.refs.ownersOf key with
  | nil => rcases laid.1 (kernelKey key) with same | ⟨absent,added⟩ <;> simp_all [settled]
  | cons o rest => simp [settled,routed key o rest owners]

theorem releaseUndoesClaim {again : Env} {later : Phase} {other : Site} (willing : ReleaseWilling again later other)
    (routed : ∀ key o rest, s.refs.ownersOf key = o :: rest → s.kernel.routes (kernelKey key) = some o.ifIndex)
    (free : ∀ c ∈ cidrs, s.refs.owns c id metric = false) (valid : ∀ c ∈ cidrs, ValidCIDR c) :
    ((claimRoutes env ph site id idx metric cidrs s).1 = none →
      let undone := releaseRoutes again later other id idx metric cidrs (claimRoutes env ph site id idx metric cidrs s).2
      undone.refs = s.refs ∧
      ∀ p, (Adopted idx metric cidrs s p → undone.kernel.routes p = none) ∧
        (¬ Adopted idx metric cidrs s p → undone.kernel.routes p = s.kernel.routes p)) ∧
    ((claimRoutes env ph site id idx metric cidrs s).1 ≠ none → (claimRoutes env ph site id idx metric cidrs s).2.refs = s.refs) := by
  have start : Holding ⟨id,idx⟩ s.refs s.refs (· ∈ textsOf metric []) := fun text => ⟨by simp [textsOf],fun _ => rfl⟩
  rcases ran : claimRoutes env ph site id idx metric cidrs s with ⟨r,t⟩
  obtain ⟨failed,claimed⟩ := claimHolding free valid start ran
  refine ⟨fun done => ?_,failed⟩
  obtain ⟨holding,laid⟩ := claimed done
  refine ⟨holdingNone (releaseHolding willing free holding) (fun text both => both.2 both.1),fun p => ?_⟩
  dsimp only
  rw [releaseRoutes,releaseSettles willing free valid holding]
  by_cases listed : p ∈ (keysOf metric cidrs).map kernelKey
  · rw [if_pos listed]
    exact settledBack routed laid listed
  · rw [if_neg listed,laid.2 p listed]
    refine ⟨fun adopted => ?_,fun _ => rfl⟩
    obtain ⟨_,key,member,rfl,_⟩ := adopted
    exact absurd (mem_map_of_mem member) listed

end

def sharedState : State :=
  {vacant with refs := (RouteRefs.empty.add "10.1.0.0/24" "site" 5 100).2, kernel := Kernel.empty.setRoute ("10.1.0.0/24",100) (some 5)}

def overlapping : List String := ["10.1.0.0/24","10.2.0.0/16","10.2.9.9/16"]

theorem releaseUndoesClaimShared : (releaseRoutes obliging .undo .link "0a1b2c3d" 7 100 overlapping
      (claimRoutes obliging .forward .link "0a1b2c3d" 7 100 overlapping sharedState).2).refs = sharedState.refs := by
  have willing : ReleaseWilling obliging .undo .link := fun _ => ⟨rfl,rfl⟩
  have routed : ∀ key o rest, sharedState.refs.ownersOf key = o :: rest → sharedState.kernel.routes (kernelKey key) = some o.ifIndex := by
    intro key o rest owners
    have single : upsert "site" 5 (RouteRefs.empty.ownersOf key) = [⟨"site",5⟩] := rfl
    rw [sharedState,ownersAdd,single] at owners
    split at owners
    · rename_i here
      cases owners
      rw [here]
      decide +kernel
    · simp [RouteRefs.ownersOf,RouteRefs.get,RouteRefs.empty] at owners
  have free : ∀ c ∈ overlapping, sharedState.refs.owns c "0a1b2c3d" 100 = false := by decide +kernel
  have valid : ∀ c ∈ overlapping, ValidCIDR c := by
    unfold ValidCIDR
    decide +kernel
  have returned : (claimRoutes obliging .forward .link "0a1b2c3d" 7 100 overlapping sharedState).1 = none := by decide +kernel
  exact ((releaseUndoesClaim willing routed free valid).1 returned).1

def strayState : State := {vacant with kernel := Kernel.empty.setRoute ("10.1.0.0/24",100) (some 7)}

theorem adoptedRouteGone : (∀ key, strayState.refs.ownersOf key = []) ∧ ValidCIDR "10.1.0.0/24" ∧ ReleaseWilling obliging .undo .link ∧
    strayState.kernel.routes ("10.1.0.0/24",100) = some 7 ∧
    (claimRoutes obliging .forward .link "0a1b2c3d" 7 100 ["10.1.0.0/24"] strayState).1 = none ∧
    (releaseRoutes obliging .undo .link "0a1b2c3d" 7 100 ["10.1.0.0/24"]
      (claimRoutes obliging .forward .link "0a1b2c3d" 7 100 ["10.1.0.0/24"] strayState).2).kernel.routes ("10.1.0.0/24",100) = none := by
  refine ⟨fun _ => rfl,?_,fun _ => ⟨rfl,rfl⟩,by decide +kernel,by decide +kernel,by decide +kernel⟩
  unfold ValidCIDR
  decide +kernel

end VpnPack.Wgs2s
