import VpnPack.Wgs2s.Frame

/-! The claim and release loops when the kernel refuses nothing of its own accord: what they
do to the owners of every key, and that the routing table keeps following the owners. -/
namespace VpnPack.Wgs2s
open Base List Net Ops

def Step.offKernel : Step → Bool
  | .portProbe4 | .portProbe6 | .random | .keyGenerate | .keyWrite | .pubWrite | .keyRemove | .keyPreflight | .keyRead => true
  | _ => false

def KernelWilling (env : Env) : Prop := ∀ ph step, step.offKernel = false → env.answer ph step = none

abbrev RouteKey := String × Int

def keysOf (metric : Int) (cidrs : List String) : List RouteKey := cidrs.map (fun c => (normalizeCIDR c,metric))
def RouteRefs.ownersOf (rc : RouteRefs) (key : RouteKey) : List RouteOwner := rc.get (keyText key.1 key.2)
def kernelKey (key : RouteKey) : String × Nat := (key.1,uint32 key.2)

def Fits (metric : Int) : Prop := 0 ≤ metric ∧ metric < 2^32
instance (metric : Int) : Decidable (Fits metric) := by unfold Fits; infer_instance

variable {key : RouteKey} {cidr id : String} {metric : Int} {o : RouteOwner}

theorem kernelKeyInj {other : RouteKey} (left : Fits key.2) (right : Fits other.2)
    (same : kernelKey key = kernelKey other) : key = other := by
  obtain ⟨a,m⟩ := key
  obtain ⟨b,n⟩ := other
  simp only [kernelKey,uint32,Prod.mk.injEq,Fits] at *
  refine ⟨same.1,?_⟩
  have := same.2
  rw [Int.emod_eq_of_lt left.1 left.2,Int.emod_eq_of_lt right.1 right.2] at this
  omega

def ValidCIDR (cidr : String) : Prop := (parseCIDR cidr.toList).isSome = true

theorem messageOk (valid : ValidCIDR cidr) (i : Nat) (metric : Int) :
    ∃ msg, buildRouteMessage cidr i metric = .ok msg ∧ msg.key = kernelKey (normalizeCIDR cidr,metric) ∧ msg.outIface = i := by
  obtain ⟨⟨ip,ipNet⟩,parsed⟩ := Option.isSome_iff_exists.mp valid
  exact ⟨⟨ipNet,i,uint32 metric⟩,by simp [buildRouteMessage,parsed],by simp [RouteMessage.key,kernelKey,normalizeCIDR,parsed],rfl⟩

theorem messageRefused (invalid : ¬ ValidCIDR cidr) (i : Nat) (metric : Int) : ∃ e, buildRouteMessage cidr i metric = .error e := by
  have parsed : parseCIDR cidr.toList = none := by simpa [ValidCIDR] using invalid
  exact ⟨_,by rw [buildRouteMessage,parsed]⟩

theorem RouteRefs.ownersDistinct (rc : RouteRefs) (key : RouteKey) : Distinct (rc.ownersOf key) := rc.getDistinct _

theorem filedUnder : keyText key.1 key.2 = routeKey cidr metric ↔ key = (normalizeCIDR cidr,metric) := by
  constructor
  · exact fun same => Prod.ext_iff.mpr (keyTextInj same)
  · rintro rfl
    rfl

theorem ownersAdd (rc : RouteRefs) (cidr id : String) (i : Nat) (metric : Int) (key : RouteKey) : (rc.add cidr id i metric).2.ownersOf key =
      if key = (normalizeCIDR cidr,metric) then upsert id i (rc.ownersOf key) else rc.ownersOf key := by
  simp only [RouteRefs.ownersOf,RouteRefs.addGet,filedUnder]

theorem ownersRemove (rc : RouteRefs) (cidr id : String) (metric : Int) (key : RouteKey) : (rc.remove cidr id metric).2.ownersOf key =
      if key = (normalizeCIDR cidr,metric) then without id (rc.ownersOf key) else rc.ownersOf key := by
  simp only [RouteRefs.ownersOf,RouteRefs.removeGet,filedUnder]

theorem memAdd {rc : RouteRefs} {i : Nat} : o ∈ (rc.add cidr id i metric).2.ownersOf key ↔
      (key = (normalizeCIDR cidr,metric) ∧ o = ⟨id,i⟩) ∨
      (o ∈ rc.ownersOf key ∧ ¬ (key = (normalizeCIDR cidr,metric) ∧ o.tunnelID = id)) := by
  rw [ownersAdd]
  split
  · rename_i same
    rw [memUpsert (rc.ownersDistinct key)]
    simp [same]
  · rename_i differs
    simp [differs]

theorem memRemove {rc : RouteRefs} : o ∈ (rc.remove cidr id metric).2.ownersOf key ↔
      o ∈ rc.ownersOf key ∧ ¬ (o.tunnelID = id ∧ key = (normalizeCIDR cidr,metric)) := by
  rw [ownersRemove]
  split
  · rename_i same
    rw [memWithout (rc.ownersDistinct key)]
    simp [same]
  · rename_i differs
    simp [differs]

/- The table follows the owners: an owned key has a route, and a route goes through
an owner's interface or is left over from a link that is still to be removed. -/
structure Matched (left : RouteKey → Nat → Prop) (rc : RouteRefs) (routes : String × Nat → Option Nat) : Prop where
  covered : ∀ key, Fits key.2 → rc.ownersOf key ≠ [] → routes (kernelKey key) ≠ none
  sound : ∀ key i, Fits key.2 → routes (kernelKey key) = some i → (∃ o ∈ rc.ownersOf key, o.ifIndex = i) ∨ left key i

theorem unregisterOwners {cidrs : List String} {s : State} : o ∈ (unregisterRoutes id metric cidrs s).refs.ownersOf key ↔
      o ∈ s.refs.ownersOf key ∧ ¬ (o.tunnelID = id ∧ key ∈ keysOf metric cidrs) := by
  induction cidrs generalizing s with
  | nil => simp [unregisterRoutes,keysOf]
  | cons cidr rest ih =>
    simp only [unregisterRoutes,foldl_cons] at ih ⊢
    rw [ih,memRemove]
    simp only [keysOf,map_cons,mem_cons]
    tauto

section
variable {env : Env} {ph : Phase} {site : Site} {id : String} {idx : Nat} {metric : Int} {left : RouteKey → Nat → Prop}

def settled (idx : Nat) (owners : List RouteOwner) (via : Option Nat) : Option Nat :=
  match owners with
  | [] => if via = some idx then none else via
  | o :: _ => some o.ifIndex

def ReleaseWilling (env : Env) (ph : Phase) (site : Site) : Prop :=
  ∀ i, env.answer ph (.routeDelete site i) = none ∧ env.answer ph (.routeReplace site i) = none

theorem KernelWilling.release (willing : KernelWilling env) : ReleaseWilling env ph site :=
  fun _ => ⟨willing _ _ rfl,willing _ _ rfl⟩

theorem releaseOneRun (willing : ReleaseWilling env ph site) (i : Nat) (cidr : String) (s : State) :
    (releaseOne env ph site id idx metric i cidr s).refs = (s.refs.remove cidr id metric).2 ∧
    (¬ ValidCIDR cidr → (releaseOne env ph site id idx metric i cidr s).kernel = s.kernel) ∧
    (ValidCIDR cidr → ∀ p, (releaseOne env ph site id idx metric i cidr s).kernel.routes p =
      if p = kernelKey (normalizeCIDR cidr,metric) then
        settled idx ((s.refs.remove cidr id metric).2.ownersOf (normalizeCIDR cidr,metric)) (s.kernel.routes p)
      else s.kernel.routes p) := by
  have remaining : (s.refs.remove cidr id metric).1 =
      (s.refs.remove cidr id metric).2.ownersOf (normalizeCIDR cidr,metric) := s.refs.removeRemaining cidr id metric
  obtain ⟨deletes,replaces⟩ := willing i
  simp only [releaseOne,remaining,settled]
  cases owners : (s.refs.remove cidr id metric).2.ownersOf (normalizeCIDR cidr,metric) with
  | nil =>
    dsimp only
    by_cases valid : ValidCIDR cidr
    · obtain ⟨msg,built,keyed,out⟩ := messageOk valid idx metric
      rw [built]
      refine ⟨?_,fun invalid => absurd valid invalid,fun _ p => ?_⟩
      · simp only [routesDelete,onKernel,deletes]
        split <;> rfl
      · simp only [routesDelete,onKernel,deletes,keyed,out]
        by_cases via : s.kernel.routes (kernelKey (normalizeCIDR cidr,metric)) = some idx
        · simp only [via,if_true,Kernel.setRoute]
          split <;> simp_all
        · simp only [via,if_false]
          split <;> simp_all
    · obtain ⟨e,built⟩ := messageRefused valid idx metric
      rw [built]
      exact ⟨rfl,fun _ => rfl,fun ok => absurd ok valid⟩
  | cons o others =>
    dsimp only
    by_cases valid : ValidCIDR cidr
    · obtain ⟨msg,built,keyed,out⟩ := messageOk valid o.ifIndex metric
      rw [built]
      refine ⟨?_,fun invalid => absurd valid invalid,fun _ p => ?_⟩
      · simp only [routesReplace,onKernel,replaces]
      · simp only [routesReplace,onKernel,replaces,keyed,out,Kernel.setRoute]
    · obtain ⟨e,built⟩ := messageRefused valid o.ifIndex metric
      rw [built]
      exact ⟨rfl,fun _ => rfl,fun ok => absurd ok valid⟩

theorem unregisterRefs (cidrs : List String) (s : State) :
    (unregisterRoutes id metric cidrs s).refs = cidrs.foldl (fun rc c => (rc.remove c id metric).2) s.refs := by
  induction cidrs generalizing s with
  | nil => rfl
  | cons c rest ih => exact ih _

theorem releaseRefs (willing : ReleaseWilling env ph site) (i : Nat) (cidrs : List String) (s : State) :
    (releaseFrom env ph site id idx metric i cidrs s).refs = (unregisterRoutes id metric cidrs s).refs := by
  rw [unregisterRefs]
  induction cidrs generalizing i s with
  | nil => rfl
  | cons c rest ih => rw [releaseFrom,ih,(releaseOneRun willing i c s).1,foldl_cons]

theorem releaseOneOwners (willing : KernelWilling env) {i : Nat} {cidr : String} {s : State} {key : RouteKey} {o : RouteOwner} :
    o ∈ (releaseOne env ph site id idx metric i cidr s).refs.ownersOf key ↔
      o ∈ s.refs.ownersOf key ∧ ¬ (o.tunnelID = id ∧ key = (normalizeCIDR cidr,metric)) := by
  rw [(releaseOneRun willing.release i cidr s).1,memRemove]

variable {s : State} {i : Nat} {cidr : String} {cidrs : List String} {key : RouteKey}

section
variable (willing : KernelWilling env)
include willing

theorem releaseOneMatched (fits : Fits metric) (own : ∀ key, ∀ o ∈ s.refs.ownersOf key, o.tunnelID = id → o.ifIndex = idx)
    (ok : ValidCIDR cidr ∨ ∀ key, ∀ o ∈ s.refs.ownersOf key, o.tunnelID ≠ id) (before : Matched left s.refs s.kernel.routes) :
    Matched left (releaseOne env ph site id idx metric i cidr s).refs (releaseOne env ph site id idx metric i cidr s).kernel.routes := by
  obtain ⟨refs,refusedKernel,routes⟩ := @releaseOneRun env ph site id idx metric willing.release i cidr s
  unfold settled at routes
  have owners {key : RouteKey} {o : RouteOwner} := @releaseOneOwners env ph site id idx metric willing i cidr s key o
  by_cases valid : ValidCIDR cidr
  · constructor
    · intro key inRange owned
      rw [routes valid]
      split
      · rename_i same
        have here : key = (normalizeCIDR cidr,metric) := kernelKeyInj inRange fits same
        rw [refs,here] at owned
        split
        · rename_i emptied
          exact absurd emptied owned
        · simp
      · obtain ⟨o,member⟩ := exists_mem_of_ne_nil _ owned
        exact before.covered key inRange (ne_nil_of_mem (owners.mp member).1)
    · intro key j inRange via
      rw [routes valid] at via
      split at via
      · rename_i same
        have here : key = (normalizeCIDR cidr,metric) := kernelKeyInj inRange fits same
        split at via
        · rename_i emptied
          split at via <;> try contradiction
          rename_i otherLink
          rcases before.sound key j inRange via with ⟨o,member,rfl⟩ | pending
          · exfalso
            by_cases mine : o.tunnelID = id
            · exact otherLink (own key o member mine ▸ via)
            · have kept := owners.mpr ⟨member,fun clash => mine clash.1⟩
              rw [refs,here,emptied] at kept
              exact absurd kept not_mem_nil
          · exact .inr pending
        · rename_i o others shape
          refine .inl ⟨o,?_,Option.some.inj via⟩
          rw [refs,here,shape]
          exact mem_cons_self
      · rename_i elsewhere
        rcases before.sound key j inRange via with ⟨o,member,rfl⟩ | pending
        · exact .inl ⟨o,owners.mpr ⟨member,fun clash => elsewhere (clash.2 ▸ rfl)⟩,rfl⟩
        · exact .inr pending
  · have unowned := ok.resolve_left valid
    rw [refusedKernel valid]
    constructor
    · intro key inRange owned
      obtain ⟨o,member⟩ := exists_mem_of_ne_nil _ owned
      exact before.covered key inRange (ne_nil_of_mem (owners.mp member).1)
    · intro key j inRange via
      rcases before.sound key j inRange via with ⟨o,member,rfl⟩ | pending
      · exact .inl ⟨o,owners.mpr ⟨member,fun clash => unowned key o member clash.1⟩,rfl⟩
      · exact .inr pending

theorem releaseOneClears (others : ∀ key, ∀ o ∈ s.refs.ownersOf key, o.tunnelID ≠ id → o.ifIndex ≠ idx)
    (clear : s.kernel.routes (kernelKey key) ≠ some idx ∨ (ValidCIDR cidr ∧ key = (normalizeCIDR cidr,metric))) :
    (releaseOne env ph site id idx metric i cidr s).kernel.routes (kernelKey key) ≠ some idx := by
  obtain ⟨refs,refusedKernel,routes⟩ := @releaseOneRun env ph site id idx metric willing.release i cidr s
  unfold settled at routes
  by_cases valid : ValidCIDR cidr
  · rw [routes valid]
    split
    · split
      · split
        · simp
        · assumption
      · rename_i o rest shape
        have member : o ∈ (s.refs.remove cidr id metric).2.ownersOf (normalizeCIDR cidr,metric) := by
          rw [shape]
          exact mem_cons_self
        rw [memRemove] at member
        have foreign : o.tunnelID ≠ id := fun mine => member.2 ⟨mine,rfl⟩
        intro via
        exact others _ o member.1 foreign (Option.some.inj via)
    · rename_i elsewhere
      rcases clear with kept | ⟨_,here⟩
      · exact kept
      · exact absurd (congrArg kernelKey here) elsewhere
  · rw [refusedKernel valid]
    exact clear.resolve_right (fun here => valid here.1)

theorem releaseOwners {i : Nat} {cidrs : List String} {s : State} {key : RouteKey} {o : RouteOwner} :
    o ∈ (releaseFrom env ph site id idx metric i cidrs s).refs.ownersOf key ↔
      o ∈ s.refs.ownersOf key ∧ ¬ (o.tunnelID = id ∧ key ∈ keysOf metric cidrs) := by
  rw [releaseRefs willing.release]
  exact unregisterOwners

theorem releaseMatched (fits : Fits metric) (own : ∀ key, ∀ o ∈ s.refs.ownersOf key, o.tunnelID = id → o.ifIndex = idx)
    (ok : (∀ cidr ∈ cidrs, ValidCIDR cidr) ∨ ∀ key, ∀ o ∈ s.refs.ownersOf key, o.tunnelID ≠ id)
    (before : Matched left s.refs s.kernel.routes) : Matched left (releaseFrom env ph site id idx metric i cidrs s).refs
      (releaseFrom env ph site id idx metric i cidrs s).kernel.routes := by
  induction cidrs generalizing i s with
  | nil => exact before
  | cons cidr rest ih =>
    refine ih ?_ ?_ (releaseOneMatched willing fits own ?_ before)
    · intro key o member
      exact own key o ((releaseOneOwners willing).mp member).1
    · rcases ok with valid | unowned
      · exact .inl (fun c member => valid c (mem_cons_of_mem cidr member))
      · exact .inr (fun key o member => unowned key o ((releaseOneOwners willing).mp member).1)
    · exact ok.imp_left (fun valid => valid cidr mem_cons_self)

theorem releaseClears (others : ∀ key, ∀ o ∈ s.refs.ownersOf key, o.tunnelID ≠ id → o.ifIndex ≠ idx)
    (valid : ∀ cidr ∈ cidrs, ValidCIDR cidr) (clear : s.kernel.routes (kernelKey key) ≠ some idx ∨ key ∈ keysOf metric cidrs) :
    (releaseFrom env ph site id idx metric i cidrs s).kernel.routes (kernelKey key) ≠ some idx := by
  induction cidrs generalizing i s with
  | nil => simpa [keysOf,releaseFrom] using clear
  | cons cidr rest ih =>
    refine ih ?_ (fun c member => valid c (mem_cons_of_mem cidr member)) ?_
    · intro key o member
      exact others key o ((releaseOneOwners willing).mp member).1
    · simp only [keysOf,map_cons,mem_cons] at clear
      rcases clear with kept | head | tail
      · exact .inl (releaseOneClears willing others (.inl kept))
      · exact .inl (releaseOneClears willing others (.inr ⟨valid cidr mem_cons_self,head⟩))
      · exact .inr tail

end

def claimOne (id : String) (idx : Nat) (metric : Int) (s : State) (cidr : String) : State :=
  let key := kernelKey (normalizeCIDR cidr,metric)
  {s with
    refs := (s.refs.add cidr id idx metric).2
    kernel := if (s.kernel.routes key).isSome then s.kernel else s.kernel.setRoute key (some idx)}

theorem claimFromValid (willing : KernelWilling env) {registered rest : List String} (valid : ValidCIDR cidr) (s : State) :
    claimFrom env ph site id idx metric i registered (cidr :: rest) s =
      claimFrom env ph site id idx metric (i+1) (registered ++ [cidr]) rest (claimOne id idx metric s cidr) := by
  obtain ⟨msg,built,keyed,out⟩ := messageOk valid idx metric
  have adds : env.answer ph (.routeAdd site i) = none := willing _ _ rfl
  simp only [claimFrom,built,routesAdd,onKernel,adds,keyed,out,claimOne]
  cases present : s.kernel.routes (kernelKey (normalizeCIDR cidr,metric)) with
  | none => simp
  | some j => simp [GoError.wrapsSelf]

theorem claimFromInvalid {i : Nat} {registered rest : List String} {cidr : String} (invalid : ¬ ValidCIDR cidr) (s : State) :
    ∃ e, claimFrom env ph site id idx metric i registered (cidr :: rest) s =
      (some e,unregisterRoutes id metric (registered ++ [cidr]) {s with refs := (s.refs.add cidr id idx metric).2}) := by
  obtain ⟨e,built⟩ := messageRefused invalid idx metric
  exact ⟨e,by simp only [claimFrom,built]⟩

theorem claimOneOwners {o : RouteOwner} : o ∈ (claimOne id idx metric s cidr).refs.ownersOf key ↔
      (key = (normalizeCIDR cidr,metric) ∧ o = ⟨id,idx⟩) ∨
      (o ∈ s.refs.ownersOf key ∧ ¬ (key = (normalizeCIDR cidr,metric) ∧ o.tunnelID = id)) := memAdd

theorem claimOneOwn (own : ∀ key, ∀ o ∈ s.refs.ownersOf key, o.tunnelID = id → o.ifIndex = idx) :
    ∀ key, ∀ o ∈ (claimOne id idx metric s cidr).refs.ownersOf key, o.tunnelID = id → o.ifIndex = idx := by
  intro key o member mine
  rcases claimOneOwners.mp member with ⟨_,rfl⟩ | ⟨old,_⟩
  · rfl
  · exact own key o old mine

def Grown (idx : Nat) (before after : State) : Prop :=
  ∀ p, after.kernel.routes p = before.kernel.routes p ∨
    (before.kernel.routes p = none ∧ after.kernel.routes p = some idx)

theorem grownTrans {t u : State} (first : Grown idx s t) (second : Grown idx t u) : Grown idx s u := by
  intro p
  rcases first p with same | ⟨absent,added⟩ <;> rcases second p with same' | ⟨absent',added'⟩
  · exact .inl (same'.trans same)
  · exact .inr ⟨same ▸ absent',added'⟩
  · exact .inr ⟨absent,same'.trans added⟩
  · rw [added] at absent'
    contradiction

theorem claimOneGrown (s : State) (cidr : String) : Grown idx s (claimOne id idx metric s cidr) := by
  intro p
  simp only [claimOne]
  split
  · exact .inl rfl
  · rename_i absent
    simp only [Kernel.setRoute]
    split
    · rename_i here
      exact .inr ⟨by simpa [here] using absent,rfl⟩
    · exact .inl rfl

theorem claimOneMatched (fits : Fits metric) (own : ∀ key, ∀ o ∈ s.refs.ownersOf key, o.tunnelID = id → o.ifIndex = idx)
    (before : Matched left s.refs s.kernel.routes) :
    Matched left (claimOne id idx metric s cidr).refs (claimOne id idx metric s cidr).kernel.routes := by
  have routes (p : String × Nat) : (claimOne id idx metric s cidr).kernel.routes p =
      if p = kernelKey (normalizeCIDR cidr,metric) ∧ s.kernel.routes p = none then some idx else s.kernel.routes p := by
    simp only [claimOne]
    cases present : s.kernel.routes (kernelKey (normalizeCIDR cidr,metric)) with
    | none => by_cases here : p = kernelKey (normalizeCIDR cidr,metric) <;> simp [Kernel.setRoute,here,present]
    | some j => by_cases here : p = kernelKey (normalizeCIDR cidr,metric) <;> simp [here,present]
  constructor
  · intro key inRange owned
    rw [routes]
    split
    · simp
    · rename_i kept
      obtain ⟨o,member⟩ := exists_mem_of_ne_nil _ owned
      rcases claimOneOwners.mp member with ⟨here,_⟩ | ⟨old,_⟩
      · exact fun absent => kept ⟨here ▸ rfl,absent⟩
      · exact before.covered key inRange (ne_nil_of_mem old)
  · intro key j inRange via
    rw [routes] at via
    split at via
    · rename_i here
      refine .inl ⟨⟨id,idx⟩,claimOneOwners.mpr (.inl ⟨?_,rfl⟩),Option.some.inj via⟩
      exact kernelKeyInj inRange fits here.1
    · rcases before.sound key j inRange via with ⟨o,member,rfl⟩ | pending
      · by_cases replaced : key = (normalizeCIDR cidr,metric) ∧ o.tunnelID = id
        · exact .inl ⟨⟨id,idx⟩,claimOneOwners.mpr (.inl ⟨replaced.1,rfl⟩),(own key o member replaced.2).symm⟩
        · exact .inl ⟨o,claimOneOwners.mpr (.inr ⟨member,replaced⟩),rfl⟩
      · exact .inr pending

theorem claimFromOk (willing : KernelWilling env) {registered : List String} (valid : ∀ cidr ∈ cidrs, ValidCIDR cidr) (s : State) :
    claimFrom env ph site id idx metric i registered cidrs s = (none,cidrs.foldl (claimOne id idx metric) s) := by
  induction cidrs generalizing i registered s with
  | nil => rfl
  | cons cidr rest ih =>
    rw [claimFromValid willing (valid cidr mem_cons_self),foldl_cons]
    exact ih (fun c member => valid c (mem_cons_of_mem cidr member)) _

theorem claimedOwners {o : RouteOwner} : o ∈ (cidrs.foldl (claimOne id idx metric) s).refs.ownersOf key ↔
      (key ∈ keysOf metric cidrs ∧ o = ⟨id,idx⟩) ∨ (o ∈ s.refs.ownersOf key ∧ ¬ (key ∈ keysOf metric cidrs ∧ o.tunnelID = id)) := by
  induction cidrs generalizing s with
  | nil => simp [keysOf]
  | cons cidr rest ih =>
    have mine : o = ⟨id,idx⟩ → o.tunnelID = id := fun fresh => by rw [fresh]
    rw [foldl_cons,ih,claimOneOwners]
    simp only [keysOf,map_cons,mem_cons]
    tauto

theorem claimedMatched (fits : Fits metric) (own : ∀ key, ∀ o ∈ s.refs.ownersOf key, o.tunnelID = id → o.ifIndex = idx)
    (before : Matched left s.refs s.kernel.routes) :
    Matched left (cidrs.foldl (claimOne id idx metric) s).refs (cidrs.foldl (claimOne id idx metric) s).kernel.routes := by
  induction cidrs generalizing s with
  | nil => exact before
  | cons cidr rest ih => exact ih (claimOneOwn own) (claimOneMatched fits own before)

theorem claimFromRefused (willing : KernelWilling env) {i : Nat} {registered cidrs : List String} (s : State)
    (invalid : ¬ ∀ cidr ∈ cidrs, ValidCIDR cidr) :
    ∃ e t, claimFrom env ph site id idx metric i registered cidrs s = (some e,t) ∧ Grown idx s t ∧
      ((∀ key, ∀ o ∈ s.refs.ownersOf key, o.tunnelID = id → key ∈ keysOf metric registered) →
        ∀ key o, o ∈ t.refs.ownersOf key ↔ o ∈ s.refs.ownersOf key ∧ o.tunnelID ≠ id) := by
  induction cidrs generalizing i registered s with
  | nil => simp at invalid
  | cons cidr rest ih =>
    have extended : keysOf metric (registered ++ [cidr]) = keysOf metric registered ++ [(normalizeCIDR cidr,metric)] := by
      simp [keysOf]
    by_cases head : ValidCIDR cidr
    · rw [claimFromValid willing head]
      have later : ¬ ∀ c ∈ rest, ValidCIDR c := by
        intro all
        refine invalid (fun c member => ?_)
        rcases mem_cons.mp member with rfl | inside
        · exact head
        · exact all c inside
      obtain ⟨e,t,ran,grown,owners⟩ := @ih (i+1) (registered ++ [cidr]) (claimOne id idx metric s cidr) later
      refine ⟨e,t,ran,grownTrans (claimOneGrown s cidr) grown,fun mine key o => ?_⟩
      have tracked : ∀ key, ∀ o ∈ (claimOne id idx metric s cidr).refs.ownersOf key, o.tunnelID = id →
          key ∈ keysOf metric (registered ++ [cidr]) := by
        intro key o member same
        rw [extended]
        rcases claimOneOwners.mp member with ⟨here,_⟩ | ⟨old,_⟩
        · exact mem_append_right _ (by simp [here])
        · exact mem_append_left _ (mine key o old same)
      have fresh : o = ⟨id,idx⟩ → o.tunnelID = id := fun same => by rw [same]
      rw [owners tracked,claimOneOwners]
      tauto
    · obtain ⟨e,ran⟩ := @claimFromInvalid env ph site id idx metric i registered rest cidr head s
      refine ⟨e,_,ran,?_,fun mine key o => ?_⟩
      · intro p
        rw [@unregisterKeeps _ State.kernel (fun _ _ => rfl)]
        exact .inl rfl
      · rw [unregisterOwners,extended,mem_append,mem_singleton]
        have old := mine key o
        have fresh : o = ⟨id,idx⟩ → o.tunnelID = id := fun same => by rw [same]
        dsimp only
        rw [memAdd]
        tauto

end
end VpnPack.Wgs2s
