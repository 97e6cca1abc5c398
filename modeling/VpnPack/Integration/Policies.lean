import VpnPack.Integration.Zones

/-! Policies between a zone and the internal one, found or created by name, while any
request may fail. A policy that is found is not looked at: only its name is
compared. -/
namespace VpnPack.Integration
open Base List

inductive PolicyCall where
  | ensurePolicies (siteID zoneName zoneID : String)
  | zones (a : ZoneCall)
  deriving DecidableEq, Repr

def policyCall (world : World) : PolicyCall → Client → Client
  | .ensurePolicies siteID zoneName zoneID,c => (EnsurePolicies world siteID zoneName zoneID c).2
  | .zones a,c => zoneCall world a c

def Between (c : Client) (siteID id source destination : String) : Prop :=
  ∃ p ∈ (c.sites siteID).policies, p.id = id ∧ p.source.zoneID = source ∧ p.destination.zoneID = destination

structure Connects (c : Client) (siteID zoneID internal : String) (ids : List String) : Prop where
  pair : ∃ a b, ids = [a,b] ∧ a ≠ b ∧ Between c siteID a zoneID internal ∧ Between c siteID b internal zoneID

def Returned (world : World) (siteID zoneName zoneID : String) (c : Client) : Prop :=
  (EnsurePolicies world siteID zoneName zoneID c).1.2 = none

def Joins (world : World) : PolicyCall → Client → Prop
  | .ensurePolicies siteID zoneName zoneID,c =>
    Returned world siteID zoneName zoneID c →
      ∃ internal, (FindInternalZoneID world siteID c).1 = .ok internal ∧
        Connects (EnsurePolicies world siteID zoneName zoneID c).2 siteID zoneID internal
          (EnsurePolicies world siteID zoneName zoneID c).1.1
  | .zones _,_ => True

def allowTo (zoneName : String) : String := "VPN Pack: Allow " ++ zoneName ++ " to Internal"
def allowFrom (zoneName : String) : String := "VPN Pack: Allow Internal to " ++ zoneName
def known (c : Client) (siteID name : String) : String := findExistingPolicy ((c.sites siteID).policies.take pageCap) name

structure Fits (c : Client) (siteID zoneName zoneID internal : String) : Prop where
  first : known c siteID (allowTo zoneName) ≠ "" → Between c siteID (known c siteID (allowTo zoneName)) zoneID internal
  second : known c siteID (allowFrom zoneName) ≠ "" → Between c siteID (known c siteID (allowFrom zoneName)) internal zoneID
  apart : known c siteID (allowTo zoneName) ≠ "" → known c siteID (allowTo zoneName) ≠ known c siteID (allowFrom zoneName)

def FindsFitting (world : World) : PolicyCall → Client → Prop
  | .ensurePolicies siteID zoneName zoneID,c =>
    Returned world siteID zoneName zoneID c →
      ∀ internal, internalFrom "" (listing world siteID c) = some internal → Fits c siteID zoneName zoneID internal
  | .zones _,_ => True

def Issued (world : World) (c : Client) : Prop :=
  ∀ siteID, ∀ p ∈ (c.sites siteID).policies, ∀ n, c.calls ≤ n → p.id ≠ world.ids n

section
variable {world : World} {siteID : String} {c d : Client} {existing : List Policy} {want : CreatePolicyRequest}

def withPolicy (sites : Sites) (siteID : String) (p : Policy) : Sites :=
  sites.set siteID {sites siteID with policies := (sites siteID).policies ++ [p]}

def policyFor (world : World) (siteID : String) (existing : List Policy) (want : CreatePolicyRequest) : Fetch String := fun c =>
  if findExistingPolicy existing want.name ≠ "" then (.ok (findExistingPolicy existing want.name),c)
  else
    match CreatePolicy world siteID want c with
    | (.error e,d) => (.error e,d)
    | (.ok p,d) => (.ok p.id,d)

theorem createMissingCons {rest : List CreatePolicyRequest} {ids all : List String}
    (ran : createMissing world siteID existing (want :: rest) ids c = ((all,none),d)) :
    ∃ a m, policyFor world siteID existing want c = (.ok a,m) ∧
      createMissing world siteID existing rest (ids ++ [a]) m = ((all,none),d) := by
  simp only [createMissing] at ran
  split at ran
  · rename_i found
    exact ⟨_,c,if_pos found,ran⟩
  · rename_i absent
    split at ran
    · simp at ran
    · rename_i p m created
      refine ⟨p.id,m,?_,ran⟩
      simp only [policyFor,if_neg absent,created]

theorem policyForSource {a : String} (ran : policyFor world siteID existing want c = (.ok a,d)) :
    findExistingPolicy existing want.name = a ∧ a ≠ "" ∧ d = c ∨ findExistingPolicy existing want.name = "" ∧ a = world.ids c.calls ∧
        d = {c with calls := c.calls+1, sites := withPolicy c.sites siteID ⟨want,a⟩} := by
  unfold policyFor at ran
  split at ran
  · rename_i found
    obtain ⟨same,rfl⟩ := Prod.mk.inj ran
    cases same
    exact .inl ⟨rfl,found,rfl⟩
  · rename_i absent
    split at ran
    · simp at ran
    · rename_i p m created
      obtain ⟨reply,final⟩ := requestOk created
      obtain ⟨same,rfl⟩ := Prod.mk.inj ran
      cases same
      cases reply
      exact .inr ⟨not_not.mp absent,rfl,final⟩

theorem policiesWith (sites : Sites) (p : Policy) : (withPolicy sites siteID p siteID).policies = (sites siteID).policies ++ [p] := by
  rw [withPolicy,Sites.setHere]

theorem betweenNew (p : Policy) (calls : Nat) :
    Between {c with calls := calls, sites := withPolicy c.sites siteID p} siteID p.id p.source.zoneID p.destination.zoneID := by
  refine ⟨p,?_,rfl,rfl,rfl⟩
  dsimp only
  rw [policiesWith]
  exact mem_append_right _ mem_cons_self

theorem betweenWith {p : Policy} {calls : Nat} {id source destination : String} (other : p.id ≠ id) :
    Between {c with calls := calls, sites := withPolicy c.sites siteID p} siteID id source destination ↔
      Between c siteID id source destination := by
  unfold Between
  dsimp only
  rw [policiesWith]
  constructor
  · rintro ⟨q,member,same,ends⟩
    rcases mem_append.mp member with old | new
    · exact ⟨q,old,same,ends⟩
    · cases mem_singleton.mp new
      exact absurd same other
  · rintro ⟨q,member,rest⟩
    exact ⟨q,mem_append_left _ member,rest⟩

theorem issuedFound {name : String} {n : Nat} (issued : Issued world c) (later : c.calls ≤ n) (found : known c siteID name ≠ "") :
    world.ids n ≠ known c siteID name := by
  obtain ⟨p,member,_,same⟩ := findExistingSource found
  unfold known
  rw [← same]
  exact (issued siteID p (mem_of_mem_take member) n later).symm

end

section
variable {world : World} {siteID zoneName zoneID internal a b : String} {c d m : Client}

def toInternal (zoneName zoneID internal : String) : CreatePolicyRequest :=
  ⟨true,allowTo zoneName,⟨"ALLOW",true⟩,⟨zoneID,none⟩,⟨internal,none⟩,⟨"IPV4_AND_IPV6",none⟩,false⟩

def fromInternal (zoneName zoneID internal : String) : CreatePolicyRequest :=
  ⟨true,allowFrom zoneName,⟨"ALLOW",true⟩,⟨internal,none⟩,⟨zoneID,none⟩,⟨"IPV4_AND_IPV6",none⟩,false⟩

theorem pairConnects (issued : Issued world c)
    (first : policyFor world siteID ((c.sites siteID).policies.take pageCap) (toInternal zoneName zoneID internal) c = (.ok a,m))
    (second : policyFor world siteID ((c.sites siteID).policies.take pageCap) (fromInternal zoneName zoneID internal) m = (.ok b,d)) :
    Connects d siteID zoneID internal [a,b] ↔ Fits c siteID zoneName zoneID internal := by
  have shape : Connects d siteID zoneID internal [a,b] ↔
      a ≠ b ∧ Between d siteID a zoneID internal ∧ Between d siteID b internal zoneID := by
    constructor
    · rintro ⟨a',b',same,rest⟩
      cases same
      exact rest
    · exact fun rest => ⟨a,b,rfl,rest⟩
  rw [shape]
  rcases policyForSource first with ⟨foundA,textA,rfl⟩ | ⟨absentA,newA,shapeA⟩
  · change known m siteID (allowTo zoneName) = a at foundA
    rcases policyForSource second with ⟨foundB,textB,rfl⟩ | ⟨absentB,newB,rfl⟩
    · change known d siteID (allowFrom zoneName) = b at foundB
      constructor
      · rintro ⟨apart,forth,back⟩
        exact ⟨fun _ => foundA ▸ forth,fun _ => foundB ▸ back,fun _ => by rw [foundA,foundB]; exact apart⟩
      · intro fits
        refine ⟨?_,foundA ▸ fits.first (foundA ▸ textA),foundB ▸ fits.second (foundB ▸ textB)⟩
        have apart := fits.apart (foundA ▸ textA)
        rw [foundA,foundB] at apart
        exact apart
    · change known m siteID (allowFrom zoneName) = "" at absentB
      have apart : b ≠ a := by
        rw [newB,← foundA]
        exact issuedFound issued (Nat.le_refl _) (foundA ▸ textA)
      rw [betweenWith apart]
      constructor
      · rintro ⟨_,forth,_⟩
        exact ⟨fun _ => foundA ▸ forth,fun found => absurd absentB found,fun _ => by rw [foundA,absentB]; exact textA⟩
      · intro fits
        exact ⟨apart.symm,foundA ▸ fits.first (foundA ▸ textA),betweenNew _ _⟩
  · change known c siteID (allowTo zoneName) = "" at absentA
    rcases policyForSource second with ⟨foundB,textB,rfl⟩ | ⟨absentB,newB,rfl⟩
    · change known c siteID (allowFrom zoneName) = b at foundB
      have apart : a ≠ b := by
        rw [newA,← foundB]
        exact issuedFound issued (Nat.le_refl _) (foundB ▸ textB)
      rw [shapeA,@betweenWith siteID c _ _ b _ _ apart]
      constructor
      · rintro ⟨_,_,back⟩
        exact ⟨fun found => absurd absentA found,fun _ => foundB ▸ back,fun found => absurd absentA found⟩
      · intro fits
        exact ⟨apart,betweenNew _ _,foundB ▸ fits.second (foundB ▸ textB)⟩
    · change known c siteID (allowFrom zoneName) = "" at absentB
      have apart : b ≠ a := by
        rw [newA,newB,shapeA]
        exact fun same => Nat.succ_ne_self _ (world.idsInj same)
      refine iff_of_true ⟨apart.symm,?_,betweenNew _ _⟩ ⟨fun found => absurd absentA found,fun found => absurd absentB found,
        fun found => absurd absentA found⟩
      rw [betweenWith apart,shapeA]
      exact betweenNew _ _

theorem betweenAsked {id source destination : String} (asked : Asked c d) :
    Between d siteID id source destination ↔ Between c siteID id source destination := by
  rw [Between,asked.sites]
  rfl

theorem fitsAsked (asked : Asked c d) : Fits d siteID zoneName zoneID internal ↔ Fits c siteID zoneName zoneID internal := by
  have same (name : String) : known d siteID name = known c siteID name := by rw [known,asked.sites]; rfl
  constructor
  · intro fits
    have first := fits.first
    have second := fits.second
    have apart := fits.apart
    simp only [same,betweenAsked asked] at first second apart
    exact ⟨first,second,apart⟩
  · intro fits
    refine ⟨?_,?_,?_⟩ <;> simp only [same,betweenAsked asked]
    · exact fits.first
    · exact fits.second
    · exact fits.apart

theorem issuedAsked (issued : Issued world c) (asked : Asked c d) : Issued world d := by
  intro site p member n later
  rw [asked.sites] at member
  exact issued site p member n (Nat.le_trans asked.calls later)

theorem internalSource {r : Except GoError String} (ran : FindInternalZoneID world siteID c = (r,d)) :
    Asked c d ∧ ∀ id, r = .ok id → internalFrom "" (listing world siteID c) = some id := by
  simp only [FindInternalZoneID] at ran
  split at ran
  · rename_i listed
    cases ran
    exact ⟨(listZonesSource listed).1,fun _ bad => (by cases bad)⟩
  · rename_i zones d' listed
    obtain ⟨asked,same⟩ := listZonesSource listed
    rw [← same zones rfl]
    split at ran
    · rename_i id found
      cases ran
      exact ⟨asked,fun _ eq => by rw [found,Except.ok.inj eq]⟩
    · cases ran
      exact ⟨asked,fun _ bad => (by cases bad)⟩

theorem ensureSource {ids : List String} (ran : EnsurePolicies world siteID zoneName zoneID c = ((ids,none),d)) :
    ∃ internal e m m' a b, FindInternalZoneID world siteID c = (.ok internal,e) ∧ Asked c m ∧
      policyFor world siteID ((m.sites siteID).policies.take pageCap) (toInternal zoneName zoneID internal) m = (.ok a,m') ∧
      policyFor world siteID ((m.sites siteID).policies.take pageCap) (fromInternal zoneName zoneID internal) m' = (.ok b,d) ∧
      ids = [a,b] := by
  simp only [EnsurePolicies] at ran
  split at ran
  · simp at ran
  rename_i internal e found
  split at ran
  · simp at ran
  rename_i existing m listed
  obtain ⟨askedList,same⟩ := listSource listed
  have asked := askedTrans (internalSource found).1 askedList
  rw [same existing rfl,← askedList.sites] at ran
  obtain ⟨a,m',first,rest⟩ := createMissingCons ran
  obtain ⟨b,m'',second,last⟩ := createMissingCons rest
  cases last
  exact ⟨internal,e,m,m',a,b,found,asked,first,second,rfl⟩

theorem ensureJoins (issued : Issued world c) :
    Joins world (.ensurePolicies siteID zoneName zoneID) c ↔ FindsFitting world (.ensurePolicies siteID zoneName zoneID) c := by
  simp only [Joins,FindsFitting]
  rcases ran : EnsurePolicies world siteID zoneName zoneID c with ⟨result,d⟩
  obtain ⟨ids,err⟩ := result
  have outcome : Returned world siteID zoneName zoneID c ↔ err = none := by rw [Returned,ran]
  rw [outcome]
  refine forall_congr' (fun returned => ?_)
  subst returned
  obtain ⟨internal,e,m,m',a,b,found,asked,first,second,rfl⟩ := ensureSource ran
  have listed := (internalSource found).2 internal rfl
  have joined := pairConnects (issuedAsked issued asked) first second
  rw [fitsAsked asked] at joined
  rw [found,listed]
  constructor
  · rintro ⟨id,same,connects⟩ id' same'
    cases same
    cases Option.some.inj same'
    exact joined.mp connects
  · intro fits
    exact ⟨internal,rfl,joined.mpr (fits internal rfl)⟩

end

section
variable {world : World} {siteID : String} {c d : Client}

theorem createIssued {req : CreatePolicyRequest} {r : Except GoError Policy} (issued : Issued world c)
    (ran : CreatePolicy world siteID req c = (r,d)) : Issued world d := by
  have grown (later : c.calls < d.calls) (sites : d.sites = withPolicy c.sites siteID ⟨req,world.ids c.calls⟩) : Issued world d := by
    intro site p member n bound
    rw [sites] at member
    by_cases same : site = siteID
    · subst same
      rw [policiesWith] at member
      rcases mem_append.mp member with old | new
      · exact issued site p old n (by omega)
      · cases mem_singleton.mp new
        intro equal
        have := world.idsInj equal
        omega
    · rw [withPolicy,Sites.setOther _ _ same] at member
      exact issued site p member n (by omega)
  cases r with
  | ok p =>
    obtain ⟨_,rfl⟩ := requestOk ran
    exact grown (Nat.lt_succ_self _) rfl
  | error e =>
    obtain ⟨key,calls,sites | ⟨sites,later⟩⟩ := requestFailed ran
    · exact issuedAsked issued ⟨sites,key,calls⟩
    · exact grown later sites

theorem createMissingIssued {existing : List Policy} {wants : List CreatePolicyRequest} {ids : List String} (issued : Issued world c) :
    Issued world (createMissing world siteID existing wants ids c).2 := by
  induction wants generalizing ids c with
  | nil => exact issued
  | cons want rest ih =>
    simp only [createMissing]
    split
    · exact ih issued
    · split
      · rename_i created
        exact createIssued issued created
      · rename_i created
        exact ih (createIssued issued created)

theorem ensureIssued {zoneName zoneID : String} (issued : Issued world c) :
    Issued world (EnsurePolicies world siteID zoneName zoneID c).2 := by
  simp only [EnsurePolicies]
  split
  · rename_i found
    exact issuedAsked issued (internalSource found).1
  · rename_i found
    have before := issuedAsked issued (internalSource found).1
    split
    · rename_i listed
      exact issuedAsked before (listSource listed).1
    · rename_i listed
      exact createMissingIssued (issuedAsked before (listSource listed).1)

theorem requestPolicies {α : Type} {serve : String → Sites → Except GoError α × Sites}
    (keeps : ∀ id sites site, ((serve id sites).2 site).policies = (sites site).policies) (issued : Issued world c) :
    Issued world (doRequest world serve c).2 := by
  rcases ran : doRequest world serve c with ⟨r,d⟩
  have same (calls : c.calls ≤ d.calls) (sites : d.sites = (serve (world.ids c.calls) c.sites).2) : Issued world d := by
    intro site p member n later
    rw [sites,keeps] at member
    exact issued site p member n (Nat.le_trans calls later)
  cases r with
  | ok a =>
    obtain ⟨_,rfl⟩ := requestOk ran
    exact same (Nat.le_succ _) rfl
  | error e =>
    obtain ⟨key,calls,sites | ⟨sites,_⟩⟩ := requestFailed ran
    · exact issuedAsked issued ⟨sites,key,calls⟩
    · exact same calls sites

theorem setZonesPolicies (sites : Sites) (zones : List Zone) (site : String) :
    (sites.set siteID {sites siteID with zones := zones} site).policies = (sites site).policies := by
  by_cases same : site = siteID
  · subst same
    rw [Sites.setHere]
  · rw [Sites.setOther _ _ same]

theorem zoneCallIssued (a : ZoneCall) (issued : Issued world c) : Issued world (zoneCall world a c) := by
  cases a with
  | listZones siteID => exact issuedAsked issued (listZonesSource rfl).1
  | deleteZone siteID zoneID =>
    refine requestPolicies (fun id sites site => ?_) issued
    unfold removeZone
    split
    · exact setZonesPolicies sites _ site
    · rfl
  | ensureZone siteID name =>
    simp only [zoneCall,EnsureZone,findZoneByName]
    rcases listed : ListZones world siteID c with ⟨r,d⟩
    have before := issuedAsked issued (listZonesSource listed).1
    cases r with
    | error e => exact before
    | ok zones =>
      dsimp only
      cases zoneNamed zones name with
      | some z => exact before
      | none => exact requestPolicies (fun id sites site => setZonesPolicies sites _ site) before

theorem policyCallIssued (a : PolicyCall) (issued : Issued world c) : Issued world (policyCall world a c) := by
  cases a with
  | ensurePolicies siteID zoneName zoneID => exact ensureIssued issued
  | zones a => exact zoneCallIssued a issued

theorem deletePolicySource {policyID : String} {r : Except GoError Unit} (ran : DeletePolicy world siteID policyID c = (r,d)) :
    c.calls ≤ d.calls ∧ (d.sites siteID).policies.Sublist (c.sites siteID).policies := by
  have removed : ((removePolicy siteID policyID c.sites).2 siteID).policies.Sublist (c.sites siteID).policies := by
    unfold removePolicy
    split
    · simp only [Sites.setHere]
      exact filter_sublist
    · exact List.Sublist.refl _
  cases r with
  | ok a =>
    obtain ⟨_,rfl⟩ := requestOk ran
    exact ⟨Nat.le_succ _,removed⟩
  | error e =>
    obtain ⟨_,calls,sites | ⟨sites,_⟩⟩ := requestFailed ran
    · rw [sites]
      exact ⟨calls,List.Sublist.refl _⟩
    · rw [sites]
      exact ⟨calls,removed⟩

end

def slow : World := steady 10000000000
def joinA (zoneID : String) : PolicyCall := .ensurePolicies "default" "A" zoneID
def joinedA (zoneID : String) : Client := policyCall slow (joinA zoneID) oneSite

def ends (c : Client) : List (String × String × String) :=
  (c.sites "default").policies.map (fun p => (p.id,p.source.zoneID,p.destination.zoneID))

theorem endsBetween {c : Client} {id source destination : String} (member : (id,source,destination) ∈ ends c) :
    Between c "default" id source destination := by
  obtain ⟨p,inside,same⟩ := mem_map.mp member
  cases same
  exact ⟨p,inside,rfl,rfl,rfl⟩

end VpnPack.Integration
