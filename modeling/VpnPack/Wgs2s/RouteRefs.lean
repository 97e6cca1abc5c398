import VpnPack.Wgs2s.Config

/-! routeRefCounter: which tunnels own a kernel route, per formatted key. A stored
owner list is never empty and names no tunnel twice; both are fields of the map,
so add and remove carry their proofs. -/
namespace VpnPack.Wgs2s
open List Net

def normalizeCIDR (cidr : String) : String :=
  match parseCIDR cidr.toList with
  | none => cidr
  | some (_,ipNet) => String.ofList (ipNetText ipNet)

def keyText (net : String) (metric : Int) : String := net ++ "@" ++ toString metric
def routeKey (cidr : String) (metric : Int) : String := keyText (normalizeCIDR cidr) metric

theorem keyTextInj {c d : String} {m n : Int} (same : keyText c m = keyText d n) : c = d ∧ m = n := by
  have noAt (k : Int) : '@' ∉ (toString k).toList := intTextAvoids (by decide) (by decide) k
  have lists := congrArg String.toList same
  simp only [keyText,String.toList_append,append_assoc] at lists
  have left := cutLastAppend c.toList (noAt m)
  have right := cutLastAppend d.toList (noAt n)
  change c.toList ++ ('@' :: (toString m).toList) = d.toList ++ ('@' :: (toString n).toList) at lists
  rw [lists,right] at left
  have both := Prod.mk.inj (Option.some.inj left)
  exact ⟨String.toList_inj.mp both.1.symm,intTextInj (String.toList_inj.mp both.2.symm)⟩

structure RouteOwner where
  tunnelID : String
  ifIndex : Nat
  deriving DecidableEq, Repr

def Distinct (owners : List RouteOwner) : Prop := (owners.map RouteOwner.tunnelID).Nodup

structure RouteRefs where
  owners : String → Option (List RouteOwner)
  stored : ∀ key, owners key ≠ some []
  distinct : ∀ key list, owners key = some list → Distinct list

def RouteRefs.empty : RouteRefs :=
  ⟨fun _ => none,fun _ => by simp,fun _ _ found => by simp at found⟩

def RouteRefs.get (rc : RouteRefs) (key : String) : List RouteOwner := (rc.owners key).getD []

theorem RouteRefs.extGet {a b : RouteRefs} (same : ∀ key, a.get key = b.get key) : a = b := by
  have owners : a.owners = b.owners := by
    funext key
    have here := same key
    have left := a.stored key
    have right := b.stored key
    unfold RouteRefs.get at here
    cases found : a.owners key <;> cases other : b.owners key <;> simp_all
  cases a
  cases b
  cases owners
  rfl

theorem RouteRefs.getDistinct (rc : RouteRefs) (key : String) : Distinct (rc.get key) := by
  unfold RouteRefs.get
  cases found : rc.owners key with
  | none => simp [Distinct]
  | some list => exact rc.distinct key list found

-- Storing an empty list deletes the key.
def RouteRefs.put (rc : RouteRefs) (key : String) (list : List RouteOwner) (ok : Distinct list) : RouteRefs where
  owners k := if k = key then (if list = [] then none else some list) else rc.owners k
  stored k := by
    split
    · split
      · simp
      · rename_i nonempty
        simpa using nonempty
    · exact rc.stored k
  distinct k l found := by
    split at found
    · split at found
      · simp at found
      · cases found
        exact ok
    · exact rc.distinct k l found

theorem RouteRefs.getPut (rc : RouteRefs) (key : String) (list : List RouteOwner) (ok : Distinct list) (k : String) :
    (rc.put key list ok).get k = if k = key then list else rc.get k := by
  simp only [RouteRefs.get,RouteRefs.put]
  by_cases same : k = key
  · by_cases emptied : list = [] <;> simp [same,emptied]
  · simp [same]

def setIndex (tunnelID : String) (ifIndex : Nat) : List RouteOwner → List RouteOwner
  | [] => []
  | o :: rest => if o.tunnelID = tunnelID then {o with ifIndex := ifIndex} :: rest else o :: setIndex tunnelID ifIndex rest

theorem setIndexIDs (tunnelID : String) (ifIndex : Nat) (list : List RouteOwner) :
    (setIndex tunnelID ifIndex list).map RouteOwner.tunnelID = list.map RouteOwner.tunnelID := by
  induction list with
  | nil => rfl
  | cons o rest ih =>
    simp only [setIndex]
    split <;> simp [ih]

def owned (tunnelID : String) (list : List RouteOwner) : Bool := list.any (fun o => o.tunnelID = tunnelID)

variable {tunnelID : String} {list : List RouteOwner}

theorem ownedIff : owned tunnelID list = true ↔ tunnelID ∈ list.map RouteOwner.tunnelID := by
  simp [owned]

def upsert (tunnelID : String) (ifIndex : Nat) (list : List RouteOwner) : List RouteOwner :=
  if owned tunnelID list then setIndex tunnelID ifIndex list else list ++ [⟨tunnelID,ifIndex⟩]

theorem upsertDistinct {ifIndex : Nat} (ok : Distinct list) : Distinct (upsert tunnelID ifIndex list) := by
  unfold upsert Distinct
  split
  · rw [setIndexIDs]
    exact ok
  · rename_i absent
    rw [ownedIff] at absent
    rw [map_append,nodup_append]
    refine ⟨ok,by simp,?_⟩
    intro id member other new
    simp only [map_cons,map_nil,mem_singleton] at new
    rintro rfl
    exact absent (new ▸ member)

theorem othersApart {head : RouteOwner} {rest : List RouteOwner} (ok : Distinct (head :: rest)) :
    ∀ o ∈ rest, o.tunnelID ≠ head.tunnelID := by
  simp only [Distinct,map_cons,nodup_cons] at ok
  intro o member clash
  exact ok.1 (clash ▸ mem_map_of_mem member)

theorem setIndexMap (ifIndex : Nat) (ok : Distinct list) :
    setIndex tunnelID ifIndex list = list.map (fun o => if o.tunnelID = tunnelID then ⟨tunnelID,ifIndex⟩ else o) := by
  induction list with
  | nil => rfl
  | cons head rest ih =>
    simp only [setIndex,map_cons]
    split
    · rename_i same
      subst same
      have kept : rest.map (fun o => if o.tunnelID = head.tunnelID then ⟨head.tunnelID,ifIndex⟩ else o) = rest := by
        rw [map_congr_left (fun o member => if_neg (othersApart ok o member)),map_id']
      rw [kept]
    · rw [ih (nodup_cons.mp ok).2]

theorem memSetIndex {ifIndex : Nat} (ok : Distinct list) (present : tunnelID ∈ list.map RouteOwner.tunnelID) (o : RouteOwner) :
    o ∈ setIndex tunnelID ifIndex list ↔ o = ⟨tunnelID,ifIndex⟩ ∨ (o ∈ list ∧ o.tunnelID ≠ tunnelID) := by
  rw [setIndexMap ifIndex ok,mem_map]
  rw [mem_map] at present
  grind

theorem memUpsert {ifIndex : Nat} (ok : Distinct list) (o : RouteOwner) :
    o ∈ upsert tunnelID ifIndex list ↔ o = ⟨tunnelID,ifIndex⟩ ∨ (o ∈ list ∧ o.tunnelID ≠ tunnelID) := by
  unfold upsert
  split
  · rename_i present
    exact memSetIndex ok (ownedIff.mp present) o
  · rename_i absent
    rw [ownedIff] at absent
    rw [mem_append,mem_singleton]
    constructor
    · rintro (member | rfl)
      · exact .inr ⟨member,fun clash => absent (clash ▸ mem_map_of_mem member)⟩
      · exact .inl rfl
    · rintro (rfl | ⟨member,_⟩)
      · exact .inr rfl
      · exact .inl member

def without (tunnelID : String) (list : List RouteOwner) : List RouteOwner :=
  list.eraseP (fun o => o.tunnelID = tunnelID)

theorem withoutDistinct (ok : Distinct list) : Distinct (without tunnelID list) :=
  List.Nodup.sublist (List.Sublist.map _ eraseP_sublist) ok

theorem withoutFilter (ok : Distinct list) : without tunnelID list = list.filter (fun o => o.tunnelID ≠ tunnelID) := by
  induction list with
  | nil => rfl
  | cons head rest ih =>
    simp only [without,eraseP_cons,filter_cons] at ih ⊢
    by_cases same : head.tunnelID = tunnelID
    · subst same
      have kept : rest.filter (fun o => o.tunnelID ≠ head.tunnelID) = rest :=
        filter_eq_self.mpr (fun o member => by simpa using othersApart ok o member)
      simpa using kept.symm
    · simpa [same] using ih (nodup_cons.mp ok).2

theorem memWithout (ok : Distinct list) (o : RouteOwner) : o ∈ without tunnelID list ↔ o ∈ list ∧ o.tunnelID ≠ tunnelID := by
  simp [withoutFilter ok]

def RouteRefs.add (rc : RouteRefs) (cidr tunnelID : String) (ifIndex : Nat) (metric : Int) : Bool × RouteRefs :=
  let key := routeKey cidr metric
  let list := rc.get key
  (if owned tunnelID list then list.length == 1 else list.length == 0,
    rc.put key (upsert tunnelID ifIndex list) (upsertDistinct (rc.getDistinct key)))

def RouteRefs.owns (rc : RouteRefs) (cidr tunnelID : String) (metric : Int) : Bool :=
  owned tunnelID (rc.get (routeKey cidr metric))

def RouteRefs.remove (rc : RouteRefs) (cidr tunnelID : String) (metric : Int) : List RouteOwner × RouteRefs :=
  let key := routeKey cidr metric
  let list := rc.get key
  if owned tunnelID list then
    (without tunnelID list,rc.put key (without tunnelID list) (withoutDistinct (rc.getDistinct key)))
  else (list,rc)

theorem setIndexLength (tunnelID : String) (ifIndex : Nat) (list : List RouteOwner) :
    (setIndex tunnelID ifIndex list).length = list.length := by
  simpa using congrArg List.length (setIndexIDs tunnelID ifIndex list)

variable (rc : RouteRefs) (cidr tunnelID : String)

variable (ifIndex : Nat) (metric : Int) (key : String)

theorem RouteRefs.addGet : (rc.add cidr tunnelID ifIndex metric).2.get key =
      if key = routeKey cidr metric then upsert tunnelID ifIndex (rc.get key) else rc.get key := by
  simp only [RouteRefs.add,RouteRefs.getPut]
  split
  · rename_i same
    rw [same]
  · rfl

theorem RouteRefs.addFirst : (rc.add cidr tunnelID ifIndex metric).1 = true ↔
      (rc.add cidr tunnelID ifIndex metric).2.get (routeKey cidr metric) = [⟨tunnelID,ifIndex⟩] := by
  have ok := rc.getDistinct (routeKey cidr metric)
  rw [RouteRefs.addGet,if_pos rfl]
  simp only [RouteRefs.add,upsert]
  split
  · rename_i present
    have own := @memSetIndex tunnelID _ ifIndex ok (ownedIff.mp present) ⟨tunnelID,ifIndex⟩
    rw [beq_iff_eq,← setIndexLength tunnelID ifIndex,length_eq_one_iff]
    constructor
    · rintro ⟨o,single⟩
      rw [single] at own ⊢
      have same : (⟨tunnelID,ifIndex⟩ : RouteOwner) = o := mem_singleton.mp (own.mpr (.inl rfl))
      rw [same]
    · exact fun single => ⟨_,single⟩
  · simp

theorem RouteRefs.removeGet :
    (rc.remove cidr tunnelID metric).2.get key = if key = routeKey cidr metric then without tunnelID (rc.get key) else rc.get key := by
  simp only [RouteRefs.remove]
  split
  · rw [RouteRefs.getPut]
    split
    · rename_i same
      rw [same]
    · rfl
  · rename_i absent
    split
    · rename_i same
      have nothing : ∀ o ∈ rc.get (routeKey cidr metric), o.tunnelID ≠ tunnelID := by
        simpa [owned] using absent
      rw [same]
      exact (eraseP_of_forall_not (by simpa using nothing)).symm
    · rfl

theorem RouteRefs.removeRemaining :
    (rc.remove cidr tunnelID metric).1 = (rc.remove cidr tunnelID metric).2.get (routeKey cidr metric) := by
  simp only [RouteRefs.remove]
  split
  · rw [RouteRefs.getPut,if_pos rfl]
  · rfl

end VpnPack.Wgs2s
