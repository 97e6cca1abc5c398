import VpnPack.Base.Runs
import VpnPack.Wgs2s.Routes

/-! What routeRefCounter is for: the owners of each route, one list for each normalized CIDR
and metric, in the order the tunnels came. -/
namespace VpnPack.Wgs2s
open Base List

abbrev OwnerMap := RouteKey → List RouteOwner

def OwnerMap.empty : OwnerMap := fun _ => []

def OwnerMap.store (m : OwnerMap) (key : RouteKey) (list : List RouteOwner) : OwnerMap :=
  fun k => if k = key then list else m k

def withOwner (owner : RouteOwner) (list : List RouteOwner) : List RouteOwner :=
  if owner.tunnelID ∈ list.map RouteOwner.tunnelID then list.map (fun o => if o.tunnelID = owner.tunnelID then owner else o)
  else list ++ [owner]

def OwnerMap.add (m : OwnerMap) (key : RouteKey) (owner : RouteOwner) : Bool × OwnerMap :=
  (withOwner owner (m key) = [owner],m.store key (withOwner owner (m key)))

def OwnerMap.remove (m : OwnerMap) (key : RouteKey) (tunnelID : String) : List RouteOwner × OwnerMap :=
  let others := (m key).filter (fun o => o.tunnelID ≠ tunnelID)
  (others,m.store key others)

inductive RouteCall where
  | add (cidr tunnelID : String) (ifIndex : Nat) (metric : Int)
  | remove (cidr tunnelID : String) (metric : Int)
  deriving DecidableEq, Repr

inductive RouteAnswer where
  | first (only : Bool)
  | remaining (owners : List RouteOwner)
  deriving DecidableEq, Repr

def RouteCall.onRefs : RouteCall → RouteRefs → RouteAnswer × RouteRefs
  | .add cidr tunnelID ifIndex metric,rc => (rc.add cidr tunnelID ifIndex metric).map .first id
  | .remove cidr tunnelID metric,rc => (rc.remove cidr tunnelID metric).map .remaining id

def RouteCall.onMap : RouteCall → OwnerMap → RouteAnswer × OwnerMap
  | .add cidr tunnelID ifIndex metric,m => (m.add (normalizeCIDR cidr,metric) ⟨tunnelID,ifIndex⟩).map .first id
  | .remove cidr tunnelID metric,m => (m.remove (normalizeCIDR cidr,metric) tunnelID).map .remaining id

structure Represents (rc : RouteRefs) (m : OwnerMap) : Prop where
  owners : ∀ key, rc.ownersOf key = m key
  keys : ∀ text list, rc.owners text = some list → ∃ key : RouteKey, text = keyText key.1 key.2
  distinct : ∀ key, Distinct (m key)

theorem upsertOwner {tunnelID : String} {ifIndex : Nat} {list : List RouteOwner} (ok : Distinct list) :
    upsert tunnelID ifIndex list = withOwner ⟨tunnelID,ifIndex⟩ list := by
  simp only [upsert,ownedIff,withOwner,setIndexMap ifIndex ok]

section
variable {rc : RouteRefs} {m : OwnerMap} (start : Represents rc m)
include start

theorem representsAdd (cidr tunnelID : String) (ifIndex : Nat) (metric : Int) :
    (rc.add cidr tunnelID ifIndex metric).1 = (m.add (normalizeCIDR cidr,metric) ⟨tunnelID,ifIndex⟩).1 ∧
    Represents (rc.add cidr tunnelID ifIndex metric).2 (m.add (normalizeCIDR cidr,metric) ⟨tunnelID,ifIndex⟩).2 := by
  have owners (key : RouteKey) : (rc.add cidr tunnelID ifIndex metric).2.ownersOf key =
      (m.add (normalizeCIDR cidr,metric) ⟨tunnelID,ifIndex⟩).2 key := by
    rw [ownersAdd,start.owners]
    simp only [OwnerMap.add,OwnerMap.store]
    split
    · rename_i same
      rw [upsertOwner (start.distinct key),same]
    · rfl
  refine ⟨?_,owners,?_,fun key => owners key ▸ RouteRefs.ownersDistinct _ key⟩
  · have filed : (rc.add cidr tunnelID ifIndex metric).2.get (routeKey cidr metric) =
        withOwner ⟨tunnelID,ifIndex⟩ (m (normalizeCIDR cidr,metric)) := by
      have here := owners (normalizeCIDR cidr,metric)
      simp only [OwnerMap.add,OwnerMap.store,if_true] at here
      exact here
    rw [Bool.eq_iff_iff,RouteRefs.addFirst,filed,OwnerMap.add,decide_eq_true_eq]
  · intro text list found
    simp only [RouteRefs.add,RouteRefs.put] at found
    split at found
    · rename_i same
      exact ⟨(normalizeCIDR cidr,metric),same⟩
    · exact start.keys text list found

theorem representsRemove (cidr tunnelID : String) (metric : Int) :
    (rc.remove cidr tunnelID metric).1 = (m.remove (normalizeCIDR cidr,metric) tunnelID).1 ∧
    Represents (rc.remove cidr tunnelID metric).2 (m.remove (normalizeCIDR cidr,metric) tunnelID).2 := by
  have owners (key : RouteKey) : (rc.remove cidr tunnelID metric).2.ownersOf key =
      (m.remove (normalizeCIDR cidr,metric) tunnelID).2 key := by
    rw [ownersRemove,start.owners]
    simp only [OwnerMap.remove,OwnerMap.store]
    split
    · rename_i same
      rw [withoutFilter (start.distinct key),same]
    · rfl
  refine ⟨?_,owners,?_,fun key => owners key ▸ RouteRefs.ownersDistinct _ key⟩
  · have here := owners (normalizeCIDR cidr,metric)
    simp only [OwnerMap.remove,OwnerMap.store,if_true] at here
    exact (rc.removeRemaining cidr tunnelID metric).trans here
  · intro text list found
    simp only [RouteRefs.remove] at found
    split at found
    · simp only [RouteRefs.put] at found
      split at found
      · rename_i same
        exact ⟨(normalizeCIDR cidr,metric),same⟩
      · exact start.keys text list found
    · exact start.keys text list found

theorem representsCall (c : RouteCall) : (c.onRefs rc).1 = (c.onMap m).1 ∧ Represents (c.onRefs rc).2 (c.onMap m).2 := by
  cases c with
  | add cidr tunnelID ifIndex metric =>
    obtain ⟨same,next⟩ := representsAdd start cidr tunnelID ifIndex metric
    exact ⟨congrArg RouteAnswer.first same,next⟩
  | remove cidr tunnelID metric =>
    obtain ⟨same,next⟩ := representsRemove start cidr tunnelID metric
    exact ⟨congrArg RouteAnswer.remaining same,next⟩

end

theorem ownersRefined (calls : List RouteCall) : (answered RouteCall.onRefs calls .empty).1 = (answered RouteCall.onMap calls .empty).1 ∧
    Represents (answered RouteCall.onRefs calls .empty).2 (answered RouteCall.onMap calls .empty).2 ∧
    (∀ text, (answered RouteCall.onRefs calls .empty).2.owners text ≠ some []) ∧ ∀ (cidr cidr' : String) (metric metric' : Int),
      routeKey cidr metric = routeKey cidr' metric' ↔ normalizeCIDR cidr = normalizeCIDR cidr' ∧ metric = metric' := by
  have fresh : Represents .empty .empty := ⟨fun _ => rfl,fun _ _ found => by simp [RouteRefs.empty] at found,fun _ => nodup_nil⟩
  obtain ⟨same,last⟩ := @answeredRefines _ _ calls _ _ _ RouteCall.onRefs RouteCall.onMap Represents _
    (fun c _ _ start => representsCall start c) fresh
  refine ⟨same,last,RouteRefs.stored _,fun cidr cidr' metric metric' => ⟨keyTextInj,?_⟩⟩
  rintro ⟨nets,rfl⟩
  exact congrArg (keyText · metric) nets

end VpnPack.Wgs2s
