import VpnPack.Udapi.Sets

/-! Entries put into an ipset at once and one by one. EnsureZoneSubnets compares every text
with the entries the set had before the call, EnsureZoneSubnet with those it has after the
texts before it. -/
namespace VpnPack.Udapi
open Base List

def insertEach (entries cidrs : List String) : List String :=
  cidrs.foldl (fun entries cidr => if cidr ∈ entries then entries else entries ++ [cidr]) entries

def missing (entries cidrs : List String) : List String := cidrs.filter (fun cidr => decide (cidr ∉ entries))

theorem insertEachCons (entries : List String) (cidr : String) (cidrs : List String) :
    insertEach entries (cidr :: cidrs) = insertEach (if cidr ∈ entries then entries else entries ++ [cidr]) cidrs := rfl

theorem insertEachAdded (entries cidrs : List String) :
    ∃ added, insertEach entries cidrs = entries ++ added ∧ added.Nodup ∧ ∀ cidr ∈ added, cidr ∉ entries := by
  induction cidrs generalizing entries with
  | nil => exact ⟨[],(append_nil entries).symm,nodup_nil,by simp⟩
  | cons cidr cidrs ih =>
    rw [insertEachCons]
    by_cases old : cidr ∈ entries
    · rw [if_pos old]
      exact ih entries
    · rw [if_neg old]
      obtain ⟨added,whole,distinct,fresh⟩ := ih (entries ++ [cidr])
      refine ⟨cidr :: added,by rw [whole,append_assoc,singleton_append],?_,?_⟩
      · refine nodup_cons.mpr ⟨fun again => ?_,distinct⟩
        exact fresh cidr again (mem_append_right _ mem_cons_self)
      · intro c member
        rcases mem_cons.mp member with rfl | later
        · exact old
        · exact fun before => fresh c later (mem_append_left _ before)

variable {entries cidrs : List String} {cidr : String}

theorem missingOld (old : cidr ∈ entries) : missing entries (cidr :: cidrs) = missing entries cidrs :=
  filter_cons_of_neg (by simp [old])

theorem missingNew (new : cidr ∉ entries) : missing entries (cidr :: cidrs) = cidr :: missing entries cidrs :=
  filter_cons_of_pos (by simp [new])

theorem missingAppend (once : cidr ∉ missing entries cidrs) : missing (entries ++ [cidr]) cidrs = missing entries cidrs := by
  refine filter_congr ?_
  intro c member
  simp only [mem_append,mem_singleton,not_or,decide_eq_decide,and_iff_left_iff_imp]
  rintro new rfl
  exact once (mem_filter.mpr ⟨member,decide_eq_true new⟩)

theorem insertEachDistinct (distinct : (missing entries cidrs).Nodup) : insertEach entries cidrs = entries ++ missing entries cidrs := by
  induction cidrs generalizing entries with
  | nil => exact (append_nil entries).symm
  | cons cidr cidrs ih =>
    rw [insertEachCons]
    by_cases old : cidr ∈ entries
    · rw [missingOld old] at distinct ⊢
      rw [if_pos old]
      exact ih distinct
    · rw [missingNew old] at distinct ⊢
      obtain ⟨once,rest⟩ := nodup_cons.mp distinct
      have same := missingAppend once
      rw [if_neg old,ih (same ▸ rest),same,append_assoc,singleton_append]

theorem insertEachIff : entries ++ missing entries cidrs = insertEach entries cidrs ↔ (missing entries cidrs).Nodup := by
  constructor
  · intro same
    obtain ⟨added,whole,distinct,-⟩ := insertEachAdded entries cidrs
    rw [whole] at same
    rwa [append_cancel_left same]
  · exact fun distinct => (insertEachDistinct distinct).symm

theorem missingNodup (set_ : entries.Nodup) (distinct : (missing entries cidrs).Nodup) : (entries ++ missing entries cidrs).Nodup := by
  refine nodup_append'.mpr ⟨set_,distinct,?_⟩
  intro cidr before added
  exact of_decide_eq_true (mem_filter.mp added).2 before

section
variable {link other : Link} {ipsetName cidr : String} {cidrs entries : List String} {u v w : Config}

theorem ensureSubnetSource (ran : EnsureZoneSubnet link ipsetName cidr u = (none,v)) : ∃ entries, u.sets.lookup ipsetName = some entries ∧
      SetTo ipsetName (some (if cidr ∈ entries then entries else entries ++ [cidr])) u v := by
  simp only [EnsureZoneSubnet] at ran
  split at ran
  · simp at ran
  · simp at ran
  · rename_i entries w asked
    obtain ⟨found,sets,rules⟩ := findSource asked
    refine ⟨entries,found.symm,?_⟩
    split at ran
    · rename_i old
      cases ran
      rw [if_pos old,found]
      exact setToSame sets rules
    · rename_i new
      rw [if_neg new]
      exact setToFound sets rules (putSource ran)

theorem ensureEachSource (there : u.sets.lookup ipsetName = some entries)
    (ran : forEach (EnsureZoneSubnet link ipsetName) cidrs u = (none,v)) : v.sets.lookup ipsetName = some (insertEach entries cidrs) := by
  induction cidrs generalizing u entries with
  | nil =>
    cases ran
    exact there
  | cons cidr cidrs ih =>
    obtain ⟨w,first,rest⟩ := seqSource ran
    obtain ⟨before,found,after⟩ := ensureSubnetSource first
    cases there.symm.trans found
    exact ih after.here rest

theorem ensureBatchSource (there : u.sets.lookup ipsetName = some entries) (ran : EnsureZoneSubnets link ipsetName cidrs u = (none,v)) :
    v.sets.lookup ipsetName = some (entries ++ missing entries cidrs) := by
  rcases ensureSubnetsSource ran with ⟨rfl,rfl⟩ | ⟨before,found,after⟩
  · rw [there]
    exact congrArg some (append_nil entries).symm
  · cases there.symm.trans found
    exact after.here

theorem batchEqualsEach (there : u.sets.lookup ipsetName = some entries) (batch : EnsureZoneSubnets link ipsetName cidrs u = (none,v))
    (each : forEach (EnsureZoneSubnet other ipsetName) cidrs u = (none,w)) : (v.sets.lookup ipsetName = w.sets.lookup ipsetName ∧
        (entries.Nodup → ∀ after, v.sets.lookup ipsetName = some after → after.Nodup)) ↔
      (cidrs.filter (fun cidr => decide (cidr ∉ entries))).Nodup := by
  rw [ensureBatchSource there batch,ensureEachSource there each,Option.some.injEq,insertEachIff]
  refine and_iff_left_of_imp ?_
  intro distinct set_ after shown
  cases shown
  exact missingNodup set_ distinct

end

def emptySet : Config := ⟨fun _ => [],1,AList.singleton "VPN_subnets" [],0⟩

theorem batchEqualsEachTwo :
    ((EnsureZoneSubnets (fun _ => none) "VPN_subnets" ["10.1.0.0/16","10.2.0.0/16"] emptySet).2.sets.lookup "VPN_subnets" =
        (forEach (EnsureZoneSubnet (fun _ => none) "VPN_subnets") ["10.1.0.0/16","10.2.0.0/16"] emptySet).2.sets.lookup "VPN_subnets" ∧
      (([] : List String).Nodup → ∀ after,
        (EnsureZoneSubnets (fun _ => none) "VPN_subnets" ["10.1.0.0/16","10.2.0.0/16"] emptySet).2.sets.lookup "VPN_subnets" =
          some after → after.Nodup)) ↔ (["10.1.0.0/16","10.2.0.0/16"].filter (fun cidr => decide (cidr ∉ ([] : List String)))).Nodup :=
  @batchEqualsEach (fun _ => none) (fun _ => none) "VPN_subnets" ["10.1.0.0/16","10.2.0.0/16"] [] emptySet _ _ rfl rfl rfl

theorem batchRepeats :
    (EnsureZoneSubnets (fun _ => none) "VPN_subnets" ["10.1.0.0/16","10.1.0.0/16"] emptySet).2.sets.lookup "VPN_subnets" =
        some ["10.1.0.0/16","10.1.0.0/16"] ∧
      (forEach (EnsureZoneSubnet (fun _ => none) "VPN_subnets") ["10.1.0.0/16","10.1.0.0/16"] emptySet).2.sets.lookup "VPN_subnets" =
        some ["10.1.0.0/16"] := ⟨rfl,rfl⟩

end VpnPack.Udapi
