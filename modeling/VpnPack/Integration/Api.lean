import Mathlib.Data.List.Nodup
import VpnPack.Integration.Policies

/-! The Integration API as its callers see it: one site, with zones and policies that
are found or created by name. The client does this where the list it searches is
right about the name; the numbers of the IDs it gives out are its own. -/
namespace VpnPack.Integration
open Base List

structure Api where
  site : Site
  issued : Nat
  deriving DecidableEq, Repr

namespace Api

def ensureZone (ids : Nat → String) (name : String) (a : Api) : Zone × Api :=
  match zoneNamed a.site.zones name with
  | some z => (z,a)
  | none =>
    (⟨ids a.issued,name⟩,⟨{a.site with zones := a.site.zones ++ [⟨ids a.issued,name⟩]},a.issued+1⟩)

def ensureEach (ids : Nat → String) (existing : List Policy) : List CreatePolicyRequest → Nat → List String × List Policy
  | [],_ => ([],[])
  | want :: rest,n =>
    if findExistingPolicy existing want.name ≠ "" then
      (findExistingPolicy existing want.name :: (ensureEach ids existing rest n).1,(ensureEach ids existing rest n).2)
    else (ids n :: (ensureEach ids existing rest (n+1)).1,⟨want,ids n⟩ :: (ensureEach ids existing rest (n+1)).2)

def addPolicies (created : List Policy) (a : Api) : Api :=
  ⟨{a.site with policies := a.site.policies ++ created},a.issued + created.length⟩

def deletePolicy (policyID : String) (a : Api) : Api :=
  {a with site := {a.site with policies := a.site.policies.filter (fun p => p.id != policyID)}}

def deleteZone (zoneID : String) (a : Api) : Api :=
  {a with site := {a.site with zones := a.site.zones.filter (fun z => z.id != zoneID)}}

structure Fresh (ids : Nat → String) (a : Api) : Prop where
  zones : ∀ z ∈ a.site.zones, ∀ n, a.issued ≤ n → z.id ≠ ids n
  policies : ∀ p ∈ a.site.policies, ∀ n, a.issued ≤ n → p.id ≠ ids n

section
variable {ids : Nat → String} {a : Api}

theorem ensureZoneSource (ids : Nat → String) (name : String) (a : Api) :
    (∃ z, zoneNamed a.site.zones name = some z ∧ a.ensureZone ids name = (z,a)) ∨
      zoneNamed a.site.zones name = none ∧ a.ensureZone ids name =
        (⟨ids a.issued,name⟩,⟨{a.site with zones := a.site.zones ++ [⟨ids a.issued,name⟩]},a.issued+1⟩) := by
  unfold ensureZone
  cases found : zoneNamed a.site.zones name with
  | some z => exact .inl ⟨z,rfl,rfl⟩
  | none => exact .inr ⟨rfl,rfl⟩

theorem ensureZoneFresh (inj : Function.Injective ids) (name : String) (fresh : a.Fresh ids) :
    (a.ensureZone ids name).2.Fresh ids ∧ ∀ n, (a.ensureZone ids name).2.issued ≤ n → (a.ensureZone ids name).1.id ≠ ids n := by
  rcases ensureZoneSource ids name a with ⟨z,found,same⟩ | ⟨_,same⟩
  · rw [same]
    exact ⟨fresh,fresh.zones z (zoneNamedSource found).1⟩
  · rw [same]
    have own (n : Nat) (later : a.issued+1 ≤ n) : ids a.issued ≠ ids n := by
      intro equal
      have := inj equal
      omega
    refine ⟨⟨fun z member n later => ?_,fun p member n later => fresh.policies p member n (by dsimp only at later; omega)⟩,own⟩
    rcases mem_append.mp member with old | new
    · exact fresh.zones z old n (by dsimp only at later; omega)
    · cases mem_singleton.mp new
      exact own n later

variable {existing : List Policy} {wants : List CreatePolicyRequest} {n : Nat}

theorem ensureEachID {i : Nat} {p : Policy} (here : (ensureEach ids existing wants n).2[i]? = some p) : p.id = ids (n+i) := by
  induction wants generalizing n i with
  | nil => simp [ensureEach] at here
  | cons want rest ih =>
    simp only [ensureEach] at here
    split at here
    · exact ih here
    · cases i with
      | zero =>
        cases here
        rfl
      | succ i =>
        rw [ih here]
        congr 1
        omega

theorem addPoliciesFresh (inj : Function.Injective ids) (reached : Nat) (fresh : a.Fresh ids) :
    (a.addPolicies ((ensureEach ids existing wants a.issued).2.take reached)).Fresh ids := by
  refine ⟨fun z member n later => fresh.zones z member n (Nat.le_trans (Nat.le_add_right _ _) later),fun p member n later => ?_⟩
  rcases mem_append.mp member with old | new
  · exact fresh.policies p old n (Nat.le_trans (Nat.le_add_right _ _) later)
  · obtain ⟨i,here⟩ := getElem?_of_mem new
    have bound := (List.getElem?_eq_some_iff.mp here).1
    have inside : (ensureEach ids existing wants a.issued).2[i]? = some p := by
      rw [getElem?_take] at here
      split at here
      · exact here
      · contradiction
    rw [ensureEachID inside]
    intro equal
    have := inj equal
    dsimp only [addPolicies] at later
    omega

theorem createdNone : (ensureEach ids existing wants n).2 = [] ↔ ∀ want ∈ wants, findExistingPolicy existing want.name ≠ "" := by
  induction wants generalizing n with
  | nil => simp [ensureEach]
  | cons want rest ih =>
    rw [forall_mem_cons,ensureEach]
    split
    · rename_i found
      rw [ih]
      exact ⟨fun later => ⟨found,later⟩,fun both => both.2⟩
    · rename_i absent
      exact iff_of_false (cons_ne_nil _ _) (fun both => absent both.1)

theorem ensureEachMember {id : String} : id ∈ (ensureEach ids existing wants n).1 ↔
      (∃ want ∈ wants, findExistingPolicy existing want.name ≠ "" ∧ findExistingPolicy existing want.name = id) ∨
        ∃ p ∈ (ensureEach ids existing wants n).2, p.id = id := by
  induction wants generalizing n with
  | nil => simp [ensureEach]
  | cons want rest ih =>
    rw [ensureEach]
    split
    · rename_i found
      rw [mem_cons,ih,exists_mem_cons_iff,or_assoc]
      exact or_congr_left ⟨fun same => ⟨found,same.symm⟩,fun both => both.2.symm⟩
    · rename_i absent
      rw [mem_cons,ih,exists_mem_cons_iff,exists_mem_cons_iff]
      constructor
      · intro either
        rcases either with same | found | made
        · exact .inr (.inl same.symm)
        · exact .inl (.inr found)
        · exact .inr (.inr made)
      · intro either
        rcases either with (own | found) | (same | made)
        · exact absurd own.1 absent
        · exact .inr (.inl found)
        · exact .inl same.symm
        · exact .inr (.inr made)

theorem createdFresh (fresh : a.Fresh ids) {p : Policy}
    (made : p ∈ (ensureEach ids existing wants a.issued).2) : ∀ q ∈ a.site.policies, q.id ≠ p.id := by
  obtain ⟨i,here⟩ := getElem?_of_mem made
  rw [ensureEachID here]
  exact fun q member => fresh.policies q member _ (Nat.le_add_right _ _)

theorem deletePolicyFresh (policyID : String) (fresh : a.Fresh ids) : (a.deletePolicy policyID).Fresh ids :=
  ⟨fresh.zones,fun p member => fresh.policies p (mem_of_mem_filter member)⟩

theorem deleteZoneFresh (zoneID : String) (fresh : a.Fresh ids) : (a.deleteZone zoneID).Fresh ids :=
  ⟨fun z member => fresh.zones z (mem_of_mem_filter member),fresh.policies⟩

end
end Api

end VpnPack.Integration
