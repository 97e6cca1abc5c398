import VpnPack.Integration.Client

/-! What the reading calls of the client return and leave alone. A listing that
returns is the stored list up to the page cap, or the cached one. -/
namespace VpnPack.Integration
open Base List

structure Asked (c d : Client) : Prop where
  sites : d.sites = c.sites
  apiKey : d.apiKey = c.apiKey
  calls : c.calls ≤ d.calls

theorem askedSame (c : Client) : Asked c c := ⟨rfl,rfl,Nat.le_refl _⟩

theorem askedTrans {c d e : Client} (first : Asked c d) (second : Asked d e) : Asked c e :=
  ⟨second.sites.trans first.sites,second.apiKey.trans first.apiKey,Nat.le_trans first.calls second.calls⟩

structure Reliable (world : World) (c : Client) : Prop where
  answers : ∀ n, world.answers n = .ok
  key : c.apiKey ≠ ""

theorem reliableAsked {world : World} {c d : Client} (reliable : Reliable world c) (asked : Asked c d) : Reliable world d :=
  ⟨reliable.answers,asked.apiKey ▸ reliable.key⟩

section
variable {α : Type} {world : World} {c d : Client} {serve : String → Sites → Except GoError α × Sites}

theorem requestOk {a : α} (ran : doRequest world serve c = (.ok a,d)) : (serve (world.ids c.calls) c.sites).1 = .ok a ∧
      d = {c with calls := c.calls+1, sites := (serve (world.ids c.calls) c.sites).2} := by
  simp only [doRequest] at ran
  split at ran
  · simp at ran
  · split at ran
    · simp at ran
    · simp at ran
    · exact ⟨congrArg Prod.fst ran,(congrArg Prod.snd ran).symm⟩

theorem requestFailed {e : GoError} (ran : doRequest world serve c = (.error e,d)) : d.apiKey = c.apiKey ∧ c.calls ≤ d.calls ∧
      (d.sites = c.sites ∨ d.sites = (serve (world.ids c.calls) c.sites).2 ∧ c.calls < d.calls) := by
  simp only [doRequest] at ran
  split at ran
  · cases ran
    exact ⟨rfl,Nat.le_refl _,.inl rfl⟩
  · split at ran
    · cases ran
      exact ⟨rfl,Nat.le_succ _,.inl rfl⟩
    · cases ran
      exact ⟨rfl,Nat.le_succ _,.inr ⟨rfl,Nat.lt_succ_self _⟩⟩
    · rw [← (Prod.mk.inj ran).2]
      exact ⟨rfl,Nat.le_succ _,.inr ⟨rfl,Nat.lt_succ_self _⟩⟩

theorem requestAnswered (reliable : Reliable world c) : doRequest world serve c =
      ((serve (world.ids c.calls) c.sites).1,{c with calls := c.calls+1, sites := (serve (world.ids c.calls) c.sites).2}) := by
  simp only [doRequest,if_neg reliable.key,reliable.answers]

end

section
variable {α : Type} {world : World} {c d : Client} {select : Sites → List α} {r : Except GoError (List α)}

variable {pages offset : Nat}

theorem getPageAsked {page : Except GoError (Page α)} (ran : getPage world select offset c = (page,d)) : Asked c d := by
  cases page with
  | error e =>
    obtain ⟨key,calls,sites | ⟨sites,_⟩⟩ := requestFailed ran
    · exact ⟨sites,key,calls⟩
    · exact ⟨sites,key,calls⟩
  | ok page =>
    obtain ⟨_,final⟩ := requestOk ran
    rw [final]
    exact ⟨rfl,rfl,Nat.le_succ _⟩

theorem getPageOk {page : Page α} (ran : getPage world select offset c = (.ok page,d)) :
    page = ⟨((select c.sites).drop offset).take paginationLimit,if world.totals then (select c.sites).length else 0⟩ :=
  (Except.ok.inj (requestOk ran).1).symm

theorem listFromSource (ran : listFrom world select pages offset ((select c.sites).take offset) c = (r,d)) :
    Asked c d ∧ ∀ items, r = .ok items → items = (select c.sites).take (offset + pages * paginationLimit) := by
  induction pages generalizing offset c with
  | zero =>
    cases ran
    refine ⟨askedSame _,fun items same => ?_⟩
    rw [← Except.ok.inj same,Nat.zero_mul,Nat.add_zero]
  | succ pages ih =>
    simp only [listFrom] at ran
    split at ran
    · rename_i e d' asked
      cases ran
      exact ⟨getPageAsked asked,fun _ bad => (by cases bad)⟩
    · rename_i page d' asked
      have frame := getPageAsked asked
      have data := getPageOk asked
      have grown : (select c.sites).take offset ++ page.data = (select c.sites).take (offset + paginationLimit) := by
        rw [data,take_add]
      have whole (beyond : (select c.sites).length ≤ offset + paginationLimit) :
          (select c.sites).take (offset + paginationLimit) = (select c.sites).take (offset + (pages+1) * paginationLimit) := by
        rw [take_of_length_le beyond,take_of_length_le]
        rw [Nat.succ_mul]
        omega
      rw [grown] at ran
      split at ran
      · rename_i short
        cases ran
        refine ⟨frame,fun items same => ?_⟩
        rw [← Except.ok.inj same]
        refine whole ?_
        rw [data,length_take,length_drop] at short
        omega
      · split at ran
        · rename_i total
          cases ran
          refine ⟨frame,fun items same => ?_⟩
          rw [← Except.ok.inj same]
          rw [data] at total
          simp only [length_take] at total
          by_cases beyond : (select c.sites).length ≤ offset + paginationLimit
          · exact whole beyond
          · split at total <;> omega
        · rw [← frame.sites] at ran
          obtain ⟨later,result⟩ := ih ran
          refine ⟨askedTrans frame later,fun items same => ?_⟩
          rw [result items same,frame.sites,Nat.succ_mul]
          congr 1
          omega

def pageCap : Nat := maxListPages * paginationLimit

theorem listSource (ran : doListRequest world select c = (r,d)) :
    Asked c d ∧ ∀ items, r = .ok items → items = (select c.sites).take pageCap := by
  obtain ⟨asked,items⟩ := @listFromSource _ world c d select r maxListPages 0 ran
  refine ⟨asked,fun list same => ?_⟩
  rw [items list same,Nat.zero_add]
  rfl

theorem listFromAnswered {items : List α} (reliable : Reliable world c) :
    ∃ list d, listFrom world select pages offset items c = (.ok list,d) := by
  induction pages generalizing offset items c with
  | zero => exact ⟨items,c,rfl⟩
  | succ pages ih =>
    obtain ⟨page,d,asked,still⟩ : ∃ page d, getPage world select offset c = (.ok page,d) ∧ Reliable world d :=
      ⟨_,_,requestAnswered reliable,⟨reliable.answers,reliable.key⟩⟩
    simp only [listFrom,asked]
    split
    · exact ⟨_,_,rfl⟩
    · split
      · exact ⟨_,_,rfl⟩
      · exact ih still

end

def listing (world : World) (siteID : String) (c : Client) : List Zone :=
  if cached world siteID c then c.zonesCache else (c.sites siteID).zones.take pageCap

section
variable {world : World} {siteID : String} {c d : Client}

theorem listZonesSource {r : Except GoError (List Zone)} (ran : ListZones world siteID c = (r,d)) :
    Asked c d ∧ ∀ zones, r = .ok zones → zones = listing world siteID c := by
  unfold ListZones at ran
  unfold listing
  split at ran
  · rename_i hit
    cases ran
    refine ⟨⟨rfl,rfl,Nat.le_refl _⟩,fun zones same => ?_⟩
    rw [if_pos hit,← Except.ok.inj same]
  · rename_i miss
    rw [if_neg miss]
    split at ran
    · rename_i e d' listed
      cases ran
      obtain ⟨asked,_⟩ := listSource listed
      exact ⟨⟨asked.sites,asked.apiKey,asked.calls⟩,fun _ bad => (by cases bad)⟩
    · rename_i zones d' listed
      cases ran
      obtain ⟨asked,items⟩ := listSource listed
      refine ⟨⟨asked.sites,asked.apiKey,asked.calls⟩,fun list same => ?_⟩
      rw [← Except.ok.inj same]
      exact items zones rfl

theorem listZonesAnswered (reliable : Reliable world c) : ∃ d, ListZones world siteID c = (.ok (listing world siteID c),d) ∧ Asked c d := by
  rcases ran : ListZones world siteID c with ⟨r,d⟩
  obtain ⟨asked,zones⟩ := listZonesSource ran
  cases r with
  | ok list => exact ⟨d,by rw [zones list rfl],asked⟩
  | error e =>
    obtain ⟨list,d',listed⟩ := @listFromAnswered _ world {c with readings := c.readings+1}
      (fun sites => (sites siteID).zones) maxListPages 0 [] ⟨reliable.answers,reliable.key⟩
    simp only [ListZones,doListRequest,listed] at ran
    split at ran <;> simp at ran

theorem findZoneAnswered {name : String} (reliable : Reliable world c) :
    ∃ d, findZoneByName world siteID name c = (.ok (zoneNamed (listing world siteID c) name),d) ∧ Asked c d := by
  obtain ⟨d,listed,asked⟩ := @listZonesAnswered world siteID c reliable
  exact ⟨d,by simp only [findZoneByName,listed],asked⟩

end
end VpnPack.Integration
