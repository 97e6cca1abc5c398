import VpnPack.Udapi.Rules

/-! The ipsets of the UDAPI configuration. An update reads the sets, changes the entries
of one and puts them back; entries are compared as the texts they are. -/
namespace VpnPack.Udapi
open Base

def findIPSet (link : Link) (ipsetName : String) (u : Config) : Except GoError (Option (List String)) × Config :=
  match request link id u with
  | (some e,v) => (.error (.wrap "get firewall sets" e),v)
  | (none,v) => (.ok (v.sets.lookup ipsetName),v)

def putEntries (ipsetName : String) (entries : List String) (u : Config) : Config :=
  {u with sets := u.sets.insert ipsetName entries}

def putSet (link : Link) (ipsetName : String) (entries : List String) : Proc Config :=
  wrapping ("update " ++ ipsetName) (request link (putEntries ipsetName entries))

def ipsetNotFound (ipsetName : String) : GoError := .new (ipsetName ++ " ipset not found")

def EnsureZoneSubnet (link : Link) (ipsetName cidr : String) : Proc Config := fun u =>
  match findIPSet link ipsetName u with
  | (.error e,v) => (some e,v)
  | (.ok none,v) => (some (ipsetNotFound ipsetName),v)
  | (.ok (some entries),v) => if cidr ∈ entries then (none,v) else putSet link ipsetName (entries ++ [cidr]) v

-- A text that occurs twice in cidrs and not in the set is appended twice.
def EnsureZoneSubnets (link : Link) (ipsetName : String) (cidrs : List String) : Proc Config := fun u =>
  if cidrs.length = 0 then (none,u)
  else
    match findIPSet link ipsetName u with
    | (.error e,v) => (some e,v)
    | (.ok none,v) => (some (ipsetNotFound ipsetName),v)
    | (.ok (some entries),v) =>
      let added := cidrs.filter (fun cidr => decide (cidr ∉ entries))
      if added = [] then (none,v) else putSet link ipsetName (entries ++ added) v

def RemoveZoneSubnet (link : Link) (ipsetName cidr : String) : Proc Config := fun u =>
  match findIPSet link ipsetName u with
  | (.error e,v) => (some e,v)
  | (.ok none,v) => (none,v)
  | (.ok (some entries),v) =>
    let filtered := entries.filter (fun entry => entry != cidr)
    if filtered.length = entries.length then (none,v) else putSet link ipsetName filtered v

section
variable {link : Link} {ipsetName cidr : String} {cidrs : List String} {u v : Config}

structure SetTo (ipsetName : String) (entries : Option (List String)) (u v : Config) : Prop where
  rules : v.rules = u.rules
  here : v.sets.lookup ipsetName = entries
  others : ∀ name, name ≠ ipsetName → v.sets.lookup name = u.sets.lookup name

theorem setToSame (sets : v.sets = u.sets) (rules : v.rules = u.rules) : SetTo ipsetName (u.sets.lookup ipsetName) u v :=
  ⟨rules,by rw [sets],fun _ _ => by rw [sets]⟩

theorem findSource {found : Option (List String)} (ran : findIPSet link ipsetName u = (.ok found,v)) :
    found = u.sets.lookup ipsetName ∧ v.sets = u.sets ∧ v.rules = u.rules := by
  simp only [findIPSet] at ran
  rcases asked : request link id u with ⟨err,w⟩
  rw [asked] at ran
  cases err with
  | some e => simp at ran
  | none =>
    have listed := requestDone asked
    subst listed
    cases ran
    exact ⟨rfl,rfl,rfl⟩

theorem putSource {entries : List String} (ran : putSet link ipsetName entries u = (none,v)) : SetTo ipsetName (some entries) u v := by
  have put := requestDone (wrappingOk.mp ran)
  subst put
  exact ⟨rfl,AList.lookup_insert _,fun _ other => AList.lookup_insert_ne other⟩

theorem setToFound {entries : Option (List String)} {w : Config} (sets : w.sets = u.sets) (rules : w.rules = u.rules)
    (next : SetTo ipsetName entries w v) : SetTo ipsetName entries u v :=
  ⟨next.rules.trans rules,next.here,fun name other => by rw [next.others name other,sets]⟩

theorem ensureSubnetsSource (ran : EnsureZoneSubnets link ipsetName cidrs u = (none,v)) :
    cidrs = [] ∧ v = u ∨ ∃ entries, u.sets.lookup ipsetName = some entries ∧
      SetTo ipsetName (some (entries ++ cidrs.filter (fun cidr => decide (cidr ∉ entries)))) u v := by
  simp only [EnsureZoneSubnets] at ran
  split at ran
  · rename_i empty
    cases ran
    exact .inl ⟨List.length_eq_zero_iff.mp empty,rfl⟩
  · split at ran
    · simp at ran
    · simp at ran
    · rename_i entries w asked
      obtain ⟨found,sets,rules⟩ := findSource asked
      refine .inr ⟨entries,found.symm,?_⟩
      split at ran
      · rename_i nothing
        cases ran
        rw [nothing,List.append_nil,found]
        exact setToSame sets rules
      · exact setToFound sets rules (putSource ran)

theorem removeSubnetSource (ran : RemoveZoneSubnet link ipsetName cidr u = (none,v)) :
    SetTo ipsetName ((u.sets.lookup ipsetName).map (fun entries => entries.filter (fun entry => entry != cidr))) u v := by
  simp only [RemoveZoneSubnet] at ran
  split at ran
  · simp at ran
  · rename_i w asked
    obtain ⟨found,sets,rules⟩ := findSource asked
    cases ran
    rw [← found,Option.map_none,found]
    exact setToSame sets rules
  · rename_i entries w asked
    obtain ⟨found,sets,rules⟩ := findSource asked
    rw [← found,Option.map_some]
    split at ran
    · rename_i full
      cases ran
      rw [List.filter_eq_self.mpr (List.length_filter_eq_length_iff.mp full),found]
      exact setToSame sets rules
    · exact setToFound sets rules (putSource ran)

theorem removeSubnetAnswered (answering : Answering link) (ipsetName cidr : String) (u : Config) :
    (RemoveZoneSubnet link ipsetName cidr u).1 = none := by
  simp only [RemoveZoneSubnet,findIPSet,requestAnswered answering,id_eq]
  split
  · rename_i bad
    simp at bad
  · rfl
  · split
    · rfl
    · simp [putSet,wrapping,requestAnswered answering]

end
end VpnPack.Udapi
