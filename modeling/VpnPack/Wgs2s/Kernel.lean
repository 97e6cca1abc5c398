import VpnPack.Wgs2s.RouteRefs

/-! The kernel side the tunnel manager drives: WireGuard links with their settings
and the main routing table as a map from (network text, priority) to an
out-interface. Link names and indexes are distinct and an index is never reused;
these are fields. Traffic and handshakes are not modelled. -/
namespace VpnPack.Wgs2s
open List Net

structure Peer where
  publicKey : String
  endpoint : Option String
  allowedIPs : List Prefix
  keepalive : Option Int
  deriving DecidableEq, Repr

structure Settings where
  mtu : Nat
  privateKey : Option String
  listenPort : Int
  peers : List Peer
  addresses : List (Addr × Nat)
  up : Bool
  deriving DecidableEq, Repr

def freshSettings : Settings := ⟨1420,none,0,[],[],false⟩

structure Link where
  name : String
  index : Nat
  settings : Settings
  deriving DecidableEq, Repr

structure RouteMessage where
  dst : Prefix
  outIface : Nat
  priority : Nat
  deriving DecidableEq, Repr

-- The kernel tells routes apart by destination and priority, not by out-interface.
def RouteMessage.key (msg : RouteMessage) : String × Nat := (String.ofList (ipNetText msg.dst),msg.priority)

structure Kernel where
  links : List Link
  nextIndex : Nat
  routes : String × Nat → Option Nat
  names : (links.map Link.name).Nodup
  indexes : (links.map Link.index).Nodup
  bounded : ∀ l ∈ links, l.index < nextIndex

namespace Kernel

def empty : Kernel := ⟨[],1,fun _ => none,by simp,by simp,by simp⟩
def find (k : Kernel) (name : String) : Option Link := k.links.find? (fun l => l.name = name)

-- getInterfaceIndex
def lookup (k : Kernel) (name : String) : Option Nat := (k.find name).map Link.index

theorem linkInjective {β : Type} {f : Link → β} {links : List Link} (distinct : (links.map f).Nodup) {l l' : Link}
    (first : l ∈ links) (second : l' ∈ links) (same : f l = f l') : l = l' :=
  inj_on_of_nodup_map distinct first second same

variable {k : Kernel} {name : String} {i : Nat}

theorem findSource {l : Link} : k.find name = some l ↔ l ∈ k.links ∧ l.name = name := by
  constructor
  · intro found
    exact ⟨mem_of_find?_eq_some found,by simpa using find?_some found⟩
  · rintro ⟨member,named⟩
    cases found : k.find name with
    | none =>
      have := find?_eq_none.mp found l member
      simp [named] at this
    | some other =>
      have source : other ∈ k.links ∧ other.name = name := ⟨mem_of_find?_eq_some found,by simpa using find?_some found⟩
      rw [linkInjective k.names source.1 member (source.2.trans named.symm)]

theorem lookupSource : k.lookup name = some i ↔ ∃ l, k.find name = some l ∧ l.index = i := by
  simp [lookup]

theorem lookupNone : k.lookup name = none ↔ k.find name = none := by
  simp [lookup]

theorem lookupInj {a b : String} (left : k.lookup a = some i) (right : k.lookup b = some i) : a = b := by
  obtain ⟨l,foundL,rfl⟩ := lookupSource.mp left
  obtain ⟨l',foundR,same⟩ := lookupSource.mp right
  obtain ⟨memberL,rfl⟩ := findSource.mp foundL
  obtain ⟨memberR,rfl⟩ := findSource.mp foundR
  rw [linkInjective k.indexes memberL memberR same.symm]

theorem lookupBelow (found : k.lookup name = some i) : i < k.nextIndex := by
  obtain ⟨l,present,rfl⟩ := lookupSource.mp found
  exact k.bounded l (findSource.mp present).1

def hasIndex (k : Kernel) (i : Nat) : Bool := k.links.any (fun l => l.index = i)

theorem hasIndexOfLookup (found : k.lookup name = some i) : k.hasIndex i = true := by
  obtain ⟨l,present,rfl⟩ := lookupSource.mp found
  simp only [hasIndex,any_eq_true,decide_eq_true_eq]
  exact ⟨l,(findSource.mp present).1,rfl⟩

-- RTM_DELLINK; the routes through the link go with it.
def deleteLink (k : Kernel) (i : Nat) : Kernel where
  links := k.links.filter (fun l => l.index ≠ i)
  nextIndex := k.nextIndex
  routes key := if k.routes key = some i then none else k.routes key
  names := List.Nodup.sublist (List.Sublist.map _ filter_sublist) k.names
  indexes := List.Nodup.sublist (List.Sublist.map _ filter_sublist) k.indexes
  bounded l member := k.bounded l (mem_of_mem_filter member)

theorem findDelete (k : Kernel) (i : Nat) (name : String) : (k.deleteLink i).find name = (k.find name).filter (fun l => l.index ≠ i) := by
  apply Option.ext
  intro l
  rw [Option.filter_eq_some_iff,findSource,findSource]
  simp only [deleteLink,mem_filter]
  constructor
  · rintro ⟨⟨member,kept⟩,named⟩
    exact ⟨⟨member,named⟩,kept⟩
  · rintro ⟨⟨member,named⟩,kept⟩
    exact ⟨⟨member,kept⟩,named⟩

theorem findDeleteOther (other : k.lookup name ≠ some i) : (k.deleteLink i).find name = k.find name := by
  rw [findDelete]
  cases found : k.find name with
  | none => rfl
  | some l =>
    have differs : l.index ≠ i := fun same => other (lookupSource.mpr ⟨l,found,same⟩)
    simp [Option.filter,differs]

theorem findDeleteSelf (here : k.lookup name = some i) : (k.deleteLink i).find name = none := by
  obtain ⟨l,found,rfl⟩ := lookupSource.mp here
  simp [findDelete,found,Option.filter]

-- RTM_NEWLINK; a name in use is EEXIST.
def newLink (k : Kernel) (name : String) : Option Kernel :=
  if free : name ∉ k.links.map Link.name then
    some {
      links := k.links ++ [⟨name,k.nextIndex,freshSettings⟩]
      nextIndex := k.nextIndex+1
      routes := k.routes
      names := by
        rw [map_append,nodup_append]
        refine ⟨k.names,by simp,?_⟩
        intro a member b new
        simp only [map_cons,map_nil,mem_singleton] at new
        rintro rfl
        exact free (new ▸ member)
      indexes := by
        rw [map_append,nodup_append]
        refine ⟨k.indexes,by simp,?_⟩
        intro a member b new
        obtain ⟨l,inside,rfl⟩ := mem_map.mp member
        simp only [map_cons,map_nil,mem_singleton] at new
        have := k.bounded l inside
        omega
      bounded := by
        intro l member
        rcases mem_append.mp member with old | new
        · have := k.bounded l old
          omega
        · have : l = ⟨name,k.nextIndex,freshSettings⟩ := by simpa using new
          simp [this] }
  else none

theorem newLinkSource {k' : Kernel} (made : k.newLink name = some k') :
    k.find name = none ∧ k'.routes = k.routes ∧ k'.nextIndex = k.nextIndex+1 ∧
      ∀ n, k'.find n = if n = name then some ⟨name,k.nextIndex,freshSettings⟩ else k.find n := by
  simp only [newLink] at made
  split at made <;> try contradiction
  rename_i free
  cases made
  have absent : k.find name = none := by
    rw [find,find?_eq_none]
    intro l member named
    exact free (mem_map.mpr ⟨l,member,by simpa using named⟩)
  refine ⟨absent,rfl,rfl,?_⟩
  intro n
  simp only [find,find?_append]
  split
  · rename_i same
    subst same
    rw [show k.links.find? (fun l => l.name = n) = none from absent]
    simp
  · rename_i differs
    have : List.find? (fun l : Link => decide (l.name = n)) [⟨name,k.nextIndex,freshSettings⟩] = none := by
      simp [Ne.symm differs]
    rw [this,Option.or_none]

theorem newLinkFree (free : k.find name = none) : ∃ k', k.newLink name = some k' := by
  have unused : name ∉ k.links.map Link.name := by
    intro member
    obtain ⟨l,inside,named⟩ := mem_map.mp member
    rw [findSource.mpr ⟨inside,named⟩] at free
    contradiction
  exact ⟨_,by rw [newLink,dif_pos unused]⟩

-- RTM_SETLINK, RTM_NEWADDR and the WireGuard netlink family change a link in place.
def adjust (k : Kernel) (which : Link → Bool) (f : Settings → Settings) : Kernel where
  links := k.links.map (fun l => if which l then {l with settings := f l.settings} else l)
  nextIndex := k.nextIndex
  routes := k.routes
  names := by
    have same : (k.links.map (fun l => if which l then {l with settings := f l.settings} else l)).map Link.name =
        k.links.map Link.name := by
      rw [map_map]
      refine map_congr_left (fun l _ => ?_)
      simp only [Function.comp]
      split <;> rfl
    rw [same]
    exact k.names
  indexes := by
    have same : (k.links.map (fun l => if which l then {l with settings := f l.settings} else l)).map Link.index =
        k.links.map Link.index := by
      rw [map_map]
      refine map_congr_left (fun l _ => ?_)
      simp only [Function.comp]
      split <;> rfl
    rw [same]
    exact k.indexes
  bounded := by
    intro l member
    obtain ⟨old,inside,rfl⟩ := mem_map.mp member
    have := k.bounded old inside
    split <;> exact this

theorem findAdjust (k : Kernel) (which : Link → Bool) (f : Settings → Settings) (name : String) : (k.adjust which f).find name =
      (k.find name).map (fun l => if which l then {l with settings := f l.settings} else l) := by
  simp only [find,adjust,find?_map]
  congr 2
  funext l
  simp only [Function.comp]
  split <;> rfl

theorem lookupAdjust (k : Kernel) (which : Link → Bool) (f : Settings → Settings) (name : String) :
    (k.adjust which f).lookup name = k.lookup name := by
  simp only [lookup,findAdjust,Option.map_map]
  congr 1
  funext l
  simp only [Function.comp]
  split <;> rfl

def setRoute (k : Kernel) (key : String × Nat) (via : Option Nat) : Kernel :=
  {k with routes := fun p => if p = key then via else k.routes p}

end Kernel
end VpnPack.Wgs2s
