import Mathlib.Data.List.AList

/-! One directory of a disk that can stop. A change of the names is atomic, and lasts from
the next sync of the directory on; the bytes of a node last from the next sync of the node
on. Until then a crash keeps any of the changes and any front part of the bytes. -/
namespace VpnPack.Base

abbrev Names := AList (fun _ : String => Nat)

structure Node where
  data : List UInt8
  lasting : Nat
  directory : Bool
  deriving DecidableEq, Repr

inductive Rebinding where
  | link (name : String) (node : Nat)
  | move (old new : String) (node : Nat)
  | unlink (name : String)
  deriving DecidableEq, Repr

def Rebinding.apply : Rebinding → Names → Names
  | .link name node,names => names.insert name node
  | .move old new node,names => (names.erase old).insert new node
  | .unlink name,names => names.erase name

def Rebinding.Touches : Rebinding → String → Prop
  | .link name _,x => x = name
  | .move old new _,x => x = old ∨ x = new
  | .unlink name,x => x = name

def rebound (changes : List Rebinding) (names : Names) : Names := changes.foldl (fun names c => c.apply names) names

structure Volume where
  names : Names
  pending : List Rebinding
  nodes : Nat → Node
  fresh : Nat

namespace Volume

def current (v : Volume) : Names := rebound v.pending v.names
def read (v : Volume) (name : String) : Option (List UInt8) := (v.current.lookup name).map (fun node => (v.nodes node).data)

def create (name : String) (v : Volume) : Volume :=
  {v with pending := v.pending ++ [.link name v.fresh], nodes := Function.update v.nodes v.fresh ⟨[],0,false⟩, fresh := v.fresh+1}

def write (node : Nat) (bytes : List UInt8) (v : Volume) : Volume :=
  {v with nodes := Function.update v.nodes node {v.nodes node with data := (v.nodes node).data ++ bytes}}

def syncNode (node : Nat) (v : Volume) : Volume :=
  {v with nodes := Function.update v.nodes node {v.nodes node with lasting := (v.nodes node).data.length}}

def rename (old new : String) (node : Nat) (v : Volume) : Volume := {v with pending := v.pending ++ [.move old new node]}
def unlink (name : String) (v : Volume) : Volume := {v with pending := v.pending ++ [.unlink name]}
def syncNames (v : Volume) : Volume := {v with names := v.current, pending := []}

structure Quiet (v : Volume) : Prop where
  pending : v.pending = []
  known : ∀ name node, v.names.lookup name = some node → node < v.fresh
  lasting : ∀ name node, v.names.lookup name = some node → (v.nodes node).lasting = (v.nodes node).data.length

structure Crashed (v c : Volume) : Prop where
  names : ∃ kept, kept.Sublist v.pending ∧ c.names = rebound kept v.names
  pending : c.pending = []
  nodes : ∀ node, ∃ n, (v.nodes node).lasting ≤ n ∧ (c.nodes node).data = (v.nodes node).data.take n
  kinds : ∀ node, (c.nodes node).directory = (v.nodes node).directory

end Volume

section
variable {name : String} {changes : List Rebinding} {names : Names}

theorem reboundAppend (first second : List Rebinding) (names : Names) : rebound (first ++ second) names = rebound second (rebound first names) :=
  List.foldl_append

theorem applyOther {c : Rebinding} (other : ¬ c.Touches name) : (c.apply names).lookup name = names.lookup name := by
  cases c with
  | link linked node => exact AList.lookup_insert_ne other
  | move old new node =>
    simp only [Rebinding.Touches,not_or] at other
    exact (AList.lookup_insert_ne other.2).trans (AList.lookup_erase_ne other.1)
  | unlink gone => exact AList.lookup_erase_ne other

theorem reboundOther (others : ∀ c ∈ changes, ¬ c.Touches name) : (rebound changes names).lookup name = names.lookup name := by
  induction changes generalizing names with
  | nil => rfl
  | cons c rest ih =>
    have later := @ih (c.apply names) (fun d member => others d (List.mem_cons_of_mem c member))
    exact later.trans (applyOther (others c List.mem_cons_self))

end
section
variable {v c : Volume} {name : String} {node : Nat}

theorem crashedRead (crashed : v.Crashed c) : c.read name = (c.names.lookup name).map (fun node => (c.nodes node).data) := by
  rw [Volume.read,Volume.current,crashed.pending]
  rfl

theorem crashedWhole (crashed : v.Crashed c) (lasting : (v.nodes node).lasting = (v.nodes node).data.length) :
    (c.nodes node).data = (v.nodes node).data := by
  obtain ⟨n,least,data⟩ := crashed.nodes node
  rw [data,List.take_of_length_le (by omega)]

theorem crashedAsSeen (v : Volume) : ∃ c, v.Crashed c ∧ ∀ name, c.read name = v.read name := by
  refine ⟨{v with names := v.current, pending := []},⟨⟨v.pending,List.Sublist.refl _,rfl⟩,rfl,fun node => ?_,fun _ => rfl⟩,fun _ => rfl⟩
  refine ⟨max (v.nodes node).lasting (v.nodes node).data.length,le_max_left _ _,?_⟩
  rw [List.take_of_length_le (le_max_right _ _)]

end
end VpnPack.Base
