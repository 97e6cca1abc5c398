import Mathlib.Data.List.AList

/-! JSON values and the part of encoding/json that reads them into Go types: a missing member
and null leave the zero value, any other value has to fit the type, and a value that
does not fit fails the whole decoding. Of members with one name the last one counts;
names are compared exactly. Texts are not modelled below the level of values. -/
namespace VpnPack.Base
open List

inductive Json where
  | null
  | bool (b : Bool)
  | int (i : Int)
  | fraction (text : String)
  | str (s : String)
  | arr (items : List Json)
  | obj (members : List (String × Json))

abbrev Members := List (String × Json)

def member (name : String) : Members → Option Json
  | [] => none
  | (key,value) :: rest =>
    match member name rest with
    | some later => some later
    | none => if key = name then some value else none

structure Codec (α : Type) where
  zero : α
  encode : α → Json
  decode : Json → Option α

namespace Codec

def text : Codec String where
  zero := ""
  encode := .str
  decode
    | .null => some ""
    | .str s => some s
    | _ => none

@[simp] theorem textZero : text.zero = "" := rfl

-- int on a 64-bit platform.
def IntFits (i : Int) : Prop := -9223372036854775808 ≤ i ∧ i ≤ 9223372036854775807

instance (i : Int) : Decidable (IntFits i) := inferInstanceAs (Decidable (_ ∧ _))

def int : Codec Int where
  zero := 0
  encode := .int
  decode
    | .null => some 0
    | .int i => if IntFits i then some i else none
    | _ => none

def flag : Codec Bool where
  zero := false
  encode := .bool
  decode
    | .null => some false
    | .bool b => some b
    | _ => none

variable {α : Type}

def decodeItems (c : Codec α) : List Json → Option (List α)
  | [] => some []
  | item :: rest => do
    let head ← c.decode item
    let tail ← decodeItems c rest
    some (head :: tail)

def list (c : Codec α) : Codec (List α) where
  zero := []
  encode xs := .arr (xs.map c.encode)
  decode
    | .null => some []
    | .arr items => decodeItems c items
    | _ => none

def decodeEntries (c : Codec α) : Members → Option (AList (fun _ : String => α))
  | [] => some ∅
  | (key,value) :: rest => do
    let head ← c.decode value
    let tail ← decodeEntries c rest
    some (if key ∈ tail then tail else tail.insert key head)

def encodeEntries (c : Codec α) (entries : AList (fun _ : String => α)) : Members :=
  entries.entries.map (fun entry => (entry.1,c.encode entry.2))

def map (c : Codec α) : Codec (AList (fun _ : String => α)) where
  zero := ∅
  encode entries := .obj (c.encodeEntries entries)
  decode
    | .null => some ∅
    | .obj members => decodeEntries c members
    | _ => none

def optional (c : Codec α) : Codec (Option α) where
  zero := none
  encode
    | none => .null
    | some x => c.encode x
  decode
    | .null => some none
    | value => (c.decode value).map some

def field (c : Codec α) (name : String) (members : Members) : Option α :=
  match member name members with
  | none => some c.zero
  | some value => c.decode value

def write (c : Codec α) (name : String) (x : α) : Members := [(name,c.encode x)]

-- omitempty
def writeUnless (c : Codec α) (empty : Bool) (name : String) (x : α) : Members := if empty then [] else c.write name x

def struct (zero : α) (fields : α → Members) (read : Members → Option α) : Codec α where
  zero := zero
  encode x := .obj (fields x)
  decode
    | .null => some zero
    | .obj members => read members
    | _ => none

def Inverts (c : Codec α) (x : α) : Prop := c.decode (c.encode x) = some x

section
variable {c : Codec α} {name key : String} {members : Members} {x : α} {empty : Bool}

@[simp] theorem memberAppend (name : String) (first second : Members) :
    member name (first ++ second) = (member name second).or (member name first) := by
  induction first with
  | nil => exact (Option.or_none).symm
  | cons head rest ih =>
    simp only [cons_append,member,ih]
    cases member name second <;> rfl

@[simp] theorem memberWrite (c : Codec α) (name key : String) (x : α) :
    member name (c.write key x) = if key = name then some (c.encode x) else none := rfl

@[simp] theorem memberWriteUnless (c : Codec α) (name key : String) (x : α) (empty : Bool) :
    member name (c.writeUnless empty key x) = if key = name then (if empty then none else some (c.encode x)) else none := by
  cases empty with
  | true => exact (ite_self none).symm
  | false => rfl

theorem fieldReads {value : Json} {y : α} (here : member name members = if empty then none else some value)
    (omitted : empty = true → y = c.zero) (reads : c.decode value = some y) : c.field name members = some y := by
  cases empty with
  | true =>
    rw [field,here,omitted rfl]
    rfl
  | false =>
    rw [field,here]
    exact reads

theorem fieldWritten (here : member name members = some (c.encode x)) (inverts : c.Inverts x) : c.field name members = some x := by
  rw [field,here]
  exact inverts

end

theorem textInverts (s : String) : text.Inverts s := rfl

theorem intInverts {i : Int} (fits : IntFits i) : int.Inverts i := if_pos fits

theorem flagInverts (b : Bool) : flag.Inverts b := rfl

theorem listInverts {c : Codec α} {xs : List α} (items : ∀ x ∈ xs, c.Inverts x) : c.list.Inverts xs := by
  change decodeItems c (xs.map c.encode) = some xs
  induction xs with
  | nil => rfl
  | cons head rest ih =>
    have first : c.decode (c.encode head) = some head := items head mem_cons_self
    have later := ih (fun x member => items x (mem_cons_of_mem head member))
    simp only [map_cons,decodeItems,first,later,bind,Option.bind]

theorem mapInverts {c : Codec α} {entries : AList (fun _ : String => α)} (each : ∀ entry ∈ entries.entries, c.Inverts entry.2) :
    c.map.Inverts entries := by
  obtain ⟨entries,keys⟩ := entries
  change decodeEntries c (entries.map (fun entry => (entry.1,c.encode entry.2))) = some ⟨entries,keys⟩
  induction entries with
  | nil => rfl
  | cons head rest ih =>
    have first : c.decode (c.encode head.2) = some head.2 := each head mem_cons_self
    have fresh := (nodupKeys_cons.mp keys).1
    have later := ih (nodupKeys_cons.mp keys).2 (fun entry member => each entry (mem_cons_of_mem head member))
    have outside : head.1 ∉ (⟨rest,(nodupKeys_cons.mp keys).2⟩ : AList (fun _ : String => α)) := fresh
    simp only [map_cons,decodeEntries,first,later,bind,Option.bind,if_neg outside]
    exact congrArg some (AList.ext (AList.entries_insert_of_notMem outside))

theorem optionalReads {c : Codec α} {read : α → α} {x : Option α} (shape : ∀ y, c.encode y ≠ .null)
    (reads : ∀ y, c.decode (c.encode y) = some (read y)) : c.optional.decode (c.optional.encode x) = some (x.map read) := by
  cases x with
  | none => rfl
  | some y =>
    have own := reads y
    change c.optional.decode (c.encode y) = some (some (read y))
    cases value : c.encode y with
    | null => exact absurd value (shape y)
    | _ =>
      rw [value] at own
      simp only [optional,own,Option.map_some]

theorem optionalField {c : Codec α} {read : α → α} {x : Option α} {name : String} {members : Members}
    (here : member name members = if x.isNone then none else some (c.optional.encode x)) (shape : ∀ y, c.encode y ≠ .null)
    (reads : ∀ y, c.decode (c.encode y) = some (read y)) : c.optional.field name members = some (x.map read) := by
  refine fieldReads here (fun missing => ?_) (optionalReads shape reads)
  rw [Option.isNone_iff_eq_none.mp missing]
  rfl

end Codec
end VpnPack.Base
