import VpnPack.Base.Ring

/-! The log ring of the state package. Go integers are unbounded here and their
remainder is the truncated one; an index outside the slice and a division by zero
are panics, answered by none. The mutex makes every call one step. -/
namespace VpnPack.State
open Base.Ring List

structure LogEntry where
  Timestamp : String
  Level : String
  Message : String
  Source : String
  deriving DecidableEq, Repr

def zeroEntry : LogEntry := ⟨"","","",""⟩

structure LogBuffer where
  entries : List LogEntry
  head : Int
  count : Int
  maxSize : Int
  deriving DecidableEq, Repr

def minLogBufferSize : Int := 1

def NewLogBuffer (maxSize : Int) : LogBuffer :=
  let size := if maxSize < minLogBufferSize then minLogBufferSize else maxSize
  ⟨List.replicate size.toNat zeroEntry,0,0,size⟩

def remainder (a b : Int) : Option Int := if b = 0 then none else some (a.tmod b)

def slot (entries : List LogEntry) (i : Int) : Option Nat :=
  if 0 ≤ i ∧ i < entries.length then some i.toNat else none

def LogBuffer.Add (lb : LogBuffer) (e : LogEntry) : Option LogBuffer := do
  let at_ ← slot lb.entries lb.head
  let head ← remainder (lb.head+1) lb.maxSize
  some ⟨lb.entries.set at_ e,head,if lb.count < lb.maxSize then lb.count+1 else lb.count,lb.maxSize⟩

def LogBuffer.entryBack (lb : LogBuffer) (i : Nat) : Option LogEntry := do
  let idx ← remainder (lb.head-1-i+lb.maxSize) lb.maxSize
  let at_ ← slot lb.entries idx
  lb.entries[at_]?

def LogBuffer.Snapshot (lb : LogBuffer) : Option (List LogEntry) :=
  (List.range lb.count.toNat).mapM lb.entryBack

def addAll (lb : LogBuffer) (added : List LogEntry) : Option LogBuffer := added.foldlM LogBuffer.Add lb

theorem remainderNat {a cap : Nat} (filled : 0 < cap) : remainder a cap = some ((a % cap : Nat) : Int) := by
  have nonzero : (cap : Int) ≠ 0 := by omega
  rw [remainder,if_neg nonzero,Int.tmod_eq_emod_of_nonneg (Int.natCast_nonneg a),Int.natCast_emod]

theorem slotInside {entries : List LogEntry} {i : Nat} (inside : i < entries.length) : slot entries i = some i := by
  rw [slot,if_pos ⟨Int.natCast_nonneg i,Int.ofNat_lt.mpr inside⟩,Int.toNat_natCast]

structure Rings (size : Nat) (added : List LogEntry) (lb : LogBuffer) : Prop where
  backing : lb.entries.length = size
  bound : lb.maxSize = size
  position : ∃ head : Nat, lb.head = head ∧ Holds lb.entries head added.reverse
  counted : lb.count = (min added.length size : Nat)

theorem newRings (maxSize : Int) : Rings (max 1 maxSize).toNat [] (NewLogBuffer maxSize) := by
  have size : (if maxSize < minLogBufferSize then minLogBufferSize else maxSize) = max 1 maxSize := by
    rw [minLogBufferSize]
    omega
  simp only [NewLogBuffer,size]
  have filled : 0 < (max 1 maxSize).toNat := by omega
  exact ⟨length_replicate,by show max 1 maxSize = _; omega,⟨0,rfl,holdsNothing (by rw [length_replicate]; exact filled)⟩,by simp⟩

variable {size : Nat} {added : List LogEntry} {lb : LogBuffer}

theorem addRings (e : LogEntry) (rings : Rings size added lb) : ∃ next, lb.Add e = some next ∧ Rings size (added ++ [e]) next := by
  obtain ⟨head,placed,held⟩ := rings.position
  have inside := held.inside
  have filled : 0 < size := by rw [← rings.backing]; omega
  have moved : remainder (lb.head+1) lb.maxSize = some ((advance size head : Nat) : Int) := by
    have shifted := @remainderNat (head+1) size filled
    rwa [placed,rings.bound]
  have stepped : lb.Add e = some ⟨lb.entries.set head e,advance size head,if lb.count < lb.maxSize then lb.count+1 else lb.count,lb.maxSize⟩ := by
    simp only [LogBuffer.Add,placed ▸ slotInside inside,moved,bind,Option.bind]
  refine ⟨_,stepped,?_⟩
  refine ⟨by rw [length_set,rings.backing],rings.bound,⟨advance size head,rfl,?_⟩,?_⟩
  · rw [reverse_append,reverse_singleton,singleton_append,← rings.backing]
    exact holdsWrite e held
  · simp only [rings.counted,rings.bound,length_append,length_singleton]
    split <;> omega

theorem addAllRings (more : List LogEntry) (rings : Rings size added lb) :
    ∃ final, addAll lb more = some final ∧ Rings size (added ++ more) final := by
  induction more generalizing added lb with
  | nil => exact ⟨lb,rfl,by rw [append_nil]; exact rings⟩
  | cons e more ih =>
    obtain ⟨next,stepped,kept⟩ := addRings e rings
    obtain ⟨final,rest,ended⟩ := ih kept
    refine ⟨final,?_,by rw [append_assoc] at ended; exact ended⟩
    rw [addAll,foldlM_cons,stepped]
    exact rest

theorem entryBackRings {head i : Nat} (rings : Rings size added lb) (placed : lb.head = head) (small : i < size) :
    lb.entryBack i = lb.entries[back size head i]? := by
  have shifted : lb.head-1-i+lb.maxSize = ((head+size-1-i : Nat) : Int) := by
    rw [placed,rings.bound]
    omega
  have index : remainder (lb.head-1-i+lb.maxSize) lb.maxSize = some ((back size head i : Nat) : Int) := by
    rw [shifted,rings.bound]
    exact remainderNat (by omega)
  have within : back size head i < lb.entries.length := by
    rw [rings.backing]
    exact backInside head i (by omega)
  simp only [LogBuffer.entryBack,index,slotInside within,bind,Option.bind]

theorem snapshotRings (rings : Rings size added lb) : lb.Snapshot = some (added.reverse.take size) := by
  obtain ⟨head,placed,held⟩ := rings.position
  have looks : ∀ i, i < lb.entries.length → lb.entryBack i = lb.entries[back lb.entries.length head i]? := by
    rw [rings.backing]
    exact fun i small => entryBackRings rings placed small
  have read := held.read looks
  rw [length_reverse,rings.backing] at read
  rw [LogBuffer.Snapshot,rings.counted,Int.toNat_natCast,read]

theorem snapshotNewestFirst (maxSize : Int) (added : List LogEntry) : ∃ lb, addAll (NewLogBuffer maxSize) added = some lb ∧
      lb.Snapshot = some (added.reverse.take (min added.length (max 1 maxSize).toNat)) := by
  obtain ⟨lb,ran,rings⟩ := addAllRings added (newRings maxSize)
  refine ⟨lb,ran,?_⟩
  rw [nil_append] at rings
  rw [snapshotRings rings,take_eq_take_iff.mpr]
  rw [length_reverse]
  omega

end VpnPack.State
