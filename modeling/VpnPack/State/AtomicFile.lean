import VpnPack.Base.Text
import VpnPack.Base.Threads
import VpnPack.Base.Volume

/-! WriteFile and SweepOrphanTmp of package state over a directory that can crash. Each call
that leaves the process is answered by its number. Modes are left out: chmod can fail and
changes nothing else here. -/
namespace VpnPack.State
open Base

inductive FileCall where
  | createTemp (base : String)
  | write (file : Nat) (data : List UInt8)
  | chmod (file : Nat) (perm : Nat)
  | syncFile (file : Nat)
  | close (file : Nat)
  | rename (old new : String)
  | remove (name : String)
  | syncDir
  | readDir
  deriving DecidableEq, Repr

abbrev FileCall.Answer : FileCall → Type
  | .createTemp _ => Except GoError (String × Nat)
  | .readDir => Except GoError (List (String × Bool))
  | _ => Option GoError

abbrev FileProg := Prog FileCall FileCall.Answer

def fileCall (c : FileCall) : FileProg c.Answer := Prog.ask c

-- A call that is refused does nothing, but a write may have come to some of its bytes.
structure FileWorld where
  refuses : Nat → Option GoError
  random : Nat → Nat
  written : Nat → Nat

structure FileState where
  volume : Volume
  calls : Nat

def errExist : GoError := .new "file exists"
def errNotExist : GoError := .new "file does not exist"

-- os.CreateTemp(dir, base+".*.tmp")
def tempName (base : String) (random : Nat) : String := base ++ "." ++ toString random ++ ".tmp"

def fileEffect (world : FileWorld) (change : Volume → Volume) (s : FileState) : Option GoError × FileState :=
  match world.refuses s.calls with
  | some e => (some e,⟨s.volume,s.calls+1⟩)
  | none => (none,⟨change s.volume,s.calls+1⟩)

def createTemp (world : FileWorld) (base : String) (s : FileState) : Except GoError (String × Nat) × FileState :=
  match world.refuses s.calls with
  | some e => (.error e,⟨s.volume,s.calls+1⟩)
  | none =>
    let name := tempName base (world.random s.calls)
    if (s.volume.current.lookup name).isSome then (.error errExist,⟨s.volume,s.calls+1⟩)
    else (.ok (name,s.volume.fresh),⟨s.volume.create name,s.calls+1⟩)

def writeBytes (world : FileWorld) (file : Nat) (data : List UInt8) (s : FileState) : Option GoError × FileState :=
  match world.refuses s.calls with
  | some e => (some e,⟨s.volume.write file (data.take (world.written s.calls)),s.calls+1⟩)
  | none => (none,⟨s.volume.write file data,s.calls+1⟩)

def onName (world : FileWorld) (name : String) (change : Nat → Volume → Volume) (s : FileState) : Option GoError × FileState :=
  match s.volume.current.lookup name with
  | none => (some errNotExist,⟨s.volume,s.calls+1⟩)
  | some node => fileEffect world (change node) s

def readDir (world : FileWorld) (s : FileState) : Except GoError (List (String × Bool)) × FileState :=
  match world.refuses s.calls with
  | some e => (.error e,⟨s.volume,s.calls+1⟩)
  | none =>
    (.ok (s.volume.current.entries.map (fun entry => (entry.1,(s.volume.nodes entry.2).directory))),⟨s.volume,s.calls+1⟩)

def fileStep (world : FileWorld) : (c : FileCall) → FileState → c.Answer × FileState
  | .createTemp base,s => createTemp world base s
  | .write file data,s => writeBytes world file data s
  | .chmod _ _,s => fileEffect world id s
  | .syncFile file,s => fileEffect world (Volume.syncNode file) s
  | .close _,s => fileEffect world id s
  | .rename old new,s => onName world old (Volume.rename old new) s
  | .remove name,s => onName world name (fun _ => Volume.unlink name) s
  | .syncDir,s => fileEffect world Volume.syncNames s
  | .readDir,s => readDir world s

def cleanupTmp (tmpPath msg : String) (e : GoError) : FileProg (Option GoError) := do
  let _ ← fileCall (.remove tmpPath)
  pure (some (.wrap msg e))

def closeTmp (tmp : Nat) (tmpPath msg : String) (e : GoError) : FileProg (Option GoError) := do
  let _ ← fileCall (.close tmp)
  cleanupTmp tmpPath msg e

def syncParent : FileProg (Option GoError) := do
  match ← fileCall .syncDir with
  | some e => pure (some (.wrap "fsync dir" e))
  | none => pure none

def publish (tmp : Nat) (tmpPath path : String) : FileProg (Option GoError) := do
  match ← fileCall (.close tmp) with
  | some e => cleanupTmp tmpPath "close tmp" e
  | none =>
    match ← fileCall (.rename tmpPath path) with
    | some e => cleanupTmp tmpPath "rename" e
    | none => syncParent

def fillTmp (tmp : Nat) (tmpPath path : String) (data : List UInt8) (perm : Nat) : FileProg (Option GoError) := do
  match ← fileCall (.write tmp data) with
  | some e => closeTmp tmp tmpPath "write tmp" e
  | none =>
    match ← fileCall (.chmod tmp perm) with
    | some e => closeTmp tmp tmpPath "chmod tmp" e
    | none =>
      match ← fileCall (.syncFile tmp) with
      | some e => closeTmp tmp tmpPath "fsync tmp" e
      | none => publish tmp tmpPath path

def WriteFile (path : String) (data : List UInt8) (perm : Nat) : FileProg (Option GoError) := do
  match ← fileCall (.createTemp path) with
  | .error e => pure (some (.wrap "create tmp" e))
  | .ok (tmpPath,tmp) => fillTmp tmp tmpPath path data perm

def isTmp (name : String) : Bool := ".tmp".toList.isSuffixOf name.toList

def sweepEntries : List (String × Bool) → FileProg (Option GoError)
  | [] => pure none
  | (name,isDir) :: rest =>
    if isDir = false ∧ isTmp name = true then do
      let _ ← fileCall (.remove name)
      sweepEntries rest
    else sweepEntries rest

def SweepOrphanTmp : FileProg (Option GoError) := do
  match ← fileCall .readDir with
  | .error e => pure (if e.wraps errNotExist then none else some (.wrap "read dir" e))
  | .ok entries => sweepEntries entries

theorem tempNameSuffix (base : String) (random : Nat) : isTmp (tempName base random) = true := by
  rw [isTmp,List.isSuffixOf_iff_suffix,tempName,String.toList_append]
  exact List.suffix_append _ _

theorem tempNameOther (base : String) (random : Nat) : tempName base random ≠ base := by
  intro same
  have lengths := congrArg (fun name : String => name.toList.length) same
  simp [tempName] at lengths

structure Made (v : Volume) (tmp : String) (node : Node) (w : Volume) : Prop where
  names : w.names = v.names
  nodes : ∀ i < v.fresh, w.nodes i = v.nodes i
  pending : w.pending = v.pending ++ [.link tmp v.fresh]
  file : w.nodes v.fresh = node

section
variable {v w : Volume} {tmp : String} {node : Node} {world : FileWorld} {s : FileState}

theorem createMade (v : Volume) (tmp : String) : Made v tmp ⟨[],0,false⟩ (v.create tmp) := by
  exact ⟨rfl,fun i below => Function.update_of_ne (ne_of_lt below) _ _,rfl,Function.update_self _ _ _⟩

theorem writeMade (made : Made v tmp node w) (bytes : List UInt8) :
    Made v tmp {node with data := node.data ++ bytes} (w.write v.fresh bytes) := by
  refine ⟨made.names,fun i below => ?_,made.pending,?_⟩
  · exact (Function.update_of_ne (ne_of_lt below) _ _).trans (made.nodes i below)
  · exact (Function.update_self _ _ _).trans (by simp only [made.file])

theorem syncMade (made : Made v tmp node w) : Made v tmp {node with lasting := node.data.length} (w.syncNode v.fresh) := by
  refine ⟨made.names,fun i below => ?_,made.pending,?_⟩
  · exact (Function.update_of_ne (ne_of_lt below) _ _).trans (made.nodes i below)
  · exact (Function.update_self _ _ _).trans (by simp only [made.file])

theorem madeCurrent (made : Made v tmp node w) : w.current = v.current.insert tmp v.fresh := by
  rw [Volume.current,made.pending,made.names,reboundAppend]
  rfl

theorem madeLookup (made : Made v tmp node w) : w.current.lookup tmp = some v.fresh := by
  rw [madeCurrent made]
  exact AList.lookup_insert _

theorem effectRefused {change : Volume → Volume} {e : GoError} (refused : world.refuses s.calls = some e) :
    fileEffect world change s = (some e,⟨s.volume,s.calls+1⟩) := by
  rw [fileEffect,refused]

theorem effectDone {change : Volume → Volume} (answered : world.refuses s.calls = none) :
    fileEffect world change s = (none,⟨change s.volume,s.calls+1⟩) := by
  rw [fileEffect,answered]

theorem effectKeeps (s : FileState) : (fileEffect world id s).2.volume = s.volume := by
  unfold fileEffect
  cases world.refuses s.calls <;> rfl

theorem createSource (world : FileWorld) (path : String) (s : FileState) :
    (∃ e, createTemp world path s = (.error e,⟨s.volume,s.calls+1⟩)) ∨
      s.volume.current.lookup (tempName path (world.random s.calls)) = none ∧
        createTemp world path s = (.ok (tempName path (world.random s.calls),s.volume.fresh),
          ⟨s.volume.create (tempName path (world.random s.calls)),s.calls+1⟩) := by
  unfold createTemp
  cases world.refuses s.calls with
  | some e => exact .inl ⟨e,rfl⟩
  | none =>
    cases taken : s.volume.current.lookup (tempName path (world.random s.calls)) with
    | some i => exact .inl ⟨errExist,by simp [taken]⟩
    | none => exact .inr ⟨rfl,by simp [taken]⟩

end
end VpnPack.State
