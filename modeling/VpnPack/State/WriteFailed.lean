import VpnPack.State.AtomicFile

/-! WriteFile run to its end, without a crash. The six steps up to the rename are undone when
one of them fails; a failed sync of the directory is reported and nothing is undone. -/
namespace VpnPack.State
open Base
open Prog (alone)

def RemovalAnswered (world : FileWorld) (c : FileCall) (s : FileState) : Prop := ∀ name, c = .remove name → world.refuses s.calls = none
def Answered (world : FileWorld) (calls n : Nat) : Prop := ∀ i < n, world.refuses (calls+i) = none

structure Restored (v w : Volume) : Prop where
  lookup : ∀ name, w.current.lookup name = v.current.lookup name
  nodes : ∀ i < v.fresh, w.nodes i = v.nodes i

structure Replaced (v : Volume) (path : String) (data : List UInt8) (w : Volume) : Prop where
  target : w.current.lookup path = some v.fresh
  others : ∀ name, name ≠ path → w.current.lookup name = v.current.lookup name
  file : (w.nodes v.fresh).data = data

def Ends (world : FileWorld) (v : Volume) (path : String) (data : List UInt8) (n : Nat) (p : FileProg (Option GoError)) (s : FileState) : Prop :=
  (Answered world s.calls n ∧ Replaced v path data (alone (fileStep world) p s).2.volume ∧
    ((alone (fileStep world) p s).1 = none ↔ world.refuses (s.calls+n) = none)) ∨
  (¬ Answered world s.calls n ∧ Restored v (alone (fileStep world) p s).2.volume)

section
variable {world : FileWorld} {v : Volume} {path tmp : String} {data : List UInt8} {node : Node} {n : Nat} {s t : FileState}

theorem answeredSucc (calls n : Nat) : Answered world calls (n+1) ↔ world.refuses calls = none ∧ Answered world (calls+1) n := by
  unfold Answered
  rw [Nat.forall_lt_succ_left]
  simp only [Nat.add_zero,Nat.add_assoc,Nat.add_comm 1]

variable {c : FileCall} {k : c.Answer → FileProg (Option GoError)} {r : c.Answer} {msg : String} {e : GoError}

theorem aloneCall (ran : fileStep world c s = (r,t)) :
    alone (fileStep world) (fileCall c >>= k) s = alone (fileStep world) (k r) t := by
  change alone (fileStep world) (k (fileStep world c s).1) (fileStep world c s).2 = _
  rw [ran]

theorem endsNext (answered : world.refuses s.calls = none)
    (ran : fileStep world c s = (r,t)) (calls : t.calls = s.calls+1) (rest : Ends world v path data n (k r) t) :
    Ends world v path data (n+1) (fileCall c >>= k) s := by
  have place : s.calls+(n+1) = s.calls+1+n := by omega
  unfold Ends at rest ⊢
  rw [aloneCall ran,answeredSucc,and_iff_right answered,place]
  rw [calls] at rest
  exact rest

theorem endsStopped
    (refused : world.refuses s.calls = some e) (ran : fileStep world c s = (r,t))
    (restored : Restored v (alone (fileStep world) (k r) t).2.volume) : Ends world v path data (n+1) (fileCall c >>= k) s := by
  refine .inr ⟨fun all => ?_,by rw [aloneCall ran]; exact restored⟩
  rw [answeredSucc,refused] at all
  cases all.1

theorem cleanupRestored (unused : v.current.lookup tmp = none) (made : Made v tmp node s.volume)
    (meets : Prog.Meets (fileStep world) (RemovalAnswered world) (cleanupTmp tmp msg e) s) :
    Restored v (alone (fileStep world) (cleanupTmp tmp msg e) s).2.volume := by
  have answered : world.refuses s.calls = none := meets.1 tmp rfl
  have removed : fileStep world (.remove tmp) s = (none,⟨s.volume.unlink tmp,s.calls+1⟩) := by
    change onName world tmp (fun _ => Volume.unlink tmp) s = _
    rw [onName,madeLookup made]
    exact effectDone answered
  change Restored v (fileStep world (.remove tmp) s).2.volume
  rw [removed]
  refine ⟨fun name => ?_,made.nodes⟩
  have current : (s.volume.unlink tmp).current = (v.current.insert tmp v.fresh).erase tmp := by
    rw [Volume.current,Volume.unlink,reboundAppend,← madeCurrent made]
    rfl
  rw [current]
  by_cases temporary : name = tmp
  · rw [temporary,AList.lookup_erase,unused]
  · rw [AList.lookup_erase_ne temporary,AList.lookup_insert_ne temporary]

theorem closeRestored {file : Nat} {msg : String} {e : GoError} (unused : v.current.lookup tmp = none) (made : Made v tmp node s.volume)
    (meets : Prog.Meets (fileStep world) (RemovalAnswered world) (closeTmp file tmp msg e) s) :
    Restored v (alone (fileStep world) (closeTmp file tmp msg e) s).2.volume := by
  have later : Prog.Meets (fileStep world) (RemovalAnswered world) (cleanupTmp tmp msg e) (fileStep world (.close file) s).2 := meets.2
  have same : (fileStep world (.close file) s).2.volume = s.volume := effectKeeps s
  have made : Made v tmp node (fileStep world (.close file) s).2.volume := by
    rw [same]
    exact made
  exact cleanupRestored unused made later

theorem syncEnds (replaced : Replaced v path data s.volume) : Ends world v path data 0 syncParent s := by
  have all : Answered world s.calls 0 := fun i below => absurd below (Nat.not_lt_zero i)
  refine .inl ⟨all,?_⟩
  rw [Nat.add_zero]
  cases refused : world.refuses s.calls with
  | some e =>
    have ran : fileStep world .syncDir s = (some e,⟨s.volume,s.calls+1⟩) := effectRefused refused
    have ended : alone (fileStep world) syncParent s = (some (.wrap "fsync dir" e),⟨s.volume,s.calls+1⟩) := aloneCall ran
    rw [ended]
    exact ⟨replaced,by simp⟩
  | none =>
    have ran : fileStep world .syncDir s = (none,⟨s.volume.syncNames,s.calls+1⟩) := effectDone refused
    have ended : alone (fileStep world) syncParent s = (none,⟨s.volume.syncNames,s.calls+1⟩) := aloneCall ran
    rw [ended]
    exact ⟨⟨replaced.target,replaced.others,replaced.file⟩,by simp⟩

theorem renameReplaces (unused : v.current.lookup tmp = none) (made : Made v tmp ⟨data,data.length,false⟩ s.volume) :
    Replaced v path data (s.volume.rename tmp path v.fresh) := by
  have current : (s.volume.rename tmp path v.fresh).current = ((v.current.insert tmp v.fresh).erase tmp).insert path v.fresh := by
    rw [Volume.current,Volume.rename,reboundAppend,← madeCurrent made]
    rfl
  refine ⟨?_,fun name differs => ?_,?_⟩
  · rw [current]
    exact AList.lookup_insert _
  · rw [current,AList.lookup_insert_ne differs]
    by_cases temporary : name = tmp
    · rw [temporary,AList.lookup_erase,unused]
    · rw [AList.lookup_erase_ne temporary,AList.lookup_insert_ne temporary]
  · change (s.volume.nodes v.fresh).data = data
    rw [made.file]

theorem publishEnds (unused : v.current.lookup tmp = none) (made : Made v tmp ⟨data,data.length,false⟩ s.volume)
    (meets : Prog.Meets (fileStep world) (RemovalAnswered world) (publish v.fresh tmp path) s) :
    Ends world v path data 2 (publish v.fresh tmp path) s := by
  have meets := meets.2
  cases refused : world.refuses s.calls with
  | some e =>
    have ran : fileStep world (.close v.fresh) s = (some e,⟨s.volume,s.calls+1⟩) := effectRefused refused
    rw [ran] at meets
    exact endsStopped refused ran (@cleanupRestored world v tmp _ ⟨s.volume,s.calls+1⟩ _ e unused made meets)
  | none =>
    have ran : fileStep world (.close v.fresh) s = (none,⟨s.volume,s.calls+1⟩) := effectDone refused
    rw [ran] at meets
    refine endsNext refused ran rfl ?_
    have meets := meets.2
    have found : fileStep world (.rename tmp path) ⟨s.volume,s.calls+1⟩ =
        fileEffect world (Volume.rename tmp path v.fresh) ⟨s.volume,s.calls+1⟩ := by
      change onName world tmp (Volume.rename tmp path) ⟨s.volume,s.calls+1⟩ = _
      rw [onName,madeLookup made]
    cases again : world.refuses (s.calls+1) with
    | some e =>
      have moved : fileStep world (.rename tmp path) ⟨s.volume,s.calls+1⟩ = (some e,⟨s.volume,s.calls+1+1⟩) := found.trans (effectRefused again)
      rw [moved] at meets
      exact endsStopped again moved (@cleanupRestored world v tmp _ ⟨s.volume,s.calls+1+1⟩ _ e unused made meets)
    | none =>
      have moved : fileStep world (.rename tmp path) ⟨s.volume,s.calls+1⟩ = (none,⟨s.volume.rename tmp path v.fresh,s.calls+1+1⟩) :=
        found.trans (effectDone again)
      exact endsNext again moved rfl (syncEnds (renameReplaces unused made))

theorem fillEnds {perm : Nat} (unused : v.current.lookup tmp = none) (made : Made v tmp ⟨[],0,false⟩ s.volume)
    (meets : Prog.Meets (fileStep world) (RemovalAnswered world) (fillTmp v.fresh tmp path data perm) s) :
    Ends world v path data 5 (fillTmp v.fresh tmp path data perm) s := by
  have meets := meets.2
  have filled := writeMade made data
  cases refused : world.refuses s.calls with
  | some e =>
    have ran : fileStep world (.write v.fresh data) s = (some e,⟨s.volume.write v.fresh (data.take (world.written s.calls)),s.calls+1⟩) := by
      change writeBytes world v.fresh data s = _
      rw [writeBytes,refused]
    rw [ran] at meets
    exact endsStopped refused ran (@closeRestored world v tmp _ ⟨_,s.calls+1⟩ v.fresh _ e unused (writeMade made _) meets)
  | none =>
    have ran : fileStep world (.write v.fresh data) s = (none,⟨s.volume.write v.fresh data,s.calls+1⟩) := by
      change writeBytes world v.fresh data s = _
      rw [writeBytes,refused]
    rw [ran] at meets
    refine endsNext refused ran rfl ?_
    generalize s.volume.write v.fresh data = w at filled meets ⊢
    have meets := meets.2
    cases again : world.refuses (s.calls+1) with
    | some e =>
      have changed : fileStep world (.chmod v.fresh perm) ⟨w,s.calls+1⟩ = (some e,⟨w,s.calls+1+1⟩) := effectRefused again
      rw [changed] at meets
      exact endsStopped again changed (@closeRestored world v tmp _ ⟨w,s.calls+1+1⟩ v.fresh _ e unused filled meets)
    | none =>
      have changed : fileStep world (.chmod v.fresh perm) ⟨w,s.calls+1⟩ = (none,⟨w,s.calls+1+1⟩) := effectDone again
      rw [changed] at meets
      refine endsNext again changed rfl ?_
      have meets := meets.2
      cases third : world.refuses (s.calls+1+1) with
      | some e =>
        have synced : fileStep world (.syncFile v.fresh) ⟨w,s.calls+1+1⟩ = (some e,⟨w,s.calls+1+1+1⟩) := effectRefused third
        rw [synced] at meets
        exact endsStopped third synced (@closeRestored world v tmp _ ⟨w,s.calls+1+1+1⟩ v.fresh _ e unused filled meets)
      | none =>
        have synced : fileStep world (.syncFile v.fresh) ⟨w,s.calls+1+1⟩ = (none,⟨w.syncNode v.fresh,s.calls+1+1+1⟩) := effectDone third
        rw [synced] at meets
        exact endsNext third synced rfl (@publishEnds world v path tmp data ⟨_,s.calls+1+1+1⟩ unused (syncMade filled) meets)

end

structure DirSyncFails (world : FileWorld) (path : String) (s : FileState) : Prop where
  free : s.volume.current.lookup (tempName path (world.random s.calls)) = none
  answered : Answered world s.calls 6
  failed : world.refuses (s.calls+6) ≠ none

theorem writeEnds (world : FileWorld) (path : String) (data : List UInt8) (perm : Nat) (s : FileState)
    (meets : Prog.Meets (fileStep world) (RemovalAnswered world) (WriteFile path data perm) s) :
    (s.volume.current.lookup (tempName path (world.random s.calls)) = none ∧ Ends world s.volume path data 6 (WriteFile path data perm) s) ∨
      (¬ (s.volume.current.lookup (tempName path (world.random s.calls)) = none ∧ Answered world s.calls 6) ∧
        Restored s.volume (alone (fileStep world) (WriteFile path data perm) s).2.volume) := by
  have asked : fileStep world (.createTemp path) s = createTemp world path s := rfl
  have same {e : GoError} (failed : createTemp world path s = (.error e,⟨s.volume,s.calls+1⟩)) :
      Restored s.volume (alone (fileStep world) (WriteFile path data perm) s).2.volume := by
    have ended : alone (fileStep world) (WriteFile path data perm) s = (some (.wrap "create tmp" e),⟨s.volume,s.calls+1⟩) :=
      aloneCall (asked.trans failed)
    rw [ended]
    exact ⟨fun _ => rfl,fun _ _ => rfl⟩
  cases refused : world.refuses s.calls with
  | some e =>
    refine .inr ⟨fun both => ?_,same (show createTemp world path s = (.error e,_) by rw [createTemp,refused])⟩
    rw [answeredSucc,refused] at both
    cases both.2.1
  | none =>
    cases taken : s.volume.current.lookup (tempName path (world.random s.calls)) with
    | some node =>
      have failed : createTemp world path s = (.error errExist,⟨s.volume,s.calls+1⟩) := by simp [createTemp,refused,taken]
      refine .inr ⟨fun both => ?_,same failed⟩
      cases both.1
    | none =>
      have created : fileStep world (.createTemp path) s = (.ok (tempName path (world.random s.calls),s.volume.fresh),
          ⟨s.volume.create (tempName path (world.random s.calls)),s.calls+1⟩) := by
        rw [asked]
        simp [createTemp,refused,taken]
      have meets := meets.2
      rw [created] at meets
      exact .inl ⟨rfl,endsNext refused created rfl (@fillEnds world s.volume path _ data ⟨_,s.calls+1⟩ perm taken (createMade _ _) meets)⟩

theorem restoredRead {v w : Volume} (known : ∀ name node, v.current.lookup name = some node → node < v.fresh) (restored : Restored v w)
    (name : String) : w.read name = v.read name := by
  rw [Volume.read,Volume.read,restored.lookup]
  cases bound : v.current.lookup name with
  | none => rfl
  | some node => rw [Option.map_some,Option.map_some,restored.nodes node (known name node bound)]

theorem writeFailedLeaves (world : FileWorld) (path : String) (data : List UInt8) (perm : Nat) (s t : FileState) (e : GoError)
    (known : ∀ name node, s.volume.current.lookup name = some node → node < s.volume.fresh)
    (removes : Prog.Meets (fileStep world) (RemovalAnswered world) (WriteFile path data perm) s)
    (failed : alone (fileStep world) (WriteFile path data perm) s = (some e,t)) :
    (t.volume.read path = s.volume.read path ∧ ∀ name, s.volume.current.lookup name = none → t.volume.current.lookup name = none) ↔
      ¬ DirSyncFails world path s ∨ s.volume.read path = some data := by
  have restores (restored : Restored s.volume t.volume) :
      t.volume.read path = s.volume.read path ∧ ∀ name, s.volume.current.lookup name = none → t.volume.current.lookup name = none :=
    ⟨restoredRead known restored path,fun name gone => (restored.lookup name).trans gone⟩
  rcases writeEnds world path data perm s removes with ⟨free,ends⟩ | ⟨stopped,restored⟩
  · rw [Ends,failed] at ends
    rcases ends with ⟨answered,replaced,returned⟩ | ⟨stopped,restored⟩
    · have unsynced : world.refuses (s.calls+6) ≠ none := fun synced => by cases returned.mpr synced
      have new : t.volume.read path = some data := by
        rw [Volume.read,replaced.target,Option.map_some,replaced.file]
      rw [or_iff_right (not_not.mpr ⟨free,answered,unsynced⟩),new]
      refine ⟨fun both => both.1.symm,fun same => ⟨same.symm,fun name gone => ?_⟩⟩
      by_cases target : name = path
      · rw [Volume.read,← target,gone] at same
        cases same
      · exact (replaced.others name target).trans gone
    · exact iff_of_true (restores restored) (.inl (fun fails => stopped fails.answered))
  · rw [failed] at restored
    exact iff_of_true (restores restored) (.inl (fun fails => stopped ⟨fails.free,fails.answered⟩))

def oldFile : FileState := ⟨⟨AList.singleton "m" 0,[],fun _ => ⟨[9],1,false⟩,1⟩,0⟩
def ioError : GoError := .new "input/output error"
def refusing (call : Nat) : FileWorld := ⟨fun k => if k = call then some ioError else none,fun _ => 7,fun _ => 0⟩

theorem writeFailedLeavesOld : (alone (fileStep (refusing 3)) (WriteFile "m" [1,2] 384) oldFile).2.volume.read "m" = some [9] := by
  have known : ∀ name node, oldFile.volume.current.lookup name = some node → node < oldFile.volume.fresh := by
    intro name node bound
    have member : (⟨name,node⟩ : Sigma (fun _ : String => Nat)) ∈ [⟨"m",0⟩] := AList.mem_lookup_iff.mp bound
    cases List.mem_singleton.mp member
    exact Nat.zero_lt_one
  have failed : (alone (fileStep (refusing 3)) (WriteFile "m" [1,2] 384) oldFile).1 = some (.wrap "fsync tmp" ioError) := rfl
  have removes : Prog.Meets (fileStep (refusing 3)) (RemovalAnswered (refusing 3)) (WriteFile "m" [1,2] 384) oldFile := by
    have other {c : FileCall} {s : FileState} (kind : ∀ name, c ≠ .remove name) : RemovalAnswered (refusing 3) c s :=
      fun name same => absurd same (kind name)
    refine ⟨other ?_,other ?_,other ?_,other ?_,other ?_,fun _ _ => rfl,trivial⟩ <;> exact fun _ same => by cases same
  refine ((writeFailedLeaves (refusing 3) "m" [1,2] 384 oldFile _ _ known removes (Prod.ext failed rfl)).mpr (.inl ?_)).1
  intro fails
  have stopped := fails.answered 3 (by decide)
  cases stopped

theorem writeFailedReplaces : (alone (fileStep (refusing 6)) (WriteFile "m" [1,2] 384) oldFile).1 = some (.wrap "fsync dir" ioError) ∧
    oldFile.volume.read "m" = some [9] ∧
    (alone (fileStep (refusing 6)) (WriteFile "m" [1,2] 384) oldFile).2.volume.read "m" = some [1,2] := ⟨rfl,rfl,rfl⟩

end VpnPack.State
