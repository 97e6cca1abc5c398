import VpnPack.State.AtomicFile

/-! WriteFile can be stopped anywhere. The stages it goes through, what a crash in each of
them leaves, and what SweepOrphanTmp makes of that. The directory is quiet before. -/
namespace VpnPack.State
open Base List

structure Temp (v : Volume) (path tmp : String) : Prop where
  suffix : isTmp tmp = true
  other : tmp ≠ path
  unused : v.names.lookup tmp = none

structure Preparing (v : Volume) (tmp : String) (w : Volume) : Prop where
  names : w.names = v.names
  nodes : ∀ i < v.fresh, w.nodes i = v.nodes i
  changes : ∀ c ∈ w.pending, c = .link tmp v.fresh ∨ c = .unlink tmp
  file : (w.nodes v.fresh).directory = false

def publication (v : Volume) (path tmp : String) : List Rebinding := [.link tmp v.fresh,.move tmp path v.fresh]

inductive Stage (v : Volume) (path : String) (data : List UInt8) : Volume → Prop where
  | start : Stage v path data v
  | preparing {tmp : String} {w : Volume} (temp : Temp v path tmp) (prepared : Preparing v tmp w) : Stage v path data w
  | renamed {tmp : String} {w : Volume} (temp : Temp v path tmp) (names : w.names = v.names)
      (nodes : ∀ i < v.fresh, w.nodes i = v.nodes i) (pending : w.pending = publication v path tmp)
      (whole : w.nodes v.fresh = ⟨data,data.length,false⟩) : Stage v path data w
  | synced {tmp : String} {w : Volume} (temp : Temp v path tmp) (names : w.names = rebound (publication v path tmp) v.names)
      (nodes : ∀ i < v.fresh, w.nodes i = v.nodes i) (pending : w.pending = [])
      (whole : w.nodes v.fresh = ⟨data,data.length,false⟩) : Stage v path data w

def Published (v : Volume) (path : String) (data : List UInt8) (w : Volume) : Prop :=
  ∃ tmp, Temp v path tmp ∧ w.names = rebound (publication v path tmp) v.names ∧ w.pending = [] ∧
    w.nodes v.fresh = ⟨data,data.length,false⟩

section
variable {v w : Volume} {path tmp : String} {data : List UInt8} {node : Node} {world : FileWorld} {s : FileState}

theorem madePrepared (quiet : v.Quiet) (made : Made v tmp node w) (kind : node.directory = false) : Preparing v tmp w := by
  refine ⟨made.names,made.nodes,fun c member => ?_,by rw [made.file,kind]⟩
  rw [made.pending,quiet.pending] at member
  exact .inl (mem_singleton.mp member)

theorem unlinkPreparing (prepared : Preparing v tmp w) : Preparing v tmp (w.unlink tmp) := by
  refine ⟨prepared.names,prepared.nodes,fun c member => ?_,prepared.file⟩
  rcases mem_append.mp member with old | new
  · exact prepared.changes c old
  · exact .inr (mem_singleton.mp new)

theorem removePreparing (prepared : Preparing v tmp s.volume) : Preparing v tmp (fileStep world (.remove tmp) s).2.volume := by
  change Preparing v tmp (onName world tmp (fun _ => Volume.unlink tmp) s).2.volume
  unfold onName
  cases s.volume.current.lookup tmp with
  | none => exact prepared
  | some i =>
    cases refused : world.refuses s.calls with
    | some e =>
      dsimp only
      rw [effectRefused refused]
      exact prepared
    | none =>
      dsimp only
      rw [effectDone refused]
      exact unlinkPreparing prepared

abbrev Staged (world : FileWorld) (v : Volume) (path : String) (data : List UInt8) : FileProg (Option GoError) → FileState → Prop :=
  Prog.Safe (fileStep world) (fun t => Stage v path data t.volume) (fun r t => r = none → Published v path data t.volume)

theorem cleanupStaged (temp : Temp v path tmp) (prepared : Preparing v tmp s.volume) (msg : String) (e : GoError) :
    Staged world v path data (cleanupTmp tmp msg e) s := by
  refine Prog.safeAsk (.preparing temp prepared) (Prog.safePure (.preparing temp (removePreparing prepared)) ?_)
  intro ended
  cases ended

theorem closeStaged (temp : Temp v path tmp) (prepared : Preparing v tmp s.volume) (file : Nat) (msg : String) (e : GoError) :
    Staged world v path data (closeTmp file tmp msg e) s := by
  refine Prog.safeAsk (.preparing temp prepared) (cleanupStaged temp ?_ msg e)
  have same : (fileStep world (.close file) s).2.volume = s.volume := effectKeeps s
  rw [same]
  exact prepared

theorem syncStaged (temp : Temp v path tmp) (names : s.volume.names = v.names) (nodes : ∀ i < v.fresh, s.volume.nodes i = v.nodes i)
    (pending : s.volume.pending = publication v path tmp) (whole : s.volume.nodes v.fresh = ⟨data,data.length,false⟩) :
    Staged world v path data syncParent s := by
  refine Prog.safeAsk (.renamed temp names nodes pending whole) ?_
  cases refused : world.refuses s.calls with
  | some e =>
    have ran : fileStep world .syncDir s = (some e,⟨s.volume,s.calls+1⟩) := effectRefused refused
    rw [ran]
    exact Prog.safePure (.renamed temp names nodes pending whole) (fun ended => by cases ended)
  | none =>
    have ran : fileStep world .syncDir s = (none,⟨s.volume.syncNames,s.calls+1⟩) := effectDone refused
    have bound : s.volume.syncNames.names = rebound (publication v path tmp) v.names := by
      rw [← names,← pending]
      rfl
    rw [ran]
    exact Prog.safePure (.synced temp bound nodes rfl whole) (fun _ => ⟨tmp,temp,bound,rfl,whole⟩)

theorem publishStaged (quiet : v.Quiet) (temp : Temp v path tmp) (made : Made v tmp ⟨data,data.length,false⟩ s.volume) :
    Staged world v path data (publish v.fresh tmp path) s := by
  refine Prog.safeAsk (.preparing temp (madePrepared quiet made rfl)) ?_
  have same : (fileStep world (.close v.fresh) s).2.volume = s.volume := effectKeeps s
  generalize fileStep world (.close v.fresh) s = closed at same ⊢
  obtain ⟨result,t⟩ := closed
  have made : Made v tmp ⟨data,data.length,false⟩ t.volume := by
    rw [show t.volume = s.volume from same]
    exact made
  have prepared := madePrepared quiet made rfl
  cases result with
  | some e => exact cleanupStaged temp prepared "close tmp" e
  | none =>
    refine Prog.safeAsk (.preparing temp prepared) ?_
    have found : fileStep world (.rename tmp path) t = fileEffect world (Volume.rename tmp path v.fresh) t := by
      change onName world tmp (Volume.rename tmp path) t = _
      rw [onName,madeLookup made]
    rw [found]
    cases refused : world.refuses t.calls with
    | some e =>
      rw [effectRefused refused]
      exact @cleanupStaged v path tmp data world ⟨t.volume,t.calls+1⟩ temp prepared "rename" e
    | none =>
      rw [effectDone refused]
      refine @syncStaged v path tmp data world ⟨t.volume.rename tmp path v.fresh,t.calls+1⟩ temp made.names made.nodes ?_ made.file
      change t.volume.pending ++ [.move tmp path v.fresh] = _
      rw [made.pending,quiet.pending]
      rfl

theorem fillStaged {perm : Nat} (quiet : v.Quiet) (temp : Temp v path tmp) (made : Made v tmp ⟨[],0,false⟩ s.volume) :
    Staged world v path data (fillTmp v.fresh tmp path data perm) s := by
  refine Prog.safeAsk (.preparing temp (madePrepared quiet made rfl)) ?_
  have wrote : fileStep world (.write v.fresh data) s = writeBytes world v.fresh data s := rfl
  rw [wrote,writeBytes]
  cases world.refuses s.calls with
  | some e => exact closeStaged temp (madePrepared quiet (writeMade made _) rfl) v.fresh "write tmp" e
  | none =>
    have filled := writeMade made data
    refine Prog.safeAsk (.preparing temp (madePrepared quiet filled rfl)) ?_
    generalize written : (⟨s.volume.write v.fresh data,s.calls+1⟩ : FileState) = t
    have volume : t.volume = s.volume.write v.fresh data := by rw [← written]
    rw [← volume] at filled
    have same : (fileStep world (.chmod v.fresh perm) t).2.volume = t.volume := effectKeeps t
    generalize fileStep world (.chmod v.fresh perm) t = changed at same ⊢
    obtain ⟨result,u⟩ := changed
    rw [← show u.volume = t.volume from same] at filled
    cases result with
    | some e => exact closeStaged temp (madePrepared quiet filled rfl) v.fresh "chmod tmp" e
    | none =>
      refine Prog.safeAsk (.preparing temp (madePrepared quiet filled rfl)) ?_
      have synced : fileStep world (.syncFile v.fresh) u = fileEffect world (Volume.syncNode v.fresh) u := rfl
      rw [synced]
      cases refused : world.refuses u.calls with
      | some e =>
        rw [effectRefused refused]
        exact @closeStaged v path tmp data world ⟨u.volume,u.calls+1⟩ temp (madePrepared quiet filled rfl) v.fresh "fsync tmp" e
      | none =>
        rw [effectDone refused]
        exact @publishStaged v path tmp data world ⟨u.volume.syncNode v.fresh,u.calls+1⟩ quiet temp (syncMade filled)

theorem writeStaged (world : FileWorld) (path : String) (data : List UInt8) (perm : Nat) (s : FileState) (quiet : s.volume.Quiet) :
    Staged world s.volume path data (WriteFile path data perm) s := by
  refine Prog.safeAsk .start ?_
  have ran : fileStep world (.createTemp path) s = createTemp world path s := rfl
  rw [ran]
  rcases createSource world path s with ⟨e,failed⟩ | ⟨free,created⟩
  · rw [failed]
    exact Prog.safePure .start (fun ended => by cases ended)
  · have unused : s.volume.names.lookup (tempName path (world.random s.calls)) = none := by
      rw [Volume.current,quiet.pending] at free
      exact free
    have temp : Temp s.volume path (tempName path (world.random s.calls)) := ⟨tempNameSuffix path _,tempNameOther path _,unused⟩
    rw [created]
    exact @fillStaged s.volume path _ data world ⟨s.volume.create _,s.calls+1⟩ perm quiet temp (createMade _ _)

end

structure Leftover (v c : Volume) (name : String) : Prop where
  absent : v.current.lookup name = none
  suffix : isTmp name = true
  file : ∃ node, c.current.lookup name = some node ∧ (c.nodes node).directory = false

structure Recovered (v : Volume) (path : String) (data : List UInt8) (c : Volume) : Prop where
  whole : c.read path = v.read path ∨ c.read path = some data
  others : ∀ name, name ≠ path → c.current.lookup name = v.current.lookup name ∧ c.read name = v.read name ∨ Leftover v c name

section
variable {v w c : Volume} {path tmp : String} {data : List UInt8}

theorem crashedLookup (crashed : w.Crashed c) (name : String) : c.current.lookup name = c.names.lookup name := by
  rw [Volume.current,crashed.pending]
  rfl

theorem readSame (quiet : v.Quiet) (crashed : w.Crashed c) (nodes : ∀ i < v.fresh, w.nodes i = v.nodes i) {name : String}
    (same : c.names.lookup name = v.names.lookup name) : c.current.lookup name = v.current.lookup name ∧ c.read name = v.read name := by
  have before : v.current = v.names := by rw [Volume.current,quiet.pending]; rfl
  rw [crashedLookup crashed,before]
  refine ⟨same,?_⟩
  rw [crashedRead crashed,same,Volume.read,before]
  cases bound : v.names.lookup name with
  | none => rfl
  | some node =>
    have known := nodes node (quiet.known name node bound)
    have lasting : (w.nodes node).lasting = (w.nodes node).data.length := by rw [known,quiet.lasting name node bound]
    simp only [Option.map_some,crashedWhole crashed lasting,known]

theorem recoveredFrom (quiet : v.Quiet) (temp : Temp v path tmp) (crashed : w.Crashed c) (nodes : ∀ i < v.fresh, w.nodes i = v.nodes i)
    (file : (w.nodes v.fresh).directory = false) (others : ∀ name, name ≠ tmp → name ≠ path → c.names.lookup name = v.names.lookup name)
    (left : c.names.lookup tmp = none ∨ c.names.lookup tmp = some v.fresh)
    (target : c.names.lookup path = v.names.lookup path ∨ c.read path = some data) : Recovered v path data c := by
  have before : v.current = v.names := by rw [Volume.current,quiet.pending]; rfl
  constructor
  · rcases target with same | new
    · exact .inl (readSame quiet crashed nodes same).2
    · exact .inr new
  · intro name other
    by_cases temporary : name = tmp
    · subst temporary
      rcases left with gone | there
      · exact .inl (readSame quiet crashed nodes (gone.trans temp.unused.symm))
      · refine .inr ⟨before ▸ temp.unused,temp.suffix,v.fresh,(crashedLookup crashed name).trans there,?_⟩
        rw [crashed.kinds,file]
    · exact .inl (readSame quiet crashed nodes (others name temporary other))

theorem preparedBinding {changes : List Rebinding} {names : Names} (only : ∀ d ∈ changes, d = .link tmp v.fresh ∨ d = .unlink tmp)
    (before : names.lookup tmp = none ∨ names.lookup tmp = some v.fresh) :
    (rebound changes names).lookup tmp = none ∨ (rebound changes names).lookup tmp = some v.fresh := by
  induction changes generalizing names with
  | nil => exact before
  | cons d rest ih =>
    refine @ih (d.apply names) (fun x member => only x (mem_cons_of_mem d member)) ?_
    rcases only d mem_cons_self with rfl | rfl
    · exact .inr (AList.lookup_insert _)
    · exact .inl (AList.lookup_erase _ _)

theorem preparedOther {changes : List Rebinding} {name : String} (only : ∀ d ∈ changes, d = .link tmp v.fresh ∨ d = .unlink tmp)
    (other : name ≠ tmp) (names : Names) : (rebound changes names).lookup name = names.lookup name := by
  refine reboundOther (fun d member touches => ?_)
  rcases only d member with rfl | rfl <;> exact other touches

theorem publicationKept {kept : List Rebinding} (some_ : kept.Sublist (publication v path tmp)) :
    kept = [] ∨ kept = [.link tmp v.fresh] ∨ kept = [.move tmp path v.fresh] ∨ kept = publication v path tmp := by
  rcases sublist_cons_iff.mp some_ with skipped | ⟨rest,rfl,inside⟩
  · rcases sublist_cons_iff.mp skipped with none_ | ⟨rest,rfl,inside⟩
    · exact .inl (sublist_nil.mp none_)
    · rw [sublist_nil.mp inside]
      exact .inr (.inr (.inl rfl))
  · rcases sublist_cons_iff.mp inside with none_ | ⟨last,rfl,nothing⟩
    · rw [sublist_nil.mp none_]
      exact .inr (.inl rfl)
    · rw [sublist_nil.mp nothing]
      exact .inr (.inr (.inr rfl))

theorem publishedPath (names : Names) : (rebound (publication v path tmp) names).lookup path = some v.fresh := AList.lookup_insert _

theorem publicationRecovered (quiet : v.Quiet) (temp : Temp v path tmp) (crashed : w.Crashed c)
    (nodes : ∀ i < v.fresh, w.nodes i = v.nodes i) (whole : w.nodes v.fresh = ⟨data,data.length,false⟩) {kept : List Rebinding}
    (some_ : kept.Sublist (publication v path tmp)) (names : c.names = rebound kept v.names) : Recovered v path data c := by
  have new (bound : c.names.lookup path = some v.fresh) : c.read path = some data := by
    rw [crashedRead crashed,bound,Option.map_some,crashedWhole crashed (by rw [whole]),whole]
  have moved (before : Names) : ((before.erase tmp).insert path v.fresh).lookup tmp = none :=
    (AList.lookup_insert_ne temp.other).trans (AList.lookup_erase _ _)
  refine recoveredFrom quiet temp crashed nodes (by rw [whole]) (fun name temporary other => ?_) ?_ ?_
  · rw [names]
    refine reboundOther (fun d member touches => ?_)
    have change := some_.subset member
    simp only [publication,mem_cons,not_mem_nil,or_false] at change
    rcases change with rfl | rfl
    · exact temporary touches
    · exact touches.elim temporary other
  · rw [names]
    rcases publicationKept some_ with rfl | rfl | rfl | rfl
    · exact .inl temp.unused
    · exact .inr (AList.lookup_insert _)
    · exact .inl (moved _)
    · exact .inl (moved _)
  · rcases publicationKept some_ with rfl | rfl | rfl | rfl
    · exact .inl (by rw [names]; rfl)
    · exact .inl (by rw [names]; exact AList.lookup_insert_ne temp.other.symm)
    · exact .inr (new (by rw [names]; exact AList.lookup_insert _))
    · exact .inr (new (by rw [names]; exact publishedPath _))

theorem stageRecovered (quiet : v.Quiet) (stage : Stage v path data w) (crashed : w.Crashed c) : Recovered v path data c := by
  obtain ⟨kept,some_,names⟩ := crashed.names
  cases stage with
  | start =>
    rw [quiet.pending] at some_
    rw [sublist_nil.mp some_] at names
    have same (name : String) := readSame quiet crashed (fun _ _ => rfl) (congrArg (fun bound : Names => bound.lookup name) names)
    exact ⟨.inl (same path).2,fun name _ => .inl (same name)⟩
  | preparing temp prepared =>
    have only := fun d member => prepared.changes d (some_.subset member)
    rw [prepared.names] at names
    refine recoveredFrom quiet temp crashed prepared.nodes prepared.file (fun name temporary _ => ?_) ?_ (.inl ?_)
    · rw [names]
      exact preparedOther only temporary v.names
    · rw [names]
      exact preparedBinding only (.inl temp.unused)
    · rw [names]
      exact preparedOther only temp.other.symm v.names
  | renamed temp unchanged nodes pending whole =>
    rw [pending] at some_
    rw [unchanged] at names
    exact publicationRecovered quiet temp crashed nodes whole some_ names
  | synced temp published nodes pending whole =>
    rw [pending] at some_
    rw [sublist_nil.mp some_] at names
    exact publicationRecovered quiet temp crashed nodes whole (List.Sublist.refl _) (names.trans published)

theorem publishedRecovered (published : Published v path data w) (crashed : w.Crashed c) : c.read path = some data := by
  obtain ⟨tmp,temp,names,pending,whole⟩ := published
  obtain ⟨kept,some_,left⟩ := crashed.names
  rw [pending] at some_
  rw [sublist_nil.mp some_,names] at left
  have bound : c.names.lookup path = some v.fresh := by
    rw [left]
    exact publishedPath _
  rw [crashedRead crashed,bound,Option.map_some,crashedWhole crashed (by rw [whole]),whole]

end
section
variable {world : FileWorld} {name : String} {entries : List (String × Bool)}

theorem unlinkCurrent (gone : String) (v : Volume) : (v.unlink gone).current = v.current.erase gone := by
  rw [Volume.current,Volume.unlink,reboundAppend]
  rfl

theorem removeSource (world : FileWorld) (gone : String) (s : FileState) :
    (fileStep world (.remove gone) s).2.volume = s.volume ∨ (fileStep world (.remove gone) s).2.volume = s.volume.unlink gone := by
  change (onName world gone (fun _ => Volume.unlink gone) s).2.volume = _ ∨ (onName world gone (fun _ => Volume.unlink gone) s).2.volume = _
  unfold onName fileEffect
  cases s.volume.current.lookup gone with
  | none => exact .inl rfl
  | some node =>
    cases world.refuses s.calls with
    | some e => exact .inl rfl
    | none => exact .inr rfl

theorem removeAnswered (answered : ∀ k, world.refuses k = none) (gone : String) (s : FileState) :
    (fileStep world (.remove gone) s).2.volume.current.lookup gone = none := by
  change (onName world gone (fun _ => Volume.unlink gone) s).2.volume.current.lookup gone = none
  unfold onName
  cases bound : s.volume.current.lookup gone with
  | none => exact bound
  | some node =>
    dsimp only
    rw [effectDone (answered s.calls),unlinkCurrent]
    exact AList.lookup_erase _ _

theorem removeOther (world : FileWorld) {gone : String} (other : name ≠ gone) (s : FileState) :
    (fileStep world (.remove gone) s).2.volume.current.lookup name = s.volume.current.lookup name := by
  rcases removeSource world gone s with same | unlinked
  · rw [same]
  · rw [unlinked,unlinkCurrent,AList.lookup_erase_ne other]

theorem removeNodes (world : FileWorld) (gone : String) (s : FileState) : (fileStep world (.remove gone) s).2.volume.nodes = s.volume.nodes := by
  rcases removeSource world gone s with same | unlinked
  · rw [same]
  · rw [unlinked]
    rfl

def swept (world : FileWorld) (entries : List (String × Bool)) (s : FileState) : FileState :=
  (Prog.alone (fileStep world) (sweepEntries entries) s).2

theorem sweptCons (world : FileWorld) (entry : String × Bool) (rest : List (String × Bool)) (s : FileState) :
    swept world (entry :: rest) s =
      if entry.2 = false ∧ isTmp entry.1 = true then swept world rest (fileStep world (.remove entry.1) s).2 else swept world rest s := by
  obtain ⟨gone,isDir⟩ := entry
  simp only [swept,sweepEntries]
  split <;> rfl

theorem sweptKeeps (entries : List (String × Bool)) (plain : isTmp name = false) (s : FileState) :
    (swept world entries s).volume.current.lookup name = s.volume.current.lookup name ∧ (swept world entries s).volume.nodes = s.volume.nodes := by
  induction entries generalizing s with
  | nil => exact ⟨rfl,rfl⟩
  | cons entry rest ih =>
    rw [sweptCons]
    split
    · rename_i removed
      have other : name ≠ entry.1 := by
        intro same
        rw [same,removed.2] at plain
        contradiction
      obtain ⟨lookup,nodes⟩ := ih (fileStep world (.remove entry.1) s).2
      exact ⟨lookup.trans (removeOther world other s),nodes.trans (removeNodes world entry.1 s)⟩
    · exact ih s

theorem sweptGone (entries : List (String × Bool)) (s : FileState) (gone : s.volume.current.lookup name = none) :
    (swept world entries s).volume.current.lookup name = none := by
  induction entries generalizing s with
  | nil => exact gone
  | cons entry rest ih =>
    rw [sweptCons]
    split
    · refine ih (fileStep world (.remove entry.1) s).2 ?_
      rcases removeSource world entry.1 s with same | unlinked
      · rw [same,gone]
      · by_cases this : name = entry.1
        · rw [unlinked,unlinkCurrent,this]
          exact AList.lookup_erase _ _
        · rw [unlinked,unlinkCurrent,AList.lookup_erase_ne this,gone]
    · exact ih s gone

theorem sweptRemoves (answered : ∀ k, world.refuses k = none) (listed : (name,false) ∈ entries) (suffix : isTmp name = true) (s : FileState) :
    (swept world entries s).volume.current.lookup name = none := by
  induction entries generalizing s with
  | nil => cases listed
  | cons entry rest ih =>
    rw [sweptCons]
    rcases mem_cons.mp listed with here | later
    · rw [← here,if_pos ⟨rfl,suffix⟩]
      exact sweptGone rest _ (removeAnswered answered name s)
    · split
      · exact ih later _
      · exact ih later s

theorem sweepSource (world : FileWorld) (s : FileState) :
    ∃ entries, (Prog.alone (fileStep world) SweepOrphanTmp s).2.volume = (swept world entries ⟨s.volume,s.calls+1⟩).volume ∧
      (world.refuses s.calls = none → ∀ name node, s.volume.current.lookup name = some node →
        (name,(s.volume.nodes node).directory) ∈ entries) := by
  have ran : fileStep world .readDir s = readDir world s := rfl
  have asked : Prog.alone (fileStep world) SweepOrphanTmp s = Prog.alone (fileStep world) _ (fileStep world .readDir s).2 := rfl
  rw [asked,ran,readDir]
  cases refused : world.refuses s.calls with
  | some e => exact ⟨[],rfl,fun answered => by cases answered⟩
  | none =>
    refine ⟨_,rfl,fun _ name node bound => ?_⟩
    exact mem_map.mpr ⟨⟨name,node⟩,AList.mem_lookup_iff.mp bound,rfl⟩

end

def sweptVolume (world : FileWorld) (c : Volume) : Volume := (Prog.alone (fileStep world) SweepOrphanTmp ⟨c,0⟩).2.volume

theorem writeFileAtomic (world sweeping : FileWorld) (path : String) (data : List UInt8) (perm : Nat) (s : FileState) (n : Nat) (c : Volume)
    (quiet : s.volume.Quiet) (crashed : (Prog.after (fileStep world) n (WriteFile path data perm) s).2.volume.Crashed c) :
    Recovered s.volume path data c ∧
    ((Prog.after (fileStep world) n (WriteFile path data perm) s).1 = .done none → c.read path = some data) ∧
    (∀ name, Leftover s.volume c name → (∀ k, sweeping.refuses k = none) → (sweptVolume sweeping c).current.lookup name = none) ∧
    (isTmp path = false → (sweptVolume sweeping c).read path = c.read path) := by
  obtain ⟨stage,ends⟩ := Prog.safeAfter (writeStaged world path data perm s quiet) n
  obtain ⟨entries,volume,listed⟩ := sweepSource sweeping ⟨c,0⟩
  refine ⟨stageRecovered quiet stage crashed,fun ended => publishedRecovered (ends none ended rfl) crashed,fun name left answered => ?_,fun plain => ?_⟩
  · obtain ⟨node,bound,file⟩ := left.file
    have entry := listed (answered 0) name node bound
    rw [file] at entry
    rw [sweptVolume,volume]
    exact sweptRemoves answered entry left.suffix _
  · obtain ⟨lookup,nodes⟩ := @sweptKeeps sweeping path entries plain ⟨c,1⟩
    rw [sweptVolume,volume,Volume.read,Volume.read,lookup,nodes]

def emptyDir : FileState := ⟨⟨∅,[],fun _ => ⟨[],0,false⟩,0⟩,0⟩
def calmFiles : FileWorld := ⟨fun _ => none,fun _ => 7,fun _ => 0⟩

theorem emptyQuiet : emptyDir.volume.Quiet := by
  refine ⟨rfl,fun name node bound => ?_,fun name node bound => ?_⟩
  · cases bound
  · cases bound

theorem writeFileAtomicNew : ∃ c, (Prog.after (fileStep calmFiles) 7 (WriteFile "m" [1,2] 384) emptyDir).2.volume.Crashed c ∧
    c.read "m" = some [1,2] := by
  obtain ⟨c,crashed,_⟩ := crashedAsSeen (Prog.after (fileStep calmFiles) 7 (WriteFile "m" [1,2] 384) emptyDir).2.volume
  exact ⟨c,crashed,(writeFileAtomic calmFiles calmFiles "m" [1,2] 384 emptyDir 7 c emptyQuiet crashed).2.1 rfl⟩

end VpnPack.State
