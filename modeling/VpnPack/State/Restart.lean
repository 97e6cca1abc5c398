import VpnPack.State.CrashAtomic
import VpnPack.State.RoundTrip

/-! A machine that stops while a mutator saves the manifest, and the next start, which sweeps
the directory and loads the file. Reading is given by what the bytes decode to. -/
namespace VpnPack.State
open Base List

def fileOf (decode : List UInt8 → Content) (path : String) (v : Volume) : Content :=
  match v.read path with
  | none => .missing
  | some data => decode data

theorem currentLoads (cal : Calendar) (now : Time) {k : Kept} (current : Current k) :
    ∃ loaded, LoadManifest cal now (fileContent cal k.file) = .ok loaded ∧ loaded.recovered = false ∧
      getters loaded.document = getters k.memory := by
  rcases current.file with ⟨missing,alike⟩ | written
  · have same : getters (NewManifest now) = getters (NewManifest 0) := rfl
    rw [missing]
    exact ⟨_,rfl,rfl,same.trans (gettersIff.mpr alike)⟩
  · rw [written]
    exact ⟨_,loadsSized cal now current.sized,rfl,gettersIff.mpr (readBackAlike k.memory)⟩

theorem sweptRead (world : FileWorld) {path : String} (plain : isTmp path = false) (c : Volume) :
    (sweptVolume world c).read path = c.read path := by
  obtain ⟨entries,volume,_⟩ := sweepSource world ⟨c,0⟩
  obtain ⟨lookup,nodes⟩ := @sweptKeeps world path entries plain ⟨c,1⟩
  rw [sweptVolume,volume,Volume.read,Volume.read,lookup,nodes]

theorem stoppedSaveLoads (cal : Calendar) (decode : List UInt8 → Content) (world sweeping : FileWorld) (created t now : Time) (perm n : Nat)
    {run : List (Time × Edit)} {m : Mutator} {k : Kept} {path : String} {data : List UInt8} {s : FileState} {c : Volume}
    (typed : ∀ call ∈ run, call.2.Typed) (next : m.Typed) (reached : saving run ⟨NewManifest created,none⟩ = k)
    (plain : isTmp path = false) (quiet : s.volume.Quiet) (held : fileOf decode path s.volume = fileContent cal k.file)
    (encoded : decode data = fileContent cal (mutate .ok t m k).2.file)
    (crashed : (Prog.after (fileStep world) n (WriteFile path data perm) s).2.volume.Crashed c) :
    ∃ loaded, LoadManifest cal now (fileOf decode path (sweptVolume sweeping c)) = .ok loaded ∧ loaded.recovered = false ∧
      (getters loaded.document = getters k.memory ∨ getters loaded.document = getters (mutate .ok t m k).2.memory) ∧
      ((Prog.after (fileStep world) n (WriteFile path data perm) s).1 = .done none →
        getters loaded.document = getters (mutate .ok t m k).2.memory) := by
  have fresh : Alike (NewManifest 0) (NewManifest created) := ⟨rfl,rfl,fun _ => rfl,fun _ => rfl,rfl,rfl,fun _ => rfl,rfl,rfl,rfl⟩
  have before : Current k := by
    rw [← reached]
    exact savingCurrent typed ⟨⟨rfl,fun _ member => by cases member⟩,.inl ⟨rfl,fresh⟩⟩
  have after : Current (mutate .ok t m k).2 := @editCurrent (.mutator m) t next k before
  obtain ⟨stage,ends⟩ := Prog.safeAfter (writeStaged world path data perm s quiet) n
  have read : fileOf decode path (sweptVolume sweeping c) = fileOf decode path c := by rw [fileOf,fileOf,sweptRead sweeping plain]
  have new (whole : c.read path = some data) : fileOf decode path c = fileContent cal (mutate .ok t m k).2.file := by
    rw [fileOf,whole]
    exact encoded
  rw [read]
  by_cases whole : c.read path = some data
  · obtain ⟨loaded,loads,sound,same⟩ := currentLoads cal now after
    rw [new whole]
    exact ⟨loaded,loads,sound,.inr same,fun _ => same⟩
  · obtain ⟨loaded,loads,sound,same⟩ := currentLoads cal now before
    have old := (stageRecovered quiet stage crashed).whole.resolve_right whole
    have content : fileOf decode path c = fileContent cal k.file := by rw [← held,fileOf,fileOf,old]
    rw [content]
    exact ⟨loaded,loads,sound,.inl same,fun ended => absurd (publishedRecovered (ends none ended rfl) crashed) whole⟩

theorem stoppedSaveLoadsFirst :
    let new := fileContent tallies (mutate .ok 1 (.setSiteID "default") ⟨NewManifest 0,none⟩).2.file
    ∃ c loaded, (Prog.after (fileStep calmFiles) 3 (WriteFile "m" [1,2] 384) emptyDir).2.volume.Crashed c ∧
      LoadManifest tallies 9 (fileOf (fun _ => new) "m" (sweptVolume calmFiles c)) = .ok loaded ∧ loaded.recovered = false := by
  intro new
  obtain ⟨c,crashed,_⟩ := crashedAsSeen (Prog.after (fileStep calmFiles) 3 (WriteFile "m" [1,2] 384) emptyDir).2.volume
  have typed : ∀ call ∈ ([] : List (Time × Edit)), call.2.Typed := fun _ member => by cases member
  have next : (Mutator.setSiteID "default").Typed := trivial
  obtain ⟨loaded,loads,sound,_⟩ :=
    stoppedSaveLoads tallies (fun _ => new) calmFiles calmFiles 0 1 9 384 3 typed next rfl (by decide) emptyQuiet rfl rfl crashed
  exact ⟨c,loaded,crashed,loads,sound⟩

end VpnPack.State
