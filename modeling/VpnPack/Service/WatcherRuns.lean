import VpnPack.Service.Concurrent
import VpnPack.Service.DeleteRefused

/-! Finite sets of CreateTunnel and DeleteTunnel calls with any number of ticks of the watcher, from a
system whose entries and rules are of listed tunnels. Ticks may even overlap
one another. Zones are told apart by their IDs. -/
namespace VpnPack.Service
open Base Firewall Integration Ops State Udapi Wgs2s

def threadOf (reqs : List CreateRequest) (deletes : List String) (ticks : Nat) : Name → Program Unit
  | .create n =>
    match reqs[n]? with
    | some req => (fun _ => ()) <$> Program.CreateTunnel req
    | none => pure ()
  | .delete id => if id ∈ deletes then (fun _ => ()) <$> Program.DeleteTunnel id else pure ()
  | .tick n => if n < ticks then Program.restoreWgS2sRules else pure ()

abbrev Pool : Type := Threads Name Call Call.Answer Noted

def started (reqs : List CreateRequest) (deletes : List String) (ticks : Nat) (s : System) : Pool :=
  ⟨⟨s,⟨[],[],fun _ => []⟩⟩,threadOf reqs deletes ticks⟩

def advance (host : Host) (wg : WireGuard) : Name → Pool → Pool := Threads.advance (perform host wg)
def interleaved (host : Host) (wg : WireGuard) (run : List Name) (p : Pool) : Pool := run.foldl (fun p x => advance host wg x p) p

def AllSucceed (host : Host) (wg : WireGuard) : List Name → Pool → Prop :=
  Along (advance host wg) (Threads.Allows (fun _ c s => Succeeds host wg c s.sys))

def AllTimely (host : Host) (wg : WireGuard) : List Name → Pool → Prop :=
  Along (advance host wg) (Threads.Allows (fun _ c s => Timely c s))

instance (host : Host) (wg : WireGuard) (run : List Name) (p : Pool) : Decidable (AllSucceed host wg run p) := Along.decidable run p

instance (host : Host) (wg : WireGuard) (run : List Name) (p : Pool) : Decidable (AllTimely host wg run p) := Along.decidable run p

structure Agreed (first : List String) (s : System) : Prop where
  entries : EntriesListed s
  rules : RulesListed s
  zones : ∀ z ∈ s.api.site.zones, z.id ∈ first ∨ Referenced z.id s

def zoneIDs (s : System) : List String := s.api.site.zones.map Zone.id

section
variable {host : Host} {wg : WireGuard} {reqs : List CreateRequest} {deletes : List String} {ticks : Nat} {s : System} {run : List Name}

theorem agreedStart (entries : EntriesListed s) (rules : RulesListed s) : Agreed (zoneIDs s) s :=
  ⟨entries,rules,fun _ member => .inl (List.mem_map_of_mem member)⟩

theorem startedSound (agreed : Agreed (zoneIDs s) s) :
    Threads.Sound (discipline host wg (zoneIDs s)) (Through host) (started reqs deletes ticks s) := by
  refine ⟨⟨agreed.entries,agreed.rules,fun z member => .inl (List.mem_map_of_mem member)⟩,fun x => ?_⟩
  have free : (started reqs deletes ticks s).shared.notes.held x = [] := rfl
  have idle : (discipline host wg (zoneIDs s)).Keeps x (fun _ => Through host x) (pure ()) (started reqs deletes ticks s).shared :=
    Discipline.keepsPure (stableHeld []) free (fun _ _ still _ => still)
  change (discipline host wg (zoneIDs s)).Keeps x (fun _ => Through host x) (threadOf reqs deletes ticks x) (started reqs deletes ticks s).shared
  cases x with
  | create n =>
    have creates (req : CreateRequest) := @keepsCreateTunnel host wg (zoneIDs s) (.create n) _ (fun _ own => by cases own) free req
    simp only [threadOf]
    cases reqs[n]? with
    | none => exact idle
    | some req => exact Discipline.keepsMap (Discipline.keepsMono (creates req) (fun _ _ _ last _ => last))
  | delete id =>
    simp only [threadOf]
    split
    · exact Discipline.keepsMap (keepsDeleteTunnel free)
    · exact idle
  | tick n =>
    have ticking := @keepsTick host wg (zoneIDs s) (.tick n) _ (fun _ own => by cases own) free
    simp only [threadOf]
    split
    · exact Discipline.keepsMono ticking (fun _ _ _ last _ => last)
    · exact idle

theorem allowsBoth {p : Pool} : Along (advance host wg) (Threads.Allows (discipline host wg (zoneIDs s)).allowed) run p ↔
    AllSucceed host wg run p ∧ AllTimely host wg run p := by
  refine Iff.trans ?_ alongAnd
  refine alongIff (fun _ => True) (fun x _ q _ => ?_) (fun _ _ _ _ _ => trivial) trivial
  unfold Threads.Allows
  split
  · exact ⟨fun _ => ⟨trivial,trivial⟩,fun _ => trivial⟩
  · exact Iff.rfl

theorem interleavedAgree (agreed : Agreed (zoneIDs s) s) (succeeds : AllSucceed host wg run (started reqs deletes ticks s))
    (timely : AllTimely host wg run (started reqs deletes ticks s))
    (ended : ∀ x, (interleaved host wg run (started reqs deletes ticks s)).Over x) :
    Agreed (zoneIDs s) (interleaved host wg run (started reqs deletes ticks s)).shared.sys := by
  have sound := Threads.runSound (startedSound agreed) (allowsBoth.mpr ⟨succeeds,timely⟩)
  refine ⟨sound.holds.entries,sound.holds.rules,fun z member => ?_⟩
  rcases sound.holds.zones z member with old | ⟨ready,_,referenced | ⟨x,held⟩⟩
  · exact .inl old
  · exact .inr referenced
  · have free := Threads.soundOver sound (ended x) ready
    rw [free] at held
    contradiction

def names (reqs : List CreateRequest) (deletes : List String) (ticks : Nat) : List Name :=
  (List.range reqs.length).map .create ++ deletes.map .delete ++ (List.range ticks).map .tick

theorem startedIdle {x : Name} (absent : x ∉ names reqs deletes ticks) : (started reqs deletes ticks s).Over x := by
  have idle : threadOf reqs deletes ticks x = pure () := by
    cases x with
    | create n =>
      have beyond : reqs.length ≤ n := by simpa [names] using absent
      simp only [threadOf,List.getElem?_eq_none beyond]
    | delete id =>
      have other : id ∉ deletes := by simpa [names] using absent
      simp only [threadOf,if_neg other]
    | tick n =>
      have beyond : ¬ n < ticks := by simpa [names] using absent
      simp only [threadOf,if_neg beyond]
  have here : (started reqs deletes ticks s).progs x = pure () := idle
  unfold Threads.Over
  rw [here]
  trivial

theorem allOver (each : ∀ x ∈ names reqs deletes ticks, (interleaved host wg run (started reqs deletes ticks s)).Over x) (x : Name) :
    (interleaved host wg run (started reqs deletes ticks s)).Over x := by
  by_cases present : x ∈ names reqs deletes ticks
  · exact each x present
  · exact Threads.overStays run (startedIdle present)

end

def disabledBranch : TunnelConfig := {enabledBranch with enabled := false}

def pairSystem : System :=
  {vacantSystem with
    wg := {vacant with config := [disabledBranch,enabledDepot]}
    store := ⟨sharedManifest "VPN",0⟩
    udapi := {vacantSystem.udapi with rules := fun chain => [branchRule "VPN" chain]}
    api := {vacantSystem.api with site := ⟨[⟨"z1","VPN Pack: A"⟩],[]⟩}}

def pairRun : List Name :=
  List.replicate 3 (.tick 0) ++ (List.replicate 15 [.delete "t1",.tick 0]).flatten ++ List.replicate 5 (.tick 0)

def pairEnd : Pool := interleaved quietHost (manager obliging) pairRun (started [] ["t1"] 1 pairSystem)

theorem interleavedAgreePair : pairEnd.shared.sys.tunnels.map TunnelConfig.id = ["t2"] ∧
      (pairEnd.shared.sys.udapi.rules .forwardIn).map Rule.marker = ["wg-s2s-manager:wg-s2s1"] ∧ Agreed ["z1"] pairEnd.shared.sys := by
  have agreed : Agreed (zoneIDs pairSystem) pairSystem := agreedStart (by decide +kernel) (by decide +kernel)
  have pair : (AllSucceed quietHost (manager obliging) pairRun (started [] ["t1"] 1 pairSystem) ∧
      AllTimely quietHost (manager obliging) pairRun (started [] ["t1"] 1 pairSystem) ∧ ∀ x ∈ names [] ["t1"] 1, pairEnd.Over x) ∧
      pairEnd.shared.sys.tunnels.map TunnelConfig.id = ["t2"] ∧
      (pairEnd.shared.sys.udapi.rules .forwardIn).map Rule.marker = ["wg-s2s-manager:wg-s2s1"] := by decide +kernel
  obtain ⟨⟨succeeds,timely,ended⟩,tunnels,rules⟩ := pair
  exact ⟨tunnels,rules,interleavedAgree agreed succeeds timely (allOver ended)⟩

def raceSystem : System :=
  {vacantSystem with
    wg := {vacant with config := [enabledBranch]}
    store := ⟨{bareManifest with wgS2s := AList.singleton "t1" ⟨"z1","VPN Pack: A",[],"VPN"⟩},0⟩
    api := {vacantSystem.api with site := ⟨[internalZone,⟨"z1","VPN Pack: A"⟩],[]⟩}}

def racePool : Pool := started [] ["t1"] 1 raceSystem
def raceRun : List Name := List.replicate 13 (.delete "t1") ++ List.replicate 29 (.tick 0) ++ [.delete "t1"]
def raceEnd : Pool := interleaved quietHost (manager obliging) raceRun racePool
def twinRequest : CreateRequest := {branchRequest with createZone := true, zoneName := "Branch"}
def twinPool : Pool := started [twinRequest] [] 1 vacantSystem
def twinRun : List Name := List.replicate 2 (.create 0) ++ List.replicate 29 (.tick 0) ++ List.replicate 26 (.create 0)
def twinEnd : Pool := interleaved quietHost (manager obliging) twinRun twinPool

theorem interleavedDisagree :
    (Agreed (zoneIDs raceSystem) raceSystem ∧ AllSucceed quietHost (manager obliging) raceRun racePool ∧ (∀ x, raceEnd.Over x) ∧
      raceEnd.shared.sys.tunnels = [] ∧ ¬ EntriesListed raceEnd.shared.sys ∧ ¬ RulesListed raceEnd.shared.sys) ∧
    Agreed (zoneIDs vacantSystem) vacantSystem ∧ AllSucceed quietHost (manager obliging) twinRun twinPool ∧ (∀ x, twinEnd.Over x) ∧
      zoneIDs vacantSystem = ["int"] ∧ zoneIDs twinEnd.shared.sys = ["int","|","||||"] ∧ ¬ Referenced "|" twinEnd.shared.sys := by
  have race : (AllSucceed quietHost (manager obliging) raceRun racePool ∧ ∀ x ∈ names [] ["t1"] 1, raceEnd.Over x) ∧
      raceEnd.shared.sys.tunnels.length = 0 ∧ ¬ EntriesListed raceEnd.shared.sys ∧ ¬ RulesListed raceEnd.shared.sys := by decide +kernel
  have twin : (AllSucceed quietHost (manager obliging) twinRun twinPool ∧ ∀ x ∈ names [twinRequest] [] 1, twinEnd.Over x) ∧
      zoneIDs vacantSystem = ["int"] ∧ zoneIDs twinEnd.shared.sys = ["int","|","||||"] ∧ ¬ Referenced "|" twinEnd.shared.sys := by
    decide +kernel
  obtain ⟨⟨raceOk,raceOver⟩,gone,entries,rules⟩ := race
  obtain ⟨⟨twinOk,twinOver⟩,zones⟩ := twin
  have raceStart : Agreed (zoneIDs raceSystem) raceSystem := agreedStart (by decide +kernel) (by decide +kernel)
  have twinStart : Agreed (zoneIDs vacantSystem) vacantSystem := agreedStart (by decide +kernel) (by decide +kernel)
  exact ⟨⟨raceStart,raceOk,allOver raceOver,List.eq_nil_of_length_eq_zero gone,entries,rules⟩,twinStart,twinOk,allOver twinOver,zones⟩

end VpnPack.Service
