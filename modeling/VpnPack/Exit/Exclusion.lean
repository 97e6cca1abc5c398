import VpnPack.Base.Runs
import VpnPack.Exit.Atomic

/-! Advertising an exit node and using one: the requests that change the Tailscale
prefs, in any order, when every call they make is answered. The warning about
active VPN clients is not modelled. -/
namespace VpnPack.Exit
open Base Net Ops Service

structure SetRoutesRequest where
  routes : List Text
  exitNode : Bool
  deriving DecidableEq, Repr

def maxAdvertisedRoutes : Nat := 256

def parseRoutes : List Text → Except Error (List Prefix)
  | [] => .ok []
  | cidr :: rest =>
    match parsePrefix cidr with
    | none => .error (validationError ("invalid CIDR: " ++ String.ofList cidr))
    | some p =>
      match parseRoutes rest with
      | .error e => .error e
      | .ok later => .ok (p.Masked :: later)

def routePrefixes (req : SetRoutesRequest) : Except Error (List Prefix) :=
  if maxAdvertisedRoutes < req.routes.length then
    .error (validationError ("too many routes: " ++ toString req.routes.length ++ " (max " ++ toString maxAdvertisedRoutes ++ ")"))
  else
    match parseRoutes req.routes with
    | .error e => .error e
    | .ok prefixes => .ok (if req.exitNode then prefixes ++ [allIPv4,allIPv6] else prefixes)

def SetRoutes (world : World) (req : SetRoutesRequest) (s : State) : Option Error × State :=
  match routePrefixes req with
  | .error e => (some e,s)
  | .ok prefixes =>
    match EditPrefs world ⟨none,none,some prefixes⟩ s with
    | (some e,t) => (some (upstream e),t)
    | (none,t) => (none,t)

def handleSetRoutes (env : Env) (req : SetRoutesRequest) (s : State) : State :=
  if req.exitNode = true ∧ s.manifest.remoteExitNode ≠ none then
    match Disable env s with
    | (some _,t) => t
    | (none,t) => (SetRoutes env.world req t).2
  else (SetRoutes env.world req s).2

inductive Request where
  | setRoutes (env : Env) (req : SetRoutesRequest)
  | enable (env : Env) (req : EnableRemoteExitRequest)
  | disable (env : Env)

def Request.env : Request → Env
  | .setRoutes env _ => env
  | .enable env _ => env
  | .disable env => env

def serve : Request → State → State
  | .setRoutes env req,s => handleSetRoutes env req s
  | .enable env req,s => (Enable env req s).2
  | .disable env,s => (Disable env s).2

structure Answered (env : Env) : Prop where
  forward : ∀ n, env.world n = none
  backward : ∀ n, env.back n = none

def defaultRoute (p : Prefix) : Bool := p == allIPv4 || p == allIPv6
def Exclusive (p : Prefs) : Prop := p.exitNodeID ≠ "" → ∀ r ∈ p.advertiseRoutes, defaultRoute r = false

/- A request keeps the exclusion if it advertises no default route while an exit node
is in use, and does not start to use one while just one of the two is advertised. -/
def Excludes : Request → State → Prop
  | .setRoutes _ req,s =>
    req.exitNode = true ∨ s.prefs.exitNodeID = "" ∨
      ∀ prefixes, routePrefixes req = .ok prefixes → ∀ r ∈ prefixes, defaultRoute r = false
  | .enable env req,s =>
    Admitted env req s → (run env.ctx (sagaSteps env req s) (asked s)).1 = none →
      s.prefs.AdvertisesExitNode = true ∨ ∀ r ∈ s.prefs.advertiseRoutes, defaultRoute r = false
  | .disable _,_ => True

section
variable {env : Env} {s : State}

theorem answeredSteps {req : EnableRemoteExitRequest} {i : Nat} (answered : Answered env) : ¬ stepFails env req s i .persistRemote := by
  intro fails
  apply fails
  change (saveLocked env.world _).1 = none
  rw [saveLocked,answered.forward]
  rfl

theorem enableEffect (req : EnableRemoteExitRequest) (answered : Answered env) :
    (Admitted env req s ∧ (run env.ctx (sagaSteps env req s) (asked s)).1 = none →
      (Enable env req s).2.prefs = (req.newPrefs s.prefs).apply s.prefs ∧
        (Enable env req s).2.manifest.remoteExitNode = some req.newRemote) ∧
    (¬ (Admitted env req s ∧ (run env.ctx (sagaSteps env req s) (asked s)).1 = none) →
      (Enable env req s).2.prefs = s.prefs ∧ (Enable env req s).2.manifest.remoteExitNode = s.manifest.remoteExitNode) := by
  have first : (enableSteps env s.prefs)[0]? = some .persistRemote := rfl
  obtain ⟨last,setPrefs⟩ : ∃ i : Nat, (enableSteps env s.prefs)[i]? = some EnableStep.setPrefs :=
    List.getElem?_of_mem (by simp [enableSteps])
  rcases enableRun env req s with ⟨refused,log,state⟩ | ⟨admitted,state,_⟩
  · rw [state]
    exact ⟨fun both => absurd both.1 refused,fun _ => ⟨rfl,rfl⟩⟩
  · rw [state]
    rcases ran : run env.ctx (sagaSteps env req s) (asked s) with ⟨result,t⟩
    cases result with
    | none =>
      refine ⟨fun _ => ⟨?_,?_⟩,fun not => absurd ⟨admitted,rfl⟩ not⟩
      · have final := Part.prefs.inj (doneLeaves (onlyKind setPrefs) (sagaAt setPrefs) ran)
        have start : (sagaState env req s last).prefs = s.prefs := Part.prefs.inj (sagaStart setPrefs)
        rw [final]
        change (EditPrefs env.world _ (sagaState env req s last)).2.prefs = _
        simp only [EditPrefs,answered.forward,start]
        rfl
      · exact Part.remote.inj (doneLeaves (onlyKind first) (sagaAt first) ran)
    | some cause =>
      refine ⟨fun both => by simp at both,fun _ => ⟨prefsPart answered.backward setPrefs ran,?_⟩⟩
      exact (remotePart first ran).mpr (fun _ fails => absurd fails (answeredSteps answered))

theorem disableEffect (answered : Answered env) :
    (Disable env s).2.prefs.exitNodeID = "" ∧ (Disable env s).2.manifest.remoteExitNode = none := by
  simp only [Disable,EditPrefs,answered.forward]
  refine ⟨?_,rfl⟩
  change (if env.exitSvc = true then Cleanup env.world _ else _).2.prefs.exitNodeID = ""
  split
  · have beside := @cleanLasting env.world _ besideLasting {s with prefs := disablePrefs.apply s.prefs, log := s.log ++ [.editPrefs]}
    rw [beside.2.2]
    rfl
  · rfl

theorem setRoutesEffect (req : SetRoutesRequest) (answered : Answered env) :
    (SetRoutes env.world req s).2.prefs.exitNodeID = s.prefs.exitNodeID ∧ (SetRoutes env.world req s).2.manifest = s.manifest ∧
    (∀ prefixes, routePrefixes req = .ok prefixes → (SetRoutes env.world req s).2.prefs.advertiseRoutes = prefixes) ∧
    (∀ e, routePrefixes req = .error e → (SetRoutes env.world req s).2.prefs = s.prefs) := by
  unfold SetRoutes
  cases parsed : routePrefixes req with
  | error e => exact ⟨rfl,rfl,fun _ bad => (by cases bad),fun _ _ => rfl⟩
  | ok prefixes =>
    have edited : EditPrefs env.world ⟨none,none,some prefixes⟩ s =
        (none,{s with prefs := ⟨s.prefs.exitNodeID,s.prefs.exitNodeAllowLANAccess,prefixes⟩, log := s.log ++ [.editPrefs]}) := by
      simp only [EditPrefs,answered.forward]
      rfl
    simp only [edited]
    exact ⟨trivial,trivial,fun _ same => Except.ok.inj same,fun _ bad => (by cases bad)⟩

end

def Settled (s : State) : Prop :=
  Exclusive s.prefs ∧ (s.prefs.exitNodeID ≠ "" → s.manifest.remoteExitNode ≠ none)

section
variable {env : Env} {s : State}

theorem filteredRoutes (routes : List Prefix) : ∀ r ∈ filterNonExitRoutes routes, defaultRoute r = false := by
  intro r member
  have narrow := (List.mem_filter.mp member).2
  have four : r ≠ allIPv4 := by
    rintro rfl
    simp [allIPv4] at narrow
  have six : r ≠ allIPv6 := by
    rintro rfl
    simp [allIPv6] at narrow
  simp [defaultRoute,four,six]

theorem exclusiveIdle {p : Prefs} (idle : p.exitNodeID = "") : Exclusive p := fun used => absurd idle used

theorem setRoutesServed (req : SetRoutesRequest) (answered : Answered env) (settled : Settled s) :
    (Exclusive (handleSetRoutes env req s).prefs ↔ Excludes (.setRoutes env req) s) ∧
    (Excludes (.setRoutes env req) s → Settled (handleSetRoutes env req s)) := by
  unfold handleSetRoutes
  split
  · rename_i both
    obtain ⟨idle,cleared⟩ := @disableEffect env s answered
    rcases disabled : Disable env s with ⟨result,t⟩
    rw [disabled] at idle cleared
    cases result with
    | some e =>
      have fine : Exclusive t.prefs := exclusiveIdle idle
      exact ⟨iff_of_true fine (.inl both.1),fun _ => ⟨fine,fun used => absurd idle used⟩⟩
    | none =>
      obtain ⟨same,_,_,_⟩ := @setRoutesEffect env t req answered
      have idle' : (SetRoutes env.world req t).2.prefs.exitNodeID = "" := same.trans idle
      exact ⟨iff_of_true (exclusiveIdle idle') (.inl both.1),fun _ => ⟨exclusiveIdle idle',fun used => absurd idle' used⟩⟩
  · rename_i other
    obtain ⟨same,manifest,routes,refused⟩ := @setRoutesEffect env s req answered
    have kept : (SetRoutes env.world req s).2.prefs.exitNodeID ≠ "" → (SetRoutes env.world req s).2.manifest.remoteExitNode ≠ none := by
      rw [same,manifest]
      exact settled.2
    have exact_ : Exclusive (SetRoutes env.world req s).2.prefs ↔ Excludes (.setRoutes env req) s := by
      by_cases idle : s.prefs.exitNodeID = ""
      · exact iff_of_true (exclusiveIdle (same.trans idle)) (.inr (.inl idle))
      have plain : ¬ req.exitNode = true := fun flag => other ⟨flag,settled.2 idle⟩
      cases parsed : routePrefixes req with
      | error e =>
        rw [refused e parsed]
        refine iff_of_true settled.1 (.inr (.inr (fun prefixes ok => ?_)))
        rw [parsed] at ok
        cases ok
      | ok prefixes =>
        rw [Exclusive,same,routes prefixes parsed]
        constructor
        · intro fine
          refine .inr (.inr (fun others ok => ?_))
          rw [parsed] at ok
          cases ok
          exact fine idle
        · intro excludes used
          rcases excludes with flag | idle' | clear
          · exact absurd flag plain
          · exact absurd idle' idle
          · exact clear prefixes parsed
    exact ⟨exact_,fun excludes => ⟨exact_.mpr excludes,kept⟩⟩

theorem enableServed (req : EnableRemoteExitRequest) (answered : Answered env) (settled : Settled s) :
    (Exclusive (Enable env req s).2.prefs ↔ Excludes (.enable env req) s) ∧
    (Excludes (.enable env req) s → Settled (Enable env req s).2) := by
  obtain ⟨took,missed⟩ := @enableEffect env s req answered
  by_cases takes : Admitted env req s ∧ (run env.ctx (sagaSteps env req s) (asked s)).1 = none
  · obtain ⟨prefs,remote⟩ := took takes
    have used : (Enable env req s).2.prefs.exitNodeID ≠ "" := by
      rw [prefs]
      exact takes.1.1
    have exact_ : Exclusive (Enable env req s).2.prefs ↔ Excludes (.enable env req) s := by
      have routes : (Enable env req s).2.prefs.advertiseRoutes =
          if s.prefs.AdvertisesExitNode then filterNonExitRoutes s.prefs.advertiseRoutes else s.prefs.advertiseRoutes := by
        rw [prefs]
        cases advertises : s.prefs.AdvertisesExitNode <;>
          simp [EnableRemoteExitRequest.newPrefs,MaskedPrefs.apply,advertises]
      rw [Exclusive,routes]
      cases advertises : s.prefs.AdvertisesExitNode with
      | true => exact iff_of_true (fun _ => filteredRoutes _) (fun _ _ => .inl advertises)
      | false =>
        constructor
        · exact fun fine _ _ => .inr (fine used)
        · intro excludes _
          rcases excludes takes.1 takes.2 with bad | clear
          · rw [advertises] at bad
            contradiction
          · exact clear
    exact ⟨exact_,fun excludes => ⟨exact_.mpr excludes,fun _ => by rw [remote]; simp⟩⟩
  · obtain ⟨prefs,remote⟩ := missed takes
    have still : Settled (Enable env req s).2 := by
      rw [Settled,prefs,remote]
      exact settled
    exact ⟨iff_of_true still.1 (fun admitted done => absurd ⟨admitted,done⟩ takes),fun _ => still⟩

theorem requestServed {r : Request} (answered : Answered r.env) (settled : Settled s) :
    (Exclusive (serve r s).prefs ↔ Excludes r s) ∧ (Excludes r s → Settled (serve r s)) := by
  cases r with
  | setRoutes env req => exact setRoutesServed req answered settled
  | enable env req => exact enableServed req answered settled
  | disable env =>
    have idle : (serve (.disable env) s).prefs.exitNodeID = "" := (disableEffect answered).1
    exact ⟨iff_of_true (exclusiveIdle idle) trivial,fun _ => ⟨exclusiveIdle idle,fun used => absurd idle used⟩⟩

end

theorem exclusionAlong {requests : List Request} {s : State} (answered : ∀ r ∈ requests, Answered r.env)
    (idle : s.prefs.exitNodeID = "") (plain : ∀ r ∈ s.prefs.advertiseRoutes, defaultRoute r = false) :
    Along serve (fun r t => Exclusive (serve r t).prefs) requests s ↔ Along serve Excludes requests s :=
  alongIff Settled (fun r member _ settled => (requestServed (answered r member) settled).1)
    (fun r member _ settled => (requestServed (answered r member) settled).2)
    ⟨fun _ => plain,fun used => absurd idle used⟩

def quietEnv : Env := ⟨calm,calm,background,background,.ok [lanBridge],[exitPeer],false⟩
def lanRoute : SetRoutesRequest := ⟨["10.0.0.0/24".toList],false⟩
def defaultRouteOnly : SetRoutesRequest := ⟨["0.0.0.0/0".toList],false⟩

theorem exclusionAlongLan :
    Along serve (fun r t => Exclusive (serve r t).prefs) [.enable quietEnv secondExit,.setRoutes quietEnv lanRoute] idleState ∧
    (serve (.setRoutes quietEnv lanRoute) (serve (.enable quietEnv secondExit) idleState)).prefs.exitNodeID = "n2" := by
  refine ⟨?_,by decide +kernel⟩
  have calm_ : Answered quietEnv := ⟨fun _ => rfl,fun _ => rfl⟩
  have answered : ∀ r ∈ [Request.enable quietEnv secondExit,.setRoutes quietEnv lanRoute], Answered r.env := by
    intro r member
    simp only [List.mem_cons,List.not_mem_nil,or_false] at member
    rcases member with rfl | rfl
    · exact calm_
    · exact calm_
  rw [exclusionAlong answered rfl (by simp [idleState])]
  refine ⟨fun _ _ => .inr (by simp [idleState]),.inr (.inr (fun prefixes ok => ?_)),trivial⟩
  have parsed : (routePrefixes lanRoute).toOption.all (fun list => list.all (fun r => !defaultRoute r)) = true := by decide +kernel
  rw [ok] at parsed
  simpa [Except.toOption] using parsed

theorem defaultRouteBesideExit : (serve (.setRoutes quietEnv defaultRouteOnly) (serve (.enable quietEnv secondExit) idleState)).prefs =
      ⟨"n2",true,[allIPv4]⟩ := by decide +kernel

end VpnPack.Exit
