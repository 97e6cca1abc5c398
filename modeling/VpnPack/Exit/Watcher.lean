import VpnPack.Base.Runs
import VpnPack.Exit.Atomic

/-! One Enable interleaved with ticks of the firewall watcher. Every getter and setter
of the manifest, every call of the local API, every load and store of the applying
flag and every Apply, Cleanup or Reconcile is one step. What Enable does after a
failed step is not followed here. -/
namespace VpnPack.Exit
open Base List Net Ops Service

structure Shared where
  state : State
  applying : Bool

inductive EnablePc where
  | status
  | getPrefs (peer : PeerStatus)
  | store (prefs : Prefs)
  | getRemote (prefs : Prefs)
  | saga (captured : State) (left : List EnableStep)
  | returned
  | failed

def EnablePc.isReturned : EnablePc → Bool
  | .returned => true
  | _ => false

def enableNext (env : Env) (req : EnableRemoteExitRequest) (s : Shared) : EnablePc → EnablePc × Shared
  | .status =>
    if req.peerID = "" then (.failed,s)
    else
      match asking env.world .status s.state with
      | (some _,t) => (.failed,{s with state := t})
      | (none,t) =>
        match findPeerByID env.peers req.peerID with
        | none => (.failed,{s with state := t})
        | some peer => (if peer.exitNodeOption then .getPrefs peer else .failed,{s with state := t})
  | .getPrefs peer =>
    match asking env.world .getPrefs s.state with
    | (some _,t) => (.failed,{s with state := t})
    | (none,t) =>
      match confirmMessage req t.prefs peer,invalidRequest req with
      | none,none => (.store t.prefs,{s with state := t})
      | _,_ => (.failed,{s with state := t})
  | .store prefs => (.getRemote prefs,{s with applying := true})
  | .getRemote prefs => (.saga {s.state with prefs := prefs} (enableSteps env prefs),s)
  | .saga _ [] => (.returned,{s with applying := false})
  | .saga captured (step :: left) =>
    match (step.op env req captured).Do s.state with
    | (some _,t) => (.failed,{s with state := t})
    | (none,t) => (.saga captured left,{s with state := t})
  | .returned => (.returned,s)
  | .failed => (.failed,s)

inductive TickPc where
  | check
  | getPrefs
  | getRemote (tsExitNode : String)
  | cleanup
  | write (remote : Option RemoteExitNode)
  | look
  | reconcile (policy : ExitNodePolicy)
  | finished
  deriving DecidableEq, Repr

-- SyncManifestFromTailscale once it has read the prefs and the manifest.
def syncNext (tsExitNode : String) (rem : Option RemoteExitNode) : TickPc :=
  if tsExitNode = "" then
    match rem with
    | some _ => .cleanup
    | none => .look
  else
    match rem with
    | none => .write (some ⟨tsExitNode,.all,[]⟩)
    | some r => if r.peerID = tsExitNode then .look else .write (some ⟨tsExitNode,r.mode,r.clients⟩)

def noPolicy : ExitNodePolicy := ⟨.unset,[]⟩

def restorePolicy (rem : Option RemoteExitNode) : ExitNodePolicy :=
  match rem with
  | some r => if r.mode = .off then noPolicy else ⟨r.mode,r.clients⟩
  | none => noPolicy

def tickNext (env : Env) (ctx : Context) (discover : Bridges) (s : Shared) : TickPc → TickPc × Shared
  | .check => (if env.exitSvc then if s.applying then .look else .getPrefs else .finished,s)
  | .getPrefs =>
    match asking env.world .getPrefs s.state with
    | (some _,t) => (.look,{s with state := t})
    | (none,t) => (.getRemote t.prefs.exitNodeID,{s with state := t})
  | .getRemote tsExitNode => (syncNext tsExitNode s.state.manifest.remoteExitNode,s)
  | .cleanup => (.write none,{s with state := (Cleanup env.world s.state).2})
  | .write remote => (.look,{s with state := (setRemoteExitNode env.world remote s.state).2})
  | .look => (.reconcile (restorePolicy s.state.manifest.remoteExitNode),s)
  | .reconcile policy => (.finished,{s with state := (Reconcile env.world env.back ctx discover policy s.state).2})
  | .finished => (.finished,s)

-- A tick is early if it started before Enable returned.
structure Tick where
  pc : TickPc
  early : Bool
  deriving DecidableEq, Repr

structure Config where
  shared : Shared
  enable : EnablePc
  ticks : List Tick

inductive Action where
  | enable
  | start
  | tick (index : Nat) (ctx : Context) (discover : Bridges)

def advance (env : Env) (req : EnableRemoteExitRequest) : Action → Config → Config
  | .enable,c => {c with enable := (enableNext env req c.shared c.enable).1, shared := (enableNext env req c.shared c.enable).2}
  | .start,c => {c with ticks := c.ticks ++ [⟨.check,!c.enable.isReturned⟩]}
  | .tick index ctx discover,c =>
    match c.ticks[index]? with
    | none => c
    | some t =>
      {c with
        shared := (tickNext env ctx discover c.shared t.pc).2
        ticks := c.ticks.set index ⟨(tickNext env ctx discover c.shared t.pc).1,t.early⟩}

def starting (s : State) : Config := ⟨⟨s,false⟩,.status,[]⟩

def EnablePc.Done (k : EnableStep) : EnablePc → Prop
  | .saga _ left => k ∉ left
  | .returned => True
  | _ => False

/- A tick writes the manifest only before Enable does, or writes the same. -/
def Undisturbed (req : EnableRemoteExitRequest) : Action → Config → Prop
  | .tick index _ _,c =>
    ∀ t remote, c.ticks[index]? = some t → t.pc = .write remote → c.enable.Done .persistRemote → remote = some req.newRemote
  | _,_ => True

def Quiesced (c : Config) : Prop :=
  c.enable.isReturned = true ∧ ∀ t ∈ c.ticks, t.early = true → t.pc = .finished

def requestedRules (req : EnableRemoteExitRequest) : ExitNodePolicy :=
  if req.requestMode = .off then noPolicy else req.policy

structure Upheld (req : EnableRemoteExitRequest) (c : Config) : Prop where
  remote : c.shared.state.manifest.remoteExitNode = some req.newRemote
  exit : c.shared.state.prefs.exitNodeID = req.peerID
  policies : ∀ t ∈ c.ticks, ∀ p, t.pc = .reconcile p → p = requestedRules req

def Effect (req : EnableRemoteExitRequest) (s : State) : EnableStep → Prop
  | .persistRemote => s.manifest.remoteExitNode = some req.newRemote
  | .setPrefs => s.prefs.exitNodeID = req.peerID
  | _ => True

def TickPc.Late (req : EnableRemoteExitRequest) : TickPc → Prop
  | .getRemote tsExitNode => tsExitNode = req.peerID
  | .cleanup | .write _ => False
  | .reconcile p => p = requestedRules req
  | _ => True

structure Intact (req : EnableRemoteExitRequest) (c : Config) : Prop where
  named : c.enable ≠ .status → c.enable ≠ .failed → req.peerID ≠ ""
  effects : ∀ k, c.enable.Done k → Effect req c.shared.state k
  late : ∀ t ∈ c.ticks, t.early = false → c.enable = .returned ∧ t.pc.Late req

section
variable {env : Env} {req : EnableRemoteExitRequest} {s t : State} {k : EnableStep}

theorem effectPart (same : part t k = part s k) (effect : Effect req s k) : Effect req t k := by
  cases k with
  | persistRemote => exact (Part.remote.inj same).trans effect
  | setPrefs => exact (congrArg Prefs.exitNodeID (Part.prefs.inj same)).trans effect
  | _ => trivial

theorem effectBeside (beside : Beside s t) (effect : Effect req s k) : Effect req t k := by
  cases k with
  | applyRules => trivial
  | _ => exact effectPart (besidePart beside (by decide)) effect

theorem effectDone {u : State} (ran : (k.op env req u).Do s = (none,t)) : Effect req t k := by
  cases k with
  | persistRemote => exact congrArg (fun r => r.2.manifest.remoteExitNode) ran.symm
  | setPrefs =>
    change EditPrefs env.world (req.newPrefs u.prefs) s = (none,t) at ran
    simp only [EditPrefs] at ran
    split at ran
    · simp at ran
    · cases ran
      rfl
  | _ => trivial

theorem enableKeeps {s : Shared} {pc : EnablePc} (named : pc ≠ .status → pc ≠ .failed → req.peerID ≠ "")
    (effects : ∀ k, pc.Done k → Effect req s.state k) :
    ((enableNext env req s pc).1 ≠ .status → (enableNext env req s pc).1 ≠ .failed → req.peerID ≠ "") ∧
    ∀ k, (enableNext env req s pc).1.Done k → Effect req (enableNext env req s pc).2.state k := by
  cases pc with
  | status =>
    simp only [enableNext]
    split
    · exact ⟨fun _ alive => absurd rfl alive,fun _ bad => bad.elim⟩
    rename_i present
    refine ⟨fun _ _ => present,fun k done => ?_⟩
    split at done
    · exact done.elim
    · split at done
      · exact done.elim
      · split at done <;> exact done.elim
  | getPrefs peer =>
    refine ⟨fun _ _ => named (by simp) (by simp),fun k done => ?_⟩
    simp only [enableNext] at done
    split at done
    · exact done.elim
    · split at done <;> exact done.elim
  | store prefs => exact ⟨fun _ _ => named (by simp) (by simp),fun _ bad => bad.elim⟩
  | getRemote prefs =>
    refine ⟨fun _ _ => named (by simp) (by simp),fun k done => ?_⟩
    cases k with
    | persistRemote | setPrefs => exact absurd (by simp [enableSteps]) done
    | _ => trivial
  | saga captured left =>
    refine ⟨fun _ _ => named (by simp) (by simp),fun k done => ?_⟩
    cases left with
    | nil => exact effects k not_mem_nil
    | cons step left =>
      simp only [enableNext] at done ⊢
      split at done
      · exact done.elim
      · rename_i t ran
        by_cases same : k = step
        · subst same
          exact effectDone ran
        · have before : Effect req s.state k := effects k (not_mem_cons_of_ne_of_not_mem same done)
          have kept : part t k = part s.state k := @keepsRan _ _ (fun s => part s k) _ _ _ _ (stepKeeps same).1 ran
          exact effectPart kept before
  | returned | failed => exact ⟨named,effects⟩

end

section
variable {env : Env} {req : EnableRemoteExitRequest} {ctx : Context} {discover : Bridges} {s : Shared} {pc : TickPc}

theorem askingBeside {world : World} {call : Call} {s t : State} {r : Option GoError} (ran : asking world call s = (r,t)) : Beside s t := by
  rw [askingRun] at ran
  rw [← (Prod.mk.inj ran).2]
  exact ⟨rfl,rfl,rfl⟩

theorem tickBeside (reads : ∀ remote, pc ≠ .write remote) : Beside s.state (tickNext env ctx discover s pc).2.state := by
  cases pc with
  | write remote => exact absurd rfl (reads remote)
  | cleanup => exact cleanLasting besideLasting s.state
  | reconcile policy => exact reconcileLasting besideLasting (fun _ _ _ => ⟨rfl,rfl,rfl⟩) s.state
  | getPrefs =>
    simp only [tickNext]
    split
    · rename_i ran
      exact askingBeside ran
    · rename_i ran
      exact askingBeside ran
  | _ => exact besideLasting.same _

theorem tickKeeps {pc' : EnablePc} (effects : ∀ k, pc'.Done k → Effect req s.state k)
    (undisturbed : ∀ remote, pc = .write remote → pc'.Done .persistRemote → remote = some req.newRemote) :
    ∀ k, pc'.Done k → Effect req (tickNext env ctx discover s pc).2.state k := by
  intro k done
  have before := effects k done
  by_cases writes : ∃ remote, pc = .write remote
  · obtain ⟨remote,rfl⟩ := writes
    cases k with
    | persistRemote => exact undisturbed remote rfl done
    | setPrefs => exact before
    | _ => trivial
  · exact effectBeside (tickBeside (fun remote same => writes ⟨remote,same⟩)) before

theorem syncSettled (named : req.peerID ≠ "") : syncNext req.peerID (some req.newRemote) = .look := by
  simp [syncNext,named,EnableRemoteExitRequest.newRemote]

theorem restoreRequested : restorePolicy (some req.newRemote) = requestedRules req := rfl

theorem tickLate (named : req.peerID ≠ "") (remote : s.state.manifest.remoteExitNode = some req.newRemote)
    (exit : s.state.prefs.exitNodeID = req.peerID) (late : pc.Late req) : (tickNext env ctx discover s pc).1.Late req := by
  cases pc with
  | check =>
    simp only [tickNext]
    split
    · split <;> trivial
    · trivial
  | getPrefs =>
    simp only [tickNext]
    split
    · trivial
    · rename_i ran
      exact (congrArg Prefs.exitNodeID (askingBeside ran).2.2).trans exit
  | getRemote tsExitNode =>
    simp only [tickNext]
    rw [late,remote,syncSettled named]
    trivial
  | look =>
    simp only [tickNext,remote]
    exact restoreRequested
  | cleanup | write _ => exact late.elim
  | _ => trivial

end

section
variable {env : Env} {req : EnableRemoteExitRequest} {c : Config}

theorem startIntact (s : State) : Intact req (starting s) :=
  ⟨fun other => absurd rfl other,fun _ bad => bad.elim,fun t member => by simp [starting] at member⟩

theorem enableIntact (intact : Intact req c) : Intact req (advance env req .enable c) := by
  obtain ⟨named,effects⟩ := @enableKeeps env req c.shared c.enable intact.named intact.effects
  refine ⟨named,effects,fun t member late => ?_⟩
  obtain ⟨returned,place⟩ := intact.late t member late
  refine ⟨?_,place⟩
  change (enableNext env req c.shared c.enable).1 = .returned
  rw [returned]
  rfl

theorem returnedSource {pc : EnablePc} (returned : pc.isReturned = true) : pc = .returned := by
  cases pc <;> first | rfl | contradiction

theorem newTickIntact (intact : Intact req c) : Intact req (advance env req .start c) := by
  refine ⟨intact.named,intact.effects,fun t member late => ?_⟩
  rcases mem_append.mp member with old | new
  · exact intact.late t old late
  · cases mem_singleton.mp new
    have returned : c.enable.isReturned = true := by simpa using late
    exact ⟨returnedSource returned,trivial⟩

theorem tickIntact {index : Nat} {ctx : Context} {discover : Bridges} (intact : Intact req c)
    (undisturbed : Undisturbed req (.tick index ctx discover) c) : Intact req (advance env req (.tick index ctx discover) c) := by
  simp only [advance]
  split
  · exact intact
  rename_i t found
  refine ⟨intact.named,tickKeeps intact.effects (fun remote => undisturbed t remote found),fun u member late => ?_⟩
  rcases mem_or_eq_of_mem_set member with old | rfl
  · exact intact.late u old late
  · obtain ⟨returned,place⟩ := intact.late t (mem_of_getElem? found) late
    have done (k : EnableStep) : c.enable.Done k := by
      rw [returned]
      trivial
    have named : req.peerID ≠ "" := intact.named (by simp [returned]) (by simp [returned])
    exact ⟨returned,tickLate named (intact.effects .persistRemote (done _)) (intact.effects .setPrefs (done _)) place⟩

theorem advanceIntact (a : Action) (intact : Intact req c) (undisturbed : Undisturbed req a c) : Intact req (advance env req a c) := by
  cases a with
  | enable => exact enableIntact intact
  | start => exact newTickIntact intact
  | tick index ctx discover => exact tickIntact intact undisturbed

end

def watchedEnv : Env := ⟨calm,calm,background,background,.ok [lanBridge],[exitPeer],true⟩
def oneTick (index : Nat) : Action := .tick index background (.ok [lanBridge])

def interleave (actions : List Action) : Config :=
  actions.foldl (fun c a => advance watchedEnv secondExit a c) (starting idleState)

theorem readingUndisturbed {req : EnableRemoteExitRequest} {c : Config} {index : Nat} (pc : TickPc)
    (here : (c.ticks[index]?).map Tick.pc = some pc) (reads : ∀ remote, pc ≠ .write remote) : Undisturbed req (oneTick index) c := by
  intro t remote found writes
  rw [found,Option.map_some,writes] at here
  exact absurd (Option.some.inj here).symm (reads remote)

def tickAfterEnable : List Action := List.replicate 8 .enable ++ [.start,oneTick 0,oneTick 0,oneTick 0,oneTick 0]

/- A tick has read the prefs before Enable, finds the new entry and clears it; the
next tick makes a new one for mode all out of a selective request. -/
def staleTick : List Action :=
  [.start,oneTick 0,oneTick 0] ++ List.replicate 8 .enable ++ List.replicate 5 (oneTick 0) ++
    .start :: List.replicate 6 (oneTick 1)

end VpnPack.Exit
