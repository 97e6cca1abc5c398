import VpnPack.Server.Watchers

/-! Whether a degraded firewall watcher stays degraded. A call of SetDegraded is looked at
together with every continuation up to the first one in which OnKeyConfigured touches the
tracker. Only what ticks do counts: neither start-up nor a signal nor a handler. -/
namespace VpnPack.Health
open Base State

inductive Act where
  | retry
  | rules
  | exitNode
  deriving DecidableEq, Repr

def WatcherPhase.act : WatcherPhase → Option Act
  | .settingUp => some .retry
  | .openingPort => some .retry
  | .auditForward => some .rules
  | .auditInput => some .rules
  | .restoring => some .rules
  | .wgS2sZones => some .rules
  | .wgS2sSetup _ => some .rules
  | .exitNode => some .exitNode
  | _ => none

def RefreshPhase.act : RefreshPhase → Option Act
  | .settingUp => some .retry
  | .openingPort => some .retry
  | _ => none

def act : Move → Server → Option Act
  | .watcher _,s => s.watcher.bind WatcherPhase.act
  | .refresh _,s => s.refresh.bind RefreshPhase.act
  | _,_ => none

def SetsDegraded : Move → Server → Prop
  | .main _,s => s.main = .degrading
  | .refresh _,s => s.refresh = some .degrading ∨ s.refresh = some .failed
  | _,_ => False

def Unconfigured : Move → Server → Prop
  | .handler i _,s => s.handlers i ≠ .clearing ∧ s.handlers i ≠ .recording
  | _,_ => True

def Stays (counts : Act → Prop) (m : Move) (s : Server) : Prop :=
  (step m s).IsDegraded = true ∧ ∀ a, act m s = some a → ¬ counts a

def StaysDegraded (counts : Act → Prop) (s : Server) : Prop :=
  ∀ more, Along step Unconfigured more s → Along step (Stays counts) more s

def Gated (a : Act) : Prop := a ≠ .exitNode
def Any (_ : Act) : Prop := True

/- In a phase that is not quiet the watcher has passed a gate and not reached the next, or has
yet to announce itself. -/
def WatcherPhase.quiet : WatcherPhase → Bool
  | .starting => false
  | .attempting => false
  | .settingUp => false
  | .rereading => false
  | .retried => false
  | .openingPort => false
  | .lookingUp => false
  | .auditForward => false
  | .auditInput => false
  | .checking => false
  | .restoring => false
  | .restoreFailed _ => false
  | .restored => false
  | .wgS2sZones => false
  | .wgS2sCheck => false
  | .wgS2sSetup _ => false
  | _ => true

def Quiet (s : Server) : Prop :=
  match s.watcher with
  | none => s.hasUDAPISocket = false
  | some p => p.quiet = true

def RefreshPhase.quiet : RefreshPhase → Bool
  | .policies => false
  | .guarding => false
  | .settingUp => false
  | .releasing _ => false
  | .openingPort => false
  | _ => true

section
variable {s : Server} {r : Reply} {m : Move} {counts : Act → Prop}

structure Latched (s : Server) : Prop where
  degraded : s.IsDegraded = true
  watcher : ∀ p ∈ s.watcher, p.quiet = true
  refresh : ∀ p ∈ s.refresh, p.quiet = true
  main : s.main = .serving ∨ s.hasUDAPISocket = false ∧ s.main.launches = false

variable {p : WatcherPhase} {a : Act}

theorem quietIf {c : Prop} [Decidable c] {q : WatcherPhase} (first : p.quiet = true) (second : q.quiet = true) :
    (if c then p else q).quiet = true := by
  split
  · exact first
  · exact second

theorem watcherQuiet {q : WatcherPhase} (degraded : s.IsDegraded = true) (here : s.watcher = some p) (quiet : p.quiet = true)
    (next : (p.advance r s).watcher = some q) : q.quiet = true := by
  cases p with
  | idle =>
    cases here.symm.trans next
    rfl
  | retry | retryZone | restore | wgS2s =>
    cases next
    exact quietIf rfl rfl
  | shouldRetry =>
    simp only [WatcherPhase.advance,HealthTracker.degradedNoRetry degraded] at next
    cases next
    rfl
  | restoreGate | wgS2sGate =>
    simp only [WatcherPhase.advance,degraded] at next
    cases next
    rfl
  | resetting | exitNode | releasing | reapplying | reapplied =>
    cases next
    rfl
  | _ => contradiction

theorem watcherDegraded {p : WatcherPhase} (degraded : s.IsDegraded = true) (quiet : p.quiet = true) : (p.advance r s).IsDegraded = true := by
  obtain ⟨m,same⟩ := setupKeeps r s
  cases p with
  | resetting => exact HealthTracker.resetDegraded.trans degraded
  | reapplying =>
    simp only [WatcherPhase.advance,same]
    exact degraded
  | idle | retry | retryZone | shouldRetry | restore | restoreGate | wgS2s | wgS2sGate | exitNode | releasing | reapplied => exact degraded
  | _ => contradiction

theorem watcherAct (quiet : p.quiet = true) (acts : p.act = some a) : a = .exitNode := by
  cases p <;> first | contradiction | (cases acts; rfl)

theorem refreshQuiet {p q : RefreshPhase} (degraded : s.IsDegraded = true) (quiet : p.quiet = true)
    (next : (p.advance r s).refresh = some q) : q.quiet = true := by
  cases p with
  | expiry st =>
    cases next
    split <;> rfl
  | repair st =>
    simp only [RefreshPhase.advance,degraded,Bool.not_true,Bool.and_false] at next
    cases next
    rfl
  | idle | clearing | resetting | degrading | asking | failed =>
    cases next
    rfl
  | _ => contradiction

theorem refreshDegraded {p : RefreshPhase} (degraded : s.IsDegraded = true) (quiet : p.quiet = true) : (p.advance r s).IsDegraded = true := by
  cases p with
  | degrading => exact HealthTracker.setDegraded "key_expired"
  | failed => exact HealthTracker.setDegraded "setup_failed"
  | idle | expiry _ | clearing | resetting | asking | repair _ => exact degraded
  | _ => contradiction

theorem refreshAct {p : RefreshPhase} (quiet : p.quiet = true) : p.act = none := by
  cases p <;> first | rfl | contradiction

theorem handlerHealth {p : HandlerPhase} (i : Nat) (r : Reply) (s : Server) (other : p ≠ .clearing ∧ p ≠ .recording) :
    (p.advance i r s).health = s.health := by
  obtain ⟨m,same⟩ := setupKeeps r s
  cases p with
  | absent | guarding =>
    simp only [HandlerPhase.advance]
    split <;> rfl
  | settingUp => simp only [HandlerPhase.advance,same]
  | releasing | openingPort => rfl
  | clearing => exact absurd rfl other.1
  | recording => exact absurd rfl other.2

theorem mainLatched (latched : Latched s) : Latched (s.main.advance r s) := by
  obtain ⟨degraded,watcher,refresh,main⟩ := latched
  rcases main with serving | ⟨bare,before⟩
  · rw [serving]
    exact ⟨degraded,watcher,refresh,.inl serving⟩
  · cases here : s.main with
    | validating =>
      simp only [MainPhase.advance]
      split
      · exact ⟨degraded,watcher,refresh,.inr ⟨bare,rfl⟩⟩
      · split
        · exact ⟨degraded,watcher,refresh,.inr ⟨bare,rfl⟩⟩
        · split <;> exact ⟨degraded,watcher,refresh,.inr ⟨bare,rfl⟩⟩
    | clearing | discovering | preparing => exact ⟨degraded,watcher,refresh,.inr ⟨bare,rfl⟩⟩
    | degrading => exact ⟨HealthTracker.setDegraded "key_invalid",watcher,refresh,.inr ⟨bare,rfl⟩⟩
    | connecting =>
      simp only [MainPhase.advance]
      split
      · exact ⟨degraded,watcher,refresh,.inr ⟨bare,rfl⟩⟩
      · split
        · rename_i socket
          rw [bare] at socket
          contradiction
        · exact ⟨degraded,watcher,refresh,.inr ⟨bare,rfl⟩⟩
    | refreshing =>
      refine ⟨degraded,watcher,fun q there => ?_,.inl rfl⟩
      cases there
      rfl
    | serving => exact ⟨degraded,watcher,refresh,.inl here⟩
    | stopped => exact ⟨degraded,watcher,refresh,.inr ⟨bare,by rw [MainPhase.advance,here]; rfl⟩⟩
    | applying | settingUp | releasing | launching =>
      rw [here] at before
      contradiction

theorem watcherLatched (latched : Latched s) : Latched (step (.watcher r) s) := by
  cases here : s.watcher with
  | none =>
    simp only [step,here]
    exact latched
  | some p =>
    have quiet := latched.watcher p here
    have degraded := @watcherDegraded s r p latched.degraded quiet
    have next (q : WatcherPhase) (there : q ∈ (p.advance r s).watcher) : q.quiet = true := watcherQuiet latched.degraded here quiet there
    obtain ⟨h,b,m,same⟩ := watcherFrame p r s
    rw [watcherSteps here]
    refine ⟨degraded,next,?_,?_⟩
    · rw [same]
      exact latched.refresh
    · rw [same]
      exact latched.main

theorem refreshLatched (latched : Latched s) : Latched (step (.refresh r) s) := by
  cases here : s.refresh with
  | none =>
    simp only [step,here]
    exact latched
  | some p =>
    have quiet := latched.refresh p here
    have degraded := @refreshDegraded s r p latched.degraded quiet
    have next (q : RefreshPhase) (there : q ∈ (p.advance r s).refresh) : q.quiet = true := refreshQuiet latched.degraded quiet there
    obtain ⟨h,b,k,m,same⟩ := refreshFrame p r s
    rw [refreshSteps here]
    refine ⟨degraded,?_,next,?_⟩
    · rw [same]
      exact latched.watcher
    · rw [same]
      exact latched.main

theorem beginsLatched (quiet : p.quiet = true) (latched : Latched s) :
    Latched (if s.watcher = some .idle ∧ s.restoring = false then {s with restoring := true, watcher := some p} else s) := by
  split
  · refine ⟨latched.degraded,fun q there => ?_,latched.refresh,latched.main⟩
    cases there
    exact quiet
  · exact latched

theorem tailscaleDegraded (now : Nat) (err : Option String) (ht : HealthTracker) :
    (recordTailscale now err ht).IsDegraded .firewall = ht.IsDegraded .firewall := by
  cases err <;> exact HealthTracker.degradedOther _ (by decide)

theorem latchedStep (latched : Latched s) (unconfigured : Unconfigured m s) : Latched (step m s) := by
  cases m with
  | pass _ | key _ | manifest _ => exact ⟨latched.degraded,latched.watcher,latched.refresh,latched.main⟩
  | tailscale err => exact ⟨(tailscaleDegraded s.now err s.health).trans latched.degraded,latched.watcher,latched.refresh,latched.main⟩
  | main r => exact mainLatched latched
  | tick | sighup => exact beginsLatched rfl latched
  | watcher r => exact watcherLatched latched
  | refresh r => exact refreshLatched latched
  | handler i r =>
    have health := handlerHealth i r s unconfigured
    obtain ⟨h,b,other,same⟩ := handlerFrame (s.handlers i) i r s
    simp only [step]
    rw [same] at health ⊢
    refine ⟨?_,latched.watcher,latched.refresh,latched.main⟩
    exact (congrArg (HealthTracker.IsDegraded .firewall) health).trans latched.degraded

theorem latchedAct (latched : Latched s) (acts : act m s = some a) : a = .exitNode ∧ s.watcher ≠ none := by
  cases m with
  | watcher r =>
    obtain ⟨p,here,does⟩ := Option.bind_eq_some_iff.mp acts
    exact ⟨watcherAct (latched.watcher p here) does,by rw [here]; exact Option.some_ne_none p⟩
  | refresh r =>
    obtain ⟨p,here,does⟩ := Option.bind_eq_some_iff.mp acts
    rw [refreshAct (latched.refresh p here)] at does
    contradiction
  | _ => contradiction

theorem latchedStays (latched : Latched s) : StaysDegraded Gated s := by
  intro more
  induction more generalizing s with
  | nil => exact fun _ => trivial
  | cons m rest ih =>
    intro along
    have next := latchedStep latched along.1
    exact ⟨⟨next.degraded,fun a acts counts => counts (latchedAct latched acts).1⟩,ih next along.2⟩

theorem spoiledNow (unconfigured : Unconfigured m s) (breaks : ¬ Stays counts m s) : ¬ StaysDegraded counts s :=
  fun stays => breaks (stays [m] ⟨unconfigured,trivial⟩).1

theorem spoiledLater (unconfigured : Unconfigured m s) (spoiled : ¬ StaysDegraded counts (step m s)) : ¬ StaysDegraded counts s :=
  fun stays => spoiled (fun more along => (stays (m :: more) ⟨unconfigured,along⟩).2)

theorem spoiledHealthy (here : s.watcher = some p) (r : Reply) (healthy : (p.advance r s).IsDegraded = false) :
    ¬ StaysDegraded counts s := by
  refine @spoiledNow s (.watcher r) counts trivial (fun stays => ?_)
  have still := stays.1
  rw [watcherSteps here,healthy] at still
  contradiction

theorem spoiledActing (here : s.watcher = some p) (r : Reply) (acts : p.act = some a) (counted : counts a) : ¬ StaysDegraded counts s := by
  refine @spoiledNow s (.watcher r) counts trivial (fun stays => stays.2 a ?_ counted)
  rw [act,here]
  exact acts

theorem spoiledOn (here : s.watcher = some p) (r : Reply) (spoiled : ¬ StaysDegraded counts (p.advance r s)) :
    ¬ StaysDegraded counts s := by
  refine @spoiledLater s (.watcher r) counts trivial ?_
  rw [watcherSteps here]
  exact spoiled

end

def noZone : ZoneManifest := ⟨"","",[],""⟩
def someZone : ZoneManifest := ⟨"z","",[],""⟩
def blank : Manifest := ⟨"",noZone,∅,∅,"",""⟩
def missingAll : Reply := ⟨none,false,true,noZone,blank,false,false,false,false,1,⟨"",none⟩⟩

section
variable {s : Server} {counts : Act → Prop}

section
variable (gated : ∀ a, Gated a → counts a)
include gated

theorem noisySpoils {p : WatcherPhase} (here : s.watcher = some p) (noisy : p.quiet = false) : ¬ StaysDegraded counts s := by
  have rules : counts .rules := gated _ (by decide : Act.rules ≠ .exitNode)
  have retry : counts .retry := gated _ (by decide : Act.retry ≠ .exitNode)
  cases p with
  | starting | retried | restored => exact spoiledHealthy here missingAll HealthTracker.successHealthy
  | restoreFailed err => exact spoiledHealthy here missingAll (HealthTracker.errorUnhealthy err)
  | settingUp | openingPort => exact spoiledActing here missingAll rfl retry
  | auditForward | auditInput | restoring | wgS2sZones | wgS2sSetup _ => exact spoiledActing here missingAll rfl rules
  | attempting => exact spoiledOn here missingAll (spoiledActing rfl missingAll rfl retry)
  | lookingUp | checking | wgS2sCheck => exact spoiledOn here missingAll (spoiledActing rfl missingAll rfl rules)
  | rereading =>
    refine @spoiledLater s (.manifest {s.manifest with tailscale := someZone}) counts trivial ?_
    refine spoiledOn here missingAll ?_
    exact spoiledHealthy rfl missingAll HealthTracker.successHealthy
  | _ => contradiction

theorem launchingSpoils (here : s.main = .launching) : ¬ StaysDegraded counts s := by
  refine @spoiledLater s (.main missingAll) counts trivial ?_
  simp only [step,here]
  exact noisySpoils gated rfl rfl

theorem settingUpSpoils (here : s.main = .settingUp) : ¬ StaysDegraded counts s := by
  refine @spoiledLater s (.main missingAll) counts trivial ?_
  simp only [step,here]
  refine @spoiledLater _ (.main missingAll) counts trivial ?_
  exact launchingSpoils gated rfl

theorem connectingSpoils (here : s.main = .connecting) (socket : s.hasUDAPISocket = true) : ¬ StaysDegraded counts s := by
  have connected : step (.main missingAll) s = {s with main := .applying} := by
    simp only [step,here,MainPhase.advance,socket]
    rfl
  refine @spoiledLater s (.main missingAll) counts trivial ?_
  rw [connected]
  refine @spoiledLater _ (.main missingAll) counts trivial ?_
  simp only [step,MainPhase.advance]
  split
  · exact settingUpSpoils gated rfl
  · exact launchingSpoils gated rfl

end

def WatcherPhase.rank : WatcherPhase → Nat
  | .exitNode => 0
  | .wgS2sGate => 1
  | .wgS2s => 2
  | .restoreGate => 3
  | .restore => 4
  | .resetting => 5
  | .shouldRetry => 5
  | .retryZone => 6
  | .retry => 7
  | .idle => 8
  | .releasing => 9
  | .reapplied => 9
  | _ => 10

theorem rankIf {c : Prop} [Decidable c] {p q : WatcherPhase} {n : Nat} (first : p.rank < n) (second : q.rank < n) :
    (if c then p else q).rank < n := by
  split
  · exact first
  · exact second

theorem rankNext {p q : WatcherPhase} {r : Reply} (degraded : s.IsDegraded = true) (quiet : p.quiet = true) (busy : p ≠ .idle)
    (before : p ≠ .exitNode) (next : (p.advance r s).watcher = some q) : q.rank < p.rank := by
  cases p with
  | idle => exact absurd rfl busy
  | exitNode => exact absurd rfl before
  | shouldRetry =>
    simp only [WatcherPhase.advance,HealthTracker.degradedNoRetry degraded] at next
    cases next
    decide
  | restoreGate | wgS2sGate =>
    simp only [WatcherPhase.advance,degraded] at next
    cases next
    decide
  | retry | retryZone | restore | wgS2s =>
    cases next
    exact rankIf (by decide) (by decide)
  | resetting | releasing | reapplying | reapplied =>
    cases next
    decide
  | _ => contradiction

theorem handlerFrees {i : Nat} (holds : (s.handlers i).holds = true) (latched : Latched s) (orderly : Orderly s)
    (free : ∀ t, Latched t → Orderly t → t.watcher = s.watcher → t.restoring = false → ¬ StaysDegraded counts t) : ¬ StaysDegraded counts s := by
  have releases (t : Server) (latched : Latched t) (orderly : Orderly t) (same : t.watcher = s.watcher) (here : t.handlers i = .releasing) :
      ¬ StaysDegraded counts t := by
    have unconfigured : Unconfigured (.handler i missingAll) t := by
      simp only [Unconfigured,here]
      decide
    refine spoiledLater unconfigured (free _ (latchedStep latched unconfigured) (orderlyStep _ orderly) ?_ ?_)
    · simp only [step,here]
      exact same
    · simp only [step,here]
      rfl
  cases here : s.handlers i with
  | releasing => exact releases s latched orderly rfl here
  | settingUp =>
    have unconfigured : Unconfigured (.handler i missingAll) s := by
      simp only [Unconfigured,here]
      decide
    obtain ⟨m,same⟩ := setupKeeps missingAll s
    refine spoiledLater unconfigured (releases _ (latchedStep latched unconfigured) (orderlyStep _ orderly) ?_ ?_)
    · simp only [step,here,HandlerPhase.advance,same]
    · simp only [step,here,HandlerPhase.advance,Function.update_self]
  | _ =>
    rw [here] at holds
    contradiction

theorem refreshFree {p : RefreshPhase} (quiet : p.quiet = true) : p.holds = false := by
  cases p <;> first | rfl | contradiction

theorem mainFree {p : MainPhase} (launched : p = .serving ∨ p.launches = false) : p.holds = false := by
  cases p <;> first | rfl | (rcases launched with same | same <;> contradiction)

theorem handlerHolding (latched : Latched s) (orderly : Orderly s) (here : s.watcher = some .idle) (set : s.restoring = true) :
    ∃ i, (s.handlers i).holds = true := by
  rcases orderly.guard set with first | ⟨p,member,owns⟩ | ⟨p,member,owns⟩ | last
  · rw [mainFree (latched.main.imp_right And.right)] at first
    contradiction
  · cases here.symm.trans member
    contradiction
  · rw [refreshFree (latched.refresh p member)] at owns
    contradiction
  · exact last

theorem tickReaches {p : WatcherPhase} (latched : Latched s) (orderly : Orderly s) (here : s.watcher = some p) : ¬ StaysDegraded Any s := by
  induction rank : p.rank using Nat.strong_induction_on generalizing s p with
  | _ n ih =>
    subst rank
    by_cases ends : p = .exitNode
    · subst ends
      exact spoiledActing here missingAll rfl trivial
    · by_cases idle : p = .idle
      · subst idle
        have free (t : Server) (latched : Latched t) (orderly : Orderly t) (same : t.watcher = s.watcher) (unset : t.restoring = false) :
            ¬ StaysDegraded Any t := by
          have begins : step .tick t = {t with restoring := true, watcher := some .retry} := if_pos ⟨same.trans here,unset⟩
          refine @spoiledLater t .tick Any trivial ?_
          refine ih 7 (by decide) (p := .retry) (latchedStep latched trivial) (orderlyStep .tick orderly) ?_ rfl
          rw [begins]
        cases set : s.restoring with
        | false => exact free s latched orderly rfl set
        | true =>
          obtain ⟨i,holds⟩ := handlerHolding latched orderly here set
          exact handlerFrees holds latched orderly free
      · have quiet := latched.watcher p here
        have still := @watcherStill s missingAll p here
        obtain ⟨q,next⟩ := Option.ne_none_iff_exists'.mp still
        refine @spoiledLater s (.watcher missingAll) Any trivial ?_
        refine ih q.rank (rankNext latched.degraded quiet idle ends next) (latchedStep latched trivial) (orderlyStep _ orderly) ?_ rfl
        rw [watcherSteps here,next]

end

section
variable {s : Server} {m : Move}

structure Marked (s t : Server) : Prop where
  degraded : t.IsDegraded = true
  watcher : t.watcher = s.watcher
  socket : t.hasUDAPISocket = s.hasUDAPISocket
  refresh : ∀ p ∈ t.refresh, p.quiet = true
  main : t.main = .serving ∨ t.main = .connecting

theorem setsMarks (orderly : Orderly s) (sets : SetsDegraded m s) : Marked s (step m s) := by
  cases m with
  | main r =>
    have here : s.main = .degrading := sets
    have bare := orderly.refresh (by rw [here]; decide)
    simp only [step,here,MainPhase.advance]
    refine ⟨HealthTracker.setDegraded "key_invalid",rfl,rfl,fun p member => ?_,.inr rfl⟩
    rw [show s.refresh = some p from member] at bare
    contradiction
  | refresh r =>
    have served {p : RefreshPhase} (here : s.refresh = some p) : s.main = .serving := by
      by_contra unserved
      rw [orderly.refresh unserved] at here
      contradiction
    rcases sets with here | here
    · rw [refreshSteps here]
      refine ⟨HealthTracker.setDegraded "key_expired",rfl,rfl,fun p member => ?_,.inl (served here)⟩
      cases member
      rfl
    · rw [refreshSteps here]
      refine ⟨HealthTracker.setDegraded "setup_failed",rfl,rfl,fun p member => ?_,.inl (served here)⟩
      cases member
      rfl
  | _ => contradiction

theorem markedLatched {t : Server} (marked : Marked s t) (quiet : Quiet s) (served : t.main = .connecting → s.watcher = none) : Latched t := by
  refine ⟨marked.degraded,fun p member => ?_,marked.refresh,?_⟩
  · have here : s.watcher = some p := marked.watcher.symm.trans member
    simp only [Quiet,here] at quiet
    exact quiet
  · rcases marked.main with serving | connecting
    · exact .inl serving
    · have none := served connecting
      simp only [Quiet,none] at quiet
      exact .inr ⟨marked.socket.trans quiet,by rw [connecting]; rfl⟩

theorem noisyMarked {t : Server} {counts : Act → Prop} (gated : ∀ a, Gated a → counts a) (marked : Marked s t) (orderly : Orderly t)
    (noisy : ¬ Quiet s) : ¬ StaysDegraded counts t := by
  cases here : s.watcher with
  | some p =>
    simp only [Quiet,here] at noisy
    exact noisySpoils gated (marked.watcher.trans here) (Bool.eq_false_iff.mpr noisy)
  | none =>
    simp only [Quiet,here] at noisy
    have socket : t.hasUDAPISocket = true := marked.socket.trans ((Bool.not_eq_false _).mp noisy)
    rcases marked.main with serving | connecting
    · have launched := (orderly.after (by rw [serving]; rfl)).mpr socket
      exact absurd (marked.watcher.trans here) launched
    · exact connectingSpoils gated connecting socket

theorem bareStays (latched : Latched s) (orderly : Orderly s) (bare : s.hasUDAPISocket = false) : StaysDegraded Any s := by
  intro more
  induction more generalizing s with
  | nil => exact fun _ => trivial
  | cons m rest ih =>
    intro along
    have next := latchedStep latched along.1
    refine ⟨⟨next.degraded,fun a acts _ => ?_⟩,ih next (orderlyStep m orderly) ((socketStep m s).trans bare) along.2⟩
    have socket := orderly.watching (latchedAct latched acts).2
    rw [bare] at socket
    contradiction

end

theorem degradedStays {s : Server} {m : Move} (reachable : Reachable s) (sets : SetsDegraded m s) :
    (StaysDegraded Gated (step m s) ↔ Quiet s) ∧ (StaysDegraded Any (step m s) ↔ s.hasUDAPISocket = false) := by
  have before := reachableOrderly reachable
  have orderly := orderlyStep m before
  have marked := setsMarks before sets
  have early (connecting : (step m s).main = .connecting) : s.watcher = none := by
    rw [← marked.watcher]
    exact orderly.before (by rw [connecting]; rfl)
  have noisy {counts : Act → Prop} (gated : ∀ a, Gated a → counts a) (stays : StaysDegraded counts (step m s)) : Quiet s := by
    by_contra noisy
    exact noisyMarked gated marked orderly noisy stays
  refine ⟨⟨noisy (fun _ gated => gated),fun quiet => latchedStays (markedLatched marked quiet early)⟩,fun stays => ?_,fun bare => ?_⟩
  · have quiet := noisy (fun _ _ => trivial) stays
    have latched := markedLatched marked quiet early
    cases here : s.watcher with
    | none =>
      simp only [Quiet,here] at quiet
      exact quiet
    | some p => exact absurd stays (tickReaches latched orderly (marked.watcher.trans here))
  · have none : s.watcher = none := by
      by_contra launched
      have socket := before.watching launched
      rw [bare] at socket
      contradiction
    have quiet : Quiet s := by
      simp only [Quiet,none]
      exact bare
    exact bareStays (markedLatched marked quiet early) orderly (marked.socket.trans bare)

def refused : Reply := {missingAll with err := some "unauthorized", unauthorized := true}
def expired : Reply := {missingAll with status := ⟨"key_expired",none⟩}
def sited : Manifest := {blank with siteID := "default"}
def toIdle : List Move := List.replicate 9 (.main {missingAll with manifest := sited, zone := someZone}) ++ [.watcher missingAll]
def toExpiry : List Move := [.refresh expired,.refresh missingAll,.refresh missingAll,.refresh missingAll]
def fresh : Server := NewServer 0 true true sited

theorem degradedStaysIdle : Quiet (play (toIdle ++ toExpiry) fresh) ∧
    StaysDegraded Gated (step (.refresh missingAll) (play (toIdle ++ toExpiry) fresh)) := by
  have quiet : Quiet (play (toIdle ++ toExpiry) fresh) := by rfl
  have sets : SetsDegraded (.refresh missingAll) (play (toIdle ++ toExpiry) fresh) := .inl rfl
  exact ⟨quiet,(degradedStays ⟨0,true,true,sited,playReached (toIdle ++ toExpiry) fresh⟩ sets).1.mpr quiet⟩

def toRefusal : List Move := [.main refused,.main missingAll]
def toStart : List Move := List.replicate 3 (.main missingAll) ++ [.watcher missingAll]
def toGate : List Move := [.tick] ++ List.replicate 5 (.watcher missingAll)

theorem degradedForgotten :
    (SetsDegraded (.main missingAll) (play toRefusal fresh) ∧ (play (toRefusal ++ [.main missingAll]) fresh).IsDegraded = true ∧
      (play (toRefusal ++ [.main missingAll] ++ toStart) fresh).IsDegraded = false) ∧
    (SetsDegraded (.refresh missingAll) (play (toIdle ++ toGate ++ toExpiry) fresh) ∧
      (play (toIdle ++ toGate ++ toExpiry ++ [.refresh missingAll,.watcher missingAll]) fresh).IsDegraded = true ∧
      act (.watcher missingAll) (play (toIdle ++ toGate ++ toExpiry ++ [.refresh missingAll,.watcher missingAll]) fresh) = some .rules ∧
      (play (toIdle ++ toGate ++ toExpiry ++ [.refresh missingAll] ++ List.replicate 6 (.watcher missingAll)) fresh).IsDegraded = false) :=
  ⟨⟨rfl,rfl,rfl⟩,.inl rfl,rfl,rfl,rfl⟩

end VpnPack.Health
