import VpnPack.Base.Runs
import VpnPack.Server.Health
import VpnPack.State.Manifest

/-! The goroutines that read and write the health of the firewall watcher: start-up, the watcher
itself, the status refresh, and the handlers that end in OnKeyConfigured. Each goes from call
to call, and any of them may be the next to go on. What the API, UDAPI, iptables and the disk
answer is given with the step. The firewall manager is there, as main makes it; the rest of
the server writes the key and the manifest at any time. -/
namespace VpnPack.Health
open Base State
open Function (update update_of_ne update_self)

structure Status where
  reason : String
  zbfEnabled : Option Bool
  deriving DecidableEq, Repr

structure Reply where
  err : Option String
  unauthorized : Bool
  found : Bool
  zone : ZoneManifest
  manifest : Manifest
  forward : Bool
  input : Bool
  output : Bool
  ipset : Bool
  missing : Nat
  status : Status

inductive MainPhase where
  | validating
  | clearing
  | degrading
  | discovering
  | connecting
  | applying
  | settingUp
  | releasing
  | launching
  | preparing
  | refreshing
  | serving
  | stopped
  deriving DecidableEq, Repr

inductive WatcherPhase where
  | starting
  | idle
  | retry
  | retryZone
  | resetting
  | shouldRetry
  | attempting
  | settingUp
  | rereading
  | retried
  | openingPort
  | restore
  | restoreGate
  | lookingUp
  | auditForward
  | auditInput
  | checking
  | restoring
  | restoreFailed (err : String)
  | restored
  | wgS2s
  | wgS2sGate
  | wgS2sZones
  | wgS2sCheck
  | wgS2sSetup (left : Nat)
  | exitNode
  | releasing
  | reapplying
  | reapplied
  deriving DecidableEq, Repr

inductive RefreshPhase where
  | idle
  | expiry (st : Status)
  | clearing
  | resetting
  | degrading
  | asking
  | repair (st : Status)
  | policies
  | guarding
  | settingUp
  | releasing (err : Option String)
  | failed
  | openingPort
  deriving DecidableEq, Repr

inductive HandlerPhase where
  | absent
  | guarding
  | settingUp
  | releasing
  | openingPort
  | clearing
  | recording
  deriving DecidableEq, Repr

structure Server where
  now : Nat
  health : HealthTracker
  restoring : Bool
  hasAPIKey : Bool
  manifest : Manifest
  wgManager : Bool
  hasUDAPISocket : Bool
  main : MainPhase
  watcher : Option WatcherPhase
  refresh : Option RefreshPhase
  handlers : Nat → HandlerPhase

def resetIntegration (m : Manifest) : Manifest :=
  {m with tailscale := ⟨"","",[],""⟩, wgS2s := ∅, wanPorts := ∅, externalZoneID := "", gatewayZoneID := ""}

namespace Server

def integrationReady (s : Server) : Bool := s.hasAPIKey && s.manifest.siteID ≠ ""
def hasZone (s : Server) : Bool := s.manifest.tailscale.zoneID ≠ ""

-- Without a key or a site it does nothing, and that is no error.
def setupTailscaleFirewall (r : Reply) (s : Server) : Option String × Server :=
  if s.integrationReady then (r.err,{s with manifest := s.manifest.setTailscaleZone r.zone}) else (none,s)

def getStatus (r : Reply) (s : Server) : Status := if s.hasAPIKey then r.status else ⟨"",none⟩
def healthBy (change : HealthTracker → HealthTracker) (s : Server) : Server := {s with health := change s.health}
def IsDegraded (s : Server) : Bool := s.health.IsDegraded .firewall

end Server

-- NewServer ends with validateIntegration, and Run goes on from there.
def MainPhase.advance (r : Reply) (s : Server) : MainPhase → Server
  | .validating =>
    if !s.hasAPIKey then {s with main := .connecting}
    else if r.err.isNone then {s with main := .discovering}
    else if r.unauthorized then {s with main := .clearing}
    else {s with main := .connecting}
  | .clearing => {s with hasAPIKey := false, manifest := resetIntegration s.manifest, main := .degrading}
  | .degrading => {s.healthBy (.SetDegraded .firewall "key_invalid") with main := .connecting}
  | .discovering => {s with manifest := r.manifest, main := .connecting}
  | .connecting =>
    if r.err.isSome then {s with main := .stopped}
    else if s.hasUDAPISocket then {s with main := .applying}
    else {s with main := .preparing}
  | .applying => if s.integrationReady && !s.restoring then {s with restoring := true, main := .settingUp} else {s with main := .launching}
  | .settingUp => {(s.setupTailscaleFirewall r).2 with main := .releasing}
  | .releasing => {s with restoring := false, main := .launching}
  | .launching => {s with watcher := some .starting, main := .preparing}
  | .preparing => {s with wgManager := r.err.isNone, main := .refreshing}
  | .refreshing => {s with refresh := some .idle, main := .serving}
  | .serving => s
  | .stopped => s

def WatcherPhase.advance (r : Reply) (s : Server) : WatcherPhase → Server
  | .starting => {s.healthBy (.RecordSuccess s.now .firewall) with watcher := some .idle}
  | .idle => s
  -- retryIntegrationSetup
  | .retry => {s with watcher := some (if s.integrationReady then .retryZone else .restore)}
  | .retryZone => {s with watcher := some (if s.hasZone then .resetting else .shouldRetry)}
  | .resetting => {s.healthBy (.ResetRetries .firewall) with watcher := some .restore}
  | .shouldRetry => {s with watcher := some (if s.health.ShouldRetry s.now .firewall then .attempting else .restore)}
  | .attempting => {s.healthBy (.RecordRetryAttempt s.now .firewall) with watcher := some .settingUp}
  | .settingUp =>
    let done := s.setupTailscaleFirewall r
    {done.2 with watcher := some (if done.1.isSome then .restore else .rereading)}
  | .rereading => {s with watcher := some (if s.hasZone then .retried else .restore)}
  | .retried => {s.healthBy (.RecordSuccess s.now .firewall) with watcher := some .openingPort}
  | .openingPort => {s with watcher := some .restore}
  -- restoreTailscaleRules
  | .restore => {s with watcher := some (if s.integrationReady then .restoreGate else .wgS2s)}
  | .restoreGate => {s with watcher := some (if s.IsDegraded then .wgS2s else .lookingUp)}
  | .lookingUp => {s with watcher := some (if r.found then .auditForward else .wgS2s)}
  | .auditForward => {s with watcher := some .auditInput}
  | .auditInput => {s with watcher := some .checking}
  | .checking =>
    {s with watcher := some (if r.forward && r.input && r.output && (r.ipset || !s.hasZone) then .wgS2s else .restoring)}
  | .restoring =>
    match r.err with
    | some e => {s with watcher := some (.restoreFailed e)}
    | none => {s with watcher := some .restored}
  | .restoreFailed e => {s.healthBy (.RecordError .firewall e) with watcher := some .wgS2s}
  | .restored => {s.healthBy (.RecordSuccess s.now .firewall) with watcher := some .wgS2s}
  -- restoreWgS2sRules
  | .wgS2s => {s with watcher := some (if s.wgManager then .wgS2sGate else .exitNode)}
  | .wgS2sGate => {s with watcher := some (if s.IsDegraded then .exitNode else .wgS2sZones)}
  | .wgS2sZones => {s with watcher := some .wgS2sCheck}
  | .wgS2sCheck =>
    match r.missing with
    | 0 => {s with watcher := some .exitNode}
    | n+1 => {s with watcher := some (.wgS2sSetup n)}
  | .wgS2sSetup 0 => {s with watcher := some .exitNode}
  | .wgS2sSetup (n+1) => {s with watcher := some (.wgS2sSetup n)}
  | .exitNode => {s with watcher := some .releasing}
  | .releasing => {s with restoring := false, watcher := some .idle}
  -- SIGHUP
  | .reapplying => {(s.setupTailscaleFirewall r).2 with watcher := some .reapplied}
  | .reapplied => {s with restoring := false, watcher := some .idle}

def RefreshPhase.advance (r : Reply) (s : Server) : RefreshPhase → Server
  | .idle => {s with refresh := some (.expiry (s.getStatus r))}
  | .expiry st => {s with refresh := some (if st.reason = "key_expired" && s.hasAPIKey then .clearing else .repair st)}
  | .clearing => {s with hasAPIKey := false, refresh := some .resetting}
  | .resetting => {s with manifest := resetIntegration s.manifest, refresh := some .degrading}
  | .degrading => {s.healthBy (.SetDegraded .firewall "key_expired") with refresh := some .asking}
  | .asking => {s with refresh := some (.repair (s.getStatus r))}
  | .repair st => {s with refresh := some (if st.zbfEnabled = some true && !s.IsDegraded then .policies else .idle)}
  | .policies => {s with refresh := some (if s.hasZone && s.manifest.tailscale.policyIDs = [] then .guarding else .idle)}
  | .guarding => if s.restoring then {s with refresh := some .idle} else {s with restoring := true, refresh := some .settingUp}
  | .settingUp =>
    let done := s.setupTailscaleFirewall r
    {done.2 with refresh := some (.releasing done.1)}
  | .releasing err => {s with restoring := false, refresh := some (if err.isSome then .failed else .openingPort)}
  | .failed => {s.healthBy (.SetDegraded .firewall "setup_failed") with refresh := some .idle}
  | .openingPort => {s with refresh := some .idle}

-- OnKeyConfigured, from the call to its return.
def HandlerPhase.advance (i : Nat) (r : Reply) (s : Server) : HandlerPhase → Server
  | .absent =>
    if s.main = .serving then {s with handlers := update s.handlers i (if r.found then .guarding else .clearing)} else s
  | .guarding =>
    if s.restoring then {s with handlers := update s.handlers i .openingPort}
    else {s with restoring := true, handlers := update s.handlers i .settingUp}
  | .settingUp => {(s.setupTailscaleFirewall r).2 with handlers := update s.handlers i .releasing}
  | .releasing => {s with restoring := false, handlers := update s.handlers i .openingPort}
  | .openingPort => {s with handlers := update s.handlers i .clearing}
  | .clearing => {s.healthBy (.ClearDegraded .firewall) with handlers := update s.handlers i .recording}
  | .recording => {s.healthBy (.RecordSuccess s.now .firewall) with handlers := update s.handlers i .absent}

inductive Move where
  | pass (d : Nat)
  | key (has : Bool)
  | manifest (m : Manifest)
  | tailscale (err : Option String)
  | main (r : Reply)
  | tick
  | sighup
  | watcher (r : Reply)
  | refresh (r : Reply)
  | handler (i : Nat) (r : Reply)

def recordTailscale (now : Nat) : Option String → HealthTracker → HealthTracker
  | some err => .RecordError .tailscale err
  | none => .RecordSuccess now .tailscale

-- A tick and a signal are taken only in the select; both need the guard.
def step : Move → Server → Server
  | .pass d,s => {s with now := s.now+d}
  | .key has,s => {s with hasAPIKey := has}
  | .manifest m,s => {s with manifest := m}
  | .tailscale err,s => s.healthBy (recordTailscale s.now err)
  | .main r,s => s.main.advance r s
  | .tick,s => if s.watcher = some .idle ∧ s.restoring = false then {s with restoring := true, watcher := some .retry} else s
  | .sighup,s => if s.watcher = some .idle ∧ s.restoring = false then {s with restoring := true, watcher := some .reapplying} else s
  | .watcher r,s =>
    match s.watcher with
    | none => s
    | some p => p.advance r s
  | .refresh r,s =>
    match s.refresh with
    | none => s
    | some p => p.advance r s
  | .handler i r,s => (s.handlers i).advance i r s

def NewServer (now : Nat) (hasAPIKey hasUDAPISocket : Bool) (m : Manifest) : Server :=
  ⟨now,NewHealthTracker,false,hasAPIKey,m,false,hasUDAPISocket,.validating,none,none,fun _ => .absent⟩

section
variable {s : Server} {r : Reply}

theorem setupKeeps (r : Reply) (s : Server) : ∃ m, (s.setupTailscaleFirewall r).2 = {s with manifest := m} := by
  unfold Server.setupTailscaleFirewall
  split
  · exact ⟨_,rfl⟩
  · exact ⟨s.manifest,rfl⟩

variable {i : Nat} (m : Move) {p : WatcherPhase}

theorem watcherSteps (here : s.watcher = some p) : step (.watcher r) s = p.advance r s := by
  simp only [step,here]

theorem refreshSteps {p : RefreshPhase} (here : s.refresh = some p) : step (.refresh r) s = p.advance r s := by
  simp only [step,here]

theorem watcherFrame (p : WatcherPhase) (r : Reply) (s : Server) :
    ∃ h b m, p.advance r s = {s with health := h, restoring := b, manifest := m, watcher := (p.advance r s).watcher} := by
  obtain ⟨m,same⟩ := setupKeeps r s
  cases p with
  | settingUp | reapplying => exact ⟨s.health,s.restoring,m,by simp only [WatcherPhase.advance,same]⟩
  | restoring | wgS2sCheck =>
    refine ⟨s.health,s.restoring,s.manifest,?_⟩
    simp only [WatcherPhase.advance]
    split <;> rfl
  | wgS2sSetup left => cases left <;> exact ⟨_,_,_,rfl⟩
  | _ => exact ⟨_,_,_,rfl⟩

theorem refreshFrame (p : RefreshPhase) (r : Reply) (s : Server) :
    ∃ h b k m, p.advance r s = {s with health := h, restoring := b, hasAPIKey := k, manifest := m, refresh := (p.advance r s).refresh} := by
  obtain ⟨m,same⟩ := setupKeeps r s
  cases p with
  | settingUp => exact ⟨s.health,s.restoring,s.hasAPIKey,m,by simp only [RefreshPhase.advance,same]⟩
  | guarding =>
    simp only [RefreshPhase.advance]
    split <;> exact ⟨_,_,_,_,rfl⟩
  | _ => exact ⟨_,_,_,_,rfl⟩

theorem handlerFrame (p : HandlerPhase) (i : Nat) (r : Reply) (s : Server) :
    ∃ h b m, p.advance i r s = {s with health := h, restoring := b, manifest := m, handlers := (p.advance i r s).handlers} := by
  obtain ⟨m,same⟩ := setupKeeps r s
  cases p with
  | absent | guarding =>
    simp only [HandlerPhase.advance]
    split <;> exact ⟨_,_,_,rfl⟩
  | settingUp => exact ⟨s.health,s.restoring,m,by simp only [HandlerPhase.advance,same]⟩
  | _ => exact ⟨_,_,_,rfl⟩

theorem handlerOthers {j : Nat} (p : HandlerPhase) (r : Reply) (s : Server) (differs : j ≠ i) :
    (p.advance i r s).handlers j = s.handlers j := by
  cases p with
  | absent =>
    simp only [HandlerPhase.advance]
    split
    · exact update_of_ne differs ..
    · rfl
  | guarding =>
    simp only [HandlerPhase.advance]
    split <;> exact update_of_ne differs ..
  | _ => exact update_of_ne differs ..

def MainPhase.holds : MainPhase → Bool
  | .settingUp => true
  | .releasing => true
  | _ => false

def WatcherPhase.holds : WatcherPhase → Bool
  | .starting => false
  | .idle => false
  | _ => true

def RefreshPhase.holds : RefreshPhase → Bool
  | .settingUp => true
  | .releasing _ => true
  | _ => false

def HandlerPhase.holds : HandlerPhase → Bool
  | .settingUp => true
  | .releasing => true
  | _ => false

def Holding (s : Server) : Prop :=
  s.main.holds = true ∨ (∃ p ∈ s.watcher, p.holds = true) ∨ (∃ p ∈ s.refresh, p.holds = true) ∨ ∃ i, (s.handlers i).holds = true

theorem holdsIf {c : Prop} [Decidable c] {p q : WatcherPhase} (first : p.holds = true) (second : q.holds = true) :
    (if c then p else q).holds = true := by
  split
  · exact first
  · exact second

theorem watcherHolds (set : (p.advance r s).restoring = true) :
    (∃ q ∈ (p.advance r s).watcher, q.holds = true) ∨ s.restoring = true ∧ p.holds = false := by
  cases p with
  | starting | idle => exact .inr ⟨set,rfl⟩
  | releasing | reapplied => contradiction
  | retry | retryZone | shouldRetry | settingUp | rereading | restore | restoreGate | lookingUp | checking | wgS2s | wgS2sGate =>
    exact .inl ⟨_,rfl,holdsIf rfl rfl⟩
  | restoring | wgS2sCheck =>
    refine .inl ?_
    simp only [WatcherPhase.advance]
    split <;> exact ⟨_,rfl,rfl⟩
  | wgS2sSetup left => cases left <;> exact .inl ⟨_,rfl,rfl⟩
  | _ => exact .inl ⟨_,rfl,rfl⟩

theorem refreshHolds {p : RefreshPhase} (set : (p.advance r s).restoring = true) :
    (∃ q ∈ (p.advance r s).refresh, q.holds = true) ∨ s.restoring = true ∧ p.holds = false := by
  cases p with
  | guarding =>
    by_cases taken : s.restoring = true
    · exact .inr ⟨taken,rfl⟩
    · simp only [RefreshPhase.advance,if_neg taken]
      exact .inl ⟨_,rfl,rfl⟩
  | settingUp => exact .inl ⟨_,rfl,rfl⟩
  | releasing err => contradiction
  | _ => exact .inr ⟨set,rfl⟩

theorem handlerHolds {p : HandlerPhase} {i : Nat} (set : (p.advance i r s).restoring = true) :
    ((p.advance i r s).handlers i).holds = true ∨ s.restoring = true ∧ p.holds = false := by
  cases p with
  | absent =>
    simp only [HandlerPhase.advance] at set
    split at set <;> exact .inr ⟨set,rfl⟩
  | guarding =>
    by_cases taken : s.restoring = true
    · exact .inr ⟨taken,rfl⟩
    · simp only [HandlerPhase.advance,if_neg taken,update_self]
      exact .inl rfl
  | settingUp =>
    simp only [HandlerPhase.advance,update_self]
    exact .inl rfl
  | releasing => contradiction
  | _ => exact .inr ⟨set,rfl⟩

def MainPhase.launched : MainPhase → Bool
  | .preparing => true
  | .refreshing => true
  | .serving => true
  | _ => false

def MainPhase.launches : MainPhase → Bool
  | .applying => true
  | .settingUp => true
  | .releasing => true
  | .launching => true
  | _ => false

/- The order of start-up: the watcher is launched where there is a UDAPI socket, then the refresh,
and requests are served at the end. -/
structure Orderly (s : Server) : Prop where
  before : s.main.launched = false → s.watcher = none
  after : s.main.launched = true → (s.watcher ≠ none ↔ s.hasUDAPISocket = true)
  launches : s.main.launches = true → s.hasUDAPISocket = true
  refresh : s.main ≠ .serving → s.refresh = none
  handlers : s.main ≠ .serving → ∀ i, s.handlers i = .absent
  guard : s.restoring = true → Holding s

theorem orderlyStart (now : Nat) (key socket : Bool) (m : Manifest) : Orderly (NewServer now key socket m) := by
  refine ⟨fun _ => rfl,?_,?_,fun _ => rfl,fun _ _ => rfl,?_⟩ <;> intro given <;> contradiction

theorem guardLeft {p : MainPhase} (orderly : Orderly s) (here : s.main = p) (free : p.holds = false) (set : s.restoring = true) :
    (∃ p ∈ s.watcher, p.holds = true) ∨ (∃ p ∈ s.refresh, p.holds = true) ∨ ∃ i, (s.handlers i).holds = true := by
  rcases orderly.guard set with own | rest
  · rw [here,free] at own
    contradiction
  · exact rest

theorem mainOn {p q : MainPhase} (h : HealthTracker) (k : Bool) (m : Manifest) (orderly : Orderly s) (here : s.main = p)
    (early : p.launched = false) (free : p.holds = false) (still : q.launched = false) (socket : q.launches = true → s.hasUDAPISocket = true) :
    Orderly {s with health := h, hasAPIKey := k, manifest := m, main := q} := by
  have unserved : s.main ≠ .serving := by
    rw [here]
    rintro rfl
    contradiction
  have rest := guardLeft orderly here free
  refine ⟨fun _ => orderly.before (by rw [here,early]),fun later => ?_,socket,fun _ => orderly.refresh unserved,
    fun _ => orderly.handlers unserved,fun set => .inr (rest set)⟩
  rw [show q.launched = true from later] at still
  contradiction

theorem mainOrderly (orderly : Orderly s) : Orderly (s.main.advance r s) := by
  obtain ⟨setup,same⟩ := setupKeeps r s
  cases here : s.main with
  | serving | stopped => exact orderly
  | validating =>
    have on {q : MainPhase} (still : q.launched = false) (bare : q.launches = false) : Orderly {s with main := q} :=
      mainOn s.health s.hasAPIKey s.manifest orderly here rfl rfl still (fun launches => by rw [bare] at launches; contradiction)
    simp only [MainPhase.advance]
    split
    · exact on rfl rfl
    · split
      · exact on rfl rfl
      · split <;> exact on rfl rfl
  | clearing => exact mainOn s.health false (resetIntegration s.manifest) orderly here rfl rfl rfl Bool.false_ne_true.elim
  | degrading =>
    exact mainOn (s := s) (s.health.SetDegraded .firewall "key_invalid") s.hasAPIKey s.manifest orderly here rfl rfl rfl
      Bool.false_ne_true.elim
  | discovering => exact mainOn s.health s.hasAPIKey r.manifest orderly here rfl rfl rfl Bool.false_ne_true.elim
  | connecting =>
    simp only [MainPhase.advance]
    split
    · exact mainOn s.health s.hasAPIKey s.manifest orderly here rfl rfl rfl Bool.false_ne_true.elim
    · split
      · rename_i socket
        exact mainOn s.health s.hasAPIKey s.manifest orderly here rfl rfl rfl (fun _ => socket)
      · rename_i bare
        have none := orderly.before (by rw [here]; rfl)
        have unserved : s.main ≠ .serving := by rw [here]; decide
        have rest := guardLeft orderly here rfl
        exact ⟨fun _ => none,fun _ => iff_of_false (fun some => some none) bare,Bool.false_ne_true.elim,
          fun _ => orderly.refresh unserved,fun _ => orderly.handlers unserved,fun set => .inr (rest set)⟩
  | applying =>
    have socket := orderly.launches (by rw [here]; rfl)
    have unserved : s.main ≠ .serving := by rw [here]; decide
    simp only [MainPhase.advance]
    split
    · exact ⟨fun _ => orderly.before (by rw [here]; rfl),Bool.false_ne_true.elim,fun _ => socket,
        fun _ => orderly.refresh unserved,fun _ => orderly.handlers unserved,fun _ => .inl rfl⟩
    · exact mainOn s.health s.hasAPIKey s.manifest orderly here rfl rfl rfl (fun _ => socket)
  | settingUp =>
    have unserved : s.main ≠ .serving := by rw [here]; decide
    simp only [MainPhase.advance,same]
    exact ⟨fun _ => orderly.before (by rw [here]; rfl),Bool.false_ne_true.elim,fun _ => orderly.launches (by rw [here]; rfl),
      fun _ => orderly.refresh unserved,fun _ => orderly.handlers unserved,fun _ => .inl rfl⟩
  | releasing =>
    have unserved : s.main ≠ .serving := by rw [here]; decide
    exact ⟨fun _ => orderly.before (by rw [here]; rfl),Bool.false_ne_true.elim,fun _ => orderly.launches (by rw [here]; rfl),
      fun _ => orderly.refresh unserved,fun _ => orderly.handlers unserved,Bool.false_ne_true.elim⟩
  | launching =>
    have none := orderly.before (by rw [here]; rfl)
    have unserved : s.main ≠ .serving := by rw [here]; decide
    refine ⟨Bool.false_ne_true.symm.elim,fun _ => iff_of_true (Option.some_ne_none _) (orderly.launches (by rw [here]; rfl)),
      Bool.false_ne_true.elim,fun _ => orderly.refresh unserved,fun _ => orderly.handlers unserved,fun set => ?_⟩
    rcases guardLeft orderly here rfl set with ⟨p,member,_⟩ | rest
    · rw [none] at member
      contradiction
    · exact .inr (.inr rest)
  | preparing =>
    have unserved : s.main ≠ .serving := by rw [here]; decide
    have rest := guardLeft orderly here rfl
    exact ⟨Bool.false_ne_true.symm.elim,fun _ => orderly.after (by rw [here]; rfl),Bool.false_ne_true.elim,
      fun _ => orderly.refresh unserved,fun _ => orderly.handlers unserved,fun set => .inr (rest set)⟩
  | refreshing =>
    have bare := orderly.refresh (by rw [here]; decide)
    refine ⟨Bool.false_ne_true.symm.elim,fun _ => orderly.after (by rw [here]; rfl),Bool.false_ne_true.elim,
      fun unserved => absurd rfl unserved,fun unserved => absurd rfl unserved,fun set => ?_⟩
    rcases guardLeft orderly here rfl set with first | ⟨p,member,_⟩ | last
    · exact .inr (.inl first)
    · rw [bare] at member
      contradiction
    · exact .inr (.inr (.inr last))

theorem watcherStill (here : s.watcher = some p) : (p.advance r s).watcher ≠ none := by
  cases p with
  | idle =>
    rw [WatcherPhase.advance,here]
    exact Option.some_ne_none _
  | restoring | wgS2sCheck =>
    simp only [WatcherPhase.advance]
    split <;> exact Option.some_ne_none _
  | wgS2sSetup left => cases left <;> exact Option.some_ne_none _
  | _ => exact Option.some_ne_none _

theorem watcherOrderly (orderly : Orderly s) (here : s.watcher = some p) : Orderly (p.advance r s) := by
  have still := @watcherStill s r p here
  have holds := @watcherHolds s r p
  have was : s.watcher ≠ none := by rw [here]; exact Option.some_ne_none p
  obtain ⟨h,b,m,same⟩ := watcherFrame p r s
  rw [same] at still holds ⊢
  refine ⟨fun early => absurd (orderly.before early) was,fun later => iff_of_true still ((orderly.after later).mp was),orderly.launches,
    orderly.refresh,orderly.handlers,fun set => ?_⟩
  rcases holds set with mine | ⟨before,free⟩
  · exact .inr (.inl mine)
  · rcases orderly.guard before with first | ⟨q,member,owns⟩ | rest
    · exact .inl first
    · cases here.symm.trans member
      rw [free] at owns
      contradiction
    · exact .inr (.inr rest)

theorem refreshOrderly {p : RefreshPhase} (orderly : Orderly s) (here : s.refresh = some p) : Orderly (p.advance r s) := by
  have holds := @refreshHolds s r p
  have serving : s.main = .serving := by
    by_contra unserved
    rw [orderly.refresh unserved] at here
    contradiction
  obtain ⟨h,b,k,m,same⟩ := refreshFrame p r s
  rw [same] at holds ⊢
  refine ⟨orderly.before,orderly.after,orderly.launches,fun unserved => absurd serving unserved,fun unserved => absurd serving unserved,fun set => ?_⟩
  rcases holds set with mine | ⟨before,free⟩
  · exact .inr (.inr (.inl mine))
  · rcases orderly.guard before with first | second | ⟨q,member,owns⟩ | rest
    · exact .inl first
    · exact .inr (.inl second)
    · cases here.symm.trans member
      rw [free] at owns
      contradiction
    · exact .inr (.inr (.inr rest))

theorem handlerOrderly (orderly : Orderly s) : Orderly ((s.handlers i).advance i r s) := by
  by_cases serving : s.main = .serving
  · have holds := @handlerHolds s r (s.handlers i) i
    have others (j : Nat) (differs : j ≠ i) := handlerOthers (s.handlers i) r s differs
    obtain ⟨h,b,m,same⟩ := handlerFrame (s.handlers i) i r s
    rw [same] at holds others ⊢
    refine ⟨orderly.before,orderly.after,orderly.launches,fun unserved => absurd serving unserved,fun unserved => absurd serving unserved,fun set => ?_⟩
    rcases holds set with mine | ⟨before,free⟩
    · exact .inr (.inr (.inr ⟨i,mine⟩))
    · rcases orderly.guard before with first | second | third | ⟨j,owns⟩
      · exact .inl first
      · exact .inr (.inl second)
      · exact .inr (.inr (.inl third))
      · refine .inr (.inr (.inr ⟨j,?_⟩))
        by_cases own : j = i
        · rw [own,free] at owns
          contradiction
        · rw [others j own]
          exact owns
  · have idle : (s.handlers i).advance i r s = s := by
      rw [orderly.handlers serving i,HandlerPhase.advance,if_neg serving]
    rw [idle]
    exact orderly

theorem beginsOrderly (holds : p.holds = true) (orderly : Orderly s) :
    Orderly (if s.watcher = some .idle ∧ s.restoring = false then {s with restoring := true, watcher := some p} else s) := by
  split
  · rename_i idle
    have was : s.watcher ≠ none := by rw [idle.1]; exact Option.some_ne_none _
    exact ⟨fun early => absurd (orderly.before early) was,fun later => iff_of_true (Option.some_ne_none _) ((orderly.after later).mp was),
      orderly.launches,orderly.refresh,orderly.handlers,fun _ => .inr (.inl ⟨p,rfl,holds⟩)⟩
  · exact orderly

theorem orderlyStep (orderly : Orderly s) : Orderly (step m s) := by
  cases m with
  | pass _ | key _ | manifest _ | tailscale _ => exact ⟨orderly.before,orderly.after,orderly.launches,orderly.refresh,orderly.handlers,orderly.guard⟩
  | main r => exact mainOrderly orderly
  | tick | sighup => exact beginsOrderly rfl orderly
  | watcher r =>
    simp only [step]
    split
    · exact orderly
    · rename_i here
      exact watcherOrderly orderly here
  | refresh r =>
    simp only [step]
    split
    · exact orderly
    · rename_i here
      exact refreshOrderly orderly here
  | handler i r => exact handlerOrderly orderly

theorem Orderly.watching (orderly : Orderly s) (launched : s.watcher ≠ none) : s.hasUDAPISocket = true := by
  cases early : s.main.launched with
  | false => exact absurd (orderly.before early) launched
  | true => exact (orderly.after early).mp launched

theorem mainSocket (p : MainPhase) (r : Reply) (s : Server) : (p.advance r s).hasUDAPISocket = s.hasUDAPISocket := by
  obtain ⟨m,same⟩ := setupKeeps r s
  cases p with
  | validating =>
    simp only [MainPhase.advance]
    split
    · rfl
    · split
      · rfl
      · split <;> rfl
  | connecting =>
    simp only [MainPhase.advance]
    split
    · rfl
    · split <;> rfl
  | applying =>
    simp only [MainPhase.advance]
    split <;> rfl
  | settingUp => simp only [MainPhase.advance,same]
  | _ => rfl

theorem socketStep (s : Server) : (step m s).hasUDAPISocket = s.hasUDAPISocket := by
  cases m with
  | main r => exact mainSocket s.main r s
  | watcher r =>
    simp only [step]
    split
    · rfl
    · obtain ⟨_,_,_,same⟩ := watcherFrame ‹_› r s
      rw [same]
  | refresh r =>
    simp only [step]
    split
    · rfl
    · obtain ⟨_,_,_,_,same⟩ := refreshFrame ‹_› r s
      rw [same]
  | handler i r =>
    obtain ⟨_,_,_,same⟩ := handlerFrame (s.handlers i) i r s
    simp only [step]
    rw [same]
  | tick | sighup =>
    simp only [step]
    split <;> rfl
  | _ => rfl

def play (run : List Move) (s : Server) : Server := run.foldl (fun s m => step m s) s
def Reachable (s : Server) : Prop := ∃ now key socket m, Reached step (fun _ _ => True) (NewServer now key socket m) s

theorem reachableOrderly (reachable : Reachable s) : Orderly s := by
  obtain ⟨now,key,socket,m,reached⟩ := reachable
  exact reachedInvariant Orderly (orderlyStart now key socket m) (fun m _ orderly _ => orderlyStep m orderly) reached

theorem playReached (run : List Move) (s : Server) : Reached step (fun _ _ => True) s (play run s) := by
  induction run generalizing s with
  | nil => exact .start
  | cons m rest ih => exact reachedTrans (.next m .start trivial) (ih (step m s))

end
end VpnPack.Health
