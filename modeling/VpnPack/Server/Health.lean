import Mathlib.Logic.Function.Basic

/-! The health tracker: one entry for each watcher, made when it is first written to. Every
call holds the tracker's lock, so it is one step. The broadcast that follows a change of
the entries is left out, and with it the snapshot it sends. -/
namespace VpnPack.Health

inductive WatcherStatus where
  | healthy
  | unhealthy
  | degraded
  deriving DecidableEq, Repr

inductive WatcherName where
  | firewall
  | tailscale
  deriving DecidableEq, Repr

-- The zero time is none.
structure WatcherEntry where
  status : WatcherStatus
  lastSuccess : Option Nat
  errorCount : Nat
  retryCount : Nat
  lastError : String
  degradedReason : String
  lastRetry : Option Nat
  deriving DecidableEq, Repr

structure HealthTracker where
  watchers : WatcherName → Option WatcherEntry

def NewHealthTracker : HealthTracker := ⟨fun _ => none⟩

-- Times and durations are nanoseconds.
def second : Nat := 1000000000
def retryInterval (count : Nat) : Nat := [0,30*second,60*second,120*second,300*second,600*second].getD count (600*second)

namespace HealthTracker

def getOrCreate (name : WatcherName) (ht : HealthTracker) : WatcherEntry := (ht.watchers name).getD ⟨.healthy,none,0,0,"","",none⟩
def put (name : WatcherName) (e : WatcherEntry) (ht : HealthTracker) : HealthTracker := ⟨Function.update ht.watchers name (some e)⟩

def RecordSuccess (now : Nat) (name : WatcherName) (ht : HealthTracker) : HealthTracker :=
  let e := ht.getOrCreate name
  ht.put name {e with status := .healthy, lastSuccess := some now, lastError := "", degradedReason := "", errorCount := 0, retryCount := 0}

def RecordError (name : WatcherName) (err : String) (ht : HealthTracker) : HealthTracker :=
  let e := ht.getOrCreate name
  ht.put name {e with status := .unhealthy, lastError := err, errorCount := e.errorCount+1}

def SetDegraded (name : WatcherName) (reason : String) (ht : HealthTracker) : HealthTracker :=
  let e := ht.getOrCreate name
  ht.put name {e with status := .degraded, degradedReason := reason}

def ClearDegraded (name : WatcherName) (ht : HealthTracker) : HealthTracker :=
  match ht.watchers name with
  | none => ht
  | some e => if e.status = .degraded then ht.put name {e with status := .healthy, degradedReason := ""} else ht

def IsDegraded (name : WatcherName) (ht : HealthTracker) : Bool := (ht.watchers name).any (fun e => e.status = .degraded)

def ShouldRetry (now : Nat) (name : WatcherName) (ht : HealthTracker) : Bool :=
  match ht.watchers name with
  | none => true
  | some e =>
    if e.status = .degraded then false
    else retryInterval e.retryCount = 0 || e.lastRetry.all (fun t => retryInterval e.retryCount ≤ now-t)

def RecordRetryAttempt (now : Nat) (name : WatcherName) (ht : HealthTracker) : HealthTracker :=
  let e := ht.getOrCreate name
  ht.put name {e with lastRetry := some now, retryCount := e.retryCount+1}

def ResetRetries (name : WatcherName) (ht : HealthTracker) : HealthTracker :=
  match ht.watchers name with
  | none => ht
  | some e => ht.put name {e with retryCount := 0}

variable {ht : HealthTracker} {name other : WatcherName} {now : Nat}

theorem degradedPut (name : WatcherName) (e : WatcherEntry) (ht : HealthTracker) :
    (ht.put name e).IsDegraded name = decide (e.status = .degraded) := by
  simp only [IsDegraded,put,Function.update_self,Option.any_some]

theorem degradedOther (e : WatcherEntry) (differs : other ≠ name) : (ht.put name e).IsDegraded other = ht.IsDegraded other := by
  simp only [IsDegraded,put,Function.update_of_ne differs]

theorem setDegraded (reason : String) : (ht.SetDegraded name reason).IsDegraded name = true := degradedPut ..

theorem successHealthy : (ht.RecordSuccess now name).IsDegraded name = false := degradedPut ..

theorem errorUnhealthy (err : String) : (ht.RecordError name err).IsDegraded name = false := degradedPut ..

theorem resetDegraded : (ht.ResetRetries name).IsDegraded name = ht.IsDegraded name := by
  unfold ResetRetries
  split
  · rfl
  · rename_i e here
    rw [degradedPut]
    simp only [IsDegraded,here,Option.any_some]

theorem degradedNoRetry (degraded : ht.IsDegraded name = true) : ht.ShouldRetry now name = false := by
  unfold IsDegraded at degraded
  unfold ShouldRetry
  cases here : ht.watchers name with
  | none =>
    rw [here] at degraded
    contradiction
  | some e =>
    rw [here] at degraded
    exact if_pos (of_decide_eq_true degraded)

end HealthTracker
end VpnPack.Health
