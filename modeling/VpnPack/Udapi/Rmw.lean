import VpnPack.Base.Threads
import VpnPack.Udapi.Sets

/-! Callers of the set updates in one process. Each GET, each PUT and each operation on a mutex
is one step; the mutex of a set name is made when the name is first locked. Who holds a mutex,
the calls in the order in which they let go of it, and what they returned to their callers are
notes that no step reads. -/
namespace VpnPack.Udapi
open Base

inductive SetOp where
  | EnsureZoneSubnet (ipsetName cidr : String)
  | EnsureZoneSubnets (ipsetName : String) (cidrs : List String)
  | RemoveZoneSubnet (ipsetName cidr : String)
  deriving DecidableEq, Repr

def SetOp.ipsetName : SetOp → String
  | .EnsureZoneSubnet ipsetName _ => ipsetName
  | .EnsureZoneSubnets ipsetName _ => ipsetName
  | .RemoveZoneSubnet ipsetName _ => ipsetName

def SetOp.run (link : Link) : SetOp → Proc Config
  | .EnsureZoneSubnet ipsetName cidr => Udapi.EnsureZoneSubnet link ipsetName cidr
  | .EnsureZoneSubnets ipsetName cidrs => Udapi.EnsureZoneSubnets link ipsetName cidrs
  | .RemoveZoneSubnet ipsetName cidr => Udapi.RemoveZoneSubnet link ipsetName cidr

structure Returned (ι : Type) where
  caller : ι
  op : SetOp
  err : Option GoError

structure RmwState (ι : Type) where
  config : Config
  mu : Option ι
  per : AList (fun _ : String => Nat)
  made : Nat
  held : Nat → Option ι
  history : List (Returned ι)
  returns : List (Returned ι)

inductive RmwCall where
  | lockMu
  | getPer (name : String)
  | newPer (name : String)
  | unlockMu
  | lock (m : Nat)
  | unlock (m : Nat) (op : SetOp) (err : Option GoError)
  | get
  | put (ipsetName : String) (entries : List String)
  | noted (op : SetOp) (err : Option GoError)
  | returned (op : SetOp) (err : Option GoError)

abbrev RmwCall.Answer : RmwCall → Type
  | .lockMu => Unit
  | .getPer _ => Option Nat
  | .newPer _ => Nat
  | .unlockMu => Unit
  | .lock _ => Unit
  | .unlock _ _ _ => Unit
  | .get => Except GoError (AList (fun _ : String => List String))
  | .put _ _ => Option GoError
  | .noted _ _ => Unit
  | .returned _ _ => Unit

abbrev RmwProg (α : Type) : Type := Prog RmwCall RmwCall.Answer α

def rmwCall (c : RmwCall) : RmwProg c.Answer := Prog.ask c

section
variable {ι : Type}

def getSets (link : Link) (s : RmwState ι) : Except GoError (AList (fun _ : String => List String)) × RmwState ι :=
  (match (request link id s.config).1 with
    | some e => .error e
    | none => .ok (request link id s.config).2.sets,{s with config := (request link id s.config).2})

def putOne (link : Link) (ipsetName : String) (entries : List String) (s : RmwState ι) : Option GoError × RmwState ι :=
  ((request link (putEntries ipsetName entries) s.config).1,{s with config := (request link (putEntries ipsetName entries) s.config).2})

def rmwStep (link : Link) (x : ι) : (c : RmwCall) → RmwState ι → c.Answer × RmwState ι
  | .lockMu,s => ((),{s with mu := some x})
  | .getPer name,s => (s.per.lookup name,s)
  | .newPer name,s => (s.made,{s with per := s.per.insert name s.made, made := s.made+1})
  | .unlockMu,s => ((),{s with mu := none})
  | .lock m,s => ((),{s with held := Function.update s.held m (some x)})
  | .unlock m op err,s => ((),{s with held := Function.update s.held m none, history := s.history ++ [⟨x,op,err⟩]})
  | .get,s => getSets link s
  | .put ipsetName entries,s => putOne link ipsetName entries s
  | .noted op err,s => ((),{s with history := s.history ++ [⟨x,op,err⟩]})
  | .returned op err,s => ((),{s with returns := s.returns ++ [⟨x,op,err⟩]})

def Free (c : RmwCall) (s : RmwState ι) : Prop :=
  match c with
  | .lockMu => s.mu = none
  | .lock m => s.held m = none
  | _ => True

end

namespace Locked

def mutex (name : String) : RmwProg Nat := do
  match ← rmwCall (.getPer name) with
  | some m => pure m
  | none => rmwCall (.newPer name)

-- (*ipsetRMW).lock
def lock (name : String) : RmwProg Nat := do
  rmwCall .lockMu
  let m ← mutex name
  rmwCall .unlockMu
  rmwCall (.lock m)
  pure m

def WithIpsetRMW (op : SetOp) (f : RmwProg (Option GoError)) : RmwProg (Option GoError) := do
  let m ← lock op.ipsetName
  let err ← f
  rmwCall (.unlock m op err)
  pure err

def findIPSet (ipsetName : String) : RmwProg (Except GoError (Option (List String))) := do
  match ← rmwCall .get with
  | .error e => pure (.error (.wrap "get firewall sets" e))
  | .ok sets => pure (.ok (sets.lookup ipsetName))

-- missing is the answer for a set that is not there, change the entries to put, if any.
def update (ipsetName : String) (missing : Option GoError) (change : List String → Option (List String)) : RmwProg (Option GoError) := do
  match ← findIPSet ipsetName with
  | .error e => pure (some e)
  | .ok none => pure missing
  | .ok (some entries) =>
    match change entries with
    | none => pure none
    | some next => do
      let err ← rmwCall (.put ipsetName next)
      pure (err.map (.wrap ("update " ++ ipsetName)))

end Locked

def addOne (cidr : String) (entries : List String) : Option (List String) := if cidr ∈ entries then none else some (entries ++ [cidr])

def addMissing (cidrs entries : List String) : Option (List String) :=
  if cidrs.filter (fun cidr => decide (cidr ∉ entries)) = [] then none
  else some (entries ++ cidrs.filter (fun cidr => decide (cidr ∉ entries)))

def dropOne (cidr : String) (entries : List String) : Option (List String) :=
  if (entries.filter (fun entry => entry != cidr)).length = entries.length then none else some (entries.filter (fun entry => entry != cidr))

namespace Locked

def EnsureZoneSubnet (ipsetName cidr : String) : RmwProg (Option GoError) :=
  WithIpsetRMW (.EnsureZoneSubnet ipsetName cidr) (update ipsetName (some (ipsetNotFound ipsetName)) (addOne cidr))

def EnsureZoneSubnets (ipsetName : String) (cidrs : List String) : RmwProg (Option GoError) :=
  if cidrs.length = 0 then do
    rmwCall (.noted (.EnsureZoneSubnets ipsetName cidrs) none)
    pure none
  else WithIpsetRMW (.EnsureZoneSubnets ipsetName cidrs) (update ipsetName (some (ipsetNotFound ipsetName)) (addMissing cidrs))

def RemoveZoneSubnet (ipsetName cidr : String) : RmwProg (Option GoError) :=
  WithIpsetRMW (.RemoveZoneSubnet ipsetName cidr) (update ipsetName none (dropOne cidr))

end Locked

def SetOp.program : SetOp → RmwProg (Option GoError)
  | .EnsureZoneSubnet ipsetName cidr => Locked.EnsureZoneSubnet ipsetName cidr
  | .EnsureZoneSubnets ipsetName cidrs => Locked.EnsureZoneSubnets ipsetName cidrs
  | .RemoveZoneSubnet ipsetName cidr => Locked.RemoveZoneSubnet ipsetName cidr

def calling : List SetOp → RmwProg Unit
  | [] => pure ()
  | op :: rest => do
    let err ← op.program
    rmwCall (.returned op err)
    calling rest

def updateEntries (link : Link) (ipsetName : String) (missing : Option GoError) (change : List String → Option (List String)) : Proc Config := fun u =>
  match findIPSet link ipsetName u with
  | (.error e,v) => (some e,v)
  | (.ok none,v) => (missing,v)
  | (.ok (some entries),v) =>
    match change entries with
    | none => (none,v)
    | some next => putSet link ipsetName next v

def SetOp.missing : SetOp → Option GoError
  | .EnsureZoneSubnet ipsetName _ => some (ipsetNotFound ipsetName)
  | .EnsureZoneSubnets ipsetName _ => some (ipsetNotFound ipsetName)
  | .RemoveZoneSubnet _ _ => none

def SetOp.change : SetOp → List String → Option (List String)
  | .EnsureZoneSubnet _ cidr => addOne cidr
  | .EnsureZoneSubnets _ cidrs => addMissing cidrs
  | .RemoveZoneSubnet _ cidr => dropOne cidr

def SetOp.idle : SetOp → Bool
  | .EnsureZoneSubnet _ _ => false
  | .EnsureZoneSubnets _ cidrs => cidrs.length = 0
  | .RemoveZoneSubnet _ _ => false

section
variable {link : Link} {op : SetOp} {ipsetName : String} {missing : Option GoError} {change : List String → Option (List String)} {u v : Config}
  {entries next : List String}

theorem idleRun (idle : op.idle = true) (link : Link) (u : Config) : op.run link u = (none,u) := by
  cases op with
  | EnsureZoneSubnet _ _ | RemoveZoneSubnet _ _ => contradiction
  | EnsureZoneSubnets ipsetName cidrs => exact if_pos (of_decide_eq_true idle)

theorem idleProgram (idle : op.idle = true) : op.program = (rmwCall (.noted op none) >>= fun _ => pure none) := by
  cases op with
  | EnsureZoneSubnet _ _ | RemoveZoneSubnet _ _ => contradiction
  | EnsureZoneSubnets ipsetName cidrs => exact if_pos (of_decide_eq_true idle)

theorem busyProgram (busy : op.idle = false) : op.program = Locked.WithIpsetRMW op (Locked.update op.ipsetName op.missing op.change) := by
  cases op with
  | EnsureZoneSubnet _ _ | RemoveZoneSubnet _ _ => rfl
  | EnsureZoneSubnets ipsetName cidrs => exact if_neg (of_decide_eq_false busy)

theorem busyRun (busy : op.idle = false) (link : Link) (u : Config) : op.run link u = updateEntries link op.ipsetName op.missing op.change u := by
  cases op with
  | EnsureZoneSubnet ipsetName cidr =>
    simp only [SetOp.run,EnsureZoneSubnet,updateEntries,SetOp.ipsetName,SetOp.missing,SetOp.change,addOne]
    rcases findIPSet link ipsetName u with ⟨e | found,v⟩
    · rfl
    · cases found with
      | none => rfl
      | some entries => by_cases present : cidr ∈ entries <;> simp [present]
  | EnsureZoneSubnets ipsetName cidrs =>
    simp only [SetOp.run,EnsureZoneSubnets,updateEntries,SetOp.ipsetName,SetOp.missing,SetOp.change,addMissing]
    rw [if_neg (of_decide_eq_false busy)]
    rcases findIPSet link ipsetName u with ⟨e | found,v⟩
    · rfl
    · cases found with
      | none => rfl
      | some entries => by_cases nothing : cidrs.filter (fun cidr => decide (cidr ∉ entries)) = [] <;> simp only [nothing,if_true,if_false]
  | RemoveZoneSubnet ipsetName cidr =>
    simp only [SetOp.run,RemoveZoneSubnet,updateEntries,SetOp.ipsetName,SetOp.missing,SetOp.change,dropOne]
    rcases findIPSet link ipsetName u with ⟨e | found,v⟩
    · rfl
    · cases found with
      | none => rfl
      | some entries =>
        by_cases full : (entries.filter (fun entry => entry != cidr)).length = entries.length <;> simp only [full,if_true,if_false]

def Explains (op : SetOp) (err : Option GoError) (b e : Option (List String)) : Prop :=
  ∀ v : Config, v.sets.lookup op.ipsetName = b →
    ∃ link w, op.run link v = (err,w) ∧ w.sets.lookup op.ipsetName = e ∧ (err ≠ none → w.sets = v.sets)

def answers (first second : Option GoError) (u : Config) : Link := fun n => if n = u.calls then first else second

theorem findAnswered (second : Option GoError) (ipsetName : String) (u : Config) :
    findIPSet (answers none second u) ipsetName u = (.ok (u.sets.lookup ipsetName),{u with calls := u.calls+1}) := by
  simp [findIPSet,request,answers]

section
variable (busy : op.idle = false)
include busy

theorem explainRefused (e : GoError) (b : Option (List String)) : Explains op (some (.wrap "get firewall sets" e)) b b := by
  intro v here
  refine ⟨answers (some e) none v,{v with calls := v.calls+1},?_,here,fun _ => rfl⟩
  rw [busyRun busy]
  simp [updateEntries,findIPSet,request,answers]

theorem explainMissing : Explains op op.missing none none := by
  intro v here
  refine ⟨answers none none v,{v with calls := v.calls+1},?_,here,fun _ => rfl⟩
  rw [busyRun busy,updateEntries,findAnswered,here]

theorem explainSame (same : op.change entries = none) : Explains op none (some entries) (some entries) := by
  intro v here
  refine ⟨answers none none v,{v with calls := v.calls+1},?_,here,fun _ => rfl⟩
  rw [busyRun busy,updateEntries,findAnswered,here]
  simp only [same]

theorem explainPut (changed : op.change entries = some next) : Explains op none (some entries) (some next) := by
  intro v here
  refine ⟨answers none none v,putEntries op.ipsetName next {v with calls := v.calls+1+1},?_,AList.lookup_insert _,fun failed => absurd rfl failed⟩
  rw [busyRun busy,updateEntries,findAnswered,here]
  simp [changed,putSet,Base.wrapping,request,answers]

theorem explainPutRefused (changed : op.change entries = some next) (e : GoError) :
    Explains op (some (.wrap ("update " ++ op.ipsetName) e)) (some entries) (some entries) := by
  intro v here
  refine ⟨answers none (some e) v,{v with calls := v.calls+1+1},?_,here,fun _ => rfl⟩
  rw [busyRun busy,updateEntries,findAnswered,here]
  simp [changed,putSet,Base.wrapping,request,answers]

end

end
end VpnPack.Udapi
