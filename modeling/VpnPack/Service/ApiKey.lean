import VpnPack.Base.Runs
import VpnPack.Service.Errors
import VpnPack.State.Manifest

/-! SetKey and DeleteKey of IntegrationService over the client, the key file and the manifest.
What the API and the disk answer is looked up by the number of the call. The notifier
is left out: what it does to zones, ports and DNS entries never touches the key. -/
namespace VpnPack.Service
open Base State

structure IntegrationStatus where
  configured : Bool
  valid : Bool
  siteID : String
  appVersion : String
  zbfEnabled : Option Bool
  deriving DecidableEq, Repr

-- A failing saveKey or deleteKey leaves the file as it is.
structure KeyEnv where
  validate : Nat → String → Except GoError String
  discoverSiteID : Nat → Except GoError String
  zonesFound : Nat → String → Bool
  saveKey : Nat → Option GoError
  deleteKey : Nat → Option GoError
  disk : Disk

structure KeyState where
  apiKey : String
  keyFile : Option String
  store : Store
  cache : Option IntegrationStatus
  calls : Nat

namespace KeyState

def keyText (s : KeyState) : String := s.keyFile.getD ""
def SetAPIKey (key : String) (s : KeyState) : KeyState := {s with apiKey := key, cache := none}

end KeyState

def Save (env : KeyEnv) (key : String) (s : KeyState) : Option GoError × KeyState :=
  match env.saveKey s.calls with
  | some e => (some e,{s with calls := s.calls+1})
  | none => (none,{s with keyFile := some key, calls := s.calls+1})

def Delete (env : KeyEnv) (s : KeyState) : Option GoError × KeyState :=
  match env.deleteKey s.calls with
  | some e => (some e,{s with calls := s.calls+1})
  | none => (none,{s with keyFile := none, calls := s.calls+1})

-- The site ID is "" when the discovery fails; a failing save of it is only logged.
def recordSite (env : KeyEnv) (s : KeyState) : String × KeyState :=
  match env.discoverSiteID s.calls with
  | .error _ => ("",{s with calls := s.calls+1})
  | .ok siteID =>
    (siteID,{s with
      store := (update env.disk (fun m => {m with siteID := siteID}) s.store).2, calls := s.calls+1})

def trimmed (key : String) : String := String.ofList (trimSpace key.toList)

def SetKey (env : KeyEnv) (key : String) (s : KeyState) : Except Error IntegrationStatus × KeyState :=
  let key := trimmed key
  if key = "" then (.error (validationError "API key is required"),s)
  else
    let t := s.SetAPIKey key
    match env.validate t.calls t.apiKey with
    | .error e =>
      (.error (validationError ("API key validation failed: " ++ e.text)),{t.SetAPIKey "" with calls := t.calls+1})
    | .ok appVersion =>
      match Save env key {t with calls := t.calls+1} with
      | (some _,u) => (.error (internalError "failed to save API key" none),u)
      | (none,u) =>
        let site := recordSite env u
        (.ok ⟨true,true,site.1,appVersion,if site.1 ≠ "" then some (env.zonesFound site.2.calls site.1) else none⟩,site.2)

def DeleteKey (env : KeyEnv) (s : KeyState) : Option GoError × KeyState :=
  match Delete env s with
  | (some e,t) => (some e,t)
  | (none,t) => (none,t.SetAPIKey "")

inductive KeyCall where
  | setKey (key : String)
  | deleteKey
  deriving DecidableEq, Repr

def keyCall (env : KeyEnv) : KeyCall → KeyState → KeyState
  | .setKey key,s => (SetKey env key s).2
  | .deleteKey,s => (DeleteKey env s).2

def KeyHeld (s : KeyState) : Prop := s.apiKey = s.keyText

/- A key that is refused finds no key in the file, and one that cannot be saved is there already. -/
def KeepsKey (env : KeyEnv) : KeyCall → KeyState → Prop
  | .setKey key,s => trimmed key ≠ "" →
    match env.validate s.calls (trimmed key) with
    | .error _ => s.keyText = ""
    | .ok _ => env.saveKey (s.calls+1) ≠ none → s.keyText = trimmed key
  | .deleteKey,_ => True

section
variable {env : KeyEnv} {s : KeyState}

theorem recordSiteKeys (env : KeyEnv) (s : KeyState) :
    (recordSite env s).2.apiKey = s.apiKey ∧ (recordSite env s).2.keyFile = s.keyFile := by
  unfold recordSite
  split <;> exact ⟨rfl,rfl⟩

theorem setKeyHeld (key : String) (held : KeyHeld s) : KeyHeld (SetKey env key s).2 ↔ KeepsKey env (.setKey key) s := by
  simp only [SetKey,KeepsKey]
  by_cases blank : trimmed key = ""
  · rw [if_pos blank]
    exact iff_of_true held (fun given => absurd blank given)
  · rw [if_neg blank,imp_iff_right blank]
    cases answer : env.validate s.calls (trimmed key) with
    | error e =>
      simp only [KeyState.SetAPIKey,answer,KeyHeld]
      exact eq_comm
    | ok appVersion =>
      simp only [KeyState.SetAPIKey,answer,Save]
      cases saved : env.saveKey (s.calls+1) with
      | some e =>
        simp only [KeyHeld,KeyState.keyText,ne_eq,reduceCtorEq,not_false_eq_true,forall_const]
        exact eq_comm
      | none =>
        obtain ⟨client,file⟩ := recordSiteKeys env ⟨trimmed key,some (trimmed key),s.store,none,s.calls+1+1⟩
        simp only [KeyHeld,KeyState.keyText,client,file,Option.getD_some,ne_eq,not_true_eq_false,false_implies]

theorem deleteKeyHeld (held : KeyHeld s) : KeyHeld (DeleteKey env s).2 := by
  unfold DeleteKey Delete
  cases env.deleteKey s.calls with
  | some e => exact held
  | none => rfl

end

theorem keyHeldRuns {env : KeyEnv} {run : List KeyCall} {start : KeyState} (held : KeyHeld start) :
    Along (keyCall env) (fun a s => KeyHeld (keyCall env a s)) run start ↔ Along (keyCall env) (KeepsKey env) run start := by
  have each (a : KeyCall) (s : KeyState) (held : KeyHeld s) : KeyHeld (keyCall env a s) ↔ KeepsKey env a s := by
    cases a with
    | setKey key => exact setKeyHeld key held
    | deleteKey => exact iff_of_true (deleteKeyHeld held) trivial
  exact alongIff KeyHeld (fun a _ s => each a s) (fun a _ s held keeps => (each a s held).mpr keeps) held

def acceptingKeys : KeyEnv :=
  ⟨fun _ _ => .ok "9.0.0",fun _ => .ok "default",fun _ _ => true,fun _ => none,fun _ => none,⟨fun _ => none,false⟩⟩

def refusingKeys : KeyEnv := {acceptingKeys with validate := fun _ _ => .error (.new "unauthorized")}
def fullDisk : KeyEnv := {acceptingKeys with saveKey := fun _ => some (.new "no space left on device")}
def storedKey : KeyState := ⟨"old",some "old",⟨⟨"",⟨"","",[],""⟩,∅,∅,"",""⟩,0⟩,none,0⟩

theorem keyHeldRunsReplaced :
    Along (keyCall acceptingKeys) (fun a s => KeyHeld (keyCall acceptingKeys a s)) [.setKey " new\n",.deleteKey,.setKey "third"] storedKey := by
  have held : KeyHeld storedKey := rfl
  exact (keyHeldRuns held).mpr ⟨fun _ failed => absurd rfl failed,trivial,fun _ failed => absurd rfl failed,trivial⟩

theorem replacementLosesKey : KeyHeld storedKey ∧ (keyCall refusingKeys (.setKey "new") storedKey).apiKey = "" ∧
      (keyCall refusingKeys (.setKey "new") storedKey).keyFile = some "old" ∧ ¬ KeyHeld (keyCall refusingKeys (.setKey "new") storedKey) ∧
      (keyCall fullDisk (.setKey "new") storedKey).apiKey = "new" ∧ ¬ KeyHeld (keyCall fullDisk (.setKey "new") storedKey) := by
  unfold KeyHeld
  decide +kernel

end VpnPack.Service
