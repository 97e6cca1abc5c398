import VpnPack.Base.Text

/-! The middleware between the socket and the handlers: a gate answers a request or passes it on.
A response is the first code that was written, the text and the cookie. Of the body only its
type is looked at; the reader that limits its size is left out. -/
namespace VpnPack.Httpmw
open Base

inductive Method where
  | GET
  | HEAD
  | OPTIONS
  | POST
  | PATCH
  | DELETE
  deriving DecidableEq, Repr

-- A header that is absent is empty; random is what rand.Read gives, in hexadecimal.
structure Request where
  method : Method
  peerUID : Option UInt32
  token : String
  cookie : Option String
  csrf : String
  site : String
  contentType : String
  random : Option String

structure Writer where
  code : Option Nat
  text : String
  setCookie : Option String

-- The flag says that the handler panicked.
abbrev Handler (σ : Type) := Request → Writer × σ → Bool × Writer × σ

abbrev Middleware (σ : Type) := Handler σ → Handler σ

abbrev Refusal := Request → Option (String × Nat)

def Error (text : String) (code : Nat) (w : Writer) : Writer := {w with code := some (w.code.getD code), text := w.text ++ text ++ "\n"}
def isSafe (m : Method) : Bool := m = .GET ∨ m = .HEAD ∨ m = .OPTIONS

def peerRefusal (euid : UInt32) (allowed : List UInt32) : Refusal := fun r =>
  match r.peerUID with
  | none => some ("forbidden: no peer credentials",403)
  | some uid => if uid ∈ euid :: allowed then none else some ("forbidden",403)

def tokenRefusal (secret : String) : Refusal := fun r =>
  if secret = "" then none
  else if r.token = "" ∨ r.token ≠ secret then some ("forbidden: token factor",403)
  else none

def csrfRefusal : Refusal := fun r =>
  if isSafe r.method then (if r.cookie.getD "" = "" ∧ r.random = none then some ("internal error",500) else none)
  else if r.cookie.getD "" = "" ∨ r.csrf = "" ∨ r.csrf ≠ r.cookie.getD "" then some ("csrf check failed",403)
  else none

def originRefusal : Refusal := fun r =>
  if isSafe r.method then none
  else if r.site = "cross-site" ∨ r.site = "cross-origin" then some ("forbidden: cross-site request",403)
  else none

def isJSON (contentType : String) : Bool := trimSpace (contentType.toList.takeWhile (· ≠ ';')) = "application/json".toList

def jsonRefusal : Refusal := fun r =>
  if r.method = .GET ∨ r.method = .HEAD ∨ r.method = .DELETE then none
  else if isJSON r.contentType then none
  else some ("expect application/json",415)

structure Config where
  euid : UInt32
  allowed : List UInt32
  nginxToken : String

section
variable {σ : Type}

def Chain (mws : List (Middleware σ)) : Middleware σ := fun h => mws.foldr (fun mw h => mw h) h

def Recover : Middleware σ := fun next r x =>
  let y := next r x
  if y.1 then (false,Error "internal error" 500 y.2.1,y.2.2) else y

def gate (refusal : Refusal) : Middleware σ := fun next r x =>
  match refusal r with
  | some (text,code) => (false,Error text code x.1,x.2)
  | none => next r x

def PeerUIDAuth (euid : UInt32) (allowed : List UInt32) : Middleware σ := gate (peerRefusal euid allowed)
def Token (secret : String) : Middleware σ := gate (tokenRefusal secret)

def CSRF : Middleware σ := fun next r x =>
  gate csrfRefusal next r (if isSafe r.method ∧ r.cookie.getD "" = "" then {x.1 with setCookie := r.random} else x.1,x.2)

def SameOrigin : Middleware σ := gate originRefusal
def RequireJSON : Middleware σ := gate jsonRefusal

def mutate (cfg : Config) : Middleware σ :=
  Chain [Recover,PeerUIDAuth cfg.euid cfg.allowed,Token cfg.nginxToken,CSRF,SameOrigin,RequireJSON]

end

def Admitted (cfg : Config) (r : Request) : Prop :=
  (∃ uid ∈ cfg.euid :: cfg.allowed, r.peerUID = some uid) ∧ (cfg.nginxToken = "" ∨ r.token = cfg.nginxToken) ∧
    (r.csrf ≠ "" ∧ r.cookie = some r.csrf) ∧ (r.site ≠ "cross-site" ∧ r.site ≠ "cross-origin") ∧
    (r.method = .DELETE ∨ isJSON r.contentType = true)

instance (cfg : Config) (r : Request) : Decidable (Admitted cfg r) := by
  unfold Admitted
  infer_instance

section
variable {σ : Type} {cfg : Config} {r : Request} (h : Handler σ) (x : Writer × σ)

theorem admittedIff (changes : isSafe r.method = false) : Admitted cfg r ↔ peerRefusal cfg.euid cfg.allowed r = none ∧
    tokenRefusal cfg.nginxToken r = none ∧ csrfRefusal r = none ∧ originRefusal r = none ∧ jsonRefusal r = none := by
  have method : r.method ≠ .GET ∧ r.method ≠ .HEAD := by
    revert changes
    cases r.method <;> decide
  refine and_congr ?_ (and_congr ?_ (and_congr ?_ (and_congr ?_ ?_)))
  · unfold peerRefusal
    cases r.peerUID <;> simp [or_iff_not_imp_left]
  · unfold tokenRefusal
    grind
  · unfold csrfRefusal
    cases r.cookie <;> grind
  · unfold originRefusal
    grind
  · unfold jsonRefusal
    grind

theorem gateState (f : Refusal) : (gate f h r x).2.2 = if f r = none then (h r x).2.2 else x.2 := by
  unfold gate
  cases f r <;> rfl

theorem recoverState : (Recover h r x).2.2 = (h r x).2.2 := by
  unfold Recover
  dsimp only
  split <;> rfl

theorem csrfState (changes : isSafe r.method = false) : (CSRF h r x).2.2 = if csrfRefusal r = none then (h r x).2.2 else x.2 := by
  simp only [CSRF,changes,Bool.false_eq_true,false_and,if_false,gateState]

theorem mutateState (changes : isSafe r.method = false) : (mutate cfg h r x).2.2 = if Admitted cfg r then (h r x).2.2 else x.2 := by
  simp only [mutate,Chain,List.foldr,PeerUIDAuth,Token,SameOrigin,RequireJSON,recoverState,gateState,csrfState _ _ changes,
    admittedIff changes,ite_and]

end

def blank : Writer := ⟨none,"",none⟩

end VpnPack.Httpmw
