import VpnPack.Base.Proc
import VpnPack.Base.Text

/-! The errors of package service: a kind, the message that is shown and the cause
that errors.Is still finds. strings.ToLower is taken over ASCII only; every
marker is ASCII. -/
namespace VpnPack.Service
open Base

inductive ErrorKind where
  | validation
  | upstream
  | internal
  | precondition
  | notFound
  | unavailable
  | conflict
  deriving DecidableEq, Repr

structure Error where
  kind : ErrorKind
  message : String
  cause : Option GoError
  deriving DecidableEq, Repr

def validationError (msg : String) : Error := ⟨.validation,msg,none⟩
def upstreamError (msg : String) (cause : GoError) : Error := ⟨.upstream,msg,some cause⟩
def internalError (msg : String) (cause : Option GoError) : Error := ⟨.internal,msg,cause⟩
def notFoundError (msg : String) : Error := ⟨.notFound,msg,none⟩
def conflictError (msg : String) : Error := ⟨.conflict,msg,none⟩

-- One case of the switch: all the markers of one of its alternatives.
structure Hint where
  alternatives : List (List String)
  message : String

def Hint.applies (hint : Hint) (lower : List Char) : Bool :=
  hint.alternatives.any (fun markers => markers.all (fun marker => contains lower marker.toList))

def humanize (hints : List Hint) (fallback : String → String) (e : GoError) : String :=
  match hints.find? (fun hint => hint.applies (e.text.toList.map Char.toLower)) with
  | some hint => hint.message
  | none => fallback e.text

def localAPIHints : List Hint :=
  [⟨[["not logged in"]],"Tailscale is not connected. Use the Status tab to log in first."⟩,
    ⟨[["not running"]],"Tailscale service is stopped. Start it from the Status tab."⟩,
    ⟨[["backend state: needslogin"]],"Authentication required. Complete login in the Status tab."⟩,
    ⟨[["already running"]],"Tailscale is already connected."⟩,
    ⟨[["timeout"],["deadline exceeded"]],
      "Tailscale service is not responding. Check if tailscaled is running: systemctl status tailscaled"⟩,
    ⟨[["connection refused"]],"Cannot reach tailscaled. Verify the service is running: systemctl status tailscaled"⟩,
    ⟨[["auth key","expired"]],"The auth key has expired. Generate a new one in the Tailscale admin console."⟩,
    ⟨[["auth key","invalid"]],
      "The auth key is not recognized. Verify it was copied correctly from the Tailscale admin console."⟩,
    ⟨[["node already registered"]],
      "This device is already registered to a tailnet. Log out first if you want to re-register."⟩]

def humanizeLocalAPIError : GoError → String :=
  humanize localAPIHints (fun msg =>
    "Tailscale error: " ++ msg ++ ". If this persists, check logs: journalctl -u tailscaled -n 50")

def wgS2sHints : List Hint :=
  [⟨[["tunnel","not found"]],"Tunnel not found"⟩,
    ⟨[["port in use"],["address already in use"]],"Port is already in use. Choose a different port."⟩,
    ⟨[["permission denied"],["operation not permitted"]],
      "Insufficient permissions for network operations. Ensure the manager runs as root."⟩]

def humanizeWgS2sError : GoError → String := humanize wgS2sHints (fun msg => "WG S2S error: " ++ msg)

end VpnPack.Service
