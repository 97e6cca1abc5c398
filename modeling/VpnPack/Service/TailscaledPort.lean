import VpnPack.Base.Proc
import VpnPack.Net.Addr

/-! The defaults file of tailscaled and the port in it. The pattern (?m)^PORT="(\d+)" is
tried at the start of every line. A file that exists can be read; a write is refused
before it touches the file, or may stop after a part of the new text. -/
namespace VpnPack.Service
open Base

def defaultTailscalePort : Int := 41641
def maxPort : Int := 65535

-- cached is cachedTailscaledPort, which lives as long as the process.
structure Defaults where
  file : Option (List Char)
  cached : Option Int
  deriving DecidableEq, Repr

inductive Writing where
  | done
  | refused (e : GoError)
  | short (kept : Nat) (e : GoError)
  deriving DecidableEq, Repr

def portOpening : List Char := "PORT=\"".toList

def matchPort (line : List Char) : Option (List Char × List Char) :=
  if portOpening.isPrefixOf line then
    let value := line.drop portOpening.length
    match value.takeWhile Char.isDigit,value.dropWhile Char.isDigit with
    | d :: digits,'"' :: after => some (d :: digits,after)
    | _,_ => none
  else none

def readPortFromFile (file : Option (List Char)) : Int :=
  match file with
  | none => defaultTailscalePort
  | some data =>
    match (lines data).findSome? matchPort with
    | none => defaultTailscalePort
    | some (digits,_) =>
      match Net.number 10 digits with
      | none => defaultTailscalePort
      | some port => if (port : Int) < 1 ∨ maxPort < port then defaultTailscalePort else port

def ReadTailscaledPort (d : Defaults) : Int × Defaults :=
  match d.cached with
  | some port => (port,d)
  | none => (readPortFromFile d.file,{d with cached := some (readPortFromFile d.file)})

def portLine (port : Int) : List Char := portOpening ++ (toString port).toList ++ ['"']

def replacePort (port : Int) (line : List Char) : List Char :=
  match matchPort line with
  | some (_,after) => portLine port ++ after
  | none => line

def portContent (port : Int) : Option (List Char) → List Char
  | none => portLine port ++ "\nFLAGS=\"\"\n".toList
  | some content =>
    if (lines content).any (fun line => (matchPort line).isSome) then ['\n'].intercalate ((lines content).map (replacePort port))
    else portLine port ++ ['\n'] ++ content.rdropWhile (fun c => c == '\n') ++ ['\n']

def writeFile (writing : Writing) (content : List Char) (file : Option (List Char)) : Option GoError × Option (List Char) :=
  match writing with
  | .done => (none,some content)
  | .refused e => (some e,file)
  | .short kept e => (some e,some (content.take kept))

def WriteTailscaledPort (writing : Writing) (port : Int) : Proc Defaults := fun d =>
  match writeFile writing (portContent port d.file) d.file with
  | (some e,file) => (some e,{d with file := file})
  | (none,file) => (none,⟨file,some port⟩)

theorem readPortFile (d : Defaults) : (ReadTailscaledPort d).2.file = d.file := by
  unfold ReadTailscaledPort
  split <;> rfl

end VpnPack.Service
