import VpnPack.Exit.Rules
import VpnPack.Ops

/-! ExitNodeService over the kernel's rule lists and masquerade counters. Every call that
leaves the process is appended to a log, and its answer is looked up by its place in the
log: a failing call has no effect. The mutex is not modelled. -/
namespace VpnPack.Exit
open Base Net Ops

structure Tables where
  rules : Family → List Rule
  masq : Family → Nat

structure RemoteExitNode where
  peerID : String
  mode : ExitNodeMode
  clients : List ExitNodeClient
  deriving DecidableEq, Repr

structure Manifest where
  exitNodePolicy : Option ExitNodePolicy
  remoteExitNode : Option RemoteExitNode
  advertiseExitNodeEnabled : Bool
  deriving DecidableEq, Repr

structure Prefs where
  exitNodeID : String
  exitNodeAllowLANAccess : Bool
  advertiseRoutes : List Prefix
  deriving DecidableEq, Repr

inductive Command where
  | ruleAdd (family : Family) (src : Text) (prio : Nat) (iif : Option IfName)
  | ruleDel (family : Family) (prio : Nat)
  | ruleShow (family : Family)
  | masqAdd (family : Family)
  | masqDel (family : Family)
  | masqCheck (family : Family)
  | conntrackFlush
  deriving DecidableEq, Repr

inductive Call where
  | command (c : Command)
  | save
  | status
  | getPrefs
  | editPrefs
  deriving DecidableEq, Repr

structure Failure where
  err : GoError
  out : Text
  deriving DecidableEq, Repr

-- The Undo closures of a saga get their answers from a source of their own.
abbrev World := Nat → Option Failure

-- v6Installed is the variable that the masquerade step of buildApplyOps closes over.
structure State where
  tables : Tables
  manifest : Manifest
  prefs : Prefs
  v6Installed : Bool
  log : List Call

namespace Tables

def setRules (t : Tables) (family : Family) (rules : List Rule) : Tables :=
  {t with rules := fun f => if f = family then rules else t.rules f}

def setMasq (t : Tables) (family : Family) (count : Nat) : Tables :=
  {t with masq := fun f => if f = family then count else t.masq f}

variable (t : Tables) (family : Family) (count : Nat) (rules : List Rule)

@[simp] theorem setRulesHere :
    (t.setRules family rules).rules family = rules := if_pos rfl
@[simp] theorem setRulesMasq : (t.setRules family rules).masq = t.masq := rfl
@[simp] theorem setMasqRules : (t.setMasq family count).rules = t.rules := rfl
@[simp] theorem setMasqHere : (t.setMasq family count).masq family = count := if_pos rfl

theorem setRulesOther {family f : Family} (rules : List Rule) (other : f ≠ family) :
    (t.setRules family rules).rules f = t.rules f := if_neg other
theorem setMasqOther {family f : Family} (count : Nat) (other : f ≠ family) :
    (t.setMasq family count).masq f = t.masq f := if_neg other

end Tables

def makeRule (family : Family) (src : Text) (prio : Nat) (iif : Option IfName) : Option Rule :=
  match iif with
  | some name => some ⟨prio,none,some name,exitTable,by simp⟩
  | none =>
    if src = [] then some ⟨prio,none,none,exitTable,by simp⟩
    else
      match parseSource src with
      | none => none
      | some p =>
        if addrFamily p.addr = family then
          if narrow : 0 < p.bits then
            some ⟨prio,some p,none,exitTable,fun q same => Option.some.inj same ▸ narrow⟩
          else some ⟨prio,none,none,exitTable,by simp⟩
        else none

def badSource (src : Text) : Failure :=
  ⟨.new "exit status 1","Error: inet prefix is expected rather than \"".toList ++ src ++ "\".".toList⟩
def ruleExists : Failure := ⟨.new "exit status 2","RTNETLINK answers: File exists".toList⟩
def ruleMissing : Failure := ⟨.new "exit status 2","RTNETLINK answers: No such file or directory".toList⟩
def badRule : Failure :=
  ⟨.new "exit status 1","iptables: Bad rule (does a matching rule exist in that chain?).".toList⟩

-- del prio takes the first rule of that priority, whatever its table.
def Tables.apply (t : Tables) : Command → Except Failure Tables
  | .ruleAdd family src prio iif =>
    match makeRule family src prio iif with
    | none => .error (badSource src)
    | some r => if r ∈ t.rules family then .error ruleExists else .ok (t.setRules family (t.rules family ++ [r]))
  | .ruleDel family prio =>
    if (t.rules family).any (fun r => r.prio == prio) then
      .ok (t.setRules family ((t.rules family).eraseP (fun r => r.prio == prio)))
    else .error ruleMissing
  | .ruleShow _ => .ok t
  | .masqAdd family => .ok (t.setMasq family (t.masq family + 1))
  | .masqDel family =>
    match t.masq family with
    | 0 => .error badRule
    | count+1 => .ok (t.setMasq family count)
  | .masqCheck family => if t.masq family = 0 then .error badRule else .ok t
  | .conntrackFlush => .ok t

def execute (world : World) (c : Command) (s : State) : Option Failure × State :=
  match world s.log.length with
  | some f => (some f,{s with log := s.log ++ [.command c]})
  | none =>
    match s.tables.apply c with
    | .error f => (some f,{s with log := s.log ++ [.command c]})
    | .ok tables => (none,{s with tables := tables, log := s.log ++ [.command c]})

def iptables : Family → String
  | .v4 => "iptables"
  | .v6 => "ip6tables"

def cgnat : Family → String
  | .v4 => "100.64.0.0/10"
  | .v6 => "fd7a:115c:a1e0::/48"

def masqArgs (action : String) (family : Family) : List String :=
  ["-t","nat",action,"POSTROUTING","-o","tailscale0","!","-s",cgnat family,"-j","MASQUERADE","-m","comment",
    "--comment","vpn-pack-exit-masq"]

def selectorArgs (src : Text) : Option IfName → List String
  | some name => ["iif",String.ofList name.text]
  | none => if src = [] then [] else ["from",String.ofList src]

def Command.argv : Command → List String
  | .ruleAdd family src prio iif =>
    "ip" :: family.flag :: "rule" :: "add" :: selectorArgs src iif ++
      ["lookup",toString exitRouteTable,"prio",toString prio]
  | .ruleDel family prio => ["ip",family.flag,"rule","del","prio",toString prio]
  | .ruleShow family => ["ip",family.flag,"rule","show"]
  | .masqAdd family => iptables family :: masqArgs "-A" family
  | .masqDel family => iptables family :: masqArgs "-D" family
  | .masqCheck family => iptables family :: masqArgs "-C" family
  | .conntrackFlush => ["conntrack","-F"]

-- fmt.Errorf("msg: %w (%s)", err, strings.TrimSpace(string(out)))
def reported (msg : String) (f : Failure) : GoError := .wrap msg (.note f.err (String.ofList (trimSpace f.out)))

def attempt (world : World) (msg : String) (c : Command) : Proc State := fun s =>
  ((execute world c s).1.map (reported msg),(execute world c s).2)

def addRule (world : World) (family : Family) (src : Text) (prio : Nat) (iif : Option IfName) : Proc State :=
  attempt world (" ".intercalate (Command.ruleAdd family src prio iif).argv) (.ruleAdd family src prio iif)

def delRule (world : World) (family : Family) (prio : Nat) : Proc State :=
  attempt world (" ".intercalate (Command.ruleDel family prio).argv) (.ruleDel family prio)

def flushConntrack (world : World) (s : State) : State := (execute world .conntrackFlush s).2
def addV4Masquerade (world : World) : Proc State := attempt world "iptables masquerade add" (.masqAdd .v4)
def delMasqueradeOf (world : World) (family : Family) (s : State) : State := (execute world (.masqDel family) s).2

def unavailableMarkers : List String :=
  ["executable file not found","no such file or directory","address family not supported","protocol not supported",
    "module is not loaded"]

-- strings.ToLower is taken over ASCII only; the markers are ASCII.
def isIP6Unavailable (f : Failure) : Bool :=
  unavailableMarkers.any (fun marker =>
    contains ((f.err.text.toList ++ ' ' :: f.out).map Char.toLower) marker.toList)

def addV6Masquerade (world : World) : Proc State := fun s =>
  match execute world (.masqAdd .v6) s with
  | (none,t) => (none,{t with v6Installed := true})
  | (some f,t) =>
    (if isIP6Unavailable f then none else some (reported "ip6tables masquerade add" f),{t with v6Installed := false})

def delMasquerade (world : World) (s : State) : State := delMasqueradeOf world .v6 (delMasqueradeOf world .v4 s)

def hasMasquerade (world : World) (s : State) : Bool × State :=
  match execute world (.masqCheck .v4) s with
  | (some _,t) => (false,t)
  | (none,t) =>
    match execute world (.masqCheck .v6) t with
    | (some f,u) => (isIP6Unavailable f,u)
    | (none,u) => (true,u)

def listRules (world : World) (family : Family) (s : State) : Except GoError (List ExitRule) × State :=
  match execute world (.ruleShow family) s with
  | (some f,t) => (.error (.wrap ("ip " ++ family.flag ++ " rule show") f.err),t)
  | (none,t) => (.ok (parseRules ((s.tables.rules family).map Rule.line) family),t)

def allCurrentRules (world : World) (s : State) : Except GoError (List ExitRule) × State :=
  match listRules world .v4 s with
  | (.error e,t) => (.error e,t)
  | (.ok four,t) =>
    match listRules world .v6 t with
    | (.error e,u) => (.error e,u)
    | (.ok six,u) => (.ok (four ++ six),u)

def deleteListed (world : World) (family : Family) : List ExitRule → State → List GoError × State
  | [],s => ([],s)
  | r :: rest,s =>
    match delRule world family r.priority s with
    | (none,t) => deleteListed world family rest t
    | (some e,t) => (e :: (deleteListed world family rest t).1,(deleteListed world family rest t).2)

def sweepFamily (world : World) (family : Family) (s : State) : List GoError × State :=
  match listRules world family s with
  | (.error e,t) => ([e],t)
  | (.ok rules,t) => deleteListed world family rules t

def cleanupErrors : List GoError → Option GoError
  | [] => none
  | errs => some (.new ("cleanup errors: " ++ "; ".intercalate (errs.map GoError.text)))

def cleanupLocked (world : World) : Proc State := fun s =>
  let four := sweepFamily world .v4 (delMasquerade world s)
  let six := sweepFamily world .v6 four.2
  (cleanupErrors (four.1 ++ six.1),six.2)

def saveLocked (world : World) : Proc State := fun s =>
  ((world s.log.length).map (fun f => .wrap "manifest save" f.err),{s with log := s.log ++ [.save]})

-- The setters of the manifest change the field and then save; they do not take it back.
def setExitNodePolicy (world : World) (policy : ExitNodePolicy) : Proc State := fun s =>
  saveLocked world {s with manifest := {s.manifest with exitNodePolicy := some policy}}

def bridgeOp (world back : World) (family : Family) (br : IfName) (prio : Nat) : Op State where
  name := "add rule " ++ family.flag ++ " iif " ++ String.ofList br.text ++ " prio " ++ toString prio
  Do := addRule world family [] prio (some br)
  Undo := delRule back family prio

def clientOp (world back : World) (family : Family) (src : Text) (prio : Nat) : Op State where
  name := "add rule " ++ family.flag ++ " from " ++ String.ofList src ++ " prio " ++ toString prio
  Do := addRule world family src prio none
  Undo := delRule back family prio

def bridgeOps (world back : World) : Nat → List IfName → List (Op State)
  | _,[] => []
  | prio,br :: rest =>
    bridgeOp world back .v4 br prio :: bridgeOp world back .v6 br prio ::
      (if exitRuleMaxPrio < prio+1 then [] else bridgeOps world back (prio+1) rest)

def clientOps (world back : World) : Nat → List ExitNodeClient → Except GoError (List (Op State))
  | _,[] => .ok []
  | prio,c :: rest =>
    if isCatchAllPrefix c.ip then .error (catchAllClient c.ip)
    else
      match familyForAddr c.ip with
      | none => clientOps world back prio rest
      | some fam =>
        if exitRuleMaxPrio < prio+1 then .ok [clientOp world back fam c.ip prio]
        else
          match clientOps world back (prio+1) rest with
          | .error e => .error e
          | .ok later => .ok (clientOp world back fam c.ip prio :: later)

def v4MasqOp (world back : World) : Op State where
  name := "add v4 masquerade"
  Do := addV4Masquerade world
  Undo := modify (delMasqueradeOf back .v4)

def v6MasqOp (world back : World) : Op State where
  name := "add v6 masquerade (best-effort)"
  Do := addV6Masquerade world
  Undo := modify (fun s => if s.v6Installed then delMasqueradeOf back .v6 s else s)

def closingOps (world back : World) (policy : ExitNodePolicy) : List (Op State) :=
  [v4MasqOp world back,v6MasqOp world back,Noop "persist manifest" (setExitNodePolicy world policy)]

abbrev Bridges := Except GoError (List IfName)

def buildApplyOps (world back : World) (discover : Bridges) (policy : ExitNodePolicy) : Except GoError (List (Op State)) :=
  match policy.mode with
  | .all =>
    match discover with
    | .error e => .error (.wrap "discover LAN bridges" e)
    | .ok [] => .error (.new "no LAN bridge interfaces found")
    | .ok bridges => .ok (bridgeOps world back exitRuleBasePrio bridges ++ closingOps world back policy)
  | .selective =>
    if policy.clients = [] then .ok [Noop "persist empty selective" (setExitNodePolicy world policy)]
    else
      match clientOps world back (exitRuleBasePrio+1) policy.clients with
      | .error e => .error e
      | .ok steps => .ok (steps ++ closingOps world back policy)
  | mode => .error (unknownMode mode)

def installPolicy (world back : World) (ctx : Context) (discover : Bridges) (policy : ExitNodePolicy) : Proc State := fun s =>
  match buildApplyOps world back discover policy with
  | .error e => (some e,{s with v6Installed := false})
  | .ok steps => run ctx steps {s with v6Installed := false}

def offPolicy : ExitNodePolicy := ⟨.off,[]⟩

-- An error of the cleanup is only logged; conntrack is flushed on every way out.
def applyLocked (world back : World) (ctx : Context) (discover : Bridges) (policy : ExitNodePolicy) : Proc State := fun s =>
  let swept := (cleanupLocked world s).2
  let done :=
    if policy.mode = .off ∨ policy.mode = .unset then setExitNodePolicy world offPolicy swept
    else installPolicy world back ctx discover policy swept
  (done.1,flushConntrack world done.2)

def Apply (world back : World) (ctx : Context) (discover : Bridges) (policy : ExitNodePolicy) : Proc State :=
  applyLocked world back ctx discover policy

def Cleanup (world : World) : Proc State := fun s =>
  ((cleanupLocked world s).1,flushConntrack world (cleanupLocked world s).2)

def bridgesFor (discover : Bridges) (policy : ExitNodePolicy) : Bridges :=
  if policy.mode = .all then discover else .ok []

def Reconcile (world back : World) (ctx : Context) (discover : Bridges) (policy : ExitNodePolicy) : Proc State := fun s =>
  match bridgesFor discover policy with
  | .error e => (some (.wrap "discover bridges for reconcile" e),s)
  | .ok bridges =>
    let desired := buildDesiredRules policy bridges
    match allCurrentRules world s with
    | (.error e,t) => (some (.wrap "list current exit rules" e),t)
    | (.ok current,t) =>
      if rulesMatch current desired then
        let masq := hasMasquerade world t
        if decide (0 < desired.length) = masq.1 then (none,masq.2)
        else applyLocked world back ctx discover policy masq.2
      else applyLocked world back ctx discover policy t

end VpnPack.Exit
