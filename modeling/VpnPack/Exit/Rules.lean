import Mathlib.Data.List.Nodup
import Mathlib.Data.List.Perm.Subperm
import VpnPack.Base.Proc
import VpnPack.Net.Prefix

/-! The exit-node policy and its three encodings: the rules the service asks for, the rules
the kernel holds and the lines ip rule show prints for them. Selectors other than the source
and the input interface are not modelled. -/
namespace VpnPack.Exit
open Base List Net

abbrev Text := List Char

inductive ExitNodeMode where
  | unset
  | off
  | all
  | selective
  | other (text : String)
  deriving DecidableEq, Repr

def ExitNodeMode.text : ExitNodeMode → String
  | .unset => ""
  | .off => "off"
  | .all => "all"
  | .selective => "selective"
  | .other text => text

structure ExitNodeClient where
  ip : Text
  label : String
  deriving DecidableEq, Repr

structure ExitNodePolicy where
  mode : ExitNodeMode
  clients : List ExitNodeClient
  deriving DecidableEq, Repr

inductive Family where
  | v4
  | v6
  deriving DecidableEq, Repr

def Family.flag : Family → String
  | .v4 => "-4"
  | .v6 => "-6"

def exitRouteTable : Nat := 53
def exitRuleBasePrio : Nat := 5280
def exitRuleMaxPrio : Nat := 5300
def maxExitClients : Nat := 20
def inRange (prio : Nat) : Bool := exitRuleBasePrio ≤ prio && prio ≤ exitRuleMaxPrio

theorem inRangeSource {prio : Nat} : inRange prio = true ↔ 5280 ≤ prio ∧ prio ≤ 5300 := by
  simp only [inRange,Bool.and_eq_true,decide_eq_true_eq]
  rfl

def addrFamily (a : Addr) : Family := if a.Is4 then .v4 else .v6

def familyForAddr (s : Text) : Option Family :=
  match parsePrefix s with
  | some p => some (addrFamily p.addr)
  | none => (parseAddr s).map addrFamily

def isCatchAllPrefix (s : Text) : Bool :=
  match parsePrefix s with
  | some p => p.bits = 0
  | none => false

def normalizeRuleSrc (s : Text) : Text :=
  match parsePrefix s with
  | some p => if p.bits = p.addr.width then p.addr.text else s
  | none => s

def invalidClient (ip : Text) : GoError := .new ("invalid client IP/CIDR: " ++ String.ofList ip)
def catchAllClient (ip : Text) : GoError :=
  .new ("selective client " ++ (String.ofList ip).quote ++ " is a catch-all prefix; use mode=all explicitly")
def unknownMode (mode : ExitNodeMode) : GoError := .new ("unknown exit node mode: " ++ mode.text)

def refuseClient (c : ExitNodeClient) : Option GoError :=
  if familyForAddr c.ip = none then some (invalidClient c.ip)
  else if isCatchAllPrefix c.ip then some (catchAllClient c.ip)
  else none

def ValidateExitNodePolicy (policy : ExitNodePolicy) : Option GoError :=
  match policy.mode with
  | .off | .all => none
  | .selective =>
    if maxExitClients < policy.clients.length then
      some (.new ("too many exit clients: " ++ toString policy.clients.length ++ " (max " ++ toString maxExitClients ++ ")"))
    else policy.clients.findSome? refuseClient
  | mode => some (unknownMode mode)

-- dev_valid_name: what the kernel accepts as the name of a link.
def validName (name : Text) : Bool :=
  name ≠ [] ∧ name.length < 16 ∧ name ≠ ['.'] ∧ name ≠ ['.','.'] ∧
    name.all (fun c => c ≠ '/' ∧ c ≠ ':' ∧ isSpace c = false)

structure IfName where
  text : Text
  valid : validName text = true
  deriving DecidableEq, Repr

structure ExitRule where
  priority : Nat
  family : Family
  src : Text
  iif : Text
  deriving DecidableEq, Repr

def desiredBridges : Nat → List IfName → List ExitRule
  | _,[] => []
  | prio,br :: rest =>
    ⟨prio,.v4,[],br.text⟩ :: ⟨prio,.v6,[],br.text⟩ ::
      (if exitRuleMaxPrio < prio+1 then [] else desiredBridges (prio+1) rest)

def desiredClients : Nat → List ExitNodeClient → List ExitRule
  | _,[] => []
  | prio,c :: rest =>
    match familyForAddr c.ip with
    | none => desiredClients prio rest
    | some fam =>
      ⟨prio,fam,normalizeRuleSrc c.ip,[]⟩ ::
        (if exitRuleMaxPrio < prio+1 then [] else desiredClients (prio+1) rest)

def buildDesiredRules (policy : ExitNodePolicy) (bridges : List IfName) : List ExitRule :=
  match policy.mode with
  | .all => desiredBridges exitRuleBasePrio bridges
  | .selective => desiredClients (exitRuleBasePrio+1) policy.clients
  | _ => []

def desiredLinks : Nat → List Text → List ExitRule
  | _,[] => []
  | prio,br :: rest =>
    ⟨prio,.v4,[],br⟩ :: ⟨prio,.v6,[],br⟩ :: (if exitRuleMaxPrio < prio+1 then [] else desiredLinks (prio+1) rest)

def desiredRules (policy : ExitNodePolicy) (bridges : List Text) : List ExitRule :=
  match policy.mode with
  | .all => desiredLinks exitRuleBasePrio bridges
  | .selective => desiredClients (exitRuleBasePrio+1) policy.clients
  | _ => []

theorem desiredRulesNamed (policy : ExitNodePolicy) (bridges : List IfName) :
    buildDesiredRules policy bridges = desiredRules policy (bridges.map IfName.text) := by
  have links (prio : Nat) : desiredBridges prio bridges = desiredLinks prio (bridges.map IfName.text) := by
    induction bridges generalizing prio with
    | nil => rfl
    | cons br rest ih => simp only [desiredBridges,map_cons,desiredLinks,ih]
  simp only [buildDesiredRules,desiredRules,links]

def ruleKey (r : ExitRule) : Text :=
  Nat.toDigits 10 r.priority ++ '/' :: (r.family.flag.toList ++ '/' :: (r.src ++ '/' :: r.iif))

def rulesMatch (current desired : List ExitRule) : Bool :=
  current.length = desired.length ∧ ∀ r ∈ desired, ruleKey r ∈ current.map ruleKey

inductive RouteTable where
  | number (n : Nat)
  | named (name : Token)
  deriving DecidableEq, Repr

def RouteTable.text : RouteTable → Text
  | .number n => Nat.toDigits 10 n
  | .named name => name.text

def exitTable : RouteTable := .number exitRouteTable

-- A source of length zero is no selector to the kernel.
structure Rule where
  prio : Nat
  src : Option Prefix
  iif : Option IfName
  table : RouteTable
  narrows : ∀ p, src = some p → 0 < p.bits
  deriving DecidableEq, Repr

theorem anySource : ∀ p : Prefix, none = some p → 0 < p.bits := by
  intro p given
  cases given

def ruleText (p : Prefix) : Text := if p.bits = p.addr.width then p.addr.text else p.text

def sourceText : Option Prefix → Text
  | none => "all".toList
  | some p => ruleText p

def iifText : Option IfName → Text
  | none => []
  | some name => " iif ".toList ++ name.text

def Rule.line (r : Rule) : Text :=
  Nat.toDigits 10 r.prio ++ ":\tfrom ".toList ++ (sourceText r.src ++ iifText r.iif ++ " lookup ".toList ++ r.table.text)

def atoi (s : Text) : Option Int :=
  let bounded (n : Nat) (value : Int) : Option Int := if n < 2^63 then some value else none
  match s with
  | '-' :: rest => (number 10 rest).bind (fun n => bounded n (-n))
  | '+' :: rest => (number 10 rest).bind (fun n => bounded n n)
  | _ => (number 10 s).bind (fun n => bounded n n)

def parseRulePriority (line : Text) : Option Int :=
  match cutFirst ':' line with
  | none => none
  | some (head,_) => if head = [] then none else atoi (trimSpace head)

def parseRuleFrom (line : Text) : Text :=
  match afterFirst "from ".toList line with
  | none => []
  | some rest =>
    if ' ' ∈ rest then
      let src := rest.takeWhile (fun c => c != ' ')
      if src = "all".toList then [] else src
    else rest

def parseRuleIif (line : Text) : Text :=
  match afterFirst "iif ".toList line with
  | none => []
  | some rest => rest.takeWhile (fun c => c != ' ')

def parseRule (family : Family) (line : Text) : Option ExitRule :=
  if contains line ("lookup ".toList ++ Nat.toDigits 10 exitRouteTable) then
    match parseRulePriority line with
    | none => none
    | some prio =>
      if prio < exitRuleBasePrio ∨ (exitRuleMaxPrio : Int) < prio then none
      else some ⟨prio.toNat,family,parseRuleFrom line,parseRuleIif line⟩
  else none

def parseRules (lines : List Text) (family : Family) : List ExitRule := lines.filterMap (parseRule family)

def Rule.read (family : Family) (r : Rule) : ExitRule :=
  ⟨r.prio,family,match r.src with
    | none => []
    | some p => ruleText p,match r.iif with
    | none => []
    | some name => name.text⟩

section

variable (n : Nat) {c : Char} (p : Prefix) (r : Rule)

theorem decimalAvoids (other : ¬ ('0' ≤ c ∧ c ≤ '9')) (n : Nat) : c ∉ Nat.toDigits 10 n :=
  fun member => other (decimalChars n c member)

theorem atoiDigits : atoi (Nat.toDigits 10 n) = if n < 2^63 then some (n : Int) else none := by
  have whole := @numberToDigits 10 (by decide) (by decide) n
  have minus : '-' ∉ Nat.toDigits 10 n := decimalAvoids (by decide) n
  have plus : '+' ∉ Nat.toDigits 10 n := decimalAvoids (by decide) n
  generalize Nat.toDigits 10 n = s at *
  unfold atoi
  split
  · simp at minus
  · simp at plus
  · simp [whole]

theorem digitsTrimmed : trimSpace (Nat.toDigits 10 n) = Nat.toDigits 10 n := by
  refine trimSpaceClean (fun c member => ?_)
  have digit := decimalChars n c member
  simp only [Char.le_def,UInt32.le_iff_toNat_le] at digit
  have low : '0'.val.toNat = 48 := rfl
  have high : '9'.val.toNat = 57 := rfl
  have value : c.toNat = c.val.toNat := rfl
  simp only [isSpace,Bool.or_eq_false_iff,Bool.and_eq_false_iff,beq_eq_false_iff_ne,decide_eq_false_iff_not]
  omega

theorem priorityLine : parseRulePriority r.line = if r.prio < 2^63 then some (r.prio : Int) else none := by
  have clean : ':' ∉ Nat.toDigits 10 r.prio := decimalAvoids (by decide) r.prio
  have shape : r.line = Nat.toDigits 10 r.prio ++ ':' :: ("\tfrom ".toList ++
      (sourceText r.src ++ iifText r.iif ++ " lookup ".toList ++ r.table.text)) := by
    simp [Rule.line]
  rw [parseRulePriority,shape,cutFirstAppend _ clean]
  simp only [Nat.toDigits_ne_nil,if_false,digitsTrimmed,atoiDigits]

theorem ruleTextChars : ∀ c ∈ ruleText p, c ∈ addressChars := by
  unfold ruleText
  split
  · exact Addr.textChars p.zoneless
  · exact Prefix.textChars p

theorem sourceAvoids (src : Option Prefix) (word : c ∉ "all".toList) (address : c ∉ addressChars) : c ∉ sourceText src := by
  cases src with
  | none => exact word
  | some p => exact fun member => address (ruleTextChars p c member)

theorem ruleTextNotAll : ruleText p ≠ "all".toList := by
  intro same
  have member : 'l' ∈ ruleText p := by rw [same]; decide
  exact absurd (ruleTextChars p 'l' member) (by decide)

def afterSource (r : Rule) : Text :=
  match r.iif with
  | none => "lookup ".toList ++ r.table.text
  | some name => "iif ".toList ++ (name.text ++ ' ' :: ("lookup ".toList ++ r.table.text))

theorem lineShape :
    r.line = (Nat.toDigits 10 r.prio ++ ":\t".toList) ++ ("from ".toList ++ (sourceText r.src ++ ' ' :: afterSource r)) := by
  have shown (name : IfName) : iifText (some name) = " iif ".toList ++ name.text := rfl
  have hidden : iifText none = [] := rfl
  cases found : r.iif <;> simp [Rule.line,shown,hidden,afterSource,found]

theorem fromLine : parseRuleFrom r.line = (r.read .v4).src := by
  have clean : 'f' ∉ Nat.toDigits 10 r.prio ++ ":\t".toList := by
    rw [mem_append,not_or]
    exact ⟨decimalAvoids (by decide) r.prio,by decide⟩
  have blank : ' ' ∉ sourceText r.src := sourceAvoids r.src (by decide) (by decide)
  rw [parseRuleFrom,lineShape]
  have skip := afterFirstSkip clean "rom ".toList ("from ".toList ++ (sourceText r.src ++ ' ' :: afterSource r))
  have here := afterFirstHere 'f' "rom ".toList (sourceText r.src ++ ' ' :: afterSource r)
  have found : afterFirst "from ".toList ((Nat.toDigits 10 r.prio ++ ":\t".toList) ++
      ("from ".toList ++ (sourceText r.src ++ ' ' :: afterSource r))) = some (sourceText r.src ++ ' ' :: afterSource r) :=
    skip.trans here
  rw [found]
  simp only [mem_append,mem_cons,true_or,or_true,if_true,takeUntil _ blank]
  cases given : r.src with
  | none => simp [sourceText,Rule.read,given]
  | some p =>
    simp only [sourceText,Rule.read,given]
    exact if_neg (ruleTextNotAll p)

theorem nameAvoids {name : IfName} {c : Char} (bad : c = '/' ∨ c = ':' ∨ isSpace c = true) : c ∉ name.text := by
  intro member
  have valid := name.valid
  simp only [validName,decide_eq_true_eq] at valid
  obtain ⟨slash,colon,space⟩ := everyChar valid.2.2.2.2 c member
  rcases bad with rfl | rfl | white
  · exact slash rfl
  · exact colon rfl
  · rw [white] at space
    contradiction

theorem iifLine {r : Rule} (plain : 'i' ∉ r.table.text) : parseRuleIif r.line = (r.read .v4).iif := by
  have clean : 'i' ∉ (Nat.toDigits 10 r.prio ++ ":\t".toList) ++ ("from ".toList ++ (sourceText r.src ++ [' '])) := by
    simp only [mem_append,not_or]
    exact ⟨⟨decimalAvoids (by decide) r.prio,by decide⟩,by decide,sourceAvoids r.src (by decide) (by decide),by decide⟩
  have shape : r.line = ((Nat.toDigits 10 r.prio ++ ":\t".toList) ++ ("from ".toList ++ (sourceText r.src ++ [' ']))) ++ afterSource r := by
    rw [lineShape]
    simp
  have skip := afterFirstSkip clean "if ".toList (afterSource r)
  have found : afterFirst "iif ".toList r.line = afterFirst "iif ".toList (afterSource r) := by
    rw [shape]
    exact skip
  rw [parseRuleIif,found]
  cases given : r.iif with
  | none =>
    have absent : 'i' ∉ afterSource r := by
      simp only [afterSource,given,mem_append,not_or]
      exact ⟨by decide,plain⟩
    have missing : afterFirst "iif ".toList (afterSource r) = none := afterFirstNone absent "if ".toList
    rw [missing]
    simp [Rule.read,given]
  | some name =>
    have blank : ' ' ∉ name.text := nameAvoids (.inr (.inr (by decide)))
    have here : afterFirst "iif ".toList (afterSource r) = some (name.text ++ ' ' :: ("lookup ".toList ++ r.table.text)) := by
      simp only [afterSource,given]
      exact afterFirstHere 'i' "if ".toList _
    rw [here]
    simp only [takeUntil _ blank,Rule.read,given]

theorem readLine {r : Rule} (family : Family) (mine : inRange r.prio = true) (table : r.table = exitTable) :
    parseRule family r.line = some (r.read family) := by
  have looked : contains r.line ("lookup ".toList ++ Nat.toDigits 10 exitRouteTable) = true := by
    have := containsAppend (Nat.toDigits 10 r.prio ++ ":\tfrom ".toList ++ (sourceText r.src ++ iifText r.iif ++ [' ']))
      ("lookup ".toList ++ Nat.toDigits 10 exitRouteTable) []
    simpa [Rule.line,table,exitTable,RouteTable.text] using this
  rw [inRangeSource] at mine
  have small : r.prio < 2^63 := by omega
  have inside : ¬ ((r.prio : Int) < exitRuleBasePrio ∨ (exitRuleMaxPrio : Int) < r.prio) := by
    simp only [exitRuleBasePrio,exitRuleMaxPrio]
    omega
  rw [parseRule,if_pos looked,priorityLine,if_pos small]
  dsimp only
  have plain : 'i' ∉ r.table.text := by rw [table]; decide
  rw [if_neg inside,fromLine,iifLine plain]
  rfl

theorem skipLine {r : Rule} (family : Family) (foreign : inRange r.prio = false) : parseRule family r.line = none := by
  rw [← Bool.not_eq_true,inRangeSource] at foreign
  have outside : (r.prio : Int) < exitRuleBasePrio ∨ (exitRuleMaxPrio : Int) < r.prio := by
    simp only [exitRuleBasePrio,exitRuleMaxPrio]
    omega
  unfold parseRule
  split
  · rw [priorityLine]
    split
    · rfl
    · rename_i prio read
      split at read <;> try contradiction
      cases read
      rw [if_pos outside]
  · rfl

theorem readRules {rules : List Rule} (family : Family) (own : ∀ r ∈ rules, inRange r.prio = true → r.table = exitTable) :
    parseRules (rules.map Rule.line) family = (rules.filter (fun r => inRange r.prio)).map (Rule.read family) := by
  induction rules with
  | nil => rfl
  | cons r rest ih =>
    have later := ih (fun x member => own x (mem_cons_of_mem r member))
    simp only [parseRules,map_cons,filterMap_cons,filter_cons] at later ⊢
    cases mine : inRange r.prio with
    | true => simp [readLine family mine (own r mem_cons_self mine),later]
    | false => simp [skipLine family mine,later]

end

def parseSource (s : Text) : Option Prefix :=
  match parsePrefix s with
  | some p => some p
  | none =>
    match parseAddr s with
    | some a => if zoneless : a.zone = "" then some ⟨a,a.width,Nat.le_refl _,zoneless⟩ else none
    | none => none

theorem cutLastMissing {sep : Char} {s : List Char} (absent : sep ∉ s) : cutLast sep s = none := by
  have all : s.reverse.dropWhile (fun c => c != sep) = [] := by
    rw [dropWhile_eq_nil_iff]
    intro c member
    simp only [bne_iff_ne,ne_eq]
    rintro rfl
    exact absent (mem_reverse.mp member)
  simp only [cutLast,all]

theorem ruleTextSource (p : Prefix) : parseSource (ruleText p) = some p := by
  unfold ruleText
  split
  · rename_i full
    have slashless : parsePrefix p.addr.text = none := by
      rw [parsePrefix,cutLastMissing (Addr.textSlash p.zoneless)]
    simp only [parseSource,slashless,parseText,dif_pos p.zoneless]
    cases p
    simp_all
  · rw [parseSource,parsePrefixText]

theorem normalizeSource (s : Text) : parseSource (normalizeRuleSrc s) = parseSource s := by
  unfold normalizeRuleSrc
  cases parsed : parsePrefix s with
  | none => rfl
  | some p =>
    dsimp only
    split
    · rename_i full
      have text : ruleText p = p.addr.text := if_pos full
      rw [← text,ruleTextSource,parseSource,parsed]
    · rfl

theorem sourceFamily {s : Text} {p : Prefix} (parsed : parseSource s = some p) : familyForAddr s = some (addrFamily p.addr) := by
  unfold parseSource at parsed
  unfold familyForAddr
  split at parsed
  · cases parsed
    rfl
  · split at parsed <;> try contradiction
    rename_i a found
    split at parsed <;> try contradiction
    cases parsed
    rw [found]
    rfl

section

theorem flagInj {f g : Family} (same : f.flag.toList = g.flag.toList) : f = g := by
  cases f <;> cases g <;> first | rfl | (revert same; decide)

structure RuleRecord where
  priority : Int
  family : Family
  src : Text
  iif : Text
  deriving DecidableEq, Repr

def ExitRule.record (r : ExitRule) : RuleRecord := ⟨r.priority,r.family,r.src,r.iif⟩

def recordKey (r : RuleRecord) : Text :=
  (toString r.priority).toList ++ '/' :: (r.family.flag.toList ++ '/' :: (r.src ++ '/' :: r.iif))

def recordsMatch (current desired : List RuleRecord) : Bool :=
  current.length = desired.length ∧ ∀ r ∈ desired, recordKey r ∈ current.map recordKey

theorem recordInj : Function.Injective ExitRule.record := by
  rintro ⟨prio,fam,src,iif⟩ ⟨prio',fam',src',iif'⟩ same
  simpa [ExitRule.record] using same

theorem recordsMatchRules (current desired : List ExitRule) :
    recordsMatch (current.map ExitRule.record) (desired.map ExitRule.record) = rulesMatch current desired := by
  have keys (r : ExitRule) : recordKey r.record = ruleKey r := by
    simp only [recordKey,ExitRule.record,intTextToList]
    rfl
  simp [recordsMatch,rulesMatch,keys]

theorem recordKeyInj {a b : RuleRecord} (left : '/' ∉ a.iif) (right : '/' ∉ b.iif) (same : recordKey a = recordKey b) : a = b := by
  have digits (m : Int) : '/' ∉ (toString m).toList := intTextAvoids (by decide) (by decide) m
  have flags (f : Family) : '/' ∉ f.flag.toList := by cases f <;> decide
  have first := congrArg (cutFirst '/') same
  simp only [recordKey,cutFirstAppend _ (digits _),Option.some.injEq,Prod.mk.injEq] at first
  have second := congrArg (cutFirst '/') first.2
  simp only [cutFirstAppend _ (flags _),Option.some.injEq,Prod.mk.injEq] at second
  have third := congrArg (cutLast '/') second.2
  simp only [cutLastAppend _ left,cutLastAppend _ right,Option.some.injEq,Prod.mk.injEq] at third
  have prio := intTextInj (String.toList_inj.mp first.1)
  have family := flagInj second.1
  cases a
  cases b
  cases prio
  cases family
  cases third.1
  cases third.2
  rfl

theorem recordsMatchPerm {current desired : List RuleRecord} (readClean : ∀ r ∈ current, '/' ∉ r.iif)
    (askedClean : ∀ r ∈ desired, '/' ∉ r.iif) (distinct : desired.Nodup) : recordsMatch current desired = true ↔ desired.Perm current := by
  simp only [recordsMatch,decide_eq_true_eq]
  constructor
  · rintro ⟨size,keys⟩
    have inside : desired ⊆ current := by
      intro r member
      obtain ⟨c,found,same⟩ := mem_map.mp (keys r member)
      rw [← recordKeyInj (readClean c found) (askedClean r member) same]
      exact found
    exact (subperm_of_subset distinct inside).perm_of_length_le (by omega)
  · intro same
    exact ⟨same.length_eq.symm,fun r member => mem_map_of_mem (same.mem_iff.mp member)⟩

def Clean (rules : List ExitRule) : Prop := ∀ r ∈ rules, '/' ∉ r.iif
def slot (r : ExitRule) : Nat × Family := (r.priority,r.family)

theorem rulesMatchIff {current : List RuleRecord} {desired : List ExitRule} (readClean : ∀ r ∈ current, '/' ∉ r.iif)
    (askedClean : Clean desired) (distinct : (desired.map slot).Nodup) :
    recordsMatch current (desired.map ExitRule.record) = true ↔ (desired.map ExitRule.record).Perm current :=
  recordsMatchPerm readClean (forall_mem_map.mpr askedClean) (List.Nodup.map recordInj (List.Nodup.of_map slot distinct))

theorem rulesMatchPerm {current desired : List ExitRule} (readClean : Clean current) (askedClean : Clean desired)
    (distinct : (desired.map slot).Nodup) : rulesMatch current desired = true ↔ desired.Perm current := by
  have clean : ∀ r ∈ current.map ExitRule.record, '/' ∉ r.iif := forall_mem_map.mpr readClean
  rw [← recordsMatchRules,rulesMatchIff clean askedClean distinct,map_perm_map_iff recordInj]

structure Slotted (prio : Nat) (rules : List ExitRule) : Prop where
  distinct : (rules.map slot).Nodup
  within : ∀ r ∈ rules, prio ≤ r.priority ∧ r.priority ≤ exitRuleMaxPrio

theorem slottedNext {prio : Nat} {rules : List ExitRule} (later : Slotted (prio+1) rules) (f : Family) : (prio,f) ∉ rules.map slot := by
  intro member
  obtain ⟨r,inside,same⟩ := mem_map.mp member
  have := (later.within r inside).1
  have : r.priority = prio := congrArg Prod.fst same
  omega

variable {prio : Nat}

theorem slottedNil : Slotted prio [] := ⟨nodup_nil,by simp⟩

theorem slottedCons {r : ExitRule} {rules : List ExitRule} (fresh : slot r ∉ rules.map slot) (low : prio ≤ r.priority)
    (high : r.priority ≤ exitRuleMaxPrio) (rest : Slotted prio rules) : Slotted prio (r :: rules) :=
  ⟨nodup_cons.mpr ⟨fresh,rest.distinct⟩,forall_mem_cons.mpr ⟨⟨low,high⟩,rest.within⟩⟩

variable {rules : List ExitRule} (policy : ExitNodePolicy) (bridges : List IfName)

theorem Slotted.lower (later : Slotted (prio+1) rules) : Slotted prio rules :=
  ⟨later.distinct,fun r member => ⟨Nat.le_of_succ_le (later.within r member).1,(later.within r member).2⟩⟩

theorem slottedTail (rest : prio+1 ≤ exitRuleMaxPrio → Slotted (prio+1) rules) :
    Slotted (prio+1) (if exitRuleMaxPrio < prio+1 then [] else rules) := by
  split
  · exact slottedNil
  · exact rest (by omega)

theorem linksSlotted (bridges : List Text) (small : prio ≤ exitRuleMaxPrio) : Slotted prio (desiredLinks prio bridges) := by
  induction bridges generalizing prio with
  | nil => exact slottedNil
  | cons br rest ih =>
    have later := slottedTail (@ih (prio+1))
    have v6 := slottedNext later .v6
    have v4 := slottedNext later .v4
    refine slottedCons ?_ (Nat.le_refl _) small (slottedCons v6 (Nat.le_refl _) small later.lower)
    rw [map_cons,mem_cons]
    exact not_or.mpr ⟨by simp [slot],v4⟩

theorem clientsSlotted (clients : List ExitNodeClient) (small : prio ≤ exitRuleMaxPrio) : Slotted prio (desiredClients prio clients) := by
  induction clients generalizing prio with
  | nil => exact slottedNil
  | cons c rest ih =>
    simp only [desiredClients]
    split
    · exact ih small
    · rename_i fam found
      have later := slottedTail (@ih (prio+1))
      exact slottedCons (slottedNext later fam) (Nat.le_refl _) small later.lower

theorem desiredSlotted (bridges : List Text) : Slotted exitRuleBasePrio (desiredRules policy bridges) := by
  unfold desiredRules
  split
  · exact linksSlotted bridges (by decide)
  · exact (clientsSlotted policy.clients (by decide)).lower
  · exact slottedNil

theorem desiredNamesClean {bridges : List Text} (names : ∀ br ∈ bridges, '/' ∉ br) :
    Clean (desiredRules policy bridges) := by
  have links (prio : Nat) : Clean (desiredLinks prio bridges) := by
    induction bridges generalizing prio with
    | nil => simp [Clean,desiredLinks]
    | cons br rest ih =>
      have named : '/' ∉ br := names br mem_cons_self
      intro r member
      simp only [desiredLinks,mem_cons] at member
      rcases member with rfl | rfl | inside
      · exact named
      · exact named
      · split at inside
        · simp at inside
        · exact ih (fun b later => names b (mem_cons_of_mem br later)) _ r inside
  have sources (prio : Nat) (clients : List ExitNodeClient) : Clean (desiredClients prio clients) := by
    induction clients generalizing prio with
    | nil => simp [Clean,desiredClients]
    | cons c rest ih =>
      intro r member
      simp only [desiredClients] at member
      split at member
      · exact ih _ r member
      · rcases mem_cons.mp member with rfl | inside
        · simp
        · split at inside
          · simp at inside
          · exact ih _ r inside
  unfold desiredRules
  split
  · exact links _
  · exact sources _ _
  · simp [Clean]

theorem desiredSlots : ((buildDesiredRules policy bridges).map slot).Nodup := by
  rw [desiredRulesNamed]
  exact (desiredSlotted policy _).distinct

theorem desiredClean : Clean (buildDesiredRules policy bridges) := by
  rw [desiredRulesNamed]
  exact desiredNamesClean policy (forall_mem_map.mpr (fun br _ => nameAvoids (.inl rfl)))

theorem driftExact (policy : ExitNodePolicy) (bridges : List Text) (names : ∀ br ∈ bridges, '/' ∉ br) :
    (∀ r ∈ desiredRules policy bridges, 5280 ≤ r.priority ∧ r.priority ≤ 5300) ∧ ((desiredRules policy bridges).map slot).Nodup ∧
    ∀ current : List RuleRecord, (∀ r ∈ current, '/' ∉ r.iif) →
      (recordsMatch current ((desiredRules policy bridges).map ExitRule.record) = true ↔
        current.Perm ((desiredRules policy bridges).map ExitRule.record)) := by
  have slotted := desiredSlotted policy bridges
  refine ⟨slotted.within,slotted.distinct,fun current clean => ?_⟩
  rw [rulesMatchIff clean (desiredNamesClean policy names) slotted.distinct]
  exact perm_comm

theorem driftExactTwoBridges : (∀ br ∈ ["br0".toList,"br3".toList], '/' ∉ br) ∧
    recordsMatch ((desiredRules ⟨.all,[]⟩ ["br0".toList,"br3".toList]).map ExitRule.record).reverse
      ((desiredRules ⟨.all,[]⟩ ["br0".toList,"br3".toList]).map ExitRule.record) = true :=
  have names : ∀ br ∈ ["br0".toList,"br3".toList], '/' ∉ br := by decide
  ⟨names,((driftExact ⟨.all,[]⟩ _ names).2.2 _ (by decide)).mpr (reverse_perm _)⟩

end
end VpnPack.Exit
