import Mathlib.Data.List.Infix
import VpnPack.Firewall.Manager
import VpnPack.Wgs2s.Config

/-! What iptables-save and ipset list print when the kernel mirrors the UDAPI configuration,
and the probes that search these texts. Of a listed set only the lines of its members
are modelled; they are the IPv4 entries in canonical form. The texts are those of the
moment: the caches of one second are not modelled. -/
namespace VpnPack.Firewall
open Base List Net Ops State Udapi Wgs2s

def lineContainsTokens (line pattern : List Char) : Bool :=
  if (fields pattern).length = 0 then false else (fields line).tails.any (fun rest => (fields pattern).isPrefixOf rest)

def hasChainRuleIn (rules : List Char) (chain pattern : String) : Bool :=
  if pattern = "" then
    Base.contains rules ("\n:" ++ chain ++ " ").toList || (":" ++ chain ++ " ").toList.isPrefixOf rules
  else (lines rules).any (fun line => ("-A " ++ chain ++ " ").toList.isPrefixOf line && lineContainsTokens line pattern.toList)

def ipsetHasMember (output : List Char) (member : String) : Bool :=
  (lines output).any (fun line =>
    match fields line with
    | first :: _ => first == member.toList
    | [] => false)

def kernelChain : Chain → String
  | .forwardIn => "UBIOS_FORWARD_IN_USER"
  | .input => "UBIOS_INPUT_USER_HOOK"
  | .output => "UBIOS_OUTPUT_USER_HOOK"

def flag : Direction → String
  | .inInterface => "-i"
  | .outInterface => "-o"

def ruleStart (chain : Chain) (r : Rule) : List Char :=
  "-A".toList ++ ' ' :: ((kernelChain chain).toList ++ ' ' :: (if r.iface = "" then []
    else (flag r.direction).toList ++ ' ' :: (r.iface.toList ++ [' '])))

def ruleLine (chain : Chain) (r : Rule) : List Char := ruleStart chain r ++ ("-j " ++ r.target).toList

def iptablesSave (u : Config) : List Char :=
  "*filter".toList ++ (Chain.all.flatMap (fun chain => (u.rules chain).map (ruleLine chain))).flatMap (fun line => '\n' :: line) ++
    "\nCOMMIT\n".toList

def printed (entry : String) : Option String :=
  match parseCIDR entry.toList with
  | some (_,ipNet) => if ipNet.addr.Is4 then some (String.ofList (ipNetText ipNet)) else none
  | none => none

def ipsetList (u : Config) (setName : String) : List Char :=
  if "UBIOS4".toList.isPrefixOf setName.toList then
    ['\n'].intercalate ((((u.sets.lookup (String.ofList (setName.toList.drop 6))).getD []).filterMap printed).map String.toList)
  else []

structure WgS2sCheckSpec where
  interfaceName : String
  chainPrefix : String
  subnets : List String
  deriving DecidableEq, Repr

def chainProbe (u : Config) (chain : Chain) (interfaceName : String) : Bool :=
  hasChainRuleIn (iptablesSave u) (kernelChain chain) (flag chain.direction ++ " " ++ interfaceName)

def ipsetProbe (u : Config) (spec : WgS2sCheckSpec) : Bool :=
  if spec.chainPrefix ≠ "" ∧ 0 < spec.subnets.length then
    spec.subnets.all (fun cidr => ipsetHasMember (ipsetList u ("UBIOS4" ++ spec.chainPrefix ++ "_subnets")) cidr)
  else true

def CheckWgS2sRulesPresent (u : Config) (specs : List WgS2sCheckSpec) : Dict Bool :=
  specs.foldl (fun result spec => result.insert spec.interfaceName
    (chainProbe u .forwardIn spec.interfaceName && chainProbe u .input spec.interfaceName &&
      chainProbe u .output spec.interfaceName && ipsetProbe u spec)) ∅

def checkSpecs (m : Manifest) (tunnels : List TunnelConfig) : List WgS2sCheckSpec :=
  (tunnels.filter (fun t => t.enabled)).map (fun t => ⟨t.interfaceName,m.wgS2sChainPrefix t.id,t.cidrs⟩)

section
variable {u : Config} {chain : Chain} {r : Rule} {name : String}

theorem wordNewline {s : List Char} (word : Word s) : '\n' ∉ s := by
  intro member
  have spaceless := word.2 _ member
  exact absurd spaceless (by decide)

theorem chainWord (chain : Chain) : Word (kernelChain chain).toList := by
  cases chain <;> exact ⟨by decide,everyChar (by decide)⟩

theorem flagWord (direction : Direction) : Word (flag direction).toList := by
  cases direction <;> exact ⟨by decide,everyChar (by decide)⟩

section
variable (named : r.iface = name) (word : Word name.toList)
include named word

theorem ruleStartNamed :
    ruleStart chain r = "-A".toList ++ ' ' :: ((kernelChain chain).toList ++ ' ' :: ((flag r.direction).toList ++ ' ' ::
      (name.toList ++ [' ']))) := by
  have filled : ¬ r.iface = "" := by
    intro empty
    rw [← named,empty] at word
    exact word.1 rfl
  rw [ruleStart,if_neg filled,named]

theorem ruleStartOneLine : '\n' ∉ ruleStart chain r := by
  rw [ruleStartNamed named word]
  have first := wordNewline (chainWord chain)
  have second := wordNewline (flagWord r.direction)
  have third := wordNewline word
  simp only [mem_append,mem_cons,not_mem_nil,not_or]
  exact ⟨by decide,by decide,first,by decide,second,by decide,third,by decide,not_false⟩

theorem ruleStartFields (more : List Char) : fields (ruleStart chain r ++ more) =
      "-A".toList :: (kernelChain chain).toList :: (flag r.direction).toList :: name.toList :: fields more := by
  have append : Word "-A".toList := ⟨by decide,everyChar (by decide)⟩
  rw [ruleStartNamed named word]
  simp only [append_assoc,cons_append,nil_append]
  rw [fieldsCons append,fieldsCons (chainWord chain),fieldsCons (flagWord r.direction),fieldsCons word]

end

theorem lineInside {text : List (List Char)} {line : List Char} (inside : line ∈ text) (head tail : List Char) :
    ∃ before after, head ++ text.flatMap (fun line => '\n' :: line) ++ tail = before ++ '\n' :: (line ++ after) := by
  obtain ⟨left,right,rfl⟩ := append_of_mem inside
  refine ⟨head ++ left.flatMap (fun line => '\n' :: line),right.flatMap (fun line => '\n' :: line) ++ tail,?_⟩
  simp only [flatMap_append,flatMap_cons,append_assoc,cons_append]

theorem savedLine (member : r ∈ u.rules chain) : ∃ before after, iptablesSave u = before ++ '\n' :: (ruleStart chain r ++ after) := by
  have listed : chain ∈ Chain.all := by cases chain <;> decide
  have inside : ruleLine chain r ∈ Chain.all.flatMap (fun chain => (u.rules chain).map (ruleLine chain)) :=
    mem_flatMap.mpr ⟨chain,listed,mem_map_of_mem member⟩
  obtain ⟨before,after,text⟩ := lineInside inside "*filter".toList "\nCOMMIT\n".toList
  refine ⟨before,("-j " ++ r.target).toList ++ after,?_⟩
  have shape : ruleLine chain r ++ after = ruleStart chain r ++ (("-j " ++ r.target).toList ++ after) := append_assoc _ _ _
  rw [← shape]
  exact text

theorem chainProbeFound (member : r ∈ u.rules chain) (named : r.iface = name) (facing : r.direction = chain.direction)
    (word : Word name.toList) : chainProbe u chain name = true := by
  obtain ⟨before,after,text⟩ := savedLine member
  obtain ⟨more,line⟩ := linesInside before (@ruleStartOneLine chain r name named word) after
  have pattern : fields (flag chain.direction ++ " " ++ name).toList = [(flag chain.direction).toList,name.toList] := by
    have shape : (flag chain.direction ++ " " ++ name).toList = (flag chain.direction).toList ++ ' ' :: name.toList := by simp
    rw [shape,fieldsCons (flagWord _),fieldsWord word]
  have given : flag chain.direction ++ " " ++ name ≠ "" := by
    intro empty
    rw [empty] at pattern
    contradiction
  rw [chainProbe,hasChainRuleIn,if_neg given,text]
  refine any_eq_true.mpr ⟨_,line,Bool.and_eq_true_iff.mpr ⟨?_,?_⟩⟩
  · rw [ isPrefixOf_iff_prefix,ruleStartNamed named word]
    refine ⟨(flag r.direction).toList ++ ' ' :: (name.toList ++ [' ']) ++ more,?_⟩
    simp
  · rw [lineContainsTokens,pattern,if_neg (by simp)]
    refine any_eq_true.mpr ⟨(flag r.direction).toList :: name.toList :: fields more,?_,?_⟩
    · rw [mem_tails,ruleStartFields named word]
      exact ⟨["-A".toList,(kernelChain chain).toList],rfl⟩
    · rw [facing]
      simp

end

theorem addressSpaceless : ∀ c ∈ addressChars, isSpace c = false := everyChar (by decide)

theorem printedWord {entry text : String} (shown : printed entry = some text) : Word text.toList := by
  unfold printed at shown
  split at shown
  · rename_i ip ipNet read
    split at shown
    · rename_i short
      cases shown
      have plain : ipNetText ipNet = ipNet.text := by
        unfold ipNetText
        split
        · rfl
        · rename_i long
          rw [long] at short
          contradiction
      rw [String.toList_ofList,plain]
      exact ⟨by simp [Prefix.text],fun c member => addressSpaceless c (Prefix.textChars ipNet c member)⟩
    · contradiction
  · contradiction

theorem ipsetMember (u : Config) (chainPrefix cidr : String) :
    ipsetHasMember (ipsetList u ("UBIOS4" ++ chainPrefix ++ "_subnets")) cidr = true ↔
      ∃ entry ∈ (u.sets.lookup (zoneIPSetName chainPrefix)).getD [], printed entry = some cidr := by
  have named : ipsetList u ("UBIOS4" ++ chainPrefix ++ "_subnets") = ['\n'].intercalate
      ((((u.sets.lookup (zoneIPSetName chainPrefix)).getD []).filterMap printed).map String.toList) := by
    have text : ("UBIOS4" ++ chainPrefix ++ "_subnets").toList = "UBIOS4".toList ++ (zoneIPSetName chainPrefix).toList := by
      simp [zoneIPSetName]
    have rest : ("UBIOS4".toList ++ (zoneIPSetName chainPrefix).toList).drop 6 = (zoneIPSetName chainPrefix).toList := by simp
    rw [ipsetList,text,if_pos (by simp),rest,String.ofList_toList]
  rw [named]
  generalize (u.sets.lookup (zoneIPSetName chainPrefix)).getD [] = listed
  have words : ∀ line ∈ (listed.filterMap printed).map String.toList, Word line := by
    intro line member
    obtain ⟨text,shown,rfl⟩ := mem_map.mp member
    obtain ⟨entry,_,print⟩ := mem_filterMap.mp shown
    exact printedWord print
  have member : (∃ entry ∈ listed, printed entry = some cidr) ↔ cidr.toList ∈ (listed.filterMap printed).map String.toList := by
    rw [mem_map_of_injective (fun _ _ same => String.toList_inj.mp same),mem_filterMap]
  rw [member,ipsetHasMember,any_eq_true]
  generalize (listed.filterMap printed).map String.toList = members at words ⊢
  cases members with
  | nil => simp [lines,fields,fieldsFrom]
  | cons first others =>
    have apart : lines (['\n'].intercalate (first :: others)) = first :: others :=
      splitOn_intercalate '\n' (fun line inside => wordNewline (words line inside)) (by simp)
    rw [apart]
    constructor
    · rintro ⟨line,inside,same⟩
      rw [fieldsWord (words line inside)] at same
      exact beq_iff_eq.mp same ▸ inside
    · intro inside
      refine ⟨cidr.toList,inside,?_⟩
      rw [fieldsWord (words _ inside)]
      exact beq_self_eq_true _

end VpnPack.Firewall
