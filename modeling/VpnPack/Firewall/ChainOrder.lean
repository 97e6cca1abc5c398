import Mathlib.Data.List.InsertIdx
import VpnPack.Base.Proc
import VpnPack.Base.Text

/-! The order of the tailscale hook and the UBIOS jump in FORWARD and INPUT. The audit reads the
lines of iptables-save and looks at their last two words; the repair deletes by rule and
inserts by a number counted in lines. The cache in front of iptables-save is not modelled:
the text shows the chain as it is. -/
namespace VpnPack.Firewall
open Base List

inductive BaseChain where
  | forward
  | input
  deriving DecidableEq, Repr

def BaseChain.token : BaseChain → Token
  | .forward => Base.token "FORWARD" rfl
  | .input => Base.token "INPUT" rfl

def BaseChain.ubiosJump : BaseChain → Token
  | .forward => Base.token "UBIOS_FORWARD_JUMP" rfl
  | .input => Base.token "UBIOS_INPUT_JUMP" rfl

def dashA : Token := token "-A" rfl
def dashJ : Token := token "-j" rfl

-- A jump into a chain has no options; other is a target with options, a goto or nothing.
inductive ChainAction where
  | jump (target : Token)
  | other (words : List Token)
  deriving DecidableEq, Repr

def ChainAction.words : ChainAction → List Token
  | .jump target => [dashJ,target]
  | .other words => words

structure ChainRule where
  conditions : List Token
  action : ChainAction
  plain : ∀ words, action = .other words → ∀ front target, conditions ++ words ≠ front ++ [dashJ,target]
  deriving DecidableEq

def ChainRule.words (r : ChainRule) : List Token := r.conditions ++ r.action.words
def ChainRule.jumpsTo (target : Token) (r : ChainRule) : Bool := r.action == .jump target

def ChainRule.line (parent : BaseChain) (r : ChainRule) : List Char :=
  dashA.text ++ (parent.token :: r.words).flatMap (fun word => ' ' :: word.text)

theorem jumpPlain (target : Token) :
    ∀ words, ChainAction.jump target = .other words → ∀ front last, ([] : List Token) ++ words ≠ front ++ [dashJ,last] := by
  intro words same
  cases same

def jumpRule (target : Token) : ChainRule := ⟨[],.jump target,jumpPlain target⟩

structure TsChainOrderResult where
  parent : List Char
  target : List Char
  hasUBIOS : Bool
  hasTarget : Bool
  targetPos : Nat
  ubiosPos : Nat
  deriving DecidableEq, Repr

def TsChainOrderResult.misplaced (r : TsChainOrderResult) : Bool := r.hasUBIOS && r.hasTarget && r.targetPos < r.ubiosPos

def lineJumpsTo (line target : List Char) : Bool :=
  match (fields line).reverse with
  | last :: before :: _ => before == "-j".toList && last == target
  | _ => false

def appendPrefix (parent : List Char) : List Char := "-A ".toList ++ parent ++ [' ']

def auditLine (parent target : List Char) (found : TsChainOrderResult × Nat) (line : List Char) : TsChainOrderResult × Nat :=
  if (appendPrefix parent).isPrefixOf line then
    let pos := found.2+1
    let res := if lineJumpsTo line target && !found.1.hasTarget then {found.1 with hasTarget := true, targetPos := pos} else found.1
    let res := if lineJumpsTo line ("UBIOS_".toList ++ parent ++ "_JUMP".toList) && !res.hasUBIOS then {res with hasUBIOS := true, ubiosPos := pos} else res
    (res,pos)
  else found

def auditTsChainOrder (rulesText parent target : List Char) : TsChainOrderResult :=
  ((lines rulesText).foldl (auditLine parent target) (⟨parent,target,false,false,0,0⟩,0)).1

abbrev Iptables := Nat → Option GoError

structure ChainState where
  chain : List ChainRule
  calls : Nat
  deriving DecidableEq

def badRule : GoError := .new "exit status 1"

def deleteJump (world : Iptables) (target : Token) : Proc ChainState := fun s =>
  match world s.calls with
  | some e => (some e,⟨s.chain,s.calls+1⟩)
  | none => if jumpRule target ∈ s.chain then (none,⟨s.chain.erase (jumpRule target),s.calls+1⟩) else (some badRule,⟨s.chain,s.calls+1⟩)

def insertJump (world : Iptables) (n : Nat) (target : Token) : Proc ChainState := fun s =>
  match world s.calls with
  | some e => (some e,⟨s.chain,s.calls+1⟩)
  | none =>
    if 0 < n ∧ n ≤ s.chain.length+1 then (none,⟨s.chain.insertIdx (n-1) (jumpRule target),s.calls+1⟩)
    else (some badRule,⟨s.chain,s.calls+1⟩)

def restoreOrder (world : Iptables) (target : Token) (insertAt : Nat) : Proc ChainState :=
  seq (wrapping ("delete misplaced " ++ String.ofList target.text) (deleteJump world target))
    (wrapping ("reinsert " ++ String.ofList target.text ++ " at " ++ Nat.repr insertAt) (insertJump world insertAt target))

def auditAndFixTsChainOrder (world : Iptables) (parent : BaseChain) (target : Token) (rules : List Char) : Proc ChainState := fun s =>
  if rules = [] then (none,s)
  else if (auditTsChainOrder rules parent.token.text target.text).misplaced = false then (none,s)
  else restoreOrder world target (auditTsChainOrder rules parent.token.text target.text).ubiosPos s

def chainLine (parent : BaseChain) (line : List Char) : Bool :=
  line == "-A ".toList ++ parent.token.text || (appendPrefix parent.token.text).isPrefixOf line

def Shows (rules : List Char) (parent : BaseChain) (chain : List ChainRule) : Prop :=
  (lines rules).filter (chainLine parent) = chain.map (ChainRule.line parent)

section
variable {parent : BaseChain} {target : Token}

theorem lineFields (parent : BaseChain) (r : ChainRule) :
    fields (r.line parent) = dashA.text :: parent.token.text :: r.words.map Token.text := fieldsTokens dashA (parent.token :: r.words)

theorem otherLast {r : ChainRule} {words : List Token} (other : r.action = .other words) (target : List Char) :
    lineJumpsTo (r.line parent) target = false := by
  have rest : r.words = r.conditions ++ words := by rw [ChainRule.words,other]; rfl
  have plain := r.plain words other
  rw [lineJumpsTo,lineFields,rest]
  generalize r.conditions ++ words = all at plain
  rcases eq_nil_or_concat all with rfl | ⟨front,last,rfl⟩
  · rfl
  · rcases eq_nil_or_concat front with rfl | ⟨front,before,rfl⟩
    · cases parent <;> rfl
    · have differs : ¬ before.text = ['-','j'] := by
        intro same
        have token : before = dashJ := Token.same same
        refine plain front last ?_
        simp [token]
      simp [differs]

theorem lineJumps (r : ChainRule) (target : Token) : lineJumpsTo (r.line parent) target.text = r.jumpsTo target := by
  cases action : r.action with
  | other words => rw [otherLast action,ChainRule.jumpsTo,action]; rfl
  | jump jumped =>
    have rest : r.words = r.conditions ++ [dashJ,jumped] := by rw [ChainRule.words,action]; rfl
    have same : (jumped.text == target.text) = (ChainAction.jump jumped == .jump target) := by
      rw [Bool.eq_iff_iff,beq_iff_eq,beq_iff_eq]
      exact ⟨fun texts => by rw [Token.same texts],fun actions => by cases actions; rfl⟩
    rw [lineJumpsTo,lineFields,rest,ChainRule.jumpsTo,action,← same]
    simp [dashJ,token]

def ChainRule.blank (r : ChainRule) : Bool := r.words = []

theorem lineVisible (parent : BaseChain) (r : ChainRule) : (appendPrefix parent.token.text).isPrefixOf (r.line parent) = !r.blank := by
  have shape : r.line parent = "-A ".toList ++ parent.token.text ++ r.words.flatMap (fun word => ' ' :: word.text) := by
    simp [ChainRule.line,dashA,token]
  rw [shape,appendPrefix,ChainRule.blank]
  cases r.words with
  | nil => cases parent <;> decide
  | cons word rest =>
    rw [ isPrefixOf_iff_prefix.mpr]
    · simp
    · rw [flatMap_cons,prefix_append_right_inj]
      exact ⟨word.text ++ rest.flatMap (fun word => ' ' :: word.text),by simp⟩

theorem jumpVisible {r : ChainRule} (jumps : r.jumpsTo target = true) : r.blank = false := by
  rw [ChainRule.jumpsTo,beq_iff_eq] at jumps
  simp [ChainRule.blank,ChainRule.words,jumps,ChainAction.words]

end

def auditRule (ubios target : Token) (found : TsChainOrderResult × Nat) (r : ChainRule) : TsChainOrderResult × Nat :=
  if r.blank then found
  else
    let res := if r.jumpsTo target && !found.1.hasTarget then {found.1 with hasTarget := true, targetPos := found.2+1} else found.1
    (if r.jumpsTo ubios && !res.hasUBIOS then {res with hasUBIOS := true, ubiosPos := found.2+1} else res,found.2+1)

section
variable {parent : BaseChain} {target ubios : Token} {rules : List ChainRule} {found : TsChainOrderResult × Nat}

theorem auditShown (parent : BaseChain) (target : Token) (found : TsChainOrderResult × Nat) (r : ChainRule) :
    auditLine parent.token.text target.text found (r.line parent) = auditRule parent.ubiosJump target found r := by
  have ubios : "UBIOS_".toList ++ parent.token.text ++ "_JUMP".toList = parent.ubiosJump.text := by cases parent <;> rfl
  rw [auditLine,lineVisible,ubios,lineJumps,lineJumps,auditRule]
  cases r.blank <;> rfl

theorem auditFold {ls : List (List Char)} (shown : ls.filter (chainLine parent) = rules.map (ChainRule.line parent)) :
    ls.foldl (auditLine parent.token.text target.text) found = rules.foldl (auditRule parent.ubiosJump target) found := by
  have skipped : ls.foldl (auditLine parent.token.text target.text) found =
      (ls.filter (chainLine parent)).foldl (auditLine parent.token.text target.text) found := by
    rw [foldl_filter]
    congr 1
    funext found line
    split
    · rfl
    · rename_i other
      have missed : ¬ (appendPrefix parent.token.text).isPrefixOf line = true := by
        intro hit
        exact other (by simp [chainLine,hit])
      rw [auditLine,if_neg missed]
  rw [skipped,shown,foldl_map]
  congr 1
  funext found r
  exact auditShown parent target found r

inductive Audited (target : Token) (found : TsChainOrderResult × Nat) (r : ChainRule) : TsChainOrderResult × Nat → Prop where
  | skipped (blank : r.blank = true) (other : r.jumpsTo target = false) : Audited target found r found
  | first (visible : r.blank = false) (jumps : r.jumpsTo target = true) (missing : found.1.hasTarget = false) :
      Audited target found r ({found.1 with hasTarget := true, targetPos := found.2+1},found.2+1)
  | counted (visible : r.blank = false) (known : (found.1.hasTarget || r.jumpsTo target) = found.1.hasTarget) :
      Audited target found r (found.1,found.2+1)

theorem auditQuiet {r : ChainRule} (quiet : (r.jumpsTo ubios && !found.1.hasUBIOS) = false) :
    Audited target found r (auditRule ubios target found r) := by
  cases blank : r.blank with
  | true =>
    have other : r.jumpsTo target = false := by
      cases jumps : r.jumpsTo target with
      | false => rfl
      | true => rw [jumpVisible jumps] at blank; contradiction
    rw [auditRule,if_pos blank]
    exact .skipped blank other
  | false =>
    rw [auditRule,blank]
    cases jumps : r.jumpsTo target && !found.1.hasTarget with
    | true =>
      obtain ⟨hit,new⟩ := Bool.and_eq_true_iff.mp jumps
      simp only [Bool.false_eq_true,if_false,if_true,quiet]
      exact .first blank hit (by simpa using new)
    | false =>
      simp only [Bool.false_eq_true,if_false,quiet]
      refine .counted blank ?_
      cases known : found.1.hasTarget with
      | true => rfl
      | false => simpa [known] using jumps

theorem auditFront (none_ : ∀ r ∈ rules, r.jumpsTo ubios = false) (start : found.1.hasUBIOS = false)
    (placed : found.1.hasTarget = true → found.1.targetPos ≤ found.2) : (rules.foldl (auditRule ubios target) found).1.hasUBIOS = false ∧
    (rules.foldl (auditRule ubios target) found).2 = found.2 + (rules.filter (fun r => !r.blank)).length ∧
    (rules.foldl (auditRule ubios target) found).1.hasTarget = (found.1.hasTarget || rules.any (ChainRule.jumpsTo target)) ∧
    ((rules.foldl (auditRule ubios target) found).1.hasTarget = true →
      (rules.foldl (auditRule ubios target) found).1.targetPos ≤ (rules.foldl (auditRule ubios target) found).2) := by
  induction rules generalizing found with
  | nil => exact ⟨start,rfl,by simp,placed⟩
  | cons r rest ih =>
    have later := fun x member => none_ x (mem_cons_of_mem r member)
    have audited := @auditQuiet target ubios found r (by rw [none_ r mem_cons_self,Bool.false_and])
    rw [foldl_cons]
    generalize auditRule ubios target found r = next at audited
    cases audited with
    | skipped blank other => simpa [blank,other] using ih later start placed
    | first visible jumps _ =>
      obtain ⟨ubios_,pos,has,placed⟩ := @ih ({found.1 with hasTarget := true, targetPos := found.2+1},found.2+1) later start (fun _ => le_rfl)
      refine ⟨ubios_,?_,?_,placed⟩
      · rw [pos,filter_cons_of_pos (by simp [visible]),length_cons]
        omega
      · rw [has,any_cons,jumps]
        simp
    | counted visible known =>
      obtain ⟨ubios_,pos,has,placed⟩ := @ih (found.1,found.2+1) later start (fun given => Nat.le_succ_of_le (placed given))
      refine ⟨ubios_,?_,?_,placed⟩
      · rw [pos,filter_cons_of_pos (by simp [visible]),length_cons]
        omega
      · rw [has,any_cons,← Bool.or_assoc,known]

theorem auditRest (start : found.1.hasUBIOS = true) : (rules.foldl (auditRule ubios target) found).1.hasUBIOS = true ∧
    (rules.foldl (auditRule ubios target) found).1.ubiosPos = found.1.ubiosPos ∧
    (found.1.hasTarget = true → (rules.foldl (auditRule ubios target) found).1.hasTarget = true ∧
      (rules.foldl (auditRule ubios target) found).1.targetPos = found.1.targetPos) ∧
    (found.1.hasTarget = false → (rules.foldl (auditRule ubios target) found).1.hasTarget = true →
      found.2 < (rules.foldl (auditRule ubios target) found).1.targetPos) := by
  induction rules generalizing found with
  | nil => exact ⟨start,rfl,fun given => ⟨given,rfl⟩,fun missing given => by rw [foldl_nil,missing] at given; contradiction⟩
  | cons r rest ih =>
    have audited := @auditQuiet target ubios found r (by rw [start,Bool.not_true,Bool.and_false])
    rw [foldl_cons]
    generalize auditRule ubios target found r = next at audited
    cases audited with
    | skipped _ _ => exact ih start
    | first _ _ missing =>
      obtain ⟨has,pos,kept,_⟩ := @ih ({found.1 with hasTarget := true, targetPos := found.2+1},found.2+1) start
      refine ⟨has,pos,fun given => ?_,fun _ _ => ?_⟩
      · rw [missing] at given
        contradiction
      · rw [(kept rfl).2]
        exact Nat.lt_succ_self _
    | counted _ _ =>
      obtain ⟨has,pos,kept,later⟩ := @ih (found.1,found.2+1) start
      exact ⟨has,pos,kept,fun missing given => Nat.lt_of_succ_lt (later missing given)⟩

theorem auditSource {text : List Char} {front rest : List ChainRule} {u : ChainRule} (shows : Shows text parent (front ++ u :: rest))
    (quiet : ∀ r ∈ front, r.jumpsTo parent.ubiosJump = false) (first : u.jumpsTo parent.ubiosJump = true) :
    (auditTsChainOrder text parent.token.text target.text).misplaced = front.any (ChainRule.jumpsTo target) ∧
    (auditTsChainOrder text parent.token.text target.text).ubiosPos = (front.filter (fun r => !r.blank)).length + 1 := by
  rw [auditTsChainOrder,auditFold shows,foldl_append,foldl_cons]
  obtain ⟨open_,pos,has,placed⟩ := @auditFront target parent.ubiosJump front (⟨parent.token.text,target.text,false,false,0,0⟩,0) quiet rfl (by simp)
  generalize front.foldl (auditRule parent.ubiosJump target) (⟨parent.token.text,target.text,false,false,0,0⟩,0) = found at open_ pos has placed ⊢
  rw [Bool.false_or] at has
  have visible := jumpVisible first
  cases new : u.jumpsTo target && !found.1.hasTarget with
  | true =>
    have missing : found.1.hasTarget = false := by simpa using (Bool.and_eq_true_iff.mp new).2
    have here : auditRule parent.ubiosJump target found u = (⟨found.1.parent,found.1.target,true,true,found.2+1,found.2+1⟩,found.2+1) := by
      simp [auditRule,visible,new,first,open_]
    rw [here]
    obtain ⟨_,kept,old,_⟩ := @auditRest target parent.ubiosJump rest (⟨found.1.parent,found.1.target,true,true,found.2+1,found.2+1⟩,found.2+1) rfl
    refine ⟨?_,by rw [kept,pos]; simp⟩
    rw [← has,missing,TsChainOrderResult.misplaced,(old rfl).2,kept]
    simp
  | false =>
    have here : auditRule parent.ubiosJump target found u = ({found.1 with hasUBIOS := true, ubiosPos := found.2+1},found.2+1) := by
      simp [auditRule,visible,new,first,open_]
    rw [here]
    obtain ⟨closed,kept,old,later⟩ := @auditRest target parent.ubiosJump rest ({found.1 with hasUBIOS := true, ubiosPos := found.2+1},found.2+1) rfl
    generalize rest.foldl (auditRule parent.ubiosJump target) ({found.1 with hasUBIOS := true, ubiosPos := found.2+1},found.2+1) = last at closed kept old later ⊢
    refine ⟨?_,by rw [kept,pos]; simp⟩
    rw [← has]
    cases known : found.1.hasTarget with
    | true =>
      obtain ⟨given,same⟩ := old known
      have before : last.1.targetPos < last.1.ubiosPos := by
        rw [same,kept]
        exact Nat.lt_succ_of_le (placed known)
      simp [TsChainOrderResult.misplaced,closed,given,before]
    | false =>
      cases given : last.1.hasTarget with
      | false => simp [TsChainOrderResult.misplaced,given]
      | true =>
        have after : ¬ last.1.targetPos < last.1.ubiosPos := by
          rw [kept]
          exact Nat.lt_asymm (later known given)
        simp [TsChainOrderResult.misplaced,after]

end

def beforeUbios (parent : BaseChain) (chain : List ChainRule) : List ChainRule := chain.takeWhile (fun r => !r.jumpsTo parent.ubiosJump)

structure Repaired (parent : BaseChain) (target : Token) (s : ChainState) (ended : Option GoError × ChainState) : Prop where
  ordered : ended.1 = none → (beforeUbios parent ended.2.chain).any (ChainRule.jumpsTo target) = false
  others : ended.1 = none → ended.2.chain.filter (fun r => r ≠ jumpRule target) = s.chain.filter (fun r => r ≠ jumpRule target)
  settled : ended.1 = none → ∀ again shown, Shows shown parent ended.2.chain →
    (auditAndFixTsChainOrder again parent target shown ended.2).2 = ended.2
  kept : ended.1 ≠ none → ended.2.chain.count (jumpRule target) = s.chain.count (jumpRule target)

-- One unconditional jump to the target is in front, no other, and every rule there is counted.
def Movable (parent : BaseChain) (target : Token) (chain : List ChainRule) : Prop :=
  (beforeUbios parent chain).filter (ChainRule.jumpsTo target) = [jumpRule target] ∧ ∀ r ∈ beforeUbios parent chain, r.blank = false

def Repairable (world : Iptables) (parent : BaseChain) (target : Token) (s : ChainState) : Prop :=
  (beforeUbios parent s.chain).any (ChainRule.jumpsTo target) = true →
    (world s.calls ≠ none ∨ jumpRule target ∉ s.chain) ∨ (world (s.calls+1) = none ∧ Movable parent target s.chain)

section
variable {world : Iptables} {parent : BaseChain} {target : Token} {rules : List Char} {s : ChainState}
  {front rest : List ChainRule} {u : ChainRule}

variable {n : Nat} {chain : List ChainRule}

theorem chainSplit (has : chain.any (ChainRule.jumpsTo parent.ubiosJump) = true) :
    ∃ u rest, chain = beforeUbios parent chain ++ u :: rest ∧ u.jumpsTo parent.ubiosJump = true := by
  induction chain with
  | nil => simp at has
  | cons r later ih =>
    cases jumps : r.jumpsTo parent.ubiosJump with
    | true => exact ⟨r,later,by simp [beforeUbios,jumps],jumps⟩
    | false =>
      rw [any_cons,jumps,Bool.false_or] at has
      obtain ⟨u,rest,same,first⟩ := ih has
      refine ⟨u,rest,?_,first⟩
      have step : beforeUbios parent (r :: later) = r :: beforeUbios parent later := by simp [beforeUbios,jumps]
      rw [step,cons_append,← same]

theorem beforeQuiet (parent : BaseChain) (chain : List ChainRule) : ∀ r ∈ beforeUbios parent chain, r.jumpsTo parent.ubiosJump = false := by
  intro r member
  simpa using mem_takeWhile_imp member

theorem beforeSplit (quiet : ∀ r ∈ front, r.jumpsTo parent.ubiosJump = false) (first : u.jumpsTo parent.ubiosJump = true) :
    beforeUbios parent (front ++ u :: rest) = front := by
  rw [beforeUbios,takeWhile_append_of_pos (fun r member => by simp [quiet r member]),takeWhile_cons_of_neg (by simp [first]),append_nil]

theorem jumpOther {asked : Token} (differs : target ≠ asked) : (jumpRule target).jumpsTo asked = false := by
  rw [ChainRule.jumpsTo,beq_eq_false_iff_ne]
  rintro same
  cases same
  exact differs rfl

theorem jumpSelf (target : Token) : (jumpRule target).jumpsTo target = true := beq_self_eq_true _

theorem insertEarly {α : Type} {before after : List α} {n : Nat} (early : n ≤ before.length) (x : α) :
    (before ++ after).insertIdx n x = before.insertIdx n x ++ after := by
  induction before generalizing n with
  | nil =>
    have zero : n = 0 := Nat.le_zero.mp early
    subst zero
    rfl
  | cons y before ih =>
    cases n with
    | zero => rfl
    | succ n => rw [cons_append,insertIdx_succ_cons,insertIdx_succ_cons,ih (Nat.le_of_succ_le_succ early),cons_append]

theorem insertedBefore (quiet : ∀ r ∈ front, r.jumpsTo parent.ubiosJump = false) (first : u.jumpsTo parent.ubiosJump = true)
    (differs : target ≠ parent.ubiosJump) (early : n ≤ front.length) :
    (beforeUbios parent ((front ++ u :: rest).insertIdx n (jumpRule target))).any (ChainRule.jumpsTo target) = true := by
  rw [insertEarly early,beforeSplit]
  · exact any_eq_true.mpr ⟨jumpRule target,(mem_insertIdx early).mpr (.inl rfl),jumpSelf target⟩
  · intro r member
    rcases (mem_insertIdx early).mp member with rfl | old
    · exact jumpOther differs
    · exact quiet r old
  · exact first

theorem eraseOnly (present : jumpRule target ∈ front) :
    (front.erase (jumpRule target)).any (ChainRule.jumpsTo target) = false ↔ front.filter (ChainRule.jumpsTo target) = [jumpRule target] := by
  have member : jumpRule target ∈ front.filter (ChainRule.jumpsTo target) := mem_filter.mpr ⟨present,jumpSelf target⟩
  have only : (front.erase (jumpRule target)).any (ChainRule.jumpsTo target) = false ↔
      (front.filter (ChainRule.jumpsTo target)).erase (jumpRule target) = [] := by
    rw [erase_filter,filter_eq_nil_iff,any_eq_false]
  rw [only]
  constructor
  · intro empty
    have perm := perm_cons_erase member
    rw [empty] at perm
    exact perm_singleton.mp perm
  · intro single
    rw [single,erase_cons_head]

theorem afterJump (present : jumpRule target ∈ front) :
    ((front ++ u :: rest).erase (jumpRule target)).insertIdx front.length (jumpRule target) =
      front.erase (jumpRule target) ++ u :: jumpRule target :: rest := by
  have positive := length_pos_of_mem present
  have size : front.length = (front.erase (jumpRule target) ++ [u]).length := by
    rw [length_append,length_erase_of_mem present,length_singleton]
    omega
  have shape : front.erase (jumpRule target) ++ u :: rest = (front.erase (jumpRule target) ++ [u]) ++ rest := by simp
  rw [erase_append_left _ present,shape,size,insertEarly le_rfl,insertIdx_length_self]
  simp

theorem movedOrdered (quiet : ∀ r ∈ front, r.jumpsTo parent.ubiosJump = false) (first : u.jumpsTo parent.ubiosJump = true)
    (differs : target ≠ parent.ubiosJump) :
    (beforeUbios parent (((front ++ u :: rest).erase (jumpRule target)).insertIdx (front.filter (fun r => !r.blank)).length (jumpRule target))).any
        (ChainRule.jumpsTo target) = false ↔
      front.filter (ChainRule.jumpsTo target) = [jumpRule target] ∧ ∀ r ∈ front, r.blank = false := by
  have other : u ≠ jumpRule target := by
    rintro rfl
    rw [jumpOther differs] at first
    contradiction
  by_cases present : jumpRule target ∈ front
  · by_cases counted : ∀ r ∈ front, r.blank = false
    · have all : front.filter (fun r => !r.blank) = front := filter_eq_self.mpr (fun r member => by rw [counted r member]; rfl)
      rw [all,afterJump present,beforeSplit (fun r member => quiet r (mem_of_mem_erase member)) first,eraseOnly present]
      exact ⟨fun single => ⟨single,counted⟩,And.left⟩
    · have early : (front.filter (fun r => !r.blank)).length ≤ (front.erase (jumpRule target)).length := by
        have fewer : (front.filter (fun r => !r.blank)).length < front.length := by
          rw [length_filter_lt_length_iff_exists]
          simpa using counted
        rw [length_erase_of_mem present]
        omega
      rw [erase_append_left _ present,insertedBefore (fun r member => quiet r (mem_of_mem_erase member)) first differs early]
      exact ⟨fun same => by contradiction,fun given => absurd given.2 counted⟩
  · rw [erase_append_right _ present,erase_cons_tail (by simpa using other),insertedBefore quiet first differs (length_filter_le _ _)]
    refine ⟨fun same => by contradiction,fun given => absurd ?_ present⟩
    have member : jumpRule target ∈ front.filter (ChainRule.jumpsTo target) := by rw [given.1]; exact mem_singleton_self _
    exact (mem_filter.mp member).1

theorem shownText (shows : Shows rules parent chain) (some_ : chain ≠ []) : rules ≠ [] := by
  rintro rfl
  have nothing : (lines []).filter (chainLine parent) = [] := by cases parent <;> decide
  rw [Shows,nothing] at shows
  exact some_ (map_eq_nil_iff.mp shows.symm)

inductive Repair (world : Iptables) (parent : BaseChain) (target : Token) (s : ChainState) : Option GoError × ChainState → Prop where
  | idle (ordered : (beforeUbios parent s.chain).any (ChainRule.jumpsTo target) = false) : Repair world parent target s (none,s)
  | refused {e : GoError} (misplaced : (beforeUbios parent s.chain).any (ChainRule.jumpsTo target) = true)
      (reason : world s.calls ≠ none ∨ jumpRule target ∉ s.chain) : Repair world parent target s (some e,⟨s.chain,s.calls+1⟩)
  | lost {e : GoError} (misplaced : (beforeUbios parent s.chain).any (ChainRule.jumpsTo target) = true)
      (deleted : world s.calls = none) (present : jumpRule target ∈ s.chain) (reason : world (s.calls+1) ≠ none) :
      Repair world parent target s (some e,⟨s.chain.erase (jumpRule target),s.calls+1+1⟩)
  | moved (misplaced : (beforeUbios parent s.chain).any (ChainRule.jumpsTo target) = true)
      (deleted : world s.calls = none) (present : jumpRule target ∈ s.chain) (inserted : world (s.calls+1) = none) :
      Repair world parent target s (none,⟨(s.chain.erase (jumpRule target)).insertIdx
        ((beforeUbios parent s.chain).filter (fun r => !r.blank)).length (jumpRule target),s.calls+1+1⟩)

theorem restoreSource (misplaced : (beforeUbios parent s.chain).any (ChainRule.jumpsTo target) = true)
    (position : n = ((beforeUbios parent s.chain).filter (fun r => !r.blank)).length) (within : n < s.chain.length) :
    Repair world parent target s (restoreOrder world target (n+1) s) := by
  cases deleted : world s.calls with
  | some e =>
    have failed : deleteJump world target s = (some e,⟨s.chain,s.calls+1⟩) := by simp only [deleteJump,deleted]
    rw [restoreOrder,seqFail (wrappingFail failed)]
    exact .refused misplaced (.inl (by rw [deleted]; simp))
  | none =>
    by_cases present : jumpRule target ∈ s.chain
    · have done : deleteJump world target s = (none,⟨s.chain.erase (jumpRule target),s.calls+1⟩) := by simp only [deleteJump,deleted,if_pos present]
      rw [restoreOrder,seqOk (wrappingOk.mpr done)]
      cases inserted : world (s.calls+1) with
      | some e =>
        have failed : insertJump world (n+1) target ⟨s.chain.erase (jumpRule target),s.calls+1⟩ =
            (some e,⟨s.chain.erase (jumpRule target),s.calls+1+1⟩) := by
          simp only [insertJump,inserted]
        rw [wrappingFail failed]
        exact .lost misplaced deleted present (by rw [inserted]; simp)
      | none =>
        have room : 0 < n+1 ∧ n+1 ≤ (s.chain.erase (jumpRule target)).length+1 := by
          rw [length_erase_of_mem present]
          omega
        have done : insertJump world (n+1) target ⟨s.chain.erase (jumpRule target),s.calls+1⟩ =
            (none,⟨(s.chain.erase (jumpRule target)).insertIdx n (jumpRule target),s.calls+1+1⟩) := by
          simp only [insertJump,inserted,if_pos room,Nat.add_sub_cancel]
        rw [wrappingOk.mpr done,position]
        exact .moved misplaced deleted present inserted
    · have failed : deleteJump world target s = (some badRule,⟨s.chain,s.calls+1⟩) := by simp only [deleteJump,deleted,if_neg present]
      rw [restoreOrder,seqFail (wrappingFail failed)]
      exact .refused misplaced (.inr present)

section
variable (shows : Shows rules parent s.chain) (has : s.chain.any (ChainRule.jumpsTo parent.ubiosJump) = true)
include shows has

theorem repairSource : Repair world parent target s (auditAndFixTsChainOrder world parent target rules s) := by
  obtain ⟨u,rest,same,first⟩ := chainSplit has
  have text := shownText shows (by rw [same]; simp)
  have read := shows
  rw [same] at read
  obtain ⟨misplaced,position⟩ := @auditSource parent target rules (beforeUbios parent s.chain) rest u read (beforeQuiet parent s.chain) first
  rw [auditAndFixTsChainOrder,if_neg text,misplaced]
  cases order : (beforeUbios parent s.chain).any (ChainRule.jumpsTo target) with
  | false =>
    rw [if_pos rfl]
    exact .idle order
  | true =>
    rw [if_neg (by simp),position]
    have size := congrArg List.length same
    have fewer := length_filter_le (fun r : ChainRule => !r.blank) (beforeUbios parent s.chain)
    rw [length_append,length_cons] at size
    exact restoreSource order rfl (by omega)

theorem repairIdle (ordered : (beforeUbios parent s.chain).any (ChainRule.jumpsTo target) = false) :
    (auditAndFixTsChainOrder world parent target rules s).2 = s := by
  have ended := @repairSource world parent target rules s shows has
  generalize auditAndFixTsChainOrder world parent target rules s = last at ended
  cases ended with
  | idle _ => rfl
  | refused misplaced _ => rw [ordered] at misplaced; contradiction
  | lost misplaced _ _ _ => rw [ordered] at misplaced; contradiction
  | moved misplaced _ _ _ => rw [ordered] at misplaced; contradiction

end

theorem movedRepaired {ended : ChainState} (has : s.chain.any (ChainRule.jumpsTo parent.ubiosJump) = true)
    (misplaced : (beforeUbios parent s.chain).any (ChainRule.jumpsTo target) = true)
    (result : ended.chain = (s.chain.erase (jumpRule target)).insertIdx ((beforeUbios parent s.chain).filter (fun r => !r.blank)).length (jumpRule target)) :
    Repaired parent target s (none,ended) ↔ Movable parent target s.chain := by
  obtain ⟨u,rest,same,first⟩ := chainSplit has
  have quiet := beforeQuiet parent s.chain
  have differs : target ≠ parent.ubiosJump := by
    rintro rfl
    obtain ⟨r,member,jumps⟩ := any_eq_true.mp misplaced
    rw [quiet r member] at jumps
    contradiction
  have moved := @movedOrdered parent target (beforeUbios parent s.chain) rest u quiet first differs
  rw [← same,← result] at moved
  constructor
  · intro repaired
    exact moved.mp (repaired.ordered rfl)
  · intro movable
    have ordered := moved.mpr movable
    have present : jumpRule target ∈ beforeUbios parent s.chain := by
      have member : jumpRule target ∈ (beforeUbios parent s.chain).filter (ChainRule.jumpsTo target) := by
        rw [movable.1]
        exact mem_singleton_self _
      exact (mem_filter.mp member).1
    have all : (beforeUbios parent s.chain).filter (fun r => !r.blank) = beforeUbios parent s.chain :=
      filter_eq_self.mpr (fun r member => by rw [movable.2 r member]; rfl)
    have shape : ended.chain = (beforeUbios parent s.chain).erase (jumpRule target) ++ u :: jumpRule target :: rest := by
      rw [result,all]
      nth_rewrite 1 [same]
      exact afterJump present
    have still : ended.chain.any (ChainRule.jumpsTo parent.ubiosJump) = true := by
      rw [shape]
      simp [first]
    refine ⟨fun _ => ordered,fun _ => ?_,fun _ again shown read => repairIdle read still ordered,fun failed => absurd rfl failed⟩
    have others : ((beforeUbios parent s.chain).erase (jumpRule target)).filter (fun r => r ≠ jumpRule target) =
        (beforeUbios parent s.chain).filter (fun r => r ≠ jumpRule target) := by
      rw [← erase_filter,erase_of_not_mem (by simp)]
    rw [shape,filter_append,others]
    nth_rewrite 2 [same]
    rw [filter_append]
    simp [filter_cons]

theorem chainOrderRepaired {rules : List Char} {s : ChainState} (world : Iptables) (parent : BaseChain) (target : Token)
    (shows : Shows rules parent s.chain) (has : s.chain.any (ChainRule.jumpsTo parent.ubiosJump) = true) :
    Repaired parent target s (auditAndFixTsChainOrder world parent target rules s) ↔ Repairable world parent target s := by
  have ended := @repairSource world parent target rules s shows has
  generalize auditAndFixTsChainOrder world parent target rules s = last at ended
  cases ended with
  | idle ordered =>
    refine iff_of_true ?_ (fun misplaced => by rw [ordered] at misplaced; contradiction)
    exact ⟨fun _ => ordered,fun _ => rfl,fun _ again shown read => repairIdle read has ordered,fun failed => absurd rfl failed⟩
  | refused _ reason =>
    refine iff_of_true ?_ (fun _ => .inl reason)
    exact ⟨fun ok => by contradiction,fun ok => by contradiction,fun ok => by contradiction,fun _ => rfl⟩
  | lost misplaced deleted present reason =>
    refine iff_of_false (fun repaired => ?_) (fun repairable => ?_)
    · have same := repaired.kept (by simp)
      have positive := count_pos_iff.mpr present
      rw [count_erase_self] at same
      omega
    · rcases repairable misplaced with (refused | missing) | ⟨inserted,_⟩
      · exact refused deleted
      · exact missing present
      · exact reason inserted
  | moved misplaced deleted present inserted =>
    rw [movedRepaired has misplaced rfl]
    constructor
    · intro movable _
      exact .inr ⟨inserted,movable⟩
    · intro repairable
      rcases repairable misplaced with (refused | missing) | ⟨_,movable⟩
      · exact absurd deleted refused
      · exact absurd present missing
      · exact movable

end

def tsForward : Token := token "ts-forward" rfl
def hookLine : List Char := "-A FORWARD -j ts-forward\n".toList
def ubiosLine : List Char := "-A FORWARD -j UBIOS_FORWARD_JUMP\n".toList
def hookFirst : ChainState := ⟨[jumpRule tsForward,jumpRule BaseChain.forward.ubiosJump],0⟩
def hookTwice : ChainState := ⟨[jumpRule tsForward,jumpRule tsForward,jumpRule BaseChain.forward.ubiosJump],0⟩

theorem chainOrderRepairedHook :
    Repaired .forward tsForward hookFirst (auditAndFixTsChainOrder (fun _ => none) .forward tsForward (hookLine ++ ubiosLine) hookFirst) ∧
    (auditAndFixTsChainOrder (fun _ => none) .forward tsForward (hookLine ++ ubiosLine) hookFirst).2.chain =
      [jumpRule BaseChain.forward.ubiosJump,jumpRule tsForward] :=
  ⟨(chainOrderRepaired (fun _ => none) .forward tsForward (by unfold Shows; decide) (by decide)).mpr
    (fun _ => .inr ⟨rfl,by unfold Movable; decide⟩),by decide⟩

theorem secondHookStays : Shows (hookLine ++ hookLine ++ ubiosLine) .forward hookTwice.chain ∧
    hookTwice.chain.any (ChainRule.jumpsTo BaseChain.forward.ubiosJump) = true ∧
    auditAndFixTsChainOrder (fun _ => none) .forward tsForward (hookLine ++ hookLine ++ ubiosLine) hookTwice =
      (none,⟨[jumpRule tsForward,jumpRule BaseChain.forward.ubiosJump,jumpRule tsForward],2⟩) ∧ ¬ Repaired .forward tsForward hookTwice
      (auditAndFixTsChainOrder (fun _ => none) .forward tsForward (hookLine ++ hookLine ++ ubiosLine) hookTwice) := by
  have ended : auditAndFixTsChainOrder (fun _ => none) .forward tsForward (hookLine ++ hookLine ++ ubiosLine) hookTwice =
      (none,⟨[jumpRule tsForward,jumpRule BaseChain.forward.ubiosJump,jumpRule tsForward],2⟩) := by decide
  refine ⟨by unfold Shows; decide,by decide,ended,fun repaired => ?_⟩
  have ordered := repaired.ordered
  rw [ended] at ordered
  exact absurd (ordered rfl) (by decide)

end VpnPack.Firewall
