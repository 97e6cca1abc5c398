import VpnPack.Base.EraseFirst
import VpnPack.Exit.Sound

/-! What Cleanup leaves of any rule lists, foreign rules included. A rule is found by a text
that starts with the number of the table, and deleted by its priority alone. -/
namespace VpnPack.Exit
open Base List Net Ops

def mine (r : Rule) : Bool := inRange r.prio && r.table == exitTable
def seen (r : Rule) : Bool := inRange r.prio && (Nat.toDigits 10 exitRouteTable).isPrefixOf r.table.text

/- In the range, a table is written with 53 at the front only if it is table 53, and at one
priority the rules for it come first. -/
structure Distinct (rules : List Rule) : Prop where
  named : ∀ r ∈ rules, seen r = true → mine r = true
  ordered : rules.Pairwise (fun a b => a.prio = b.prio → mine b = true → mine a = true)

section
variable {r : Rule}

theorem tableBlank (table : RouteTable) : ' ' ∉ table.text := by
  cases table with
  | number n => exact decimalAvoids (by decide) n
  | named name =>
    intro member
    have clean := name.word.2 ' ' member
    contradiction

theorem notSuffix {word : Text} (absent : 'k' ∉ word) : ¬ "lookup".toList <:+ word :=
  fun inside => absent (inside.subset (by decide))

theorem lookedTable (table : RouteTable) :
    "lookup 53".toList <:+: "lookup ".toList ++ table.text ↔ (Nat.toDigits 10 exitRouteTable) <+: table.text := by
  have words : "lookup 53".toList <:+: "lookup ".toList ++ table.text ↔ _ :=
    @infixWord ' ' "lookup".toList table.text "lookup".toList "53".toList (by decide) (by decide)
  have last : ¬ "lookup".toList ++ ' ' :: "53".toList <:+: table.text :=
    fun inside => tableBlank table (inside.subset (by decide))
  rw [words,or_iff_left last]
  exact and_iff_right suffix_rfl

theorem lookedAfter (r : Rule) : "lookup 53".toList <:+: afterSource r ↔ "lookup 53".toList <:+: "lookup ".toList ++ r.table.text := by
  cases given : r.iif with
  | none => simp only [afterSource,given]
  | some name =>
    have blank : ' ' ∉ name.text := nameAvoids (.inr (.inr (by decide)))
    have first : "lookup 53".toList <:+: "iif ".toList ++ (name.text ++ ' ' :: ("lookup ".toList ++ r.table.text)) ↔ _ :=
      @infixWord ' ' "iif".toList (name.text ++ ' ' :: ("lookup ".toList ++ r.table.text)) "lookup".toList "53".toList (by decide) (by decide)
    have second := @infixWord ' ' name.text ("lookup ".toList ++ r.table.text) "lookup".toList "53".toList blank (by decide)
    have tag : ¬ ("lookup".toList <:+ "iif".toList) := notSuffix (by decide)
    have link : ¬ ("53".toList <+: "lookup ".toList ++ r.table.text) := by
      rintro ⟨rest,same⟩
      have head := (List.cons.inj same).1
      contradiction
    simp only [afterSource,given]
    rw [first,or_iff_right (fun both => tag both.1),second,or_iff_right (fun both => link both.2)]
    rfl

theorem lookedLine (r : Rule) :
    contains r.line ("lookup ".toList ++ Nat.toDigits 10 exitRouteTable) = (Nat.toDigits 10 exitRouteTable).isPrefixOf r.table.text := by
  rw [Bool.eq_iff_iff,containsInfix, isPrefixOf_iff_prefix,← lookedTable,← lookedAfter]
  have digits : 'k' ∉ Nat.toDigits 10 r.prio ++ ":\tfrom".toList := by
    rw [mem_append,not_or]
    exact ⟨decimalAvoids (by decide) r.prio,by decide⟩
  have spaces : ' ' ∉ Nat.toDigits 10 r.prio ++ ":\tfrom".toList := by
    rw [mem_append,not_or]
    exact ⟨decimalAvoids (by decide) r.prio,by decide⟩
  have blank : ' ' ∉ sourceText r.src := sourceAvoids r.src (by decide) (by decide)
  have letter : 'k' ∉ sourceText r.src := sourceAvoids r.src (by decide) (by decide)
  have shape : r.line = (Nat.toDigits 10 r.prio ++ ":\tfrom".toList) ++ ' ' :: (sourceText r.src ++ ' ' :: afterSource r) := by
    rw [lineShape]
    simp
  have first := @infixWord ' ' _ (sourceText r.src ++ ' ' :: afterSource r) "lookup".toList "53".toList spaces (by decide)
  have second := @infixWord ' ' _ (afterSource r) "lookup".toList "53".toList blank (by decide)
  have pattern : "lookup ".toList ++ Nat.toDigits 10 exitRouteTable = "lookup".toList ++ ' ' :: "53".toList := by decide
  rw [shape,pattern,first,or_iff_right (fun both => notSuffix digits both.1),second,or_iff_right (fun both => notSuffix letter both.1)]
  rfl

theorem parsedPriority (family : Family) (r : Rule) :
    (parseRule family r.line).map ExitRule.priority = if seen r then some r.prio else none := by
  cases inside : inRange r.prio with
  | false => simp [skipLine family inside,seen,inside]
  | true =>
    have bounds := inRangeSource.mp inside
    have small : r.prio < 2^63 := by omega
    have accepted : ¬ ((r.prio : Int) < exitRuleBasePrio ∨ (exitRuleMaxPrio : Int) < r.prio) := by
      simp only [exitRuleBasePrio,exitRuleMaxPrio]
      omega
    rw [parseRule,lookedLine,priorityLine,if_pos small]
    simp only [seen,inside,Bool.true_and,if_neg accepted]
    split <;> rfl

theorem parsedPriorities (family : Family) (rules : List Rule) :
    (parseRules (rules.map Rule.line) family).map ExitRule.priority = (rules.filter seen).map Rule.prio := by
  rw [parseRules,filterMap_map,map_filterMap]
  simp only [Function.comp_apply,parsedPriority]
  induction rules with
  | nil => rfl
  | cons r rest ih =>
    cases hit : seen r <;> simp [hit,ih]

end
section
variable {world : World} {family : Family} {s t : State}

theorem deletedEach {listed : List ExitRule} (ran : deleteListed world family listed s = ([],t)) :
    t.tables.rules family = eraseEach Rule.prio (listed.map ExitRule.priority) (s.tables.rules family) ∧
      ∀ f, f ≠ family → t.tables.rules f = s.tables.rules f := by
  induction listed generalizing s with
  | nil =>
    cases ran
    exact ⟨rfl,fun _ _ => rfl⟩
  | cons r rest ih =>
    simp only [deleteListed] at ran
    rcases deleted : delRule world family r.priority s with ⟨result,u⟩
    rw [deleted] at ran
    cases result with
    | some e => cases ran
    | none =>
      have tables := (delRuleDone deleted).2.1
      obtain ⟨here,others⟩ := ih ran
      constructor
      · rw [here,tables,Tables.setRulesHere]
        rfl
      · intro f other
        rw [others f other,tables,Tables.setRulesOther _ _ other]

theorem sweptEach (ran : sweepFamily world family s = ([],t)) :
    t.tables.rules family = eraseEach Rule.prio (((s.tables.rules family).filter seen).map Rule.prio) (s.tables.rules family) ∧
      ∀ f, f ≠ family → t.tables.rules f = s.tables.rules f := by
  unfold sweepFamily listRules at ran
  rw [showRun] at ran
  cases answer : world s.log.length with
  | some f =>
    rw [answer] at ran
    cases ran
  | none =>
    rw [answer] at ran
    have each := deletedEach ran
    rw [parsedPriorities] at each
    exact each

theorem delMasqueradeRules (world : World) (s : State) : (delMasquerade world s).tables.rules = s.tables.rules := by
  rw [delMasquerade,(masqDelRun .v6 _).1,Tables.setMasqRules,(masqDelRun .v4 s).1,Tables.setMasqRules]

theorem cleanupEach (ran : Cleanup world s = (none,t)) (f : Family) :
    t.tables.rules f = eraseEach Rule.prio (((s.tables.rules f).filter seen).map Rule.prio) (s.tables.rules f) := by
  have flushed : t.tables = (cleanupLocked world s).2.tables := by
    have left := congrArg (fun ended : Option GoError × State => ended.2.tables) ran
    exact left.symm.trans (flushTables world _)
  have clean : (cleanupLocked world s).1 = none := congrArg Prod.fst ran
  simp only [cleanupLocked] at clean flushed
  have errors : (sweepFamily world .v4 (delMasquerade world s)).1 = [] ∧
      (sweepFamily world .v6 (sweepFamily world .v4 (delMasquerade world s)).2).1 = [] := by
    rw [← append_eq_nil_iff]
    unfold cleanupErrors at clean
    split at clean
    · assumption
    · cases clean
  obtain ⟨four,others4⟩ := @sweptEach world .v4 (delMasquerade world s) _ (Prod.ext errors.1 rfl)
  obtain ⟨six,others6⟩ := @sweptEach world .v6 (sweepFamily world .v4 (delMasquerade world s)).2 _ (Prod.ext errors.2 rfl)
  rw [flushed]
  cases f with
  | v4 =>
    rw [others6 .v4 (by decide),four,delMasqueradeRules]
  | v6 =>
    rw [six,others4 .v6 (by decide),delMasqueradeRules]

end

theorem cleanupExact (world : World) (s t : State) (ran : Cleanup world s = (none,t)) :
    (∀ f, t.tables.rules f = (s.tables.rules f).filter (fun r => !mine r)) ↔ ∀ f, Distinct (s.tables.rules f) := by
  refine forall_congr' (fun f => ?_)
  have known (r : Rule) (owned : mine r = true) : seen r = true := by
    simp only [mine,Bool.and_eq_true,beq_iff_eq] at owned
    simp only [seen,owned.1,owned.2,Bool.true_and]
    rfl
  rw [cleanupEach ran f,eraseEachExact known]
  exact ⟨fun both => ⟨both.1,both.2⟩,fun both => ⟨both.named,both.ordered⟩⟩

def routedBy (prio : Nat) (table : RouteTable) : Rule := ⟨prio,none,none,table,anySource⟩
def mainTable : RouteTable := .named (token "main" rfl)

def holding (rules : List Rule) : State :=
  ⟨⟨fun f => if f = .v4 then rules else [],fun _ => 0⟩,⟨none,none,false⟩,⟨"",false,[]⟩,false,[]⟩

def ownFirst : List Rule := [routedBy 5281 exitTable,routedBy 5281 mainTable,routedBy 32766 mainTable]

theorem cleanupExactMain :
    (Cleanup (fun _ => none) (holding ownFirst)).2.tables.rules .v4 = [routedBy 5281 mainTable,routedBy 32766 mainTable] := by
  have done : (Cleanup (fun _ => none) (holding ownFirst)).1 = none := by decide +kernel
  have left := (cleanupExact (fun _ => none) (holding ownFirst) _ (Prod.ext done rfl)).mpr (fun f => ?_) .v4
  · exact left.trans (by decide +kernel)
  · cases f with
    | v4 => exact ⟨by decide +kernel,by decide +kernel⟩
    | v6 => exact ⟨by decide,by decide⟩

theorem cleanupTakesForeign : (Cleanup (fun _ => none) (holding [routedBy 5290 (.number 530)])).1 = none ∧
    (Cleanup (fun _ => none) (holding [routedBy 5290 (.number 530)])).2.tables.rules .v4 = [] ∧ mine (routedBy 5290 (.number 530)) = false ∧
    (Cleanup (fun _ => none) (holding [routedBy 5281 (.number 100),routedBy 5281 exitTable])).1 = none ∧
    (Cleanup (fun _ => none) (holding [routedBy 5281 (.number 100),routedBy 5281 exitTable])).2.tables.rules .v4 = [routedBy 5281 exitTable] := by
  refine ⟨?_,?_,?_,?_,?_⟩ <;> decide +kernel

end VpnPack.Exit
