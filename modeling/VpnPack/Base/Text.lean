import Mathlib.Data.List.DropRight

/-! The part of Go's strings and unicode packages the model needs, over lists of
characters. -/
namespace VpnPack.Base
open List

def isSpace (c : Char) : Bool :=
  let n := c.toNat
  (9 ≤ n && n ≤ 13) || n == 32 || n == 0x85 || n == 0xA0 || n == 0x1680 || (0x2000 ≤ n && n ≤ 0x200A) ||
    n == 0x2028 || n == 0x2029 || n == 0x202F || n == 0x205F || n == 0x3000

def trimSpace (s : List Char) : List Char := (s.dropWhile isSpace).rdropWhile isSpace

variable {s word : List Char}

theorem trimSpaceEnds (first : ∀ c, s.head? = some c → isSpace c = false)
    (last : ∀ c, s.getLast? = some c → isSpace c = false) : trimSpace s = s := by
  have left : s.dropWhile isSpace = s := by
    cases s with
    | nil => rfl
    | cons c rest => simp [first c rfl]
  have right : s.reverse.dropWhile isSpace = s.reverse := by
    cases shape : s.reverse with
    | nil => rfl
    | cons c rest =>
      have ending : s.getLast? = some c := by rw [← head?_reverse,shape,head?_cons]
      simp [last c ending]
  rw [trimSpace,left,List.rdropWhile,right,reverse_reverse]

theorem trimSpaceBlank (s : List Char) : trimSpace (' ' :: s) = trimSpace s := by
  rw [trimSpace,dropWhile_cons_of_pos (by decide),trimSpace]

theorem trimSpaceSubset : trimSpace s ⊆ s :=
  (( rdropWhile_prefix isSpace _).sublist.trans (dropWhile_sublist isSpace)).subset

theorem trimSpaceClean (clean : ∀ c ∈ s, isSpace c = false) : trimSpace s = s :=
  trimSpaceEnds (fun c first => clean c (mem_of_mem_head? first)) (fun c last => clean c (mem_of_getLast? last))

-- line[strings.Index(line, pat)+len(pat):]
def afterFirst (pat : List Char) : List Char → Option (List Char)
  | [] => if pat = [] then some [] else none
  | c :: rest => if pat.isPrefixOf (c :: rest) then some ((c :: rest).drop pat.length) else afterFirst pat rest

def contains (s pat : List Char) : Bool := (afterFirst pat s).isSome

theorem afterFirstHere (first : Char) (pat s : List Char) : afterFirst (first :: pat) (first :: pat ++ s) = some s := by
  have found : (first :: pat).isPrefixOf (first :: pat ++ s) = true := by simp
  rw [cons_append] at found ⊢
  rw [afterFirst,if_pos found,← cons_append,drop_left]

variable (before : List Char) {start : List Char} {first sep : Char}

theorem afterFirstSkip {before : List Char} (absent : first ∉ before) (pat s : List Char) :
    afterFirst (first :: pat) (before ++ s) = afterFirst (first :: pat) s := by
  induction before with
  | nil => rfl
  | cons c rest ih =>
    simp only [mem_cons,not_or] at absent
    have missed : (first :: pat).isPrefixOf (c :: rest ++ s) = false := by
      simp [List.isPrefixOf,absent.1]
    rw [cons_append] at missed ⊢
    rw [afterFirst,if_neg (by rw [missed]; simp),ih absent.2]

theorem afterFirstNone (absent : first ∉ s) (pat : List Char) : afterFirst (first :: pat) s = none := by
  have skipped := afterFirstSkip absent pat []
  rw [append_nil] at skipped
  rw [skipped,afterFirst,if_neg (by simp)]

theorem containsAppend (pat after : List Char) : contains (before ++ (pat ++ after)) pat = true := by
  induction before with
  | nil =>
    cases pat with
    | nil => cases after <;> simp [contains,afterFirst]
    | cons first pat =>
      rw [nil_append,contains,afterFirstHere]
      rfl
  | cons c rest ih =>
    simp only [contains,cons_append,afterFirst] at ih ⊢
    split
    · rfl
    · exact ih

theorem containsInfix {pat : List Char} : contains s pat = true ↔ pat <:+: s := by
  constructor
  · intro found
    induction s with
    | nil =>
      have blank : pat = [] := by simpa [contains,afterFirst] using found
      exact blank ▸ infix_rfl
    | cons c rest ih =>
      simp only [contains,afterFirst] at found ih
      split at found
      · rename_i here
        exact ( isPrefixOf_iff_prefix.mp here).isInfix
      · exact infix_cons (ih found)
  · rintro ⟨before,after,rfl⟩
    rw [append_assoc]
    exact containsAppend before pat after

theorem firstSplit {u v x y : List Char} (left : sep ∉ u) (right : sep ∉ v) (same : u ++ sep :: x = v ++ sep :: y) :
    u = v ∧ x = y := by
  induction u generalizing v with
  | nil =>
    cases v with
    | nil => exact ⟨rfl,(List.cons.inj same).2⟩
    | cons d rest => exact absurd ((List.cons.inj same).1 ▸ mem_cons_self) right
  | cons c u ih =>
    cases v with
    | nil => exact absurd ((List.cons.inj same).1 ▸ mem_cons_self) left
    | cons d rest =>
      obtain ⟨head,tail⟩ := List.cons.inj same
      obtain ⟨words,rests⟩ := ih (fun member => left (mem_cons_of_mem c member)) (fun member => right (mem_cons_of_mem d member)) tail
      exact ⟨by rw [head,words],rests⟩

theorem infixWord {word rest a b : List Char} (clean : sep ∉ word) (plain : sep ∉ a) :
    (a ++ sep :: b) <:+: (word ++ sep :: rest) ↔ a <:+ word ∧ b <+: rest ∨ (a ++ sep :: b) <:+: rest := by
  constructor
  · rintro ⟨before,after,same⟩
    by_cases later : sep ∈ before
    · obtain ⟨front,back,rfl,first⟩ := eq_append_cons_of_mem later
      simp only [append_assoc,cons_append] at same
      obtain ⟨-,rests⟩ := firstSplit first clean same
      exact .inr ⟨back,after,by simpa using rests⟩
    · have whole : (before ++ a) ++ sep :: (b ++ after) = word ++ sep :: rest := by simpa using same
      have fresh : sep ∉ before ++ a := by
        rw [mem_append,not_or]
        exact ⟨later,plain⟩
      obtain ⟨words,rests⟩ := firstSplit fresh clean whole
      exact .inl ⟨⟨before,words⟩,⟨after,rests⟩⟩
  · rintro (⟨⟨before,rfl⟩,⟨after,rfl⟩⟩ | inside)
    · exact ⟨before,after,by simp⟩
    · exact inside.trans ((suffix_append_of_suffix (suffix_cons sep rest)).isInfix)

-- strings.Fields, with the word read so far in reverse.
def fieldsFrom : List Char → List Char → List (List Char)
  | word,[] => if word = [] then [] else [word.reverse]
  | word,c :: rest =>
    if isSpace c then
      if word = [] then fieldsFrom [] rest else word.reverse :: fieldsFrom [] rest
    else fieldsFrom (c :: word) rest

def fields (s : List Char) : List (List Char) := fieldsFrom [] s

/- A fixed text is checked character by character: the search for a decision procedure may otherwise
go through all characters there are. -/
theorem everyChar {p : Char → Prop} [DecidablePred p] (all : s.all (fun c => decide (p c)) = true) : ∀ c ∈ s, p c :=
  fun c member => of_decide_eq_true (all_eq_true.mp all c member)

theorem everyPair {α : Type} {l : List α} {p : α → Char → Prop} [∀ a, DecidablePred (p a)]
    (all : l.all (fun a => s.all (fun c => decide (p a c))) = true) : ∀ a ∈ l, ∀ c ∈ s, p a c :=
  fun a member => everyChar (all_eq_true.mp all a member)

def Word (s : List Char) : Prop := s ≠ [] ∧ ∀ c ∈ s, isSpace c = false

structure Token where
  text : List Char
  word : Word text
  deriving DecidableEq, Repr

theorem Token.same {a b : Token} (texts : a.text = b.text) : a = b := by
  cases a
  cases b
  cases texts
  rfl

def isWord (s : List Char) : Bool := s ≠ [] ∧ s.all (fun c => isSpace c = false)

theorem isWordSource (checked : isWord s = true) : Word s := by
  simp only [isWord,decide_eq_true_eq] at checked
  exact ⟨checked.1,everyChar checked.2⟩

def token (s : String) (checked : isWord s.toList = true) : Token := ⟨s.toList,isWordSource checked⟩

theorem fieldsFromAppend (clean : ∀ c ∈ word, isSpace c = false) (read rest : List Char) :
    fieldsFrom read (word ++ rest) = fieldsFrom (word.reverse ++ read) rest := by
  induction word generalizing read with
  | nil => rfl
  | cons c word ih =>
    rw [cons_append,fieldsFrom,if_neg (by simp [clean c mem_cons_self]),
      ih (fun d member => clean d (mem_cons_of_mem c member)),reverse_cons,append_assoc,singleton_append]

theorem fieldsWord (clean : Word word) : fields word = [word] := by
  have read := fieldsFromAppend clean.2 [] []
  rw [append_nil,append_nil] at read
  rw [fields,read,fieldsFrom,if_neg (by simp [clean.1]),reverse_reverse]

theorem fieldsCons (clean : Word word) (rest : List Char) : fields (word ++ ' ' :: rest) = word :: fields rest := by
  rw [fields,fieldsFromAppend clean.2,append_nil,fieldsFrom,if_pos (by decide),if_neg (by simp [clean.1]),reverse_reverse]
  rfl

theorem fieldsTokens (first : Token) (rest : List Token) :
    fields (first.text ++ rest.flatMap (fun t => ' ' :: t.text)) = first.text :: rest.map Token.text := by
  induction rest generalizing first with
  | nil =>
    rw [flatMap_nil,append_nil]
    exact fieldsWord first.word
  | cons next rest ih =>
    rw [flatMap_cons,cons_append,fieldsCons first.word,ih,map_cons]

theorem splitOnPart {part : List Char} (member : part ∈ s.splitOn sep) : sep ∉ part ∧ part ⊆ s := by
  induction s generalizing part with
  | nil =>
    rw [splitOn_nil,mem_singleton] at member
    simp [member]
  | cons c s ih =>
    rw [splitOn_cons_eq_if_modifyHead] at member
    split at member
    · rcases mem_cons.mp member with rfl | later
      · simp
      · exact ⟨(ih later).1,subset_cons_of_subset c (ih later).2⟩
    · rename_i other
      cases parts : s.splitOn sep with
      | nil => exact absurd parts (splitOn_ne_nil sep s)
      | cons first rest =>
        rw [parts,modifyHead_cons] at member
        rw [parts] at ih
        rcases mem_cons.mp member with rfl | later
        · obtain ⟨clean,inside⟩ := ih mem_cons_self
          rw [mem_cons,not_or]
          exact ⟨⟨fun same => other (by simp [same]),clean⟩,cons_subset_cons c inside⟩
        · obtain ⟨clean,inside⟩ := ih (mem_cons_of_mem first later)
          exact ⟨clean,subset_cons_of_subset c inside⟩

def lines (s : List Char) : List (List Char) := s.splitOn '\n'

theorem linesStart (one : '\n' ∉ start) (rest : List Char) :
    ∃ more others, lines (start ++ rest) = (start ++ more) :: others := by
  induction start with
  | nil =>
    cases parts : lines rest with
    | nil => exact absurd parts (splitOnP_ne_nil _ rest)
    | cons first others => exact ⟨first,others,parts⟩
  | cons c start ih =>
    simp only [mem_cons,not_or] at one
    obtain ⟨more,others,parts⟩ := ih one.2
    have head : (c == '\n') = false := by simp [Ne.symm one.1]
    have next := @splitOnP_cons_eq_if_modifyHead Char (fun x => x == '\n') c (start ++ rest)
    rw [head,if_neg (by simp)] at next
    exact ⟨more,others,next.trans (congrArg (List.modifyHead (List.cons c)) parts)⟩

theorem linesInside (one : '\n' ∉ start) (rest : List Char) :
    ∃ more, start ++ more ∈ lines (before ++ '\n' :: (start ++ rest)) := by
  obtain ⟨more,others,parts⟩ := linesStart one rest
  have split_ : lines (before ++ '\n' :: (start ++ rest)) = lines before ++ lines (start ++ rest) :=
    splitOnP_append_cons before (start ++ rest) (by simp)
  rw [split_,parts]
  exact ⟨more,mem_append_right _ mem_cons_self⟩

end VpnPack.Base
