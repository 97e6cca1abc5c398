import VpnPack.Net.Prefix

/-! The texts the address readers accept, by their form: four decimal fields without leading
zeros, or eight groups of hexadecimal digits, or fewer with one "::" in place of the
others. Dotted tails of IPv6 addresses and zones are not described here. -/
namespace VpnPack.Net
open List

def LeadingZero (s : List Char) : Prop := 1 < s.length ∧ s.head? = some '0'
def Groups (fields : List (List Char)) : Prop := ∀ s ∈ fields, s ≠ [] ∧ ':' ∉ s

inductive IPv6Text : List Char → Prop where
  | full (fields : List (List Char)) (eight : fields.length = 8) (groups : Groups fields) : IPv6Text ([':'].intercalate fields)
  | compressed (left right : List (List Char)) (room : left.length + right.length < 8) (before : Groups left) (after : Groups right) :
      IPv6Text ([':'].intercalate left ++ [':',':'] ++ [':'].intercalate right)

section
variable {base n m : Nat} {s : List Char}

theorem readDigitsChars (read : readDigits base n s = some m) : ∀ c ∈ s, ∃ d, digitValue c = some d ∧ d < base := by
  induction s generalizing n with
  | nil => simp
  | cons c s ih =>
    simp only [readDigits] at read
    cases value : digitValue c with
    | none => simp [value] at read
    | some d =>
      simp only [value] at read
      split at read
      · rename_i small
        intro x member
        rcases mem_cons.mp member with rfl | inside
        · exact ⟨d,value,small⟩
        · exact ih read x inside
      · simp at read

theorem readDigitsRuns (digits : ∀ c ∈ s, ∃ d, digitValue c = some d ∧ d < base) (n : Nat) : (readDigits base n s).isSome = true := by
  induction s generalizing n with
  | nil => rfl
  | cons c s ih =>
    obtain ⟨d,value,small⟩ := digits c mem_cons_self
    simp only [readDigits,value,if_pos small]
    exact ih (fun x member => digits x (mem_cons_of_mem c member)) _

theorem numberIff : (number base s).isSome = true ↔ s ≠ [] ∧ ∀ c ∈ s, ∃ d, digitValue c = some d ∧ d < base := by
  unfold number
  split
  · rename_i empty
    simp [empty]
  · rename_i filled
    rw [and_iff_right filled]
    constructor
    · intro found
      obtain ⟨m,read⟩ := Option.isSome_iff_exists.mp found
      exact readDigitsChars read
    · exact fun digits => readDigitsRuns digits 0

theorem numberAvoids {c : Char} (other : digitValue c = none) (member : c ∈ s) : number base s = none := by
  cases read : number base s with
  | none => rfl
  | some m =>
    obtain ⟨d,value,-⟩ := (numberIff.mp (Option.isSome_of_mem read)).2 c member
    rw [other] at value
    contradiction

theorem parseGroupFilled (found : (parseGroup s).isSome = true) : s ≠ [] := by
  rintro rfl
  contradiction

theorem parseGroupAvoids {c : Char} (other : digitValue c = none) (member : c ∈ s) : parseGroup s = none := by
  unfold parseGroup
  split
  · exact numberAvoids other member
  · rfl

theorem decimalRange {c : Char} {d : Nat} (value : digitValue c = some d) (small : d < 10) : '0' ≤ c ∧ c ≤ '9' := by
  unfold digitValue at value
  split at value
  · rename_i range
    exact range
  · split at value
    · cases value
      omega
    · split at value
      · cases value
        omega
      · contradiction

theorem parseBitsIff : parseBits s = some n ↔ number 10 s = some n ∧ ¬ LeadingZero s := by
  unfold LeadingZero
  cases s with
  | nil => simp [parseBits]
  | cons c rest =>
    cases rest with
    | nil => simp [parseBits]
    | cons next rest =>
      simp only [parseBits,length_cons,head?_cons,Option.some.injEq]
      constructor
      · intro read
        split at read
        · contradiction
        · rename_i range
          refine ⟨read,?_⟩
          rintro ⟨-,rfl⟩
          exact range (.inl (by decide))
      · rintro ⟨read,plain⟩
        obtain ⟨d,value,small⟩ := (numberIff.mp (Option.isSome_of_mem read)).2 c mem_cons_self
        have nonzero : c ≠ '0' := fun zero => plain ⟨by omega,zero⟩
        rw [if_neg (nonzeroDigit (decimalRange value small) nonzero),read]

end
section
variable {fields : List (List Char)}

variable {left right : List (List Char)} {f : List Char → Option Nat}

theorem mapMPart (each : ∀ s ∈ fields, (f s).isSome = true) : ∃ values, fields.mapM f = some values ∧ values.length = fields.length := by
  induction fields with
  | nil => exact ⟨[],rfl,rfl⟩
  | cons s fields ih =>
    obtain ⟨v,value⟩ := Option.isSome_iff_exists.mp (each s mem_cons_self)
    obtain ⟨values,rest,count⟩ := ih (fun x member => each x (mem_cons_of_mem s member))
    exact ⟨v :: values,by simp [mapM_cons,value,rest],by simp [count]⟩

theorem mapMSource {values : List Nat} (read : fields.mapM f = some values) :
    values.length = fields.length ∧ ∀ s ∈ fields, (f s).isSome = true := by
  induction fields generalizing values with
  | nil =>
    cases read
    simp
  | cons s fields ih =>
    simp only [mapM_cons,bind,Option.bind_eq_some_iff] at read
    obtain ⟨v,value,rest,tail,same⟩ := read
    cases same
    obtain ⟨count,each⟩ := ih tail
    refine ⟨by simp [count],?_⟩
    intro x member
    rcases mem_cons.mp member with rfl | inside
    · rw [value]
      rfl
    · exact each x inside

theorem parseGroupsPart (each : ∀ s ∈ fields, (parseGroup s).isSome = true) : ∃ gs, parseGroups fields = some gs ∧ gs.length = fields.length := by
  induction fields with
  | nil => exact ⟨[],rfl,rfl⟩
  | cons s fields ih =>
    obtain ⟨g,value⟩ := Option.isSome_iff_exists.mp (each s mem_cons_self)
    obtain ⟨gs,rest,count⟩ := ih (fun x member => each x (mem_cons_of_mem s member))
    cases fields with
    | nil =>
      have plain : '.' ∉ s := by
        intro dot
        rw [parseGroupAvoids rfl dot] at value
        contradiction
      exact ⟨[g],by simp [parseGroups,plain,value],rfl⟩
    | cons next fields => exact ⟨g :: gs,by simp [parseGroups,value,rest],by simp [count]⟩

theorem parseGroupsSource {gs : List Nat} (plain : ∀ s ∈ fields, '.' ∉ s) (read : parseGroups fields = some gs) :
    gs.length = fields.length ∧ ∀ s ∈ fields, (parseGroup s).isSome = true := by
  induction fields generalizing gs with
  | nil =>
    cases read
    simp
  | cons s fields ih =>
    cases fields with
    | nil =>
      rw [parseGroups,if_neg (plain s mem_cons_self),Option.map_eq_some_iff] at read
      obtain ⟨g,value,rfl⟩ := read
      simp [value]
    | cons next fields =>
      rw [parseGroups] at read
      split at read
      · rename_i g rest value tail
        cases read
        obtain ⟨count,each⟩ := ih (fun x member => plain x (mem_cons_of_mem s member)) tail
        refine ⟨by simp [count],?_⟩
        intro x member
        rcases mem_cons.mp member with rfl | inside
        · rw [value]
          rfl
        · exact each x inside
      · simp at read

theorem unpadSource (next : List Char) (right : List (List Char)) : next :: right = sideFields (unpad (next :: right)) := by
  unfold unpad
  split
  · rename_i blank
    rw [blank]
    rfl
  · simp [sideFields]

theorem innerEllipsisSource (found : innerEllipsis fields = some (left,right)) :
    left ≠ [] ∧ Filled left ∧ ∃ next rest, fields = left ++ [] :: next :: rest ∧ right = unpad (next :: rest) := by
  fun_induction innerEllipsis fields generalizing left right with
  | case1 _ _ | case3 | case5 => simp at found
  | case2 s next rest filled =>
    cases found
    exact ⟨by simp,by simpa [Filled] using filled,next,rest,rfl,rfl⟩
  | case4 s fields _ filled ih =>
    obtain ⟨cut,inner,same⟩ := Option.map_eq_some_iff.mp found
    cases same
    obtain ⟨-,each,next,rest,shape,side⟩ := ih inner
    refine ⟨by simp,?_,next,rest,by rw [shape]; rfl,side⟩
    intro x member
    rcases mem_cons.mp member with rfl | inside
    · exact filled
    · exact each x inside

theorem ellipsisSource (found : ellipsis fields = some (left,right)) :
    Filled left ∧ ∃ next rest, fields = sideFields left ++ [] :: next :: rest ∧ right = unpad (next :: rest) := by
  unfold ellipsis at found
  split at found
  · rename_i next rest
    cases found
    exact ⟨by simp [Filled],next,rest,rfl,rfl⟩
  · obtain ⟨some_,filled,next,rest,shape,side⟩ := innerEllipsisSource found
    exact ⟨filled,next,rest,by rw [shape,sideFields,if_neg some_],side⟩

end
section
variable {c : Char} {host : List Char}

theorem partOf {sep : Char} {s : List Char} (member : c ∈ s) (other : c ≠ sep) : ∃ part ∈ s.splitOn sep, c ∈ part := by
  by_contra none_
  push Not at none_
  have each : ∀ part ∈ s.splitOn sep, ∀ x ∈ part, x ≠ c := by
    rintro part inside x found rfl
    exact none_ part inside found
  have absent := intercalateChars (show ∀ x ∈ [sep], x ≠ c by simpa using Ne.symm other) each
  rw [intercalate_splitOn] at absent
  exact absent c member rfl

section
variable (stranger : digitValue c = none) (noDot : c ≠ '.')
include stranger noDot

theorem parseIPv4Avoids (member : c ∈ host) : parseIPv4Fields host = none := by
  obtain ⟨part,inside,found⟩ := partOf member noDot
  have refused : parseOctet part = none := by
    rw [parseOctet,numberAvoids stranger found]
    split <;> rfl
  unfold parseIPv4Fields
  cases read : (host.splitOn '.').mapM parseOctet with
  | none => rfl
  | some values =>
    have fine := (mapMSource read).2 part inside
    rw [refused] at fine
    contradiction

theorem parseGroupsAvoid {fields : List (List Char)} {part : List Char}
    (inside : part ∈ fields) (found : c ∈ part) : parseGroups fields = none := by
  induction fields with
  | nil => contradiction
  | cons s fields ih =>
    cases fields with
    | nil =>
      rw [mem_singleton.mp inside] at found
      rw [parseGroups,parseIPv4Avoids stranger noDot found,parseGroupAvoids stranger found]
      split <;> rfl
    | cons next fields =>
      rw [parseGroups]
      rcases mem_cons.mp inside with rfl | later
      · rw [parseGroupAvoids stranger found]
      · rw [ih later]
        split
        · contradiction
        · rfl

theorem parseIPv6Avoids (noColon : c ≠ ':') (member : c ∈ host) : parseIPv6Groups host = none := by
  obtain ⟨part,inside,found⟩ := partOf member noColon
  unfold parseIPv6Groups
  split
  · rw [parseGroupsAvoid stranger noDot inside found]
  · rename_i left right cut
    obtain ⟨-,next,rest,shape,side⟩ := ellipsisSource cut
    rw [unpadSource next rest,← side] at shape
    rw [shape] at inside
    have filled : part ≠ [] := by
      rintro rfl
      contradiction
    have sided {fields : List (List Char)} (there : part ∈ sideFields fields) : part ∈ fields := by
      unfold sideFields at there
      split at there
      · exact absurd (mem_singleton.mp there) filled
      · exact there
    rcases mem_append.mp inside with before | after
    · cases read : left.mapM parseGroup with
      | none => rfl
      | some l =>
        have fine := (mapMSource read).2 part (sided before)
        rw [parseGroupAvoids stranger found] at fine
        contradiction
    · rcases mem_cons.mp after with blank | later
      · exact absurd blank filled
      · rw [parseGroupsAvoid stranger noDot (sided later) found]
        split
        · contradiction
        · rfl

end

end
section
variable {host : List Char}

variable {fields : List (List Char)}

theorem groupsFilled (groups : Groups fields) : Filled fields := fun s member => (groups s member).1

theorem groupsSide (groups : Groups fields) : ∀ s ∈ sideFields fields, ':' ∉ s := by
  unfold sideFields
  split
  · simp
  · exact fun s member => (groups s member).2

theorem sideMember {s : List Char} (member : s ∈ fields) : s ∈ sideFields fields := by
  unfold sideFields
  split
  · rename_i empty
    rw [empty] at member
    contradiction
  · exact member

theorem fullSplit (some_ : fields ≠ []) (groups : Groups fields) : ([':'].intercalate fields).splitOn ':' = fields :=
  splitOn_intercalate ':' (fun s member => (groups s member).2) some_

theorem compressedSplit {left right : List (List Char)} (before : Groups left) (after : Groups right) :
    ([':'].intercalate left ++ [':',':'] ++ [':'].intercalate right).splitOn ':' = sideFields left ++ [[]] ++ sideFields right := by
  rw [← ellipsisText]
  refine splitOn_intercalate ':' ?_ (by simp)
  intro s member
  rcases mem_append.mp member with front | back
  · rcases mem_append.mp front with inside | middle
    · exact groupsSide before s inside
    · rw [mem_singleton.mp middle]
      simp
  · exact groupsSide after s back

theorem textParses (text : IPv6Text host) (hex : ∀ s ∈ host.splitOn ':', s ≠ [] → (parseGroup s).isSome = true) :
    (parseIPv6Groups host).isSome = true := by
  cases text with
  | full fields eight groups =>
    have some_ : fields ≠ [] := by
      rintro rfl
      contradiction
    rw [fullSplit some_ groups] at hex
    obtain ⟨gs,read,count⟩ := parseGroupsPart (fun s member => hex s member (groups s member).1)
    simp [parseIPv6Groups,fullSplit some_ groups,noEllipsis (groupsFilled groups),read,count,eight]
  | compressed left right room before after =>
    rw [compressedSplit before after] at hex
    have first : ∀ s ∈ left, (parseGroup s).isSome = true := fun s member =>
      hex s (mem_append_left _ (mem_append_left _ (sideMember member))) (before s member).1
    have second : ∀ s ∈ right, (parseGroup s).isSome = true := fun s member =>
      hex s (mem_append_right _ (sideMember member)) (after s member).1
    obtain ⟨l,readLeft,countLeft⟩ := mapMPart first
    obtain ⟨r,readRight,countRight⟩ := parseGroupsPart second
    rw [parseIPv6Groups,compressedSplit before after,ellipsisFields (groupsFilled before) (groupsFilled after)]
    simp only [readLeft,readRight,countLeft,countRight,if_pos room,Option.isSome_some]

theorem parsedText (plain : '.' ∉ host) (parsed : (parseIPv6Groups host).isSome = true) : IPv6Text host := by
  have joined : [':'].intercalate (host.splitOn ':') = host := intercalate_splitOn ':'
  have clean : ∀ s ∈ host.splitOn ':', ':' ∉ s := fun s member => (Base.splitOnPart member).1
  have inside : ∀ s ∈ host.splitOn ':', '.' ∉ s := fun s member dot => plain ((Base.splitOnPart member).2 dot)
  unfold parseIPv6Groups at parsed
  split at parsed
  · split at parsed
    · rename_i gs read
      split at parsed
      · rename_i eight
        obtain ⟨count,each⟩ := parseGroupsSource inside read
        rw [← joined]
        exact .full _ (count ▸ eight) (fun s member => ⟨parseGroupFilled (each s member),clean s member⟩)
      · simp at parsed
    · simp at parsed
  · rename_i left right cut
    obtain ⟨filled,next,rest,shape,side⟩ := ellipsisSource cut
    rw [unpadSource next rest,← side] at shape
    split at parsed
    · rename_i l r readLeft readRight
      split at parsed
      · rename_i room
        obtain ⟨countLeft,first⟩ := mapMSource readLeft
        have dots : ∀ s ∈ right, '.' ∉ s := fun s member => inside s (by
          rw [shape]
          exact mem_append_right _ (mem_cons_of_mem _ (sideMember member)))
        obtain ⟨countRight,second⟩ := parseGroupsSource dots readRight
        have before : Groups left := fun s member => ⟨filled s member,clean s (by
          rw [shape]
          exact mem_append_left _ (sideMember member))⟩
        have after : Groups right := fun s member => ⟨parseGroupFilled (second s member),clean s (by
          rw [shape]
          exact mem_append_right _ (mem_cons_of_mem _ (sideMember member)))⟩
        have text : host = [':'].intercalate left ++ [':',':'] ++ [':'].intercalate right := by
          rw [← ellipsisText,← joined,shape,append_assoc]
          rfl
        rw [text]
        exact .compressed left right (countLeft ▸ countRight ▸ room) before after
      · simp at parsed
    · simp at parsed

theorem parseOctetIff {s : List Char} (small : ∃ n, number 10 s = some n ∧ n ≤ 255) : (parseOctet s).isSome = true ↔ ¬ LeadingZero s := by
  obtain ⟨n,read,bound⟩ := small
  unfold parseOctet LeadingZero
  split
  · rename_i zero
    exact iff_of_false (by simp) (fun fine => fine zero)
  · rename_i fine
    refine iff_of_true ?_ fine
    simp [read,bound]

theorem parseIPv4Iff (four : (host.splitOn '.').length = 4) (small : ∀ s ∈ host.splitOn '.', ∃ n, number 10 s = some n ∧ n ≤ 255) :
    (parseIPv4Fields host).isSome = true ↔ ∀ s ∈ host.splitOn '.', ¬ LeadingZero s := by
  unfold parseIPv4Fields
  constructor
  · intro parsed
    cases read : (host.splitOn '.').mapM parseOctet with
    | none => simp [read] at parsed
    | some values =>
      exact fun s member => (parseOctetIff (small s member)).mp ((mapMSource read).2 s member)
  · intro plain
    obtain ⟨values,read,count⟩ := mapMPart (fun s member => (parseOctetIff (small s member)).mpr (plain s member))
    rw [four] at count
    obtain ⟨a,b,c,d,rfl⟩ := length_eq_four.mp count
    simp [read]

end
end VpnPack.Net
