import VpnPack.Net.Prefix
import VpnPack.Service.TailscaledPort

/-! The defaults file as systemd takes it for an EnvironmentFile: one assignment a line, blanks around
name and value and one pair of quotes dropped, lines that start with # or ; passed over,
the last assignment of a name counting. Continued lines and escapes are not modelled. -/
namespace VpnPack.Service
open Base List Net

def envBlank (c : Char) : Bool := c == ' ' || c == '\t' || c == '\r'
def strip (s : List Char) : List Char := (s.dropWhile envBlank).rdropWhile envBlank

-- 39 is the single quote.
def isQuote (c : Char) : Bool := c == '"' || c.toNat == 39

def unquoted : List Char → List Char
  | [] => []
  | q :: rest => if isQuote q ∧ rest.getLast? = some q then rest.dropLast else q :: rest

def assignment (line : List Char) : Option (List Char × List Char) :=
  let text := strip line
  if text.head? = some '#' ∨ text.head? = some ';' then none
  else (cutFirst '=' text).map (fun cut => (strip cut.1,unquoted (strip cut.2)))

def portValue (line : List Char) : Option (List Char) :=
  (assignment line).bind (fun a => if a.1 = "PORT".toList then some a.2 else none)

def assigning (content : List Char) : List (List Char) := (lines content).filter (fun line => (portValue line).isSome)
def effectivePort (content : List Char) : Option (List Char) := ((lines content).filterMap portValue).getLast?

def textLines (content : List Char) : List (List Char) :=
  if (lines content).getLast? = some [] then (lines content).dropLast else lines content

def KeepsLines (old : Option (List Char)) (new : List Char) : Prop :=
  ∀ content, old = some content → ((textLines content).filter (fun line => (portValue line).isNone)).Sublist (textLines new)

section
variable {port : Int} {line ds after : List Char}

theorem rdropWhileAppend {p : Char → Bool} {c : Char} (stop : p c = false) (before after : List Char) :
    (before ++ c :: after).rdropWhile p = before ++ c :: after.rdropWhile p := by
  have shape : (before ++ c :: after).reverse = after.reverse ++ c :: before.reverse := by simp
  rw [List.rdropWhile,List.rdropWhile,shape,dropWhile_append]
  split
  · rename_i gone
    rw [isEmpty_iff.mp gone,dropWhile_cons_of_neg (by simp [stop])]
    simp
  · simp

theorem matchPortSource (found : matchPort line = some (ds,after)) :
    line = portOpening ++ (ds ++ '"' :: after) ∧ ds ≠ [] ∧ ∀ c ∈ ds, c.isDigit = true := by
  simp only [matchPort] at found
  split at found
  · rename_i opened
    obtain ⟨value,rfl⟩ := isPrefixOf_iff_prefix.mp opened
    rw [drop_left] at found
    split at found
    · rename_i d digits rest front back
      cases found
      refine ⟨?_,by simp,?_⟩
      · rw [← front,← back,takeWhile_append_dropWhile]
      · rw [← front]
        exact fun c member => mem_takeWhile_imp member
    · simp at found
  · simp at found

theorem matchPortQuoted (filled : ds ≠ []) (digits : ∀ c ∈ ds, c.isDigit = true) (after : List Char) :
    matchPort (portOpening ++ (ds ++ '"' :: after)) = some (ds,after) := by
  have opened : portOpening.isPrefixOf (portOpening ++ (ds ++ '"' :: after)) = true := isPrefixOf_iff_prefix.mpr (prefix_append _ _)
  have front : (ds ++ '"' :: after).takeWhile Char.isDigit = ds := by
    rw [takeWhile_append_of_pos digits]
    simp [Char.isDigit]
  have back : (ds ++ '"' :: after).dropWhile Char.isDigit = '"' :: after := by
    rw [dropWhile_append_of_pos digits]
    simp [Char.isDigit]
  obtain ⟨d,rest,rfl⟩ := exists_cons_of_ne_nil filled
  rw [matchPort,if_pos opened]
  simp only [drop_left,front,back]

theorem quotedValue (ds after : List Char) :
    portValue (portOpening ++ (ds ++ '"' :: after)) = some (unquoted ('"' :: (ds ++ '"' :: after.rdropWhile envBlank))) := by
  have trimmed : strip (portOpening ++ (ds ++ '"' :: after)) = "PORT".toList ++ '=' :: '"' :: (ds ++ '"' :: after.rdropWhile envBlank) := by
    have front : (portOpening ++ (ds ++ '"' :: after)).dropWhile envBlank = (portOpening ++ ds) ++ '"' :: after := by
      rw [← append_assoc]
      rfl
    rw [strip,front,rdropWhileAppend (by decide),append_assoc]
    rfl
  have value : strip ('"' :: (ds ++ '"' :: after.rdropWhile envBlank)) = '"' :: (ds ++ '"' :: after.rdropWhile envBlank) := by
    have front : ('"' :: (ds ++ '"' :: after.rdropWhile envBlank)).dropWhile envBlank = ('"' :: ds) ++ '"' :: after.rdropWhile envBlank := rfl
    rw [strip,front,rdropWhileAppend (by decide),rdropWhile_idempotent]
    rfl
  have name : strip "PORT".toList = "PORT".toList := by decide
  have cut := @cutFirstAppend '=' "PORT".toList ('"' :: (ds ++ '"' :: after.rdropWhile envBlank)) (by decide)
  have opens : ("PORT".toList ++ '=' :: '"' :: (ds ++ '"' :: after.rdropWhile envBlank)).head? = some 'P' := rfl
  rw [portValue,assignment,trimmed,if_neg (by rw [opens]; decide),cut,Option.map_some,Option.bind_some,name,value]
  exact if_pos rfl

theorem unquotedExact (digits : ∀ c ∈ ds, c.isDigit = true) (tail : List Char) :
    unquoted ('"' :: (ds ++ '"' :: tail)) = ds ↔ tail = [] := by
  constructor
  · intro same
    by_contra more
    rw [unquoted] at same
    split at same
    · have lengths := congrArg List.length same
      have positive := length_pos_of_ne_nil more
      simp only [length_dropLast,length_append,length_cons] at lengths
      omega
    · have quoted : '"' ∈ ds := same ▸ mem_cons_self
      exact absurd (digits _ quoted) (by decide)
  · rintro rfl
    rw [unquoted,if_pos ⟨by decide,by simp⟩]
    simp

theorem portDigits (positive : 1 ≤ port) : (toString port).toList = Nat.toDigits 10 port.toNat := by
  obtain ⟨n,rfl⟩ := Int.eq_ofNat_of_zero_le (by omega : 0 ≤ port)
  simp [toString,Int.repr,Nat.repr]

theorem portDigitsFilled (positive : 1 ≤ port) : (toString port).toList ≠ [] := by
  rw [portDigits positive]
  exact Nat.toDigits_ne_nil

theorem portDigitsDecimal (positive : 1 ≤ port) : ∀ c ∈ (toString port).toList, c.isDigit = true := by
  rw [portDigits positive]
  exact fun c member => Nat.isDigit_of_mem_toDigits (by decide) (by decide) member

theorem portLineAppend (port : Int) (after : List Char) :
    portLine port ++ after = portOpening ++ ((toString port).toList ++ '"' :: after) := by
  simp [portLine]

theorem matchReplaced (positive : 1 ≤ port) (line : List Char) :
    matchPort (replacePort port line) = (matchPort line).map (fun found => ((toString port).toList,found.2)) := by
  unfold replacePort
  cases found : matchPort line with
  | none => exact found
  | some pair =>
    obtain ⟨ds,after⟩ := pair
    simp only [portLineAppend]
    exact matchPortQuoted (portDigitsFilled positive) (portDigitsDecimal positive) after

theorem replacedOther (other : matchPort line = none) (port : Int) : replacePort port line = line := by
  simp only [replacePort,other]

theorem assignedMatched (found : matchPort line = some (ds,after)) : (portValue line).isSome = true := by
  rw [(matchPortSource found).1,quotedValue]
  rfl

theorem replacedAssigns (port : Int) (line : List Char) : (portValue (replacePort port line)).isSome = (portValue line).isSome := by
  cases found : matchPort line with
  | none => rw [replacedOther found]
  | some pair =>
    obtain ⟨ds,after⟩ := pair
    rw [assignedMatched found]
    simp only [replacePort,found,portLineAppend,quotedValue,Option.isSome_some]

end

section
variable {port : Int} {content : List Char}

def PortMatched (content : List Char) : Prop := (lines content).any (fun line => (matchPort line).isSome) = true

theorem lineClean {line : List Char} (member : line ∈ lines content) : '\n' ∉ line := (splitOnPart member).1

theorem replacedClean (positive : 1 ≤ port) {line : List Char} (clean : '\n' ∉ line) : '\n' ∉ replacePort port line := by
  cases found : matchPort line with
  | none => rwa [replacedOther found]
  | some pair =>
    obtain ⟨ds,after⟩ := pair
    rw [(matchPortSource found).1] at clean
    have rest : '\n' ∉ after := fun member => clean (by simp [member])
    have digits : '\n' ∉ (toString port).toList := fun member => absurd (portDigitsDecimal positive _ member) (by decide)
    simp only [replacePort,found,portLineAppend,mem_append,mem_cons,not_or]
    exact ⟨by decide,digits,by decide,rest⟩

theorem matchedLines (positive : 1 ≤ port) (here : PortMatched content) :
    lines (portContent port (some content)) = (lines content).map (replacePort port) := by
  have clean : ∀ line ∈ (lines content).map (replacePort port), '\n' ∉ line := by
    intro line member
    obtain ⟨old,inside,rfl⟩ := mem_map.mp member
    exact replacedClean positive (lineClean inside)
  have filled : (lines content).map (replacePort port) ≠ [] := by
    simp [lines,splitOn_ne_nil]
  rw [PortMatched] at here
  simp only [portContent,if_pos here]
  exact splitOn_intercalate '\n' clean filled

theorem linesEnd (s t : List Char) : lines (s ++ '\n' :: t) = lines s ++ lines t := splitOn_append_cons_self s t

theorem linesPortLine (positive : 1 ≤ port) : lines (portLine port) = [portLine port] := by
  refine splitOn_eq_singleton ?_
  have digits : '\n' ∉ (toString port).toList := fun member => absurd (portDigitsDecimal positive _ member) (by decide)
  simp only [portLine,mem_append,not_or]
  exact ⟨⟨by decide,digits⟩,by decide⟩

theorem unmatchedLines (positive : 1 ≤ port) (nowhere : ¬ PortMatched content) :
    lines (portContent port (some content)) = portLine port :: (lines (content.rdropWhile (fun c => c == '\n')) ++ [[]]) := by
  rw [PortMatched] at nowhere
  simp only [portContent]
  rw [if_neg nowhere,append_assoc,append_assoc,singleton_append,linesEnd,linesPortLine positive,singleton_append,linesEnd]
  rfl

def lineEnds (content : List Char) : Nat := (content.rtakeWhile (fun c => c == '\n')).length

theorem trimmedEnd (content : List Char) : content = content.rdropWhile (fun c => c == '\n') ++ List.replicate (lineEnds content) '\n' := by
  have ends : content.reverse.takeWhile (fun c => c == '\n') = List.replicate (lineEnds content) '\n' := by
    rw [lineEnds,List.rtakeWhile,length_reverse]
    exact eq_replicate_of_mem (fun c member => by simpa using mem_takeWhile_imp member)
  have back : content.reverse = content.reverse.takeWhile (fun c => c == '\n') ++ content.reverse.dropWhile (fun c => c == '\n') :=
    takeWhile_append_dropWhile.symm
  have whole := congrArg List.reverse back
  rw [reverse_reverse,reverse_append,ends,reverse_replicate] at whole
  exact whole

theorem linesBlank (s : List Char) (k : Nat) : lines (s ++ List.replicate k '\n') = lines s ++ List.replicate k [] := by
  induction k with
  | zero => simp
  | succ k ih =>
    rw [replicate_succ',← append_assoc,linesEnd,ih,replicate_succ',append_assoc]
    rfl

theorem freshLines (positive : 1 ≤ port) : lines (portContent port none) = portLine port :: lines "FLAGS=\"\"\n".toList := by
  rw [← singleton_append,← linesPortLine positive]
  exact linesEnd (portLine port) "FLAGS=\"\"\n".toList

theorem linesTrimmed (content : List Char) :
    lines content = lines (content.rdropWhile (fun c => c == '\n')) ++ List.replicate (lineEnds content) [] := by
  rw [← linesBlank,← trimmedEnd]

theorem effectiveLast (content : List Char) : effectivePort content = ((assigning content).getLast?).bind portValue := by
  unfold effectivePort assigning
  induction lines content using List.reverseRecOn with
  | nil => rfl
  | append_singleton rest line ih =>
    rw [filterMap_append,filter_append]
    cases value : portValue line with
    | none => simpa [value] using ih
    | some v => simp [value]

theorem matchedAssigning (positive : 1 ≤ port) (here : PortMatched content) :
    assigning (portContent port (some content)) = (assigning content).map (replacePort port) := by
  rw [assigning,assigning,matchedLines positive here,filter_map]
  congr 1
  exact filter_congr (fun line _ => replacedAssigns port line)

theorem portLineAssigns (port : Int) : portValue (portLine port) = some (unquoted ('"' :: ((toString port).toList ++ ['"']))) := by
  have shape := portLineAppend port []
  rw [append_nil] at shape
  rw [shape,quotedValue]
  rfl

theorem unmatchedAssigning (positive : 1 ≤ port) (nowhere : ¬ PortMatched content) :
    assigning (portContent port (some content)) = portLine port :: assigning content := by
  have blank : (portValue []).isSome = false := rfl
  have first : (portValue (portLine port)).isSome = true := by rw [portLineAssigns]; rfl
  rw [assigning,assigning,unmatchedLines positive nowhere,linesTrimmed content]
  simp [first,blank]

/- What the last assignment of the old file must be: the quoted form with nothing after it, or the
port itself in a form the pattern does not match. -/
def Settles (port : Int) (line : List Char) : Prop :=
  match matchPort line with
  | some (_,after) => ∀ c ∈ after, envBlank c = true
  | none => portValue line = some (toString port).toList

theorem replacedSettles (positive : 1 ≤ port) (line : List Char) :
    portValue (replacePort port line) = some (toString port).toList ↔ Settles port line := by
  unfold Settles
  cases found : matchPort line with
  | none => rw [replacedOther found]
  | some pair =>
    obtain ⟨ds,after⟩ := pair
    simp only [replacePort,found,portLineAppend,quotedValue,Option.some.injEq]
    rw [unquotedExact (portDigitsDecimal positive),rdropWhile_eq_nil_iff]

theorem portLineSettled (positive : 1 ≤ port) : portValue (portLine port) = some (toString port).toList := by
  rw [portLineAssigns,(unquotedExact (portDigitsDecimal positive) []).mpr rfl]

theorem matchedAssigned {line : List Char} (member : line ∈ lines content) {found : List Char × List Char} (here : matchPort line = some found) :
    line ∈ assigning content :=
  mem_filter.mpr ⟨member,assignedMatched here⟩

theorem unmatchedLast {line : List Char} (nowhere : ¬ PortMatched content) (last : (assigning content).getLast? = some line) : matchPort line = none := by
  have member := (mem_filter.mp (mem_of_getLast? last)).1
  cases found : matchPort line with
  | none => rfl
  | some pair =>
    refine absurd ?_ nowhere
    exact any_eq_true.mpr ⟨line,member,by rw [found]; rfl⟩

theorem effectiveIff (positive : 1 ≤ port) (content : List Char) :
    effectivePort (portContent port (some content)) = some (toString port).toList ↔
      ∀ line, (assigning content).getLast? = some line → Settles port line := by
  rw [effectiveLast]
  by_cases here : PortMatched content
  · rw [matchedAssigning positive here,getLast?_map]
    cases last : (assigning content).getLast? with
    | none =>
      obtain ⟨line,member,found⟩ := any_eq_true.mp here
      obtain ⟨pair,matched⟩ := Option.isSome_iff_exists.mp found
      have assigned := matchedAssigned member matched
      rw [getLast?_eq_none_iff.mp last] at assigned
      contradiction
    | some line => simpa using replacedSettles positive line
  · rw [unmatchedAssigning positive here]
    cases last : (assigning content).getLast? with
    | none =>
      rw [getLast?_eq_none_iff.mp last]
      simpa using portLineSettled positive
    | some line =>
      have final : (portLine port :: assigning content).getLast? = some line := by
        rw [getLast?_cons,last]
        rfl
      have same := replacedSettles positive line
      rw [replacedOther (unmatchedLast here last)] at same
      rw [final]
      simpa using same

theorem readWritten (positive : 1 ≤ port) (small : port ≤ maxPort) (file : Option (List Char)) :
    readPortFromFile (some (portContent port file)) = port := by
  have read : number 10 (toString port).toList = some port.toNat := by
    rw [portDigits positive]
    exact numberToDigits (by decide) (by decide) _
  have range : ¬ ((port.toNat : Int) < 1 ∨ maxPort < port.toNat) := by omega
  have first (rest : List (List Char)) : (portLine port :: rest).findSome? matchPort = some ((toString port).toList,[]) := by
    have shape := portLineAppend port []
    rw [append_nil] at shape
    rw [findSome?_cons,shape,matchPortQuoted (portDigitsFilled positive) (portDigitsDecimal positive)]
  have found : ∃ after, (lines (portContent port file)).findSome? matchPort = some ((toString port).toList,after) := by
    cases file with
    | none =>
      exact ⟨[],by rw [freshLines positive,first]⟩
    | some content =>
      by_cases here : PortMatched content
      · have each : matchPort ∘ replacePort port = Option.map (fun found => ((toString port).toList,found.2)) ∘ matchPort :=
          funext (matchReplaced positive)
        obtain ⟨line,member,some_⟩ := any_eq_true.mp here
        obtain ⟨pair,matched⟩ := Option.isSome_iff_exists.mp (findSome?_isSome_iff.mpr ⟨line,member,some_⟩)
        rw [matchedLines positive here,findSome?_map,each,← map_findSome?,matched]
        exact ⟨pair.2,rfl⟩
      · exact ⟨[],by rw [unmatchedLines positive here,first]⟩
  obtain ⟨after,matched⟩ := found
  simp only [readPortFromFile,matched,read,if_neg range]
  omega

theorem textLinesSublist (content : List Char) : (textLines content).Sublist (lines content) := by
  unfold textLines
  split
  · exact dropLast_sublist _
  · exact List.Sublist.refl _

theorem textLinesEnded {front : List (List Char)} (ended : lines content = front ++ [[]]) : textLines content = front := by
  rw [textLines,ended,if_pos (getLast?_concat ..),dropLast_concat]

theorem replacedBlank (port : Int) (line : List Char) : replacePort port line = [] ↔ line = [] := by
  cases found : matchPort line with
  | none => rw [replacedOther found]
  | some pair =>
    obtain ⟨ds,after⟩ := pair
    have filled : line ≠ [] := by
      rw [(matchPortSource found).1]
      exact append_ne_nil_of_left_ne_nil (by decide) _
    simp [replacePort,found,portLine,filled]

theorem matchedTextLines (positive : 1 ≤ port) (here : PortMatched content) :
    textLines (portContent port (some content)) = (textLines content).map (replacePort port) := by
  have ends : (lines (portContent port (some content))).getLast? = some [] ↔ (lines content).getLast? = some [] := by
    rw [matchedLines positive here,getLast?_map,Option.map_eq_some_iff]
    simp [replacedBlank]
  unfold textLines
  by_cases last : (lines content).getLast? = some []
  · rw [if_pos last,if_pos (ends.mpr last),matchedLines positive here,map_dropLast]
  · rw [if_neg last,if_neg (fun known => last (ends.mp known)),matchedLines positive here]

theorem keepsSome {new : List Char} :
    KeepsLines (some content) new ↔ ((textLines content).filter (fun line => (portValue line).isNone)).Sublist (textLines new) := by
  constructor
  · exact fun keeps => keeps content rfl
  · intro kept other same
    cases same
    exact kept

theorem keptMatched (positive : 1 ≤ port) (here : PortMatched content) : KeepsLines (some content) (portContent port (some content)) := by
  rw [keepsSome,matchedTextLines positive here]
  have same : ((textLines content).filter (fun line => (portValue line).isNone)).map (replacePort port) =
      (textLines content).filter (fun line => (portValue line).isNone) := by
    refine (map_congr_left ?_).trans (map_id _)
    intro line member
    have silent := (mem_filter.mp member).2
    cases found : matchPort line with
    | none => exact replacedOther found port
    | some pair =>
      have assigned := assignedMatched found
      simp_all
  rw [← same]
  exact List.Sublist.map _ filter_sublist

theorem unmatchedTextLines (positive : 1 ≤ port) (nowhere : ¬ PortMatched content) :
    textLines (portContent port (some content)) = portLine port :: lines (content.rdropWhile (fun c => c == '\n')) := by
  have shape := unmatchedLines positive nowhere
  rw [← cons_append] at shape
  exact textLinesEnded shape

theorem keptUnmatched (positive : 1 ≤ port) (nowhere : ¬ PortMatched content) :
    KeepsLines (some content) (portContent port (some content)) ↔ lineEnds content ≤ 1 := by
  have old := linesTrimmed content
  rw [keepsSome,unmatchedTextLines positive nowhere]
  constructor
  · intro kept
    by_contra more
    obtain ⟨k,count⟩ : ∃ k, lineEnds content = k+2 := ⟨lineEnds content - 2,by omega⟩
    rw [count,replicate_succ',← append_assoc] at old
    have shape := textLinesEnded old
    have silent : (portValue (portLine port)).isNone = false := by rw [portLineAssigns]; rfl
    have fewer := (kept.filter (fun line => (portValue line).isNone)).length_le
    have blank : (portValue []).isNone = true := rfl
    rw [shape] at fewer
    simp [silent,blank] at fewer
  · intro few
    refine filter_sublist.trans (List.Sublist.cons _ ?_)
    rcases Nat.le_one_iff_eq_zero_or_eq_one.mp few with none_ | one
    · rw [none_,replicate_zero,append_nil] at old
      exact old ▸ textLinesSublist content
    · rw [one] at old
      rw [textLinesEnded old]

structure Suits (port : Int) (content : List Char) : Prop where
  last : ∀ line, (assigning content).getLast? = some line → Settles port line
  ending : PortMatched content ∨ lineEnds content ≤ 1

theorem writtenContent {writing : Writing} {d after : Defaults} (ran : WriteTailscaledPort writing port d = (none,after)) :
    after.file = some (portContent port d.file) := by
  simp only [WriteTailscaledPort,writeFile] at ran
  cases writing with
  | done =>
    cases ran
    rfl
  | refused _ | short _ _ => simp at ran

theorem writtenPortEffective {writing : Writing} {d after : Defaults} (positive : 1 ≤ port) (small : port ≤ maxPort)
    (ran : WriteTailscaledPort writing port d = (none,after)) : (readPortFromFile after.file = port ∧ ∃ content, after.file = some content ∧
        effectivePort content = some (toString port).toList ∧ KeepsLines d.file content) ↔
      ∀ content, d.file = some content → Suits port content := by
  rw [writtenContent ran,and_iff_right (readWritten positive small d.file)]
  cases d.file with
  | none =>
    refine iff_of_true ⟨_,rfl,?_,?_⟩ ?_
    · rw [effectivePort,freshLines positive,filterMap_cons_some (portLineSettled positive)]
      rfl
    · intro content absent
      contradiction
    · intro content absent
      contradiction
  | some content =>
    constructor
    · rintro ⟨new,same,effective,kept⟩ other shown
      cases same
      cases shown
      refine ⟨(effectiveIff positive content).mp effective,?_⟩
      by_cases here : PortMatched content
      · exact .inl here
      · exact .inr ((keptUnmatched positive here).mp kept)
    · intro suits
      obtain ⟨last,ending⟩ := suits content rfl
      refine ⟨_,rfl,(effectiveIff positive content).mpr last,?_⟩
      by_cases here : PortMatched content
      · exact keptMatched positive here
      · exact (keptUnmatched positive here).mpr (ending.resolve_left here)

end

theorem unquotedPortStays :
    WriteTailscaledPort .done 41642 ⟨some "PORT=41641\n".toList,none⟩ = (none,⟨some "PORT=\"41642\"\nPORT=41641\n".toList,some 41642⟩) ∧
      effectivePort "PORT=\"41642\"\nPORT=41641\n".toList = some "41641".toList := by decide +kernel

theorem writtenPortEffectiveQuoted : effectivePort "# port\nPORT=\"41642\"\nFLAGS=\"\"\n".toList = some "41642".toList := by
  have ran : WriteTailscaledPort .done 41642 ⟨some "# port\nPORT=\"41641\"\nFLAGS=\"\"\n".toList,none⟩ =
      (none,⟨some "# port\nPORT=\"41642\"\nFLAGS=\"\"\n".toList,some 41642⟩) := by decide +kernel
  have suits : Suits 41642 "# port\nPORT=\"41641\"\nFLAGS=\"\"\n".toList := by
    refine ⟨?_,.inl (by unfold PortMatched; decide +kernel)⟩
    intro line last
    have shown : (assigning "# port\nPORT=\"41641\"\nFLAGS=\"\"\n".toList).getLast? = some "PORT=\"41641\"".toList := by decide +kernel
    cases shown.symm.trans last
    intro c member
    contradiction
  obtain ⟨-,content,same,effective,-⟩ := (writtenPortEffective (by decide) (by decide) ran).mpr (fun content shown => Option.some.inj shown ▸ suits)
  cases same
  exact effective

section
variable {p q : Int} {file : Option (List Char)}

theorem portLineMatched (positive : 1 ≤ p) : matchPort (portLine p) = some ((toString p).toList,[]) := by
  rw [← append_nil (portLine p),portLineAppend]
  exact matchPortQuoted (portDigitsFilled positive) (portDigitsDecimal positive) []

theorem replacedTwice (positive : 1 ≤ p) (line : List Char) : replacePort q (replacePort p line) = replacePort q line := by
  rw [replacePort,matchReplaced positive]
  cases found : matchPort line with
  | none => simp only [Option.map_none,replacedOther found]
  | some pair => simp only [Option.map_some,replacePort,found]

theorem replacedNone {unmatched : List (List Char)} (nowhere : ∀ line ∈ unmatched, matchPort line = none) :
    unmatched.map (replacePort q) = unmatched :=
  (map_congr_left fun line member => replacedOther (nowhere line member) q).trans (map_id _)

theorem writtenTwice (first : 1 ≤ p) (second : 1 ≤ q) : portContent q (some (portContent p file)) = portContent q file := by
  have head : replacePort q (portLine p) = portLine q := by simp only [replacePort,portLineMatched first,append_nil]
  have started {rest : List (List Char)} (shape : lines (portContent p file) = portLine p :: rest) : PortMatched (portContent p file) := by
    rw [PortMatched,shape,any_cons,portLineMatched first]
    rfl
  have same : lines (portContent q (some (portContent p file))) = lines (portContent q file) := by
    cases file with
    | none =>
      have shape := freshLines first
      rw [matchedLines second (started shape),shape,freshLines second,map_cons,head]
      exact congrArg _ (replacedNone (by decide +kernel))
    | some content =>
      by_cases here : PortMatched content
      · have again : PortMatched (portContent p (some content)) := by
          rw [PortMatched,matchedLines first here,any_map]
          simp only [Function.comp_def,matchReplaced first,Option.isSome_map]
          exact here
        rw [matchedLines second again,matchedLines first here,matchedLines second here,map_map]
        exact map_congr_left fun line _ => replacedTwice first line
      · have shape := unmatchedLines first here
        rw [matchedLines second (started shape),shape,unmatchedLines second here,map_cons,head]
        refine congrArg _ (replacedNone fun line member => ?_)
        rcases mem_append.mp member with inside | blank
        · refine Option.not_isSome_iff_eq_none.mp (fun found => here (any_eq_true.mpr ⟨line,?_,found⟩))
          rw [linesTrimmed]
          exact mem_append_left _ inside
        · rw [mem_singleton.mp blank]
          rfl
  have texts := congrArg (fun parts => ['\n'].intercalate parts) same
  simpa only [lines,intercalate_splitOn] using texts

end

theorem lastPortStands {ports : List Int} {last : Int} (earlier : ∀ p ∈ ports, 1 ≤ p) (least : 1 ≤ last) (d : Defaults) :
    (ports ++ [last]).foldl (fun d p => (WriteTailscaledPort .done p d).2) d = (WriteTailscaledPort .done last d).2 := by
  induction ports generalizing d with
  | nil => rfl
  | cons p rest ih =>
    rw [cons_append,foldl_cons,ih (fun q member => earlier q (mem_cons_of_mem p member))]
    simp only [WriteTailscaledPort,writeFile,writtenTwice (earlier p mem_cons_self) least]

theorem lastPortStandsFlags : [41642,41643].foldl (fun d p => (WriteTailscaledPort .done p d).2) ⟨some "FLAGS=\"\"".toList,none⟩ =
    ⟨some "PORT=\"41643\"\nFLAGS=\"\"\n".toList,some 41643⟩ := by
  refine (@lastPortStands [41642] 41643 (by decide) (by decide) _).trans ?_
  decide +kernel

end VpnPack.Service
