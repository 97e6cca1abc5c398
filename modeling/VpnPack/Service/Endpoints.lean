import VpnPack.Service.Settings

/-! The text of the relay endpoints. Reading and printing one endpoint follow
netip.ParseAddrPort and AddrPort.String; what netip says about a text it refuses is a
parameter. A zone is taken over character by character, blanks included. -/
namespace VpnPack.Service
open Base List Net

-- The last colon parts the address from the port; brackets mark an IPv6 address.
def splitAddrPort (s : List Char) : Option (List Char × List Char × Bool) :=
  match cutLast ':' s with
  | none => none
  | some (ip,port) =>
    if ip = [] ∨ port = [] then none
    else if ip.head? = some '[' then
      if ip.length < 2 ∨ ip.getLast? ≠ some ']' then none else some (ip.tail.dropLast,port,true)
    else some (ip,port,false)

-- strconv.ParseUint(port, 10, 16)
def parseUint16 (s : List Char) : Option UInt16 :=
  match number 10 s with
  | some n => if n < 65536 then some (UInt16.ofNat n) else none
  | none => none

def parseAddrPort (s : List Char) : Option AddrPort :=
  match splitAddrPort s with
  | none => none
  | some (ip,port,v6) =>
    match parseUint16 port,parseAddr ip with
    | some p,some a => if a.Is4 = v6 then none else some ⟨a,p⟩
    | _,_ => none

def ParseAddrPort (refusal : String → GoError) (s : String) : Except GoError AddrPort :=
  match parseAddrPort s.toList with
  | some ap => .ok ap
  | none => .error (refusal s)

def hostText (a : Addr) : List Char := if a.Is4 then a.text else '[' :: (a.text ++ [']'])

variable {s : List Char} {a : Addr} (ap : AddrPort)

theorem AddrPort.textChars : ap.text.toList = hostText ap.addr ++ ':' :: Nat.toDigits 10 ap.port.toNat := by
  have digits : (toString ap.port.toNat).toList = Nat.toDigits 10 ap.port.toNat := by simp [toString,Nat.repr]
  simp only [AddrPort.text,String.toList_append,digits,hostText]
  split <;> simp

theorem parseUint16ToDigits (port : UInt16) : parseUint16 (Nat.toDigits 10 port.toNat) = some port := by
  have small : port.toNat < 65536 := port.toNat_lt
  simp only [parseUint16,numberToDigits (by decide : 1 < 10) (by decide),if_pos small,UInt16.ofNat_toNat]

theorem dottedHead (v : BitVec 32) : ∃ c rest, dotted v = c :: rest ∧ c ≠ '[' ∧ isSpace c = false := by
  have plain : ∀ c ∈ digitChars, c ≠ '[' ∧ isSpace c = false := everyChar (by decide)
  cases shape : dotted v with
  | nil => exact absurd shape (by simp [dotted,octets,intercalate_cons_cons])
  | cons c rest =>
    refine ⟨c,rest,rfl,?_⟩
    rcases dottedChars v c (shape ▸ mem_cons_self) with digit | rfl
    · exact plain c digit
    · decide

theorem splitHost (a : Addr) {port : List Char} (clean : ':' ∉ port) (filled : port ≠ []) :
    splitAddrPort (hostText a ++ ':' :: port) = some (a.text,port,!a.Is4) := by
  rw [splitAddrPort,cutLastAppend _ clean]
  cases a with
  | v4 v =>
    obtain ⟨c,rest,shape,other,-⟩ := dottedHead v
    simp [hostText,Addr.Is4,Addr.text,shape,filled,other]
  | v6 v zone =>
    have closed (inner : List Char) : ('[' :: (inner ++ [']'])).getLast? = some ']' := by
      rw [← cons_append,getLast?_concat]
    simp [hostText,Addr.Is4,filled,closed]

theorem parseAddrPortText : parseAddrPort ap.text.toList = some ap := by
  have clean : ':' ∉ Nat.toDigits 10 ap.port.toNat := toDigitsAvoid (by decide) (by decide) _ (by decide)
  have differs : ¬ ap.addr.Is4 = !ap.addr.Is4 := by cases ap.addr.Is4 <;> decide
  simp only [parseAddrPort,ap.textChars,splitHost ap.addr clean Nat.toDigits_ne_nil,parseUint16ToDigits,parseText,if_neg differs]

theorem zoneChars (parsed : parseAddr s = some a) : a.zone.toList ⊆ s := by
  simp only [parseAddr] at parsed
  split at parsed
  · obtain ⟨v,-,rfl⟩ := Option.map_eq_some_iff.mp parsed
    simp [Addr.zone]
  · simp only [parseIPv6] at parsed
    split at parsed
    · obtain ⟨gs,-,rfl⟩ := Option.map_eq_some_iff.mp parsed
      simp [Addr.zone]
    · simp at parsed
    · rename_i percent zone _ found
      obtain ⟨gs,-,rfl⟩ := Option.map_eq_some_iff.mp parsed
      intro c member
      have inside : c ∈ s.dropWhile (fun c => c != '%') := by
        rw [found]
        exact mem_cons_of_mem percent (by simpa [Addr.zone] using member)
      exact (dropWhile_sublist _).subset inside
  · simp at parsed

theorem splitSubset {ip port : List Char} {v6 : Bool} (cut : splitAddrPort s = some (ip,port,v6)) : ip ⊆ s := by
  simp only [splitAddrPort] at cut
  cases found : cutLast ':' s with
  | none => simp [found] at cut
  | some parts =>
    obtain ⟨host,digits⟩ := parts
    have front : host ⊆ s := by
      rw [(cutLastShape.mp found).1]
      exact subset_append_left host _
    simp only [found] at cut
    split at cut
    · simp at cut
    · split at cut
      · split at cut
        · simp at cut
        · cases cut
          exact fun c member => front ((tail_sublist host).subset ((dropLast_sublist _).subset member))
      · cases cut
        exact front

theorem parsedSource {ap : AddrPort} (parsed : parseAddrPort s = some ap) : ap.addr.zone.toList ⊆ s := by
  simp only [parseAddrPort] at parsed
  split at parsed
  · simp at parsed
  · rename_i ip port v6 cut
    split at parsed
    · rename_i p a _ host
      split at parsed
      · simp at parsed
      · cases parsed
        exact fun c member => splitSubset cut (zoneChars host member)
    · simp at parsed

theorem addrComma (clean : ',' ∉ a.zone.toList) : ',' ∉ a.text := by
  intro comma
  cases a with
  | v4 v =>
    rcases dottedChars v ',' comma with digit | dot
    · exact absurd digit (by decide)
    · exact absurd dot (by decide)
  | v6 v zone =>
    rcases mem_append.mp comma with body | rest
    · rcases body6Chars v ',' body with digit | dot | colon
      · exact absurd digit (by decide)
      · exact absurd dot (by decide)
      · exact absurd colon (by decide)
    · split at rest
      · simp at rest
      · rcases mem_cons.mp rest with percent | inside
        · exact absurd percent (by decide)
        · exact clean inside

theorem textComma {ap : AddrPort} (clean : ',' ∉ ap.addr.zone.toList) : ',' ∉ ap.text.toList := by
  have host : ',' ∉ hostText ap.addr := by
    unfold hostText
    split
    · exact addrComma clean
    · simp [addrComma clean]
  have digits : ',' ∉ Nat.toDigits 10 ap.port.toNat := toDigitsAvoid (by decide) (by decide) _ (by decide)
  rw [ap.textChars]
  simp [host,digits]

theorem AddrPort.textFilled : ap.text.toList ≠ [] := by
  rw [ap.textChars]
  simp

theorem textTrimmed : trimSpace ap.text.toList = ap.text.toList := by
  have digits : ∀ c ∈ digitChars, isSpace c = false := everyChar (by decide)
  rw [ap.textChars]
  refine trimSpaceEnds ?_ ?_
  · intro c first
    cases host : ap.addr with
    | v4 v =>
      obtain ⟨d,rest,shape,-,plain⟩ := dottedHead v
      have same : d = c := by simpa [host,hostText,Addr.Is4,Addr.text,shape] using first
      exact same ▸ plain
    | v6 v zone =>
      have same : '[' = c := by simpa [host,hostText,Addr.Is4] using first
      exact same ▸ by decide
  · intro c last
    have member : c ∈ Nat.toDigits 10 ap.port.toNat := by
      rw [getLast?_append_of_ne_nil _ (by simp),getLast?_cons_of_ne_nil Nat.toDigits_ne_nil] at last
      exact mem_of_getLast? last
    exact digits c (toDigitsChars (by decide) (by decide) _ c member)

theorem parseEachSource {parse : String → Except GoError AddrPort} {parts : List (List Char)} {l : List AddrPort}
    (ran : parseEach parse parts = .ok l) : ∀ ap ∈ l, ∃ part ∈ parts, parse (String.ofList (trimSpace part)) = .ok ap := by
  induction parts generalizing l with
  | nil =>
    cases ran
    simp
  | cons part parts ih =>
    simp only [parseEach] at ran
    split at ran
    · intro ap member
      obtain ⟨other,inside,read⟩ := ih ran ap member
      exact ⟨other,mem_cons_of_mem part inside,read⟩
    · split at ran
      · simp at ran
      · rename_i first read
        split at ran
        · simp at ran
        · rename_i later rest
          cases ran
          intro ap member
          rcases mem_cons.mp member with rfl | inside
          · exact ⟨part,mem_cons_self,read⟩
          · obtain ⟨other,place,known⟩ := ih rest ap inside
            exact ⟨other,mem_cons_of_mem part place,known⟩

theorem parseEachTexts {refusal : String → GoError} {l : List AddrPort} {parts : List (List Char)}
    (texts : parts.map trimSpace = l.map (fun ap => ap.text.toList)) : parseEach (ParseAddrPort refusal) parts = .ok l := by
  induction l generalizing parts with
  | nil =>
    cases parts with
    | nil => rfl
    | cons part parts => simp at texts
  | cons ap l ih =>
    cases parts with
    | nil => simp at texts
    | cons part parts =>
      simp only [map_cons,List.cons.injEq] at texts
      have read : ParseAddrPort refusal (String.ofList ap.text.toList) = .ok ap := by
        simp only [ParseAddrPort,String.toList_ofList,parseAddrPortText]
      simp only [parseEach,texts.1,if_neg ap.textFilled,read,ih texts.2]

theorem joinBlanks (first : List Char) (rest : List (List Char)) :
    [',',' '].intercalate (first :: rest) = [','].intercalate (first :: rest.map (List.cons ' ')) := by
  induction rest generalizing first with
  | nil => rfl
  | cons next rest ih =>
    rw [map_cons,intercalate_cons_cons,intercalate_cons_cons,ih next]
    cases rest <;> simp [intercalate_cons_cons]

theorem formatSplit {l : List AddrPort} (filled : l ≠ []) (clean : ∀ ap ∈ l, ',' ∉ ap.text.toList) :
    ((FormatAddrPorts l).toList.splitOn ',').map trimSpace = l.map (fun ap => ap.text.toList) := by
  cases l with
  | nil => exact absurd rfl filled
  | cons ap l =>
    have chars : (FormatAddrPorts (ap :: l)).toList =
        [','].intercalate (ap.text.toList :: (l.map (fun ap => ap.text.toList)).map (List.cons ' ')) := by
      rw [← joinBlanks,FormatAddrPorts,String.toList_intercalate]
      simp [Function.comp_def]
    have noComma : ∀ part ∈ ap.text.toList :: (l.map (fun ap => ap.text.toList)).map (List.cons ' '), ',' ∉ part := by
      intro part member
      rcases mem_cons.mp member with rfl | later
      · exact clean ap mem_cons_self
      · simp only [map_map,mem_map,Function.comp_apply] at later
        obtain ⟨other,inside,rfl⟩ := later
        simp [clean other (mem_cons_of_mem ap inside)]
    rw [chars,splitOn_intercalate ',' noComma (by simp)]
    simp [textTrimmed,trimSpaceBlank]

theorem endpointsRoundTrip {refusal : String → GoError} {s : String} {l : List AddrPort}
    (parsed : ParseAddrPorts (ParseAddrPort refusal) s = .ok l) : ParseAddrPorts (ParseAddrPort refusal) (FormatAddrPorts l) = .ok l := by
  have clean : ∀ ap ∈ l, ',' ∉ ap.text.toList := by
    unfold ParseAddrPorts at parsed
    split at parsed
    · cases parsed
      simp
    · intro ap member
      obtain ⟨part,inside,read⟩ := parseEachSource parsed ap member
      simp only [ParseAddrPort,String.toList_ofList] at read
      split at read
      · rename_i found
        cases read
        refine textComma (fun comma => (splitOnPart inside).1 ?_)
        exact trimSpaceSubset (parsedSource found comma)
      · simp at read
  unfold ParseAddrPorts
  split
  · rename_i empty
    cases l with
    | nil => rfl
    | cons ap l =>
      have parts := formatSplit (cons_ne_nil ap l) clean
      rw [empty] at parts
      exact absurd (List.cons.inj parts).1.symm ap.textFilled
  · rename_i shown
    refine parseEachTexts (formatSplit ?_ clean)
    rintro rfl
    exact shown rfl

theorem endpointsRoundTripZone : ParseAddrPorts (ParseAddrPort .new) "1.2.3.4:0080,, [fe80::1%a b]:443 " =
        .ok [⟨.v4 0x01020304,80⟩,⟨.v6 0xfe800000000000000000000000000001 "a b",443⟩] ∧
      ParseAddrPorts (ParseAddrPort .new) (FormatAddrPorts [⟨.v4 0x01020304,80⟩,⟨.v6 0xfe800000000000000000000000000001 "a b",443⟩]) =
        .ok [⟨.v4 0x01020304,80⟩,⟨.v6 0xfe800000000000000000000000000001 "a b",443⟩] := by
  have parsed : ParseAddrPorts (ParseAddrPort .new) "1.2.3.4:0080,, [fe80::1%a b]:443 " =
      .ok [⟨.v4 0x01020304,80⟩,⟨.v6 0xfe800000000000000000000000000001 "a b",443⟩] := by decide +kernel
  exact ⟨parsed,endpointsRoundTrip parsed⟩

end VpnPack.Service
