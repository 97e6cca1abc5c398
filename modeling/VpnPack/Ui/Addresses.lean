import VpnPack.Exit.Rules
import VpnPack.Net.Grammar

/-! The address checks of the user interface beside the readers of the backend. The anchored
patterns are read as splits at their separators. Number is JavaScript's; of it only
what it answers for up to three decimal digits is known. -/
namespace VpnPack.Ui
open Exit List Net

inductive JsNumber where
  | finite (q : Rat)
  | other -- NaN or infinite
  deriving DecidableEq

structure JsNumbers where
  Number : List Char → JsNumber
  decimal : ∀ s n, s.length ≤ 3 → number 10 s = some n → Number s = .finite n

def OCTET_MAX : Rat := 255
def CIDR_PREFIX_MAX : Rat := 32

-- x >= 0 && x <= limit
def JsNumber.upTo (limit : Rat) : JsNumber → Bool
  | .finite q => decide (0 ≤ q ∧ q ≤ limit)
  | .other => false

def JsNumber.isInteger : JsNumber → Bool
  | .finite q => decide (q.den = 1)
  | .other => false

-- \d{1,most}
def digits (most : Nat) (s : List Char) : Bool := s ≠ [] ∧ s.length ≤ most ∧ s.all Char.isDigit
def dottedQuad (s : List Char) : Bool := (s.splitOn '.').length = 4 ∧ (s.splitOn '.').all (digits 3)
def octetsInRange (js : JsNumbers) (s : List Char) : Bool := (s.splitOn '.').all (fun o => (js.Number o).upTo OCTET_MAX)

def isValidCIDR (js : JsNumbers) (value : List Char) : Bool :=
  match cutFirst '/' value with
  | none => false
  | some (host,len) =>
    if dottedQuad host ∧ digits 2 len then octetsInRange js host && (js.Number len).upTo CIDR_PREFIX_MAX else false

-- addr.split('::')
def splitPairs : List Char → List (List Char)
  | ':' :: ':' :: rest => [] :: splitPairs rest
  | c :: rest => (splitPairs rest).modifyHead (List.cons c)
  | [] => [[]]

-- addr.replace('::', ':')
def replacePair : List Char → List Char
  | ':' :: ':' :: rest => ':' :: rest
  | c :: rest => c :: replacePair rest
  | [] => []

def hexChar (c : Char) : Bool := c.isDigit || ('a' ≤ c && c ≤ 'f') || ('A' ≤ c && c ≤ 'F')
def hexGroup (g : List Char) : Bool := g ≠ [] ∧ g.length ≤ 4 ∧ g.all hexChar
def addressGroups (addr : List Char) : List (List Char) := ((replacePair addr).splitOn ':').filter (fun g => g ≠ [])

def ipv6Address (js : JsNumbers) : List (List Char) → Bool
  | [] => false
  | addr :: rest =>
    if ':' ∉ addr then false
    else if rest.length = 1 ∧ ¬ ((js.Number (rest.headD [])).isInteger ∧ (js.Number (rest.headD [])).upTo 128) then false
    else if 1 < rest.length then false
    else if 2 < (splitPairs addr).length then false
    else (addressGroups addr).all hexGroup

def isValidIPOrCIDR (js : JsNumbers) (value : List Char) : Bool :=
  if value = [] then false
  else if isValidCIDR js value then true
  else if dottedQuad value then octetsInRange js value
  else ipv6Address js (value.splitOn '/')

def ProperHost (host : List Char) : Prop := if ':' ∈ host then IPv6Text host else ∀ o ∈ host.splitOn '.', ¬ LeadingZero o
def ProperLength (len : List Char) : Prop := ∃ n, number 10 len = some n ∧ n ≤ 128 ∧ ¬ LeadingZero len

/- Decimal numbers without leading zeros, and eight groups or fewer around one "::". -/
def Proper (s : List Char) : Prop :=
  match cutFirst '/' s with
  | none => ProperHost s
  | some (host,len) => ProperHost host ∧ ProperLength len

section
variable {js : JsNumbers} {s : List Char}

theorem digitDecimal {c : Char} (digit : c.isDigit = true) : ∃ d, digitValue c = some d ∧ d < 10 := by
  have range : '0' ≤ c ∧ c ≤ '9' := by simpa [Char.isDigit,Char.le_def] using digit
  refine ⟨c.toNat - '0'.toNat,by rw [digitValue,if_pos range],?_⟩
  have high : c.toNat ≤ '9'.toNat := range.2
  have shown : '9'.toNat = 57 := rfl
  have zero : '0'.toNat = 48 := rfl
  omega

theorem hexDigit {c : Char} (hex : hexChar c = true) : ∃ d, digitValue c = some d ∧ d < 16 := by
  simp only [hexChar,Bool.or_eq_true,Bool.and_eq_true,decide_eq_true_eq] at hex
  have bound {x : Char} (high : c ≤ x) : c.toNat ≤ x.toNat := high
  unfold digitValue
  split
  · rename_i decimal
    have high := bound decimal.2
    exact ⟨_,rfl,by simp only [Char.reduceToNat] at high ⊢; omega⟩
  · rename_i decimal
    split
    · rename_i lower
      have high := bound lower.2
      exact ⟨_,rfl,by simp only [Char.reduceToNat] at high ⊢; omega⟩
    · rename_i lower
      split
      · rename_i upper
        have high := bound upper.2
        exact ⟨_,rfl,by simp only [Char.reduceToNat] at high ⊢; omega⟩
      · rename_i upper
        rcases hex with (digit | low) | up
        · exact absurd (by simpa [Char.isDigit,Char.le_def] using digit) decimal
        · exact absurd low lower
        · exact absurd up upper

theorem digitsRead {most : Nat} (found : digits most s = true) : ∃ n, number 10 s = some n := by
  simp only [digits,decide_eq_true_eq,all_eq_true] at found
  obtain ⟨filled,-,every⟩ := found
  exact Option.isSome_iff_exists.mp (numberIff.mpr ⟨filled,fun c member => digitDecimal (every c member)⟩)

theorem digitsUpTo {most n : Nat} {limit : Nat} (found : digits most s = true) (short : most ≤ 3) (read : number 10 s = some n) :
    (js.Number s).upTo limit = true ↔ n ≤ limit := by
  simp only [digits,decide_eq_true_eq] at found
  rw [js.decimal s n (by omega) read]
  simp [JsNumber.upTo]

theorem groupParses {g : List Char} (hex : hexGroup g = true) : (parseGroup g).isSome = true := by
  simp only [hexGroup,decide_eq_true_eq,all_eq_true] at hex
  obtain ⟨filled,short,every⟩ := hex
  rw [parseGroup,if_pos short]
  exact numberIff.mpr ⟨filled,fun c member => hexDigit (every c member)⟩

end
section
variable {js : JsNumbers} {host len : List Char}

section
variable (quad : dottedQuad host = true)
include quad

theorem quadFields : (host.splitOn '.').length = 4 ∧ ∀ o ∈ host.splitOn '.', digits 3 o = true := by
  simpa only [dottedQuad,decide_eq_true_eq,all_eq_true] using quad

theorem quadSmall (range : octetsInRange js host = true) : ∀ o ∈ host.splitOn '.', ∃ n, number 10 o = some n ∧ n ≤ 255 := by
  intro o member
  have shape := (quadFields quad).2 o member
  obtain ⟨n,read⟩ := digitsRead shape
  have fits := all_eq_true.mp range o member
  exact ⟨n,read,(@digitsUpTo js o 3 n 255 shape (by decide) read).mp fits⟩

theorem quadChars : ∀ c ∈ host, c.isDigit = true ∨ c = '.' := by
  have each : ∀ o ∈ host.splitOn '.', ∀ c ∈ o, c.isDigit = true ∨ c = '.' := by
    intro o member c inside
    have shape := (quadFields quad).2 o member
    simp only [digits,decide_eq_true_eq,all_eq_true] at shape
    exact .inl (shape.2.2 c inside)
  have joined := intercalateChars (show ∀ c ∈ ['.'], c.isDigit = true ∨ c = '.' by simp) each
  rwa [intercalate_splitOn] at joined

theorem quadDot : '.' ∈ host := by
  by_contra none_
  have four := (quadFields quad).1
  rw [splitOn_eq_singleton none_] at four
  simp at four

theorem quadNoColon : ':' ∉ host := by
  intro colon
  rcases quadChars quad ':' colon with digit | dot
  · exact absurd digit (by decide)
  · exact absurd dot (by decide)

theorem quadSpecial (rest : List Char) : (host ++ rest).find? special = some '.' := by
  have present : (host.find? special).isSome := find?_isSome.mpr ⟨'.',quadDot quad,rfl⟩
  obtain ⟨c,found⟩ := Option.isSome_iff_exists.mp present
  have shape := find?_some found
  rw [find?_append,found]
  rcases quadChars quad c (mem_of_find?_eq_some found) with digit | rfl
  · exfalso
    simp only [special,Bool.or_eq_true,beq_iff_eq] at shape
    rcases shape with (rfl | rfl) | rfl <;> exact absurd digit (by decide)
  · rfl

theorem quadParses (range : octetsInRange js host = true) : (∃ v, parseAddr host = some (.v4 v)) ↔ ProperHost host := by
  have dispatch := quadSpecial quad []
  rw [append_nil] at dispatch
  rw [ProperHost,if_neg (quadNoColon quad),← parseIPv4Iff (quadFields quad).1 (quadSmall quad range)]
  simp only [parseAddr,dispatch,Option.map_eq_some_iff,Addr.v4.injEq,exists_eq_right,Option.isSome_iff_exists]

theorem quadAddr {a : Addr} (parsed : parseAddr host = some a) : ∃ v, a = .v4 v := by
  have dispatch := quadSpecial quad []
  rw [append_nil] at dispatch
  simp only [parseAddr,dispatch,Option.map_eq_some_iff] at parsed
  obtain ⟨v,-,rfl⟩ := parsed
  exact ⟨v,rfl⟩

end

theorem familyPrefix {host len : List Char} (clean : '/' ∉ len) (whole : parseAddr (host ++ '/' :: len) = none) :
    familyForAddr (host ++ '/' :: len) ≠ none ↔ ∃ a n, parseAddr host = some a ∧ parseBits len = some n ∧ n ≤ a.width ∧ a.zone = "" := by
  simp only [familyForAddr,parsePrefix,cutLastAppend host clean,whole,Option.map_none]
  cases front : parseAddr host with
  | none => simp
  | some a =>
    cases back : parseBits len with
    | none => simp
    | some n =>
      by_cases ok : n ≤ a.width ∧ a.zone = ""
      · simp [ok]
      · simp only [dif_neg ok]
        refine iff_of_false (fun known => known rfl) ?_
        rintro ⟨b,m,same,again,fits⟩
        cases same
        cases again
        exact ok fits

theorem familyAddr {s : List Char} (clean : '/' ∉ s) : familyForAddr s ≠ none ↔ ∃ a, parseAddr s = some a := by
  simp only [familyForAddr,parsePrefix,cutLastNone.mpr clean,Option.map_eq_none_iff,ne_eq,← Option.isSome_iff_exists,
    Option.isSome_iff_ne_none]

theorem properPrefix {host len : List Char} (clean : '/' ∉ host) : Proper (host ++ '/' :: len) ↔ ProperHost host ∧ ProperLength len := by
  simp only [Proper,cutFirstAppend len clean]

theorem properAddr {s : List Char} (clean : '/' ∉ s) : Proper s ↔ ProperHost s := by
  simp only [Proper,cutFirstNone.mpr clean]

theorem quadNoSlash (quad : dottedQuad host = true) : '/' ∉ host := by
  intro slash
  rcases quadChars quad '/' slash with digit | dot
  · exact absurd digit (by decide)
  · exact absurd dot (by decide)

theorem digitsNoSlash {most : Nat} (found : digits most len = true) : '/' ∉ len := by
  intro slash
  simp only [digits,decide_eq_true_eq,all_eq_true] at found
  exact absurd (found.2.2 _ slash) (by decide)

theorem quadPrefix (quad : dottedQuad host = true) (range : octetsInRange js host = true) (shape : digits 2 len = true)
    (limit : (js.Number len).upTo CIDR_PREFIX_MAX = true) : (familyForAddr (host ++ '/' :: len) ≠ none ↔ Proper (host ++ '/' :: len)) ∧
      (ProperHost host → parseCIDR (host ++ '/' :: len) ≠ none) := by
  obtain ⟨n,read⟩ := digitsRead shape
  have small : n ≤ 32 := (@digitsUpTo js len 2 n 32 shape (by decide) read).mp limit
  have whole : parseAddr (host ++ '/' :: len) = none := by
    have refused : parseIPv4Fields (host ++ '/' :: len) = none := parseIPv4Avoids (c := '/') rfl (by decide) (by simp)
    simp only [parseAddr,quadSpecial quad,refused,Option.map_none]
  have parses := quadParses quad range
  refine ⟨?_,?_⟩
  · rw [familyPrefix (digitsNoSlash shape) whole,properPrefix (quadNoSlash quad),← parses]
    constructor
    · rintro ⟨a,m,parsed,bits,-,-⟩
      obtain ⟨v,rfl⟩ := quadAddr quad parsed
      obtain ⟨same,plain⟩ := parseBitsIff.mp bits
      cases read.symm.trans same
      exact ⟨⟨v,parsed⟩,n,read,by omega,plain⟩
    · rintro ⟨⟨v,parsed⟩,m,same,-,plain⟩
      cases read.symm.trans same
      exact ⟨.v4 v,n,parsed,parseBitsIff.mpr ⟨read,plain⟩,small,rfl⟩
  · intro proper
    obtain ⟨v,parsed⟩ := parses.mpr proper
    have fits : n ≤ (Addr.v4 v).width ∧ (Addr.v4 v).zone = "" := ⟨small,rfl⟩
    simp [parseCIDR,cutFirstAppend len (quadNoSlash quad),parsed,read,fits]

theorem quadAlone (quad : dottedQuad host = true) (range : octetsInRange js host = true) : familyForAddr host ≠ none ↔ Proper host := by
  rw [familyAddr (quadNoSlash quad),properAddr (quadNoSlash quad),← quadParses quad range]
  constructor
  · rintro ⟨a,parsed⟩
    obtain ⟨v,rfl⟩ := quadAddr quad parsed
    exact ⟨v,parsed⟩
  · rintro ⟨v,parsed⟩
    exact ⟨_,parsed⟩

end
section
variable {js : JsNumbers} {addr len : List Char}

theorem replacePairSource (addr : List Char) :
    replacePair addr = addr ∨ ∃ before after, addr = before ++ ':' :: ':' :: after ∧ replacePair addr = before ++ ':' :: after := by
  fun_induction replacePair addr with
  | case1 rest => exact .inr ⟨[],rest,rfl,rfl⟩
  | case2 c rest _ ih =>
    rcases ih with same | ⟨before,after,shape,replaced⟩
    · exact .inl (by rw [same])
    · exact .inr ⟨c :: before,after,by rw [shape]; rfl,by rw [replaced]; rfl⟩
  | case3 => exact .inl rfl

theorem groupsOfFields (addr : List Char) : addressGroups addr = (addr.splitOn ':').filter (fun g => g ≠ []) := by
  unfold addressGroups
  rcases replacePairSource addr with same | ⟨before,after,shape,replaced⟩
  · rw [same]
  · have empty : (':' :: after).splitOn ':' = [] :: after.splitOn ':' := splitOn_append_cons_self [] after
    rw [replaced,shape,splitOn_append_cons_self,splitOn_append_cons_self,empty]
    simp

theorem fieldsHex (hex : (addressGroups addr).all hexGroup = true) : ∀ g ∈ addr.splitOn ':', g ≠ [] → hexGroup g = true := by
  rw [groupsOfFields,all_eq_true] at hex
  exact fun g member filled => hex g (mem_filter.mpr ⟨member,by simpa using filled⟩)

theorem colonChars (hex : (addressGroups addr).all hexGroup = true) : ∀ c ∈ addr, hexChar c = true ∨ c = ':' := by
  have each : ∀ g ∈ addr.splitOn ':', ∀ c ∈ g, hexChar c = true ∨ c = ':' := by
    intro g member c inside
    have found := fieldsHex hex g member (ne_nil_of_mem inside)
    simp only [hexGroup,decide_eq_true_eq,all_eq_true] at found
    exact .inl (found.2.2 c inside)
  have joined := intercalateChars (show ∀ c ∈ [':'], hexChar c = true ∨ c = ':' by simp) each
  rwa [intercalate_splitOn] at joined

theorem colonAvoids (hex : (addressGroups addr).all hexGroup = true) {c : Char} (stranger : hexChar c = false) (other : c ≠ ':') : c ∉ addr := by
  intro member
  rcases colonChars hex c member with found | same
  · rw [stranger] at found
    contradiction
  · exact other same

theorem colonSpecial (colon : ':' ∈ addr) (hex : (addressGroups addr).all hexGroup = true) (rest : List Char) :
    (addr ++ rest).find? special = some ':' := by
  have present : (addr.find? special).isSome := find?_isSome.mpr ⟨':',colon,rfl⟩
  obtain ⟨c,found⟩ := Option.isSome_iff_exists.mp present
  have shape := find?_some found
  have member := mem_of_find?_eq_some found
  rw [find?_append,found]
  simp only [special,Bool.or_eq_true,beq_iff_eq] at shape
  rcases shape with (rfl | rfl) | rfl
  · exact absurd member (colonAvoids hex rfl (by decide))
  · rfl
  · exact absurd member (colonAvoids hex rfl (by decide))

theorem noPercent (hex : (addressGroups addr).all hexGroup = true) : ∀ c ∈ addr, (c != '%') = true := by
  intro c member
  rw [bne_iff_ne]
  rintro rfl
  exact colonAvoids hex rfl (by decide) member

section
variable (colon : ':' ∈ addr) (hex : (addressGroups addr).all hexGroup = true)
include colon hex

theorem colonAddr : parseAddr addr = (parseIPv6Groups addr).map (fun gs => .v6 (BitVec.ofNat 128 (fromDigits 65536 gs)) "") := by
  have dispatch := colonSpecial colon hex []
  rw [append_nil] at dispatch
  have zoneless : addr.dropWhile (fun c => c != '%') = [] := dropWhile_eq_nil_iff.mpr (noPercent hex)
  simp only [parseAddr,dispatch,parseIPv6,zoneless]

theorem colonParses : (∃ v, parseAddr addr = some (.v6 v "")) ↔ ProperHost addr := by
  have plain : '.' ∉ addr := colonAvoids hex rfl (by decide)
  have text : (parseIPv6Groups addr).isSome = true ↔ IPv6Text addr :=
    ⟨parsedText plain,fun text => textParses text (fun g member filled => groupParses (fieldsHex hex g member filled))⟩
  rw [ProperHost,if_pos colon,← text,colonAddr colon hex]
  cases parseIPv6Groups addr <;> simp

theorem colonAddrZone {a : Addr} (parsed : parseAddr addr = some a) : ∃ v, a = .v6 v "" := by
  rw [colonAddr colon hex,Option.map_eq_some_iff] at parsed
  obtain ⟨gs,-,rfl⟩ := parsed
  exact ⟨_,rfl⟩

theorem colonWhole (len : List Char) : parseAddr (addr ++ '/' :: len) = none := by
  have refused {host : List Char} (slash : '/' ∈ host) : parseIPv6Groups host = none :=
    parseIPv6Avoids (c := '/') rfl (by decide) (by decide) slash
  have front : '/' ∈ (addr ++ '/' :: len).takeWhile (fun c => c != '%') := by
    rw [takeWhile_append_of_pos (noPercent hex),takeWhile_cons_of_pos (by decide)]
    simp
  simp only [parseAddr,colonSpecial colon hex,parseIPv6]
  split
  · rw [refused (by simp)]
    rfl
  · rfl
  · rw [refused front]
    rfl

theorem colonPrefix (clean : '/' ∉ len) : familyForAddr (addr ++ '/' :: len) ≠ none ↔ Proper (addr ++ '/' :: len) := by
  have slash : '/' ∉ addr := colonAvoids hex rfl (by decide)
  rw [familyPrefix clean (colonWhole colon hex len),properPrefix slash,← colonParses colon hex]
  constructor
  · rintro ⟨a,n,parsed,bits,fits,-⟩
    obtain ⟨v,rfl⟩ := colonAddrZone colon hex parsed
    obtain ⟨read,plain⟩ := parseBitsIff.mp bits
    exact ⟨⟨v,parsed⟩,n,read,fits,plain⟩
  · rintro ⟨⟨v,parsed⟩,n,read,fits,plain⟩
    exact ⟨.v6 v "",n,parsed,parseBitsIff.mpr ⟨read,plain⟩,fits,rfl⟩

theorem colonAlone : familyForAddr addr ≠ none ↔ Proper addr := by
  have slash : '/' ∉ addr := colonAvoids hex rfl (by decide)
  rw [familyAddr slash,properAddr slash,← colonParses colon hex]
  constructor
  · rintro ⟨a,parsed⟩
    obtain ⟨v,rfl⟩ := colonAddrZone colon hex parsed
    exact ⟨v,parsed⟩
  · rintro ⟨v,parsed⟩
    exact ⟨_,parsed⟩

end

theorem ipv6Source {value : List Char} (accepted : ipv6Address js (value.splitOn '/') = true) :
    ∃ addr, ':' ∈ addr ∧ (addressGroups addr).all hexGroup = true ∧ (value = addr ∨ ∃ len, '/' ∉ len ∧ value = addr ++ '/' :: len) := by
  have joined : ['/'].intercalate (value.splitOn '/') = value := intercalate_splitOn '/'
  have clean : ∀ part ∈ value.splitOn '/', '/' ∉ part := fun part member => (Base.splitOnPart member).1
  cases parts : value.splitOn '/' with
  | nil => exact absurd parts (splitOn_ne_nil '/' value)
  | cons addr rest =>
    rw [parts] at joined clean accepted
    simp only [ipv6Address] at accepted
    split at accepted
    · simp at accepted
    · rename_i colon
      split at accepted
      · simp at accepted
      · split at accepted
        · simp at accepted
        · rename_i few
          split at accepted
          · simp at accepted
          · refine ⟨addr,not_not.mp colon,accepted,?_⟩
            cases rest with
            | nil => exact .inl (by simpa using joined.symm)
            | cons len more =>
              have single : more = [] := by
                cases more with
                | nil => rfl
                | cons next more => simp at few
              subst single
              exact .inr ⟨len,clean len (by simp),by simpa using joined.symm⟩

end
section
variable {js : JsNumbers} {value : List Char}

theorem cidrSource (accepted : isValidCIDR js value = true) :
    ∃ host len, value = host ++ '/' :: len ∧ dottedQuad host = true ∧ octetsInRange js host = true ∧ digits 2 len = true ∧
      (js.Number len).upTo CIDR_PREFIX_MAX = true := by
  simp only [isValidCIDR] at accepted
  split at accepted
  · simp at accepted
  · rename_i host len cut
    split at accepted
    · rename_i shape
      obtain ⟨range,limit⟩ := Bool.and_eq_true_iff.mp accepted
      exact ⟨host,len,(cutFirstShape.mp cut).1,shape.1,range,shape.2,limit⟩
    · simp at accepted

theorem acceptedFamily (accepted : isValidIPOrCIDR js value = true) : familyForAddr value ≠ none ↔ Proper value := by
  simp only [isValidIPOrCIDR] at accepted
  split at accepted
  · simp at accepted
  · split at accepted
    · rename_i cidr
      obtain ⟨host,len,rfl,quad,range,shape,limit⟩ := cidrSource cidr
      exact (quadPrefix quad range shape limit).1
    · split at accepted
      · rename_i quad
        exact quadAlone quad accepted
      · obtain ⟨addr,colon,hex,rfl | ⟨len,clean,rfl⟩⟩ := ipv6Source accepted
        · exact colonAlone colon hex
        · exact colonPrefix colon hex clean

theorem cidrAccepted (cidr : isValidCIDR js value = true) : isValidIPOrCIDR js value = true := by
  have filled : value ≠ [] := by
    rintro rfl
    simp [isValidCIDR,cutFirst] at cidr
  simp only [isValidIPOrCIDR,if_neg filled,cidr,if_true]

theorem acceptedByBackend (js : JsNumbers) (value : List Char) :
    ((isValidIPOrCIDR js value = true → familyForAddr value ≠ none) ∧ (isValidCIDR js value = true → parseCIDR value ≠ none)) ↔
      (isValidIPOrCIDR js value = true → Proper value) := by
  constructor
  · rintro ⟨family,-⟩ accepted
    exact (acceptedFamily accepted).mp (family accepted)
  · intro proper
    refine ⟨fun accepted => (acceptedFamily accepted).mpr (proper accepted),?_⟩
    intro cidr
    have form := proper (cidrAccepted cidr)
    obtain ⟨host,len,rfl,quad,range,shape,limit⟩ := cidrSource cidr
    exact (quadPrefix quad range shape limit).2 ((properPrefix (quadNoSlash quad)).mp form).1

end

def plainNumbers : JsNumbers where
  Number s :=
    match number 10 s with
    | some n => .finite n
    | none => .other
  decimal s n _ read := by simp only [read]

theorem uiAcceptsMore : isValidIPOrCIDR plainNumbers ":".toList = true ∧ familyForAddr ":".toList = none ∧
      isValidIPOrCIDR plainNumbers "1.2.3.4/08".toList = true ∧ familyForAddr "1.2.3.4/08".toList = none ∧
      isValidCIDR plainNumbers "010.0.0.0/8".toList = true ∧ parseCIDR "010.0.0.0/8".toList = none := by decide +kernel

end VpnPack.Ui
