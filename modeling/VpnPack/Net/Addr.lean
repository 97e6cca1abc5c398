import Mathlib.Data.List.TakeWhile
import Mathlib.Tactic.IntervalCases
import VpnPack.Base.Text

/-! Textual IP addresses after Go's net/netip: what ParseAddr accepts and what Addr.String
prints. An address is its value in network order; an IPv6 address may carry a zone. -/
namespace VpnPack.Net
open List

def digitValue (c : Char) : Option Nat :=
  if '0' ≤ c ∧ c ≤ '9' then some (c.toNat - '0'.toNat)
  else if 'a' ≤ c ∧ c ≤ 'f' then some (c.toNat - 'a'.toNat + 10)
  else if 'A' ≤ c ∧ c ≤ 'F' then some (c.toNat - 'A'.toNat + 10)
  else none

def readDigits (base : Nat) : Nat → List Char → Option Nat
  | n,[] => some n
  | n,c :: rest =>
    match digitValue c with
    | none => none
    | some d => if d < base then readDigits base (n*base+d) rest else none

def number (base : Nat) (s : List Char) : Option Nat :=
  if s = [] then none else readDigits base 0 s

theorem digitValueDigitChar {d : Nat} (small : d < 16) : digitValue (Nat.digitChar d) = some d := by
  interval_cases d <;> decide

theorem readDigitsAppend (base n : Nat) (s t : List Char) :
    readDigits base n (s ++ t) = (readDigits base n s).bind (fun m => readDigits base m t) := by
  induction s generalizing n with
  | nil => rfl
  | cons c s ih =>
    simp only [cons_append,readDigits]
    cases digitValue c with
    | none => rfl
    | some d =>
      by_cases small : d < base
      · simp [small,ih]
      · simp [small]

variable {gs : List Nat} {base : Nat} {fields : List (List Char)}

theorem readDigitsToDigits (large : 1 < base) (hex : base ≤ 16) (n : Nat) : readDigits base 0 (Nat.toDigits base n) = some n := by
  induction n using Nat.strongRecOn with
  | ind n ih =>
    rw [Nat.toDigits_eq_if large]
    split
    · rename_i small
      simp [readDigits,digitValueDigitChar (Nat.lt_of_lt_of_le small hex),small]
    · rename_i big
      have shorter : n / base < n := Nat.div_lt_self (by omega) large
      have digit : n % base < base := Nat.mod_lt n (by omega)
      rw [readDigitsAppend,ih (n / base) shorter]
      simp [readDigits,digitValueDigitChar (Nat.lt_of_lt_of_le digit hex),digit,Nat.div_add_mod']

theorem numberToDigits {base : Nat} (large : 1 < base) (hex : base ≤ 16) (n : Nat) : number base (Nat.toDigits base n) = some n := by
  simp [number,Nat.toDigits_ne_nil,readDigitsToDigits large hex]

def digitChars : List Char := "0123456789abcdef".toList

theorem digitCharMem {d : Nat} (small : d < 16) : Nat.digitChar d ∈ digitChars := by
  interval_cases d <;> decide

theorem toDigitsChars (large : 1 < base) (hex : base ≤ 16) (n : Nat) : ∀ c ∈ Nat.toDigits base n, c ∈ digitChars := by
  induction n using Nat.strongRecOn with
  | ind n ih =>
    rw [Nat.toDigits_eq_if large]
    split
    · rename_i small
      intro c member
      rw [mem_singleton.mp member]
      exact digitCharMem (Nat.lt_of_lt_of_le small hex)
    · rename_i big
      intro c member
      rcases mem_append.mp member with front | last
      · exact ih (n / base) (Nat.div_lt_self (by omega) large) c front
      · rw [mem_singleton.mp last]
        exact digitCharMem (Nat.lt_of_lt_of_le (Nat.mod_lt n (by omega)) hex)

theorem toDigitsAvoid (large : 1 < base) (hex : base ≤ 16) (n : Nat) {c : Char} (other : c ∉ digitChars) : c ∉ Nat.toDigits base n :=
  fun member => other (toDigitsChars large hex n c member)

theorem digitsInj {m n : Nat} (same : Nat.toDigits 10 m = Nat.toDigits 10 n) : m = n := by
  have read := @numberToDigits 10 (by decide) (by decide) m
  rw [same,@numberToDigits 10 (by decide) (by decide) n] at read
  exact (Option.some.inj read).symm

theorem intTextToList (m : Int) : (toString m).toList = (if m < 0 then ['-'] else []) ++ Nat.toDigits 10 m.natAbs := by
  cases m with
  | ofNat n => simp [toString,Int.repr,Nat.repr]
  | negSucc n => simp [toString,Int.repr,Nat.repr,Int.negSucc_lt_zero]

theorem intTextAvoids {c : Char} (sign : c ≠ '-') (other : c ∉ digitChars) (m : Int) : c ∉ (toString m).toList := by
  have digits : c ∉ Nat.toDigits 10 m.natAbs := toDigitsAvoid (by decide) (by decide) _ other
  rw [intTextToList]
  split <;> simp [digits,sign]

theorem intTextInj {m n : Int} (same : toString m = toString n) : m = n := by
  have lists := congrArg String.toList same
  rw [intTextToList,intTextToList] at lists
  have noDash (k : Nat) : '-' ∉ Nat.toDigits 10 k := toDigitsAvoid (by decide) (by decide) _ (by decide)
  by_cases negM : m < 0 <;> by_cases negN : n < 0 <;>
    simp only [negM,negN,if_true,if_false,singleton_append,nil_append] at lists
  · have := digitsInj (List.cons.inj lists).2
    omega
  · exact absurd (lists ▸ mem_cons_self) (noDash n.natAbs)
  · exact absurd (lists.symm ▸ mem_cons_self) (noDash m.natAbs)
  · have := digitsInj lists
    omega

def fromDigits (base : Nat) (ds : List Nat) : Nat := ds.foldl (fun n d => n*base+d) 0

def octets (v : BitVec 32) : List Nat :=
  [v.toNat / 2^24 % 256,v.toNat / 2^16 % 256,v.toNat / 2^8 % 256,v.toNat % 256]

theorem fromOctets (v : BitVec 32) : BitVec.ofNat 32 (fromDigits 256 (octets v)) = v := by
  apply BitVec.eq_of_toNat_eq
  have bound := v.isLt
  simp only [fromDigits,octets,foldl_cons,foldl_nil,BitVec.toNat_ofNat]
  omega

def parseOctet (s : List Char) : Option Nat :=
  if 1 < s.length ∧ s.head? = some '0' then none
  else match number 10 s with
    | some n => if n ≤ 255 then some n else none
    | none => none

def parseIPv4Fields (s : List Char) : Option (BitVec 32) :=
  match (s.splitOn '.').mapM parseOctet with
  | some [a,b,c,d] => some (BitVec.ofNat 32 (fromDigits 256 [a,b,c,d]))
  | _ => none

def dotted (v : BitVec 32) : List Char := ['.'].intercalate ((octets v).map (Nat.toDigits 10))

theorem toDigitsHead {base n : Nat} (large : 1 < base) (hex : base ≤ 16)
    (long : 1 < (Nat.toDigits base n).length) : (Nat.toDigits base n).head? ≠ some '0' := by
  induction n using Nat.strongRecOn with
  | ind n ih =>
    rw [Nat.toDigits_eq_if large] at long ⊢
    split at long
    · simp at long
    · rename_i big
      have front : (Nat.toDigits base (n/base) ++ [Nat.digitChar (n % base)]).head? = (Nat.toDigits base (n/base)).head? := by
        cases shape : Nat.toDigits base (n/base) with
        | nil => exact absurd shape Nat.toDigits_ne_nil
        | cons c rest => rfl
      rw [if_neg big,front]
      by_cases single : (Nat.toDigits base (n/base)).length = 1
      ·
        have small : n/base < base := by
          have := (Nat.length_toDigits_le_iff large (Nat.zero_lt_one)).mp (Nat.le_of_eq single)
          simpa using this
        have positive : 0 < n/base := Nat.div_pos (by omega) (by omega)
        rw [Nat.toDigits_of_lt_base small]
        intro zero
        have shown : Nat.digitChar (n/base) = '0' := by simpa using zero
        have read := digitValueDigitChar (Nat.lt_of_lt_of_le small hex)
        rw [shown,show digitValue '0' = some 0 from rfl] at read
        have := Option.some.inj read
        omega
      · have positive := @Nat.length_toDigits_pos base (n/base)
        exact ih (n/base) (Nat.div_lt_self (by omega) large) (by omega)

theorem parseOctetToDigits {n : Nat} (small : n ≤ 255) : parseOctet (Nat.toDigits 10 n) = some n := by
  have shape : ¬ (1 < (Nat.toDigits 10 n).length ∧ (Nat.toDigits 10 n).head? = some '0') :=
    fun bad => toDigitsHead (by decide) (by decide) bad.1 bad.2
  simp [parseOctet,shape,numberToDigits,small]

theorem mapMOfForall {α β : Type} {f : α → Option β} {g : β → α} {bs : List β}
    (each : ∀ b ∈ bs, f (g b) = some b) : (bs.map g).mapM f = some bs := by
  induction bs with
  | nil => rfl
  | cons b bs ih =>
    simp [mapM_cons,each b mem_cons_self,ih (fun x member => each x (mem_cons_of_mem b member))]

theorem octetsSmall (v : BitVec 32) : ∀ n ∈ octets v, n ≤ 255 := by
  intro n member
  simp only [octets,mem_cons,not_mem_nil,or_false] at member
  omega

theorem parseDotted (v : BitVec 32) : parseIPv4Fields (dotted v) = some v := by
  have clean : ∀ s ∈ (octets v).map (Nat.toDigits 10), '.' ∉ s := by
    intro s member
    obtain ⟨n,_,rfl⟩ := mem_map.mp member
    exact toDigitsAvoid (by decide) (by decide) n (by decide)
  have fields := splitOn_intercalate '.' clean (by simp [octets])
  have read := mapMOfForall (fun n member => parseOctetToDigits (octetsSmall v n member))
  simp only [parseIPv4Fields,dotted,fields,read]
  exact congrArg some (fromOctets v)

def groups (v : BitVec 128) : List Nat :=
  [v.toNat / 2^112 % 65536,v.toNat / 2^96 % 65536,v.toNat / 2^80 % 65536,v.toNat / 2^64 % 65536,
    v.toNat / 2^48 % 65536,v.toNat / 2^32 % 65536,v.toNat / 2^16 % 65536,v.toNat % 65536]

variable {left right : List (List Char)} (v : BitVec 128)

theorem fromGroups : BitVec.ofNat 128 (fromDigits 65536 (groups v)) = v := by
  apply BitVec.eq_of_toNat_eq
  have bound := v.isLt
  simp only [fromDigits,groups,foldl_cons,foldl_nil,BitVec.toNat_ofNat]
  omega

theorem groupsSmall : ∀ g ∈ groups v, g < 65536 := by
  intro g member
  simp only [groups,mem_cons,not_mem_nil,or_false] at member
  omega

def parseGroup (s : List Char) : Option Nat := if s.length ≤ 4 then number 16 s else none

def parseGroups : List (List Char) → Option (List Nat)
  | [] => some []
  | [last] =>
    if '.' ∈ last then (parseIPv4Fields last).map (fun v => [v.toNat / 65536,v.toNat % 65536])
    else (parseGroup last).map (fun g => [g])
  | s :: next :: rest =>
    match parseGroup s,parseGroups (next :: rest) with
    | some g,some gs => some (g :: gs)
    | _,_ => none

def unpad (fields : List (List Char)) : List (List Char) := if fields = [[]] then [] else fields

def innerEllipsis : List (List Char) → Option (List (List Char) × List (List Char))
  | s :: [] :: next :: right => if s = [] then none else some ([s],unpad (next :: right))
  | s :: rest => if s = [] then none else (innerEllipsis rest).map (fun cut => (s :: cut.1,cut.2))
  | [] => none

def ellipsis : List (List Char) → Option (List (List Char) × List (List Char))
  | [] :: [] :: next :: right => some ([],unpad (next :: right))
  | fields => innerEllipsis fields

def parseIPv6Groups (s : List Char) : Option (List Nat) :=
  match ellipsis (s.splitOn ':') with
  | none =>
    match parseGroups (s.splitOn ':') with
    | some gs => if gs.length = 8 then some gs else none
    | none => none
  | some (left,right) =>
    match left.mapM parseGroup,parseGroups right with
    | some l,some r =>
      if l.length + r.length < 8 then some (l ++ List.replicate (8 - (l.length + r.length)) 0 ++ r) else none
    | _,_ => none

theorem parseGroupToDigits {g : Nat} (small : g < 65536) : parseGroup (Nat.toDigits 16 g) = some g := by
  have short : (Nat.toDigits 16 g).length ≤ 4 := (Nat.length_toDigits_le_iff (by decide) (by decide)).mpr (by simpa using small)
  simp [parseGroup,short,numberToDigits]

theorem parseGroupsToDigits (small : ∀ g ∈ gs, g < 65536) : parseGroups (gs.map (Nat.toDigits 16)) = some gs := by
  induction gs with
  | nil => rfl
  | cons g gs ih =>
    have head := parseGroupToDigits (small g mem_cons_self)
    have tail := ih (fun x member => small x (mem_cons_of_mem g member))
    cases gs with
    | nil =>
      have noDot : '.' ∉ Nat.toDigits 16 g := toDigitsAvoid (by decide) (by decide) g (by decide)
      simp [parseGroups,noDot,head]
    | cons next rest =>
      simp only [map_cons] at tail ⊢
      simp [parseGroups,head,tail]

def runAt (gs : List Nat) (start : Nat) : Nat := ((gs.drop start).takeWhile (fun g => g == 0)).length

def longerRun (gs : List Nat) (best : Option (Nat × Nat)) (start : Nat) : Option (Nat × Nat) :=
  if 2 ≤ runAt gs start ∧ (best.map Prod.snd).getD 0 < runAt gs start then some (start,runAt gs start) else best

def zeroRun (gs : List Nat) : Option (Nat × Nat) := (List.range 8).foldl (longerRun gs) none

theorem zeroRunSource {start len : Nat} (found : zeroRun gs = some (start,len)) : 2 ≤ len ∧ len = runAt gs start := by
  suffices general : ∀ (starts : List Nat) (best : Option (Nat × Nat)),(∀ i l, best = some (i,l) → 2 ≤ l ∧ l = runAt gs i) →
      ∀ i l, starts.foldl (longerRun gs) best = some (i,l) → 2 ≤ l ∧ l = runAt gs i from
    general _ none (by simp) start len found
  intro starts
  induction starts with
  | nil => intro best known i l same; exact known i l same
  | cons first rest ih =>
    intro best known i l same
    refine ih (longerRun gs best first) ?_ i l same
    intro i l same
    simp only [longerRun] at same
    split at same
    · rename_i longer
      cases same
      exact ⟨longer.1,rfl⟩
    · exact known i l same

theorem zerosThenRest (gs : List Nat) :
    gs = List.replicate (gs.takeWhile (fun g => g == 0)).length 0 ++ gs.drop (gs.takeWhile (fun g => g == 0)).length := by
  induction gs with
  | nil => rfl
  | cons g gs ih =>
    by_cases zero : g = 0
    · subst zero
      simpa [replicate_succ] using ih
    · simp [zero]

theorem runAtZeros (gs : List Nat) (start : Nat) :
    gs.drop start = List.replicate (runAt gs start) 0 ++ gs.drop (start + runAt gs start) := by
  rw [← drop_drop]
  exact zerosThenRest (gs.drop start)

def colons (gs : List Nat) : List Char := [':'].intercalate (gs.map (Nat.toDigits 16))

def text6 (gs : List Nat) : List Char :=
  match zeroRun gs with
  | none => colons gs
  | some (start,len) => colons (gs.take start) ++ [':',':'] ++ colons (gs.drop (start+len))

def sideFields (fields : List (List Char)) : List (List Char) := if fields = [] then [[]] else fields
def Filled (fields : List (List Char)) : Prop := ∀ s ∈ fields, s ≠ []

theorem sideNonempty (fields : List (List Char)) : sideFields fields ≠ [] := by
  cases fields <;> simp [sideFields]

theorem sideColons (fields : List (List Char)) : [':'].intercalate (sideFields fields) = [':'].intercalate fields := by
  cases fields <;> simp [sideFields]

theorem unpadSide (filled : Filled fields) : unpad (sideFields fields) = fields := by
  cases fields with
  | nil => rfl
  | cons s rest =>
    have head : s ≠ [] := filled s mem_cons_self
    simp [sideFields,unpad,head]

theorem intercalateAppend (sep : List Char) {xs ys : List (List Char)} (left : xs ≠ []) (right : ys ≠ []) :
    sep.intercalate (xs ++ ys) = sep.intercalate xs ++ sep ++ sep.intercalate ys := by
  induction xs with
  | nil => exact absurd rfl left
  | cons x xs ih =>
    cases xs with
    | nil => simp [intercalate_cons_of_ne_nil right]
    | cons next rest =>
      have tail := ih (by simp)
      simp only [cons_append] at tail ⊢
      rw [intercalate_cons_cons,tail,intercalate_cons_cons]
      simp

theorem ellipsisText (left right : List (List Char)) :
    [':'].intercalate (sideFields left ++ [[]] ++ sideFields right) = [':'].intercalate left ++ [':',':'] ++ [':'].intercalate right := by
  rw [intercalateAppend _ (by simp) (sideNonempty right),intercalateAppend _ (sideNonempty left) (by simp)]
  simp [sideColons]

theorem innerEllipsisFields (some_ : left ≠ []) (filledLeft : Filled left) (filledRight : Filled right) :
    innerEllipsis (left ++ [[]] ++ sideFields right) = some (left,right) := by
  induction left with
  | nil => exact absurd rfl some_
  | cons s left ih =>
    have head : s ≠ [] := filledLeft s mem_cons_self
    cases left with
    | nil =>
      obtain ⟨next,rest,shape⟩ := exists_cons_of_ne_nil (sideNonempty right)
      have cut := unpadSide filledRight
      rw [shape] at cut
      simp [innerEllipsis,shape,head,cut]
    | cons next left =>
      have tail := ih (by simp) (fun x member => filledLeft x (mem_cons_of_mem s member))
      have inner : next ≠ [] := filledLeft next (by simp)
      simp only [cons_append] at tail ⊢
      rw [innerEllipsis,tail]
      · simp [head]
      · simp [inner]

theorem ellipsisFields (filledLeft : Filled left) (filledRight : Filled right) :
    ellipsis (sideFields left ++ [[]] ++ sideFields right) = some (left,right) := by
  cases left with
  | nil =>
    obtain ⟨next,rest,shape⟩ := exists_cons_of_ne_nil (sideNonempty right)
    have cut := unpadSide filledRight
    rw [shape] at cut
    have shown : sideFields [] = [[]] := rfl
    rw [shown,shape]
    simp [ellipsis,cut]
  | cons s left =>
    have inner := innerEllipsisFields (cons_ne_nil s left) filledLeft filledRight
    have head : s ≠ [] := filledLeft s mem_cons_self
    have shown : sideFields (s :: left) = s :: left := by simp [sideFields]
    rw [shown,ellipsis,inner]
    simp [head]

def padded (gs : List Nat) : List (List Char) := if gs = [] then [[]] else gs.map (Nat.toDigits 16)

theorem paddedSide (gs : List Nat) : padded gs = sideFields (gs.map (Nat.toDigits 16)) := by
  cases gs <;> simp [padded,sideFields]

theorem hexFilled (gs : List Nat) : Filled (gs.map (Nat.toDigits 16)) := by
  intro s member
  obtain ⟨g,_,rfl⟩ := mem_map.mp member
  exact Nat.toDigits_ne_nil

theorem noEllipsis (filled : Filled fields) : ellipsis fields = none := by
  have inner : ∀ rest : List (List Char), (∀ s ∈ rest, s ≠ []) → innerEllipsis rest = none := by
    intro rest
    induction rest with
    | nil => intro _; rfl
    | cons s rest ih =>
      intro filled
      have tail := ih (fun x member => filled x (mem_cons_of_mem s member))
      rw [innerEllipsis,tail]
      · simp
      · intro next right shape
        exact filled [] (by simp [shape]) rfl
  rw [ellipsis]
  · exact inner fields filled
  · intro next right shape
    exact filled [] (by simp [shape]) rfl

theorem parseText6 (eight : gs.length = 8) (small : ∀ g ∈ gs, g < 65536) : parseIPv6Groups (text6 gs) = some gs := by
  have noColon (xs : List Nat) : ∀ s ∈ xs.map (Nat.toDigits 16), ':' ∉ s := by
    intro s member
    obtain ⟨g,_,rfl⟩ := mem_map.mp member
    exact toDigitsAvoid (by decide) (by decide) g (by decide)
  have noColonPadded (xs : List Nat) : ∀ s ∈ padded xs, ':' ∉ s := by
    cases xs with
    | nil => simp [padded]
    | cons g xs => simpa only [padded,reduceCtorEq,if_false] using noColon (g :: xs)
  simp only [text6]
  cases found : zeroRun gs with
  | none =>
    have fields : (colons gs).splitOn ':' = gs.map (Nat.toDigits 16) := splitOn_intercalate ':' (noColon gs) (by intro empty; simp_all)
    simp [parseIPv6Groups,fields,noEllipsis (hexFilled gs),parseGroupsToDigits small,eight]
  | some run =>
    obtain ⟨start,len⟩ := run
    obtain ⟨long,exact⟩ := zeroRunSource found
    have shape := runAtZeros gs start
    rw [← exact] at shape
    have whole : gs = gs.take start ++ (List.replicate len 0 ++ gs.drop (start+len)) := by
      rw [← shape,take_append_drop]
    have fields : (colons (gs.take start) ++ [':',':'] ++ colons (gs.drop (start+len))).splitOn ':' =
        padded (gs.take start) ++ [[]] ++ padded (gs.drop (start+len)) := by
      rw [colons,colons,← ellipsisText,← paddedSide,← paddedSide]
      refine splitOn_intercalate ':' ?_ (by simp)
      intro s member
      rcases mem_append.mp member with front | back
      · rcases mem_append.mp front with left | middle
        · exact noColonPadded _ s left
        · rw [mem_singleton.mp middle]; simp
      · exact noColonPadded _ s back
    have smallLeft : ∀ g ∈ gs.take start, g < 65536 := fun g member => small g (mem_of_mem_take member)
    have smallRight : ∀ g ∈ gs.drop (start+len), g < 65536 := fun g member => small g (mem_of_mem_drop member)
    have left := mapMOfForall (fun g member => parseGroupToDigits (smallLeft g member))
    have right := parseGroupsToDigits smallRight
    have count : (gs.take start).length + (gs.drop (start+len)).length + len = 8 := by
      have := congrArg List.length whole
      simp only [length_append,length_replicate] at this
      omega
    have missing : 8 - ((gs.take start).length + (gs.drop (start+len)).length) = len := by omega
    have room : (gs.take start).length + (gs.drop (start+len)).length < 8 := by omega
    simp only [parseIPv6Groups,fields,paddedSide,ellipsisFields (hexFilled _) (hexFilled _),left,right,if_pos room,missing]
    rw [append_assoc,← whole]

inductive Addr where
  | v4 (value : BitVec 32)
  | v6 (value : BitVec 128) (zone : String)
  deriving DecidableEq, Repr

def parseIPv6 (s : List Char) : Option Addr :=
  match s.dropWhile (fun c => c != '%') with
  | [] => (parseIPv6Groups s).map (fun gs => .v6 (BitVec.ofNat 128 (fromDigits 65536 gs)) "")
  | [_] => none
  | _ :: zone => (parseIPv6Groups (s.takeWhile (fun c => c != '%'))).map
      (fun gs => .v6 (BitVec.ofNat 128 (fromDigits 65536 gs)) (String.ofList zone))

def special (c : Char) : Bool := c == '.' || c == ':' || c == '%'

def parseAddr (s : List Char) : Option Addr :=
  match s.find? special with
  | some '.' => (parseIPv4Fields s).map .v4
  | some ':' => parseIPv6 s
  | _ => none

def is4In6 (v : BitVec 128) : Bool := v.toNat / 2^32 == 0xffff

def body6 (v : BitVec 128) : List Char :=
  if is4In6 v then "::ffff:".toList ++ dotted (BitVec.ofNat 32 v.toNat) else text6 (groups v)

def Addr.text : Addr → List Char
  | .v4 v => dotted v
  | .v6 v zone => body6 v ++ (if zone = "" then [] else '%' :: zone.toList)

def Addr.Is4 : Addr → Bool
  | .v4 _ => true
  | .v6 _ _ => false

def Addr.zone : Addr → String
  | .v4 _ => ""
  | .v6 _ zone => zone

def Addr.width : Addr → Nat
  | .v4 _ => 32
  | .v6 _ _ => 128

theorem intercalateChars {ok : Char → Prop} {sep : List Char}
    (sepOk : ∀ c ∈ sep, ok c) (each : ∀ s ∈ fields, ∀ c ∈ s, ok c) : ∀ c ∈ sep.intercalate fields, ok c := by
  induction fields with
  | nil => simp
  | cons s fields ih =>
    have tail := ih (fun x member => each x (mem_cons_of_mem s member))
    cases fields with
    | nil => simpa using each s mem_cons_self
    | cons next rest =>
      rw [intercalate_cons_cons]
      intro c member
      rcases mem_append.mp member with front | back
      · rcases mem_append.mp front with inside | inSep
        · exact each s mem_cons_self c inside
        · exact sepOk c inSep
      · exact tail c back

theorem dottedChars (v : BitVec 32) : ∀ c ∈ dotted v, c ∈ digitChars ∨ c = '.' := by
  refine intercalateChars (by simp) ?_
  intro s member c inside
  obtain ⟨n,_,rfl⟩ := mem_map.mp member
  exact .inl (toDigitsChars (by decide) (by decide) n c inside)

theorem colonsChars (gs : List Nat) : ∀ c ∈ colons gs, c ∈ digitChars ∨ c = ':' := by
  refine intercalateChars (by simp) ?_
  intro s member c inside
  obtain ⟨g,_,rfl⟩ := mem_map.mp member
  exact .inl (toDigitsChars (by decide) (by decide) g c inside)

theorem text6Chars (gs : List Nat) : ∀ c ∈ text6 gs, c ∈ digitChars ∨ c = ':' := by
  intro c member
  simp only [text6] at member
  split at member
  · exact colonsChars gs c member
  · simp only [mem_append,mem_cons,not_mem_nil,or_false] at member
    rcases member with (left | colon) | right
    · exact colonsChars _ c left
    · exact .inr (by rcases colon with h | h <;> exact h)
    · exact colonsChars _ c right

theorem text6HasColon (eight : gs.length = 8) : ':' ∈ text6 gs := by
  simp only [text6]
  split
  · match gs,eight with
    | a :: b :: rest,_ => simp [colons,intercalate_cons_cons]
  · simp

theorem body6Chars : ∀ c ∈ body6 v, c ∈ digitChars ∨ c = '.' ∨ c = ':' := by
  intro c member
  simp only [body6] at member
  split at member
  · rcases mem_append.mp member with front | back
    · have fixed : ∀ x ∈ "::ffff:".toList, x ∈ digitChars ∨ x = '.' ∨ x = ':' := Base.everyChar (by decide)
      exact fixed c front
    · rcases dottedChars _ c back with digit | dot
      · exact .inl digit
      · exact .inr (.inl dot)
  · rcases text6Chars _ c member with digit | colon
    · exact .inl digit
    · exact .inr (.inr colon)

theorem parseBody6 : parseIPv6Groups (body6 v) = some (groups v) := by
  simp only [body6]
  split
  · rename_i mapped
    have high : v.toNat / 2^32 = 0xffff := by simpa [is4In6] using mapped
    have low : (BitVec.ofNat 32 v.toNat).toNat = v.toNat % 2^32 := by simp
    have noColon : ∀ s ∈ [[],[],"ffff".toList,dotted (BitVec.ofNat 32 v.toNat)], ':' ∉ s := by
      intro s member colon
      simp only [mem_cons,not_mem_nil,or_false] at member
      rcases member with rfl | rfl | rfl | rfl
      · simp at colon
      · simp at colon
      · exact absurd colon (by decide)
      · rcases dottedChars _ _ colon with digit | dot
        · exact absurd digit (by decide)
        · exact absurd dot (by decide)
    have fields : ("::ffff:".toList ++ dotted (BitVec.ofNat 32 v.toNat)).splitOn ':' =
        [[],[],"ffff".toList,dotted (BitVec.ofNat 32 v.toNat)] := by
      have joined : [':'].intercalate [[],[],"ffff".toList,dotted (BitVec.ofNat 32 v.toNat)] =
          "::ffff:".toList ++ dotted (BitVec.ofNat 32 v.toNat) := by
        simp [intercalate_cons_cons]
      rw [← joined]
      exact splitOn_intercalate ':' noColon (by simp)
    have dot : '.' ∈ dotted (BitVec.ofNat 32 v.toNat) := by
      simp [dotted,octets,intercalate_cons_cons]
    have cut : ellipsis [[],[],"ffff".toList,dotted (BitVec.ofNat 32 v.toNat)] =
        some ([],["ffff".toList,dotted (BitVec.ofNat 32 v.toNat)]) := rfl
    have ffff : parseGroup "ffff".toList = some 0xffff := by decide
    have right : parseGroups ["ffff".toList,dotted (BitVec.ofNat 32 v.toNat)] =
        some [0xffff,v.toNat % 2^32 / 65536,v.toNat % 2^32 % 65536] := by
      simp only [parseGroups,ffff,if_pos dot,parseDotted,Option.map_some,low]
    have shape : groups v = [0,0,0,0,0,0xffff,v.toNat % 2^32 / 65536,v.toNat % 2^32 % 65536] := by
      simp only [groups,List.cons.injEq,and_true]
      omega
    rw [shape]
    simp only [parseIPv6Groups,fields,cut,right]
    rfl
  · exact parseText6 rfl (groupsSmall v)

theorem find?Special {s : List Char} (chars : ∀ c ∈ s, c ∈ digitChars ∨ c = ':') (colon : ':' ∈ s)
    (rest : List Char) : (s ++ rest).find? special = some ':' := by
  have present : (s.find? special).isSome := find?_isSome.mpr ⟨':',colon,rfl⟩
  obtain ⟨c,found⟩ := Option.isSome_iff_exists.mp present
  have shape := find?_some found
  have digits : ∀ d ∈ digitChars, special d = false := Base.everyChar (by decide)
  rcases chars c (mem_of_find?_eq_some found) with digit | rfl
  · simp [digits c digit] at shape
  · rw [find?_append,found]
    rfl

theorem body6Dispatch (rest : List Char) : (body6 v ++ rest).find? special = some ':' := by
  simp only [body6]
  split
  · rfl
  · exact find?Special (text6Chars _) (text6HasColon rfl) rest

theorem parseText (a : Addr) : parseAddr a.text = some a := by
  cases a with
  | v4 v =>
    have dispatch : (dotted v).find? special = some '.' := by
      have present : ((dotted v).find? special).isSome := find?_isSome.mpr ⟨'.',by simp [dotted,octets,intercalate_cons_cons],rfl⟩
      obtain ⟨c,found⟩ := Option.isSome_iff_exists.mp present
      have shape := find?_some found
      have digits : ∀ d ∈ digitChars, special d = false := Base.everyChar (by decide)
      rcases dottedChars v c (mem_of_find?_eq_some found) with digit | rfl
      · simp [digits c digit] at shape
      · exact found
    simp only [parseAddr,Addr.text,dispatch,parseDotted,Option.map_some]
  | v6 v zone =>
    have clean : ∀ c ∈ body6 v, (c != '%') = true := by
      intro c member
      have digits : ∀ d ∈ digitChars, (d != '%') = true := Base.everyChar (by decide)
      rcases body6Chars v c member with digit | rfl | rfl
      · exact digits c digit
      · rfl
      · rfl
    simp only [parseAddr,Addr.text,body6Dispatch,parseIPv6]
    by_cases empty : zone = ""
    · subst empty
      have noZone : (body6 v).dropWhile (fun c => c != '%') = [] := dropWhile_eq_nil_iff.mpr clean
      simp only [if_true,append_nil,noZone,parseBody6,Option.map_some,fromGroups]
    · have filled : zone.toList ≠ [] := by simpa using empty
      obtain ⟨z,zs,shape⟩ := exists_cons_of_ne_nil filled
      have drop : (body6 v ++ '%' :: zone.toList).dropWhile (fun c => c != '%') = '%' :: zone.toList := by
        rw [dropWhile_append_of_pos clean]
        rfl
      have take : (body6 v ++ '%' :: zone.toList).takeWhile (fun c => c != '%') = body6 v := by
        rw [takeWhile_append_of_pos clean]
        simp
      rw [if_neg empty,drop,take,shape]
      simp only [parseBody6,Option.map_some,fromGroups]
      rw [← shape]
      simp

end VpnPack.Net
