import VpnPack.Net.Addr

/-! Prefix texts: netip.ParsePrefix and Prefix.String, which keep host bits and
refuse zones and padded lengths, and net.ParseCIDR with IPNet.String, which mask
the address, allow a padded length and print an IPv4-mapped network as IPv4. -/
namespace VpnPack.Net
open List

structure Prefix where
  addr : Addr
  bits : Nat
  fits : bits ≤ addr.width
  zoneless : addr.zone = ""
  deriving DecidableEq, Repr

def cutLast (sep : Char) (s : List Char) : Option (List Char × List Char) :=
  match s.reverse.dropWhile (fun c => c != sep) with
  | [] => none
  | _ :: before => some (before.reverse,(s.reverse.takeWhile (fun c => c != sep)).reverse)

def cutFirst (sep : Char) (s : List Char) : Option (List Char × List Char) :=
  match s.dropWhile (fun c => c != sep) with
  | [] => none
  | _ :: after => some (s.takeWhile (fun c => c != sep),after)

variable {sep : Char} {s after before : List Char}

theorem cutLastAppend (before : List Char) (clean : sep ∉ after) : cutLast sep (before ++ sep :: after) = some (before,after) := by
  have kept : ∀ c ∈ after.reverse, (c != sep) = true := by
    intro c member
    have inside : c ∈ after := mem_reverse.mp member
    simp only [bne_iff_ne,ne_eq]
    rintro rfl
    exact clean inside
  have shape : (before ++ sep :: after).reverse = after.reverse ++ sep :: before.reverse := by simp
  have drop : (after.reverse ++ sep :: before.reverse).dropWhile (fun c => c != sep) = sep :: before.reverse := by
    rw [dropWhile_append_of_pos kept]
    simp
  have take : (after.reverse ++ sep :: before.reverse).takeWhile (fun c => c != sep) = after.reverse := by
    rw [takeWhile_append_of_pos kept]
    simp
  simp only [cutLast,shape,drop,take,reverse_reverse]

theorem takeUntil (after : List Char) (clean : sep ∉ before) : (before ++ sep :: after).takeWhile (fun c => c != sep) = before := by
  have kept : ∀ c ∈ before, (c != sep) = true := fun c member => by
    simp only [bne_iff_ne,ne_eq]
    rintro rfl
    exact clean member
  rw [takeWhile_append_of_pos kept]
  simp

theorem cutFirstAppend {sep : Char} {before : List Char} (after : List Char) (clean : sep ∉ before) :
    cutFirst sep (before ++ sep :: after) = some (before,after) := by
  have kept : ∀ c ∈ before, (c != sep) = true := fun c member => by
    simp only [bne_iff_ne,ne_eq]
    rintro rfl
    exact clean member
  have drop : (before ++ sep :: after).dropWhile (fun c => c != sep) = sep :: after := by
    rw [dropWhile_append_of_pos kept]
    simp
  simp only [cutFirst,drop,takeUntil after clean]

theorem cutFirstShape : cutFirst sep s = some (before,after) ↔ s = before ++ sep :: after ∧ sep ∉ before := by
  constructor
  · intro cut
    unfold cutFirst at cut
    split at cut
    · contradiction
    · rename_i c rest found
      cases cut
      have whole := takeWhile_append_dropWhile (p := fun c => c != sep) (l := s)
      have here : c = sep := by
        have stopped := head_dropWhile_not (fun c => c != sep) (l := s) (by simp [found])
        simpa [found] using stopped
      subst here
      refine ⟨by rw [← found,whole],?_⟩
      intro inside
      have kept := mem_takeWhile_imp inside
      simp at kept
  · rintro ⟨rfl,clean⟩
    exact cutFirstAppend after clean

theorem cutFirstNone : cutFirst sep s = none ↔ sep ∉ s := by
  unfold cutFirst
  split
  · rename_i gone
    have all := dropWhile_eq_nil_iff.mp gone
    exact iff_of_true rfl (fun member => by simpa using all sep member)
  · rename_i c rest found
    refine iff_of_false (by simp) (fun clean => ?_)
    have gone : s.dropWhile (fun c => c != sep) = [] := dropWhile_eq_nil_iff.mpr (fun c member => by
        simp only [bne_iff_ne,ne_eq]
        rintro rfl
        exact clean member)
    rw [gone] at found
    contradiction

theorem cutLastMirror (sep : Char) (s : List Char) :
    cutLast sep s = (cutFirst sep s.reverse).map (fun cut => (cut.2.reverse,cut.1.reverse)) := by
  unfold cutLast cutFirst
  split <;> rfl

theorem cutLastShape : cutLast sep s = some (before,after) ↔ s = before ++ sep :: after ∧ sep ∉ after := by
  constructor
  · intro cut
    rw [cutLastMirror,Option.map_eq_some_iff] at cut
    obtain ⟨parts,first,same⟩ := cut
    obtain ⟨shape,clean⟩ := cutFirstShape.mp first
    cases same
    refine ⟨?_,by rwa [mem_reverse]⟩
    rw [← reverse_reverse s,shape]
    simp
  · rintro ⟨rfl,clean⟩
    exact cutLastAppend before clean

theorem cutLastNone : cutLast sep s = none ↔ sep ∉ s := by
  rw [cutLastMirror,Option.map_eq_none_iff,cutFirstNone,mem_reverse]
-- strconv.Atoi after the check that refuses a sign and leading zeros.
def parseBits (s : List Char) : Option Nat :=
  match s with
  | c :: _ :: _ => if c < '1' ∨ '9' < c then none else number 10 s
  | _ => number 10 s

def parsePrefix (s : List Char) : Option Prefix :=
  match cutLast '/' s with
  | none => none
  | some (host,len) =>
    match parseAddr host,parseBits len with
    | some a,some n => if h : n ≤ a.width ∧ a.zone = "" then some ⟨a,n,h.1,h.2⟩ else none
    | _,_ => none

def Prefix.text (p : Prefix) : List Char := p.addr.text ++ '/' :: Nat.toDigits 10 p.bits

variable (n bits : Nat) (p : Prefix) {a : Addr}

theorem decimalChars : ∀ c ∈ Nat.toDigits 10 n, '0' ≤ c ∧ c ≤ '9' := by
  intro c member
  have digit := Nat.isDigit_of_mem_toDigits (by decide) (by decide) member
  simpa [Char.isDigit,Char.le_def] using digit

theorem nonzeroDigit {c : Char} (digit : '0' ≤ c ∧ c ≤ '9') (nonzero : c ≠ '0') : ¬ (c < '1' ∨ '9' < c) := by
  simp only [Char.lt_def,Char.le_def,not_or,not_lt,UInt32.lt_iff_toNat_lt,UInt32.le_iff_toNat_le] at digit ⊢
  have differs : c.val.toNat ≠ '0'.val.toNat := fun same => nonzero (Char.ext (UInt32.toNat_inj.mp same))
  have : '0'.val.toNat = 48 := rfl
  have : '1'.val.toNat = 49 := rfl
  omega

theorem parseBitsToDigits : parseBits (Nat.toDigits 10 n) = some n := by
  have whole := @numberToDigits 10 (by decide) (by decide) n
  have range := decimalChars n
  have head := @toDigitsHead 10 n (by decide) (by decide)
  cases shape : Nat.toDigits 10 n with
  | nil => exact absurd shape Nat.toDigits_ne_nil
  | cons c rest =>
    rw [shape] at whole range head
    cases rest with
    | nil => exact whole
    | cons next rest =>
      have digit := range c mem_cons_self
      have nonzero : c ≠ '0' := by simpa using head (by simp)
      simp only [parseBits,if_neg (nonzeroDigit digit nonzero),whole]

theorem parsePrefixText : parsePrefix p.text = some p := by
  have clean : '/' ∉ Nat.toDigits 10 p.bits := toDigitsAvoid (by decide) (by decide) _ (by decide)
  have ok : p.bits ≤ p.addr.width ∧ p.addr.zone = "" := ⟨p.fits,p.zoneless⟩
  simp only [parsePrefix,Prefix.text,cutLastAppend _ clean,parseText,parseBitsToDigits,dif_pos ok]

def addressChars : List Char := digitChars ++ ['.',':','/']

theorem Addr.textChars (zoneless : a.zone = "") : ∀ c ∈ a.text, c ∈ addressChars := by
  intro c member
  simp only [addressChars,mem_append,mem_cons,not_mem_nil,or_false]
  cases a with
  | v4 v =>
    rcases dottedChars v c member with digit | dot
    · exact .inl digit
    · exact .inr (.inl dot)
  | v6 v zone =>
    have none_ : zone = "" := zoneless
    simp only [Addr.text,if_pos none_,append_nil] at member
    rcases body6Chars v c member with digit | dot | colon
    · exact .inl digit
    · exact .inr (.inl dot)
    · exact .inr (.inr (.inl colon))

theorem Prefix.textChars : ∀ c ∈ p.text, c ∈ addressChars := by
  intro c member
  rcases mem_append.mp member with host | rest
  · exact Addr.textChars p.zoneless c host
  · rcases mem_cons.mp rest with rfl | digit
    · decide
    · exact mem_append_left _ (toDigitsChars (by decide) (by decide) _ c digit)

def keepBits (width bits n : Nat) : Nat := n / 2^(width-bits) * 2^(width-bits)

def Addr.masked (bits : Nat) : Addr → Addr
  | .v4 v => .v4 (BitVec.ofNat 32 (keepBits 32 bits v.toNat))
  | .v6 v zone => .v6 (BitVec.ofNat 128 (keepBits 128 bits v.toNat)) zone

theorem Addr.maskedWidth (a : Addr) : (a.masked bits).width = a.width := by
  cases a <;> rfl

theorem Addr.maskedZone (a : Addr) : (a.masked bits).zone = a.zone := by
  cases a <;> rfl

def Prefix.Masked (p : Prefix) : Prefix :=
  ⟨p.addr.masked p.bits,p.bits,by rw [Addr.maskedWidth]; exact p.fits,by rw [Addr.maskedZone]; exact p.zoneless⟩

def parseCIDR (s : List Char) : Option (Addr × Prefix) :=
  match cutFirst '/' s with
  | none => none
  | some (host,mask) =>
    match parseAddr host,number 10 mask with
    | some a,some n =>
      if h : n ≤ a.width ∧ a.zone = "" then
        some (a,⟨a.masked n,n,by rw [Addr.maskedWidth]; exact h.1,by rw [Addr.maskedZone]; exact h.2⟩)
      else none
    | _,_ => none

theorem Addr.textSlash (zoneless : a.zone = "") : '/' ∉ a.text := by
  intro slash
  cases a with
  | v4 v =>
    rcases dottedChars v '/' slash with digit | dot
    · exact absurd digit (by decide)
    · exact absurd dot (by decide)
  | v6 v zone =>
    have none_ : zone = "" := zoneless
    simp only [Addr.text,if_pos none_,append_nil] at slash
    rcases body6Chars v '/' slash with digit | dot | colon
    · exact absurd digit (by decide)
    · exact absurd dot (by decide)
    · exact absurd colon (by decide)

theorem parseCIDRText {bits : Nat} (zoneless : a.zone = "") (fits : bits ≤ a.width) :
    ∃ n, parseCIDR (a.text ++ '/' :: Nat.toDigits 10 bits) = some (a,n) ∧ n.addr = a.masked bits ∧ n.bits = bits := by
  simp only [parseCIDR,cutFirstAppend _ (Addr.textSlash zoneless),parseText,numberToDigits (by decide : 1 < 10) (by decide),dif_pos (And.intro fits zoneless)]
  exact ⟨_,rfl,rfl,rfl⟩

theorem parseCIDRZone {host : Addr} {n : Prefix} (parsed : parseCIDR s = some (host,n)) : host.zone = "" := by
  simp only [parseCIDR] at parsed
  split at parsed
  · simp at parsed
  · split at parsed
    · split at parsed
      · rename_i ok
        cases parsed
        exact ok.2
      · simp at parsed
    · simp at parsed

def ipNetText (n : Prefix) : List Char :=
  match n.addr with
  | .v4 _ => n.text
  | .v6 v _ =>
    if is4In6 v then dotted (BitVec.ofNat 32 v.toNat) ++ '/' :: Nat.toDigits 10 (n.bits-96) else n.text

-- ip.To4() when there is one.
def shortAddr : Addr → Addr
  | .v4 v => .v4 v
  | .v6 v zone => if is4In6 v then .v4 (BitVec.ofNat 32 v.toNat) else .v6 v zone

end VpnPack.Net
