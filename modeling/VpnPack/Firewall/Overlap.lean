import Mathlib.Data.List.Forall2
import Mathlib.Data.Set.Basic
import VpnPack.Base.Blocks
import VpnPack.Firewall.Subnets

/-! What the subnet validator decides, said with sets of addresses. An address is its
16-byte form, in which package net compares: an IPv4 address and its IPv4-mapped
IPv6 form are one address, and a network of mapped addresses is an IPv4 network. -/
namespace VpnPack.Firewall
open Base Net

def mappedBase : Nat := 0xffff * 2^32

def to16 : Addr → Nat
  | .v4 v => mappedBase + v.toNat
  | .v6 v _ => v.toNat

def IsIPv4 (a : Addr) : Prop := to16 a / 2^32 = 0xffff
def hostBits (n : Prefix) : Nat := n.addr.width - n.bits
def addresses (n : Prefix) : Set Nat := {x | to16 n.addr ≤ x ∧ x < to16 n.addr + 2^hostBits n}
def Intersects (a b : Prefix) : Prop := (IsIPv4 a.addr ↔ IsIPv4 b.addr) ∧ (addresses a ∩ addresses b).Nonempty
def Aligned (n : Prefix) : Prop := 2^hostBits n ∣ to16 n.addr

theorem isIPv4Small (v : BitVec 32) : IsIPv4 (.v4 v) := by
  have small := v.isLt
  simp only [IsIPv4,to16,mappedBase]
  omega

theorem shortSource {a : Addr} (zoneless : a.zone = "") : (∃ v, shortAddr a = .v4 v ∧ to16 a = mappedBase + v.toNat ∧ IsIPv4 a) ∨
      (∃ v, shortAddr a = .v6 v "" ∧ to16 a = v.toNat ∧ ¬ IsIPv4 a) := by
  cases a with
  | v4 v => exact .inl ⟨v,rfl,rfl,isIPv4Small v⟩
  | v6 v zone =>
    cases zoneless
    by_cases mapped : v.toNat / 2^32 = 0xffff
    · have short : shortAddr (.v6 v "") = .v4 (BitVec.ofNat 32 v.toNat) := if_pos (beq_iff_eq.mpr mapped)
      refine .inl ⟨_,short,?_,mapped⟩
      simp only [to16,mappedBase,BitVec.toNat_ofNat]
      omega
    · have same : shortAddr (.v6 v "") = .v6 v "" := if_neg (fun known => mapped (beq_iff_eq.mp known))
      exact .inr ⟨v,same,rfl,mapped⟩

theorem mappedNarrow {size x : Nat} (aligned : 2^size ∣ x) (mapped : x / 2^32 = 0xffff) : size ≤ 32 := by
  by_contra wide
  obtain ⟨k,shape⟩ : 2^33 ∣ x := (Nat.pow_dvd_pow 2 (by omega)).trans aligned
  omega

theorem networkSource {n : Prefix} (aligned : Aligned n) :
    (∃ v, networkNumber n = (.v4 v,32 - hostBits n) ∧ to16 n.addr = mappedBase + v.toNat ∧ IsIPv4 n.addr ∧ hostBits n ≤ 32) ∨
      (∃ v, networkNumber n = (.v6 v "",128 - hostBits n) ∧ to16 n.addr = v.toNat ∧ ¬ IsIPv4 n.addr ∧ hostBits n ≤ 128) := by
  obtain ⟨addr,bits,fits,zoneless⟩ := n
  cases addr with
  | v4 v =>
    have fits : bits ≤ 32 := fits
    refine .inl ⟨v,?_,rfl,isIPv4Small v,Nat.sub_le _ _⟩
    simp only [networkNumber,shortAddr,hostBits,Addr.width]
    rw [Nat.sub_sub_self fits]
  | v6 v zone =>
    have room : bits ≤ 128 := fits
    cases zoneless
    rcases @shortSource (.v6 v "") rfl with ⟨u,short,form,mapped⟩ | ⟨u,short,form,unmapped⟩
    · have narrow : 128 - bits ≤ 32 := mappedNarrow aligned mapped
      refine .inl ⟨u,?_,form,mapped,narrow⟩
      simp only [networkNumber,short,hostBits,Addr.width]
      congr 1
      omega
    · refine .inr ⟨u,?_,form,unmapped,Nat.sub_le _ _⟩
      simp only [networkNumber,short,hostBits,Addr.width]
      rw [Nat.sub_sub_self room]

theorem keepBitsBlock {width bits x y : Nat} : keepBits width bits x = keepBits width bits y ↔ Block (width-bits) y x := by
  have positive : 0 < 2^(width-bits) := Nat.two_pow_pos _
  exact Nat.mul_left_inj (Nat.ne_of_gt positive)

theorem keepBitsLe (width bits x : Nat) : keepBits width bits x ≤ x := Nat.div_mul_le_self _ _

theorem maskedBlock {width bits : Nat} {x y : BitVec width} :
    BitVec.ofNat width (keepBits width bits x.toNat) = BitVec.ofNat width (keepBits width bits y.toNat) ↔
      Block (width-bits) y.toNat x.toNat := by
  have small (v : BitVec width) : keepBits width bits v.toNat < 2^width := Nat.lt_of_le_of_lt (keepBitsLe _ _ _) v.isLt
  rw [← keepBitsBlock,← BitVec.toNat_inj,BitVec.toNat_ofNat,BitVec.toNat_ofNat,Nat.mod_eq_of_lt (small x),Nat.mod_eq_of_lt (small y)]

theorem mappedAligned {size : Nat} (narrow : size ≤ 32) : 2^size ∣ mappedBase :=
  (Nat.pow_dvd_pow 2 narrow).trans (Nat.dvd_mul_left _ _)

theorem containsBlock {n : Prefix} {ip : Addr} (aligned : Aligned n) (zoneless : ip.zone = "") :
    contains n ip = true ↔ (IsIPv4 ip ↔ IsIPv4 n.addr) ∧ Block (hostBits n) (to16 n.addr) (to16 ip) := by
  rcases networkSource aligned with ⟨base,number,form,mapped,narrow⟩ | ⟨base,number,form,unmapped,fits⟩
  · rcases shortSource zoneless with ⟨v,short,form',mapped'⟩ | ⟨v,short,_,unmapped'⟩
    · have sizes : 32 - (32 - hostBits n) = hostBits n := Nat.sub_sub_self narrow
      simp only [contains,number,short,Addr.width,beq_self_eq_true,Bool.true_and,beq_iff_eq,Addr.masked,Addr.v4.injEq,maskedBlock,
        sizes,form,form',blockShift (mappedAligned narrow),mapped,mapped',true_and]
    · simp only [contains,number,short,Addr.width,mapped,unmapped']
      simp
  · rcases shortSource zoneless with ⟨v,short,_,mapped'⟩ | ⟨v,short,form',unmapped'⟩
    · simp only [contains,number,short,Addr.width,unmapped,mapped']
      simp
    · have sizes : 128 - (128 - hostBits n) = hostBits n := Nat.sub_sub_self fits
      simp only [contains,number,short,Addr.width,beq_self_eq_true,Bool.true_and,beq_iff_eq,Addr.masked,Addr.v6.injEq,and_true,
        maskedBlock,sizes,form,form',unmapped,unmapped',true_and]

theorem overlapExact {a b : Prefix} (first : Aligned a) (second : Aligned b) : subnetsOverlap a b = true ↔ Intersects a b := by
  have common : (addresses a ∩ addresses b).Nonempty ↔ ∃ x, Block (hostBits a) (to16 a.addr) x ∧ Block (hostBits b) (to16 b.addr) x :=
    exists_congr (fun x => and_congr (blockInterval first x).symm (blockInterval second x).symm)
  rw [subnetsOverlap,Bool.or_eq_true,containsBlock first b.zoneless,containsBlock second a.zoneless,Intersects,common,blocksMeet]
  tauto

theorem intersectsComm {a b : Prefix} : Intersects a b ↔ Intersects b a := by
  rw [Intersects,Intersects,Set.inter_comm,@iff_comm (IsIPv4 a.addr)]

theorem maskedAligned {a : Addr} {bits : Nat} : 2^(a.width-bits) ∣ to16 (a.masked bits) := by
  cases a with
  | v4 v =>
    have small : keepBits 32 bits v.toNat < 2^32 := Nat.lt_of_le_of_lt (keepBitsLe _ _ _) v.isLt
    simp only [Addr.masked,to16,Addr.width,BitVec.toNat_ofNat,Nat.mod_eq_of_lt small]
    exact Nat.dvd_add (mappedAligned (Nat.sub_le _ _)) (Nat.dvd_mul_left _ _)
  | v6 v zone =>
    have small : keepBits 128 bits v.toNat < 2^128 := Nat.lt_of_le_of_lt (keepBitsLe _ _ _) v.isLt
    simp only [Addr.masked,to16,Addr.width,BitVec.toNat_ofNat,Nat.mod_eq_of_lt small]
    exact Nat.dvd_mul_left _ _

theorem parsedAligned {s : List Char} {ip : Addr} {n : Prefix} (parsed : parseCIDR s = some (ip,n)) : Aligned n := by
  unfold parseCIDR at parsed
  split at parsed
  · cases parsed
  · split at parsed
    · rename_i a bits _ _
      split at parsed
      · cases parsed
        rw [Aligned,hostBits,Addr.maskedWidth]
        exact maskedAligned
      · cases parsed
    · cases parsed

def Meets (candidate : Prefix) (cidr : String) : Prop :=
  ∃ ip host, parseCIDR cidr.toList = some (ip,host) ∧ Intersects candidate host

inductive Verdict (sys : SystemSubnets) (cidr : String) : ValidationResult → Prop where
  | unread (bad : parseCIDR cidr.toList = none) : Verdict sys cidr ⟨[],[]⟩
  | blocked {ip : Addr} {n : Prefix} (read : parseCIDR cidr.toList = some (ip,n)) (sub : InterfaceSubnet)
      (member : sub ∈ sys.interfaces) (meets : Meets n sub.cidr) : Verdict sys cidr ⟨[blockedBy cidr sub],[]⟩
  | tailscale {ip : Addr} {n : Prefix} (read : parseCIDR cidr.toList = some (ip,n))
      (off : ∀ sub ∈ sys.interfaces, ¬ Meets n sub.cidr) (rt : RouteSubnet)
      (member : rt ∈ sys.table52Routes) (meets : Meets n rt.cidr) : Verdict sys cidr ⟨[],[table52Warning cidr rt]⟩
  | policy {ip : Addr} {n : Prefix} (read : parseCIDR cidr.toList = some (ip,n))
      (off : ∀ sub ∈ sys.interfaces, ¬ Meets n sub.cidr) (off52 : ∀ rt ∈ sys.table52Routes, ¬ Meets n rt.cidr)
      (rules : 0 < sys.pbrRules) : Verdict sys cidr ⟨[],[pbrWarning cidr]⟩
  | route {ip : Addr} {n : Prefix} (read : parseCIDR cidr.toList = some (ip,n))
      (off : ∀ sub ∈ sys.interfaces, ¬ Meets n sub.cidr) (off52 : ∀ rt ∈ sys.table52Routes, ¬ Meets n rt.cidr)
      (ruleless : sys.pbrRules = 0) (rt : RouteSubnet) (member : rt ∈ sys.routes) (meets : Meets n rt.cidr) :
      Verdict sys cidr ⟨[],[routeWarning cidr rt]⟩
  | apart {ip : Addr} {n : Prefix} (read : parseCIDR cidr.toList = some (ip,n))
      (off : ∀ sub ∈ sys.interfaces, ¬ Meets n sub.cidr) (off52 : ∀ rt ∈ sys.table52Routes, ¬ Meets n rt.cidr)
      (ruleless : sys.pbrRules = 0) (offMain : ∀ rt ∈ sys.routes, ¬ Meets n rt.cidr) : Verdict sys cidr ⟨[],[]⟩

section
variable {sys : SystemSubnets}

theorem conflictsMeets {candidate : Prefix} (aligned : Aligned candidate) (cidr : String) :
    conflicts candidate cidr = true ↔ Meets candidate cidr := by
  unfold conflicts Meets
  cases parsed : parseCIDR cidr.toList with
  | none => simp
  | some pair =>
    obtain ⟨ip,host⟩ := pair
    simp only [overlapExact aligned (parsedAligned parsed)]
    constructor
    · intro meets
      exact ⟨ip,host,rfl,meets⟩
    · rintro ⟨_,_,same,meets⟩
      cases same
      exact meets

theorem searched {α : Type} {text : α → String} {candidate : Prefix} (aligned : Aligned candidate) (list : List α) :
    match list.find? (fun x => conflicts candidate (text x)) with
    | some x => x ∈ list ∧ Meets candidate (text x)
    | none => ∀ x ∈ list, ¬ Meets candidate (text x) := by
  split
  · rename_i x found
    exact ⟨List.mem_of_find?_eq_some found,(conflictsMeets aligned _).mp (by simpa using List.find?_some found)⟩
  · rename_i clean
    intro x member meets
    have none_ := List.find?_eq_none.mp clean x member
    exact none_ ((conflictsMeets aligned _).mpr meets)

theorem validateOneVerdict (sys : SystemSubnets) (cidr : String) : Verdict sys cidr (validateOne sys cidr) := by
  unfold validateOne
  cases read : parseCIDR cidr.toList with
  | none => exact .unread read
  | some pair =>
    obtain ⟨ip,candidate⟩ := pair
    have aligned := parsedAligned read
    have lan := @searched _ InterfaceSubnet.cidr candidate aligned sys.interfaces
    have tailscale := @searched _ RouteSubnet.cidr candidate aligned sys.table52Routes
    have main := @searched _ RouteSubnet.cidr candidate aligned sys.routes
    dsimp only
    generalize sys.interfaces.find? _ = onLan at lan ⊢
    cases onLan with
    | some sub => exact .blocked read sub lan.1 lan.2
    | none =>
      dsimp only at lan ⊢
      generalize sys.table52Routes.find? _ = on52 at tailscale ⊢
      cases on52 with
      | some rt => exact .tailscale read lan rt tailscale.1 tailscale.2
      | none =>
        dsimp only at tailscale ⊢
        split
        · rename_i rules
          exact .policy read lan tailscale rules
        · rename_i few
          have ruleless : sys.pbrRules = 0 := Nat.le_zero.mp (Nat.le_of_not_lt few)
          generalize sys.routes.find? _ = onMain at main ⊢
          cases onMain with
          | some rt => exact .route read lan tailscale ruleless rt main.1 main.2
          | none => exact .apart read lan tailscale ruleless main

theorem validateParts (cidrs : List String) (sys : SystemSubnets) : ValidateAllowedIPs cidrs sys =
      ⟨(cidrs.map (validateOne sys)).flatMap (·.blocked),(cidrs.map (validateOne sys)).flatMap (·.warnings)⟩ := by
  have from_ (start : ValidationResult) : cidrs.foldl (fun result cidr =>
      (⟨result.blocked ++ (validateOne sys cidr).blocked,result.warnings ++ (validateOne sys cidr).warnings⟩ : ValidationResult)) start =
        ⟨start.blocked ++ (cidrs.map (validateOne sys)).flatMap (·.blocked),
          start.warnings ++ (cidrs.map (validateOne sys)).flatMap (·.warnings)⟩ := by
    induction cidrs generalizing start with
    | nil => simp
    | cons cidr rest ih => simp [ih]
  exact from_ ⟨[],[]⟩

end

theorem conflictsDecided (cidrs : List String) (sys : SystemSubnets) :
    (∃ parts : List ValidationResult, List.Forall₂ (Verdict sys) cidrs parts ∧
      ValidateAllowedIPs cidrs sys = ⟨parts.flatMap (·.blocked),parts.flatMap (·.warnings)⟩) ∧
    ∀ s t ip ip' a b, parseCIDR s = some (ip,a) → parseCIDR t = some (ip',b) →
      (subnetsOverlap a b = true ↔ Intersects a b) ∧ subnetsOverlap a b = subnetsOverlap b a := by
  refine ⟨⟨cidrs.map (validateOne sys),?_,validateParts cidrs sys⟩,?_⟩
  · rw [List.forall₂_map_right_iff,List.forall₂_same]
    exact fun cidr _ => validateOneVerdict sys cidr
  · intro s t ip ip' a b first second
    have one := parsedAligned first
    have two := parsedAligned second
    refine ⟨overlapExact one two,Bool.eq_iff_iff.mpr ?_⟩
    rw [overlapExact one two,overlapExact two one,intersectsComm]

theorem conflictsDecidedLan :
    ∃ ip a ip' b, parseCIDR "192.168.1.128/25".toList = some (ip,a) ∧ parseCIDR "192.168.0.0/16".toList = some (ip',b) ∧ Intersects a b ∧
      ValidateAllowedIPs ["192.168.1.128/25","10.9.0.0/16","10.9"] ⟨[⟨"192.168.0.0/16","br0"⟩],[],[],0⟩ =
        ⟨[blockedBy "192.168.1.128/25" ⟨"192.168.0.0/16","br0"⟩],[]⟩ := by
  refine ⟨_,_,_,_,rfl,rfl,?_,by decide +kernel⟩
  exact ((conflictsDecided [] ⟨[],[],[],0⟩).2 "192.168.1.128/25".toList "192.168.0.0/16".toList _ _ _ _ rfl rfl).1.mp (by decide +kernel)

end VpnPack.Firewall
