import VpnPack.Service.TunnelRequest
import VpnPack.Wgs2s.Manager

/-! CheckRoutesInstalled beside the routes the kernel holds. The command lists the IPv4
routes of one device by destination, of any priority: a single host without its length, the
whole space as default. -/
namespace VpnPack.Service
open Net Wgs2s

-- none: the command failed, or did not print a list of routes.
def CheckRoutesInstalled (ipRouteShowDev : String → Option (List String)) (iface : String) (expectedCIDRs : List String) : Bool :=
  if expectedCIDRs.length = 0 then true
  else
    match ipRouteShowDev iface with
    | none => false
    | some installed => expectedCIDRs.all (fun cidr => decide (cidr ∈ installed))

def networkText (v : BitVec 32) (bits : Nat) : List Char := dotted v ++ '/' :: Nat.toDigits 10 bits

def destinationText (v : BitVec 32) (bits : Nat) : List Char :=
  if bits = 0 then "default".toList else if bits = 32 then dotted v else networkText v bits

def MaskedBase (v : BitVec 32) (bits : Nat) : Prop := bits ≤ 32 ∧ (Addr.v4 v).masked bits = .v4 v

def ShowsRoutes (k : Kernel) (iface : String) (installed : List String) : Prop :=
  ∀ dst, dst ∈ installed ↔ ∃ ifIndex v bits priority, k.lookup iface = some ifIndex ∧ MaskedBase v bits ∧
    k.routes (String.ofList (networkText v bits),priority) = some ifIndex ∧ dst = String.ofList (destinationText v bits)

def RouteInstalled (k : Kernel) (ifIndex : Nat) (metric : Int) (cidr : String) : Prop :=
  ∃ msg, buildRouteMessage cidr ifIndex metric = .ok msg ∧ k.routes msg.key = some ifIndex

/- Typed as the kernel would print it: a masked IPv4 network of one to 31 bits. -/
def PlainRoute (cidr : String) : Prop := ∃ v bits, 0 < bits ∧ bits < 32 ∧ MaskedBase v bits ∧ cidr = String.ofList (networkText v bits)

section
variable {k : Kernel} {ifIndex : Nat} {metric : Int} {cidr : String} {cidrs installed : List String}

variable {iface : String} {v : BitVec 32} {bits : Nat}

theorem parseNetwork (masked : MaskedBase v bits) :
    ∃ n, parseCIDR (networkText v bits) = some (.v4 v,n) ∧ ipNetText n = networkText v bits := by
  obtain ⟨n,parsed,base,length⟩ := @parseCIDRText (.v4 v) bits rfl masked.1
  refine ⟨n,parsed,?_⟩
  have addr : n.addr = .v4 v := base.trans masked.2
  simp only [ipNetText,addr,Prefix.text,length,Addr.text,networkText]

theorem noSlash {s : List Char} (clean : '/' ∉ s) : parseCIDR s = none := by
  simp only [parseCIDR,cutFirstNone.mpr clean]

theorem shownPlain (shows_ : ShowsRoutes k iface installed) (found : k.lookup iface = some ifIndex) (valid : parseCIDR cidr.toList ≠ none) :
    cidr ∈ installed ↔ PlainRoute cidr ∧ ∃ priority, k.routes (cidr,priority) = some ifIndex := by
  rw [shows_ cidr]
  constructor
  · rintro ⟨same,v,bits,priority,here,masked,held,rfl⟩
    cases found.symm.trans here
    rw [String.toList_ofList] at valid
    by_cases zero : bits = 0
    · exact absurd (by rw [destinationText,if_pos zero]; rfl) valid
    · by_cases full : bits = 32
      · rw [destinationText,if_neg zero,if_pos full] at valid
        exact absurd (noSlash (@Addr.textSlash (.v4 v) rfl)) valid
      · have shown : destinationText v bits = networkText v bits := by rw [destinationText,if_neg zero,if_neg full]
        have short := masked.1
        rw [shown]
        exact ⟨⟨v,bits,by omega,by omega,masked,rfl⟩,priority,held⟩
  · rintro ⟨⟨v,bits,positive,short,masked,rfl⟩,priority,held⟩
    refine ⟨ifIndex,v,bits,priority,found,masked,held,?_⟩
    rw [destinationText,if_neg (by omega),if_neg (by omega)]

theorem plainInstalled (plain : PlainRoute cidr) : RouteInstalled k ifIndex metric cidr ↔ k.routes (cidr,uint32 metric) = some ifIndex := by
  obtain ⟨v,bits,-,-,masked,rfl⟩ := plain
  obtain ⟨n,parsed,text⟩ := parseNetwork masked
  have built : buildRouteMessage (String.ofList (networkText v bits)) ifIndex metric = .ok ⟨n,ifIndex,uint32 metric⟩ := by
    simp only [buildRouteMessage,String.toList_ofList,parsed]
  constructor
  · rintro ⟨msg,same,held⟩
    cases built.symm.trans same
    rwa [RouteMessage.key,text] at held
  · exact fun held => ⟨_,built,by rwa [RouteMessage.key,text]⟩

theorem acceptedParses {fieldName : String} (accepted : validateCIDRList cidrs fieldName = none) :
    ∀ cidr ∈ cidrs, parseCIDR cidr.toList ≠ none := by
  intro cidr member
  have fine := List.findSome?_eq_none_iff.mp accepted cidr member
  rw [within,Option.map_eq_none_iff,validateCIDR,refuseNone] at fine
  exact of_decide_eq_false fine

theorem checkIff {ipRouteShowDev : String → Option (List String)} {iface : String} (ran : ipRouteShowDev iface = some installed) :
    CheckRoutesInstalled ipRouteShowDev iface cidrs = true ↔ ∀ cidr ∈ cidrs, cidr ∈ installed := by
  unfold CheckRoutesInstalled
  split
  · rename_i empty
    rw [List.length_eq_zero_iff] at empty
    simp [empty]
  · simp [ran]

theorem routesAgree {ipRouteShowDev : String → Option (List String)} {t : TunnelConfig}
    (accepted : validateCIDRList t.cidrs "allowedIP" = none) (found : k.lookup t.interfaceName = some ifIndex)
    (ran : ipRouteShowDev t.interfaceName = some installed) (shows_ : ShowsRoutes k t.interfaceName installed) :
    (((∀ cidr ∈ t.cidrs, RouteInstalled k ifIndex t.metric cidr) → CheckRoutesInstalled ipRouteShowDev t.interfaceName t.cidrs = true) ∧
        ((∃ cidr ∈ t.cidrs, ¬ RouteInstalled k ifIndex t.metric cidr) → CheckRoutesInstalled ipRouteShowDev t.interfaceName t.cidrs = false)) ↔
      ((∀ cidr ∈ t.cidrs, RouteInstalled k ifIndex t.metric cidr) → ∀ cidr ∈ t.cidrs, PlainRoute cidr) ∧
        ((∃ cidr ∈ t.cidrs, ¬ RouteInstalled k ifIndex t.metric cidr) →
          ∃ cidr ∈ t.cidrs, ¬ PlainRoute cidr ∨ ∀ priority, k.routes (cidr,priority) ≠ some ifIndex) := by
  have shown : CheckRoutesInstalled ipRouteShowDev t.interfaceName t.cidrs = true ↔
      ∀ cidr ∈ t.cidrs, PlainRoute cidr ∧ ∃ priority, k.routes (cidr,priority) = some ifIndex :=
    (checkIff ran).trans (forall₂_congr (fun cidr member => shownPlain shows_ found (acceptedParses accepted cidr member)))
  refine and_congr (imp_congr_right (fun all => ?_)) (imp_congr_right (fun _ => ?_))
  · rw [shown]
    constructor
    · exact fun every cidr member => (every cidr member).1
    · exact fun every cidr member => ⟨every cidr member,_,(plainInstalled (every cidr member)).mp (all cidr member)⟩
  · rw [← Bool.not_eq_true,shown]
    constructor
    · intro some_
      by_contra none_
      push Not at none_
      exact some_ none_
    · rintro ⟨cidr,member,other | nowhere⟩ every
      · exact other (every cidr member).1
      · obtain ⟨priority,held⟩ := (every cidr member).2
        exact nowhere priority held

theorem networkInj {w : BitVec 32} {m n : Nat} (same : networkText v m = networkText w n) : v = w ∧ m = n := by
  have left := cutFirstAppend (Nat.toDigits 10 m) (@Addr.textSlash (.v4 v) rfl)
  have right := cutFirstAppend (Nat.toDigits 10 n) (@Addr.textSlash (.v4 w) rfl)
  have texts : (Addr.v4 v).text ++ '/' :: Nat.toDigits 10 m = (Addr.v4 w).text ++ '/' :: Nat.toDigits 10 n := same
  rw [texts,right] at left
  obtain ⟨bases,lengths⟩ := Prod.mk.inj (Option.some.inj left)
  have base := parseText (.v4 v)
  rw [← bases,parseText] at base
  exact ⟨(Addr.v4.inj (Option.some.inj base)).symm,(digitsInj lengths).symm⟩

theorem showsOne {priority : Nat} (found : k.lookup iface = some ifIndex) (masked : MaskedBase v bits)
    (only : ∀ key, k.routes key = some ifIndex ↔ key = (String.ofList (networkText v bits),priority)) :
    ShowsRoutes k iface [String.ofList (destinationText v bits)] := by
  intro dst
  rw [List.mem_singleton]
  constructor
  · rintro rfl
    exact ⟨ifIndex,v,bits,priority,found,masked,(only _).mpr rfl,rfl⟩
  · rintro ⟨same,w,length,other,here,-,held,rfl⟩
    cases found.symm.trans here
    have texts := String.ofList_injective (Prod.mk.inj ((only _).mp held)).1
    obtain ⟨rfl,rfl⟩ := networkInj texts
    rfl

end

def linked : Wgs2s.State := (createLink obliging .forward "wg-s2s0" vacant).2

def claimed (cidr : String) : Option Base.GoError × Wgs2s.State :=
  claimRoutes obliging .forward .link branchTunnel.id 1 branchTunnel.metric [cidr] linked

variable {cidr : String} {ip : Addr} {n : Prefix}

theorem claimedRun (parsed : parseCIDR cidr.toList = some (ip,n)) : claimed cidr = (none,{linked with
      refs := (linked.refs.add cidr branchTunnel.id 1 branchTunnel.metric).2
      kernel := linked.kernel.setRoute (String.ofList (ipNetText n),100) (some 1)}) := by
  have built : buildRouteMessage cidr 1 branchTunnel.metric = .ok ⟨n,1,100⟩ := by
    simp only [buildRouteMessage,parsed]
    rfl
  simp only [claimed,claimRoutes,claimFrom,built]
  rfl

theorem claimedOnly (parsed : parseCIDR cidr.toList = some (ip,n)) (key : String × Nat) :
    (claimed cidr).2.kernel.routes key = some 1 ↔ key = (String.ofList (ipNetText n),100) := by
  rw [claimedRun parsed]
  change (if key = (String.ofList (ipNetText n),100) then some 1 else none) = some 1 ↔ _
  split <;> simp_all

def routedTunnel (cidr : String) : TunnelConfig := {branchTunnel with allowedIPs := some [cidr], enabled := true}
def showing (dst : String) : String → Option (List String) := fun _ => some [dst]

theorem claimedShows {v : BitVec 32} {bits : Nat} (parsed : parseCIDR cidr.toList = some (ip,n))
    (masked : MaskedBase v bits) (text : ipNetText n = networkText v bits) :
    ShowsRoutes (claimed cidr).2.kernel "wg-s2s0" [String.ofList (destinationText v bits)] := by
  have found : (claimed cidr).2.kernel.lookup "wg-s2s0" = some 1 := by
    rw [claimedRun parsed]
    rfl
  exact showsOne found masked (fun key => text ▸ claimedOnly parsed key)

theorem routesAgreeMasked : RouteInstalled (claimed "192.168.7.0/24").2.kernel 1 100 "192.168.7.0/24" ∧
      CheckRoutesInstalled (showing "192.168.7.0/24") "wg-s2s0" ["192.168.7.0/24"] = true := by
  have parsed : parseCIDR "192.168.7.0/24".toList = some (.v4 0xc0a80700,⟨.v4 0xc0a80700,24,by decide,rfl⟩) := by decide
  have masked : MaskedBase 0xc0a80700 24 := ⟨by decide,by decide⟩
  have plain : PlainRoute "192.168.7.0/24" := ⟨0xc0a80700,24,by decide,by decide,masked,by decide⟩
  have found : (claimed "192.168.7.0/24").2.kernel.lookup "wg-s2s0" = some 1 := by
    rw [claimedRun parsed]
    rfl
  have installed : RouteInstalled (claimed "192.168.7.0/24").2.kernel 1 100 "192.168.7.0/24" :=
    (plainInstalled plain).mpr ((claimedOnly parsed _).mpr (by decide))
  have agree := @routesAgree (claimed "192.168.7.0/24").2.kernel 1 _ (showing "192.168.7.0/24") (routedTunnel "192.168.7.0/24")
    (by decide) found rfl (claimedShows parsed masked (by decide))
  have every : ∀ cidr ∈ (routedTunnel "192.168.7.0/24").cidrs, RouteInstalled (claimed "192.168.7.0/24").2.kernel 1 100 cidr := by
    intro cidr member
    rwa [List.mem_singleton.mp member]
  refine ⟨installed,(agree.mpr ⟨fun _ cidr member => ?_,?_⟩).1 every⟩
  · rwa [List.mem_singleton.mp member]
  · rintro ⟨cidr,member,lacks⟩
    exact absurd (every cidr member) lacks

theorem hostBitsMissing : (claimed "10.0.0.5/24").1 = none ∧ validateCIDRList (routedTunnel "10.0.0.5/24").cidrs "allowedIP" = none ∧
      (claimed "10.0.0.5/24").2.refs.get (routeKey "10.0.0.5/24" 100) = [⟨branchTunnel.id,1⟩] ∧
      RouteInstalled (claimed "10.0.0.5/24").2.kernel 1 100 "10.0.0.5/24" ∧
      ShowsRoutes (claimed "10.0.0.5/24").2.kernel "wg-s2s0" ["10.0.0.0/24"] ∧
      CheckRoutesInstalled (showing "10.0.0.0/24") "wg-s2s0" ["10.0.0.5/24"] = false := by
  have parsed : parseCIDR "10.0.0.5/24".toList = some (.v4 0x0a000005,⟨.v4 0x0a000000,24,by decide,rfl⟩) := by decide
  have masked : MaskedBase 0x0a000000 24 := ⟨by decide,by decide⟩
  refine ⟨by rw [claimedRun parsed],by decide,?_,?_,claimedShows parsed masked (by decide),by decide⟩
  · rw [claimedRun parsed]
    decide
  · exact ⟨⟨⟨.v4 0x0a000000,24,by decide,rfl⟩,1,100⟩,by decide,(claimedOnly parsed _).mpr rfl⟩

end VpnPack.Service
