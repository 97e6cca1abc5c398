import VpnPack.Firewall.Overlap
import VpnPack.Service.PortRuns

/-! The configuration that GetConfig hands out for the peer of a tunnel. Which sources the
peer will accept is said with the sets of addresses its AllowedIPs entries stand for.
The stored public key and the two providers are given; of a subnet only the CIDR is read. -/
namespace VpnPack.Service
open Base Firewall List Net Wgs2s

-- none: the provider is nil.
structure PeerEnv where
  publicKey : String → Except GoError String
  wanIP : Option String
  localSubnets : Option (List String)

-- net.IP.String
def ipText (ip : Addr) : String := String.ofList (shortAddr ip).text

def siteSubnets (env : PeerEnv) (t : TunnelConfig) : List String :=
  if 0 < (t.localSubnets.getD []).length then t.localSubnets.getD [] else env.localSubnets.getD []

def hostEntry (t : TunnelConfig) : List String :=
  if t.tunnelAddress ≠ "" then
    match parseCIDR t.tunnelAddress.toList with
    | some (ip,_) => [ipText ip ++ "/32"]
    | none => []
  else []

def peerAllowedIPs (env : PeerEnv) (t : TunnelConfig) : List String := siteSubnets env t ++ hostEntry t

def peerOpening (env : PeerEnv) (pubKey : String) (t : TunnelConfig) : String :=
  let wanIP := env.wanIP.getD ""
  "[Interface]\nPrivateKey = <PRIVATE_KEY>\nAddress = <TUNNEL_ADDRESS>\nListenPort = " ++ toString t.listenPort ++
    "\n\n[Peer]\nPublicKey = " ++ pubKey ++ "\n" ++
    (if wanIP ≠ "" then "Endpoint = " ++ wanIP ++ ":" ++ toString t.listenPort ++ "\n" else "")

def allowedLine (allowedIPs : List String) : String := "AllowedIPs = " ++ ", ".intercalate allowedIPs ++ "\n"

def keepaliveLine (t : TunnelConfig) : String :=
  if 0 < t.persistentKeepalive then "PersistentKeepalive = " ++ toString t.persistentKeepalive ++ "\n" else ""

def peerText (env : PeerEnv) (pubKey : String) (t : TunnelConfig) : String :=
  peerOpening env pubKey t ++ (if 0 < (peerAllowedIPs env t).length then allowedLine (peerAllowedIPs env t) else "") ++ keepaliveLine t

def GetConfig (env : PeerEnv) (id : String) (s : System) : Except Error String :=
  match findTunnelByID id s with
  | none => .error (notFoundError "tunnel not found")
  | some tunnel =>
    match env.publicKey id with
    | .error _ => .error (internalError "failed to read public key" none)
    | .ok pubKey => .ok (peerText env pubKey tunnel)

def HostOnly (entry : String) (host : Addr) : Prop :=
  ∃ ip n, parseCIDR entry.toList = some (ip,n) ∧ addresses n = {to16 host}

section
variable {env : PeerEnv} {t : TunnelConfig} {host : Addr} {net : Prefix}

theorem hostEntryValid (valid : parseCIDR t.tunnelAddress.toList = some (host,net)) : hostEntry t = [ipText host ++ "/32"] := by
  have filled : t.tunnelAddress ≠ "" := by
    intro empty
    have refused : parseCIDR "".toList = none := rfl
    rw [empty,refused] at valid
    contradiction
  simp only [hostEntry,if_pos filled,valid]

theorem entryChars (host : Addr) : (ipText host ++ "/32").toList = (shortAddr host).text ++ '/' :: Nat.toDigits 10 32 := by
  rw [String.toList_append,ipText,String.toList_ofList]
  rfl

theorem hostEntryOnly (zoneless : host.zone = "") : HostOnly (ipText host ++ "/32") host ↔ IsIPv4 host := by
  rw [HostOnly,entryChars]
  rcases shortSource zoneless with ⟨v,short,form,mapped⟩ | ⟨v,short,form,unmapped⟩
  · refine iff_of_true ?_ mapped
    obtain ⟨n,parsed,base,bits⟩ := @parseCIDRText (.v4 v) 32 rfl (Nat.le_refl 32)
    rw [short]
    refine ⟨_,n,parsed,?_⟩
    have whole : to16 n.addr = to16 host := by
      have small := v.isLt
      rw [base,form]
      simp only [Addr.masked,to16,keepBits,Nat.sub_self,Nat.pow_zero,Nat.div_one,Nat.mul_one,BitVec.ofNat_toNat,BitVec.setWidth_eq]
    have narrow : hostBits n = 0 := by simp [hostBits,base,bits,Addr.masked,Addr.width]
    ext x
    simp only [addresses,whole,narrow,Set.mem_ofPred_eq,Set.mem_singleton_iff]
    omega
  · refine iff_of_false ?_ unmapped
    obtain ⟨n,parsed,base,bits⟩ := @parseCIDRText (.v6 v "") 32 rfl (show 32 ≤ 128 by decide)
    rw [short]
    rintro ⟨ip,m,read,only⟩
    cases parsed.symm.trans read
    have wide : hostBits n = 96 := by simp [hostBits,base,bits,Addr.masked,Addr.width]
    have first : to16 n.addr ∈ addresses n := ⟨Nat.le_refl _,by rw [wide]; omega⟩
    have second : to16 n.addr + 1 ∈ addresses n := ⟨Nat.le_succ _,by rw [wide]; omega⟩
    rw [only,Set.mem_singleton_iff] at first second
    omega

theorem allowedIff (valid : parseCIDR t.tunnelAddress.toList = some (host,net)) :
    ((∀ entry ∈ peerAllowedIPs env t, entry ∈ siteSubnets env t ∨ HostOnly entry host) ∧ ∃ entry ∈ peerAllowedIPs env t, HostOnly entry host) ↔
      IsIPv4 host ∨ ipText host ++ "/32" ∈ siteSubnets env t ∧ ∃ entry ∈ siteSubnets env t, HostOnly entry host := by
  have exact_ := hostEntryOnly (parseCIDRZone valid)
  rw [peerAllowedIPs,hostEntryValid valid]
  constructor
  · rintro ⟨every,entry,member,only⟩
    by_cases mapped : IsIPv4 host
    · exact .inl mapped
    · have stray : ¬ HostOnly (ipText host ++ "/32") host := fun known => mapped (exact_.mp known)
      refine .inr ⟨(every _ (by simp)).resolve_right stray,entry,?_,only⟩
      rcases mem_append.mp member with inside | last
      · exact inside
      · exact absurd (mem_singleton.mp last ▸ only) stray
  · rintro (mapped | ⟨listed,entry,inside,only⟩)
    · refine ⟨?_,_,mem_append_right _ mem_cons_self,exact_.mpr mapped⟩
      intro entry member
      rcases mem_append.mp member with inside | last
      · exact .inl inside
      · exact .inr (mem_singleton.mp last ▸ exact_.mpr mapped)
    · refine ⟨?_,entry,mem_append_left _ inside,only⟩
      intro other member
      rcases mem_append.mp member with known | last
      · exact .inl known
      · exact .inl (mem_singleton.mp last ▸ listed)

theorem peerAllowsSite {s : System} {id pubKey : String} (found : findTunnelByID id s = some t) (key : env.publicKey id = .ok pubKey)
    (valid : parseCIDR t.tunnelAddress.toList = some (host,net)) :
    (∃ before after, GetConfig env id s = .ok (before ++ allowedLine (peerAllowedIPs env t) ++ after)) ∧
      (((∀ entry ∈ peerAllowedIPs env t, entry ∈ siteSubnets env t ∨ HostOnly entry host) ∧
          ∃ entry ∈ peerAllowedIPs env t, HostOnly entry host) ↔
        IsIPv4 host ∨ ipText host ++ "/32" ∈ siteSubnets env t ∧ ∃ entry ∈ siteSubnets env t, HostOnly entry host) := by
  refine ⟨?_,allowedIff valid⟩
  have filled : 0 < (peerAllowedIPs env t).length := by
    rw [peerAllowedIPs,hostEntryValid valid,length_append]
    exact Nat.lt_add_left _ Nat.zero_lt_one
  simp only [GetConfig,found,key,peerText,if_pos filled]
  exact ⟨_,_,rfl⟩

end

def exportEnv : PeerEnv := ⟨fun _ => .ok "key",none,some ["192.168.1.0/24"]⟩
def exportTunnel (address : String) : TunnelConfig := {branchTunnel with tunnelAddress := address, localSubnets := none}
def exportSystem (address : String) : System := {vacantSystem with wg := {vacant with config := [exportTunnel address]}}

theorem exportFound (address : String) : findTunnelByID branchTunnel.id (exportSystem address) = some (exportTunnel address) := rfl

theorem peerAllowsSiteIPv4 : (∃ before after, GetConfig exportEnv branchTunnel.id (exportSystem "10.255.0.1/24") =
        .ok (before ++ allowedLine ["192.168.1.0/24","10.255.0.1/32"] ++ after)) ∧
      ∃ entry ∈ peerAllowedIPs exportEnv (exportTunnel "10.255.0.1/24"), HostOnly entry (.v4 0x0aff0001) := by
  have valid : ∃ net, parseCIDR (exportTunnel "10.255.0.1/24").tunnelAddress.toList = some (.v4 0x0aff0001,net) :=
    ⟨⟨.v4 0x0aff0000,24,by decide,rfl⟩,by decide⟩
  obtain ⟨net,parsed⟩ := valid
  obtain ⟨line,site⟩ := @peerAllowsSite exportEnv _ _ _ _ _ _ (exportFound "10.255.0.1/24") rfl parsed
  exact ⟨line,(site.mpr (.inl (isIPv4Small _))).2⟩

theorem peerAllowsIPv6Block : parseCIDR (exportTunnel "fd00:1::1/64").tunnelAddress.toList =
        some (.v6 0xfd000001000000000000000000000001 "",⟨.v6 0xfd000001000000000000000000000000 "",64,by decide,rfl⟩) ∧
      siteSubnets exportEnv (exportTunnel "fd00:1::1/64") = ["192.168.1.0/24"] ∧
      peerAllowedIPs exportEnv (exportTunnel "fd00:1::1/64") = ["192.168.1.0/24","fd00:1::1/32"] ∧
      ¬ HostOnly "fd00:1::1/32" (.v6 0xfd000001000000000000000000000001 "") := by
  refine ⟨by decide,by decide,by decide,?_⟩
  have shown : "fd00:1::1/32" = ipText (.v6 0xfd000001000000000000000000000001 "") ++ "/32" := by decide
  rw [shown,hostEntryOnly rfl]
  simp [IsIPv4,to16]

end VpnPack.Service
