import VpnPack.Net.Prefix

/-! The subnet validator: which of the wanted networks overlap one of the host. Addresses
of a network and masks are those of package net, where an IPv4-mapped network is an
IPv4 network. What the kernel is asked for is the argument. -/
namespace VpnPack.Firewall
open Net

structure InterfaceSubnet where
  cidr : String
  iface : String
  deriving DecidableEq, Repr

structure RouteSubnet where
  cidr : String
  iface : String
  gateway : String
  protocol : String
  deriving DecidableEq, Repr

-- Of the policy rules only their number is asked for.
structure SystemSubnets where
  interfaces : List InterfaceSubnet
  routes : List RouteSubnet
  table52Routes : List RouteSubnet
  pbrRules : Nat
  deriving DecidableEq, Repr

structure SubnetConflict where
  cidr : String
  conflictsWith : String
  iface : String
  severity : String
  message : String
  deriving DecidableEq, Repr

structure ValidationResult where
  blocked : List SubnetConflict
  warnings : List SubnetConflict
  deriving DecidableEq, Repr

-- networkNumberAndMask: the bytes To4 leaves, and how many bits of the mask fall on them.
def networkNumber (n : Prefix) : Addr × Nat :=
  match n.addr,shortAddr n.addr with
  | .v6 _ _,.v4 v => (.v4 v,n.bits-96)
  | _,short => (short,n.bits)

def contains (n : Prefix) (ip : Addr) : Bool :=
  (shortAddr ip).width == (networkNumber n).1.width &&
    (shortAddr ip).masked (networkNumber n).2 == (networkNumber n).1.masked (networkNumber n).2

def subnetsOverlap (a b : Prefix) : Bool := contains a b.addr || contains b a.addr

def conflicts (candidate : Prefix) (cidr : String) : Bool :=
  match parseCIDR cidr.toList with
  | none => false
  | some (_,host) => subnetsOverlap candidate host

def RouteSubnet.via (rt : RouteSubnet) : String := if rt.gateway ≠ "" then rt.gateway else rt.iface

def blockedBy (cidr : String) (sub : InterfaceSubnet) : SubnetConflict :=
  ⟨cidr,sub.cidr,sub.iface,"block",cidr ++ " overlaps with " ++ sub.cidr ++ " (" ++ sub.iface ++ ")"⟩

def table52Warning (cidr : String) (rt : RouteSubnet) : SubnetConflict :=
  ⟨cidr,rt.cidr ++ " (table 52 via " ++ rt.via ++ ")",rt.iface,"warn",
    "Tailscale route " ++ rt.cidr ++ " in table 52 (priority 5270) overrides S2S routes in main table (priority 32000). " ++
      "Traffic will go through Tailscale instead of this tunnel."⟩

def pbrWarning (cidr : String) : SubnetConflict :=
  ⟨cidr,"Traffic Routes (PBR)","","warn",
    "Traffic Routes are configured on this device (ip rules at priority 32500+). " ++
      "S2S route " ++ cidr ++ " in main table (priority 32000) takes precedence over Traffic Routes (priority 32500+). " ++
      "If any Traffic Route targets destinations overlapping with " ++ cidr ++ ", it will stop working."⟩

def routeWarning (cidr : String) (rt : RouteSubnet) : SubnetConflict :=
  ⟨cidr,rt.cidr ++ " (" ++ rt.protocol ++ " route via " ++ rt.via ++ ")",rt.iface,"warn",
    "Overlaps with existing route " ++ rt.cidr ++ ". Traffic may not be routed through tunnel."⟩

def validateOne (sys : SystemSubnets) (cidr : String) : ValidationResult :=
  match parseCIDR cidr.toList with
  | none => ⟨[],[]⟩
  | some (_,candidate) =>
    match sys.interfaces.find? (fun sub => conflicts candidate sub.cidr) with
    | some sub => ⟨[blockedBy cidr sub],[]⟩
    | none =>
      match sys.table52Routes.find? (fun rt => conflicts candidate rt.cidr) with
      | some rt => ⟨[],[table52Warning cidr rt]⟩
      | none =>
        if sys.pbrRules > 0 then ⟨[],[pbrWarning cidr]⟩
        else
          match sys.routes.find? (fun rt => conflicts candidate rt.cidr) with
          | some rt => ⟨[],[routeWarning cidr rt]⟩
          | none => ⟨[],[]⟩

def ValidateAllowedIPs (cidrs : List String) (sys : SystemSubnets) : ValidationResult :=
  cidrs.foldl (fun result cidr =>
    ⟨result.blocked ++ (validateOne sys cidr).blocked,result.warnings ++ (validateOne sys cidr).warnings⟩) ⟨[],[]⟩

end VpnPack.Firewall
