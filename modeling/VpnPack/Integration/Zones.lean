import VpnPack.Base.Runs
import VpnPack.Integration.Listing

/-! Zones found or created by name when every request is answered. CreateZone and
DeleteZone leave the cached list as it is, so a call within the lifetime of the
cache may search a list that is out of date. -/
namespace VpnPack.Integration
open Base List

inductive ZoneCall where
  | listZones (siteID : String)
  | ensureZone (siteID name : String)
  | deleteZone (siteID zoneID : String)
  deriving DecidableEq, Repr

def zoneCall (world : World) : ZoneCall → Client → Client
  | .listZones siteID,c => (ListZones world siteID c).2
  | .ensureZone siteID name,c => (EnsureZone world siteID name c).2
  | .deleteZone siteID zoneID,c => (DeleteZone world siteID zoneID c).2

def DistinctNames (c : Client) : Prop := ∀ siteID, ((c.sites siteID).zones.map Zone.name).Nodup
def Live (c : Client) (siteID name id : String) : Prop := ∃ z ∈ (c.sites siteID).zones, z.id = id ∧ z.name = name

def Ensures (world : World) (a : ZoneCall) (c : Client) : Prop :=
  DistinctNames (zoneCall world a c) ∧
    ∀ siteID name, a = .ensureZone siteID name →
      ∃ z, (EnsureZone world siteID name c).1 = .ok z ∧ Live (zoneCall world a c) siteID name z.id

/- The list that is searched is right about the name: what is found there exists, and
what is missing there does not. -/
def Agrees (world : World) : ZoneCall → Client → Prop
  | .ensureZone siteID name,c =>
    match zoneNamed (listing world siteID c) name with
    | some z => Live c siteID name z.id
    | none => zoneNamed (c.sites siteID).zones name = none
  | _,_ => True

section
variable {world : World} {siteID name : String} {c d : Client}

theorem ensureZoneFound {z : Zone} (reliable : Reliable world c) (found : zoneNamed (listing world siteID c) name = some z) :
    ∃ d, EnsureZone world siteID name c = (.ok z,d) ∧ Asked c d := by
  obtain ⟨d,searched,asked⟩ := @findZoneAnswered world siteID c name reliable
  rw [found] at searched
  exact ⟨d,by simp only [EnsureZone,searched],asked⟩

def withZone (sites : Sites) (siteID : String) (z : Zone) : Sites :=
  sites.set siteID {sites siteID with zones := (sites siteID).zones ++ [z]}

theorem ensureZoneCreates (reliable : Reliable world c) (absent : zoneNamed (listing world siteID c) name = none) :
    ∃ id d, EnsureZone world siteID name c = (.ok ⟨id,name⟩,d) ∧ d.sites = withZone c.sites siteID ⟨id,name⟩ ∧ d.apiKey = c.apiKey := by
  obtain ⟨d,searched,asked⟩ := @findZoneAnswered world siteID c name reliable
  rw [absent] at searched
  have created : CreateZone world siteID name d = (.ok ⟨world.ids d.calls,name⟩,
      {d with calls := d.calls+1, sites := withZone d.sites siteID ⟨world.ids d.calls,name⟩}) :=
    requestAnswered (reliableAsked reliable asked)
  refine ⟨world.ids d.calls,{d with calls := d.calls+1, sites := withZone d.sites siteID ⟨world.ids d.calls,name⟩},?_,?_,asked.apiKey⟩
  · simp only [EnsureZone,searched,created]
  · rw [asked.sites]

theorem namesWithZone {z : Zone} (distinct : DistinctNames c) (grown : d.sites = withZone c.sites siteID z) :
    DistinctNames d ↔ zoneNamed (c.sites siteID).zones z.name = none := by
  have here : (d.sites siteID).zones = (c.sites siteID).zones ++ [z] := by
    rw [grown,withZone,Sites.setHere]
  rw [zoneNamedNone]
  constructor
  · intro after
    have nodup := after siteID
    rw [here,map_append,nodup_append] at nodup
    intro w member same
    exact nodup.2.2 w.name (mem_map_of_mem member) z.name (by simp) same
  · intro absent other
    by_cases same : other = siteID
    · subst same
      rw [here,map_append,nodup_append]
      refine ⟨distinct other,by simp,fun a old b new => ?_⟩
      obtain ⟨w,member,rfl⟩ := mem_map.mp old
      rw [map_singleton,mem_singleton] at new
      rw [new]
      exact absent w member
    · rw [grown,withZone,Sites.setOther _ _ same]
      exact distinct other

theorem deleteZoneNames {zoneID : String} (reliable : Reliable world c) (distinct : DistinctNames c) :
    DistinctNames (DeleteZone world siteID zoneID c).2 ∧ (DeleteZone world siteID zoneID c).2.apiKey = c.apiKey := by
  rw [DeleteZone,requestAnswered reliable]
  refine ⟨fun other => ?_,rfl⟩
  simp only [removeZone]
  split
  · by_cases same : other = siteID
    · subst same
      simp only [Sites.setHere]
      exact (distinct other).sublist (filter_sublist.map _)
    · simp only [Sites.setOther _ _ same]
      exact distinct other
  · exact distinct other

theorem ensureServed (reliable : Reliable world c) (distinct : DistinctNames c) :
    (Ensures world (.ensureZone siteID name) c ↔ Agrees world (.ensureZone siteID name) c) ∧
      (EnsureZone world siteID name c).2.apiKey = c.apiKey := by
  simp only [Ensures,Agrees,zoneCall]
  cases found : zoneNamed (listing world siteID c) name with
  | some z =>
    obtain ⟨d,ran,asked⟩ := ensureZoneFound reliable found
    rw [ran]
    refine ⟨⟨fun good => ?_,fun live => ⟨?_,?_⟩⟩,asked.apiKey⟩
    · obtain ⟨w,same,live⟩ := good.2 siteID name rfl
      rw [ran] at same
      cases same
      rw [Live,asked.sites] at live
      exact live
    · rw [DistinctNames,asked.sites]
      exact distinct
    · intro s n same
      cases same
      refine ⟨z,by rw [ran],?_⟩
      rw [Live,asked.sites]
      exact live
  | none =>
    obtain ⟨id,d,ran,grown,key⟩ := ensureZoneCreates reliable found
    rw [ran]
    refine ⟨⟨fun good => (namesWithZone distinct grown).mp good.1,fun absent => ⟨(namesWithZone distinct grown).mpr absent,?_⟩⟩,key⟩
    intro s n same
    cases same
    refine ⟨⟨id,name⟩,by rw [ran],⟨id,name⟩,?_,rfl,rfl⟩
    rw [grown,withZone,Sites.setHere]
    exact mem_append_right _ mem_cons_self

theorem zoneCallServed (a : ZoneCall) (reliable : Reliable world c) (distinct : DistinctNames c) :
    (Ensures world a c ↔ Agrees world a c) ∧ (zoneCall world a c).apiKey = c.apiKey := by
  cases a with
  | ensureZone siteID name => exact ensureServed reliable distinct
  | listZones siteID =>
    obtain ⟨d,ran,asked⟩ := @listZonesAnswered world siteID c reliable
    have names : DistinctNames (zoneCall world (.listZones siteID) c) := by
      rw [zoneCall,ran,DistinctNames,asked.sites]
      exact distinct
    refine ⟨iff_of_true ⟨names,fun _ _ bad => (by cases bad)⟩ trivial,?_⟩
    rw [zoneCall,ran]
    exact asked.apiKey
  | deleteZone siteID zoneID =>
    obtain ⟨names,key⟩ := @deleteZoneNames world siteID c zoneID reliable distinct
    exact ⟨iff_of_true ⟨names,fun _ _ bad => (by cases bad)⟩ trivial,key⟩

end

def strokes (n : Nat) : String := String.ofList (List.replicate (n+1) '|')

theorem strokesInj : Function.Injective strokes := by
  intro m n same
  have lists := congrArg String.toList same
  have lengths := congrArg List.length lists
  simpa [strokes] using lengths

theorem strokesText (n : Nat) : strokes n ≠ "" := by
  intro empty
  have lists := congrArg String.toList empty
  simp [strokes,replicate_succ] at lists

def steady (pace : Int) : World := ⟨fun _ => .ok,strokes,fun n => pace * n,true,strokesInj,strokesText⟩
def internalZone : Zone := ⟨"int","Internal"⟩
def oneSite : Client := ⟨fun _ => ⟨[internalZone],[]⟩,"key",0,0,[],"",0⟩
def ensureTwice : List ZoneCall := [.ensureZone "default" "A",.ensureZone "default" "A"]

end VpnPack.Integration
