import VpnPack.Base.Flights

/-! The event hub. A call takes the steps it makes under no common lock: the load and the store of
the state, and one locked section each. Any number of calls are in flight at a time, and
subscribers read their channels and leave between the steps. A channel that is full misses
the message. What the handler writes to the connection is not modelled. -/
namespace VpnPack.Sse
open Base List

-- A nil slice is the empty one.
abbrev Data := List UInt8

structure SSEMessage where
  event : String
  data : Data
  deriving DecidableEq, Repr

def sseChannelBuffer : Nat := 16
def maxSSEClients : Nat := 64

structure Client where
  chan : Nat
  queue : List SSEMessage
  deriving DecidableEq, Repr

structure Hub where
  clients : List Client
  nextChan : Nat
  state : Option Data
  deriving DecidableEq, Repr

def NewHub : Hub := ⟨[],0,none⟩
def CurrentState (h : Hub) : Data := h.state.getD []
def hasRoom (c : Client) : Bool := c.queue.length < sseChannelBuffer

-- select { case ch <- msg: default: }
def offer (msg : SSEMessage) (c : Client) : Client := if hasRoom c then {c with queue := c.queue ++ [msg]} else c
def fanOut (msg : SSEMessage) (h : Hub) : Hub := {h with clients := h.clients.map (offer msg)}

def addClient (h : Hub) : Hub :=
  if maxSSEClients ≤ h.clients.length then h else {h with clients := h.clients ++ [⟨h.nextChan,[]⟩], nextChan := h.nextChan+1}

inductive Call where
  | Broadcast (data : Data)
  | BroadcastIfChanged (data : Data)
  | BroadcastNamed (event : String) (data : Data)
  | Subscribe
  deriving DecidableEq, Repr

inductive Phase where
  | load (data : Data)
  | store (data : Data)
  | send (data : Data)
  | sendNamed (event : String) (data : Data)
  | subscribe
  deriving DecidableEq, Repr

def Call.first : Call → Phase
  | .Broadcast data => .store data
  | .BroadcastIfChanged data => .load data
  | .BroadcastNamed event data => .sendNamed event data
  | .Subscribe => .subscribe

def Phase.execute : Phase → Hub → Hub × Option Phase
  | .load data,h => (h,if CurrentState h = data then none else some (.store data))
  | .store data,h => ({h with state := some data},some (.send data))
  | .send data,h => (fanOut ⟨"",data⟩ h,none)
  | .sendNamed event data,h => (fanOut ⟨event,data⟩ h,none)
  | .subscribe,h => (addClient h,none)

inductive Reader where
  | receive (chan : Nat)
  | unsubscribe (chan : Nat)
  deriving DecidableEq, Repr

def Reader.change : Reader → Hub → Hub
  | .receive chan,h => {h with clients := h.clients.map (fun c => if c.chan = chan then {c with queue := c.queue.tail} else c)}
  | .unsubscribe chan,h => {h with clients := h.clients.filter (fun c => c.chan != chan)}

abbrev Moment := Event Call Reader

def happens : Moment → Pool Hub Phase → Pool Hub Phase := happen Call.first Phase.execute Reader.change
def Hub.chans (h : Hub) : List Nat := h.clients.map Client.chan

/- What there is to know of the past: who was subscribed at the last store of the state, and the
last unnamed message that was placed in each channel. -/
structure Seen where
  early : List Nat
  last : Nat → Option Data

def unseen : Seen := ⟨[],fun _ => none⟩

def placed (msg : SSEMessage) (h : Hub) (g : Seen) : Seen :=
  if msg.event = "" then {g with last := fun chan => if h.clients.any (fun c => c.chan == chan && hasRoom c) then some msg.data else g.last chan}
  else g

def Phase.note : Phase → Hub → Seen → Seen
  | .load _,_,g => g
  | .store _,h,g => {g with early := h.chans}
  | .send data,h,g => placed ⟨"",data⟩ h g
  | .sendNamed event data,h,g => placed ⟨event,data⟩ h g
  | .subscribe,_,g => g

def note : Moment → Pool Hub Phase → Seen → Seen
  | .advance i,s,g =>
    match s.flight[i]? with
    | none => g
    | some p => p.note s.shared g
  | _,_,g => g

def moves (m : Moment) : Pool Hub Phase × Seen → Pool Hub Phase × Seen := watched happens note m
def beginning : Pool Hub Phase × Seen := (⟨NewHub,[]⟩,unseen)
def Current (h : Hub) (g : Seen) : Prop := ∀ chan ∈ h.chans, chan ∈ g.early → g.last chan = some (CurrentState h)

instance (h : Hub) (g : Seen) : Decidable (Current h g) :=
  inferInstanceAs (Decidable (∀ chan ∈ h.chans, chan ∈ g.early → g.last chan = some (CurrentState h)))

def Phase.sends : Phase → Bool
  | .send _ => true
  | _ => false

def Awaiting (flight : List Phase) : Prop := ∃ p ∈ flight, p.sends = true

instance (flight : List Phase) : Decidable (Awaiting flight) := inferInstanceAs (Decidable (∃ p ∈ flight, p.sends = true))

def Phase.fansOut : Phase → Bool
  | .send _ => true
  | .sendNamed _ _ => true
  | _ => false

def Roomy : Moment → Pool Hub Phase × Seen → Prop
  | .advance i,w => (w.1.flight[i]?).any Phase.fansOut = true → ∀ c ∈ w.1.shared.clients, hasRoom c = true
  | _,_ => True

instance : ∀ (m : Moment) (w : Pool Hub Phase × Seen), Decidable (Roomy m w)
  | .advance i,w => inferInstanceAs (Decidable ((w.1.flight[i]?).any Phase.fansOut = true → ∀ c ∈ w.1.shared.clients, hasRoom c = true))
  | .start _,_ => inferInstanceAs (Decidable True)
  | .outside _,_ => inferInstanceAs (Decidable True)

/- A fan-out of an unnamed message sends the state, or is not the last one, or nobody who was
subscribed before the last store is there to see it. -/
def Harmless (data : Data) (later : List Phase) (h : Hub) (g : Seen) : Prop :=
  Awaiting later ∨ data = CurrentState h ∨ ∀ chan ∈ h.chans, chan ∉ g.early

instance (data : Data) (later : List Phase) (h : Hub) (g : Seen) : Decidable (Harmless data later h g) :=
  inferInstanceAs (Decidable (Awaiting later ∨ data = CurrentState h ∨ ∀ chan ∈ h.chans, chan ∉ g.early))

def Phase.Allowed (later : List Phase) (h : Hub) (g : Seen) : Phase → Prop
  | .send data => Harmless data later h g
  | .sendNamed event data => event = "" → Harmless data later h g
  | _ => True

instance (later : List Phase) (h : Hub) (g : Seen) : ∀ p : Phase, Decidable (p.Allowed later h g)
  | .send data => inferInstanceAs (Decidable (Harmless data later h g))
  | .sendNamed event data => inferInstanceAs (Decidable (event = "" → Harmless data later h g))
  | .load _ => inferInstanceAs (Decidable True)
  | .store _ => inferInstanceAs (Decidable True)
  | .subscribe => inferInstanceAs (Decidable True)

def Allowed : Moment → Pool Hub Phase × Seen → Prop
  | .advance i,w => ∀ p ∈ w.1.flight[i]?, p.Allowed (w.1.flight.eraseIdx i) w.1.shared w.2
  | _,_ => True

instance : ∀ (m : Moment) (w : Pool Hub Phase × Seen), Decidable (Allowed m w)
  | .advance i,w => inferInstanceAs (Decidable (∀ p ∈ w.1.flight[i]?, p.Allowed (w.1.flight.eraseIdx i) w.1.shared w.2))
  | .start _,_ => inferInstanceAs (Decidable True)
  | .outside _,_ => inferInstanceAs (Decidable True)

def Leaves (m : Moment) (w : Pool Hub Phase × Seen) : Prop :=
  ¬ Awaiting (moves m w).1.flight → Current (moves m w).1.shared (moves m w).2

section
variable {s : Pool Hub Phase} {g : Seen} {h : Hub} {i : Nat} {p : Phase} {flight : List Phase}

theorem fanOutChans (msg : SSEMessage) (h : Hub) : (fanOut msg h).chans = h.chans := by
  rw [Hub.chans,Hub.chans,fanOut,map_map]
  refine map_congr_left (fun c _ => ?_)
  simp only [Function.comp,offer]
  split <;> rfl

variable {data : Data} {msg : SSEMessage}

theorem placedAll {chan : Nat} (unnamed : msg.event = "") (roomy : ∀ c ∈ h.clients, hasRoom c = true)
    (member : chan ∈ h.chans) : (placed msg h g).last chan = some msg.data := by
  obtain ⟨c,inside,same⟩ := mem_map.mp member
  have reached : h.clients.any (fun c => c.chan == chan && hasRoom c) = true := any_eq_true.mpr ⟨c,inside,by simp [same,roomy c inside]⟩
  rw [placed,if_pos unnamed]
  exact if_pos reached

theorem placedEarly (msg : SSEMessage) (h : Hub) (g : Seen) : (placed msg h g).early = g.early := by
  unfold placed
  split <;> rfl

theorem sentCurrent (unnamed : msg.event = "") (roomy : ∀ c ∈ h.clients, hasRoom c = true) :
    Current (fanOut msg h) (placed msg h g) ↔ msg.data = CurrentState h ∨ ∀ chan ∈ h.chans, chan ∉ g.early := by
  rw [Current,fanOutChans,placedEarly]
  have state : CurrentState (fanOut msg h) = CurrentState h := rfl
  rw [state]
  constructor
  · intro current
    by_contra neither
    obtain ⟨stale,seen⟩ := not_or.mp neither
    refine seen (fun chan member early => stale ?_)
    have last := current chan member early
    rw [placedAll unnamed roomy member] at last
    exact Option.some.inj last
  · intro either chan member early
    rw [placedAll unnamed roomy member]
    rcases either with same | nobody
    · rw [same]
    · exact absurd early (nobody chan member)

theorem awaitingSettled {next : Option Phase} (here : flight[i]? = some p) (other : p.sends = false) (awaiting : Awaiting flight) :
    Awaiting (settle i flight next) := by
  obtain ⟨q,member,sends⟩ := awaiting
  rcases @settleOthers _ i p q flight next here member with same | inside
  · rw [same,other] at sends
    contradiction
  · exact ⟨q,inside,sends⟩

variable {m : Moment} (r : Reader) {event : String}

theorem namedPlaced (named : event ≠ "") : placed ⟨event,data⟩ h g = g := if_neg named

structure Sound (w : Pool Hub Phase × Seen) : Prop where
  fresh : ∀ chan, chan ∈ w.1.shared.chans ∨ chan ∈ w.2.early → chan < w.1.shared.nextChan
  current : ¬ Awaiting w.1.flight → Current w.1.shared w.2

theorem soundStart : Sound beginning :=
  ⟨fun chan either => by rcases either with here | early <;> contradiction,fun _ chan member => by cases member⟩

theorem moved (here : s.flight[i]? = some p) : moves (.advance i) (s,g) =
    (⟨(p.execute s.shared).1,settle i s.flight (p.execute s.shared).2⟩,p.note s.shared g) := by
  simp only [moves,watched,happens,advanced here,note,here]

theorem movedNothing (here : s.flight[i]? = none) : moves (.advance i) (s,g) = (s,g) := by
  simp only [moves,watched,happens,advancedNothing here,note,here]

theorem addClientChans (h : Hub) : (addClient h = h) ∨ (addClient h).chans = h.chans ++ [h.nextChan] ∧ (addClient h).nextChan = h.nextChan+1 := by
  unfold addClient
  split
  · exact .inl rfl
  · exact .inr ⟨by simp [Hub.chans],rfl⟩

theorem addClientState (h : Hub) : CurrentState (addClient h) = CurrentState h := by
  unfold addClient
  split <;> rfl

theorem addClientCurrent (fresh : ∀ chan ∈ g.early, chan < h.nextChan) (current : Current h g) : Current (addClient h) g := by
  rcases addClientChans h with same | ⟨grown,_⟩
  · rw [same]
    exact current
  · intro chan member early
    rw [addClientState]
    rw [grown] at member
    rcases mem_append.mp member with old | new
    · exact current chan old early
    · rw [mem_singleton.mp new] at early
      exact absurd (fresh _ early) (Nat.lt_irrefl _)

theorem readerChans (h : Hub) : ∀ chan ∈ (r.change h).chans, chan ∈ h.chans := by
  intro chan member
  obtain ⟨c,inside,same⟩ := mem_map.mp member
  cases r with
  | receive who =>
    obtain ⟨old,known,rfl⟩ := mem_map.mp inside
    refine mem_map.mpr ⟨old,known,?_⟩
    rw [← same]
    split <;> rfl
  | unsubscribe who => exact mem_map.mpr ⟨c,(mem_filter.mp inside).1,same⟩

theorem readerRest (h : Hub) : CurrentState (r.change h) = CurrentState h ∧ (r.change h).nextChan = h.nextChan := by
  cases r <;> exact ⟨rfl,rfl⟩

theorem startSound {call : Call} (sound : Sound (s,g)) : Sound (moves (.start call) (s,g)) := by
  refine ⟨sound.fresh,fun idle => sound.current (fun ⟨p,member,sends⟩ => idle ⟨p,mem_append_left _ member,sends⟩)⟩

theorem readerSound {r : Reader} (sound : Sound (s,g)) : Sound (moves (.outside r) (s,g)) := by
  obtain ⟨state,next⟩ := readerRest r s.shared
  refine ⟨fun chan either => ?_,fun idle chan member early => ?_⟩
  · have known := sound.fresh chan (either.imp_left (readerChans r s.shared chan))
    exact next ▸ known
  · have known := sound.current idle chan (readerChans r s.shared chan member) early
    exact known.trans (congrArg some state.symm)

theorem sentSound (unnamed : msg.event = "") (roomy : ∀ c ∈ s.shared.clients, hasRoom c = true)
    (sound : Sound (s,g)) (harmless : Harmless msg.data flight s.shared g) : Sound (⟨fanOut msg s.shared,flight⟩,placed msg s.shared g) := by
  refine ⟨fun chan either => ?_,fun idle => (sentCurrent unnamed roomy).mpr (harmless.resolve_left idle)⟩
  rw [fanOutChans,placedEarly] at either
  exact sound.fresh chan either

theorem stillIdle (here : s.flight[i]? = some p) (other : p.sends = false)
    (idle : ¬ Awaiting (settle i s.flight (p.execute s.shared).2)) : ¬ Awaiting s.flight :=
  fun awaiting => idle (awaitingSettled here other awaiting)

theorem namedSound (named : event ≠ "") (here : s.flight[i]? = some (.sendNamed event data))
    (sound : Sound (s,g)) : Sound (moves (.advance i) (s,g)) := by
  rw [moved here,Phase.note,namedPlaced named]
  have same := fanOutChans ⟨event,data⟩ s.shared
  refine ⟨fun chan either => ?_,fun idle chan member => ?_⟩
  · dsimp only [Phase.execute] at either
    rw [same] at either
    exact sound.fresh chan either
  · dsimp only [Phase.execute] at member
    rw [same] at member
    exact sound.current (stillIdle here rfl idle) chan member

theorem storeSound (here : s.flight[i]? = some (.store data)) (sound : Sound (s,g)) : Sound (moves (.advance i) (s,g)) := by
  rw [moved here]
  refine ⟨fun chan either => ?_,fun idle => absurd ⟨.send data,settleNext here,rfl⟩ idle⟩
  rcases either with member | early
  · exact sound.fresh chan (.inl member)
  · exact sound.fresh chan (.inl early)

theorem loadSound (here : s.flight[i]? = some (.load data)) (sound : Sound (s,g)) : Sound (moves (.advance i) (s,g)) := by
  rw [moved here]
  exact ⟨sound.fresh,fun idle => sound.current (stillIdle here rfl idle)⟩

theorem subscribeSound (here : s.flight[i]? = some .subscribe) (sound : Sound (s,g)) : Sound (moves (.advance i) (s,g)) := by
  rw [moved here]
  refine ⟨fun chan either => ?_,fun idle => ?_⟩
  · rcases addClientChans s.shared with same | ⟨grown,next⟩
    · rw [Phase.execute,same] at either ⊢
      exact sound.fresh chan either
    · rw [Phase.execute,grown] at either
      rw [Phase.execute,next]
      rcases either with member | early
      · rcases mem_append.mp member with old | new
        · exact Nat.lt_succ_of_lt (sound.fresh chan (.inl old))
        · rw [mem_singleton.mp new]
          exact Nat.lt_succ_self _
      · exact Nat.lt_succ_of_lt (sound.fresh chan (.inr early))
  · have before := sound.current (stillIdle here rfl idle)
    exact addClientCurrent (fun chan early => sound.fresh chan (.inr early)) before

theorem allowedSound (sound : Sound (s,g)) (roomy : Roomy m (s,g)) (allowed : Allowed m (s,g)) : Sound (moves m (s,g)) := by
  cases m with
  | start call => exact startSound sound
  | outside r => exact readerSound sound
  | advance i =>
    cases here : s.flight[i]? with
    | none =>
      rw [movedNothing here]
      exact sound
    | some p =>
      have allows := allowed p here
      have room (fans : p.fansOut = true) := roomy (by rw [here]; exact fans)
      cases p with
      | load data => exact loadSound here sound
      | store data => exact storeSound here sound
      | subscribe => exact subscribeSound here sound
      | send data =>
        rw [moved here]
        exact sentSound rfl (room rfl) sound allows
      | sendNamed event data =>
        by_cases unnamed : event = ""
        · rw [moved here]
          exact sentSound unnamed (room rfl) sound (allows unnamed)
        · exact namedSound unnamed here sound

theorem leavesAllowed (roomy : Roomy m (s,g)) (leaves : Leaves m (s,g)) : Allowed m (s,g) := by
  cases m with
  | start _ | outside _ => trivial
  | advance i =>
    intro p here
    have room (fans : p.fansOut = true) := roomy (by rw [here]; exact fans)
    unfold Leaves at leaves
    rw [moved here] at leaves
    cases p with
    | load _ | store _ | subscribe => trivial
    | send data =>
      by_cases awaiting : Awaiting (s.flight.eraseIdx i)
      · exact .inl awaiting
      · exact .inr ((sentCurrent rfl (room rfl)).mp (leaves awaiting))
    | sendNamed event data =>
      intro unnamed
      by_cases awaiting : Awaiting (s.flight.eraseIdx i)
      · exact .inl awaiting
      · exact .inr ((sentCurrent unnamed (room rfl)).mp (leaves awaiting))

end

theorem hubUpToDate {run : List Moment} (roomy : Along moves Roomy run beginning) :
    (Along moves Leaves run beginning ↔ Along moves Allowed run beginning) ∧
      (Along moves Allowed run beginning → (run.foldl (fun w m => moves m w) beginning).1.flight = [] →
        Current (run.foldl (fun w m => moves m w) beginning).1.shared (run.foldl (fun w m => moves m w) beginning).2) := by
  have known (m : Moment) (w : Pool Hub Phase × Seen) (sound : Sound w) (room : Roomy m w) : Leaves m w ↔ Allowed m w :=
    ⟨leavesAllowed room,fun allowed => (allowedSound sound room allowed).current⟩
  have both (ok : Moment → Pool Hub Phase × Seen → Prop) :
      Along moves ok run beginning ↔ Along moves (fun m w => Roomy m w ∧ ok m w) run beginning := by
    rw [alongAnd,and_iff_right roomy]
  constructor
  · rw [both Leaves,both Allowed]
    refine alongIff Sound (fun m _ w sound => and_congr_right (fun room => known m w sound room))
      (fun m _ w sound step => allowedSound sound step.1 step.2) soundStart
  · intro allowed idle
    have reached := reachedAlong ((both Allowed).mp allowed)
    have sound := reachedInvariant Sound soundStart (fun m w sound step => allowedSound sound step.1 step.2) reached
    refine sound.current (fun ⟨p,member,_⟩ => ?_)
    rw [idle] at member
    contradiction

def inTurn : List Moment :=
  [.start .Subscribe,.advance 0,.start (.Broadcast [97]),.advance 0,.advance 0,.start (.BroadcastIfChanged [98]),
    .start (.BroadcastNamed "health" [99]),.advance 0,.advance 0,.advance 1,.advance 0]

theorem hubUpToDateInTurn : let final := inTurn.foldl (fun w m => moves m w) beginning
    final.1.flight = [] ∧ final.1.shared.chans = [0] ∧ final.2.early = [0] ∧ Current final.1.shared final.2 := by
  intro final
  have idle : final.1.flight = [] := by decide
  exact ⟨idle,by decide,by decide,(hubUpToDate (by decide)).2 (by decide) idle⟩

def crossing : List Moment :=
  [.start .Subscribe,.advance 0,.start (.Broadcast [97]),.start (.Broadcast [98]),.advance 0,.advance 1,.advance 1,.advance 0]

theorem crossingLeavesStale : let final := crossing.foldl (fun w m => moves m w) beginning
    Along moves Roomy crossing beginning ∧ final.1.flight = [] ∧ final.1.shared.chans = [0] ∧ final.2.early = [0] ∧
      CurrentState final.1.shared = [98] ∧ final.2.last 0 = some [97] ∧ ¬ Current final.1.shared final.2 := by
  intro final
  exact ⟨by decide,by decide,by decide,by decide,by decide,by decide,by decide⟩

end VpnPack.Sse
