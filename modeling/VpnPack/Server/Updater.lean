import Mathlib.Data.List.Basic
import Mathlib.Logic.Function.Basic
import VpnPack.Base.Flights

/-! The update checker. A call of check takes one step for each of its locked sections and for
what singleflight does under its own lock: join or start a call, and hand out its value.
A fetch ends in the section that records it; what it brings is given with the step. Any number
of calls run at a time and time never goes back. How a release is read is not modelled. -/
namespace VpnPack.Updater
open Base List
open Function (update update_self update_of_ne update_eq_self)

structure UpdateInfo where
  available : Bool
  version : String
  currentVersion : String
  changelogURL : String
  deriving DecidableEq, Repr

def hour : Nat := 3600000000000
def UpdateCheckPeriod : Nat := 24*hour
def UpdateFailCacheTTL : Nat := hour/2

-- failedAt is none for the zero time; checkedAt is read only beside an info.
structure UpdateChecker where
  info : Option UpdateInfo
  checkedAt : Nat
  failedAt : Option Nat
  current : String
  deriving DecidableEq, Repr

def newUpdateChecker (current : String) : UpdateChecker := ⟨none,0,none,current⟩

namespace UpdateChecker

def lastKnownLocked (uc : UpdateChecker) : UpdateInfo := uc.info.getD ⟨false,"",uc.current,""⟩
def Fresh (now : Nat) (uc : UpdateChecker) : Prop := uc.info.isSome = true ∧ now-uc.checkedAt < UpdateCheckPeriod
def Failing (now : Nat) (uc : UpdateChecker) : Prop := ∃ t ∈ uc.failedAt, now-t < UpdateFailCacheTTL

instance (now : Nat) (uc : UpdateChecker) : Decidable (uc.Fresh now) := inferInstanceAs (Decidable (_ ∧ _))

instance (now : Nat) (uc : UpdateChecker) : Decidable (uc.Failing now) := inferInstanceAs (Decidable (∃ t ∈ uc.failedAt, now-t < UpdateFailCacheTTL))

def gate (now : Nat) (uc : UpdateChecker) : Option UpdateInfo :=
  if uc.Fresh now then uc.info
  else if uc.Failing now then some uc.lastKnownLocked
  else none

def record (now : Nat) (fetched : Option UpdateInfo) (uc : UpdateChecker) : UpdateChecker :=
  match fetched with
  | none => {uc with failedAt := some now}
  | some info => {uc with info := some info, checkedAt := now, failedAt := none}

end UpdateChecker

-- inFlight: singleflight has a call under the key; vals are the values of the calls that are over.
structure World where
  now : Nat
  checker : UpdateChecker
  inFlight : Bool
  vals : List (Option UpdateInfo)
  deriving DecidableEq, Repr

inductive Phase where
  | entering
  | joining
  | fetching
  | releasing (val : Option UpdateInfo)
  | waiting (call : Nat)
  | missed
  | returned (info : UpdateInfo)
  deriving DecidableEq, Repr

def Phase.check (fetched : Option UpdateInfo) : Phase → World → World × Phase
  | .entering,w =>
    match w.checker.gate w.now with
    | some info => (w,.returned info)
    | none => (w,.joining)
  | .joining,w => if w.inFlight then (w,.waiting w.vals.length) else ({w with inFlight := true},.fetching)
  | .fetching,w => ({w with checker := w.checker.record w.now fetched},.releasing fetched)
  | .releasing val,w => ({w with inFlight := false, vals := w.vals ++ [val]},.waiting w.vals.length)
  -- wg.Wait: nothing happens until the call is over.
  | .waiting call,w =>
    match w.vals[call]? with
    | none => (w,.waiting call)
    | some none => (w,.missed)
    | some (some info) => (w,.returned info)
  | .missed,w => (w,.returned w.checker.lastKnownLocked)
  | .returned info,w => (w,.returned info)

structure System (ι : Type) where
  world : World
  phase : ι → Phase

inductive Move (ι : Type) where
  | pass (d : Nat)
  | advance (i : ι) (fetched : Option UpdateInfo)
  deriving DecidableEq, Repr

/- What there is to know of the past: when each fetch ended and with what, in order, and how many
calls of singleflight were over when a check began. -/
structure Past (ι : Type) where
  ended : List (Nat × Option UpdateInfo)
  began : ι → Nat

section
variable {ι : Type} [DecidableEq ι]

def step : Move ι → System ι → System ι
  | .pass d,s => {s with world := {s.world with now := s.world.now+d}}
  | .advance i fetched,s =>
    let next := (s.phase i).check fetched s.world
    ⟨next.1,update s.phase i next.2⟩

def Phase.note (i : ι) (fetched : Option UpdateInfo) : Phase → World → Past ι → Past ι
  | .entering,w,past => {past with began := update past.began i w.vals.length}
  | .fetching,w,past => {past with ended := past.ended ++ [(w.now,fetched)]}
  | _,_,past => past

def noted : Move ι → System ι → Past ι → Past ι
  | .pass _,_,past => past
  | .advance i fetched,s,past => (s.phase i).note i fetched s.world past

def moves (m : Move ι) : System ι × Past ι → System ι × Past ι := watched step noted m

def beginning (ι : Type) (now : Nat) (current : String) : System ι × Past ι :=
  (⟨⟨now,newUpdateChecker current,false,[]⟩,fun _ => .entering⟩,⟨[],fun _ => 0⟩)

def Starts : Move ι → System ι → Prop
  | .pass _,_ => False
  | .advance i _,s => s.phase i = .joining ∧ s.world.inFlight = false

instance : ∀ (m : Move ι) (s : System ι), Decidable (Starts m s)
  | .pass _,_ => inferInstanceAs (Decidable False)
  | .advance _ _,_ => inferInstanceAs (Decidable (_ ∧ _))

def pause (outcome : Option UpdateInfo) : Nat := if outcome.isSome then UpdateCheckPeriod else UpdateFailCacheTTL
def Spaced (now : Nat) (ended : List (Nat × Option UpdateInfo)) : Prop := ∀ e ∈ ended, e.1+pause e.2 ≤ now

instance (now : Nat) (ended : List (Nat × Option UpdateInfo)) : Decidable (Spaced now ended) :=
  inferInstanceAs (Decidable (∀ e ∈ ended, e.1+pause e.2 ≤ now))

def Succeeded (ended : List (Nat × Option UpdateInfo)) : Prop := ∃ e ∈ ended, e.2.isSome = true
def Latest (ended : List (Nat × Option UpdateInfo)) (n : Nat) : Prop := ∀ e ∈ ended.drop (n+1), e.2 = none

/- The result of a fetch that is the latest to succeed, or whose call was not over when the
check began. -/
def Told (past : Past ι) (i : ι) (info : UpdateInfo) : Prop :=
  ∃ n t, past.ended[n]? = some (t,some info) ∧ (Latest past.ended n ∨ past.began i ≤ n)

def Returns (m : Move ι) (s : System ι) (i : ι) (info : UpdateInfo) : Prop :=
  s.phase i ≠ .returned info ∧ (step m s).phase i = .returned info

/- No fetch starts too early, and after a success no check returns anything else than it should. -/
def Good (m : Move ι) (w : System ι × Past ι) : Prop :=
  (Starts m w.1 → Spaced w.1.world.now w.2.ended) ∧
    ∀ i info, Returns m w.1 i info → Succeeded w.2.ended → Told (moves m w).2 i info

def Allowed (m : Move ι) (w : System ι × Past ι) : Prop := Starts m w.1 → w.1.world.checker.gate w.1.world.now = none

structure Recorded (now : Nat) (uc : UpdateChecker) (ended : List (Nat × Option UpdateInfo)) : Prop where
  past : ∀ e ∈ ended, e.1 ≤ now
  known : ∀ info, uc.info = some info → ∃ n, ended[n]? = some (uc.checkedAt,some info) ∧ Latest ended n
  unknown : uc.info = none → ∀ e ∈ ended, e.2 = none
  successes : ∀ t info, (t,some info) ∈ ended → t ≤ uc.checkedAt
  failures : ∀ t, (t,none) ∈ ended → (∃ f ∈ uc.failedAt, t ≤ f) ∨ uc.info.isSome = true ∧ t ≤ uc.checkedAt
  failed : ∀ f ∈ uc.failedAt, (f,none) ∈ ended

section
variable {now : Nat} {uc : UpdateChecker} {ended : List (Nat × Option UpdateInfo)}

theorem gateOpen : uc.gate now = none ↔ ¬ uc.Fresh now ∧ ¬ uc.Failing now := by
  unfold UpdateChecker.gate
  by_cases fresh : uc.Fresh now
  · rw [if_pos fresh]
    refine iff_of_false (fun missing => ?_) (fun both => both.1 fresh)
    have held := fresh.1
    rw [missing] at held
    contradiction
  · rw [if_neg fresh]
    by_cases failing : uc.Failing now
    · rw [if_pos failing]
      exact iff_of_false (by simp) (fun both => both.2 failing)
    · rw [if_neg failing]
      exact iff_of_true rfl ⟨fresh,failing⟩

theorem gateSpaced (recorded : Recorded now uc ended) : Spaced now ended ↔ uc.gate now = none := by
  have longer : UpdateFailCacheTTL ≤ UpdateCheckPeriod := by decide
  have positive : 0 < UpdateFailCacheTTL := by decide
  rw [gateOpen]
  constructor
  · intro spaced
    constructor
    · rintro ⟨held,recent⟩
      obtain ⟨info,same⟩ := Option.isSome_iff_exists.mp held
      obtain ⟨n,found,_⟩ := recorded.known info same
      have later := spaced _ (mem_of_getElem? found)
      simp only [pause,Option.isSome_some,if_true] at later
      omega
    · rintro ⟨f,held,recent⟩
      have later := spaced _ (recorded.failed f held)
      simp only [pause,Option.isSome_none,Bool.false_eq_true,if_false] at later
      omega
  · rintro ⟨stale,calm⟩ ⟨t,outcome⟩ member
    have past (held : uc.info.isSome = true) : uc.checkedAt+UpdateCheckPeriod ≤ now := by
      by_contra early
      exact stale ⟨held,by omega⟩
    cases outcome with
    | some info =>
      have held : uc.info.isSome = true := by
        cases missing : uc.info with
        | some known => rfl
        | none =>
          have none := recorded.unknown missing _ member
          contradiction
      have before := recorded.successes t info member
      have enough := past held
      simp only [pause,Option.isSome_some,if_true]
      omega
    | none =>
      simp only [pause,Option.isSome_none,Bool.false_eq_true,if_false]
      rcases recorded.failures t member with ⟨f,held,before⟩ | ⟨held,before⟩
      · have enough : ¬ now-f < UpdateFailCacheTTL := fun recent => calm ⟨f,held,recent⟩
        omega
      · have enough := past held
        omega

theorem latestEnd (e : Nat × Option UpdateInfo) : Latest (ended ++ [e]) ended.length := by
  intro other member
  rw [drop_eq_nil_of_le (by simp)] at member
  contradiction

theorem latestStays {n t : Nat} (inside : n < ended.length) (latest : Latest ended n) : Latest (ended ++ [(t,none)]) n := by
  intro e member
  rw [drop_append_of_le_length (Nat.succ_le_of_lt inside)] at member
  rcases mem_append.mp member with old | new
  · exact latest e old
  · rw [mem_singleton.mp new]

theorem recordKeeps (fetched : Option UpdateInfo) (recorded : Recorded now uc ended) :
    Recorded now (uc.record now fetched) (ended ++ [(now,fetched)]) := by
  have past (e : Nat × Option UpdateInfo) (member : e ∈ ended ++ [(now,fetched)]) : e.1 ≤ now := by
    rcases mem_append.mp member with old | new
    · exact recorded.past e old
    · exact Nat.le_of_eq (congrArg Prod.fst (mem_singleton.mp new))
  cases fetched with
  | some info =>
    refine ⟨past,?_,fun missing => ?_,fun t _ member => past _ member,fun t member => .inr ⟨rfl,past _ member⟩,fun f held => ?_⟩
    · intro other same
      cases same
      exact ⟨ended.length,by simp [UpdateChecker.record],latestEnd _⟩
    · contradiction
    · contradiction
  | none =>
    refine ⟨past,?_,?_,?_,?_,?_⟩
    · intro info same
      obtain ⟨n,found,latest⟩ := recorded.known info same
      have inside := (List.getElem?_eq_some_iff.mp found).1
      exact ⟨n,(getElem?_append_left inside).trans found,latestStays inside latest⟩
    · intro missing e member
      rcases mem_append.mp member with old | new
      · exact recorded.unknown missing e old
      · rw [mem_singleton.mp new]
    · intro t info member
      rcases mem_append.mp member with old | new
      · exact recorded.successes t info old
      · cases mem_singleton.mp new
    · intro t member
      exact .inl ⟨now,rfl,past _ member⟩
    · intro f held
      cases held
      exact mem_append_right _ (mem_singleton.mpr rfl)

theorem knownLatest (recorded : Recorded now uc ended) (succeeded : Succeeded ended) :
    ∃ n, ended[n]? = some (uc.checkedAt,some uc.lastKnownLocked) ∧ Latest ended n := by
  obtain ⟨e,member,some⟩ := succeeded
  unfold UpdateChecker.lastKnownLocked
  cases known : uc.info with
  | none =>
    rw [recorded.unknown known e member] at some
    contradiction
  | some info => exact recorded.known info known

theorem gateShut {info : UpdateInfo} (shut : uc.gate now = some info) : info = uc.lastKnownLocked := by
  unfold UpdateChecker.gate at shut
  split at shut
  · rw [UpdateChecker.lastKnownLocked,shut,Option.getD_some]
  · split at shut
    · exact (Option.some.inj shut).symm
    · contradiction

end

def Phase.Owns : Phase → Prop
  | .fetching => True
  | .releasing _ => True
  | _ => False

def Phase.Since (began : Nat) (w : World) : Phase → Prop
  | .joining => began ≤ w.vals.length
  | .fetching => began ≤ w.vals.length
  | .releasing _ => began ≤ w.vals.length
  | .waiting call => began ≤ call
  | _ => True

structure Shares (w : World) (phase : ι → Phase) (past : Past ι) : Prop where
  alone : ∀ i j, (phase i).Owns → (phase j).Owns → i = j
  busy : ∀ i, (phase i).Owns → w.inFlight = true
  idle : (∀ i val, phase i ≠ .releasing val) → past.ended.map Prod.snd = w.vals
  releasing : ∀ i val, phase i = .releasing val → past.ended.map Prod.snd = w.vals ++ [val]
  since : ∀ i, (phase i).Since (past.began i) w

section
variable {w : World} {phase : ι → Phase} {past : Past ι} {i j : ι} {p q : Phase}

theorem sincePhase {began : Nat} {v : World} (longer : v.vals.length ≤ w.vals.length) (since : p.Since began v) : p.Since began w := by
  cases p with
  | joining | fetching | releasing _ => exact Nat.le_trans since longer
  | waiting call => exact since
  | entering | missed | returned _ => trivial

omit [DecidableEq ι] in
theorem valueRecorded {n : Nat} {val : Option UpdateInfo} (shares : Shares w phase past) (found : w.vals[n]? = some val) :
    ∃ t, past.ended[n]? = some (t,val) := by
  have inside := (List.getElem?_eq_some_iff.mp found).1
  have same : (past.ended.map Prod.snd)[n]? = some val := by
    by_cases free : ∀ i val, phase i ≠ .releasing val
    · rw [shares.idle free]
      exact found
    · push Not at free
      obtain ⟨i,last,here⟩ := free
      rw [shares.releasing i last here,getElem?_append_left inside]
      exact found
  rw [getElem?_map] at same
  obtain ⟨e,there,rfl⟩ := Option.map_eq_some_iff.mp same
  exact ⟨e.1,there⟩

theorem sinceUpdated {v : World} (longer : w.vals.length ≤ v.vals.length) (shares : Shares w phase past) {began : Nat}
    (since : q.Since began v) (j : ι) : (update phase i q j).Since (update past.began i began j) v := by
  by_cases own : j = i
  · subst own
    simp only [update_self]
    exact since
  · simp only [update_of_ne own]
    exact sincePhase longer (shares.since j)

theorem ownsUpdated (inner : ¬ q.Owns) (owns : (update phase i q j).Owns) : j ≠ i ∧ (phase j).Owns := by
  have other : j ≠ i := by
    rintro rfl
    rw [update_self] at owns
    exact inner owns
  rw [update_of_ne other] at owns
  exact ⟨other,owns⟩

theorem releasingOwns {val : Option UpdateInfo} (here : p = .releasing val) : p.Owns := by
  rw [here]
  trivial

theorem sharesQuiet (shares : Shares w phase past) (outer : ¬ (phase i).Owns) (inner : ¬ q.Owns) {began : Nat} (since : q.Since began w) :
    Shares w (update phase i q) {past with began := update past.began i began} := by
  refine ⟨fun j k first second => shares.alone j k (ownsUpdated inner first).2 (ownsUpdated inner second).2,
    fun j owns => shares.busy j (ownsUpdated inner owns).2,fun free => shares.idle (fun j val here => ?_),fun j val here => ?_,
    sinceUpdated (Nat.le_refl _) shares since⟩
  · have other : j ≠ i := by
      rintro rfl
      exact outer (releasingOwns here)
    exact free j val ((update_of_ne other q phase).trans here)
  · have other := (ownsUpdated inner (releasingOwns here)).1
    exact shares.releasing j val ((update_of_ne other q phase).symm.trans here)

theorem aloneUpdated (others : ∀ j, j ≠ i → ¬ (phase j).Owns) (owns : (update phase i q j).Owns) : j = i := by
  by_contra other
  rw [update_of_ne other] at owns
  exact others j other owns

section
variable (shares : Shares w phase past)
include shares

theorem sharesStart (here : phase i = .joining) (free : w.inFlight = false) :
    Shares {w with inFlight := true} (update phase i .fetching) past := by
  have nobody (j : ι) : ¬ (phase j).Owns := by
    intro owns
    have busy := shares.busy j owns
    rw [free] at busy
    contradiction
  have owner {j : ι} (owns : (update phase i .fetching j).Owns) : j = i := aloneUpdated (fun j _ => nobody j) owns
  have since := shares.since i
  rw [here] at since
  refine ⟨fun j k first second => (owner first).trans (owner second).symm,fun _ _ => rfl,
    fun _ => shares.idle (fun j val there => nobody j (releasingOwns there)),fun j val there => ?_,fun j => ?_⟩
  · have own := owner (releasingOwns there)
    subst own
    rw [update_self] at there
    contradiction
  · have later := @sinceUpdated ι _ w phase past i .fetching {w with inFlight := true} (Nat.le_refl _) shares (past.began i) since j
    rwa [update_eq_self] at later

theorem sharesRecord {t : Nat} {fetched : Option UpdateInfo} {uc : UpdateChecker} (here : phase i = .fetching) :
    Shares {w with checker := uc} (update phase i (.releasing fetched)) {past with ended := past.ended ++ [(t,fetched)]} := by
  have mine : (phase i).Owns := by
    rw [here]
    trivial
  have owner {j : ι} (owns : (update phase i (.releasing fetched) j).Owns) : j = i :=
    aloneUpdated (fun j other owns => other (shares.alone j i owns mine)) owns
  have since := shares.since i
  rw [here] at since
  have before : past.ended.map Prod.snd = w.vals := by
    refine shares.idle (fun j val there => ?_)
    have same := shares.alone j i (releasingOwns there) mine
    rw [same,here] at there
    contradiction
  refine ⟨fun j k first second => (owner first).trans (owner second).symm,fun _ _ => shares.busy i mine,
    fun free => absurd (update_self i (Phase.releasing fetched) phase) (free i fetched),fun j val there => ?_,fun j => ?_⟩
  · have own := owner (releasingOwns there)
    subst own
    rw [update_self] at there
    cases there
    rw [map_append,before]
    rfl
  · have later := @sinceUpdated ι _ w phase past i (.releasing fetched) {w with checker := uc} (Nat.le_refl _) shares (past.began i) since j
    rwa [update_eq_self] at later

theorem sharesRelease {val : Option UpdateInfo} (here : phase i = .releasing val) :
    Shares {w with inFlight := false, vals := w.vals ++ [val]} (update phase i (.waiting w.vals.length)) past := by
  have mine := releasingOwns here
  have nobody {j : ι} (owns : (update phase i (.waiting w.vals.length) j).Owns) : False := by
    obtain ⟨other,owns⟩ := ownsUpdated (by exact id) owns
    exact other (shares.alone j i owns mine)
  have since := shares.since i
  rw [here] at since
  refine ⟨fun j k first _ => (nobody first).elim,fun j owns => (nobody owns).elim,fun _ => shares.releasing i val here,
    fun j last there => (nobody (releasingOwns there)).elim,fun j => ?_⟩
  have later := @sinceUpdated ι _ w phase past i (.waiting w.vals.length) {w with inFlight := false, vals := w.vals ++ [val]} (by simp) shares
    (past.began i) since j
  rwa [update_eq_self] at later

theorem sharesOn (outer : ¬ (phase i).Owns) (inner : ¬ q.Owns) (since : q.Since (past.began i) w) : Shares w (update phase i q) past := by
  have quiet := sharesQuiet shares outer inner since
  rwa [update_eq_self] at quiet

end

end

structure Sound (w : System ι × Past ι) : Prop where
  recorded : Recorded w.1.world.now w.1.world.checker w.2.ended
  shares : Shares w.1.world w.1.phase w.2

section
variable {s : System ι} {past : Past ι} {i : ι} {fetched : Option UpdateInfo} {p : Phase}

omit [DecidableEq ι] in
theorem soundBeginning (now : Nat) (current : String) : Sound (beginning ι now current) := by
  refine ⟨⟨?_,?_,?_,?_,?_,?_⟩,⟨?_,?_,fun _ => rfl,?_,fun _ => trivial⟩⟩ <;> intros <;> contradiction

theorem advancedTo (here : s.phase i = p) : moves (.advance i fetched) (s,past) =
    (⟨(p.check fetched s.world).1,update s.phase i (p.check fetched s.world).2⟩,p.note i fetched s.world past) := by
  simp only [moves,watched,step,noted,here]

theorem passSound {d : Nat} (sound : Sound (s,past)) : Sound (moves (.pass d) (s,past)) := by
  obtain ⟨recorded,shares⟩ := sound
  exact ⟨⟨fun e member => Nat.le_add_right_of_le (recorded.past e member),recorded.known,recorded.unknown,recorded.successes,recorded.failures,
    recorded.failed⟩,⟨shares.alone,shares.busy,shares.idle,shares.releasing,fun j => sincePhase (Nat.le_refl _) (shares.since j)⟩⟩

theorem advanceSound (sound : Sound (s,past)) : Sound (moves (.advance i fetched) (s,past)) := by
  obtain ⟨recorded,shares⟩ := sound
  have since := shares.since i
  cases here : s.phase i with
  | entering =>
    have outer : ¬ (s.phase i).Owns := by rw [here]; exact id
    rw [advancedTo here]
    simp only [Phase.check,Phase.note]
    split
    · exact ⟨recorded,sharesQuiet shares outer id trivial⟩
    · exact ⟨recorded,sharesQuiet shares outer id (Nat.le_refl s.world.vals.length)⟩
  | joining =>
    rw [here] at since
    have outer : ¬ (s.phase i).Owns := by rw [here]; exact id
    rw [advancedTo here]
    simp only [Phase.check,Phase.note]
    split
    · exact ⟨recorded,sharesOn shares outer id since⟩
    · rename_i free
      exact ⟨recorded,sharesStart shares here (Bool.eq_false_iff.mpr free)⟩
  | fetching =>
    rw [advancedTo here]
    exact ⟨recordKeeps fetched recorded,sharesRecord shares here⟩
  | releasing val =>
    rw [advancedTo here]
    exact ⟨recorded,sharesRelease shares here⟩
  | waiting call =>
    rw [here] at since
    have outer : ¬ (s.phase i).Owns := by rw [here]; exact id
    rw [advancedTo here]
    simp only [Phase.check,Phase.note]
    split
    · exact ⟨recorded,sharesOn shares outer id since⟩
    · exact ⟨recorded,sharesOn shares outer id trivial⟩
    · exact ⟨recorded,sharesOn shares outer id trivial⟩
  | missed | returned _ =>
    rw [advancedTo here]
    exact ⟨recorded,sharesOn shares (by rw [here]; exact id) id trivial⟩

variable {m : Move ι} {info : UpdateInfo}

theorem movesSound (sound : Sound (s,past)) : Sound (moves m (s,past)) := by
  cases m with
  | pass d => exact passSound sound
  | advance i fetched => exact advanceSound sound

inductive ReturnsBy (s : System ι) (i : ι) (info : UpdateInfo) : Prop where
  | gate (here : s.phase i = .entering) (shut : s.world.checker.gate s.world.now = some info)
  | value {call : Nat} (here : s.phase i = .waiting call) (ended : s.world.vals[call]? = some (some info))
  | lastKnown (here : s.phase i = .missed) (same : info = s.world.checker.lastKnownLocked)

theorem returnsSource (returns : Returns m s i info) :
    ReturnsBy s i info ∧ ∃ fetched, m = .advance i fetched := by
  obtain ⟨before,after⟩ := returns
  cases m with
  | pass d => exact absurd after before
  | advance j fetched =>
    by_cases own : i = j
    · subst own
      refine ⟨?_,fetched,rfl⟩
      simp only [step,update_self] at after
      cases here : s.phase i with
      | entering =>
        rw [here] at after
        simp only [Phase.check] at after
        split at after
        · rename_i shut
          cases after
          exact .gate here shut
        · contradiction
      | joining =>
        rw [here] at after
        simp only [Phase.check] at after
        split at after <;> contradiction
      | fetching | releasing _ =>
        rw [here] at after
        contradiction
      | waiting call =>
        rw [here] at after
        simp only [Phase.check] at after
        split at after
        · contradiction
        · contradiction
        · rename_i ended
          cases after
          exact .value here ended
      | missed =>
        rw [here] at after
        cases after
        exact .lastKnown here rfl
      | returned other =>
        rw [here] at after
        exact absurd (here.trans after) before
    · simp only [step,update_of_ne own] at after
      exact absurd after before

theorem returnsTold (sound : Sound (s,past)) (returns : Returns m s i info) (succeeded : Succeeded past.ended) :
    Told (moves m (s,past)).2 i info := by
  obtain ⟨way,fetched,rfl⟩ := returnsSource returns
  cases way with
  | gate here shut =>
    rw [advancedTo here,gateShut shut]
    obtain ⟨n,found,latest⟩ := knownLatest sound.recorded succeeded
    exact ⟨n,_,found,.inl latest⟩
  | value here ended =>
    rw [advancedTo here]
    obtain ⟨t,found⟩ := valueRecorded sound.shares ended
    have since := sound.shares.since i
    rw [here] at since
    exact ⟨_,t,found,.inr since⟩
  | lastKnown here same =>
    rw [advancedTo here,same]
    obtain ⟨n,found,latest⟩ := knownLatest sound.recorded succeeded
    exact ⟨n,_,found,.inl latest⟩

end
end

theorem updateChecksSpaced {ι : Type} [DecidableEq ι] (now : Nat) (current : String) (run : List (Move ι)) :
    Along moves Good run (beginning ι now current) ↔ Along moves Allowed run (beginning ι now current) := by
  refine alongIff Sound (fun m _ w sound => ?_) (fun m _ w sound _ => movesSound sound) (soundBeginning now current)
  constructor
  · intro good starts
    exact (gateSpaced sound.recorded).mp (good.1 starts)
  · intro allowed
    refine ⟨fun starts => (gateSpaced sound.recorded).mpr (allowed starts),fun i info returns succeeded => ?_⟩
    exact returnsTold sound returns succeeded

def stampede (fetched : Option UpdateInfo) : List (Move Bool) :=
  [.advance false none,.advance true none,.advance false none,.advance false fetched,.advance false none,.advance true none]

theorem laterCallFetchesAgain : ¬ Along moves Good (stampede none) (beginning Bool 0 "1.5.0") ∧
    ¬ Along moves Good (stampede (some ⟨true,"1.6.0","1.5.0",""⟩)) (beginning Bool 0 "1.5.0") := by
  constructor
  · rintro ⟨_,_,_,_,_,last,_⟩
    exact absurd (last.1 (by decide)) (by decide)
  · rintro ⟨_,_,_,_,_,last,_⟩
    exact absurd (last.1 (by decide)) (by decide)

end VpnPack.Updater
