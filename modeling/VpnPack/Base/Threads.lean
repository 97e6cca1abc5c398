import Mathlib.Logic.Function.Basic
import VpnPack.Base.Runs

/-! Programs made of atomic calls, each followed by what its answer leads to, and pools of
named threads that run such programs over one shared state. The rule for interference: a
thread keeps the invariant as long as its assertions survive what the other threads promise
to do. -/
namespace VpnPack.Base

inductive Prog (κ : Type) (ans : κ → Type) (α : Type) where
  | done (a : α)
  | call (c : κ) (next : ans c → Prog κ ans α)

namespace Prog
variable {κ : Type} {ans : κ → Type} {α β σ : Type}

def bind : Prog κ ans α → (α → Prog κ ans β) → Prog κ ans β
  | .done a,k => k a
  | .call c next,k => .call c (fun r => (next r).bind k)

instance : Monad (Prog κ ans) where
  pure := .done
  bind := bind

def isDone : Prog κ ans α → Bool
  | .done _ => true
  | .call _ _ => false

def ask (c : κ) : Prog κ ans (ans c) := .call c .done

def alone (sem : (c : κ) → σ → ans c × σ) : Prog κ ans α → σ → α × σ
  | .done a,s => (a,s)
  | .call c next,s => alone sem (next (sem c s).1) (sem c s).2

def after (sem : (c : κ) → σ → ans c × σ) : Nat → Prog κ ans α → σ → Prog κ ans α × σ
  | 0,p,s => (p,s)
  | _+1,.done a,s => (.done a,s)
  | n+1,.call c next,s => after sem n (next (sem c s).1) (sem c s).2

def Safe (sem : (c : κ) → σ → ans c × σ) (inv : σ → Prop) (post : α → σ → Prop) : Prog κ ans α → σ → Prop
  | .done a,s => inv s ∧ post a s
  | .call c next,s => inv s ∧ Safe sem inv post (next (sem c s).1) (sem c s).2

def Meets (sem : (c : κ) → σ → ans c × σ) (suits : κ → σ → Prop) : Prog κ ans α → σ → Prop
  | .done _,_ => True
  | .call c next,s => suits c s ∧ Meets sem suits (next (sem c s).1) (sem c s).2

section
variable {sem : (c : κ) → σ → ans c × σ} {inv : σ → Prop} {post : α → σ → Prop} {p : Prog κ ans α} {s : σ}

theorem safePure {a : α} (here : inv s) (ends : post a s) : Safe sem inv post (pure a) s := ⟨here,ends⟩

theorem safeAsk {c : κ} {k : ans c → Prog κ ans α} (here : inv s) (later : Safe sem inv post (k (sem c s).1) (sem c s).2) :
    Safe sem inv post (ask c >>= k) s := ⟨here,later⟩

theorem safeHere (safe : Safe sem inv post p s) : inv s := by
  cases p with
  | done _ | call _ _ => exact safe.1

theorem safeAfter (safe : Safe sem inv post p s) (n : Nat) :
    inv (after sem n p s).2 ∧ ∀ a, (after sem n p s).1 = .done a → post a (after sem n p s).2 := by
  induction n generalizing p s with
  | zero =>
    refine ⟨safeHere safe,fun a ended => ?_⟩
    rw [show p = .done a from ended] at safe
    exact safe.2
  | succ n ih =>
    cases p with
    | done a =>
      refine ⟨safe.1,fun b ended => ?_⟩
      cases ended
      exact safe.2
    | call c next => exact ih safe.2

end

def wrapping (msg : String) (p : Prog κ ans (Option GoError)) : Prog κ ans (Option GoError) := do
  let err ← p
  pure (err.map (.wrap msg))

def forEach (body : β → Prog κ ans (Option GoError)) : List β → Prog κ ans (Option GoError)
  | [] => pure none
  | x :: xs => do
    match ← body x with
    | some e => pure (some e)
    | none => forEach body xs

def attempts (body : β → Prog κ ans (Option GoError)) : List β → Prog κ ans (List GoError)
  | [] => pure []
  | x :: xs => do
    match ← body x with
    | some e => do
      let rest ← attempts body xs
      pure (e :: rest)
    | none => attempts body xs

def attemptAll (body : β → Prog κ ans (Option GoError)) (xs : List β) : Prog κ ans (Option GoError) := do
  match ← attempts body xs with
  | [] => pure none
  | e :: rest => pure (some (joinAll e rest))

def Uses (given : κ → Prop) : Prog κ ans α → Prop
  | .done _ => True
  | .call c next => given c ∧ ∀ r, (next r).Uses given

section
variable {given : κ → Prop}

theorem usesPure (a : α) : (pure a : Prog κ ans α).Uses given := trivial

theorem usesAsk {c : κ} (here : given c) : (ask c : Prog κ ans (ans c)).Uses given := ⟨here,fun _ => trivial⟩

theorem usesBind {p : Prog κ ans α} {k : α → Prog κ ans β} (first : p.Uses given) (rest : ∀ a, (k a).Uses given) :
    (p >>= k).Uses given := by
  induction p with
  | done a => exact rest a
  | call c next ih => exact ⟨first.1,fun r => ih r (first.2 r)⟩

theorem usesMono {p : Prog κ ans α} {more : κ → Prop} (uses : p.Uses given) (weaker : ∀ c, given c → more c) : p.Uses more := by
  induction p with
  | done a => exact trivial
  | call c next ih => exact ⟨weaker c uses.1,fun r => ih r (uses.2 r)⟩

variable {body : β → Prog κ ans (Option GoError)}

theorem usesForEach (each : ∀ x, (body x).Uses given) (xs : List β) : (Prog.forEach body xs).Uses given := by
  induction xs with
  | nil => exact trivial
  | cons x xs ih =>
    refine usesBind (each x) (fun err => ?_)
    cases err with
    | some e => exact trivial
    | none => exact ih

theorem usesAttempts (each : ∀ x, (body x).Uses given) (xs : List β) : (Prog.attempts body xs).Uses given := by
  induction xs with
  | nil => exact trivial
  | cons x xs ih =>
    refine usesBind (each x) (fun err => ?_)
    cases err with
    | some e => exact usesBind ih (fun _ => trivial)
    | none => exact ih

theorem usesAttemptAll (each : ∀ x, (body x).Uses given) (xs : List β) : (Prog.attemptAll body xs).Uses given := by
  refine usesBind (usesAttempts each xs) (fun errs => ?_)
  cases errs with
  | nil | cons _ _ => exact trivial

theorem usesWrapping {p : Prog κ ans (Option GoError)} (msg : String) (inner : p.Uses given) : (p.wrapping msg).Uses given :=
  usesBind inner (fun _ => trivial)

end

def Follows {φ : Type} (after : φ → κ → Option φ) (ends : α → φ) : φ → Prog κ ans α → Prop
  | f,.done a => f = ends a
  | f,.call c next => ∃ g, after f c = some g ∧ ∀ r, Follows after ends g (next r)

section
variable {φ : Type} {after : φ → κ → Option φ} {f g : φ}

theorem followsPure {ends : α → φ} {a : α} (here : f = ends a) : Follows after ends f (pure a : Prog κ ans α) := here

theorem followsAsk {c : κ} (moves : after f c = some g) : Follows after (fun _ => g) f (ask c : Prog κ ans (ans c)) := ⟨g,moves,fun _ => rfl⟩

theorem followsBind {mid : α → φ} {ends : β → φ} {p : Prog κ ans α} {k : α → Prog κ ans β} (first : Follows after mid f p)
    (rest : ∀ a, Follows after ends (mid a) (k a)) : Follows after ends f (p >>= k) := by
  induction p generalizing f with
  | done a =>
    have here : f = mid a := first
    subst here
    exact rest a
  | call c next ih =>
    obtain ⟨g,moves,later⟩ := first
    exact ⟨g,moves,fun r => ih r (later r)⟩

end
end Prog

/- step is what a call of a thread does; allowed is asked of every step of a run from outside,
promised is what a thread undertakes about each of its calls. -/
structure Discipline (ι κ : Type) (ans : κ → Type) (σ : Type) where
  step : ι → (c : κ) → σ → ans c × σ
  inv : σ → Prop
  allowed : ι → κ → σ → Prop
  promised : ι → κ → σ → Prop

namespace Discipline
variable {ι κ : Type} {ans : κ → Type} {α β σ : Type} (d : Discipline ι κ ans σ)

inductive Rely (x : ι) (s : σ) : σ → Prop where
  | same : Rely x s s
  | other {t : σ} {y : ι} {c : κ} (before : Rely x s t) (differs : y ≠ x) (holds : d.inv t) (allows : d.allowed y c t)
      (promises : d.promised y c t) : Rely x s (d.step y c t).2

def Keeps (x : ι) (post : α → σ → Prop) : Prog κ ans α → σ → Prop
  | .done a,s => ∀ t, d.Rely x s t → d.inv t → post a t
  | .call c next,s => ∀ t, d.Rely x s t → d.inv t → d.allowed x c t →
    d.promised x c t ∧ d.inv (d.step x c t).2 ∧ Keeps x post (next (d.step x c t).1) (d.step x c t).2

def Stable (x : ι) (p : σ → Prop) : Prop :=
  ∀ y c t, y ≠ x → d.inv t → d.allowed y c t → d.promised y c t → p t → p (d.step y c t).2

variable {d} {x : ι} {s t : σ} {post mid : α → σ → Prop}

theorem relyTrans {u : σ} (first : d.Rely x s t) (second : d.Rely x t u) : d.Rely x s u := by
  induction second with
  | same => exact first
  | other _ differs holds allows promises ih => exact .other ih differs holds allows promises

variable {p : σ → Prop}

theorem stableRely (stable : d.Stable x p) (here : p s) (rely : d.Rely x s t) : p t := by
  induction rely with
  | same => exact here
  | other _ differs holds allows promises ih => exact stable _ _ _ differs holds allows promises ih

theorem stableAnd {q : σ → Prop} (first : d.Stable x p) (second : d.Stable x q) : d.Stable x (fun s => p s ∧ q s) :=
  fun y c t differs holds allows promises both =>
    ⟨first y c t differs holds allows promises both.1,second y c t differs holds allows promises both.2⟩

theorem stableFact {fact : Prop} (stable : d.Stable x p) : d.Stable x (fun s => fact ∧ p s) :=
  fun y c t differs holds allows promises both => ⟨both.1,stable y c t differs holds allows promises both.2⟩

theorem stableIf {fact : Prop} (stable : d.Stable x p) : d.Stable x (fun s => fact → p s) :=
  fun y c t differs holds allows promises known given => stable y c t differs holds allows promises (known given)

theorem stableExists {γ : Type} {p : γ → σ → Prop} (stable : ∀ a, d.Stable x (p a)) : d.Stable x (fun s => ∃ a, p a s) :=
  fun y c t differs holds allows promises known => known.imp (fun a here => stable a y c t differs holds allows promises here)

theorem stableFalse : d.Stable x (fun _ => False) := fun _ _ _ _ _ _ _ never => never

theorem keepsRely {p : Prog κ ans α} (keeps : d.Keeps x post p s) (rely : d.Rely x s t) : d.Keeps x post p t := by
  cases p with
  | done _ | call _ _ => exact fun u later => keeps u (relyTrans rely later)

theorem keepsBind {p : Prog κ ans α} {k : α → Prog κ ans β} {last : β → σ → Prop} (first : d.Keeps x mid p s)
    (rest : ∀ a t, mid a t → d.inv t → d.Keeps x last (k a) t) : d.Keeps x last (p >>= k) s := by
  induction p generalizing s with
  | done a =>
    have next (t : σ) (rely : d.Rely x s t) (holds : d.inv t) : d.Keeps x last (k a) t := rest a t (first t rely holds) holds
    change d.Keeps x last (k a) s
    cases tail : k a with
    | done b =>
      intro t rely holds
      have ended := next t rely holds
      rw [tail] at ended
      exact ended t .same holds
    | call c more =>
      intro t rely holds allows
      have going := next t rely holds
      rw [tail] at going
      exact going t .same holds allows
  | call c next ih =>
    intro t rely holds allows
    obtain ⟨promises,kept,later⟩ := first t rely holds allows
    exact ⟨promises,kept,ih _ later⟩

theorem keepsMono {p : Prog κ ans α} (keeps : d.Keeps x mid p s) (weaker : ∀ a t, d.inv t → mid a t → post a t) : d.Keeps x post p s := by
  induction p generalizing s with
  | done a => exact fun t rely holds => weaker a t holds (keeps t rely holds)
  | call c next ih =>
    intro t rely holds allows
    obtain ⟨promises,kept,later⟩ := keeps t rely holds allows
    exact ⟨promises,kept,ih _ later⟩

theorem keepsPure {a : α} (stable : d.Stable x p) (here : p s) (ends : ∀ t, d.inv t → p t → post a t) :
    d.Keeps x post (pure a : Prog κ ans α) s :=
  fun t rely holds => ends t holds (stableRely stable here rely)

theorem keepsAsk {c : κ} {post : ans c → σ → Prop} (stable : d.Stable x p) (after : ∀ r, d.Stable x (post r)) (here : p s)
    (does : ∀ t, p t → d.inv t → d.allowed x c t → d.promised x c t ∧ d.inv (d.step x c t).2 ∧ post (d.step x c t).1 (d.step x c t).2) :
    d.Keeps x post (Prog.ask c) s := by
  intro t rely holds allows
  obtain ⟨promises,kept,ends⟩ := does t (stableRely stable here rely) holds allows
  exact ⟨promises,kept,fun u later _ => stableRely (after _) ends later⟩

theorem keepsUses {given : κ → Prop} {prog : Prog κ ans α} (stable : d.Stable x p) (uses : prog.Uses given)
    (each : ∀ c t, given c → p t → d.inv t → d.allowed x c t → d.promised x c t ∧ d.inv (d.step x c t).2 ∧ p (d.step x c t).2)
    (here : p s) : d.Keeps x (fun _ => p) prog s := by
  induction prog generalizing s with
  | done a => exact fun t rely _ => stableRely stable here rely
  | call c next ih =>
    intro t rely holds allows
    obtain ⟨promises,kept,still⟩ := each c t uses.1 (stableRely stable here rely) holds allows
    exact ⟨promises,kept,ih _ (uses.2 _) still⟩

theorem keepsMap {p : Prog κ ans α} {f : α → β} {last : β → σ → Prop} (keeps : d.Keeps x (fun a => last (f a)) p s) :
    d.Keeps x last (f <$> p) s := by
  induction p generalizing s with
  | done a => exact keeps
  | call c next ih =>
    intro t rely holds allows
    obtain ⟨promises,kept,later⟩ := keeps t rely holds allows
    exact ⟨promises,kept,ih _ later⟩

section
variable {p : List β → σ → Prop} {body : β → Prog κ ans (Option GoError)} {xs : List β} (stable : d.Stable x (p [])) (here : p xs s)
  (holds : d.inv s)
include stable here holds

theorem keepsForEach (each : ∀ b rest t, p (b :: rest) t → d.inv t → d.Keeps x (fun err s => err = none ∧ p rest s) (body b) t) :
    d.Keeps x (fun err s => err = none ∧ p [] s) (Prog.forEach body xs) s := by
  induction xs generalizing s with
  | nil => exact keepsPure stable here (fun _ _ still => ⟨rfl,still⟩)
  | cons b rest ih =>
    refine keepsBind (each b rest s here holds) (fun err t passed holds' => ?_)
    obtain ⟨rfl,still⟩ := passed
    exact ih still holds'

theorem keepsAttempts (each : ∀ b rest t, p (b :: rest) t → d.inv t → d.Keeps x (fun _ => p rest) (body b) t) :
    d.Keeps x (fun _ => p []) (Prog.attempts body xs) s := by
  induction xs generalizing s with
  | nil => exact keepsPure stable here (fun _ _ still => still)
  | cons b rest ih =>
    refine keepsBind (each b rest s here holds) (fun err t still holds' => ?_)
    cases err with
    | none => exact ih still holds'
    | some e => exact keepsBind (ih still holds') (fun _ _ last _ => keepsPure stable last (fun _ _ later => later))

theorem keepsAttemptAll (each : ∀ b rest t, p (b :: rest) t → d.inv t → d.Keeps x (fun _ => p rest) (body b) t) :
    d.Keeps x (fun _ => p []) (Prog.attemptAll body xs) s := by
  refine keepsBind (keepsAttempts stable here holds each) (fun errs t last _ => ?_)
  cases errs with
  | nil | cons _ _ => exact keepsPure stable last (fun _ _ later => later)

end

end Discipline

structure Threads (ι κ : Type) (ans : κ → Type) (σ : Type) where
  shared : σ
  progs : ι → Prog κ ans Unit

namespace Threads
variable {ι κ : Type} {ans : κ → Type} {σ : Type} [DecidableEq ι]

def advance (step : ι → (c : κ) → σ → ans c × σ) (x : ι) (s : Threads ι κ ans σ) : Threads ι κ ans σ :=
  match s.progs x with
  | .done _ => s
  | .call c next => ⟨(step x c s.shared).2,Function.update s.progs x (next (step x c s.shared).1)⟩

def Allows (allowed : ι → κ → σ → Prop) (x : ι) (s : Threads ι κ ans σ) : Prop :=
  match s.progs x with
  | .done _ => True
  | .call c _ => allowed x c s.shared

def Over (s : Threads ι κ ans σ) (x : ι) : Prop := (s.progs x).isDone = true

instance Allows.decidable {allowed : ι → κ → σ → Prop} [∀ x c s, Decidable (allowed x c s)] (x : ι) (s : Threads ι κ ans σ) :
    Decidable (Allows allowed x s) :=
  match here : s.progs x with
  | .done _ => isTrue (by unfold Allows; rw [here]; trivial)
  | .call c _ => decidable_of_iff (allowed x c s.shared) (by unfold Allows; rw [here])

instance Over.decidable (s : Threads ι κ ans σ) (x : ι) : Decidable (Over s x) := inferInstanceAs (Decidable (_ = true))

variable {d : Discipline ι κ ans σ} {s : Threads ι κ ans σ} {post : ι → σ → Prop} {x : ι}

theorem overStays {step : ι → (c : κ) → σ → ans c × σ} (run : List ι) (ended : Over s x) : Over (run.foldl (fun s y => advance step y s) s) x := by
  induction run generalizing s with
  | nil => exact ended
  | cons y rest ih =>
    refine ih ?_
    change Over (advance step y s) x
    unfold advance
    cases here : s.progs y with
    | done a => exact ended
    | call c next =>
      have other : x ≠ y := by
        rintro rfl
        unfold Over at ended
        rw [here] at ended
        contradiction
      unfold Over
      simp only [Function.update_of_ne other]
      exact ended

structure Sound (d : Discipline ι κ ans σ) (post : ι → σ → Prop) (s : Threads ι κ ans σ) : Prop where
  holds : d.inv s.shared
  keeps : ∀ x, d.Keeps x (fun _ => post x) (s.progs x) s.shared

theorem advanceSound (sound : Sound d post s) (allows : Allows d.allowed x s) : Sound d post (advance d.step x s) := by
  unfold advance
  unfold Allows at allows
  cases here : s.progs x with
  | done a => exact sound
  | call c next =>
    rw [here] at allows
    have mine := sound.keeps x
    rw [here] at mine
    obtain ⟨promises,kept,later⟩ := mine s.shared .same sound.holds allows
    refine ⟨kept,fun y => ?_⟩
    by_cases own : y = x
    · subst own
      simp only [Function.update_self]
      exact later
    · simp only [Function.update_of_ne own]
      exact Discipline.keepsRely (sound.keeps y) (.other .same (Ne.symm own) sound.holds allows promises)

theorem runSound {run : List ι} (sound : Sound d post s) (along : Along (advance d.step) (Allows d.allowed) run s) :
    Sound d post (run.foldl (fun s x => advance d.step x s) s) := by
  induction run generalizing s with
  | nil => exact sound
  | cons x rest ih => exact ih (advanceSound sound along.1) along.2

omit [DecidableEq ι] in
theorem soundOver (sound : Sound d post s) (ended : Over s x) : post x s.shared := by
  have keeps := sound.keeps x
  unfold Over at ended
  cases here : s.progs x with
  | done a =>
    rw [here] at keeps
    exact keeps s.shared .same sound.holds
  | call c next =>
    rw [here] at ended
    contradiction

end Threads
end VpnPack.Base
