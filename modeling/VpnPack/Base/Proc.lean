import Mathlib.Data.List.Basic

/-! Fallible procedures over an explicit state, in the shape Go code has: a call returns an
error or nil, and leaves a state behind in both cases. -/
namespace VpnPack.Base
open List

inductive GoError where
  | new (msg : String)
  | wrap (msg : String) (inner : GoError)
  | note (inner : GoError) (out : String)
  | join (first second : GoError)
  deriving DecidableEq, Repr

def GoError.text : GoError → String
  | .new msg => msg
  | .wrap msg inner => msg ++ ": " ++ inner.text
  | .note inner out => inner.text ++ " (" ++ out ++ ")"
  | .join first second => first.text ++ "\n" ++ second.text

-- errors.Is: the target is the error itself or sits below it in the unwrap tree.
def GoError.wraps : GoError → GoError → Bool
  | .new msg,target => target == .new msg
  | .wrap msg inner,target => target == .wrap msg inner || inner.wraps target
  | .note inner out,target => target == .note inner out || inner.wraps target
  | .join first second,target => target == .join first second || first.wraps target || second.wraps target

theorem GoError.wrapsSelf (e : GoError) : e.wraps e = true := by
  cases e <;> simp [GoError.wraps]

-- errors.Join of a non-empty argument list.
def joinAll : GoError → List GoError → GoError
  | first,[] => first
  | first,e :: rest => .join first (joinAll e rest)

theorem joinAllFirst {first e : GoError} (rest : List GoError) (below : first.wraps e = true) : (joinAll first rest).wraps e = true := by
  cases rest with
  | nil => exact below
  | cons head rest => simp [joinAll,GoError.wraps,below]

theorem joinAllRest {first e target : GoError} {rest : List GoError} (member : e ∈ rest)
    (below : e.wraps target = true) : (joinAll first rest).wraps target = true := by
  induction rest generalizing first with
  | nil => simp at member
  | cons head rest ih =>
    rcases mem_cons.mp member with rfl | inside
    · simp [joinAll,GoError.wraps,joinAllFirst rest below]
    · simp [joinAll,GoError.wraps,@ih head inside]

abbrev Proc (σ : Type) : Type := σ → Option GoError × σ

section
variable {σ β : Type}

def skip : Proc σ := fun s => (none,s)
def fail (e : GoError) : Proc σ := fun s => (some e,s)
def modify (f : σ → σ) : Proc σ := fun s => (none,f s)

-- if err := p(); err != nil { return err }; q()
def seq (p q : Proc σ) : Proc σ := fun s =>
  match p s with
  | (some e,t) => (some e,t)
  | (none,t) => q t

-- if err := p(); err != nil { return fmt.Errorf("msg: %w", err) }
def wrapping (msg : String) (p : Proc σ) : Proc σ := fun s => ((p s).1.map (.wrap msg),(p s).2)
def ignoring (p : Proc σ) : Proc σ := fun s => (none,(p s).2)

-- if err := p(); err != nil { cleanup(); return err }
def orElse (p cleanup : Proc σ) : Proc σ := fun s =>
  match p s with
  | (some e,t) => (some e,(cleanup t).2)
  | (none,t) => (none,t)

def forEach {α : Type} (body : α → Proc σ) : List α → Proc σ
  | [] => skip
  | x :: xs => seq (body x) (forEach body xs)

-- for … { if err := body(x); err != nil { errs = append(errs, err) } }
def attempts {α : Type} (body : α → Proc σ) : List α → σ → List GoError × σ
  | [],s => ([],s)
  | x :: xs,s =>
    match body x s with
    | (some e,t) => (e :: (attempts body xs t).1,(attempts body xs t).2)
    | (none,t) => attempts body xs t

def attemptAll {α : Type} (body : α → Proc σ) (xs : List α) : Proc σ := fun s =>
  match attempts body xs s with
  | ([],t) => (none,t)
  | (e :: rest,t) => (some (joinAll e rest),t)

@[simp] theorem skipRun (s : σ) : skip s = (none,s) := rfl
@[simp] theorem failRun (e : GoError) (s : σ) : fail e s = (some e,s) := rfl
@[simp] theorem modifyRun (f : σ → σ) (s : σ) : modify f s = (none,f s) := rfl
@[simp] theorem ignoringRun (p : Proc σ) (s : σ) : ignoring p s = (none,(p s).2) := rfl
@[simp] theorem wrappingState (msg : String) (p : Proc σ) (s : σ) : (wrapping msg p s).2 = (p s).2 := rfl

variable {p q : Proc σ} {s t : σ} {msg : String} {α : Type}

theorem seqOk (first : p s = (none,t)) : seq p q s = q t := by
  simp only [seq,first]

theorem seqFail {e : GoError} (first : p s = (some e,t)) : seq p q s = (some e,t) := by
  simp only [seq,first]

theorem seqSource {u : σ} (ok : seq p q s = (none,u)) : ∃ t, p s = (none,t) ∧ q t = (none,u) := by
  simp only [seq] at ok
  split at ok
  · simp at ok
  · rename_i t first
    exact ⟨t,first,ok⟩

theorem wrappingOk : wrapping msg p s = (none,t) ↔ p s = (none,t) := by
  constructor
  · intro ok
    simp only [wrapping,Prod.mk.injEq,Option.map_eq_none_iff] at ok
    exact Prod.ext ok.1 ok.2
  · intro ok
    simp [wrapping,ok]

theorem wrappingFail {e : GoError} (failed : p s = (some e,t)) : wrapping msg p s = (some (.wrap msg e),t) := by
  simp [wrapping,failed]

theorem orElseOk {cleanup : Proc σ} : orElse p cleanup s = (none,t) ↔ p s = (none,t) := by
  simp only [orElse]
  split <;> rename_i first <;> simp [first]

theorem forEachAppend {body : α → Proc σ} {xs ys : List α} {u : σ} (ok : forEach body (xs ++ ys) s = (none,u)) :
    ∃ t, forEach body xs s = (none,t) ∧ forEach body ys t = (none,u) := by
  induction xs generalizing s with
  | nil => exact ⟨s,rfl,ok⟩
  | cons x xs ih =>
    obtain ⟨v,first,rest⟩ := seqSource ok
    obtain ⟨t,left,right⟩ := ih rest
    exact ⟨t,by rw [forEach,seqOk first,left],right⟩

theorem attemptAllStep (body : α → Proc σ) (x : α) (xs : List α) (s : σ) :
    ((attemptAll body (x :: xs) s).1 ≠ none ↔ (body x s).1 ≠ none ∨ (attemptAll body xs (body x s).2).1 ≠ none) ∧
      (attemptAll body (x :: xs) s).2 = (attemptAll body xs (body x s).2).2 := by
  rcases first : body x s with ⟨err,t⟩
  cases err with
  | some e =>
    simp only [attemptAll,attempts,first]
    rcases later : attempts body xs t with ⟨errs,u⟩
    cases errs <;> simp
  | none => simp [attemptAll,attempts,first]

theorem attemptAllOk {body : α → Proc σ} {xs : List α} : attemptAll body xs s = (none,t) ↔ forEach body xs s = (none,t) := by
  have known : attemptAll body xs s = (none,t) ↔ attempts body xs s = ([],t) := by
    simp only [attemptAll]
    split <;> rename_i tried <;> simp [tried]
  rw [known]
  clear known
  induction xs generalizing s with
  | nil => simp [attempts,forEach]
  | cons x xs ih =>
    simp only [attempts,forEach,seq]
    split
    · simp
    · exact ih

def Advances (rel : σ → σ → Prop) (p : Proc σ) : Prop := ∀ s, rel s (p s).2

section
variable {rel : σ → σ → Prop} (chain : ∀ s t u, rel s t → rel t u → rel s u) (same : ∀ s, rel s s)
include chain

theorem advancesSeq {p q : Proc σ} (left : Advances rel p) (right : Advances rel q) : Advances rel (seq p q) := by
  intro s
  have first := left s
  simp only [seq]
  split <;> rename_i ran <;> rw [ran] at first
  · exact first
  · exact chain _ _ _ first (right _)

include same

theorem advancesForEach {α : Type} {body : α → Proc σ} {xs : List α} (each : ∀ x ∈ xs, Advances rel (body x)) :
    Advances rel (forEach body xs) := by
  induction xs with
  | nil => exact same
  | cons x xs ih =>
    exact advancesSeq chain (each x mem_cons_self) (ih (fun y member => each y (mem_cons_of_mem x member)))

theorem advancesAttemptAll {α : Type} {body : α → Proc σ} {xs : List α} (each : ∀ x ∈ xs, Advances rel (body x)) :
    Advances rel (attemptAll body xs) := by
  have tried : ∀ s, rel s (attempts body xs s).2 := by
    induction xs with
    | nil => exact same
    | cons x xs ih =>
      intro s
      have first := each x mem_cons_self s
      have later := ih (fun y member => each y (mem_cons_of_mem x member))
      simp only [attempts]
      split <;> rename_i ran <;> rw [ran] at first <;> exact chain _ _ _ first (later _)
  intro s
  have all := tried s
  simp only [attemptAll]
  split <;> rename_i ran <;> rw [ran] at all <;> exact all

end

def Keeps (view : σ → β) (p : Proc σ) : Prop := ∀ s, view (p s).2 = view s

variable {view : σ → β}

theorem keepsRan {p : Proc σ} {s t : σ} {r : Option GoError} (keeps : Keeps view p) (ran : p s = (r,t)) : view t = view s := by
  have kept := keeps s
  rw [ran] at kept
  exact kept

theorem keepsSkip : Keeps view (skip : Proc σ) := fun _ => rfl
theorem keepsFail (e : GoError) : Keeps view (fail e : Proc σ) := fun _ => rfl

theorem keepsSeq (left : Keeps view p) (right : Keeps view q) : Keeps view (seq p q) := by
  intro s
  have first := left s
  simp only [seq]
  split
  · rename_i e t run
    simpa only [run] using first
  · rename_i t run
    rw [right t]
    simpa only [run] using first

theorem keepsWrapping (inner : Keeps view p) : Keeps view (wrapping msg p) := inner

theorem keepsIgnoring (inner : Keeps view p) : Keeps view (ignoring p) := inner

theorem keepsOrElse {cleanup : Proc σ} (left : Keeps view p) (right : Keeps view cleanup) : Keeps view (orElse p cleanup) := by
  intro s
  have first := left s
  simp only [orElse]
  split
  · rename_i e t run
    rw [right t]
    simpa only [run] using first
  · rename_i t run
    simpa only [run] using first

theorem keepsForEach {α : Type} {body : α → Proc σ} {xs : List α}
    (each : ∀ x ∈ xs, Keeps view (body x)) : Keeps view (forEach body xs) := by
  induction xs with
  | nil => exact keepsSkip
  | cons x xs ih =>
    exact keepsSeq (each x mem_cons_self) (ih (fun y member => each y (mem_cons_of_mem x member)))

end

/- States reached by any number of allowed steps; whether a step is allowed may
depend on the state it is taken in. -/
inductive Reached {σ α : Type} (step : α → σ → σ) (allowed : α → σ → Prop) (start : σ) : σ → Prop where
  | start : Reached step allowed start start
  | next {s} (a : α) (before : Reached step allowed start s) (ok : allowed a s) : Reached step allowed start (step a s)

theorem reachedInvariant {σ α : Type} {step : α → σ → σ} {allowed : α → σ → Prop} {start s : σ} (inv : σ → Prop)
    (initial : inv start) (preserved : ∀ a s, inv s → allowed a s → inv (step a s)) (reached : Reached step allowed start s) : inv s := by
  induction reached with
  | start => exact initial
  | next a _ ok ih => exact preserved a _ ih ok

end VpnPack.Base
