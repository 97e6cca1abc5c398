import Mathlib.Data.List.Forall2
import Mathlib.Data.List.Induction
import VpnPack.Base.Proc

/-! Package ops: the saga primitive under every firewall, exit-node and tunnel operation. Do
runs in order; on the first error, or when the context is seen cancelled, Undo runs over the
completed steps in reverse. -/
namespace VpnPack.Ops
open Base List

structure Op (σ : Type) where
  name : String
  Do : Proc σ
  Undo : Proc σ

section
variable {σ : Type}

def noUndo : Proc σ := skip
def Noop (name : String) (Do : Proc σ) : Op σ := ⟨name,Do,noUndo⟩

-- ctx.Err() at its n-th observation; a context cancelled at instant t answers from t on.
abbrev Context := Nat → Option GoError

def background : Context := fun _ => none

def cancelledAt (instant : Nat) (cause : GoError) : Context :=
  fun n => if instant ≤ n then some cause else none

def undoAll : List (Op σ) → σ → List GoError × σ
  | [],s => ([],s)
  | op :: rest,s =>
    match op.Undo s with
    | (some e,t) => (.wrap ("undo " ++ op.name) e :: (undoAll rest t).1,(undoAll rest t).2)
    | (none,t) => undoAll rest t

def rollback (done : List (Op σ)) (cause : GoError) : Proc σ := fun s =>
  let undone := undoAll done.reverse s
  (some (if undone.1.length > 0 then joinAll cause undone.1 else cause),undone.2)

def runFrom (ctx : Context) (index : Nat) (done : List (Op σ)) : List (Op σ) → Proc σ
  | [] => skip
  | step :: rest => fun s =>
    match ctx (2*index) with
    | some err => rollback done (.wrap ("context cancelled before " ++ step.name) err) s
    | none =>
      match step.Do s with
      | (some err,t) => rollback done (.wrap step.name err) t
      | (none,t) =>
        match ctx (2*index+1) with
        | some err => rollback (done ++ [step]) (.wrap ("context cancelled after " ++ step.name) err) t
        | none => runFrom ctx (index+1) (done ++ [step]) rest t

def run (ctx : Context) (steps : List (Op σ)) : Proc σ := runFrom ctx 0 [] steps

section
variable {rel : σ → σ → Prop} (same : ∀ s, rel s s) (chain : ∀ s t u, rel s t → rel t u → rel s u)
include same chain

theorem undoAllAdvances {done : List (Op σ)} (each : ∀ op ∈ done, Advances rel op.Undo) (s : σ) : rel s (undoAll done s).2 := by
  induction done generalizing s with
  | nil => exact same s
  | cons op rest ih =>
    have first := each op mem_cons_self s
    have later := ih (fun x member => each x (mem_cons_of_mem op member))
    simp only [undoAll]
    split <;> rename_i undone <;> rw [undone] at first <;> exact chain _ _ _ first (later _)

theorem runAdvances {ctx : Context} {steps : List (Op σ)} (forward : ∀ op ∈ steps, Advances rel op.Do)
    (back : ∀ op ∈ steps, Advances rel op.Undo) : Advances rel (run ctx steps) := by
  suffices general : ∀ (rest done : List (Op σ)) (index : Nat) (s : σ),
      (∀ op ∈ rest, Advances rel op.Do) → (∀ op ∈ done ++ rest, Advances rel op.Undo) →
      rel s (runFrom ctx index done rest s).2 from
    fun s => general steps [] 0 s forward back
  intro rest
  induction rest with
  | nil => intro done index s _ _; exact same s
  | cons step rest ih =>
    intro done index s forward back
    have first := forward step mem_cons_self s
    have rolled (extra : List (Op σ)) (known : ∀ op ∈ extra, Advances rel op.Undo) (cause : GoError) (t : σ) :
        rel t (rollback extra cause t).2 :=
      undoAllAdvances same chain (fun op member => known op (mem_reverse.mp member)) t
    have before : ∀ op ∈ done, Advances rel op.Undo := fun op member => back op (mem_append_left _ member)
    simp only [runFrom]
    split
    · exact rolled done before _ s
    · split
      · rename_i e t ran
        rw [ran] at first
        exact chain _ _ _ first (rolled done before _ t)
      · rename_i t ran
        rw [ran] at first
        have extended : ∀ op ∈ done ++ [step], Advances rel op.Undo := by
          intro op member
          refine back op ?_
          rcases mem_append.mp member with old | new
          · exact mem_append_left _ old
          · simp_all
        split
        · exact chain _ _ _ first (rolled _ extended _ t)
        · exact chain _ _ _ first (ih (done ++ [step]) (index+1) t
            (fun op member => forward op (mem_cons_of_mem step member)) (by simpa using back))

end

theorem rollbackFails (done : List (Op σ)) (cause : GoError) (s : σ) : (rollback done cause s).1 ≠ none := by
  simp [rollback]

theorem rollbackOne (a : Op σ) (cause : GoError) (s : σ) : (rollback [a] cause s).2 = (a.Undo s).2 := by
  simp only [rollback,reverse_singleton,undoAll]
  split <;> rename_i undone <;> rw [undone]

variable {s t u : σ} {a b : Op σ}

theorem runFirstFailed {rest : List (Op σ)} {e : GoError} (failed : a.Do s = (some e,t)) :
    run background (a :: rest) s = (some (.wrap a.name e),t) := by
  simp [run,runFrom,background,failed,rollback,undoAll]

theorem runSecondFailed {rest : List (Op σ)} {e : GoError} (first : a.Do s = (none,t))
    (failed : b.Do t = (some e,u)) : run background (a :: b :: rest) s = rollback [a] (.wrap b.name e) u := by
  simp [run,runFrom,background,first,failed]

theorem runPairOk (first : a.Do s = (none,t)) (second : b.Do t = (none,u)) : run background [a,b] s = (none,u) := by
  simp [run,runFrom,background,first,second]

theorem runTripleOk {c : Op σ} {v : σ} (first : a.Do s = (none,t)) (second : b.Do t = (none,u))
    (third : c.Do u = (none,v)) : run background [a,b,c] s = (none,v) := by
  simp [run,runFrom,background,first,second,third]

section
variable {β : Type} {view : σ → β} {rest : List (Op σ)}

theorem runFromQuiet {done : List (Op σ)} {index : Nat} (quiet : ∀ op ∈ rest, ∀ s, (op.Do s).1 = none ∧ view (op.Do s).2 = view s) (s : σ) :
    view (runFrom background index done rest s).2 = view s := by
  induction rest generalizing index done s with
  | nil => rfl
  | cons step rest ih =>
    have here := quiet step mem_cons_self s
    rcases ran : step.Do s with ⟨r,t⟩
    rw [ran] at here
    cases here.1
    simp only [runFrom,background,ran]
    exact (ih (fun op member => quiet op (mem_cons_of_mem step member)) t).trans here.2

theorem runMiddle (forward : Keeps view a.Do) (back : Keeps view a.Undo)
    (quiet : ∀ op ∈ rest, ∀ s, (op.Do s).1 = none ∧ view (op.Do s).2 = view s) (s : σ) :
    view (run background (a :: b :: rest) s).2 = view s ∨
    ∃ t, view t = view s ∧ view (run background (a :: b :: rest) s).2 = view (b.Do t).2 := by
  rcases first : a.Do s with ⟨r,t⟩
  have same := keepsRan forward first
  cases r with
  | some e =>
    rw [runFirstFailed first]
    exact .inl same
  | none =>
    refine .inr ⟨t,same,?_⟩
    rcases second : b.Do t with ⟨r,u⟩
    cases r with
    | some e => rw [runSecondFailed first second,rollbackOne,back]
    | none =>
      have reached : run background (a :: b :: rest) s = runFrom background 2 [a,b] rest u := by
        simp [run,runFrom,background,first,second]
      rw [reached,runFromQuiet quiet]

end

theorem runFromDone {ctx : Context} {steps done : List (Op σ)} {index : Nat}
    (ran : runFrom ctx index done steps s = (none,t)) : forEach Op.Do steps s = (none,t) := by
  induction steps generalizing index done s with
  | nil => exact ran
  | cons step rest ih =>
    simp only [runFrom] at ran
    split at ran
    · exact absurd (congrArg Prod.fst ran) (rollbackFails _ _ _)
    · split at ran
      · exact absurd (congrArg Prod.fst ran) (rollbackFails _ _ _)
      · rename_i u first
        split at ran
        · exact absurd (congrArg Prod.fst ran) (rollbackFails _ _ _)
        · rw [forEach,seqOk first]
          exact ih ran

theorem runDone {ctx : Context} {steps : List (Op σ)} (ran : run ctx steps s = (none,t)) :
    forEach Op.Do steps s = (none,t) := runFromDone ran

end
/- What an observer of the closures sees: one event per call of a Do or an Undo, with its error. -/
inductive Event where
  | did (index : Nat) (err : Option GoError)
  | undid (index : Nat) (err : Option GoError)
  deriving DecidableEq, Repr

inductive Call where
  | Do (index : Nat)
  | Undo (index : Nat)
  deriving DecidableEq, Repr

def Event.call : Event → Call
  | .did index _ => .Do index
  | .undid index _ => .Undo index

section
variable {σ : Type}

def logged (index : Nat) (op : Op σ) : Op (σ × List Event) where
  name := op.name
  Do w := ((op.Do w.1).1,(op.Do w.1).2,w.2 ++ [.did index (op.Do w.1).1])
  Undo w := ((op.Undo w.1).1,(op.Undo w.1).2,w.2 ++ [.undid index (op.Undo w.1).1])

def logAll (steps : List (Op σ)) : List (Op (σ × List Event)) := steps.mapIdx logged

def after (steps : List (Op σ)) (s : σ) (count : Nat) : σ :=
  (steps.take count).foldl (fun t op => (op.Do t).2) s

def Completed (steps : List (Op σ)) (s : σ) (count : Nat) : Prop :=
  ∀ i < count, ∃ op, steps[i]? = some op ∧ (op.Do (after steps s i)).1 = none

def LiveUntil (ctx : Context) (check : Nat) : Prop := ∀ j < check, ctx j = none

/- Where a run stops: after done completed steps and calls Do calls, for this cause. -/
inductive Stop (ctx : Context) (steps : List (Op σ)) (s : σ) : Nat → Nat → GoError → Prop where
  | before {k op cause} (found : steps[k]? = some op) (live : LiveUntil ctx (2*k))
      (cancelled : ctx (2*k) = some cause) : Stop ctx steps s k k cause
  | failed {k op cause} (found : steps[k]? = some op) (live : LiveUntil ctx (2*k+1))
      (err : (op.Do (after steps s k)).1 = some cause) : Stop ctx steps s k (k+1) cause
  | later {k op cause} (found : steps[k]? = some op) (live : LiveUntil ctx (2*k+1))
      (ok : (op.Do (after steps s k)).1 = none) (cancelled : ctx (2*k+1) = some cause) :
      Stop ctx steps s (k+1) (k+1) cause

def callsOf (calls done : Nat) : List Call :=
  (List.range calls).map .Do ++ (List.range done).reverse.map .Undo

def FailureKeepsState (op : Op σ) : Prop := ∀ s e t, op.Do s = (some e,t) → t = s

def UndoInverts (op : Op σ) : Prop :=
  ∀ s t u, op.Do s = (none,t) → op.Undo t = (none,u) → u = s

variable {steps : List (Op σ)} {s : σ} {k : Nat} {op : Op σ} {ctx : Context}

theorem undoLogged (pre : List (Op σ)) (t : σ) (log : List Event) : ∃ events, (undoAll (logAll pre).reverse (t,log)).2.2 = log ++ events ∧
      events.map Event.call = (List.range pre.length).reverse.map .Undo ∧ (∀ event ∈ events, ∃ i e, event = .undid i e) ∧
      ∀ i e, .undid i (some e) ∈ events →
        ∃ err ∈ (undoAll (logAll pre).reverse (t,log)).1, err.wraps e = true := by
  induction pre using List.reverseRecOn generalizing t log with
  | nil => exact ⟨[],by simp [logAll,undoAll],rfl,by simp,by simp⟩
  | append_singleton init op ih =>
    have shape : (logAll (init ++ [op])).reverse = logged init.length op :: (logAll init).reverse := by
      simp [logAll,mapIdx_append]
    rw [shape]
    obtain ⟨events,state,calls,kinds,errors⟩ := ih (op.Undo t).2 (log ++ [.undid init.length (op.Undo t).1])
    refine ⟨.undid init.length (op.Undo t).1 :: events,?_,?_,?_,?_⟩
    · simp only [undoAll,logged]
      split <;> rename_i undone <;> simp only [Prod.mk.injEq] at undone <;> obtain ⟨_,rfl⟩ := undone <;>
        simp [state]
    · simp [calls,Event.call,range_succ]
    · intro event member
      rcases mem_cons.mp member with rfl | inside
      · exact ⟨_,_,rfl⟩
      · exact kinds event inside
    · intro i e member
      rcases mem_cons.mp member with same | inside
      · rcases hu : op.Undo t with ⟨err,u⟩
        simp only [hu,Event.undid.injEq] at same
        obtain ⟨rfl,rfl⟩ := same
        refine ⟨.wrap ("undo " ++ op.name) e,?_,by simp [GoError.wraps,GoError.wrapsSelf]⟩
        simp [undoAll,logged,hu]
      · obtain ⟨err,mem,wraps⟩ := errors i e inside
        refine ⟨err,?_,wraps⟩
        simp only [undoAll,logged]
        split <;> rename_i undone <;> simp only [Prod.mk.injEq] at undone <;> obtain ⟨_,rfl⟩ := undone
        · exact mem_cons_of_mem _ mem
        · exact mem
theorem afterSucc (found : steps[k]? = some op) : after steps s (k+1) = (op.Do (after steps s k)).2 := by
  simp [after,take_add_one,found]

theorem liveSucc {n : Nat} (live : LiveUntil ctx n) (now : ctx n = none) : LiveUntil ctx (n+1) := by
  intro j small
  rcases Nat.lt_succ_iff_lt_or_eq.mp small with old | rfl
  · exact live j old
  · exact now

theorem completedSucc (completed : Completed steps s k) (found : steps[k]? = some op)
    (ok : (op.Do (after steps s k)).1 = none) : Completed steps s (k+1) := by
  intro i small
  rcases Nat.lt_succ_iff_lt_or_eq.mp small with old | rfl
  · exact completed i old
  · exact ⟨op,found,ok⟩

theorem headFound {α : Type} {steps rest : List α} {op : α} (suffix : steps.drop k = op :: rest) : steps[k]? = some op := by
  have head := congrArg List.head? suffix
  simpa [head?_drop] using head

theorem logTake (found : steps[k]? = some op) : logAll (steps.take (k+1)) = logAll (steps.take k) ++ [logged k op] := by
  have small := (List.getElem?_eq_some_iff.mp found).1
  have short : (steps.take k).length = k := by simp; omega
  simp [logAll,take_add_one,found,mapIdx_append,short]

theorem logDrop (found : steps[k]? = some op) : (logAll steps).drop k = logged k op :: (logAll steps).drop (k+1) := by
  have here : (logAll steps)[k]? = some (logged k op) := by simp [logAll,found]
  obtain ⟨inside,same⟩ := List.getElem?_eq_some_iff.mp here
  rw [drop_eq_getElem_cons inside,same]

/- The reverse pass meets each Undo in the state its own Do left, so inverting
step by step walks the same states back to the first one. -/
theorem undoRestores (inverts : ∀ op ∈ steps, UndoInverts op) (log : List Event)
    (k : Nat) (bound : k ≤ steps.length) (completed : Completed steps s k)
    (clean : ∀ i e, .undid i e ∈ (undoAll (logAll (steps.take k)).reverse (after steps s k,log)).2.2 → e = none) :
    (undoAll (logAll (steps.take k)).reverse (after steps s k,log)).2.1 = s := by
  induction k generalizing log with
  | zero => simp [logAll,undoAll,after]
  | succ k ih =>
    obtain ⟨op,found,ok⟩ := completed k (Nat.lt_succ_self k)
    have member : op ∈ steps := mem_of_getElem? found
    have shape : (logAll (steps.take (k+1))).reverse = logged k op :: (logAll (steps.take k)).reverse := by
      rw [logTake found,reverse_append,reverse_singleton,singleton_append]
    have walked : op.Do (after steps s k) = (none,after steps s (k+1)) := by
      rw [afterSucc found]
      exact Prod.ext ok rfl
    rw [shape] at clean ⊢
    rcases hu : op.Undo (after steps s (k+1)) with ⟨err,u⟩
    have unfolded : (undoAll (logged k op :: (logAll (steps.take k)).reverse) (after steps s (k+1),log)).2 =
        (undoAll (logAll (steps.take k)).reverse (u,log ++ [.undid k err])).2 := by
      cases err <;> simp [undoAll,logged,hu]
    rw [unfolded] at clean ⊢
    have quiet : err = none := by
      obtain ⟨events,state,_⟩ := undoLogged (steps.take k) u (log ++ [.undid k err])
      exact clean k err (by rw [state]; simp)
    subst quiet
    have back : u = after steps s k := inverts op member _ _ _ walked hu
    subst back
    exact ih _ (by omega) (fun i small => completed i (by omega)) clean

structure RolledBack (ctx : Context) (steps : List (Op σ)) (s : σ) (err : GoError) (w : σ × List Event) : Prop where
  stopped : ∃ done calls cause, Stop ctx steps s done calls cause ∧ Completed steps s done ∧
    w.2.map Event.call = callsOf calls done ∧ err.wraps cause = true
  undoErrors : ∀ i e, .undid i (some e) ∈ w.2 → err.wraps e = true
  restored : (∀ i e, .undid i e ∈ w.2 → e = none) → w.1 = s

theorem rollbackLogged (inverts : ∀ op ∈ steps, UndoInverts op)
    {done calls : Nat} {cause : GoError} (stop : Stop ctx steps s done calls cause) (bound : done ≤ steps.length)
    (completed : Completed steps s done) (msg : String) {log : List Event} (forward : log.map Event.call = (List.range calls).map .Do) :
    ∃ err w, rollback (logAll (steps.take done)) (.wrap msg cause) (after steps s done,log) = (some err,w) ∧
      RolledBack ctx steps s err w := by
  obtain ⟨events,state,undone,kinds,errors⟩ := undoLogged (steps.take done) (after steps s done) log
  have short : (steps.take done).length = done := by simp; omega
  have first : (GoError.wrap msg cause).wraps cause = true := by simp [GoError.wraps,GoError.wrapsSelf]
  have forwardOnly : ∀ i e, Event.undid i e ∉ log := by
    intro i e member
    have mapped : Call.Undo i ∈ log.map Event.call := mem_map.mpr ⟨_,member,rfl⟩
    rw [forward] at mapped
    simp at mapped
  refine ⟨_,_,rfl,⟨⟨done,calls,cause,stop,completed,?_,?_⟩,?_,?_⟩⟩
  · simp [state,undone,callsOf,forward,short]
  · split
    · exact joinAllFirst _ first
    · exact first
  · intro i e member
    rw [state] at member
    have inside : Event.undid i (some e) ∈ events := by
      rcases mem_append.mp member with old | new
      · exact absurd old (forwardOnly _ _)
      · exact new
    obtain ⟨err,mem,wraps⟩ := errors i e inside
    rw [if_pos (length_pos_of_mem mem)]
    exact joinAllRest mem wraps
  · exact undoRestores inverts log done bound completed

theorem runFromLogged (keeps : ∀ op ∈ steps, FailureKeepsState op) (inverts : ∀ op ∈ steps, UndoInverts op)
    (rest : List (Op σ)) (k : Nat) (suffix : steps.drop k = rest) (bound : k ≤ steps.length)
    (completed : Completed steps s k) (live : LiveUntil ctx (2*k)) (log : List Event)
    (forward : log.map Event.call = (List.range k).map .Do) :
    (∃ w, runFrom ctx k (logAll (steps.take k)) ((logAll steps).drop k) (after steps s k,log) = (none,w) ∧
      Completed steps s steps.length ∧ LiveUntil ctx (2*steps.length)) ∨
    ∃ err w, runFrom ctx k (logAll (steps.take k)) ((logAll steps).drop k) (after steps s k,log) = (some err,w) ∧
      RolledBack ctx steps s err w := by
  induction rest generalizing k log with
  | nil =>
    have ended : k = steps.length := by
      have := drop_eq_nil_iff.mp suffix
      omega
    subst ended
    left
    have nothing : (logAll steps).drop steps.length = [] := by simp [logAll]
    exact ⟨(after steps s steps.length,log),by rw [nothing]; rfl,completed,live⟩
  | cons op rest ih =>
    have found := headFound suffix
    have small : k < steps.length := (List.getElem?_eq_some_iff.mp found).1
    rw [logDrop found]
    simp only [runFrom]
    cases before : ctx (2*k) with
    | some cause =>
      right
      exact rollbackLogged inverts (.before found live before) bound completed _ forward
    | none =>
      have liveDo : LiveUntil ctx (2*k+1) := liveSucc live before
      rcases did : op.Do (after steps s k) with ⟨err,t⟩
      have grown : (log ++ [Event.did k err]).map Event.call = (List.range (k+1)).map .Do := by
        simp [forward,Event.call,range_succ]
      cases err with
      | some cause =>
        have same : t = after steps s k := keeps op (mem_of_getElem? found) _ _ _ did
        subst same
        right
        simp only [logged,did]
        exact rollbackLogged inverts (.failed found liveDo (by rw [did])) bound completed _ grown
      | none =>
        have walked : after steps s (k+1) = t := by rw [afterSucc found,did]
        subst walked
        have next : Completed steps s (k+1) := completedSucc completed found (by rw [did])
        simp only [logged,did]
        rw [show (⟨op.name,_,_⟩ : Op (σ × List Event)) = logged k op from rfl,← logTake found]
        cases later : ctx (2*k+1) with
        | some cause =>
          right
          exact rollbackLogged inverts (.later found liveDo (by rw [did]) later) small next _ grown
        | none => exact ih (k+1) (by rw [← drop_drop,suffix]; rfl) small next (liveSucc liveDo later) _ grown

def Watches (op : Op (σ × List Event)) (plain : Op σ) : Prop :=
  op.name = plain.name ∧ (∀ w, ((op.Do w).1,(op.Do w).2.1) = plain.Do w.1) ∧
    ∀ w, ((op.Undo w).1,(op.Undo w).2.1) = plain.Undo w.1

theorem loggedWatches (index : Nat) (op : Op σ) : Watches (logged index op) op :=
  ⟨rfl,fun _ => rfl,fun _ => rfl⟩

theorem logAllWatches (steps : List (Op σ)) : List.Forall₂ Watches (logAll steps) steps := by
  rw [List.forall₂_iff_get]
  refine ⟨by simp [logAll],fun i _ _ => ?_⟩
  simpa [logAll] using loggedWatches i _

theorem undoAllWatched {ops : List (Op (σ × List Event))} {plain : List (Op σ)}
    (watched : List.Forall₂ Watches ops plain) (w : σ × List Event) : ((undoAll ops w).1,(undoAll ops w).2.1) = undoAll plain w.1 := by
  induction watched generalizing w with
  | nil => rfl
  | @cons op p ops plain head tail ih =>
    have first := head.2.2 w
    rcases hu : op.Undo w with ⟨err,u⟩
    rw [hu] at first
    have later := ih u
    cases err <;> simp [undoAll,hu,← first,← later,head.1]

theorem runFromWatched {ctx : Context} {rest : List (Op (σ × List Event))} {plainRest : List (Op σ)}
    (watchedRest : List.Forall₂ Watches rest plainRest) (index : Nat) {done : List (Op (σ × List Event))} {plainDone : List (Op σ)}
    (watchedDone : List.Forall₂ Watches done plainDone) (w : σ × List Event) :
    ((runFrom ctx index done rest w).1,(runFrom ctx index done rest w).2.1) = runFrom ctx index plainDone plainRest w.1 := by
  have back {ops plain} (watched : List.Forall₂ Watches ops plain) (cause : GoError) (v : σ × List Event) :
      ((rollback ops cause v).1,(rollback ops cause v).2.1) = rollback plain cause v.1 := by
    have := undoAllWatched (rel_reverse watched) v
    simp only [rollback,← this]
  induction watchedRest generalizing index done plainDone w with
  | nil => rfl
  | @cons op p rest plainRest head tail ih =>
    have extended : List.Forall₂ Watches (done ++ [op]) (plainDone ++ [p]) := rel_append watchedDone (.cons head .nil)
    have first := head.2.1 w
    simp only [runFrom,head.1]
    cases ctx (2*index) with
    | some cause => exact back watchedDone _ w
    | none =>
      rcases hd : op.Do w with ⟨err,u⟩
      rw [hd] at first
      rw [← first]
      cases err with
      | some cause => exact back watchedDone _ u
      | none =>
        cases ctx (2*index+1) with
        | some cause => exact back extended _ u
        | none => exact ih (index+1) extended u

def eventsOf (ctx : Context) (steps : List (Op σ)) (s : σ) : List Event :=
  (run ctx (logAll steps) (s,[])).2.2

theorem stopExcludesFinish {done calls : Nat} {cause : GoError} (stop : Stop ctx steps s done calls cause) :
    ¬ (Completed steps s steps.length ∧ LiveUntil ctx (2*steps.length)) := by
  rintro ⟨completed,live⟩
  cases stop with
  | before found _ cancelled =>
    have small := (List.getElem?_eq_some_iff.mp found).1
    rw [live (2*done) (by omega)] at cancelled
    simp at cancelled
  | failed found _ err =>
    obtain ⟨other,same,ok⟩ := completed done (List.getElem?_eq_some_iff.mp found).1
    rw [found] at same
    cases same
    simp [ok] at err
  | @later k _ _ found _ _ cancelled =>
    have small := (List.getElem?_eq_some_iff.mp found).1
    rw [live (2*k+1) (by omega)] at cancelled
    simp at cancelled

theorem runIsSaga (ctx : Context) (steps : List (Op σ)) (s : σ)
    (keeps : ∀ op ∈ steps, FailureKeepsState op) (inverts : ∀ op ∈ steps, UndoInverts op) :
    ((run ctx steps s).1 = none ↔ Completed steps s steps.length ∧ LiveUntil ctx (2*steps.length)) ∧ ∀ err, (run ctx steps s).1 = some err →
      RolledBack ctx steps s err ((run ctx steps s).2,eventsOf ctx steps s) := by
  have plain := @runFromWatched σ ctx _ _ (logAllWatches steps) 0 _ _ .nil (s,[])
  have nothing : Completed steps s 0 := fun i small => absurd small (Nat.not_lt_zero i)
  have live : LiveUntil ctx (2*0) := fun j small => absurd small (Nat.not_lt_zero j)
  have start := runFromLogged keeps inverts steps 0 rfl (Nat.zero_le _) nothing live [] rfl
  have whole : ∀ out, runFrom ctx 0 (logAll (steps.take 0)) ((logAll steps).drop 0) (after steps s 0,[]) = out →
      run ctx (logAll steps) (s,[]) = out := by
    intro out same
    simpa [run,logAll,after] using same
  have projected : ((run ctx (logAll steps) (s,[])).1,(run ctx (logAll steps) (s,[])).2.1) = run ctx steps s := plain
  rcases start with ⟨w,ran,completed,live⟩ | ⟨err,w,ran,rolled⟩
  · have full := whole _ ran
    rw [full] at projected
    refine ⟨⟨fun _ => ⟨completed,live⟩,fun _ => by rw [← projected]⟩,?_⟩
    intro err failed
    rw [← projected] at failed
    simp at failed
  · have full := whole _ ran
    rw [full] at projected
    have events : eventsOf ctx steps s = w.2 := by simp [eventsOf,full]
    refine ⟨⟨?_,?_⟩,?_⟩
    · intro ok
      rw [← projected] at ok
      simp at ok
    · intro finished
      obtain ⟨done,calls,cause,stop,_⟩ := rolled.stopped
      exact absurd finished (stopExcludesFinish stop)
    · intro other failed
      rw [← projected] at failed
      cases failed
      rw [← projected,events]
      exact rolled

theorem runIsSagaPushThenCancel : let push : Op (List Nat) := ⟨"push",fun s => (none,1 :: s),fun s => (none,s.tail)⟩
    let ctx := cancelledAt 1 (.new "context canceled")
    (∀ op ∈ [push],FailureKeepsState op) ∧ (∀ op ∈ [push],UndoInverts op) ∧
    (run ctx [push] []).1 = some (.wrap "context cancelled after push" (.new "context canceled")) ∧
    RolledBack ctx [push] [] (.wrap "context cancelled after push" (.new "context canceled"))
      ((run ctx [push] []).2,eventsOf ctx [push] []) := by
  intro push ctx
  have keeps : ∀ op ∈ [push],FailureKeepsState op := by
    intro op member s e t failed
    simp only [mem_singleton] at member
    subst member
    simp [push] at failed
  have inverts : ∀ op ∈ [push],UndoInverts op := by
    intro op member s t u did undone
    simp only [mem_singleton] at member
    subst member
    simp only [push,Prod.mk.injEq,true_and] at did undone
    rw [← undone,← did]
    rfl
  exact ⟨keeps,inverts,by decide,(runIsSaga ctx [push] [] keeps inverts).2 _ (by decide)⟩

end
end VpnPack.Ops
