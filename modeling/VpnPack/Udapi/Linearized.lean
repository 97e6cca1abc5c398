import VpnPack.Udapi.Rmw

/-! The set updates of any callers in one process, put one after another in the order in which they let
go of their locks. Only requests made by these calls are considered; nothing is said of
other processes. -/
namespace VpnPack.Udapi
open Base List
open Prog (followsBind followsAsk followsPure)
open Discipline (keepsAsk stableAnd keepsBind keepsPure stableExists stableFact)
open Function (update_of_ne update update_self)

inductive Serial {ι : Type} : List (Returned ι) → Config → Config → Prop where
  | start {u : Config} : Serial [] u u
  | next {history : List (Returned ι)} {u v w : Config} {done : Returned ι} {link : Link} (before : Serial history u v)
      (ran : done.op.run link v = (done.err,w)) (failed : done.err ≠ none → w.sets = v.sets) : Serial (history ++ [done]) u w

section
variable {ι : Type} {u : Config} {name : String} {history : List (Returned ι)} {b e : Option (List String)} {done : Returned ι}

def onSet (name : String) (history : List (Returned ι)) : List (Returned ι) := history.filter (fun done => done.op.ipsetName == name)
def byCaller [DecidableEq ι] (x : ι) (history : List (Returned ι)) : List (Returned ι) := history.filter (fun done => done.caller = x)

def Agrees (u : Config) (name : String) (history : List (Returned ι)) (entries : Option (List String)) : Prop :=
  ∃ v, Serial (onSet name history) u v ∧ v.sets.lookup name = entries

theorem agreesOther (other : done.op.ipsetName ≠ name) (agrees : Agrees u name history e) : Agrees u name (history ++ [done]) e := by
  have same : onSet name (history ++ [done]) = onSet name history := by
    rw [onSet,filter_append,filter_cons_of_neg (by simpa using other),filter_nil,append_nil,onSet]
  rw [Agrees,same]
  exact agrees

theorem onSetNext (here : done.op.ipsetName = name) : onSet name (history ++ [done]) = onSet name history ++ [done] := by
  rw [onSet,filter_append,filter_cons_of_pos (by simpa using here),filter_nil,onSet]

theorem agreesNext {x : ι} {op : SetOp} {err : Option GoError} (here : op.ipsetName = name) (agrees : Agrees u name history b)
    (explains : Explains op err b e) : Agrees u name (history ++ [⟨x,op,err⟩]) e := by
  obtain ⟨v,serial,entries⟩ := agrees
  subst here
  obtain ⟨link,w,ran,ended,failed⟩ := explains v entries
  refine ⟨w,?_,ended⟩
  rw [@onSetNext _ _ history ⟨x,op,err⟩ rfl]
  exact .next serial ran failed

theorem agreesIdle {x : ι} {op : SetOp} (idle : op.idle = true) (agrees : Agrees u name history e) :
    Agrees u name (history ++ [⟨x,op,none⟩]) e := by
  by_cases here : op.ipsetName = name
  · exact agreesNext here agrees (fun v entries => ⟨fun _ => none,v,idleRun idle _ v,entries,fun failed => absurd rfl failed⟩)
  · exact agreesOther here agrees

end

section
variable {ι : Type}

structure Consistent (u : Config) (s : RmwState ι) : Prop where
  fresh : ∀ name m, s.per.lookup name = some m → m < s.made
  apart : ∀ a b m, s.per.lookup a = some m → s.per.lookup b = some m → a = b
  settled : ∀ name, (∀ m, s.per.lookup name = some m → s.held m = none) → Agrees u name s.history (s.config.sets.lookup name)

def Promised (x : ι) (c : RmwCall) (s : RmwState ι) : Prop :=
  match c with
  | .newPer name => s.mu = some x ∧ s.per.lookup name = none
  | .unlockMu => s.mu = some x
  | .unlock m op _ => s.held m = some x ∧ s.per.lookup op.ipsetName = some m
  | .put name _ => ∃ m, s.per.lookup name = some m ∧ s.held m = some x
  | .noted op err => op.idle = true ∧ err = none
  | _ => True

def rmwDiscipline (link : Link) (u : Config) : Discipline ι RmwCall RmwCall.Answer (RmwState ι) where
  step := rmwStep link
  inv := Consistent u
  allowed := fun _ c s => Free c s
  promised := Promised

structure Inside (u : Config) (x : ι) (name : String) (m : Nat) (b e : Option (List String)) (s : RmwState ι) : Prop where
  named : s.per.lookup name = some m
  owned : s.held m = some x
  agrees : Agrees u name s.history b
  entries : s.config.sets.lookup name = e

def Mine [DecidableEq ι] (x : ι) (noted told : List (Returned ι)) (s : RmwState ι) : Prop :=
  byCaller x s.history = noted ∧ byCaller x s.returns = told

variable {link : Link} {u : Config} {x : ι} {name : String} {m : Nat} {b e : Option (List String)} {s : RmwState ι} {noted told : List (Returned ι)}

theorem requestKeeps (link : Link) (v : Config) : (request link id v).2.sets = v.sets := by
  unfold request
  cases link v.calls <;> rfl

theorem getSource (link : Link) (s : RmwState ι) : (∃ cause, (getSets link s).1 = .error cause) ∨ (getSets link s).1 = .ok s.config.sets := by
  unfold getSets request
  cases link s.config.calls with
  | some e => exact .inl ⟨e,rfl⟩
  | none => exact .inr rfl

theorem putOther {n : String} {entries : List String} (other : name ≠ n) (v : Config) :
    (request link (putEntries n entries) v).2.sets.lookup name = v.sets.lookup name := by
  unfold request
  cases link v.calls with
  | some e => rfl
  | none => exact AList.lookup_insert_ne other

theorem stableMu : (rmwDiscipline link u).Stable x (fun s => s.mu = some x) := by
  intro y c t differs _ allows promises here
  cases c with
  | lockMu =>
    have free : t.mu = none := allows
    rw [free] at here
    contradiction
  | unlockMu =>
    have own : t.mu = some y := promises
    rw [own] at here
    exact absurd (Option.some.inj here) differs
  | _ => exact here

theorem stablePer (found : Option Nat) : (rmwDiscipline link u).Stable x (fun s => s.mu = some x ∧ s.per.lookup name = found) := by
  intro y c t differs holds allows promises here
  refine ⟨stableMu y c t differs holds allows promises here.1,?_⟩
  cases c with
  | newPer n =>
    have own : t.mu = some y := promises.1
    rw [own] at here
    exact absurd (Option.some.inj here.1) differs
  | _ => exact here.2

theorem stableNamed : (rmwDiscipline link u).Stable x (fun s => s.per.lookup name = some m) := by
  intro y c t _ _ _ promises here
  cases c with
  | newPer n =>
    have new : t.per.lookup n = none := promises.2
    have other : name ≠ n := by
      rintro rfl
      rw [new] at here
      contradiction
    exact (AList.lookup_insert_ne other).trans here
  | _ => exact here

theorem byCallerOther [DecidableEq ι] {y : ι} (differs : y ≠ x) (history : List (Returned ι)) (op : SetOp) (err : Option GoError) :
    byCaller x (history ++ [⟨y,op,err⟩]) = byCaller x history := by
  rw [byCaller,filter_append,filter_cons_of_neg (by simpa using differs),filter_nil,append_nil,byCaller]

theorem byCallerOwn [DecidableEq ι] (x : ι) (history : List (Returned ι)) (op : SetOp) (err : Option GoError) :
    byCaller x (history ++ [⟨x,op,err⟩]) = byCaller x history ++ [⟨x,op,err⟩] := by
  rw [byCaller,filter_append,filter_cons_of_pos (by simp),filter_nil,byCaller]

theorem stableMine [DecidableEq ι] : (rmwDiscipline link u).Stable x (Mine x noted told) := by
  intro y c t differs _ _ _ here
  cases c with
  | unlock m op err => exact ⟨(byCallerOther differs t.history op err).trans here.1,here.2⟩
  | noted op err => exact ⟨(byCallerOther differs t.history op err).trans here.1,here.2⟩
  | returned op err => exact ⟨here.1,(byCallerOther differs t.returns op err).trans here.2⟩
  | _ => exact here

theorem stableInside : (rmwDiscipline link u).Stable x (Inside u x name m b e) := by
  intro y c t differs holds allows promises here
  have named : (rmwStep link y c t).2.per.lookup name = some m := stableNamed (m := m) y c t differs holds allows promises here.named
  cases c with
  | lock n =>
    have free : t.held n = none := allows
    have other : m ≠ n := by
      rintro rfl
      rw [here.owned] at free
      contradiction
    exact ⟨named,(update_of_ne other _ _).trans here.owned,here.agrees,here.entries⟩
  | unlock n op err =>
    obtain ⟨own,at_⟩ : t.held n = some y ∧ t.per.lookup op.ipsetName = some n := promises
    have other : m ≠ n := by
      rintro rfl
      rw [here.owned] at own
      exact differs (Option.some.inj own).symm
    have apart : op.ipsetName ≠ name := by
      rintro rfl
      rw [here.named] at at_
      exact other (Option.some.inj at_)
    exact ⟨named,(update_of_ne other _ _).trans here.owned,agreesOther apart here.agrees,here.entries⟩
  | get => exact ⟨named,here.owned,here.agrees,by rw [← here.entries]; exact congrArg _ (requestKeeps link t.config)⟩
  | put n entries =>
    obtain ⟨m',at_,own⟩ : ∃ m', t.per.lookup n = some m' ∧ t.held m' = some y := promises
    have other : name ≠ n := by
      rintro rfl
      rw [here.named] at at_
      cases at_
      rw [here.owned] at own
      exact differs (Option.some.inj own).symm
    exact ⟨named,here.owned,here.agrees,(putOther other t.config).trans here.entries⟩
  | noted op err =>
    obtain ⟨idle,rfl⟩ : op.idle = true ∧ err = none := promises
    exact ⟨named,here.owned,agreesIdle idle here.agrees,here.entries⟩
  | _ => exact ⟨named,here.owned,here.agrees,here.entries⟩

section
variable (consistent : Consistent u s)
include consistent

theorem consistentNew (new : s.per.lookup name = none) : Consistent u {s with per := s.per.insert name s.made, made := s.made+1} := by
  have cases_ (a : String) (m : Nat) (found : (s.per.insert name s.made).lookup a = some m) :
      a = name ∧ m = s.made ∨ a ≠ name ∧ s.per.lookup a = some m := by
    by_cases same : a = name
    · subst same
      rw [AList.lookup_insert] at found
      exact .inl ⟨rfl,(Option.some.inj found).symm⟩
    · rw [AList.lookup_insert_ne same] at found
      exact .inr ⟨same,found⟩
  refine ⟨fun a m found => ?_,fun a b m first second => ?_,fun a free => ?_⟩
  · rcases cases_ a m found with ⟨_,rfl⟩ | ⟨_,old⟩
    · exact Nat.lt_succ_self _
    · exact Nat.lt_succ_of_lt (consistent.fresh a m old)
  · rcases cases_ a m first with ⟨rfl,rfl⟩ | ⟨_,old⟩
    · rcases cases_ b s.made second with ⟨rfl,_⟩ | ⟨_,other⟩
      · rfl
      · exact absurd (consistent.fresh b s.made other) (lt_irrefl _)
    · rcases cases_ b m second with ⟨rfl,rfl⟩ | ⟨_,other⟩
      · exact absurd (consistent.fresh a s.made old) (lt_irrefl _)
      · exact consistent.apart a b m old other
  · refine consistent.settled a (fun m found => ?_)
    have other : a ≠ name := by
      rintro rfl
      rw [new] at found
      contradiction
    exact free m ((AList.lookup_insert_ne other).trans found)

theorem consistentLock (x : ι) (m : Nat) : Consistent u {s with held := update s.held m (some x)} := by
  refine ⟨consistent.fresh,consistent.apart,fun name free => consistent.settled name (fun n found => ?_)⟩
  have still : update s.held m (some x) n = none := free n found
  by_cases same : n = m
  · subst same
    simp at still
  · rwa [update_of_ne same] at still

theorem consistentUnlock {op : SetOp} {err : Option GoError} (here : Inside u x op.ipsetName m b e s)
    (explains : Explains op err b e) : Consistent u {s with held := update s.held m none, history := s.history ++ [⟨x,op,err⟩]} := by
  refine ⟨consistent.fresh,consistent.apart,fun name free => ?_⟩
  by_cases same : op.ipsetName = name
  · subst same
    have ended := agreesNext (x := x) rfl here.agrees explains
    rw [← here.entries] at ended
    exact ended
  · refine agreesOther same (consistent.settled name (fun n found => ?_))
    have other : n ≠ m := by
      rintro rfl
      exact same (consistent.apart _ _ n here.named found)
    have still : update s.held m none n = none := free n found
    rwa [update_of_ne other] at still

theorem consistentConfig {v : Config}
    (same : ∀ name, (∀ m, s.per.lookup name = some m → s.held m = none) → v.sets.lookup name = s.config.sets.lookup name) :
    Consistent u {s with config := v} :=
  ⟨consistent.fresh,consistent.apart,fun name free => by
    have before := consistent.settled name free
    rw [← same name free] at before
    exact before⟩

theorem consistentNoted {op : SetOp} (x : ι) (idle : op.idle = true) : Consistent u {s with history := s.history ++ [⟨x,op,none⟩]} :=
  ⟨consistent.fresh,consistent.apart,fun name free => agreesIdle idle (consistent.settled name free)⟩

end

end

section
variable {ι : Type} [DecidableEq ι] {link : Link} {u : Config} {x : ι} {name : String} {m : Nat} {b e : Option (List String)} {s : RmwState ι}
  {noted told : List (Returned ι)} {op : SetOp}

theorem mutexKeeps (name : String) (here : Mine x noted told s ∧ s.mu = some x) :
    (rmwDiscipline link u).Keeps x (fun m s => Mine x noted told s ∧ s.mu = some x ∧ s.per.lookup name = some m) (Locked.mutex name) s := by
  have looked : (rmwDiscipline link u).Keeps x (fun r s => Mine x noted told s ∧ s.mu = some x ∧ s.per.lookup name = r) (rmwCall (.getPer name)) s :=
    keepsAsk (stableAnd stableMine stableMu) (fun r => stableAnd stableMine (stablePer r)) here
      (fun t under holds _ => ⟨trivial,holds,under.1,under.2,rfl⟩)
  refine keepsBind looked (fun r t found _ => ?_)
  cases r with
  | some m => exact keepsPure (stableAnd stableMine (stablePer (some m))) found (fun _ _ still => still)
  | none =>
    exact keepsAsk (stableAnd stableMine (stablePer none)) (fun m => stableAnd stableMine (stablePer (some m))) found
      (fun t new holds _ => ⟨new.2,consistentNew holds new.2.2,new.1,new.2.1,AList.lookup_insert _⟩)

theorem lockKeeps (name : String) (mine : Mine x noted told s) :
    (rmwDiscipline link u).Keeps x (fun m s => Mine x noted told s ∧ ∃ b, Inside u x name m b b s) (Locked.lock name) s := by
  have entered : (rmwDiscipline link u).Keeps x (fun _ s => Mine x noted told s ∧ s.mu = some x) (rmwCall .lockMu) s :=
    keepsAsk stableMine (fun _ => stableAnd stableMine stableMu) mine
      (fun t here holds _ => ⟨trivial,⟨holds.fresh,holds.apart,holds.settled⟩,here,rfl⟩)
  refine keepsBind entered (fun _ t1 in1 _ => ?_)
  refine keepsBind (mutexKeeps name in1) (fun m t3 in3 _ => ?_)
  have left : (rmwDiscipline link u).Keeps x (fun _ s => Mine x noted told s ∧ s.per.lookup name = some m) (rmwCall .unlockMu) t3 :=
    keepsAsk (stableAnd stableMine (stablePer (some m))) (fun _ => stableAnd stableMine stableNamed) in3
      (fun t here holds _ => ⟨here.2.1,⟨holds.fresh,holds.apart,holds.settled⟩,here.1,here.2.2⟩)
  refine keepsBind left (fun _ t4 in4 _ => ?_)
  have locked : (rmwDiscipline link u).Keeps x (fun _ s => Mine x noted told s ∧ ∃ b, Inside u x name m b b s) (rmwCall (.lock m)) t4 := by
    refine keepsAsk (stableAnd stableMine stableNamed)
      (fun _ => stableAnd stableMine (stableExists (fun b => stableInside))) in4 (fun t here holds free => ?_)
    have agrees : Agrees u name t.history (t.config.sets.lookup name) := holds.settled name (fun n found => by
      rw [here.2] at found
      cases found
      exact free)
    exact ⟨trivial,consistentLock holds x m,here.1,_,here.2,update_self _ _ _,agrees,rfl⟩
  exact keepsBind locked (fun _ t5 in5 _ =>
    keepsPure (stableAnd stableMine (stableExists (fun b => stableInside))) in5 (fun _ _ still => still))

theorem findKeeps (here : Mine x noted told s ∧ Inside u x name m b b s) : (rmwDiscipline link u).Keeps x
      (fun found s => (found = .ok b ∨ ∃ cause, found = .error (.wrap "get firewall sets" cause)) ∧ Mine x noted told s ∧ Inside u x name m b b s)
      (Locked.findIPSet name) s := by
  have got : (rmwDiscipline link u).Keeps x
      (fun r s => ((∃ cause, r = .error cause) ∨ ∃ sets, r = .ok sets ∧ sets.lookup name = b) ∧ Mine x noted told s ∧ Inside u x name m b b s)
      (rmwCall .get) s := by
    refine keepsAsk (stableAnd stableMine stableInside)
      (fun _ => stableFact (stableAnd stableMine stableInside)) here (fun t inside holds _ => ?_)
    have kept := requestKeeps link t.config
    have read : (∃ cause, (getSets link t).1 = .error cause) ∨ ∃ sets, (getSets link t).1 = .ok sets ∧ sets.lookup name = b :=
      (getSource link t).imp_right (fun sets => ⟨_,sets,inside.2.entries⟩)
    exact ⟨trivial,consistentConfig holds (fun name _ => by rw [kept]),read,inside.1,inside.2.named,inside.2.owned,inside.2.agrees,
      by rw [← inside.2.entries]; exact congrArg (AList.lookup name) kept⟩
  refine keepsBind got (fun r t known _ => ?_)
  obtain ⟨read,still⟩ := known
  rcases read with ⟨cause,rfl⟩ | ⟨sets,rfl,entries⟩
  · exact keepsPure (stableAnd stableMine stableInside) still (fun _ _ later => ⟨.inr ⟨cause,rfl⟩,later⟩)
  · exact keepsPure (stableAnd stableMine stableInside) still (fun _ _ later => ⟨.inl (by rw [entries]),later⟩)

def Updated (u : Config) (x : ι) (op : SetOp) (m : Nat) (noted told : List (Returned ι)) (err : Option GoError) (s : RmwState ι) : Prop :=
  Mine x noted told s ∧ ∃ b e, Explains op err b e ∧ Inside u x op.ipsetName m b e s

theorem stableUpdated (err : Option GoError) : (rmwDiscipline link u).Stable x (Updated u x op m noted told err) :=
  stableAnd stableMine (stableExists (fun _ => stableExists (fun _ => stableFact stableInside)))

theorem putKeeps {entries next : List String} (busy : op.idle = false) (changed : op.change entries = some next)
    (here : Mine x noted told s ∧ Inside u x op.ipsetName m (some entries) (some entries) s) :
    (rmwDiscipline link u).Keeps x (fun err => Updated u x op m noted told (err.map (.wrap ("update " ++ op.ipsetName))))
      (rmwCall (.put op.ipsetName next)) s := by
  refine keepsAsk (stableAnd stableMine stableInside) (fun _ => stableUpdated _) here (fun t inside holds _ => ?_)
  have others : Consistent u {t with config := (request link (putEntries op.ipsetName next) t.config).2} := by
    refine consistentConfig holds (fun name free => putOther ?_ t.config)
    rintro rfl
    have owned := free m inside.2.named
    rw [inside.2.owned] at owned
    contradiction
  refine ⟨⟨m,inside.2.named,inside.2.owned⟩,others,inside.1,?_⟩
  have now := inside.2.entries
  change ∃ b e, Explains op ((request link (putEntries op.ipsetName next) t.config).1.map (.wrap ("update " ++ op.ipsetName))) b e ∧
    Inside u x op.ipsetName m b e {t with config := (request link (putEntries op.ipsetName next) t.config).2}
  unfold request
  cases link t.config.calls with
  | some e => exact ⟨_,_,explainPutRefused busy changed e,inside.2.named,inside.2.owned,inside.2.agrees,now⟩
  | none => exact ⟨_,_,explainPut busy changed,inside.2.named,inside.2.owned,inside.2.agrees,AList.lookup_insert _⟩

theorem updateKeeps (busy : op.idle = false) (here : Mine x noted told s ∧ Inside u x op.ipsetName m b b s) :
    (rmwDiscipline link u).Keeps x (Updated u x op m noted told) (Locked.update op.ipsetName op.missing op.change) s := by
  have ends {err : Option GoError} {t : RmwState ι} {b : Option (List String)} (inside : Mine x noted told t ∧ Inside u x op.ipsetName m b b t)
      (explains : Explains op err b b) : (rmwDiscipline link u).Keeps x (Updated u x op m noted told) (pure err : RmwProg (Option GoError)) t :=
    keepsPure (stableUpdated err) ⟨inside.1,b,b,explains,inside.2⟩ (fun _ _ still => still)
  refine keepsBind (findKeeps here) (fun found t known _ => ?_)
  obtain ⟨rfl | ⟨cause,rfl⟩,inside⟩ := known
  · cases b with
    | none => exact ends inside (explainMissing busy)
    | some entries =>
      cases changed : op.change entries with
      | none =>
        simp only [changed]
        exact ends inside (explainSame busy changed)
      | some next =>
        simp only [changed]
        exact keepsBind (putKeeps busy changed inside) (fun err v done _ =>
          keepsPure (stableUpdated _) done (fun _ _ still => still))
  · exact ends inside (explainRefused busy cause b)

theorem mineNoted {err : Option GoError} (held : Nat → Option ι) (mine : Mine x noted told s) :
    Mine x (noted ++ [⟨x,op,err⟩]) told {s with held := held, history := s.history ++ [⟨x,op,err⟩]} :=
  ⟨by rw [← mine.1]; exact byCallerOwn x s.history op err,mine.2⟩

theorem opKeeps (op : SetOp) (mine : Mine x noted told s) :
    (rmwDiscipline link u).Keeps x (fun err => Mine x (noted ++ [⟨x,op,err⟩]) told) op.program s := by
  cases idle : op.idle with
  | true =>
    rw [idleProgram idle]
    have through : (rmwDiscipline link u).Keeps x (fun _ => Mine x (noted ++ [⟨x,op,none⟩]) told) (rmwCall (.noted op none)) s :=
      keepsAsk stableMine (fun _ => stableMine) mine
        (fun t here holds _ => ⟨⟨idle,rfl⟩,consistentNoted holds x idle,mineNoted t.held here⟩)
    exact keepsBind through (fun _ t done _ => keepsPure stableMine done (fun _ _ still => still))
  | false =>
    rw [busyProgram idle]
    refine keepsBind (lockKeeps op.ipsetName mine) (fun m t locked _ => ?_)
    obtain ⟨mine,b,inside⟩ := locked
    refine keepsBind (updateKeeps idle ⟨mine,inside⟩) (fun err v updated _ => ?_)
    have unlocked : (rmwDiscipline link u).Keeps x (fun _ => Mine x (noted ++ [⟨x,op,err⟩]) told) (rmwCall (.unlock m op err)) v := by
      refine keepsAsk (stableUpdated err) (fun _ => stableMine) updated (fun w here holds _ => ?_)
      obtain ⟨mine,b,e,explains,inside⟩ := here
      exact ⟨⟨inside.owned,inside.named⟩,consistentUnlock holds inside explains,mineNoted _ mine⟩
    exact keepsBind unlocked (fun _ w done _ => keepsPure stableMine done (fun _ _ still => still))

def Through (x : ι) (ops : List SetOp) (s : RmwState ι) : Prop := ∃ done, done.map Returned.op = ops ∧ Mine x done done s

theorem callingKeeps {done : List (Returned ι)} (rest : List SetOp) (mine : Mine x done done s) :
    (rmwDiscipline link u).Keeps x (fun _ => Through x (done.map Returned.op ++ rest)) (calling rest) s := by
  induction rest generalizing done s with
  | nil => exact keepsPure stableMine mine (fun _ _ still => ⟨done,(append_nil _).symm,still⟩)
  | cons op rest ih =>
    refine keepsBind (opKeeps op mine) (fun err t noted _ => ?_)
    have told : (rmwDiscipline link u).Keeps x (fun _ => Mine x (done ++ [⟨x,op,err⟩]) (done ++ [⟨x,op,err⟩])) (rmwCall (.returned op err)) t :=
      keepsAsk stableMine (fun _ => stableMine) noted (fun v here holds _ =>
        ⟨trivial,⟨holds.fresh,holds.apart,holds.settled⟩,here.1,(byCallerOwn x v.returns op err).trans (by rw [here.2])⟩)
    refine keepsBind told (fun _ v both _ => ?_)
    have later := ih both
    rwa [map_append,append_assoc] at later

end

inductive Place where
  | outside
  | table
  | inside (m : Nat)
  deriving DecidableEq

def Place.after : Place → RmwCall → Option Place
  | .outside,.lockMu => some .table
  | .outside,.lock m => some (.inside m)
  | .outside,.noted _ _ => some .outside
  | .outside,.returned _ _ => some .outside
  | .table,.getPer _ => some .table
  | .table,.newPer _ => some .table
  | .table,.unlockMu => some .outside
  | .inside m,.get => some (.inside m)
  | .inside m,.put _ _ => some (.inside m)
  | .inside m,.unlock n _ _ => if n = m then some .outside else none
  | _,_ => none

section

theorem mutexFollows (name : String) : Prog.Follows Place.after (fun _ => .table) .table (Locked.mutex name) := by
  refine followsBind (followsAsk rfl) (fun r => ?_)
  cases r with
  | some m => exact followsPure rfl
  | none => exact followsAsk rfl

theorem lockFollows (name : String) : Prog.Follows Place.after (fun m => .inside m) .outside (Locked.lock name) := by
  refine followsBind (followsAsk rfl) (fun _ => ?_)
  refine followsBind (mutexFollows name) (fun m => ?_)
  refine followsBind (followsAsk rfl) (fun _ => ?_)
  exact followsBind (followsAsk rfl) (fun _ => followsPure rfl)

theorem updateFollows (m : Nat) (name : String) (missing : Option GoError) (change : List String → Option (List String)) :
    Prog.Follows Place.after (fun _ => .inside m) (.inside m) (Locked.update name missing change) := by
  have found : Prog.Follows Place.after (fun _ => .inside m) (.inside m) (Locked.findIPSet name) := by
    refine followsBind (followsAsk rfl) (fun r => ?_)
    cases r with
    | error _ | ok _ => exact followsPure rfl
  refine followsBind found (fun r => ?_)
  cases r with
  | error e => exact followsPure rfl
  | ok set =>
    cases set with
    | none => exact followsPure rfl
    | some entries =>
      cases changed : change entries with
      | none =>
        simp only [changed]
        exact followsPure rfl
      | some next =>
        simp only [changed]
        exact followsBind (followsAsk rfl) (fun _ => followsPure rfl)

theorem opFollows (op : SetOp) : Prog.Follows Place.after (fun _ => .outside) .outside op.program := by
  cases idle : op.idle with
  | true =>
    rw [idleProgram idle]
    exact followsBind (followsAsk rfl) (fun _ => followsPure rfl)
  | false =>
    rw [busyProgram idle]
    refine followsBind (lockFollows op.ipsetName) (fun m => ?_)
    refine followsBind (updateFollows m op.ipsetName op.missing op.change) (fun err => ?_)
    exact followsBind (followsAsk (if_pos rfl)) (fun _ => followsPure rfl)

theorem callingFollows (ops : List SetOp) : Prog.Follows Place.after (fun _ => .outside) .outside (calling ops) := by
  induction ops with
  | nil => exact followsPure rfl
  | cons op rest ih =>
    refine followsBind (opFollows op) (fun _ => ?_)
    exact followsBind (followsAsk rfl) (fun _ => ih)

variable {ι : Type} {link : Link} {x y : ι} {c : RmwCall} {s : RmwState ι} {f g : Place}

theorem heldLock (n : Nat) : (rmwStep link x (.lock n) s).2.held = update s.held n (some x) := rfl

theorem heldUnlock (n : Nat) (op : SetOp) (err : Option GoError) : (rmwStep link x (.unlock n op err) s).2.held = update s.held n none := rfl

theorem placeOwn (moves : f.after c = some g) (table : s.mu = some x → f = .table) (inside : ∀ m, s.held m = some x → f = .inside m) :
    ((rmwStep link x c s).2.mu = some x → g = .table) ∧ ∀ m, (rmwStep link x c s).2.held m = some x → g = .inside m := by
  cases c with
  | lockMu =>
    obtain ⟨rfl,rfl⟩ : f = .outside ∧ g = .table := by cases f <;> simp_all [Place.after]
    exact ⟨fun _ => rfl,fun m held => absurd (inside m held) (by simp)⟩
  | unlockMu =>
    obtain ⟨rfl,rfl⟩ : f = .table ∧ g = .outside := by cases f <;> simp_all [Place.after]
    exact ⟨fun mu => by contradiction,fun m held => absurd (inside m held) (by simp)⟩
  | lock n =>
    obtain ⟨rfl,rfl⟩ : f = .outside ∧ g = .inside n := by cases f <;> simp_all [Place.after]
    refine ⟨fun mu => absurd (table mu) (by simp),fun m held => ?_⟩
    by_cases same : m = n
    · rw [same]
    · rw [heldLock,update_of_ne same] at held
      exact absurd (inside m held) (by simp)
  | unlock n op err =>
    obtain ⟨rfl,rfl⟩ : f = .inside n ∧ g = .outside := by cases f <;> simp_all [Place.after]
    refine ⟨fun mu => absurd (table mu) (by simp),fun m held => ?_⟩
    by_cases same : m = n
    · rw [same,heldUnlock,update_self] at held
      contradiction
    · rw [heldUnlock,update_of_ne same] at held
      exact absurd (Place.inside.inj (inside m held)).symm same
  | _ =>
    obtain rfl : f = g := by cases f <;> simp_all [Place.after]
    exact ⟨table,inside⟩

theorem placeOther (differs : y ≠ x) : ((rmwStep link x c s).2.mu = some y → s.mu = some y) ∧
    ∀ m, (rmwStep link x c s).2.held m = some y → s.held m = some y := by
  cases c with
  | lockMu => exact ⟨fun mu => absurd (Option.some.inj mu).symm differs,fun _ => id⟩
  | unlockMu => exact ⟨fun mu => by contradiction,fun _ => id⟩
  | lock n =>
    refine ⟨id,fun m held => ?_⟩
    by_cases same : m = n
    · rw [same,heldLock,update_self] at held
      exact absurd (Option.some.inj held).symm differs
    · rwa [heldLock,update_of_ne same] at held
  | unlock n op err =>
    refine ⟨id,fun m held => ?_⟩
    by_cases same : m = n
    · rw [same,heldUnlock,update_self] at held
      contradiction
    · rwa [heldUnlock,update_of_ne same] at held
  | _ => exact ⟨id,fun _ => id⟩

theorem underLock {prog : RmwProg Unit} (follows : Prog.Follows Place.after (fun _ => .outside) f prog) (under : f ≠ .outside) (s : RmwState ι) :
    ∃ c next, prog = .call c next ∧ Free c s := by
  cases prog with
  | done a => exact absurd follows under
  | call c next =>
    obtain ⟨g,moves,_⟩ := follows
    refine ⟨c,next,rfl,?_⟩
    cases c with
    | lockMu | lock _ => cases f <;> contradiction
    | _ => exact trivial

end

section
variable {ι : Type} [DecidableEq ι] {link : Link} {u : Config} {callers : ι → List SetOp} {run : List ι} {x : ι}

abbrev RmwPool (ι : Type) : Type := Threads ι RmwCall RmwCall.Answer (RmwState ι)

def startedCalls (callers : ι → List SetOp) (u : Config) : RmwPool ι := ⟨⟨u,none,∅,0,fun _ => none,[],[]⟩,fun x => calling (callers x)⟩
def CanStep (x : ι) (p : RmwPool ι) : Prop := Threads.Allows (fun _ c s => Free c s) x p
def afterCalls (link : Link) (run : List ι) (p : RmwPool ι) : RmwPool ι := run.foldl (fun p x => Threads.advance (rmwStep link) x p) p

structure Placed (place : ι → Place) (p : RmwPool ι) : Prop where
  follows : ∀ x, Prog.Follows Place.after (fun _ => .outside) (place x) (p.progs x)
  table : ∀ x, p.shared.mu = some x → place x = .table
  inside : ∀ x m, p.shared.held m = some x → place x = .inside m

theorem placedAdvance {place : ι → Place} {p : RmwPool ι} (placed : Placed place p) (x : ι) :
    ∃ place', Placed place' (Threads.advance (rmwStep link) x p) := by
  unfold Threads.advance
  cases here : p.progs x with
  | done a => exact ⟨place,placed⟩
  | call c next =>
    have mine := placed.follows x
    rw [here] at mine
    obtain ⟨g,moves,later⟩ := mine
    obtain ⟨table,inside⟩ := @placeOwn ι link x c p.shared (place x) g moves (placed.table x) (placed.inside x)
    refine ⟨update place x g,fun y => ?_,fun y mu => ?_,fun y m held => ?_⟩
    · by_cases same : y = x
      · subst same
        simp only [update_self]
        exact later _
      · simp only [update_of_ne same]
        exact placed.follows y
    · by_cases same : y = x
      · subst same
        rw [update_self]
        exact table mu
      · rw [update_of_ne same]
        exact placed.table y ((placeOther same).1 mu)
    · by_cases same : y = x
      · subst same
        rw [update_self]
        exact inside m held
      · rw [update_of_ne same]
        exact placed.inside y m ((placeOther same).2 m held)

theorem placedRun {place : ι → Place} {p : RmwPool ι} (placed : Placed place p) (run : List ι) : ∃ place', Placed place' (afterCalls link run p) := by
  induction run generalizing place p with
  | nil => exact ⟨place,placed⟩
  | cons x rest ih =>
    obtain ⟨next,later⟩ := @placedAdvance ι _ link place p placed x
    exact ih later

omit [DecidableEq ι] in
theorem startedPlaced (callers : ι → List SetOp) (u : Config) : Placed (fun _ => .outside) (startedCalls callers u) :=
  ⟨fun x => callingFollows (callers x),fun _ mu => by contradiction,fun _ _ held => by contradiction⟩

omit [DecidableEq ι] in
theorem someoneSteps {place : ι → Place} {p : RmwPool ι} (placed : Placed place p) (waiting : ¬ Threads.Over p x) :
    ∃ y, ¬ Threads.Over p y ∧ CanStep y p := by
  have steps (y : ι) (under : place y ≠ .outside) : ∃ y, ¬ Threads.Over p y ∧ CanStep y p := by
    obtain ⟨c,next,here,free⟩ := underLock (placed.follows y) under p.shared
    refine ⟨y,?_,?_⟩
    · rw [Threads.Over,here]
      simp [Prog.isDone]
    · rw [CanStep,Threads.Allows,here]
      exact free
  cases here : p.progs x with
  | done a => exact absurd (by rw [Threads.Over,here]; rfl) waiting
  | call c next =>
    have self (free : Free c p.shared) : ∃ y, ¬ Threads.Over p y ∧ CanStep y p := by
      refine ⟨x,waiting,?_⟩
      rw [CanStep,Threads.Allows,here]
      exact free
    cases c with
    | lockMu =>
      cases mu : p.shared.mu with
      | none => exact self mu
      | some y => exact steps y (by rw [placed.table y mu]; simp)
    | lock m =>
      cases held : p.shared.held m with
      | none => exact self held
      | some y => exact steps y (by rw [placed.inside y m held]; simp)
    | _ => exact self trivial

omit [DecidableEq ι] in
theorem allReleased {place : ι → Place} {p : RmwPool ι} (placed : Placed place p) (ended : ∀ x, Threads.Over p x) (m : Nat) : p.shared.held m = none := by
  cases held : p.shared.held m with
  | none => rfl
  | some y =>
    have inside := placed.inside y m held
    obtain ⟨c,next,here,_⟩ := underLock (placed.follows y) (by rw [inside]; simp) p.shared
    have through := ended y
    rw [Threads.Over,here] at through
    contradiction

theorem startedSettled (callers : ι → List SetOp) (u : Config) :
    Threads.Sound (rmwDiscipline link u) (fun x => Through x (callers x)) (startedCalls callers u) := by
  refine ⟨⟨fun name m found => by simp [startedCalls] at found,fun a b m found => by simp [startedCalls] at found,fun name _ => ⟨u,.start,rfl⟩⟩,fun x => ?_⟩
  have nothing : Mine x [] [] (startedCalls callers u).shared := ⟨rfl,rfl⟩
  exact callingKeeps (callers x) nothing

theorem setUpdatesLinearize {run : List ι} (link : Link) (callers : ι → List SetOp) (u : Config)
    (schedule : Along (Threads.advance (rmwStep link)) CanStep run (startedCalls callers u)) :
    ((∃ x, ¬ Threads.Over (afterCalls link run (startedCalls callers u)) x) →
      ∃ x, ¬ Threads.Over (afterCalls link run (startedCalls callers u)) x ∧ CanStep x (afterCalls link run (startedCalls callers u))) ∧
    ((∀ x, Threads.Over (afterCalls link run (startedCalls callers u)) x) → ∃ order : List (Returned ι),
        (∀ x, byCaller x order = byCaller x (afterCalls link run (startedCalls callers u)).shared.returns ∧
          (byCaller x order).map Returned.op = callers x) ∧
        ∀ name, ∃ v, Serial (onSet name order) u v ∧
          v.sets.lookup name = (afterCalls link run (startedCalls callers u)).shared.config.sets.lookup name) := by
  obtain ⟨place,placed⟩ := @placedRun ι _ link _ _ (startedPlaced callers u) run
  refine ⟨fun waiting => ?_,fun ended => ?_⟩
  · obtain ⟨x,waits⟩ := waiting
    exact someoneSteps placed waits
  · have sound := Threads.runSound (startedSettled callers u) schedule
    refine ⟨(afterCalls link run (startedCalls callers u)).shared.history,fun x => ?_,fun name => ?_⟩
    · obtain ⟨done,ops,mine⟩ := Threads.soundOver sound (ended x)
      have noted : byCaller x (afterCalls link run (startedCalls callers u)).shared.history = done := mine.1
      rw [noted]
      exact ⟨mine.2.symm,ops⟩
    · exact sound.holds.settled name (fun m _ => allReleased placed ended m)

end

instance {ι : Type} [DecidableEq ι] (c : RmwCall) (s : RmwState ι) : Decidable (Free c s) := by
  unfold Free
  cases c <;> infer_instance

instance {ι : Type} [DecidableEq ι] (x : ι) (p : RmwPool ι) : Decidable (CanStep x p) := Threads.Allows.decidable x p

def twoCallers (x : Bool) : List SetOp :=
  if x then [.EnsureZoneSubnet "VPN_subnets" "10.0.1.0/24"] else [.EnsureZoneSubnets "VPN_subnets" ["10.0.2.0/24"]]

def oneSet : Config := ⟨fun _ => [],0,AList.insert "VPN_subnets" ["10.0.0.0/24"] ∅,0⟩

def bothAsk : List Bool :=
  [true,true,true,true,false,false,false,true,true,true,true,false,true,false,false,false,false]

theorem setUpdatesLinearizeTwo : (∀ x, Threads.Over (afterCalls (fun _ => none) bothAsk (startedCalls twoCallers oneSet)) x) ∧
    (afterCalls (fun _ => none) bothAsk (startedCalls twoCallers oneSet)).shared.config.sets.lookup "VPN_subnets" =
      some ["10.0.0.0/24","10.0.1.0/24","10.0.2.0/24"] ∧ ∃ order : List (Returned Bool),
      (∀ x, byCaller x order = byCaller x (afterCalls (fun _ => none) bothAsk (startedCalls twoCallers oneSet)).shared.returns ∧
        (byCaller x order).map Returned.op = twoCallers x) ∧ ∀ name, ∃ v, Serial (onSet name order) oneSet v ∧
        v.sets.lookup name = (afterCalls (fun _ => none) bothAsk (startedCalls twoCallers oneSet)).shared.config.sets.lookup name := by
  have ended : ∀ x, Threads.Over (afterCalls (fun _ => none) bothAsk (startedCalls twoCallers oneSet)) x := by decide +kernel
  exact ⟨ended,by decide +kernel,(setUpdatesLinearize (fun _ => none) twoCallers oneSet (by decide +kernel)).2 ended⟩

end VpnPack.Udapi
