import Mathlib.Data.List.Basic
import Mathlib.Data.List.TakeWhile

/-! Masking the run that follows an anchor: from left to right, an anchor with a run behind
it is kept and the whole run is replaced by a mark. An anchor is read greedily and without
going back, so its pieces have to be told apart by their first element. -/
namespace VpnPack.Base
open List

variable {α : Type}

inductive Piece (α : Type) where
  | one (f : α → Bool)
  | maybe (f : α → Bool)
  | many (f : α → Bool)

def Piece.accepts : Piece α → α → Bool
  | .one f => f
  | .maybe f => f
  | .many f => f

def readPieces : List (Piece α) → List α → Option Nat
  | [],_ => some 0
  | .one _ :: _,[] => none
  | .one f :: ps,c :: t => if f c then (readPieces ps t).map (· + 1) else none
  | .maybe _ :: ps,[] => readPieces ps []
  | .maybe f :: ps,c :: t => if f c then (readPieces ps t).map (· + 1) else readPieces ps (c :: t)
  | .many f :: ps,t => (readPieces ps (t.dropWhile f)).map (· + (t.takeWhile f).length)

inductive Takes : List (Piece α) → List α → Prop where
  | nil : Takes [] []
  | one {f ps c w} (takes : f c = true) (next : Takes ps w) : Takes (.one f :: ps) (c :: w)
  | skip {f ps w} (next : Takes ps w) : Takes (.maybe f :: ps) w
  | maybe {f ps c w} (takes : f c = true) (next : Takes ps w) : Takes (.maybe f :: ps) (c :: w)
  | many {f ps v w} (takes : ∀ c ∈ v, f c = true) (next : Takes ps w) : Takes (.many f :: ps) (v ++ w)

def Rejects (ps : List (Piece α)) (c : α) : Prop := ∀ p ∈ ps, p.accepts c = false

instance (ps : List (Piece α)) (c : α) : Decidable (Rejects ps c) := inferInstanceAs (Decidable (∀ p ∈ ps, p.accepts c = false))

section
variable {ps : List (Piece α)} {t w x y : List α} {c : α} {n : Nat}

theorem readTakes (read : readPieces ps t = some n) : ∃ w rest, t = w ++ rest ∧ w.length = n ∧ Takes ps w := by
  induction ps generalizing t n with
  | nil =>
    cases read
    exact ⟨[],t,rfl,rfl,.nil⟩
  | cons p ps ih =>
    cases p with
    | one f =>
      cases t with
      | nil => contradiction
      | cons d t =>
        simp only [readPieces] at read
        split at read
        · rename_i takes
          obtain ⟨k,inner,rfl⟩ := Option.map_eq_some_iff.mp read
          obtain ⟨w,rest,rfl,rfl,next⟩ := ih inner
          exact ⟨d :: w,rest,rfl,rfl,.one takes next⟩
        · contradiction
    | maybe f =>
      cases t with
      | nil =>
        obtain ⟨w,rest,same,length,next⟩ := ih read
        exact ⟨w,rest,same,length,.skip next⟩
      | cons d t =>
        simp only [readPieces] at read
        split at read
        · rename_i takes
          obtain ⟨k,inner,rfl⟩ := Option.map_eq_some_iff.mp read
          obtain ⟨w,rest,rfl,rfl,next⟩ := ih inner
          exact ⟨d :: w,rest,rfl,rfl,.maybe takes next⟩
        · obtain ⟨w,rest,same,length,next⟩ := ih read
          exact ⟨w,rest,same,length,.skip next⟩
    | many f =>
      simp only [readPieces] at read
      obtain ⟨k,inner,rfl⟩ := Option.map_eq_some_iff.mp read
      obtain ⟨w,rest,same,rfl,next⟩ := ih inner
      refine ⟨t.takeWhile f ++ w,rest,?_,by rw [length_append,Nat.add_comm],.many (fun c inside => mem_takeWhile_imp inside) next⟩
      rw [append_assoc,← same,takeWhile_append_dropWhile]

theorem takesAccepted (takes : Takes ps w) (member : c ∈ w) : ∃ p ∈ ps, p.accepts c = true := by
  induction takes with
  | nil => contradiction
  | @one f ps d w taken _ ih =>
    rcases mem_cons.mp member with rfl | rest
    · exact ⟨.one f,mem_cons_self,taken⟩
    · exact (ih rest).imp (fun q inside => ⟨mem_cons_of_mem _ inside.1,inside.2⟩)
  | skip _ ih => exact (ih member).imp (fun q inside => ⟨mem_cons_of_mem _ inside.1,inside.2⟩)
  | @maybe f ps d w taken _ ih =>
    rcases mem_cons.mp member with rfl | rest
    · exact ⟨.maybe f,mem_cons_self,taken⟩
    · exact (ih rest).imp (fun q inside => ⟨mem_cons_of_mem _ inside.1,inside.2⟩)
  | @many f ps v w taken _ ih =>
    rcases mem_append.mp member with run | rest
    · exact ⟨.many f,mem_cons_self,taken c run⟩
    · exact (ih rest).imp (fun q inside => ⟨mem_cons_of_mem _ inside.1,inside.2⟩)

theorem takesOne {f : α → Bool} (takes : Takes ps w) (member : .one f ∈ ps) : ∃ c ∈ w, f c = true := by
  induction takes with
  | nil => contradiction
  | @one g ps d w taken _ ih =>
    rcases mem_cons.mp member with same | later
    · cases same
      exact ⟨d,mem_cons_self,taken⟩
    · exact (ih later).imp (fun c inside => ⟨mem_cons_of_mem d inside.1,inside.2⟩)
  | skip _ ih => exact ih ((mem_cons.mp member).resolve_left (by intro same; contradiction))
  | @maybe g ps d w taken _ ih =>
    have later := (mem_cons.mp member).resolve_left (by intro same; contradiction)
    exact (ih later).imp (fun c inside => ⟨mem_cons_of_mem d inside.1,inside.2⟩)
  | @many g ps v w taken _ ih =>
    have later := (mem_cons.mp member).resolve_left (by intro same; contradiction)
    exact (ih later).imp (fun c inside => ⟨mem_append_right v inside.1,inside.2⟩)

theorem readStops (rejects : Rejects ps c) (read : readPieces ps (x ++ c :: y) = some n) : n ≤ x.length := by
  obtain ⟨w,rest,same,rfl,takes⟩ := readTakes read
  by_contra beyond
  have inside : c ∈ w := by
    have here : (w ++ rest)[x.length]? = some c := by rw [← same,getElem?_append_right (Nat.le_refl _),Nat.sub_self]; rfl
    rw [getElem?_append_left (Nat.lt_of_not_le beyond)] at here
    exact mem_of_getElem? here
  obtain ⟨p,member,accepts⟩ := takesAccepted takes inside
  rw [rejects p member] at accepts
  contradiction

inductive Firm : List (Piece α) → Prop where
  | nil : Firm []
  | one {f ps} (next : Firm ps) : Firm (.one f :: ps)
  | maybe {f g ps} (apart : ∀ c, g c = true → f c = false) (next : Firm (.one g :: ps)) : Firm (.maybe f :: .one g :: ps)

theorem readFirm (firm : Firm ps) (takes : Takes ps w) (y : List α) : readPieces ps (w ++ y) = some w.length := by
  induction firm generalizing w with
  | nil =>
    cases takes
    rfl
  | one _ ih =>
    cases takes with
    | one taken next =>
      rw [cons_append,readPieces,if_pos taken,ih next]
      rfl
  | maybe apart _ ih =>
    cases takes with
    | skip next =>
      have rest := ih next
      cases next with
      | one taken _ =>
        rw [cons_append,readPieces,apart _ taken]
        exact rest
    | maybe taken next =>
      rw [cons_append,readPieces,if_pos taken,ih next]
      rfl

theorem takesAppend {qs : List (Piece α)} (takes : Takes (ps ++ qs) w) : ∃ u v, w = u ++ v ∧ Takes ps u ∧ Takes qs v := by
  induction ps generalizing w with
  | nil => exact ⟨[],w,rfl,.nil,takes⟩
  | cons p ps ih =>
    cases takes with
    | one taken next =>
      obtain ⟨u,v,rfl,first,second⟩ := ih next
      exact ⟨_ :: u,v,rfl,.one taken first,second⟩
    | skip next =>
      obtain ⟨u,v,rfl,first,second⟩ := ih next
      exact ⟨u,v,rfl,.skip first,second⟩
    | maybe taken next =>
      obtain ⟨u,v,rfl,first,second⟩ := ih next
      exact ⟨_ :: u,v,rfl,.maybe taken first,second⟩
    | many taken next =>
      obtain ⟨u,v,rfl,first,second⟩ := ih next
      exact ⟨_ ++ u,v,(append_assoc _ _ _).symm,.many taken first,second⟩

theorem runCut {f : α → Bool} (stops : f c = false) (x y : List α) :
    (x ++ c :: y).takeWhile f = x.takeWhile f ∧ (x ++ c :: y).dropWhile f = x.dropWhile f ++ c :: y := by
  induction x with
  | nil => exact ⟨takeWhile_cons_of_neg (by rw [stops]; decide),dropWhile_cons_of_neg (by rw [stops]; decide)⟩
  | cons d x ih =>
    simp only [cons_append,takeWhile_cons,dropWhile_cons]
    split
    · exact ⟨congrArg (d :: ·) ih.1,ih.2⟩
    · exact ⟨rfl,rfl⟩

theorem readEnd (rejects : Rejects ps c) (x y : List α) : readPieces ps (x ++ c :: y) = readPieces ps x := by
  induction ps generalizing x with
  | nil => rfl
  | cons p ps ih =>
    have tail : Rejects ps c := fun q inside => rejects q (mem_cons_of_mem p inside)
    have stops : p.accepts c = false := rejects p mem_cons_self
    cases p with
    | one f =>
      cases x with
      | nil =>
        simp only [nil_append,readPieces,show f c = false from stops]
        rfl
      | cons d x => simp only [cons_append,readPieces,ih tail]
    | maybe f =>
      cases x with
      | nil =>
        have rest := ih tail []
        simp only [nil_append] at rest
        simp only [nil_append,readPieces,show f c = false from stops,Bool.false_eq_true,if_false,rest]
      | cons d x =>
        have rest := ih tail (d :: x)
        simp only [cons_append] at rest
        simp only [cons_append,readPieces,ih tail,rest]
    | many f =>
      obtain ⟨taken,dropped⟩ := @runCut _ c f stops x y
      simp only [readPieces,taken,dropped,ih tail]

end

structure Anchor (α : Type) where
  first : α → Bool
  rest : List (Piece α)

structure Mask (α : Type) where
  anchors : List (Anchor α)
  inRun : α → Bool
  mark : List α

-- An anchor is kept to its end, then comes the mark, and the run is dropped.
inductive Mode where
  | plain
  | kept (left : Nat)
  | masked
  deriving DecidableEq, Repr

namespace Mask
variable (m : Mask α)

def reads (c : α) (t : List α) : Option Nat :=
  m.anchors.findSome? (fun a => if a.first c then (readPieces a.rest t).filter (fun n => (t[n]?).any m.inRun) else none)

def look (c : α) (t : List α) : List α × Mode :=
  match m.reads c t with
  | some n => ([c],.kept n)
  | none => ([c],.plain)

def step : Mode → α → List α → List α × Mode
  | .plain,c,t => m.look c t
  | .kept 0,_,_ => (m.mark,.masked)
  | .kept (n+1),c,_ => ([c],.kept n)
  | .masked,c,t => if m.inRun c then ([],.masked) else m.look c t

def scan : Mode → List α → List α → List α × Mode
  | mode,[],_ => ([],mode)
  | mode,c :: x,y =>
    let first := m.step mode c (x ++ y)
    let rest := scan first.2 x y
    (first.1 ++ rest.1,rest.2)

def replaceAll (t : List α) : List α := (m.scan .plain t []).1
def Unstarted (c : α) : Prop := ∀ a ∈ m.anchors, a.first c = false
def Inner (c : α) : Prop := ∀ a ∈ m.anchors, Rejects a.rest c

instance (c : α) : Decidable (m.Unstarted c) := inferInstanceAs (Decidable (∀ a ∈ m.anchors, a.first c = false))

instance (c : α) : Decidable (m.Inner c) := inferInstanceAs (Decidable (∀ a ∈ m.anchors, Rejects a.rest c))

variable {m} {c d : α} {t x y z : List α} {mode next : Mode} {n : Nat}

theorem readsSource (reads : m.reads c t = some n) : ∃ a ∈ m.anchors, a.first c = true ∧ readPieces a.rest t = some n ∧
    ∃ d, t[n]? = some d ∧ m.inRun d = true := by
  obtain ⟨a,member,found⟩ := exists_of_findSome?_eq_some reads
  split at found
  · rename_i first
    obtain ⟨read,follows⟩ := Option.filter_eq_some_iff.mp found
    obtain ⟨d,here,runs⟩ := (Option.any_eq_true _ _).mp follows
    exact ⟨a,member,first,read,d,here,runs⟩
  · contradiction

theorem readsFound {a : Anchor α} {before after : List (Anchor α)} (anchors : m.anchors = before ++ a :: after) (first : a.first c = true)
    (others : ∀ b ∈ before, readPieces b.rest (x ++ d :: y) = none) (read : readPieces a.rest (x ++ d :: y) = some x.length)
    (runs : m.inRun d = true) : m.reads c (x ++ d :: y) = some x.length := by
  have follows : ((x ++ d :: y)[x.length]?).any m.inRun = true := by
    rw [getElem?_append_right (Nat.le_refl _),Nat.sub_self]
    exact runs
  have none : before.findSome? (fun b => if b.first c then (readPieces b.rest (x ++ d :: y)).filter (fun n => ((x ++ d :: y)[n]?).any m.inRun) else none) = none := by
    refine findSome?_eq_none_iff.mpr (fun b member => ?_)
    rw [others b member]
    split <;> rfl
  rw [reads,anchors,findSome?_append,none,Option.none_or,findSome?_cons,if_pos first,read,
    Option.filter_some_pos (p := fun n => ((x ++ d :: y)[n]?).any m.inRun) follows]

theorem readsNone (unstarted : m.Unstarted c) (t : List α) : m.reads c t = none := by
  refine findSome?_eq_none_iff.mpr (fun a member => ?_)
  rw [unstarted a member]
  rfl

theorem readsSame {s : List α} (same : ∀ a ∈ m.anchors, (readPieces a.rest s).filter (fun n => (s[n]?).any m.inRun) =
    (readPieces a.rest t).filter (fun n => (t[n]?).any m.inRun)) : m.reads d s = m.reads d t := by
  unfold reads
  generalize m.anchors = anchors at same
  induction anchors with
  | nil => rfl
  | cons a rest ih =>
    rw [findSome?_cons,findSome?_cons,same a mem_cons_self,ih (fun b inside => same b (mem_cons_of_mem a inside))]

theorem readsCut (inner : m.Inner c) (x y : List α) : m.reads d (x ++ c :: y) = m.reads d (x ++ [c]) := by
  refine readsSame (fun a member => ?_)
  have rejects := inner a member
  rw [readEnd rejects,readEnd rejects]
  cases read : readPieces a.rest x with
  | none => rfl
  | some n =>
    have inside := readStops (y := []) rejects ((readEnd rejects x []).trans read)
    have here (z : List α) : (x ++ c :: z)[n]? = (x ++ [c])[n]? := by
      rcases Nat.lt_or_eq_of_le inside with before | rfl
      · rw [getElem?_append_left before,getElem?_append_left before]
      · rw [getElem?_append_right (Nat.le_refl _),getElem?_append_right (Nat.le_refl _),Nat.sub_self]
        rfl
    simp only [Option.filter,here]

theorem readsEnd (inner : m.Inner c) (ends : m.inRun c = false) (x y : List α) : m.reads d (x ++ c :: y) = m.reads d x := by
  refine readsSame (fun a member => ?_)
  have rejects := inner a member
  rw [readEnd rejects]
  cases read : readPieces a.rest x with
  | none => rfl
  | some n =>
    have inside := readStops (y := []) rejects ((readEnd rejects x []).trans read)
    have here : ((x ++ c :: y)[n]?).any m.inRun = (x[n]?).any m.inRun := by
      rcases Nat.lt_or_eq_of_le inside with before | rfl
      · rw [getElem?_append_left before]
      · rw [getElem?_append_right (Nat.le_refl _),Nat.sub_self,getElem?_eq_none (Nat.le_refl _)]
        exact ends
    simp only [Option.filter,here]

theorem scanAppend (mode : Mode) (x z y : List α) : m.scan mode (x ++ z) y =
    ((m.scan mode x (z ++ y)).1 ++ (m.scan (m.scan mode x (z ++ y)).2 z y).1,(m.scan (m.scan mode x (z ++ y)).2 z y).2) := by
  induction x generalizing mode with
  | nil => rfl
  | cons c x ih => simp only [cons_append,scan,append_assoc,ih]

theorem lookPlain (unstarted : m.Unstarted c) (t : List α) : m.look c t = ([c],.plain) := by
  rw [look,readsNone unstarted]

theorem scanPlain (unstarted : ∀ c ∈ x, m.Unstarted c) (y : List α) : m.scan .plain x y = (x,.plain) := by
  induction x with
  | nil => rfl
  | cons c x ih =>
    have rest := ih (fun d inside => unstarted d (mem_cons_of_mem c inside))
    simp only [scan,step,lookPlain (unstarted c mem_cons_self),rest]
    rfl

theorem scanMasked (runs : ∀ c ∈ x, m.inRun c = true) (y : List α) : m.scan .masked x y = ([],.masked) := by
  induction x with
  | nil => rfl
  | cons c x ih =>
    have rest := ih (fun d inside => runs d (mem_cons_of_mem c inside))
    simp only [scan,step,runs c mem_cons_self,if_true,rest]
    rfl

theorem scanEnded (ends : m.inRun c = false) (x y : List α) : m.scan .masked (c :: x) y = m.scan .plain (c :: x) y := by
  simp only [scan,step,ends,Bool.false_eq_true,if_false]

theorem scanOpens (runs : ∀ d ∈ x, m.inRun d = true) (y : List α) : m.scan (.kept 0) (c :: x) y = (m.mark,.masked) := by
  simp only [scan,step,scanMasked runs,append_nil]

theorem scanKept (x y : List α) (short : x.length ≤ n) : m.scan (.kept n) x y = (x,.kept (n-x.length)) := by
  induction x generalizing n with
  | nil => rfl
  | cons c x ih =>
    cases n with
    | zero => contradiction
    | succ n =>
      simp only [scan,step,ih (Nat.le_of_succ_le_succ short),length_cons,Nat.add_sub_add_right]
      rfl

theorem scanAnchor (reads : m.reads c (x ++ y) = some x.length) : m.scan .plain (c :: x) y = (c :: x,.kept 0) := by
  simp only [scan,step,look,reads,scanKept x y (Nat.le_refl _),Nat.sub_self]
  rfl

theorem lookKeeps (c : α) (t : List α) : (m.look c t).1 = [c] := by
  unfold look
  split <;> rfl

theorem stepChars (mode : Mode) (c : α) (t : List α) : ∀ d ∈ (m.step mode c t).1, d = c ∨ d ∈ m.mark := by
  intro d inside
  cases mode with
  | plain =>
    rw [step,lookKeeps] at inside
    exact .inl (mem_singleton.mp inside)
  | kept n =>
    cases n with
    | zero => exact .inr inside
    | succ n => exact .inl (mem_singleton.mp inside)
  | masked =>
    rw [step] at inside
    split at inside
    · contradiction
    · rw [lookKeeps] at inside
      exact .inl (mem_singleton.mp inside)

theorem scanChars (inside : d ∈ (m.scan mode x y).1) : d ∈ x ∨ d ∈ m.mark := by
  induction x generalizing mode with
  | nil => contradiction
  | cons c x ih =>
    rcases mem_append.mp inside with here | later
    · rcases stepChars mode c _ d here with same | marked
      · rw [same]
        exact .inl mem_cons_self
      · exact .inr marked
    · exact (ih later).imp_left (mem_cons_of_mem c)

def Fits (m : Mask α) (t : List α) : Mode → Prop
  | .kept n => ∃ d, t[n]? = some d ∧ m.inRun d = true
  | _ => True

theorem lookFits (c : α) (t : List α) : m.Fits t (m.look c t).2 := by
  unfold look
  split
  · rename_i n reads
    obtain ⟨a,_,_,_,runs⟩ := readsSource reads
    exact runs
  · trivial

theorem stepFits (fits : m.Fits (c :: t) mode) : m.Fits t (m.step mode c t).2 := by
  cases mode with
  | plain => exact lookFits c t
  | kept n =>
    cases n with
    | zero => trivial
    | succ n => exact fits
  | masked =>
    rw [step]
    split
    · trivial
    · exact lookFits c t

theorem scanFits (fits : m.Fits (x ++ y) mode) : m.Fits y (m.scan mode x y).2 := by
  induction x generalizing mode with
  | nil => exact fits
  | cons c x ih => exact ih (stepFits fits)

def Clears (m : Mask α) (t : List α) : Prop := ∀ d x n, m.reads d (x ++ t) = some n → n ≤ x.length

theorem innerClears (inner : m.Inner c) (y : List α) : m.Clears (c :: y) := by
  intro d x n reads
  obtain ⟨a,member,_,read,_⟩ := readsSource reads
  exact readStops (inner a member) read

def Ends (x : List α) : Mode → Prop
  | .kept n => n ≤ x.length
  | _ => True

theorem stepEnds (clears : m.Clears t) (ends : Ends (d :: x) mode) : Ends x (m.step mode d (x ++ t)).2 := by
  have looks : Ends x (m.look d (x ++ t)).2 := by
    unfold look
    split
    · rename_i n reads
      exact clears d x n reads
    · trivial
  cases mode with
  | plain => exact looks
  | kept n =>
    cases n with
    | zero => trivial
    | succ n => exact Nat.le_of_succ_le_succ ends
  | masked =>
    rw [step]
    split
    · trivial
    · exact looks

theorem scanEnds (clears : m.Clears t) (ends : Ends x mode) : Ends ([] : List α) (m.scan mode x t).2 := by
  induction x generalizing mode with
  | nil => exact ends
  | cons d x ih => exact ih (stepEnds clears ends)

theorem scanCut (inner : m.Inner c) (mode : Mode) (x y : List α) : m.scan mode x (c :: y) = m.scan mode x [c] := by
  have looks (d : α) (x : List α) : m.look d (x ++ c :: y) = m.look d (x ++ [c]) := by
    rw [look,look,readsCut inner x y]
  induction x generalizing mode with
  | nil => rfl
  | cons d x ih =>
    have same : m.step mode d (x ++ c :: y) = m.step mode d (x ++ [c]) := by
      cases mode with
      | plain => exact looks d x
      | kept n =>
        cases n with
        | zero => rfl
        | succ n => rfl
      | masked => rw [step,step,looks d x]
    simp only [scan,same,ih]

theorem maskedBehindMark (hides : (m.scan mode x y).2 = .masked) : mode = .masked ∧ (m.scan mode x y).1 = [] ∨ ∃ u, (m.scan mode x y).1 = u ++ m.mark := by
  induction x generalizing mode with
  | nil => exact .inl ⟨hides,rfl⟩
  | cons c x ih =>
    rcases ih hides with ⟨here,rest⟩ | ⟨u,rest⟩
    · cases mode with
      | plain =>
        rw [step,look] at here
        split at here <;> contradiction
      | kept n =>
        cases n with
        | zero =>
          refine .inr ⟨[],?_⟩
          rw [scan]
          simp only [step] at rest ⊢
          rw [rest,append_nil,nil_append]
        | succ n => contradiction
      | masked =>
        rw [step] at here
        split at here
        · rename_i runs
          refine .inl ⟨rfl,?_⟩
          rw [scan]
          simp only [step,if_pos runs] at rest ⊢
          exact rest
        · rw [look] at here
          split at here <;> contradiction
    · refine .inr ⟨(m.step mode c (x ++ y)).1 ++ u,?_⟩
      rw [scan]
      simp only [rest,append_assoc]

theorem scanModes (clears : m.Clears (c :: y)) (x : List α) : (m.scan .plain x (c :: y)).2 = .plain ∨
    m.inRun c = true ∧ (m.scan .plain x (c :: y)).2 = .kept 0 ∨ (m.scan .plain x (c :: y)).2 = .masked := by
  have ends := @scanEnds _ m (c :: y) x .plain clears trivial
  have fits := @scanFits _ m x (c :: y) .plain trivial
  cases here : (m.scan .plain x (c :: y)).2 with
  | plain => exact .inl rfl
  | masked => exact .inr (.inr rfl)
  | kept n =>
    rw [here] at ends fits
    cases n with
    | succ n => exact absurd ends (Nat.not_succ_le_zero n)
    | zero =>
      obtain ⟨d,same,runs⟩ := fits
      cases same
      exact .inr (.inl ⟨runs,rfl⟩)

def hides (m : Mask α) (x : List α) (c : α) : Bool := m.inRun c && (m.scan .plain x [c]).2 != .plain

theorem hiddenModes (inner : m.Inner c) (hides : m.hides x c = true) (y : List α) :
    (m.scan .plain x (c :: y)).2 = .kept 0 ∨ (m.scan .plain x (c :: y)).2 = .masked := by
  obtain ⟨_,busy⟩ := Bool.and_eq_true_iff.mp hides
  have other : (m.scan .plain x (c :: y)).2 ≠ .plain := by
    rw [scanCut inner]
    exact bne_iff_ne.mp busy
  rcases scanModes (innerClears inner y) x with plain | ⟨_,opens⟩ | masked
  · exact absurd plain other
  · exact .inl opens
  · exact .inr masked

theorem shownModes (inner : m.Inner c) (shows : m.hides x c = false) (y : List α) :
    (m.scan .plain x (c :: y)).2 = .plain ∨ (m.scan .plain x (c :: y)).2 = .masked ∧ m.inRun c = false := by
  have shown : m.inRun c = true → (m.scan .plain x (c :: y)).2 = .plain := by
    intro runs
    rw [scanCut inner]
    rw [hides,runs,Bool.true_and] at shows
    exact bne_eq_false_iff_eq.mp shows
  cases runs : m.inRun c with
  | true => exact .inl (shown runs)
  | false =>
    rcases scanModes (innerClears inner y) x with plain | ⟨within,_⟩ | masked
    · exact .inl plain
    · rw [runs] at within
      contradiction
    · exact .inr ⟨masked,rfl⟩

theorem scanShown (inner : m.Inner c) (shows : m.hides x c = false) (z y : List α) :
    m.scan .plain (x ++ c :: z) y = ((m.scan .plain x [c]).1 ++ (m.scan .plain (c :: z) y).1,(m.scan .plain (c :: z) y).2) := by
  rw [scanAppend,cons_append]
  rcases shownModes inner shows (z ++ y) with plain | ⟨masked,ends⟩
  · rw [plain,scanCut inner]
  · rw [masked,scanEnded ends,scanCut inner]

theorem scanHidden {e : α} {w : List α} (inner : m.Inner c) (hides : m.hides x c = true) (runs : ∀ d ∈ w, m.inRun d = true)
    (ends : m.inRun e = false) (unstarted : ∀ d ∈ e :: z, m.Unstarted d) (y : List α) :
    ∃ u, m.scan .plain (x ++ (c :: w ++ e :: z)) y = (u ++ m.mark ++ e :: z,.plain) := by
  have rest (y : List α) : m.scan .masked (e :: z) y = (e :: z,.plain) := by
    rw [scanEnded ends,scanPlain unstarted]
  have first : m.inRun c = true := (Bool.and_eq_true_iff.mp hides).1
  have word : ∀ d ∈ c :: w, m.inRun d = true := by
    intro d inside
    rcases mem_cons.mp inside with rfl | later
    · exact first
    · exact runs d later
  rw [scanAppend,scanAppend _ (c :: w)]
  rcases hiddenModes inner hides (w ++ e :: z ++ y) with opens | masked
  · refine ⟨(m.scan .plain x (c :: w ++ e :: z ++ y)).1,?_⟩
    simp only [cons_append] at opens ⊢
    rw [opens,scanOpens runs]
    simp only [rest,append_assoc]
  · have behind := @maskedBehindMark _ m x (c :: w ++ e :: z ++ y) .plain masked
    rcases behind with ⟨never,_⟩ | ⟨u,out⟩
    · contradiction
    · refine ⟨u,?_⟩
      simp only [cons_append] at masked out word ⊢
      rw [masked,scanMasked word,out]
      simp only [rest,nil_append]

theorem scanFenced {e : α} {v w : List α} (inner : m.Inner c) (unstarted : ∀ d ∈ c :: v ++ e :: w, m.Unstarted d) (ends : m.inRun e = false)
    (u y : List α) : ∃ u' v', v' <:+ v ∧ (m.scan .plain (u ++ (c :: v ++ e :: w)) y = (u' ++ c :: v ++ e :: w,.plain) ∨
      m.scan .plain (u ++ (c :: v ++ e :: w)) y = (u' ++ m.mark ++ v' ++ e :: w,.plain)) := by
  cases hidden : m.hides u c with
  | false =>
    refine ⟨(m.scan .plain u [c]).1,v,suffix_refl v,.inl ?_⟩
    have rest := scanShown inner hidden (v ++ e :: w) y
    rw [← cons_append,scanPlain unstarted] at rest
    rw [rest,append_assoc]
  | true =>
    have parts := takeWhile_append_dropWhile (p := m.inRun) (l := v)
    have runs : ∀ d ∈ v.takeWhile m.inRun, m.inRun d = true := fun d inside => mem_takeWhile_imp inside
    have later : ∀ d ∈ v.dropWhile m.inRun ++ e :: w, m.Unstarted d := by
      intro d inside
      refine unstarted d ?_
      rcases mem_append.mp inside with first | second
      · exact mem_append_left _ (mem_cons_of_mem c ((dropWhile_suffix _).subset first))
      · exact mem_append_right _ second
    have same : u ++ (c :: v ++ e :: w) = u ++ (c :: v.takeWhile m.inRun ++ (v.dropWhile m.inRun ++ e :: w)) := by
      rw [cons_append,cons_append,← append_assoc (v.takeWhile m.inRun),parts]
    cases tail : v.dropWhile m.inRun with
    | nil =>
      rw [tail] at same later
      obtain ⟨u',out⟩ := scanHidden inner hidden runs ends later y
      refine ⟨u',[],nil_suffix,.inr ?_⟩
      rw [same,nil_append,out,append_nil]
    | cons d v' =>
      have stops : m.inRun d = false := by
        have head := head?_dropWhile_not m.inRun v
        rw [tail] at head
        exact head
      rw [tail] at same later
      obtain ⟨u',out⟩ := scanHidden inner hidden runs stops later y
      refine ⟨u',d :: v',?_,.inr ?_⟩
      · rw [← tail]
        exact dropWhile_suffix _
      · rw [same,append_assoc (u' ++ m.mark)]
        exact out

def Telltale (m : Mask α) (p : α → Prop) : Prop :=
  ∀ a ∈ m.anchors, (∀ c, a.first c = true → ¬ p c) ∨ ∃ f, .one f ∈ a.rest ∧ ∀ c, f c = true → ¬ p c

theorem readsTelltale {p : α → Prop} (telltale : m.Telltale p) (reads : m.reads c t = some n) :
    ∃ w rest, t = w ++ rest ∧ w.length = n ∧ ∃ d ∈ c :: w, ¬ p d := by
  obtain ⟨a,member,first,read,_⟩ := readsSource reads
  obtain ⟨w,rest,same,length,takes⟩ := readTakes read
  refine ⟨w,rest,same,length,?_⟩
  rcases telltale a member with starts | ⟨f,inside,shows⟩
  · exact ⟨c,mem_cons_self,starts c first⟩
  · obtain ⟨d,within,takes⟩ := takesOne takes inside
    exact ⟨d,mem_cons_of_mem c within,shows d takes⟩

theorem scanUnchanged {p : α → Prop} (telltale : m.Telltale p) (holds : ∀ d ∈ (m.scan .plain z y).1, p d) :
    (m.scan .plain z y).1 = z ∧ ((m.scan .plain z y).2 = .plain ∨ ∃ n, (m.scan .plain z y).2 = .kept (n+1)) := by
  induction z with
  | nil => exact ⟨rfl,.inl rfl⟩
  | cons c z ih =>
    cases reads : m.reads c (z ++ y) with
    | none =>
      have here : m.step .plain c (z ++ y) = ([c],.plain) := by rw [step,look,reads]
      simp only [scan,here] at holds ⊢
      obtain ⟨same,mode⟩ := ih (fun d inside => holds d (mem_append_right _ inside))
      exact ⟨by rw [same]; rfl,mode⟩
    | some n =>
      have here : m.step .plain c (z ++ y) = ([c],.kept n) := by rw [step,look,reads]
      obtain ⟨w,rest,same,rfl,d,inside,fails⟩ := readsTelltale telltale reads
      by_cases short : z.length < w.length
      · simp only [scan,here,scanKept z y (Nat.le_of_lt short)]
        exact ⟨rfl,.inr ⟨w.length-z.length-1,congrArg Mode.kept (by omega)⟩⟩
      · obtain ⟨z',rfl⟩ : ∃ z', z = w ++ z' := by
          rcases append_eq_append_iff.mp same with ⟨more,longer,_⟩ | ⟨z',shorter,_⟩
          · have none : more = [] := by
              have lengths := congrArg List.length longer
              rw [length_append] at lengths
              exact eq_nil_of_length_eq_zero (by omega)
            exact ⟨[],by rw [longer,none,append_nil,append_nil]⟩
          · exact ⟨z',shorter⟩
        simp only [scan,here,scanAppend,scanKept w _ (Nat.le_refl _)] at holds
        refine absurd (holds d ?_) fails
        rw [← append_assoc]
        exact mem_append_left _ inside

def afterRun (m : Mask α) : List α → List α
  | [] => []
  | c :: t =>
    match m.reads c t with
    | some n => (t.drop n).dropWhile m.inRun
    | none => afterRun m t

def Closed (m : Mask α) (y : List α) : Prop := ∀ c ∈ y.head?, m.Inner c ∧ m.inRun c = false

theorem closedReads (closed : m.Closed y) (x : List α) : m.reads c (x ++ y) = m.reads c x := by
  cases y with
  | nil => rw [append_nil]
  | cons e y =>
    obtain ⟨inner,ends⟩ := closed e rfl
    exact readsEnd inner ends x y

/- The first anchor with a run, and the run: before them nothing is changed. -/
structure FirstRun (m : Mask α) (x y h w : List α) : Prop where
  some : w ≠ []
  runs : ∀ c ∈ w, m.inRun c = true
  whole : x = h ++ w ++ m.afterRun x
  ends : ∀ c ∈ (m.afterRun x).head?, m.inRun c = false
  kept : m.scan .plain h (w ++ m.afterRun x ++ y) = (h,.kept 0)

theorem firstRun (closed : m.Closed y) (x : List α) : m.scan .plain x y = (x,.plain) ∧ m.afterRun x = [] ∨ ∃ h w, m.FirstRun x y h w := by
  induction x with
  | nil => exact .inl ⟨rfl,rfl⟩
  | cons c t ih =>
    have same : m.reads c (t ++ y) = m.reads c t := closedReads closed t
    cases reads : m.reads c t with
    | none =>
      have after : m.afterRun (c :: t) = m.afterRun t := by rw [afterRun,reads]
      have here (z : List α) (free : m.reads c z = none) : m.step .plain c z = ([c],.plain) := by rw [step,look,free]
      rcases ih with ⟨scanned,none⟩ | ⟨h,w,some,runs,whole,ends,kept⟩
      · refine .inl ⟨?_,after.trans none⟩
        simp only [scan,here _ (same.trans reads),scanned]
        rfl
      · refine .inr ⟨c :: h,w,some,runs,?_,?_,?_⟩
        · rw [after]
          exact congrArg (c :: ·) whole
        · rw [after]
          exact ends
        · have rest : h ++ (w ++ m.afterRun t ++ y) = t ++ y := by
            rw [← append_assoc,← append_assoc,← whole]
          rw [after]
          simp only [scan,rest,here _ (same.trans reads),kept]
          rfl
    | some n =>
      have after : m.afterRun (c :: t) = (t.drop n).dropWhile m.inRun := by rw [afterRun,reads]
      obtain ⟨a,member,first,read,d,next,runs⟩ := readsSource reads
      obtain ⟨w,rest,rfl,rfl,_⟩ := readTakes read
      rw [drop_left] at after
      rw [getElem?_append_right (Nat.le_refl _),Nat.sub_self] at next
      obtain ⟨tail,rfl⟩ : ∃ tail, rest = d :: tail := by
        cases rest with
        | nil => contradiction
        | cons e tail =>
          cases next
          exact ⟨tail,rfl⟩
      have parts := takeWhile_append_dropWhile (p := m.inRun) (l := d :: tail)
      refine .inr ⟨c :: w,(d :: tail).takeWhile m.inRun,?_,fun e inside => mem_takeWhile_imp inside,?_,?_,?_⟩
      · rw [takeWhile_cons_of_pos runs]
        exact cons_ne_nil _ _
      · rw [after,append_assoc,parts]
        rfl
      · intro e inside
        rw [after] at inside
        have head := head?_dropWhile_not m.inRun (d :: tail)
        rw [show ((d :: tail).dropWhile m.inRun).head? = some e from inside] at head
        exact head
      · rw [after,parts]
        refine scanAnchor ?_
        rw [← append_assoc]
        exact same.trans reads

theorem FirstRun.scanned {h w : List α} (run : m.FirstRun x y h w) : m.scan .plain x y =
    (h ++ (m.mark ++ (m.scan .masked (m.afterRun x) y).1),(m.scan .masked (m.afterRun x) y).2) := by
  obtain ⟨some,runs,whole,_,kept⟩ := run
  obtain ⟨c,w,rfl⟩ := exists_cons_of_ne_nil some
  have masked (z : List α) : m.scan (.kept 0) (c :: w) z = (m.mark,.masked) := scanOpens (fun d inside => runs d (mem_cons_of_mem c inside)) z
  generalize m.afterRun x = rest at whole kept
  rw [whole,append_assoc,scanAppend,append_assoc,scanAppend _ (c :: w)]
  rw [append_assoc] at kept
  simp only [kept,masked]

end Mask
end VpnPack.Base
