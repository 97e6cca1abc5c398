import VpnPack.Integration.Listing

/-! doListRequest against any server. The loop ends by its page cap alone: what a server
sends is not restricted. An answer that cannot be decoded is one of the replies, so is one
that was cut at the limit of a body. -/
namespace VpnPack.Integration.Paging
open Base List

-- The data of a page is decoded on its own, after the page.
structure Body (α : Type) where
  data : Except GoError (List α)
  totalCount : Int

inductive Reply (α : Type) where
  | failed (e : GoError)
  | answered (status : Int) (body : Except GoError (Body α))

abbrev Server (α : Type) : Type := Nat → Nat → Nat → Reply α

def statusError (path : String) (status : Int) : GoError :=
  .new ("integration API error: GET " ++ path ++ " returned " ++ toString status)

section
variable {α : Type} (server : Server α) (path : String)

def getPage (request limit offset : Nat) : Except GoError (List α × Int) :=
  match server request limit offset with
  | .failed e => .error e
  | .answered status body =>
    if status < 200 ∨ 300 ≤ status then .error (statusError path status)
    else
      match body with
      | .error e => .error (.wrap ("parse response for " ++ path) e)
      | .ok page =>
        match page.data with
        | .error e => .error (.wrap ("parse data for " ++ path) e)
        | .ok pageItems => .ok (pageItems,page.totalCount)

def listLoop (offset pages : Nat) (items : List α) : Except GoError (List α) × Nat :=
  if maxListPages ≤ pages then (.ok items,pages)
  else
    match getPage server path pages paginationLimit offset with
    | .error e => (.error e,pages+1)
    | .ok (pageItems,totalCount) =>
      if pageItems.length < paginationLimit then (.ok (items ++ pageItems),pages+1)
      else if 0 < totalCount ∧ totalCount ≤ (items ++ pageItems).length then (.ok (items ++ pageItems),pages+1)
      else listLoop (offset+paginationLimit) (pages+1) (items ++ pageItems)
  termination_by maxListPages - pages

def doListRequest : Except GoError (List α) × Nat := listLoop server path 0 0 []

end

section
variable {α : Type} {server : Server α} {path : String}

theorem listLoopBounded {offset pages : Nat} {items : List α} (below : pages ≤ maxListPages) :
    (listLoop server path offset pages items).2 ≤ maxListPages := by
  induction offset, pages, items using listLoop.induct server path with
  | case1 offset pages items capped =>
    rw [listLoop,if_pos capped]
    exact below
  | case2 offset pages items more e asked =>
    rw [listLoop,if_neg more,asked]
    exact Nat.lt_of_not_le more
  | case3 offset pages items more pageItems totalCount asked short =>
    rw [listLoop,if_neg more,asked]
    simp only [if_pos short]
    exact Nat.lt_of_not_le more
  | case4 offset pages items more pageItems totalCount asked full total =>
    rw [listLoop,if_neg more,asked]
    simp only [if_neg full,if_pos total]
    exact Nat.lt_of_not_le more
  | case5 offset pages items more pageItems totalCount asked full open_ ih =>
    rw [listLoop,if_neg more,asked]
    simp only [if_neg full,if_neg open_]
    exact ih (Nat.lt_of_not_le more)

def Serves (server : Server α) (items : List α) : Prop :=
  ∀ request limit offset, ∃ status totalCount,
    server request limit offset = .answered status (.ok ⟨.ok ((items.drop offset).take limit),totalCount⟩) ∧
      200 ≤ status ∧ status < 300 ∧ (totalCount = 0 ∨ totalCount = items.length)

theorem getPageServed {items : List α} (serves : Serves server items) (request limit offset : Nat) :
    ∃ totalCount : Int, getPage server path request limit offset = .ok ((items.drop offset).take limit,totalCount) ∧
      (totalCount = 0 ∨ totalCount = items.length) := by
  obtain ⟨status,totalCount,sent,low,high,total⟩ := serves request limit offset
  have fine : ¬ (status < 200 ∨ 300 ≤ status) := by omega
  exact ⟨totalCount,by simp only [getPage,sent,if_neg fine],total⟩

theorem listLoopServed {items : List α} (serves : Serves server items) {left offset pages : Nat}
    (room : pages+left = maxListPages) (fits : items.length ≤ offset + left*paginationLimit) :
    (listLoop server path offset pages (items.take offset)).1 = .ok items := by
  induction left generalizing offset pages with
  | zero =>
    have capped : maxListPages ≤ pages := by omega
    rw [listLoop,if_pos capped]
    change Except.ok (items.take offset) = _
    rw [take_of_length_le (by omega)]
  | succ left ih =>
    have more : ¬ maxListPages ≤ pages := by omega
    obtain ⟨totalCount,asked,total⟩ := @getPageServed α server path items serves pages paginationLimit offset
    have grown : items.take offset ++ (items.drop offset).take paginationLimit = items.take (offset+paginationLimit) := take_add.symm
    rw [listLoop,if_neg more,asked]
    simp only [grown]
    split
    · rename_i short
      rw [length_take,length_drop] at short
      rw [take_of_length_le (by omega)]
    · split
      · rename_i told
        have all : items.length ≤ (items.take (offset+paginationLimit)).length := by
          rcases total with zero | size
          · omega
          · rw [size] at told
            exact Int.ofNat_le.mp told.2
        rw [length_take] at all
        rw [take_of_length_le (by omega)]
      · exact ih (by omega) (by rw [Nat.succ_mul] at fits; omega)

end

section
variable {α : Type} {world : World} {select : Sites → List α} {c d : Client}

def pagesFrom (totals : Bool) (size offset : Nat) : Nat :=
  if totals = true ∧ 0 < size then (size-offset+199)/200 else (size-offset)/200+1

def pageCount (totals : Bool) (size : Nat) : Nat := min maxListPages (pagesFrom totals size 0)
def Answered (world : World) (first count : Nat) : Prop := ∀ i < count, world.answers (first+i) = .ok

theorem answeredSplit {first count : Nat} :
    Answered world first (count+1) ↔ world.answers first = .ok ∧ Answered world (first+1) count := by
  constructor
  · intro answered
    refine ⟨answered 0 (Nat.succ_pos _),fun i small => ?_⟩
    rw [Nat.add_assoc,Nat.add_comm 1 i]
    exact answered (i+1) (Nat.succ_lt_succ small)
  · rintro ⟨head,rest⟩ i small
    cases i with
    | zero => exact head
    | succ i =>
      rw [Nat.add_comm i 1,← Nat.add_assoc]
      exact rest i (Nat.lt_of_succ_lt_succ small)

structure Inside (totals : Bool) (size offset : Nat) : Prop where
  within : offset ≤ size
  more : totals = true → 0 < size → offset < size

variable {totals : Bool} {size offset rest : Nat}

theorem pagesPositive (inside : Inside totals size offset) :
    ∃ rest, pagesFrom totals size offset = rest+1 := by
  refine Nat.exists_eq_succ_of_ne_zero ?_
  unfold pagesFrom
  split
  · rename_i told
    have := inside.more told.1 told.2
    omega
  · omega

theorem pagesNext (inside : Inside totals size offset)
    (count : pagesFrom totals size offset = rest+1) : rest = 0 ∧ (size-offset < 200 ∨ totals = true ∧ 0 < size ∧ size ≤ offset+200) ∨
      0 < rest ∧ offset+200 ≤ size ∧ ¬ (totals = true ∧ 0 < size ∧ size ≤ offset+200) ∧
        pagesFrom totals size (offset+200) = rest ∧ Inside totals size (offset+200) := by
  have within := inside.within
  unfold pagesFrom at count ⊢
  by_cases told : totals = true ∧ 0 < size
  · have := inside.more told.1 told.2
    rw [if_pos told] at count ⊢
    by_cases last : size ≤ offset+200
    · exact .inl ⟨by omega,.inr ⟨told.1,told.2,last⟩⟩
    · refine .inr ⟨by omega,by omega,fun both => last both.2.2,by omega,by omega,fun _ _ => by omega⟩
  · rw [if_neg told] at count ⊢
    have silent : ¬ (totals = true ∧ 0 < size ∧ size ≤ offset+200) := fun both => told ⟨both.1,both.2.1⟩
    by_cases last : size-offset < 200
    · exact .inl ⟨by omega,.inl last⟩
    · exact .inr ⟨by omega,by omega,silent,by omega,by omega,fun yes positive => absurd ⟨yes,positive⟩ told⟩

def afterCalls (c : Client) (count : Nat) : Client := {c with calls := c.calls+count}

theorem listTurn {left offset rest : Nat} {items : List α} (key : c.apiKey ≠ "")
    (inside : Inside world.totals (select c.sites).length offset) (collected : items.length = offset)
    (count : pagesFrom world.totals (select c.sites).length offset = rest+1) : listFrom world select (left+1) offset items c =
      match world.answers c.calls with
      | .failed e => (.error e,afterCalls c 1)
      | .lost e => (.error e,afterCalls c 1)
      | .ok =>
        if rest = 0 then (.ok (items ++ ((select c.sites).drop offset).take paginationLimit),afterCalls c 1)
        else listFrom world select left (offset+200) (items ++ ((select c.sites).drop offset).take paginationLimit) (afterCalls c 1) := by
  simp only [listFrom,Integration.getPage,doRequest,if_neg key]
  cases answer : world.answers c.calls with
  | failed _ | lost _ => rfl
  | ok =>
    have length : (((select c.sites).drop offset).take paginationLimit).length = min 200 ((select c.sites).length-offset) := by
      rw [length_take,length_drop]
      rfl
    have limit : paginationLimit = 200 := rfl
    have within := inside.within
    generalize ((select c.sites).drop offset).take paginationLimit = page at length ⊢
    simp only [length,length_append,collected,limit]
    rcases pagesNext inside count with ⟨zero,ended⟩ | ⟨positive,room,silent,_,_⟩
    · rw [if_pos zero]
      by_cases short : min 200 ((select c.sites).length-offset) < 200
      · rw [if_pos short]
        rfl
      · have told : world.totals = true ∧ 0 < (select c.sites).length ∧ (select c.sites).length ≤ offset+200 :=
          ended.resolve_left (by omega)
        rw [if_neg short,if_pos told.1,if_pos ⟨told.2.1,by omega⟩]
        rfl
    · have full : ¬ min 200 ((select c.sites).length-offset) < 200 := by omega
      rw [if_neg (Nat.ne_of_gt positive),if_neg full]
      have open_ : ¬ (0 < (if world.totals = true then (select c.sites).length else 0) ∧
          (if world.totals = true then (select c.sites).length else 0) ≤ offset + min 200 ((select c.sites).length-offset)) := by
        split
        · rename_i told
          rintro ⟨some_,reached⟩
          exact silent ⟨told,some_,by omega⟩
        · omega
      rw [if_neg open_]
      rfl

theorem listFromAnswered {left offset : Nat} {items : List α} (key : c.apiKey ≠ "")
    (inside : Inside world.totals (select c.sites).length offset) (collected : items.length = offset) :
    let pages := min left (pagesFrom world.totals (select c.sites).length offset)
    (Answered world c.calls pages ∧ ∃ list, listFrom world select left offset items c = (.ok list,afterCalls c pages)) ∨
      (¬ Answered world c.calls pages ∧ ∃ e d, listFrom world select left offset items c = (.error e,d)) := by
  have unasked (start : Nat) : Answered world start 0 := fun i small => absurd small (Nat.not_lt_zero i)
  induction left generalizing offset items c with
  | zero =>
    rw [Nat.zero_min]
    exact .inl ⟨unasked _,items,rfl⟩
  | succ left ih =>
    obtain ⟨rest,count⟩ := pagesPositive inside
    rw [listTurn key inside collected count,count,Nat.succ_min_succ]
    dsimp only
    rw [answeredSplit]
    cases answer : world.answers c.calls with
    | failed e => exact .inr ⟨by simp,e,_,rfl⟩
    | lost e => exact .inr ⟨by simp,e,_,rfl⟩
    | ok =>
      rcases pagesNext inside count with ⟨zero,_⟩ | ⟨positive,room,_,next,inside'⟩
      · simp only [zero,Nat.min_zero]
        exact .inl ⟨⟨trivial,unasked _⟩,_,rfl⟩
      · simp only [if_neg (Nat.ne_of_gt positive)]
        have length : (items ++ ((select c.sites).drop offset).take paginationLimit).length = offset+200 := by
          rw [length_append,length_take,length_drop,collected]
          have : paginationLimit = 200 := rfl
          omega
        have later := @ih (afterCalls c 1) (offset+200) _ key inside' length
        simp only [afterCalls,next,Nat.add_assoc,Nat.add_comm 1] at later ⊢
        simpa using later

theorem insideStart (totals : Bool) (size : Nat) : Inside totals size 0 := ⟨Nat.zero_le _,fun _ positive => positive⟩

theorem listAnswered (key : c.apiKey ≠ "") (answered : Answered world c.calls (pageCount world.totals (select c.sites).length)) :
    Integration.doListRequest world select c =
      (.ok ((select c.sites).take pageCap),afterCalls c (pageCount world.totals (select c.sites).length)) := by
  obtain ⟨_,list,ran⟩ := (@listFromAnswered α world select c maxListPages 0 [] key (insideStart _ _) rfl).resolve_right
    (fun cut => cut.1 answered)
  have same := (listSource ran).2 list rfl
  rw [← same]
  exact ran

theorem listRefused (key : c.apiKey ≠ "") (refused : ¬ Answered world c.calls (pageCount world.totals (select c.sites).length)) :
    ∃ e d, Integration.doListRequest world select c = (.error e,d) :=
  ((@listFromAnswered α world select c maxListPages 0 [] key (insideStart _ _) rfl).resolve_left (fun all => refused all.1)).2

end

theorem listsWhole {α : Type} (server : Server α) (path : String) : (doListRequest server path).2 ≤ 1000 ∧
    ∀ items : List α, items.length ≤ 200*1000 → Serves server items → (doListRequest server path).1 = .ok items := by
  refine ⟨listLoopBounded (Nat.zero_le _),fun items small serves => ?_⟩
  exact listLoopServed serves (Nat.zero_add _) (by rw [Nat.zero_add,Nat.mul_comm]; exact small)

def twoPages : Server Nat := fun _ limit offset => .answered 200 (.ok ⟨.ok (((List.range 400).drop offset).take limit),0⟩)
def endless : Server Nat := fun _ limit _ => .answered 200 (.ok ⟨.ok (List.replicate limit 7),0⟩)

theorem listsWholeTwoPages :
    (doListRequest twoPages "/v1/sites").1 = .ok (List.range 400) ∧ (doListRequest endless "/v1/sites").2 ≤ 1000 := by
  have small : (List.range 400).length ≤ 200*1000 := by simp
  exact ⟨(listsWhole twoPages "/v1/sites").2 _ small (fun _ limit offset => ⟨200,0,rfl,by decide,by decide,.inl rfl⟩),
    (listsWhole endless "/v1/sites").1⟩

end VpnPack.Integration.Paging
