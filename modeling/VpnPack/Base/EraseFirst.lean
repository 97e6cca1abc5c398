import Mathlib.Data.List.Basic

/-! Taking items out of a list by key: every key takes the first item that has it,
whichever item was meant. -/
namespace VpnPack.Base
open List

section
variable {α κ : Type} [DecidableEq κ]

def eraseEach (key : α → κ) (keys : List κ) (xs : List α) : List α :=
  keys.foldl (fun xs k => xs.eraseP (fun x => key x == k)) xs

variable {key : α → κ} {keys : List κ} {xs : List α} {mine seen : α → Bool}

theorem eraseFirstFilter (k l : κ) (xs : List α) : (xs.eraseP (fun x => key x == k)).filter (fun x => key x == l) =
      (xs.filter (fun x => key x == l)).drop (if k = l then 1 else 0) := by
  induction xs with
  | nil => simp
  | cons x rest ih =>
    by_cases first : key x = k
    · by_cases same : k = l
      · simp [first,same]
      · simp [first,same]
    · by_cases asked : key x = l
      · have other : ¬ k = l := fun same => first (asked.trans same.symm)
        simp only [other,if_false,drop_zero] at ih ⊢
        rw [eraseP_cons_of_neg (by simpa using first),filter_cons_of_pos (by simpa using asked),ih,
          filter_cons_of_pos (by simpa using asked)]
      · simpa [first,asked] using ih

theorem eraseEachFilter (keys : List κ) (l : κ) (xs : List α) :
    (eraseEach key keys xs).filter (fun x => key x == l) = (xs.filter (fun x => key x == l)).drop (keys.count l) := by
  induction keys generalizing xs with
  | nil => rfl
  | cons k rest ih =>
    have later := ih (xs.eraseP (fun x => key x == k))
    rw [eraseFirstFilter,drop_drop] at later
    rw [count_cons]
    refine later.trans (congrArg (fun n => List.drop n _) ?_)
    by_cases same : k = l
    · simp [same,Nat.add_comm]
    · simp [same]

theorem eraseEachPast {kept : List α} (past : ∀ x ∈ kept, mine x = false)
    (ordered : (kept ++ xs).Pairwise (fun a b => key a = key b → mine b = true → mine a = true)) :
    eraseEach key ((xs.filter mine).map key) (kept ++ xs) = kept ++ xs.filter (fun x => !mine x) := by
  induction xs generalizing kept with
  | nil => simp [eraseEach]
  | cons x rest ih =>
    cases meant : mine x with
    | true =>
      have cross := (pairwise_append.mp ordered).2.2
      have before : ∀ y ∈ kept, ¬ (key y == key x) = true := by
        intro y member same
        have owned := cross y member x mem_cons_self (beq_iff_eq.mp same) meant
        rw [past y member] at owned
        contradiction
      have gone : (kept ++ x :: rest).eraseP (fun y => key y == key x) = kept ++ rest := by
        rw [eraseP_append_right _ before,eraseP_cons_of_pos (by simp)]
      have shorter : (kept ++ rest).Pairwise (fun a b => key a = key b → mine b = true → mine a = true) :=
        ordered.sublist ((sublist_cons_self x rest).append_left kept)
      have later := ih past shorter
      simp only [filter_cons,meant,if_true,map_cons,eraseEach,foldl_cons,gone] at later ⊢
      simpa using later
    | false =>
      have passed : ∀ y ∈ kept ++ [x], mine y = false := by
        intro y member
        rcases mem_append.mp member with old | new
        · exact past y old
        · rw [mem_singleton.mp new]
          exact meant
      have later := @ih (kept ++ [x]) passed (by simpa using ordered)
      simpa [meant] using later

theorem dropLeading (known : ∀ x, mine x = true → seen x = true)
    (dropped : xs.drop (xs.filter seen).length = xs.filter (fun x => !mine x)) :
    (∀ x ∈ xs, seen x = true → mine x = true) ∧ xs.Pairwise (fun a b => mine b = true → mine a = true) := by
  have counted : xs.length = (xs.filter mine).length + (xs.filter (fun x => !mine x)).length := length_eq_length_filter_add mine
  have below : (xs.filter seen).length ≤ xs.length := length_filter_le seen xs
  have sizes : (xs.filter seen).length = (xs.filter mine).length := by
    have lengths := congrArg List.length dropped
    rw [length_drop] at lengths
    omega
  have same : xs.filter mine = xs.filter seen := (monotone_filter_right xs known).eq_of_length sizes.symm
  have none_ : ∀ x ∈ xs.drop (xs.filter seen).length, mine x = false := by
    intro x member
    rw [dropped] at member
    simpa using (mem_filter.mp member).2
  have all : ∀ x ∈ xs.take (xs.filter seen).length, mine x = true := by
    have rest : (xs.drop (xs.filter seen).length).filter mine = [] := by
      rw [filter_eq_nil_iff]
      intro x member
      rw [none_ x member]
      simp
    have whole := congrArg (fun l => (List.filter mine l).length) (take_append_drop (xs.filter seen).length xs)
    simp only [filter_append,rest,append_nil,← sizes] at whole
    refine length_filter_eq_length_iff.mp ?_
    rw [whole,length_take,Nat.min_eq_left below]
  refine ⟨fun x member hit => ?_,?_⟩
  · have both : x ∈ xs.filter seen := mem_filter.mpr ⟨member,hit⟩
    rw [← same] at both
    exact (mem_filter.mp both).2
  · rw [← take_append_drop (xs.filter seen).length xs,pairwise_append]
    refine ⟨pairwise_of_forall_mem_list ?_,pairwise_of_forall_mem_list ?_,fun a first b second meant => all a first⟩
    · exact fun a member b _ _ => all a member
    · intro a _ b member meant
      rw [none_ b member] at meant
      contradiction

theorem eraseEachExact (known : ∀ x, mine x = true → seen x = true) :
    eraseEach key ((xs.filter seen).map key) xs = xs.filter (fun x => !mine x) ↔
      (∀ x ∈ xs, seen x = true → mine x = true) ∧ xs.Pairwise (fun a b => key a = key b → mine b = true → mine a = true) := by
  constructor
  · intro erased
    have leading (l : κ) := @dropLeading α (xs.filter (fun x => key x == l)) mine seen known (by
      have left := congrArg (List.filter (fun x => key x == l)) erased
      rw [eraseEachFilter,count_eq_countP,countP_map,countP_eq_length_filter,filter_comm] at left
      rw [filter_comm (fun x => !mine x)]
      exact left)
    constructor
    · intro x member hit
      exact (leading (key x)).1 x (mem_filter.mpr ⟨member,by simp⟩) hit
    · rw [pairwise_iff_forall_sublist]
      intro a b inside same meant
      have pair : [a,b].Sublist (xs.filter (fun x => key x == key b)) := by
        have kept := inside.filter (fun x => key x == key b)
        simpa [same] using kept
      exact pairwise_iff_forall_sublist.mp (leading (key b)).2 pair meant
  · intro both
    have same : xs.filter seen = xs.filter mine := filter_congr (fun x member => Bool.eq_iff_iff.mpr ⟨both.1 x member,known x⟩)
    rw [same]
    exact @eraseEachPast α κ _ key xs mine [] (by simp) both.2

end
end VpnPack.Base
