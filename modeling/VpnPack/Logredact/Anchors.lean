import VpnPack.Logredact.Sealed

/-! The anchors as the patterns read them, and what the patterns before its own make of the one of a
query. -/
namespace VpnPack.Logredact
open Base List

variable {c d : Char} {w x y : Text} {ps : List (Piece Char)}

theorem blankOut {f : Char → Bool} (never : ([9,10,12,13,32].map Char.ofNat).all (fun c => !f c) = true) (runs : f d = true) : blank d = false := by
  cases isBlank : blank d with
  | false => rfl
  | true =>
    have other := all_eq_true.mp never d (blankSource isBlank)
    rw [runs] at other
    contradiction

theorem readBlanks (stops : blank d = false) (ps : List (Piece Char)) (y : Text) : readPieces (.many blank :: ps) (d :: y) = readPieces ps (d :: y) := by
  rw [readPieces,dropWhile_cons_of_neg (by rw [stops]; decide),takeWhile_cons_of_neg (by rw [stops]; decide)]
  exact Option.map_id'

theorem bearerReads (runs : bearerRule.inRun d = true) (y : Text) : bearerRule.reads 'B' ("earer ".toList ++ d :: y) = some "earer ".toList.length := by
  have rest : readPieces [.many blank] (d :: y) = some 0 := readBlanks (blankOut (by decide) runs) [] y
  have read : readPieces (word "earer" ++ [.one blank,.many blank]) ("earer ".toList ++ d :: y) = (readPieces [.many blank] (d :: y)).map (· + 6) := by
    simp [readPieces,word,folds,blank]
  rw [rest] at read
  exact Mask.readsFound (x := "earer ".toList) (show bearerRule.anchors = [] ++ _ :: [] from rfl) (by decide) (fun b none => by contradiction) read runs

theorem headerReads (runs : headerRule.inRun d = true) (y : Text) : headerRule.reads 'X' ("-API-Key: ".toList ++ d :: y) = some "-API-Key: ".toList.length := by
  have stops : blank d = false := blankOut (by decide) runs
  have plain : quote d = false := by
    simp only [headerRule,stops,Bool.and_eq_true,Bool.not_eq_true'] at runs
    exact runs.1.1.2
  have rest : readPieces [.many blank,.maybe quote] (' ' :: d :: y) = some 1 := by
    rw [readPieces,dropWhile_cons_of_pos (by decide),takeWhile_cons_of_pos (by decide),dropWhile_cons_of_neg (by rw [stops]; decide),
      takeWhile_cons_of_neg (by rw [stops]; decide),readPieces,plain]
    rfl
  have read : readPieces (word "-api-key" ++ [.maybe quote,.many blank,.one colon,.many blank,.maybe quote]) ("-API-Key: ".toList ++ d :: y) =
      (readPieces [.many blank,.maybe quote] (' ' :: d :: y)).map (· + 9) := by
    simp [readPieces,word,folds,quote,blank,colon]
    rfl
  rw [rest] at read
  exact Mask.readsFound (x := "-API-Key: ".toList) (show headerRule.anchors = [] ++ _ :: [] from rfl) (by decide) (fun b none => by contradiction) read runs

theorem takesExactly {s : List Char} (takes : Takes (s.map (fun letter => .one (· == letter))) w) : w = s := by
  induction s generalizing w with
  | nil =>
    cases takes
    rfl
  | cons letter s ih =>
    cases takes with
    | one same next => rw [ih next,eq_of_beq same]

variable {letter : Char} {f : Char → Char → Bool}

theorem firmOnes (s : List Char) (firm : Firm ps) : Firm (s.map (fun letter => .one (f letter)) ++ ps) := by
  induction s with
  | nil => exact firm
  | cons letter s ih => exact .one ih

theorem takesOnes (refl : ∀ letter, f letter letter = true) (s : List Char) : Takes (s.map (fun letter => .one (f letter))) s := by
  induction s with
  | nil => exact .nil
  | cons letter s ih => exact .one (refl letter) ih

theorem keyReads (runs : keyRule.inRun d = true) (y : Text) : keyRule.reads 't' ("skey-auth-".toList ++ d :: y) = some "skey-auth-".toList.length := by
  have firm : Firm (exactly "skey-auth-") := by
    have ones := @firmOnes [] (fun letter c => c == letter) "skey-auth-".toList .nil
    rw [append_nil] at ones
    exact ones
  have read := readFirm firm (@takesOnes (fun letter c => c == letter) (fun letter => beq_self_eq_true letter) "skey-auth-".toList) (d :: y)
  exact Mask.readsFound (x := "skey-auth-".toList) (show keyRule.anchors = [] ++ _ :: _ from rfl) rfl (fun b none => by contradiction) read runs

theorem keyReadsSource {n : Nat} (reads : keyRule.reads c x = some n) :
    ∃ s ∈ ["skey-auth-","skey-client-","skey-api-"].map String.toList, ∃ rest, x = s ++ rest ∧ s.length = n := by
  obtain ⟨a,member,_,read,_⟩ := Mask.readsSource reads
  obtain ⟨s,known,rfl⟩ := mem_map.mp member
  obtain ⟨w,rest,same,length,takes⟩ := readTakes read
  have word : w = s.toList := takesExactly takes
  rw [word] at same length
  exact ⟨s.toList,mem_map_of_mem known,rest,same,length⟩

theorem keyClears (y : Text) : keyRule.Clears ('t' :: 's' :: y) := by
  intro d x n reads
  obtain ⟨s,known,rest,same,rfl⟩ := keyReadsSource reads
  by_contra beyond
  have short : x.length < s.length := Nat.lt_of_not_le beyond
  have here : (s ++ rest)[x.length]? = some 't' := by
    rw [← same,getElem?_append_right (Nat.le_refl _),Nat.sub_self]
    rfl
  have next : (s ++ rest)[x.length+1]? = some 's' := by
    rw [← same,getElem?_append_right (Nat.le_succ _),Nat.succ_sub (Nat.le_refl _),Nat.sub_self]
    rfl
  rw [getElem?_append_left short] at here
  have follows : ∀ s ∈ ["skey-auth-","skey-client-","skey-api-"].map String.toList, ∀ i < 12, s[i]? = some 't' → i+1 < s.length ∧ s[i+1]? ≠ some 's' := by decide
  have bound : ∀ s ∈ ["skey-auth-","skey-client-","skey-api-"].map String.toList, s.length ≤ 12 := by decide
  obtain ⟨inside,other⟩ := follows s known x.length (Nat.lt_of_lt_of_le short (bound s known)) here
  rw [getElem?_append_left inside] at next
  exact other next

def Quiet (m : Mask Char) (x : Text) : Prop := ∀ y, m.scan .plain x y = (x,.plain)

theorem quietAppend {m : Mask Char} (first : Quiet m x) (second : Quiet m w) : Quiet m (x ++ w) := by
  intro y
  rw [Mask.scanAppend,first,second]

theorem foldsSource (folded : folds letter c = true) : c ∈ [letter,letter.toUpper,Char.ofNat 0x17F,Char.ofNat 0x212A] := by
  simp only [folds,Bool.or_eq_true,Bool.and_eq_true,beq_iff_eq] at folded
  rcases folded with ((same | same) | ⟨_,same⟩) | ⟨_,same⟩
  · simp [same]
  · simp [same]
  · rw [← Char.ofNat_toNat c,same]
    simp
  · rw [← Char.ofNat_toNat c,same]
    simp

theorem foldsApart {f : Char → Bool} (folded : folds letter c = true)
    (apart : [letter,letter.toUpper,Char.ofNat 0x17F,Char.ofNat 0x212A].all (fun c => !f c) = true) : f c = false :=
  Bool.not_eq_true' _ ▸ all_eq_true.mp apart c (foldsSource folded)

theorem keyQuiet (takes : Takes ps w) (rejects : Rejects ps 't') : Quiet keyRule w := by
  refine Mask.scanPlain (fun c inside a member => ?_)
  obtain ⟨rest,_,rfl⟩ := mem_map.mp member
  refine beq_eq_false_iff_ne.mpr (fun same => ?_)
  obtain ⟨p,piece,accepts⟩ := takesAccepted takes inside
  rw [same,rejects p piece] at accepts
  contradiction

theorem tokenQuiet (takes : Takes (word "token=") w) : Quiet keyRule w := by
  have shape : Takes (.one (folds 't') :: .one (folds 'o') :: word "ken=") w := takes
  cases shape with
  | @one _ _ c w _ rest =>
    intro y
    have none : keyRule.reads c (w ++ y) = none := by
      cases reads : keyRule.reads c (w ++ y) with
      | none => rfl
      | some n =>
        obtain ⟨s,known,more,same,_⟩ := keyReadsSource reads
        have starts : ∀ s ∈ ["skey-auth-","skey-client-","skey-api-"].map String.toList, s.head? = some 's' := by decide
        cases rest with
        | @one _ _ o w folded _ =>
          have head : (s ++ more).head? = some 's' := by rw [head?_append,starts s known]; rfl
          rw [← same] at head
          cases head
          exact absurd folded (by decide)
    have later : keyRule.scan .plain w y = (w,.plain) := @keyQuiet w (.one (folds 'o') :: word "ken=") rest (by decide) y
    simp only [Mask.scan,Mask.step,Mask.look,none,later]
    rfl

section
variable {a : Anchor Char}

theorem querySigns (member : a ∈ queryRule.anchors) (first : a.first c = true) : c = '?' ∨ c = '&' := by
  obtain ⟨rest,_,rfl⟩ := mem_map.mp member
  exact (Bool.or_eq_true_iff.mp first).imp eq_of_beq eq_of_beq

theorem queryRuns (member : a ∈ queryRule.anchors) (takes : Takes a.rest w) : ∀ d ∈ w, queryRule.inRun d = true := by
  have rejected : ∀ a ∈ queryRule.anchors, ∀ c ∈ '&' :: [9,10,12,13,32].map Char.ofNat, Rejects a.rest c := everyPair (by decide)
  intro d inside
  obtain ⟨p,piece,accepts⟩ := takesAccepted takes inside
  have other : d ∉ '&' :: [9,10,12,13,32].map Char.ofNat := by
    intro among
    exact Bool.false_ne_true ((rejected a member d among p piece).symm.trans accepts)
  rw [mem_cons,not_or] at other
  refine Bool.and_eq_true_iff.mpr ⟨bne_iff_ne.mpr other.1,?_⟩
  cases isBlank : blank d with
  | false => rfl
  | true => exact absurd (blankSource isBlank) other.2

theorem queryQuiet (member : a ∈ queryRule.anchors) (first : a.first c = true) (takes : Takes a.rest w) :
    Quiet keyRule (c :: w) ∧ Quiet bearerRule (c :: w) := by
  have signs : ∀ c ∈ ['?','&'], keyRule.Unstarted c ∧ bearerRule.Unstarted c := everyChar (by decide)
  have sign := signs c (by rcases querySigns member first with rfl | rfl <;> decide)
  constructor
  · refine quietAppend (x := [c]) (Mask.scanPlain (fun d inside => mem_singleton.mp inside ▸ sign.1)) ?_
    simp only [queryRule,map_cons,map_nil,mem_cons,not_mem_nil,or_false] at member
    rcases member with rfl | rfl | rfl
    · exact tokenQuiet takes
    · exact keyQuiet takes (by decide)
    · obtain ⟨u,v,rfl,before,token⟩ := @takesAppend _ (word "access" ++ [.maybe dash]) w (word "token=") takes
      exact quietAppend (keyQuiet before (by decide)) (tokenQuiet token)
  · refine Mask.scanPlain (fun d inside => ?_)
    rcases mem_cons.mp inside with rfl | later
    · exact sign.2
    · obtain ⟨p,piece,accepts⟩ := takesAccepted takes later
      have rejected : ∀ a ∈ queryRule.anchors, ∀ c ∈ ['b','B'], Rejects a.rest c := everyPair (by decide)
      intro b known
      cases mem_singleton.mp known
      refine Bool.eq_false_iff.mpr (fun folded => ?_)
      have among : d ∈ ['b','B'] := by simpa [folds] using folded
      exact Bool.false_ne_true ((rejected a member d among p piece).symm.trans accepts)

theorem readOther {letter other : Char} {qs : List (Piece Char)} (takes : Takes (.one (folds letter) :: ps) w)
    (apart : [letter,letter.toUpper,Char.ofNat 0x17F,Char.ofNat 0x212A].all (fun c => !folds other c) = true) (y : Text) :
    readPieces (.one (folds other) :: qs) (w ++ y) = none := by
  cases takes with
  | one folded _ => rw [cons_append,readPieces,if_neg (by rw [foldsApart folded apart]; decide)]

theorem queryReads (member : a ∈ queryRule.anchors) (first : a.first c = true) (takes : Takes a.rest w) (runs : queryRule.inRun d = true) (y : Text) :
    queryRule.reads c (w ++ d :: y) = some w.length := by
  have words (s : String) : Firm (word s) := by
    have ones := @firmOnes [] folds s.toList .nil
    rw [append_nil] at ones
    exact ones
  have key : Firm (.maybe dash :: word "key=") := .maybe (g := folds 'k') (fun c folded => foldsApart folded (by decide)) (words "key=")
  have token : Firm (.maybe dash :: word "token=") := .maybe (g := folds 't') (fun c folded => foldsApart folded (by decide)) (words "token=")
  simp only [queryRule,map_cons,map_nil,mem_cons,not_mem_nil,or_false] at member
  rcases member with rfl | rfl | rfl
  · exact Mask.readsFound (show queryRule.anchors = [] ++ _ :: _ from rfl) first (fun b none => by contradiction) (readFirm (words "token=") takes (d :: y)) runs
  · refine Mask.readsFound (show queryRule.anchors = [_] ++ _ :: _ from rfl) first (fun b only => ?_) (readFirm (firmOnes "api".toList key) takes (d :: y)) runs
    cases mem_singleton.mp only
    exact @readOther _ _ 'a' 't' _ takes (by decide) (d :: y)
  · refine Mask.readsFound (show queryRule.anchors = [_,_] ++ _ :: _ from rfl) first (fun b either => ?_) (readFirm (firmOnes "access".toList token) takes (d :: y)) runs
    rcases mem_cons.mp either with rfl | only
    · exact @readOther _ _ 'a' 't' _ takes (by decide) (d :: y)
    · cases mem_singleton.mp only
      have shape : Takes (.one (folds 'a') :: .one (folds 'c') :: (word "cess" ++ .maybe dash :: word "token=")) w := takes
      cases shape with
      | one folded next =>
        have second := @readOther _ _ 'c' 'p' (word "i" ++ .maybe dash :: word "key=") next (by decide) (d :: y)
        show readPieces (.one (folds 'a') :: .one (folds 'p') :: (word "i" ++ .maybe dash :: word "key=")) _ = none
        rw [cons_append,readPieces,if_pos folded,second]
        rfl

end

end VpnPack.Logredact
