import VpnPack.Logredact.Rules

/-! What the patterns make of a stretch that they come to as if the text began there: of it
nothing but stars is left exactly when it is made of stars and of keys the last pattern
takes. -/
namespace VpnPack.Logredact
open Base List

def Stars (t : Text) : Prop := ∀ c ∈ t, c = '*'

inductive Sealed : Text → Prop where
  | nil : Sealed []
  | star {t} (rest : Sealed t) : Sealed ('*' :: t)
  | key {k t} (length : k.length = 43) (chars : ∀ c ∈ k, base64 c = true) (rest : Sealed t) : Sealed (k ++ '=' :: t)

def keyChar (c : Char) : Bool := base64 c || c == '='

variable {c d e : Char} {k x y z q : Text} {n : Nat}

theorem keyHereSource (here : keyHere z = true) : ∃ k t, k.length = 43 ∧ (∀ c ∈ k, base64 c = true) ∧ z = k ++ '=' :: t := by
  obtain ⟨chars,ends⟩ := Bool.and_eq_true_iff.mp here
  have last : z[43]? = some '=' := eq_of_beq ends
  obtain ⟨long,same⟩ := List.getElem?_eq_some_iff.mp last
  refine ⟨z.take 43,z.drop 44,length_take_of_le (Nat.le_of_lt long),all_eq_true.mp chars,?_⟩
  rw [← same,← drop_eq_getElem_cons long,take_append_drop]

theorem keyHereKey (length : k.length = 43) (chars : ∀ c ∈ k, base64 c = true) (t : Text) : keyHere (k ++ '=' :: t) = true := by
  have first : (k ++ '=' :: t).take 43 = k := by rw [← length,take_left]
  have next : (k ++ '=' :: t)[43]? = some '=' := by rw [← length,getElem?_append_right (Nat.le_refl _),Nat.sub_self]; rfl
  rw [keyHere,first,next,all_eq_true.mpr chars]
  rfl

theorem keyHereFirst (other : base64 c = false) (t : Text) : keyHere (c :: t) = false := by
  rw [keyHere,take_succ_cons,all_cons,other]
  rfl

theorem keyCharOther (other : keyChar c = false) : base64 c = false := (Bool.or_eq_false_iff.mp other).1

theorem scanKeysSkip (x z y : Text) : scanKeys x.length (x ++ z) y = scanKeys 0 z y := by
  induction x with
  | nil => rfl
  | cons c x ih => exact ih

theorem scanKeysTaken (length : k.length = 43) (chars : ∀ c ∈ k, base64 c = true) (z y : Text) :
    scanKeys 0 (k ++ '=' :: z) y = (mark ++ (scanKeys 0 z y).1,(scanKeys 0 z y).2) := by
  cases k with
  | nil => contradiction
  | cons c k =>
    have here : keyHere (c :: (k ++ '=' :: z ++ y)) = true := by
      rw [append_assoc]
      exact keyHereKey length chars (z ++ y)
    have rest : scanKeys 43 (k ++ '=' :: z) y = scanKeys 0 z y := by
      have skip := scanKeysSkip (k ++ ['=']) z y
      rw [length_append,show k.length = 42 from Nat.succ.inj length,append_assoc] at skip
      exact skip
    rw [cons_append,scanKeys,if_pos here,rest]

theorem scanKeysOther (other : base64 c = false) (x y : Text) : scanKeys 0 (c :: x) y = (c :: (scanKeys 0 x y).1,(scanKeys 0 x y).2) := by
  rw [scanKeys,if_neg (by rw [keyHereFirst other]; decide)]

theorem scanKeysChars (inside : d ∈ (scanKeys n x y).1) : d ∈ x ∨ d ∈ mark := by
  induction x generalizing n with
  | nil =>
    rw [scanKeys] at inside
    contradiction
  | cons c x ih =>
    cases n with
    | succ n => exact (ih inside).imp_left (mem_cons_of_mem c)
    | zero =>
      rw [scanKeys] at inside
      split at inside
      · rcases mem_append.mp inside with marked | later
        · exact .inr marked
        · exact (ih later).imp_left (mem_cons_of_mem c)
      · rcases mem_cons.mp inside with rfl | later
        · exact .inl mem_cons_self
        · exact (ih later).imp_left (mem_cons_of_mem c)

theorem scanKeysAhead (ahead : ∀ c ∈ (x ++ y).take n, keyChar c = true) : ∀ c ∈ y.take (scanKeys n x y).2, keyChar c = true := by
  induction x generalizing n with
  | nil =>
    rw [scanKeys]
    exact ahead
  | cons c x ih =>
    cases n with
    | succ n => exact ih (fun d inside => ahead d (mem_cons_of_mem c inside))
    | zero =>
      rw [scanKeys]
      split
      · rename_i here
        refine ih (fun d inside => ?_)
        obtain ⟨k,t,length,chars,same⟩ := keyHereSource here
        have inKey : d ∈ k ++ ['='] := by
          have whole : (c :: (x ++ y)).take 44 = k ++ ['='] := by
            rw [same,take_append,length,take_of_length_le (by rw [length]; decide)]
            rfl
          rw [← whole]
          exact mem_cons_of_mem c inside
        rcases mem_append.mp inKey with body | last
        · rw [keyChar,chars d body]
          rfl
        · rw [mem_singleton.mp last]
          rfl
      · exact ih (fun d inside => by rw [take_zero] at inside; contradiction)

theorem scanKeysCalm (other : keyChar e = false) (x y : Text) : (scanKeys 0 x (e :: y)).2 = 0 := by
  have ahead := @scanKeysAhead x (e :: y) 0 (fun c inside => by rw [take_zero] at inside; contradiction)
  cases left : (scanKeys 0 x (e :: y)).2 with
  | zero => rfl
  | succ n =>
    rw [left] at ahead
    rw [ahead e mem_cons_self] at other
    contradiction

theorem scanKeysEnded (other : keyChar e = false) (x y : Text) : (scanKeys 0 (x ++ [e]) y).2 = 0 := by
  rw [scanKeysAppend,show [e] ++ y = e :: y from rfl,scanKeysCalm other,scanKeysOther (keyCharOther other)]
  rfl

theorem scanKeysShown (inside : e ∈ z) (other : keyChar e = false) : e ∈ (scanKeys 0 z y).1 := by
  obtain ⟨before,after,rfl⟩ := append_of_mem inside
  rw [scanKeysAppend,cons_append,scanKeysCalm other,scanKeysOther (keyCharOther other)]
  exact mem_append_right _ mem_cons_self

def Shut (y : Text) : Prop := ∀ c ∈ y.head?, keyChar c = false

theorem scanKeysStars (starry : Stars (scanKeys 0 z y).1) (shut : Shut y) : Sealed z := by
  induction length : z.length using Nat.strong_induction_on generalizing z with
  | _ n ih =>
    cases z with
    | nil => exact .nil
    | cons c x =>
      cases here : keyHere (c :: (x ++ y)) with
      | false =>
        rw [scanKeys,if_neg (by rw [here]; decide)] at starry
        cases starry c mem_cons_self
        exact .star (ih x.length (by rw [← length]; exact Nat.lt_succ_self _) (fun d inside => starry d (mem_cons_of_mem _ inside)) rfl)
      | true =>
        obtain ⟨k,t,long,chars,same⟩ := keyHereSource here
        have parts : (c :: x) ++ y = (k ++ ['=']) ++ t := by
          rw [append_assoc]
          exact same
        have rest : ∃ z', c :: x = k ++ '=' :: z' := by
          rcases append_eq_append_iff.mp parts with ⟨more,whole,beyond⟩ | ⟨z',whole,_⟩
          · cases more with
            | nil =>
              rw [append_nil] at whole
              exact ⟨[],whole.symm⟩
            | cons e more =>
              have other := shut e (by rw [beyond]; rfl)
              have inKey : e ∈ k ++ ['='] := by
                rw [whole]
                exact mem_append_right _ mem_cons_self
              rcases mem_append.mp inKey with body | last
              · rw [keyChar,chars e body] at other
                contradiction
              · rw [mem_singleton.mp last] at other
                contradiction
          · rw [append_assoc] at whole
            exact ⟨z',whole⟩
        obtain ⟨z',whole⟩ := rest
        rw [whole,scanKeysTaken long chars] at starry
        rw [whole] at length ⊢
        refine .key long chars (ih z'.length ?_ (fun d inside => starry d (mem_append_right _ inside)) rfl)
        rw [← length,length_append,length_cons]
        omega

theorem sealedStars (shut : Sealed z) (y : Text) : Stars (scanKeys 0 z y).1 := by
  induction shut with
  | nil =>
    intro c inside
    rw [scanKeys] at inside
    contradiction
  | star _ ih =>
    rw [scanKeysOther (by decide)]
    intro c inside
    rcases mem_cons.mp inside with same | later
    · exact same
    · exact ih c later
  | key length chars _ ih =>
    rw [scanKeysTaken length chars]
    intro c inside
    rcases mem_append.mp inside with marked | later
    · exact everyChar (p := (· = '*')) (by decide) c marked
    · exact ih c later

def masks : List (Mask Char) := [keyRule,bearerRule,queryRule,headerRule]
def tail (m : Mask Char) (z : Text × Text) : Text × Text := ((m.scan .plain z.1 z.2).1,(m.scan (m.scan .plain z.1 z.2).2 z.2 []).1)
def tails (ms : List (Mask Char)) (z : Text × Text) : Text × Text := ms.foldl (fun z m => tail m z) z
def SealedChar (c : Char) : Prop := keyChar c = true ∨ c = '*'

theorem sealedChars (shut : Sealed z) : ∀ c ∈ z, SealedChar c := by
  induction shut with
  | nil =>
    intro c inside
    contradiction
  | star _ ih =>
    intro c inside
    exact (mem_cons.mp inside).elim .inr (ih c)
  | key _ chars _ ih =>
    intro c inside
    rcases mem_append.mp inside with body | last
    · exact .inl (by rw [keyChar,chars c body]; rfl)
    · rcases mem_cons.mp last with rfl | later
      · exact .inl rfl
      · exact ih c later

theorem blankSource (isBlank : blank c = true) : c ∈ [9,10,12,13,32].map Char.ofNat := by
  have here : c.toNat ∈ [9,10,12,13,32] := contains_iff_mem.mp isBlank
  rw [← Char.ofNat_toNat c]
  exact mem_map_of_mem here

theorem masksTelltale : ∀ m ∈ masks, m.Telltale SealedChar := by
  have hidden (chars : List Char) (all : chars.all (fun c => !keyChar c && c != '*') = true) : ∀ c ∈ chars, ¬ SealedChar c := by
    intro c inside holds
    obtain ⟨other,star⟩ := Bool.and_eq_true_iff.mp (all_eq_true.mp all c inside)
    rcases holds with key | same
    · rw [key] at other
      contradiction
    · exact bne_iff_ne.mp star same
  have dash : ¬ SealedChar '-' := hidden ['-'] (by decide) '-' mem_cons_self
  have literal (s : String) (member : '-' ∈ s.toList) : ∃ f, .one f ∈ exactly s ∧ ∀ c, f c = true → ¬ SealedChar c :=
    ⟨_,mem_map_of_mem member,fun c same => by rw [eq_of_beq same]; exact dash⟩
  intro m member
  simp only [masks,mem_cons,not_mem_nil,or_false] at member
  rcases member with rfl | rfl | rfl | rfl
  · intro a inside
    obtain ⟨rest,known,rfl⟩ := mem_map.mp inside
    have dashed : ∀ rest ∈ ["skey-auth-","skey-client-","skey-api-"], '-' ∈ rest.toList := by decide
    exact .inr (literal rest (dashed rest known))
  · intro a inside
    cases mem_singleton.mp inside
    exact .inr ⟨blank,by simp,fun c isBlank => hidden _ (by decide) c (blankSource isBlank)⟩
  · intro a inside
    obtain ⟨rest,known,rfl⟩ := mem_map.mp inside
    refine .inl (fun c first => hidden ['?','&'] (by decide) c ?_)
    rcases Bool.or_eq_true_iff.mp first with same | same
    · rw [eq_of_beq same]
      decide
    · rw [eq_of_beq same]
      decide
  · intro a inside
    cases mem_singleton.mp inside
    refine .inr ⟨folds '-',by simp [word],fun c folded => ?_⟩
    have same : c = '-' := by
      simp only [folds,show '-'.toUpper = '-' from rfl,show ('-' == 's') = false from rfl,show ('-' == 'k') = false from rfl,
        Bool.false_and,Bool.or_false,Bool.or_self] at folded
      exact eq_of_beq folded
    rw [same]
    exact dash

structure Starry (m : Mask Char) : Prop where
  mark : m.mark = mark
  inner : m.Inner '*'
  unstarted : m.Unstarted '*'
  blank : m.inRun ' ' = false
  telltale : m.Telltale SealedChar

theorem masksStarry : ∀ m ∈ masks, Starry m := by
  intro m member
  have facts : ∀ m ∈ masks, m.mark = mark ∧ m.Inner '*' ∧ m.Unstarted '*' ∧ m.inRun ' ' = false := by decide
  obtain ⟨marks,inner,unstarted,blank⟩ := facts m member
  exact ⟨marks,inner,unstarted,blank,masksTelltale m member⟩

variable {m : Mask Char} {ms : List (Mask Char)} {mode : Mode}

theorem markStars : Stars mark := everyChar (by decide)

theorem scanStars (starry : Starry m) (stars : Stars x) : Stars (m.scan mode x y).1 := by
  intro c inside
  rcases Mask.scanChars inside with old | marked
  · exact stars c old
  · rw [starry.mark] at marked
    exact markStars c marked

theorem scanHead (calm : mode = .plain ∨ ∃ n, mode = .kept (n+1)) (q y : Text) : (m.scan mode q y).1.head? = q.head? := by
  cases q with
  | nil => rfl
  | cons c q =>
    have here : (m.step mode c (q ++ y)).1 = [c] := by
      rcases calm with rfl | ⟨n,rfl⟩
      · exact Mask.lookKeeps c _
      · rfl
    rw [Mask.scan]
    simp only [here]
    rfl

theorem tailsKept (starry : ∀ m ∈ ms, Starry m) (holds : ∀ c ∈ (tails ms (z,q)).1, SealedChar c) :
    (tails ms (z,q)).1 = z ∧ (tails ms (z,q)).2.head? = q.head? := by
  induction ms generalizing z q with
  | nil => exact ⟨rfl,rfl⟩
  | cons m ms ih =>
    have rest : tails (m :: ms) (z,q) = tails ms ((tail m (z,q)).1,(tail m (z,q)).2) := rfl
    rw [rest] at holds ⊢
    obtain ⟨same,head⟩ := ih (fun n inside => starry n (mem_cons_of_mem m inside)) holds
    rw [same] at holds ⊢
    obtain ⟨unchanged,calm⟩ := Mask.scanUnchanged (starry m mem_cons_self).telltale holds
    exact ⟨unchanged,head.trans (scanHead calm q [])⟩

theorem tailsChars (starry : ∀ m ∈ ms, Starry m) (holds : ∀ c ∈ z, SealedChar c) (q : Text) : ∀ c ∈ (tails ms (z,q)).1, SealedChar c := by
  induction ms generalizing z q with
  | nil => exact holds
  | cons m ms ih =>
    refine ih (fun n inside => starry n (mem_cons_of_mem m inside)) (fun c inside => ?_) _
    rcases Mask.scanChars inside with old | marked
    · exact holds c old
    · rw [(starry m mem_cons_self).mark] at marked
      exact .inr (markStars c marked)

theorem tailsRun {f : Char → Bool} (starry : ∀ m ∈ ms, Starry m) (star : f '*' = true) (some : z ≠ []) (runs : ∀ c ∈ z, f c = true) (q : Text) :
    ∃ d rest, (tails ms (z,q)).1 = d :: rest ∧ ∀ c ∈ d :: rest, f c = true := by
  induction ms generalizing z q with
  | nil =>
    obtain ⟨d,rest,rfl⟩ := exists_cons_of_ne_nil some
    exact ⟨d,rest,rfl,runs⟩
  | cons m ms ih =>
    refine ih (fun n inside => starry n (mem_cons_of_mem m inside)) (fun none => ?_) (fun c inside => ?_) (tail m (z,q)).2
    · have head := scanHead (m := m) (.inl rfl) z q
      rw [show (m.scan .plain z q).1 = [] from none] at head
      exact some (head?_eq_none_iff.mp head.symm)
    · rcases Mask.scanChars inside with old | marked
      · exact runs c old
      · rw [(starry m mem_cons_self).mark] at marked
        rw [markStars c marked,star]

theorem tailsSealed (starry : ∀ m ∈ ms, Starry m) (shut : Shut q) :
    Stars (scanKeys 0 (tails ms (z,q)).1 (tails ms (z,q)).2).1 ↔ Sealed z := by
  have shutAfter (head : (tails ms (z,q)).2.head? = q.head?) : Shut (tails ms (z,q)).2 := by
    intro c inside
    rw [head] at inside
    exact shut c inside
  constructor
  · intro stars
    have holds : ∀ c ∈ (tails ms (z,q)).1, SealedChar c := by
      intro c inside
      cases key : keyChar c with
      | true => exact .inl key
      | false => exact .inr (stars c (scanKeysShown inside key))
    obtain ⟨same,head⟩ := tailsKept starry holds
    have left := scanKeysStars stars (shutAfter head)
    rw [same] at left
    exact left
  · intro left
    obtain ⟨same,_⟩ := tailsKept starry (tailsChars starry (sealedChars left) q)
    rw [same]
    exact sealedStars left _

end VpnPack.Logredact
