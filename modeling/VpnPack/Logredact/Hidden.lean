import VpnPack.Logredact.Anchors

/-! A credential in a log line, and when its token is hidden. Every pattern after the first
works on what the ones before it have left. -/
namespace VpnPack.Logredact
open Base List

variable {c d e : Char} {a b p q t x y z : Text} {m last : Mask Char} {ms rs : List (Mask Char)}

def hidden (ms : List (Mask Char)) (t : Cut) : Text := (keysCut (ms.foldl (fun t m => maskCut m t) t)).within

theorem starsStay {t : Cut} (starry : ∀ m ∈ ms, Starry m) (stars : Stars t.within) : Stars (hidden ms t) := by
  induction ms generalizing t with
  | nil =>
    intro c inside
    exact (scanKeysChars inside).elim (stars c) (markStars c)
  | cons m ms ih => exact ih (fun n inside => starry n (mem_cons_of_mem m inside)) (scanStars (starry m mem_cons_self) stars)

theorem starsAppend : Stars (x ++ z) ↔ Stars x ∧ Stars z := forall_mem_append

theorem starsFront (starry : ∀ m ∈ ms, Starry m) (stars : Stars x) : Stars (hidden ms ⟨b,x ++ z,q⟩) ↔ Stars (hidden ms ⟨b ++ x,z,q⟩) := by
  induction ms generalizing b x z q with
  | nil =>
    have first : Stars (scanKeys (scanKeys 0 b (x ++ (z ++ q))).2 x (z ++ q)).1 := by
      intro c inside
      exact (scanKeysChars inside).elim (stars c) (markStars c)
    simp only [hidden,foldl_nil,keysCut,scanKeysAppend,starsAppend,append_assoc]
    exact and_iff_right first
  | cons m ms ih =>
    have rest := ih (b := (m.scan .plain b (x ++ z ++ q)).1) (z := (m.scan (m.scan (m.scan .plain b (x ++ z ++ q)).2 x (z ++ q)).2 z q).1)
      (q := (m.scan (m.scan (m.scan (m.scan .plain b (x ++ z ++ q)).2 x (z ++ q)).2 z q).2 q []).1)
      (fun n inside => starry n (mem_cons_of_mem m inside)) (@scanStars x (z ++ q) m (m.scan .plain b (x ++ z ++ q)).2 (starry m mem_cons_self) stars)
    simp only [hidden,foldl_cons,maskCut,Mask.scanAppend,append_assoc] at rest ⊢
    exact rest

/- A text behind which every pattern finds itself with nothing begun. -/
def Calm : List (Mask Char) → Text → Prop
  | [],b => ∀ y, (scanKeys 0 b y).2 = 0
  | m :: ms,b => ∀ y, (m.scan .plain b y).2 = .plain ∧ Calm ms (m.scan .plain b y).1

theorem calmHidden (calm : Calm ms b) (z q : Text) : hidden ms ⟨b,z,q⟩ = (scanKeys 0 (tails ms (z,q)).1 (tails ms (z,q)).2).1 := by
  induction ms generalizing b z q with
  | nil => simp only [hidden,foldl_nil,keysCut,calm (z ++ q),tails]
  | cons m ms ih =>
    obtain ⟨plain,rest⟩ := calm (z ++ q)
    have later := ih rest (tail m (z,q)).1 (tail m (z,q)).2
    simp only [hidden,foldl_cons,maskCut,plain,tails,tail] at later ⊢
    exact later

def Fenced (ms : List (Mask Char)) (b : Text) : Prop :=
  ∃ u d v w, b = u ++ (d :: v ++ ' ' :: w) ∧ (∀ m ∈ ms, m.Inner d ∧ ∀ c ∈ d :: v ++ ' ' :: w, m.Unstarted c) ∧ Stars w

theorem fencedCalm (starry : ∀ m ∈ ms, Starry m) (fenced : Fenced ms b) : Calm ms b := by
  induction ms generalizing b with
  | nil =>
    obtain ⟨u,d,v,w,rfl,_,stars⟩ := fenced
    intro y
    rcases eq_nil_or_concat' w with rfl | ⟨w,e,rfl⟩
    · rw [← append_assoc]
      exact scanKeysEnded (by decide) _ y
    · have same : u ++ (d :: v ++ ' ' :: (w ++ [e])) = u ++ (d :: v ++ ' ' :: w) ++ [e] := by simp only [append_assoc,cons_append]
      cases stars e (mem_append_right _ mem_cons_self)
      rw [same]
      exact scanKeysEnded (by decide) _ y
  | cons m ms ih =>
    obtain ⟨u,d,v,w,rfl,passes,stars⟩ := fenced
    have later := fun n inside => starry n (mem_cons_of_mem m inside)
    obtain ⟨inner,unstarted⟩ := passes m mem_cons_self
    have here := starry m mem_cons_self
    intro y
    obtain ⟨u',v',suffix,same | same⟩ := Mask.scanFenced inner unstarted here.blank u y
    · rw [same]
      exact ⟨rfl,ih later ⟨u',d,v,w,append_assoc _ _ _,fun n inside => passes n (mem_cons_of_mem m inside),stars⟩⟩
    · rw [same,here.mark]
      refine ⟨rfl,ih later ⟨u' ++ ['*','*'],'*',v',w,?_,fun n inside => ⟨(later n inside).inner,?_⟩,stars⟩⟩
      · simp only [mark,append_assoc]
        rfl
      · intro c within
        rcases mem_cons.mp within with rfl | rest
        · exact (later n inside).unstarted
        · refine (passes n (mem_cons_of_mem m inside)).2 c (mem_cons_of_mem d ?_)
          rcases mem_append.mp rest with first | second
          · exact mem_append_left _ (suffix.subset first)
          · exact mem_append_right _ second

theorem calmSealed (starry : ∀ m ∈ ms, Starry m) (calm : Calm ms b) (shut : Shut q) (z : Text) : Stars (hidden ms ⟨b,z,q⟩) ↔ Sealed z := by
  rw [calmHidden calm]
  exact tailsSealed starry shut

/- The patterns one after the other on what stands before the anchor: whether the anchor's first
character falls to one of them. -/
def swallows : List (Mask Char) → Text → Char → Bool
  | [],_,_ => false
  | m :: ms,p,c => m.hides p c || swallows ms (m.scan .plain p [c]).1 c

structure Breaks (m : Mask Char) (c : Char) (a : Text) : Prop where
  inner : m.Inner c
  left : a.dropWhile m.inRun = [':',' '] ∨ a.dropWhile m.inRun = [' ']

theorem hiddenCalm (here : m ∈ masks) (later : ∀ m ∈ ms, m ∈ masks) (breaks : Breaks m c a) (hides : m.hides p c = true) (y : Text) :
    (m.scan .plain (p ++ c :: a) y).2 = .plain ∧ Calm ms (m.scan .plain (p ++ c :: a) y).1 := by
  have fixed : ∀ m ∈ masks, ∀ c ∈ [':',' '], m.Unstarted c := everyPair (by decide)
  have starry := fun n inside => masksStarry n (later n inside)
  have runs : ∀ d ∈ a.takeWhile m.inRun, m.inRun d = true := fun d inside => mem_takeWhile_imp inside
  have ends := head?_dropWhile_not m.inRun a
  have parts := takeWhile_append_dropWhile (p := m.inRun) (l := a)
  have unstarted : ∀ n ∈ ms, ∀ v, v ⊆ [':'] → ∀ c ∈ '*' :: v ++ ' ' :: [], n.Unstarted c := by
    intro n inside v only c within
    rcases mem_cons.mp within with rfl | rest
    · exact (starry n inside).unstarted
    · refine fixed n (later n inside) c ?_
      rcases mem_append.mp rest with first | second
      · exact mem_append_left [' '] (only first)
      · exact mem_append_right [':'] second
  have guard (u v : Text) (only : v ⊆ [':']) : Calm ms (u ++ mark ++ (v ++ [' '])) := by
    refine fencedCalm starry ⟨u ++ ['*','*'],'*',v,[],?_,fun n inside => ⟨(starry n inside).inner,unstarted n inside v only⟩,fun c none => absurd none not_mem_nil⟩
    simp only [mark,append_assoc]
    rfl
  rw [← parts]
  rcases breaks.left with left | left
  · rw [left] at ends ⊢
    obtain ⟨u,out⟩ := Mask.scanHidden breaks.inner hides runs ends (fixed m here) y
    rw [← cons_append,out,(masksStarry m here).mark]
    exact ⟨rfl,guard u [':'] (List.Subset.refl _)⟩
  · rw [left] at ends ⊢
    obtain ⟨u,out⟩ := Mask.scanHidden breaks.inner hides runs ends (fun d inside => fixed m here d (mem_append_right [':'] inside)) y
    rw [← cons_append,out,(masksStarry m here).mark]
    exact ⟨rfl,guard u [] (nil_subset _)⟩

theorem swallowedCalm (swallowed : swallows (rs ++ [last]) p c = true) (known : ∀ m ∈ rs ++ last :: ms, m ∈ masks)
    (breaks : ∀ m ∈ rs ++ [last], Breaks m c a) (quiet : ∀ m ∈ rs, Quiet m (c :: a)) : Calm (rs ++ last :: ms) (p ++ c :: a) := by
  induction rs generalizing p with
  | nil =>
    have hides : last.hides p c = true := (Bool.or_eq_true_iff.mp swallowed).resolve_right Bool.false_ne_true
    exact hiddenCalm (known last mem_cons_self) (fun n inside => known n (mem_cons_of_mem last inside)) (breaks last mem_cons_self) hides
  | cons m rs ih =>
    have rest := fun n inside => known n (mem_cons_of_mem m inside)
    cases hides : m.hides p c with
    | true => exact hiddenCalm (known m mem_cons_self) rest (breaks m mem_cons_self) hides
    | false =>
      rw [cons_append,swallows,hides,Bool.false_or] at swallowed
      intro y
      rw [Mask.scanShown (breaks m mem_cons_self).inner hides,quiet m mem_cons_self]
      exact ⟨rfl,ih swallowed rest (fun n inside => breaks n (mem_cons_of_mem m inside)) (fun n inside => quiet n (mem_cons_of_mem m inside))⟩

def passed (rs : List (Mask Char)) (p : Text) (c : Char) : Text := rs.foldl (fun p m => (m.scan .plain p [c]).1) p

theorem swallowsLast (rs : List (Mask Char)) (last : Mask Char) (p : Text) (c : Char) :
    swallows (rs ++ [last]) p c = (swallows rs p c || last.hides (passed rs p c) c) := by
  induction rs generalizing p with
  | nil => exact Bool.or_comm _ _
  | cons m rs ih => rw [cons_append,swallows,swallows,ih,Bool.or_assoc]; rfl

theorem shownPasses (shown : swallows rs p c = false) (inner : ∀ m ∈ rs, m.Inner c) (quiet : ∀ m ∈ rs, Quiet m (c :: a)) (z q : Text) :
    rs.foldl (fun t m => maskCut m t) ⟨p ++ c :: a,z,q⟩ = ⟨passed rs p c ++ c :: a,(tails rs (z,q)).1,(tails rs (z,q)).2⟩ := by
  induction rs generalizing p z q with
  | nil => rfl
  | cons m rs ih =>
    obtain ⟨hides,later⟩ := Bool.or_eq_false_iff.mp shown
    have pass : maskCut m ⟨p ++ c :: a,z,q⟩ = ⟨(m.scan .plain p [c]).1 ++ c :: a,(tail m (z,q)).1,(tail m (z,q)).2⟩ := by
      rw [maskCut,Mask.scanShown (inner m mem_cons_self) hides,quiet m mem_cons_self]
      rfl
    rw [foldl_cons,pass]
    exact ih later (fun n inside => inner n (mem_cons_of_mem m inside)) (fun n inside => quiet n (mem_cons_of_mem m inside)) _ _

theorem cutShown (inner : m.Inner c) (shows : m.hides p c = false) (reads : m.reads c (a ++ (z ++ q)) = some a.length) :
    maskCut m ⟨p ++ c :: a,z,q⟩ = ⟨(m.scan .plain p [c]).1 ++ c :: a,(m.scan (.kept 0) z q).1,(m.scan (m.scan (.kept 0) z q).2 q []).1⟩ := by
  rw [maskCut,Mask.scanShown inner shows,Mask.scanAnchor reads]

theorem shownStars (starry : Starry m) (inner : m.Inner c) (shows : m.hides p c = false) (reads : m.reads c (a ++ (d :: z ++ q)) = some a.length)
    (runs : ∀ e ∈ d :: z, m.inRun e = true) : Stars (maskCut m ⟨p ++ c :: a,d :: z,q⟩).within := by
  rw [cutShown inner shows reads,Mask.scanOpens (fun e inside => runs e (mem_cons_of_mem d inside)),starry.mark]
  exact markStars

theorem anchorHides (starry : Starry m) (clears : m.Clears (c :: (a ++ (d :: z ++ q)))) (within : m.inRun c = true → ∀ d ∈ a, m.inRun d = true)
    (reads : m.reads c (a ++ (d :: z ++ q)) = some a.length) (runs : ∀ e ∈ d :: z, m.inRun e = true) (p : Text) :
    Stars (maskCut m ⟨p ++ c :: a,d :: z,q⟩).within := by
  have ended : (m.scan .plain (p ++ c :: a) (d :: z ++ q)).2 = .kept 0 ∨ (m.scan .plain (p ++ c :: a) (d :: z ++ q)).2 = .masked := by
    have read : (m.scan .plain (c :: a) (d :: z ++ q)).2 = .kept 0 := by rw [Mask.scanAnchor reads]
    rw [Mask.scanAppend,cons_append]
    rcases Mask.scanModes clears p with plain | ⟨opens,begun⟩ | masked
    · left
      rw [plain,read]
    · right
      rw [begun,Mask.scanOpens (within opens)]
    · rw [masked]
      cases ends : m.inRun c with
      | false =>
        left
        rw [Mask.scanEnded ends,read]
      | true =>
        right
        have all : ∀ d ∈ c :: a, m.inRun d = true := forall_mem_cons.mpr ⟨ends,within ends⟩
        rw [Mask.scanMasked all]
  rcases ended with opens | masked
  · rw [maskCut,opens,Mask.scanOpens (fun e inside => runs e (mem_cons_of_mem d inside)),starry.mark]
    exact markStars
  · rw [maskCut,masked,Mask.scanMasked runs]
    intro e inside
    contradiction

inductive Credential where
  | bearer
  | query (sign : Char) (name : Text)
  | apiKey
  | authKey

def Credential.anchor : Credential → Text
  | .bearer => "Bearer ".toList
  | .query sign name => sign :: name
  | .apiKey => "X-API-Key: ".toList
  | .authKey => "tskey-auth-".toList

def Credential.inToken : Credential → Char → Bool
  | .bearer => tokenChar
  | .query _ _ => queryRule.inRun
  | .apiKey => headerRule.inRun
  | .authKey => keyRule.inRun

def Credential.Known : Credential → Prop
  | .query sign name => ∃ a ∈ queryRule.anchors, a.first sign = true ∧ Takes a.rest name
  | _ => True

structure Credential.Stands (k : Credential) (t q : Text) : Prop where
  known : k.Known
  some : t ≠ []
  chars : ∀ c ∈ t, k.inToken c = true
  whole : ∀ c ∈ q.head?, k.inToken c = false

/- When nothing of the token is left: where the anchor is taken by an earlier run, and behind the first
key of a bearer token, only stars and the keys of the last pattern may stand. -/
def Credential.Spared (p t : Text) : Credential → Prop
  | .bearer => if swallows [keyRule,bearerRule] p 'B' then Sealed t else Sealed (keyRule.afterRun t)
  | .apiKey => swallows masks p 'X' = true → Sealed t
  | _ => True

theorem laterStarry (k : Nat) : ∀ m ∈ masks.drop k, Starry m := fun m inside => masksStarry m (mem_of_mem_drop inside)

theorem authKeyHidden (stands : Credential.authKey.Stands t q) (p : Text) : Stars (redactCut ⟨p ++ "tskey-auth-".toList,t,q⟩).within := by
  obtain ⟨d,t,rfl⟩ := exists_cons_of_ne_nil stands.some
  have first : Stars (maskCut keyRule ⟨p ++ 't' :: "skey-auth-".toList,d :: t,q⟩).within :=
    anchorHides (masksStarry keyRule mem_cons_self) (keyClears _) (fun _ => everyChar (by decide)) (keyReads (stands.chars d mem_cons_self) _) stands.chars p
  exact @starsStay (masks.drop 1) _ (laterStarry 1) first

theorem queryHidden {sign : Char} {name : Text} (stands : (Credential.query sign name).Stands t q) (p : Text) :
    Stars (redactCut ⟨p ++ sign :: name,t,q⟩).within := by
  obtain ⟨⟨a,member,first,takes⟩,some,chars,_⟩ := stands
  have signs : ∀ c ∈ ['?','&'], (∀ m ∈ [keyRule,bearerRule], m.inRun c = false ∧ m.Inner c) ∧ queryRule.Inner c := everyChar (by decide)
  obtain ⟨outside,inner⟩ := signs sign (by rcases querySigns member first with rfl | rfl <;> decide)
  obtain ⟨quietKey,quietBearer⟩ := queryQuiet member first takes
  have shown : swallows [keyRule,bearerRule] p sign = false := by
    simp only [swallows,Mask.hides,(outside keyRule mem_cons_self).1,(outside bearerRule (mem_cons_of_mem _ mem_cons_self)).1,
      Bool.false_and,Bool.or_self]
  have quiet : ∀ m ∈ [keyRule,bearerRule], Quiet m (sign :: name) := forall_mem_cons.mpr ⟨quietKey,forall_mem_singleton.mpr quietBearer⟩
  have passes := shownPasses shown (fun m inside => (outside m inside).2) quiet t q
  obtain ⟨d,rest,left,runs⟩ := @tailsRun t [keyRule,bearerRule] queryRule.inRun (fun m inside => masksStarry m (mem_append_left [queryRule,headerRule] inside))
    (by decide) some chars q
  show Stars (hidden [queryRule,headerRule] ([keyRule,bearerRule].foldl (fun t m => maskCut m t) ⟨p ++ sign :: name,t,q⟩))
  rw [passes,left]
  exact @starsStay [headerRule] _ (laterStarry 3) (anchorHides (laterStarry 2 queryRule mem_cons_self) (Mask.innerClears inner _)
    (fun _ => queryRuns member takes) (queryReads member first takes (runs d mem_cons_self) _) runs _)

theorem keyCharToken (other : tokenChar c = false) : keyChar c = false := by
  obtain ⟨plain,special⟩ := Bool.or_eq_false_iff.mp other
  have apart (d : Char) (known : d ∈ "._~+/=-".toList) : (c == d) = false := by
    refine beq_eq_false_iff_ne.mpr (fun same => ?_)
    rw [same,contains_iff_mem.mpr known] at special
    contradiction
  rw [keyChar,base64,plain,apart '+' (by decide),apart '/' (by decide),apart '=' (by decide)]
  rfl

theorem keyCharHeader (other : headerRule.inRun c = false) : keyChar c = false := by
  have outside : ∀ c ∈ [9,10,12,13,32,34,39,44,125].map Char.ofNat, keyChar c = false := everyChar (by decide)
  have known (n : Nat) (listed : n ∈ [9,10,12,13,32,34,39,44,125]) (same : c.toNat = n) : keyChar c = false := by
    refine outside c ?_
    rw [← Char.ofNat_toNat c,same]
    exact mem_map_of_mem listed
  simp only [headerRule,Bool.and_eq_false_iff,Bool.not_eq_false',bne_eq_false_iff_eq] at other
  rcases other with ((isBlank | quoted) | comma) | brace
  · exact known c.toNat (mem_append_left [34,39,44,125] (contains_iff_mem.mp isBlank)) rfl
  · rcases Bool.or_eq_true_iff.mp quoted with same | same
    · exact known 34 (by decide) (by rw [eq_of_beq same]; rfl)
    · exact known 39 (by decide) (eq_of_beq same)
  · exact known 44 (by decide) (by rw [comma]; rfl)
  · exact known 125 (by decide) brace

theorem apiKeyHidden (stands : Credential.apiKey.Stands t q) (p : Text) :
    Stars (redactCut ⟨p ++ "X-API-Key: ".toList,t,q⟩).within ↔ (swallows masks p 'X' = true → Sealed t) := by
  have passing : ∀ m ∈ masks, m.Inner 'X' ∧ ("-API-Key: ".toList.dropWhile m.inRun = [':',' '] ∨ "-API-Key: ".toList.dropWhile m.inRun = [' ']) := by decide
  have unstarted : ∀ m ∈ [keyRule,bearerRule,queryRule], ∀ c ∈ "X-API-Key: ".toList, m.Unstarted c := everyPair (by decide)
  have quiet : ∀ m ∈ [keyRule,bearerRule,queryRule], Quiet m ('X' :: "-API-Key: ".toList) := fun m inside => Mask.scanPlain (unstarted m inside)
  cases swallowed : swallows masks p 'X' with
  | true =>
    have calm : Calm masks (p ++ 'X' :: "-API-Key: ".toList) :=
      @swallowedCalm 'X' "-API-Key: ".toList p headerRule [] [keyRule,bearerRule,queryRule] swallowed (fun m inside => inside)
        (fun m inside => ⟨(passing m inside).1,(passing m inside).2⟩) quiet
    refine (calmSealed masksStarry calm (fun c first => keyCharHeader (stands.whole c first)) t).trans ?_
    exact ⟨fun shut _ => shut,fun shut => shut rfl⟩
  | false =>
    refine iff_of_true ?_ Bool.false_ne_true.elim
    have last := swallowsLast [keyRule,bearerRule,queryRule] headerRule p 'X'
    rw [show [keyRule,bearerRule,queryRule] ++ [headerRule] = masks from rfl,swallowed] at last
    obtain ⟨shown,shows⟩ := Bool.or_eq_false_iff.mp last.symm
    have passes := shownPasses shown (fun m inside => (passing m (mem_append_left [headerRule] inside)).1) quiet t q
    obtain ⟨d,rest,left,runs⟩ := @tailsRun t [keyRule,bearerRule,queryRule] headerRule.inRun (fun m inside => masksStarry m (mem_append_left [headerRule] inside))
      (by decide) stands.some stands.chars q
    have starry : Starry headerRule := laterStarry 3 headerRule mem_cons_self
    have inner : headerRule.Inner 'X' := (passing headerRule (mem_append_right [keyRule,bearerRule,queryRule] mem_cons_self)).1
    show Stars (hidden [headerRule] ([keyRule,bearerRule,queryRule].foldl (fun t m => maskCut m t) ⟨p ++ 'X' :: "-API-Key: ".toList,t,q⟩))
    rw [passes,left]
    exact @starsStay [] _ (laterStarry 4) (shownStars starry inner shows (headerReads (runs d mem_cons_self) _) runs)

theorem tokenClosed (whole : ∀ c ∈ q.head?, tokenChar c = false) : keyRule.Closed q := by
  have letters : ∀ s ∈ ["skey-auth-","skey-client-","skey-api-"], ∀ c ∈ s.toList, tokenChar c = true := by
    have all : ∀ s ∈ ["skey-auth-","skey-client-","skey-api-"], s.toList.all (fun c => decide (tokenChar c = true)) = true := by decide
    exact fun s known => everyChar (all s known)
  intro c first
  have outside := whole c first
  refine ⟨fun a member p piece => ?_,?_⟩
  · obtain ⟨s,known,rfl⟩ := mem_map.mp member
    obtain ⟨letter,inside,rfl⟩ := mem_map.mp piece
    refine beq_eq_false_iff_ne.mpr (fun same => ?_)
    rw [same,letters s known letter inside] at outside
    exact Bool.false_ne_true outside.symm
  · obtain ⟨plain,special⟩ := Bool.or_eq_false_iff.mp outside
    refine Bool.or_eq_false_iff.mpr ⟨plain,beq_eq_false_iff_ne.mpr (fun same => ?_)⟩
    rw [same] at special
    exact absurd special (by decide)

theorem bearerPass (runs : ∀ e ∈ d :: x, bearerRule.inRun e = true) (z q : Text) : bearerRule.scan (.kept 0) (d :: x ++ (mark ++ z)) q =
    (mark ++ mark ++ (bearerRule.scan .plain z q).1,(bearerRule.scan .plain z q).2) := by
  have unstarted : ∀ c ∈ mark, bearerRule.Unstarted c := everyChar (by decide)
  have stars (y : Text) : bearerRule.scan .masked mark y = (mark,.plain) :=
    (Mask.scanEnded (m := bearerRule) (c := '*') (by decide) ['*','*'] y).trans (Mask.scanPlain unstarted y)
  rw [Mask.scanAppend,Mask.scanOpens (fun e inside => runs e (mem_cons_of_mem d inside)),Mask.scanAppend _ mark,stars]
  simp only [append_assoc]
  rfl

theorem bearerRest (shut : Shut q) (ends : ∀ c ∈ z.head?, keyRule.inRun c = false) (b : Text) :
    Stars (hidden [queryRule,headerRule] ⟨b ++ "Bearer ".toList,mark ++ mark ++ (tail bearerRule ((keyRule.scan .masked z q).1,
      (keyRule.scan (keyRule.scan .masked z q).2 q []).1)).1,(tail bearerRule ((keyRule.scan .masked z q).1,
      (keyRule.scan (keyRule.scan .masked z q).2 q []).1)).2⟩) ↔ Sealed z := by
  have starry := laterStarry 2
  have doubled : Stars (mark ++ mark) := starsAppend.mpr ⟨markStars,markStars⟩
  cases z with
  | nil => exact iff_of_true (starsStay starry doubled) .nil
  | cons e z =>
    have inner : ∀ m ∈ [queryRule,headerRule], m.Inner 'r' := by decide
    have unstarted : ∀ m ∈ [queryRule,headerRule], ∀ c ∈ 'r' :: [] ++ ' ' :: (mark ++ mark), m.Unstarted c := everyPair (by decide)
    have fence : Fenced [queryRule,headerRule] (b ++ "Bearer ".toList ++ (mark ++ mark)) :=
      ⟨b ++ "Beare".toList,'r',[],mark ++ mark,by simp only [append_assoc]; rfl,fun m inside => ⟨inner m inside,unstarted m inside⟩,doubled⟩
    rw [Mask.scanEnded (ends e rfl)]
    refine (starsFront starry doubled).trans ?_
    rw [calmHidden (fencedCalm starry fence)]
    exact @tailsSealed (e :: z) q masks masksStarry shut

theorem bearerHidden (stands : Credential.bearer.Stands t q) (p : Text) : Stars (redactCut ⟨p ++ "Bearer ".toList,t,q⟩).within ↔
    if swallows [keyRule,bearerRule] p 'B' then Sealed t else Sealed (keyRule.afterRun t) := by
  have shut : Shut q := fun c first => keyCharToken (stands.whole c first)
  have passing : ∀ m ∈ [keyRule,bearerRule], m.Inner 'B' ∧ "earer ".toList.dropWhile m.inRun = [' '] := by decide
  have unstarted : ∀ c ∈ "Bearer ".toList, keyRule.Unstarted c := everyChar (by decide)
  have quiet : ∀ m ∈ [keyRule], Quiet m ('B' :: "earer ".toList) := forall_mem_singleton.mpr (Mask.scanPlain unstarted)
  have runs : ∀ c ∈ t, bearerRule.inRun c = true := by
    intro c inside
    have token : tokenChar c = true := stands.chars c inside
    simp only [bearerRule,token,Bool.true_or]
  cases swallowed : swallows [keyRule,bearerRule] p 'B' with
  | true =>
    have calm : Calm masks (p ++ 'B' :: "earer ".toList) :=
      @swallowedCalm 'B' "earer ".toList p bearerRule [queryRule,headerRule] [keyRule] swallowed (fun m inside => inside)
        (fun m inside => ⟨(passing m inside).1,.inr (passing m inside).2⟩) quiet
    rw [if_pos rfl]
    exact calmSealed masksStarry calm shut t
  | false =>
    rw [if_neg Bool.false_ne_true]
    have last := swallowsLast [keyRule] bearerRule p 'B'
    rw [show [keyRule] ++ [bearerRule] = [keyRule,bearerRule] from rfl,swallowed] at last
    obtain ⟨shown,shows⟩ := Bool.or_eq_false_iff.mp last.symm
    have passes := shownPasses shown (fun m inside => (passing m (mem_append_left [bearerRule] inside)).1) quiet t q
    have inner : bearerRule.Inner 'B' := (passing bearerRule (mem_cons_of_mem keyRule mem_cons_self)).1
    show Stars (hidden [bearerRule,queryRule,headerRule] ([keyRule].foldl (fun t m => maskCut m t) ⟨p ++ 'B' :: "earer ".toList,t,q⟩)) ↔ _
    rw [passes]
    rcases Mask.firstRun (tokenClosed stands.whole) t with ⟨same,none⟩ | ⟨h,w,run⟩
    · have left : (tails [keyRule] (t,q)).1 = t := congrArg Prod.fst same
      rw [left,none]
      refine iff_of_true ?_ .nil
      obtain ⟨d,t,rfl⟩ := exists_cons_of_ne_nil stands.some
      exact @starsStay [queryRule,headerRule] _ (laterStarry 2) (shownStars (laterStarry 1 bearerRule mem_cons_self) inner shows
        (bearerReads (runs d mem_cons_self) _) runs)
    · have left : tails [keyRule] (t,q) = (h ++ (mark ++ (keyRule.scan .masked (keyRule.afterRun t) q).1),
          (keyRule.scan (keyRule.scan .masked (keyRule.afterRun t) q).2 q []).1) := by
        show tail keyRule (t,q) = _
        rw [tail,run.scanned]
        rfl
      obtain ⟨d,h,rfl⟩ : ∃ d h', h = d :: h' := by
        cases h with
        | nil =>
          have never : Mode.plain = .kept 0 := congrArg Prod.snd run.kept
          cases never
        | cons d h => exact ⟨d,h,rfl⟩
      have word : ∀ c ∈ d :: h, bearerRule.inRun c = true := by
        intro c inside
        refine runs c ?_
        rw [run.whole,append_assoc]
        exact mem_append_left _ inside
      rw [left]
      show Stars (hidden [queryRule,headerRule] (maskCut bearerRule _)) ↔ _
      rw [cutShown inner shows (bearerReads (word d mem_cons_self) _),bearerPass word]
      exact bearerRest shut run.ends _

theorem credentialHidden (k : Credential) (p t q : Text) (stands : k.Stands t q) :
    redactString (p ++ k.anchor ++ t ++ q) = (redactCut ⟨p ++ k.anchor,t,q⟩).whole ∧
    ((∀ c ∈ (redactCut ⟨p ++ k.anchor,t,q⟩).within, c = '*') ↔ k.Spared p t) ∧
    ∀ (a : Attr) (i : Nat), (texts a)[i]? = some (p ++ k.anchor ++ t ++ q) →
      (texts (redactAttr a))[i]? = some (redactCut ⟨p ++ k.anchor,t,q⟩).whole := by
  have whole : redactString (p ++ k.anchor ++ t ++ q) = (redactCut ⟨p ++ k.anchor,t,q⟩).whole := by
    rw [redactCutWhole,Cut.whole,← append_assoc]
  refine ⟨whole,?_,fun a i here => ?_⟩
  · cases k with
    | bearer => exact bearerHidden stands p
    | query sign name => exact iff_of_true (queryHidden stands p) trivial
    | apiKey => exact apiKeyHidden stands p
    | authKey => exact iff_of_true (authKeyHidden stands p) trivial
  · rw [textsRedacted,getElem?_map,here,Option.map_some,whole]

theorem credentialHiddenAlone : Credential.bearer.Stands "a.b".toList [] ∧ ∀ c ∈ (redactCut ⟨"Bearer ".toList,"a.b".toList,[]⟩).within, c = '*' := by
  have stands : Credential.bearer.Stands "a.b".toList [] := ⟨trivial,by decide,everyChar (by decide),fun c none => by contradiction⟩
  refine ⟨stands,(credentialHidden .bearer [] "a.b".toList [] stands).2.1.mpr ?_⟩
  have spared : Credential.bearer.Spared [] "a.b".toList = Sealed [] := by
    rw [Credential.Spared,show swallows [keyRule,bearerRule] [] 'B' = false by decide,show keyRule.afterRun "a.b".toList = [] by decide]
    exact if_neg Bool.false_ne_true
  rw [spared]
  exact .nil

theorem tokenLeftInSight : (Credential.bearer.Stands "abctskey-auth-x.secret".toList [] ∧
      redactString "Bearer abctskey-auth-x.secret".toList = "Bearer ******.secret".toList ∧
      (redactCut ⟨"Bearer ".toList,"abctskey-auth-x.secret".toList,[]⟩).within = "******.secret".toList) ∧
    Credential.apiKey.Stands "secret".toList [] ∧ redactString "Bearer X-API-Key: secret".toList = "Bearer ***: secret".toList ∧
      (redactCut ⟨"Bearer X-API-Key: ".toList,"secret".toList,[]⟩).within = "secret".toList := by
  have bearer : Credential.bearer.Stands "abctskey-auth-x.secret".toList [] := ⟨trivial,by decide,everyChar (by decide),fun c none => by contradiction⟩
  have header : Credential.apiKey.Stands "secret".toList [] := ⟨trivial,by decide,everyChar (by decide),fun c none => by contradiction⟩
  exact ⟨⟨bearer,by decide +kernel⟩,header,by decide +kernel⟩

end VpnPack.Logredact
