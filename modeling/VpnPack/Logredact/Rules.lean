import VpnPack.Base.Mask
import VpnPack.Base.Text

/-! Package logredact: the table of patterns, the texts it is applied to, and what becomes of one
stretch of a text. The replacement of a pattern keeps its first group, the anchor, and puts
"***" for the run behind it; only the last pattern has no anchor. A string is taken as its
characters, so one that is not UTF-8 is not covered, and an attribute holds what Resolve makes of
its value. -/
namespace VpnPack.Logredact
open Base List

abbrev Text := List Char

-- \s
def blank (c : Char) : Bool := [9,10,12,13,32].contains c.toNat

-- A letter under (?i): the long s and the kelvin sign fold to s and k.
def folds (letter c : Char) : Bool :=
  c == letter || c == letter.toUpper || (letter == 's' && c.toNat == 0x17F) || (letter == 'k' && c.toNat == 0x212A)

def word (s : String) : List (Piece Char) := s.toList.map (fun letter => .one (folds letter))
def exactly (s : String) : List (Piece Char) := s.toList.map (fun letter => .one (· == letter))
def quote (c : Char) : Bool := c == '"' || c.toNat == 39
def dash (c : Char) : Bool := c == '_' || c == '-'
def colon (c : Char) : Bool := c == ':' || c == '='
def tokenChar (c : Char) : Bool := c.isAlphanum || "._~+/=-".toList.contains c
def mark : Text := "***".toList

-- (tskey-(?:auth|client|api)-)[A-Za-z0-9-]+
def keyRule : Mask Char where
  anchors := ["skey-auth-","skey-client-","skey-api-"].map (fun rest => ⟨(· == 't'),exactly rest⟩)
  inRun c := c.isAlphanum || c == '-'
  mark := mark

-- (?i)(bearer\s+)[A-Za-z0-9._~+/=-]+
def bearerRule : Mask Char where
  anchors := [⟨folds 'b',word "earer" ++ [.one blank,.many blank]⟩]
  inRun c := tokenChar c || folds 's' c || folds 'k' c
  mark := mark

-- (?i)([?&](?:token|api[_-]?key|access[_-]?token)=)[^&\s]+
def queryRule : Mask Char where
  anchors := [word "token=",word "api" ++ .maybe dash :: word "key=",word "access" ++ .maybe dash :: word "token="].map
    (fun rest => ⟨fun c => c == '?' || c == '&',rest⟩)
  inRun c := c != '&' && !blank c
  mark := mark

-- (?i)(x-api-key["']?\s*[:=]\s*["']?)[^\s"',}]+
def headerRule : Mask Char where
  anchors := [⟨folds 'x',word "-api-key" ++ [.maybe quote,.many blank,.one colon,.many blank,.maybe quote]⟩]
  inRun c := !blank c && !quote c && c != ',' && c.toNat != 125
  mark := mark

def base64 (c : Char) : Bool := c.isAlphanum || c == '+' || c == '/'

-- [A-Za-z0-9+/]{43}=
def keyHere (s : Text) : Bool := (s.take 43).all base64 && s[43]? == some '='

def scanKeys : Nat → Text → Text → Text × Nat
  | k,[],_ => ([],k)
  | k+1,_ :: x,y => scanKeys k x y
  | 0,c :: x,y =>
    if keyHere (c :: (x ++ y)) then
      let rest := scanKeys 43 x y
      (mark ++ rest.1,rest.2)
    else
      let rest := scanKeys 0 x y
      (c :: rest.1,rest.2)

inductive Rule where
  | masked (m : Mask Char)
  | keys

def Rule.replaceAll : Rule → Text → Text
  | .masked m,s => m.replaceAll s
  | .keys,s => (scanKeys 0 s []).1

def rules : List Rule := [.masked keyRule,.masked bearerRule,.masked queryRule,.masked headerRule,.keys]
def redactString (s : Text) : Text := rules.foldl (fun s r => r.replaceAll s) s

/- A text in three parts, and what a pattern makes of each: a mark stands where its run began. -/
structure Cut where
  before : Text
  within : Text
  after : Text
  deriving DecidableEq

def Cut.whole (t : Cut) : Text := t.before ++ (t.within ++ t.after)

def maskCut (m : Mask Char) (t : Cut) : Cut :=
  let first := m.scan .plain t.before (t.within ++ t.after)
  let second := m.scan first.2 t.within t.after
  ⟨first.1,second.1,(m.scan second.2 t.after []).1⟩

def keysCut (t : Cut) : Cut :=
  let first := scanKeys 0 t.before (t.within ++ t.after)
  let second := scanKeys first.2 t.within t.after
  ⟨first.1,second.1,(scanKeys second.2 t.after []).1⟩

def Rule.cut : Rule → Cut → Cut
  | .masked m => maskCut m
  | .keys => keysCut

def redactCut (t : Cut) : Cut := rules.foldl (fun t r => r.cut t) t

theorem scanKeysAppend (k : Nat) (x z y : Text) : scanKeys k (x ++ z) y =
    ((scanKeys k x (z ++ y)).1 ++ (scanKeys (scanKeys k x (z ++ y)).2 z y).1,(scanKeys (scanKeys k x (z ++ y)).2 z y).2) := by
  induction x generalizing k with
  | nil => simp only [nil_append,scanKeys]
  | cons c x ih =>
    cases k with
    | succ k => exact ih k
    | zero =>
      simp only [cons_append,scanKeys,append_assoc,ih]
      split <;> simp only [append_assoc,cons_append]

theorem cutWhole (r : Rule) (t : Cut) : (r.cut t).whole = r.replaceAll t.whole := by
  cases r with
  | masked m => simp only [Rule.cut,maskCut,Cut.whole,Rule.replaceAll,Mask.replaceAll,Mask.scanAppend,append_nil]
  | keys => simp only [Rule.cut,keysCut,Cut.whole,Rule.replaceAll,scanKeysAppend,append_nil]

theorem redactCutWhole (t : Cut) : (redactCut t).whole = redactString t.whole := by
  unfold redactCut redactString
  generalize rules = rest
  induction rest generalizing t with
  | nil => rfl
  | cons r rest ih => rw [foldl_cons,foldl_cons,ih,cutWhole]

-- What an interface value holds: a string, or anything else with what fmt.Sprint prints of it.
inductive Held where
  | string (s : Text)
  | other (printed : Text)

def Held.sprint : Held → Text
  | .string s => s
  | .other printed => printed

mutual
inductive Attr where
  | mk (key : Text) (value : Value)

inductive Value where
  | string (s : Text)
  | group (attrs : List Attr)
  | any (held : Held)
  | scalar (bits : Nat) -- a number, a boolean, a time or a duration
end

mutual
def redactAttr : Attr → Attr
  | .mk key (.string s) => .mk key (.string (redactString s))
  | .mk key (.group inner) => .mk key (.group (redactAttrs inner))
  | .mk key (.any (.string s)) => .mk key (.string (redactString s))
  | .mk key (.any held) => .mk key (.string (redactString held.sprint))
  | a@(.mk _ (.scalar _)) => a

def redactAttrs : List Attr → List Attr
  | [] => []
  | a :: rest => redactAttr a :: redactAttrs rest
end

mutual
def texts : Attr → List Text
  | .mk _ (.string s) => [s]
  | .mk _ (.group inner) => allTexts inner
  | .mk _ (.any held) => [held.sprint]
  | .mk _ (.scalar _) => []

def allTexts : List Attr → List Text
  | [] => []
  | a :: rest => texts a ++ allTexts rest
end

mutual
theorem textsRedacted : (a : Attr) → texts (redactAttr a) = (texts a).map redactString
  | .mk _ (.string _) => rfl
  | .mk _ (.group inner) => allTextsRedacted inner
  | .mk _ (.any (.string _)) => rfl
  | .mk _ (.any (.other _)) => rfl
  | .mk _ (.scalar _) => rfl

theorem allTextsRedacted : (attrs : List Attr) → allTexts (redactAttrs attrs) = (allTexts attrs).map redactString
  | [] => rfl
  | a :: rest => by
    rw [redactAttrs,allTexts,allTexts,map_append,textsRedacted a,allTextsRedacted rest]
end

structure Record where
  time : Int
  level : Int
  message : Text
  attrs : List Attr

-- What Handle and WithAttrs pass on to the inner handler.
def handle (r : Record) : Record := { r with message := redactString r.message, attrs := redactAttrs r.attrs }
def recordTexts (r : Record) : List Text := r.message :: allTexts r.attrs

theorem recordTextsRedacted (r : Record) : recordTexts (handle r) = (recordTexts r).map redactString := by
  rw [recordTexts,recordTexts,map_cons,handle,allTextsRedacted]

end VpnPack.Logredact
