import ClassDiagram.Text.Normal.Composition
import ClassDiagram.Text.Normal.Decomposition

/-!
Normalization form KC: full compatibility decomposition, canonical order of the combining marks,
canonical composition. An ASCII text is its own normal form (`normalize_ascii`).
-/

namespace ClassDiagram.Text.Normal

def combiningClass (c : CodePoint) : Nat :=
  match CodeTable.lastAtMost ClassSpan.first classes c 0 classes.size with
  | some span => if c ≤ span.last then span.combining else 0
  | none => 0

/-! ## Hangul syllables -/

def syllableBase : CodePoint := 0xAC00
def leadBase : CodePoint := 0x1100
def vowelBase : CodePoint := 0x1161
def trailBase : CodePoint := 0x11A7
def vowelCount : Nat := 21
def trailCount : Nat := 28
def leadCount : Nat := 19

def isSyllable (c : CodePoint) : Bool :=
  syllableBase ≤ c && c < syllableBase + leadCount * vowelCount * trailCount

def syllableParts (c : CodePoint) : List CodePoint :=
  let i := c - syllableBase
  let lead := leadBase + i / (vowelCount * trailCount)
  let vowel := vowelBase + i % (vowelCount * trailCount) / trailCount
  let trail := i % trailCount
  if trail = 0 then [lead, vowel] else [lead, vowel, trailBase + trail]

def composeSyllable (a b : CodePoint) : Option CodePoint :=
  if leadBase ≤ a && a < leadBase + leadCount && vowelBase ≤ b && b < vowelBase + vowelCount then
    some (syllableBase + ((a - leadBase) * vowelCount + (b - vowelBase)) * trailCount)
  else if isSyllable a && (a - syllableBase) % trailCount == 0
      && trailBase < b && b < trailBase + trailCount then
    some (a + (b - trailBase))
  else none

/-! ## The three steps -/

def decompose (c : CodePoint) : List CodePoint :=
  if isSyllable c then syllableParts c
  else
    match CodeTable.lastAtMost Decomposition.code decompositions c 0 decompositions.size with
    | some d => if d.code = c then d.parts else [c]
    | none => [c]

/-- Puts a mark in front of the marks of a higher class that end the text so far, which is kept
in reverse. -/
def insertMark (c : CodePoint) : List CodePoint → List CodePoint
  | [] => [c]
  | d :: ds =>
    if combiningClass c ≠ 0 ∧ combiningClass c < combiningClass d then d :: insertMark c ds
    else c :: d :: ds

def order (cs : List CodePoint) : List CodePoint :=
  (cs.foldl (fun acc c => insertMark c acc) []).reverse

/-- The character that a pair composes to by a table. -/
def wholeIn (table : Array Composition) (a b : CodePoint) : Option CodePoint :=
  let key := fun (row : Composition) => row.first * 0x110000 + row.second
  match CodeTable.lastAtMost key table (a * 0x110000 + b) 0 table.size with
  | some row => if row.first = a ∧ row.second = b then some row.whole else none
  | none => none

def composition? (a b : CodePoint) : Option CodePoint :=
  match composeSyllable a b with
  | some c => some c
  | none => wholeIn compositions a b

/-- The character that a starter composes with one behind it to, if no mark stands between; `held`
are the marks, in reverse, that stay behind the starter. -/
def freeComposition? (starter : CodePoint) (held : List CodePoint) (c : CodePoint) :
    Option CodePoint :=
  match held with
  | [] => composition? starter c
  | d :: _ => if combiningClass d < combiningClass c then composition? starter c else none

/-- Composes the characters after a starter with it, as far as no mark stands between. -/
def composeFrom (starter : CodePoint) (held : List CodePoint) : List CodePoint → List CodePoint
  | [] => starter :: held.reverse
  | c :: cs =>
    match freeComposition? starter held c with
    | some whole => composeFrom whole held cs
    | none =>
      if combiningClass c = 0 then starter :: held.reverse ++ composeFrom c [] cs
      else composeFrom starter (c :: held) cs

def compose : List CodePoint → List CodePoint
  | [] => []
  | c :: cs => if combiningClass c = 0 then composeFrom c [] cs else c :: compose cs

def isAscii (cs : List Char) : Bool := cs.all (·.toNat < 128)

def normalizeChars (cs : List Char) : List Char :=
  if isAscii cs then cs
  else (compose (order (cs.flatMap fun c => decompose c.toNat))).map Char.ofNat

/-- The normal form KC of a text. -/
def normalize (s : String) : String := String.ofList (normalizeChars s.toList)

theorem normalize_ascii {s : String} (h : isAscii s.toList = true) : normalize s = s := by
  simp [normalize, normalizeChars, h]

end ClassDiagram.Text.Normal
