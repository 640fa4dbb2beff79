import QueryGroup.Pattern.Build
set_option autoImplicit false

namespace QueryGroup.Pattern

def mostTexts : Nat := 250

def longestText : Nat := 100

/-- How many characters of a set, and rounds of a repetition, are still written out. -/
def mostVariants : Nat := 10

def utf8 (characters : List Char) : List UInt8 := characters.flatMap String.utf8EncodeChar

/-- The texts, if they are short. Where equal ones follow one another one is left. -/
def short? (texts : List (List UInt8)) : Option (List (List UInt8)) :=
  if texts.all (·.length ≤ longestText) then some texts.eraseReps else none

def joinTexts? (first second : List (List UInt8)) : Option (List (List UInt8)) :=
  if mostTexts < first.length * second.length then none
  else short? (first.flatMap fun bytes => second.map (bytes ++ ·))

def eitherTexts? (first second : List (List UInt8)) : Option (List (List UInt8)) :=
  if mostTexts < first.length + second.length then none else some (first ++ second).eraseReps

def setTexts? (set : CharSet) : Option (List (List UInt8)) :=
  let size := set.ranges.foldl (fun sum range => sum + (range.2 - range.1 + 1)) 0
  if mostVariants < size then none
  else
    some (set.ranges.flatMap fun range =>
      (List.range (range.2 - range.1 + 1)).map fun n => utf8 [Char.ofNat (range.1 + n)])

def timesTexts? (texts : List (List UInt8)) : Nat → Option (List (List UInt8))
  | 0 => some [[]]
  | count + 1 => (timesTexts? texts count).bind fun others => joinTexts? others texts

/-- Repetitions of texts, if they are few. What is preferred comes first. -/
def repeatedTexts? (least : Nat) (most : Option Nat) (lazy : Bool) (texts : List (List UInt8)) :
    Option (List (List UInt8)) :=
  if texts.isEmpty then some (if least = 0 then [[]] else [])
  else if least = 0 then
    if most = some 1 then if lazy then eitherTexts? [[]] texts else eitherTexts? texts [[]]
    else none
  else if most = some least ∧ least ≤ mostVariants then timesTexts? texts least
  else none

mutual

/-- The texts that the pattern matches, if they are few and short. -/
def texts? : Pattern → Option (List (List UInt8))
  | empty => some [[]]
  | text characters => short? [utf8 characters]
  | oneOf _ set => setTexts? set
  | look _ => none
  | repeated least most lazy inner => inner.texts?.bind (repeatedTexts? least most lazy)
  | group _ _ => none
  | sequence items => sequenceTexts? items [[]]
  | choice branches => choiceTexts? branches []

/-- Items behind texts. Nothing comes behind where there are none. -/
def sequenceTexts? : List Pattern → List (List UInt8) → Option (List (List UInt8))
  | [], texts => some texts
  | item :: rest, texts =>
      if texts.isEmpty then some []
      else (item.texts?.bind (joinTexts? texts)).bind (sequenceTexts? rest)

def choiceTexts? : List Pattern → List (List UInt8) → Option (List (List UInt8))
  | [], texts => some texts
  | branch :: rest, texts => (branch.texts?.bind (eitherTexts? texts)).bind (choiceTexts? rest)

end

def foundFirst (texts : List (List UInt8)) : List (List UInt8) :=
  (texts.foldl (fun kept bytes =>
    if kept.any (·.isPrefixOf bytes) then kept else bytes :: kept) []).reverse

def sharedStart (first second : List UInt8) : List UInt8 :=
  ((first.zip second).takeWhile fun pair => pair.1 == pair.2).map Prod.fst

def commonBytes : List UInt8 := utf8 "\n\r (),-./0129:_abcdefghilmnoprstuvxy|".toList

def isRare (byte : UInt8) : Bool := byte < 0x80 && !commonBytes.contains byte

/-- How many bytes of each text are tried to start with, and how many texts may be left. -/
def cuts : List (Nat × Nat) := [(5, 10), (4, 10), (3, 64), (2, 64), (1, 10)]

/-- The starts of texts, shorter ones as long as there are too many. -/
def shortened : List (Nat × Nat) → List (List UInt8) → List (List UInt8)
  | [], texts => texts
  | (bytes, most) :: rest, texts =>
      if texts.length ≤ most then texts
      else shortened rest (foundFirst (texts.map (·.take bytes)))

/-- It is best to look for the texts themselves, and not for what they share or start with. -/
def areSearched (texts : List (List UInt8)) : Bool :=
  let kept := foundFirst texts
  let shared := match kept with
    | [] => []
    | first :: rest => rest.foldl sharedStart first
  let isTold :=
    (1 < texts.length && shared.length ≤ 3 && shared.head?.any isRare &&
      kept.any (1 < ·.length)) ||
    (1 < kept.length && (4 < shared.length || (1 < shared.length && 16 < kept.length)))
  let starts := shortened cuts kept
  !texts.isEmpty && texts.all (!·.isEmpty) && !isTold &&
    (starts.any (·.length ≤ 2) || 64 < starts.length || starts.all kept.contains)

/-- More counts than the text that is matched: where it stands, or what part is which group. -/
def isMoreThanText : Pattern → Bool
  | look _ => true
  | group _ _ => true
  | _ => false

def isSearchedByTexts (pattern : Pattern) : Bool :=
  !pattern.hasPart isMoreThanText && pattern.texts?.any areSearched

end QueryGroup.Pattern
