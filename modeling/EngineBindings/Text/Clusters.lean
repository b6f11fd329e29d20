import EngineBindings.Text.ClusterTable
import EngineBindings.Text.Identifier

/-!
# Text clusters

A reader takes a letter with its accents, or a pictograph made of several, for one character.
`clusters` cuts a text into such clusters by the rules of Unicode for extended ones: a cluster goes
on with the next character if `joins` says so.
-/

namespace EngineBindings.Text

/-- Whether a character is a control character; the two characters of a line end count. -/
def isControl (c : Char) : Bool :=
  c == '\r' || c == '\n' || inRanges controlRanges c.toNat

/-- Whether a character extends the one before it. -/
def isExtending (c : Char) : Bool :=
  inRanges extendingRanges c.toNat

/-- Whether a character joins its neighbours. -/
def isJoiner (c : Char) : Bool :=
  c == '\u200d'

/-- Whether a character is half of a flag. -/
def isRegional (c : Char) : Bool :=
  0x1F1E6 ≤ c.toNat && c.toNat ≤ 0x1F1FF

/-- Whether a character is a pictograph. -/
def isPictograph (c : Char) : Bool :=
  inRanges pictographRanges c.toNat

/-- Whether a character links neighbouring consonants. -/
def isLinking (c : Char) : Bool :=
  inRanges linkingRanges c.toNat

/-! ## Syllables of letters -/

/-- The part of a syllable that a character is. -/
inductive SyllablePart where
  | lead
  | vowel
  | tail
  /-- A lead and a vowel in one. -/
  | open
  /-- A lead, a vowel and a tail in one. -/
  | closed
  deriving DecidableEq, Inhabited

/-- The part of a syllable that a character is, if it is one. -/
def syllablePart? (c : Char) : Option SyllablePart :=
  let n := c.toNat
  if inRanges [(0x1100, 0x115F), (0xA960, 0xA97C)] n then some .lead
  else if inRanges
      [(0x1160, 0x11A7), (0xD7B0, 0xD7C6), (0x16D63, 0x16D63), (0x16D67, 0x16D6A)] n then
    some .vowel
  else if inRanges [(0x11A8, 0x11FF), (0xD7CB, 0xD7FB)] n then some .tail
  else if inRanges [(0xAC00, 0xD7A3)] n then
    some (if (n - 0xAC00) % 28 == 0 then .open else .closed)
  else none

/-- Whether a syllable goes on from one part to another. -/
def SyllablePart.goesOn : SyllablePart → SyllablePart → Bool
  | lead, part => part != tail
  | «open», part => part == vowel || part == tail
  | vowel, part => part == vowel || part == tail
  | closed, part => part == tail
  | tail, part => part == tail

/-- Whether a character goes on with the syllable of the one before it. -/
def continuesSyllable (previous c : Char) : Bool :=
  match syllablePart? previous, syllablePart? c with
  | some part, some next => part.goesOn next
  | _, _ => false

/-! ## Clusters -/

/-- Whether a cluster, its last character first, ends in a pictograph and a joiner, with what
extends the pictograph between them. -/
def endsInJoinedPictograph : List Char → Bool
  | c :: before =>
    isJoiner c && ((before.dropWhile isExtending).head?.map isPictograph).getD false
  | [] => false

/-- Whether a cluster, its last character first, ends in a consonant that a mark links to the
next one. -/
def endsInLinkedConsonant (cluster : List Char) : Bool :=
  let isPart (c : Char) := isJoiner c || (isExtending c && c != '\u200c')
  (cluster.takeWhile isPart).any isLinking &&
    ((cluster.dropWhile isPart).head?.map fun c => inRanges consonantRanges c.toNat).getD false

/-- Whether a cluster, its last character first, ends in the first half of a flag. -/
def endsInHalfFlag (cluster : List Char) : Bool :=
  (cluster.takeWhile isRegional).length % 2 == 1

/-- Whether a cluster, its last character first, goes on with a character. -/
def joins (cluster : List Char) (c : Char) : Bool :=
  match cluster with
  | [] => true
  | previous :: _ =>
    if previous == '\r' && c == '\n' then true
    else if isControl previous || isControl c then false
    else
      isExtending c || isJoiner c || inRanges spacingRanges c.toNat ||
        inRanges leadingRanges previous.toNat || continuesSyllable previous c ||
        (isPictograph c && endsInJoinedPictograph cluster) ||
        (inRanges consonantRanges c.toNat && endsInLinkedConsonant cluster) ||
        (isRegional c && endsInHalfFlag cluster)

/-- The clusters of a text that goes on from a cluster, given with its last character first. -/
def clustersAfter (cluster : List Char) : List Char → List (List Char)
  | [] => [cluster.reverse]
  | c :: rest =>
    if joins cluster c then clustersAfter (c :: cluster) rest
    else cluster.reverse :: clustersAfter [c] rest

/-- The clusters of a text. -/
def clusters : List Char → List (List Char)
  | [] => []
  | c :: rest => clustersAfter [c] rest

end EngineBindings.Text
