import EngineBindings.Number.Binary

/-!
# Similar texts

How similar two texts are, after Jaro and Winkler: the share of their characters that have a
partner near the same place in the other text, less those that come in another order, and more for a
common start.  The measure is a number of 64 bits that is rounded after every step, so that texts
that are equally similar on paper compare as they do there.
-/

namespace EngineBindings.Text

namespace Similarity

/-- The number that a quotient is. -/
def ratio (num den : Nat) : Nat :=
  BinaryFormat.binary64.ofQuotient num den

/-- How far from its place in the other text the partner of a character may stand. -/
def reach (a b : List Char) : Nat :=
  max a.length b.length / 2 - 1

/-- Gives the first free equal character between two places, the second of which is outside, to a
character: the other text with the free characters that are left, or nothing. -/
def partner? (c : Char) : Nat → Nat → List (Char × Bool) → Option (List (Char × Bool))
  | _, 0, _ => none
  | _, _ + 1, [] => none
  | 0, high + 1, (d, isTaken) :: rest =>
    if c == d && !isTaken then some ((d, true) :: rest)
    else (partner? c 0 high rest).map ((d, isTaken) :: ·)
  | low + 1, high + 1, entry :: rest => (partner? c low high rest).map (entry :: ·)

/-- The characters of a text, from a place on, that have partners in another one, and what is left
of that one. -/
def matched (reach : Nat) : Nat → List Char → List (Char × Bool) → List Char × List (Char × Bool)
  | _, [], other => ([], other)
  | i, c :: rest, other =>
    match partner? c (i - reach) (i + reach + 1) other with
    | some other =>
      let (more, other) := matched reach (i + 1) rest other
      (c :: more, other)
    | none => matched reach (i + 1) rest other

/-- How similar two texts are, their starts not counted more than the rest. -/
def unweighted (a b : List Char) : Nat :=
  let (left, other) := matched (reach a b) 0 a (b.map (·, false))
  let right := (other.filter Prod.snd).map Prod.fst
  let count := left.length
  let displaced := ((left.zip right).filter fun (c, d) => c != d).length / 2
  if a.isEmpty && b.isEmpty then ratio 1 1
  else if count = 0 then 0
  else
    let f := BinaryFormat.binary64
    f.div
      (f.add (f.add (ratio count a.length) (ratio count b.length))
        (ratio (count - displaced) count))
      (ratio 3 1)

/-- The number of the first characters that two texts have in common, at most four. -/
def commonStart (a b : List Char) : Nat :=
  (((a.take 4).zip b).takeWhile fun (c, d) => c == d).length

/-- How similar two texts are. -/
def of (a b : String) : Nat :=
  let f := BinaryFormat.binary64
  let plain := unweighted a.toList b.toList
  if ratio 7 10 < plain then
    f.add plain
      (f.mul (f.mul (ratio 1 10) (ratio (commonStart a.toList b.toList) 1))
        (f.sub (ratio 1 1) plain))
  else plain

/-- The better of a choice so far and a text with how similar it is; the choice so far if they are
equal. -/
def better (best? : Option (Nat × String)) (score : Nat) (s : String) : Option (Nat × String) :=
  match best? with
  | some (best, t) => if best < score then some (score, s) else some (best, t)
  | none => some (score, s)

end Similarity

/-- The most similar of some texts to a text, if it is similar enough to be meant. -/
def mostSimilar? (s : String) (candidates : List String) : Option String :=
  (candidates.foldl (fun best? t =>
    let score := Similarity.of s t
    if Similarity.ratio 8 10 < score then Similarity.better best? score t else best?)
    none).map Prod.snd

end EngineBindings.Text
