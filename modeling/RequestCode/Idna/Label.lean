import RequestCode.Idna.ClassTable
import RequestCode.Idna.MappingTable
import RequestCode.Idna.Normal

/-!
# Labels of internationalised names

What a label may hold, where joiners may stand, and the rule for names that mix directions.
-/

namespace RequestCode.Idna

open Text

def isVirama (c : Char) : Bool := combiningClasses.value c = 9

def joinsForward (c : Char) : Bool := dualJoiningSet.contains c || leftJoiningSet.contains c

def joinsBackward (c : Char) : Bool := dualJoiningSet.contains c || rightJoiningSet.contains c

/-- The next character that joining does not pass over has the property. -/
def nextJoins (p : Char → Bool) (s : List Char) : Bool :=
  match s.dropWhile transparentSet.contains with
  | [] => false
  | c :: _ => p c

/-- Joiners stand after a virama; a non-joiner may also stand between letters that would join.
`before` is the part before, from back to front. -/
def joinersFit (before : List Char) : List Char → Bool
  | [] => true
  | c :: r =>
    let afterVirama := match before with
      | [] => false
      | d :: _ => isVirama d
    let fits :=
      if c = '\u200C' then
        afterVirama || (nextJoins joinsForward before && nextJoins joinsBackward r)
      else if c = '\u200D' then afterVirama
      else true
    fits && joinersFit (c :: before) r

def startsWithMark : List Char → Bool
  | [] => false
  | c :: _ => markSet.contains c

/-- A label outside ASCII is in normal form, holds valid characters only, does not start with a
mark, and its joiners fit. -/
def labelIsValid (s : List Char) : Bool :=
  s.all validSet.contains && normal s = s && !startsWithMark s && joinersFit [] s

inductive Direction where
  | left
  | right
  | arabicLetter
  | arabicNumber
  | europeanNumber
  | neutral
  | nonspacing
  deriving DecidableEq

/-- The direction of a character; punctuation of numbers and ignored characters count as neutral. -/
def direction (c : Char) : Direction :=
  if rightToLeftSet.contains c then .right
  else if arabicLetterSet.contains c then .arabicLetter
  else if arabicNumberSet.contains c then .arabicNumber
  else if europeanNumberSet.contains c then .europeanNumber
  else if nonspacingSet.contains c then .nonspacing
  else if numberPunctuationSet.contains c || neutralSet.contains c || boundarySet.contains c then
    .neutral
  else .left

def isRightToLeft : Direction → Bool
  | .right | .arabicLetter | .arabicNumber => true
  | _ => false

/-- The last direction that is not that of a mark. -/
def lastDirection? (s : List Direction) : Option Direction :=
  (s.reverse.dropWhile (· = .nonspacing)).head?

/-- The rule that every label of a name obeys if some label holds text from right to left. -/
def directionsFit : List Direction → Bool
  | [] => true
  | .left :: r =>
    !(r.any isRightToLeft)
      && ((lastDirection? (.left :: r)).any fun d => d = .left || d = .europeanNumber)
  | d :: r =>
    (d = .right || d = .arabicLetter)
      && !(r.any (· = .left))
      && ((lastDirection? (d :: r)).any fun e => isRightToLeft e || e = .europeanNumber)
      && !(r.any (· = .europeanNumber) && r.any (· = .arabicNumber))

def bidirectionalFits (labels : List (List Char)) : Bool :=
  let directions := labels.map (·.map direction)
  !(directions.any (·.any isRightToLeft)) || directions.all directionsFit

end RequestCode.Idna
