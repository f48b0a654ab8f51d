import RequestScribe.Text.Basic
import RequestScribe.Text.Cluster
import RequestScribe.Text.LetterCase

/-!
# Words inside a name

A name is cut into words at `_`, `-` and spaces, and where its letters change
case or meet digits; the words are then put together again in another style.
What counts as a letter here is a cluster: an accent keeps to its letter.
-/

namespace RequestScribe

namespace WordCase

/-- Clusters that separate words and belong to none. -/
def isSeparator (cluster : List Char) : Bool :=
  cluster == ['_'] || cluster == ['-'] || cluster == [' ']

def isDigit (cluster : List Char) : Bool :=
  cluster.all Chars.isDigit

/-- Whether a word starts between two neighbours. -/
def startsBetween (a b : List Char) : Bool :=
  (LetterCase.isLower a && LetterCase.isUpper b) ||
    (LetterCase.isUpper a && isDigit b) ||
    (isDigit a && LetterCase.isUpper b) ||
    (isDigit a && LetterCase.isLower b) ||
    (LetterCase.isLower a && isDigit b)

/-- The last capital of an acronym belongs to the word after it. -/
def endsAcronym (a b : List Char) (next? : Option (List Char)) : Bool :=
  match next? with
  | some c => LetterCase.isUpper a && LetterCase.isUpper b && LetterCase.isLower c
  | none => false

/-- A cut under way; words, and the clusters of the last one, are kept latest first. -/
structure Cut where
  words : List (List Char) := []
  word : List (List Char) := []
  previous? : Option (List Char) := none

def Cut.endWord (cut : Cut) : Cut :=
  if cut.word.isEmpty then cut
  else { cut with words := cut.word.reverse.flatten :: cut.words, word := [] }

/-- Take one cluster, with a look at the one after it. -/
def Cut.feed (cut : Cut) (cluster : List Char) (next? : Option (List Char)) : Cut :=
  let starts := match cut.previous? with
    | some a => startsBetween a cluster || endsAcronym a cluster next?
    | none => false
  if isSeparator cluster then { cut.endWord with previous? := some cluster }
  else
    let cut := if starts then cut.endWord else cut
    { cut with word := cluster :: cut.word, previous? := some cluster }

def Cut.run (cut : Cut) : List (List Char) → Cut
  | [] => cut.endWord
  | cluster :: rest => run (cut.feed cluster rest.head?) rest

def words (name : List Char) : List (List Char) :=
  (Cut.run {} (Chars.clusters name)).words.reverse

/-- The first cluster in upper case and the others in lower case. -/
def capitalizedWord (word : List Char) : List Char :=
  match Chars.clusters word with
  | [] => []
  | first :: rest => LetterCase.upperText first ++ LetterCase.lowerText rest.flatten

/-- The words with a capital each, and nothing between them. -/
def pascal (name : List Char) : List Char :=
  (words name).flatMap capitalizedWord

/-- The words in lower case, with `_` between them. -/
def snake (name : List Char) : List Char :=
  ['_'].intercalate ((words name).map LetterCase.lowerText)

end WordCase

end RequestScribe
