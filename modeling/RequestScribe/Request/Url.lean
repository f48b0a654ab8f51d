import RequestScribe.Encoding.Form
import RequestScribe.Ordered
import RequestScribe.Text.Basic

/-!
# Addresses on a command line

Which words may be the address of a request, how a bare host becomes an
address, and how the query is taken off.
-/

namespace RequestScribe

namespace Url

def isSchemeCharacter (c : Char) : Bool :=
  Chars.isAlphanumeric c || c == '+' || c == '.' || c == '-'

/-- A scheme, `://` and something without blanks. -/
def isAbsolute (cs : List Char) : Bool :=
  let (scheme, rest) := cs.span isSchemeCharacter
  match scheme, rest with
  | first :: _, ':' :: '/' :: '/' :: c :: tail =>
      Chars.isLetter first && (c :: tail).all (fun c => !Chars.isBlank c)
  | _, _ => false

def isHostCharacter (c : Char) : Bool :=
  Chars.isAlphanumeric c || c == '-' || c == '.'

/-- `localhost`, or at least two labels separated by points. -/
def isHostName (cs : List Char) : Bool :=
  let labels := cs.splitOn '.'
  cs == "localhost".toList || (labels.length > 1 && labels.all (fun label => !label.isEmpty))

/-- What follows the host at the start of a text: a name, or an address in brackets. -/
def afterHost? (cs : List Char) : Option (List Char) :=
  match cs with
  | '[' :: rest =>
      match rest.span (fun c => (Chars.hexValue? c).isSome || c == ':') with
      | (_ :: _, ']' :: tail) => some tail
      | _ => none
  | _ =>
      let (name, tail) := cs.span isHostCharacter
      if isHostName name then some tail else none

/-- What follows the port, if there is one; a colon needs digits after it. -/
def afterPort? (cs : List Char) : Option (List Char) :=
  match cs with
  | ':' :: rest =>
      match rest.span Chars.isDecimalDigit with
      | (_ :: _, tail) => some tail
      | _ => none
  | _ => some cs

/-- Nothing, or a path, query or fragment without blanks. -/
def isTail (cs : List Char) : Bool :=
  match cs with
  | [] => true
  | c :: rest =>
      (c == '/' || c == '?' || c == '#') && rest.all (fun c => !Chars.isBlank c)

/-- A host, perhaps a port, and perhaps a path, query or fragment. -/
def isBareHost (cs : List Char) : Bool :=
  match (afterHost? cs).bind afterPort? with
  | some tail => isTail tail
  | none => false

/-- Whether a word can be the address of a request. -/
def isRecognized (word : String) : Bool :=
  isAbsolute word.toList || isBareHost word.toList

/-- An address without a scheme goes over https. -/
def withScheme (url : String) : String :=
  if Text.contains "://" url then url
  else "https://" ++ String.ofList (url.toList.dropWhile (· == '/'))

/--
The address without query and fragment, and the query as an ordered map: a
repeated key keeps its first place and takes its last value.
-/
def splitQuery (raw : String) : String × List (String × String) :=
  let text := raw.toList.takeWhile (· != '#')
  match Chars.cut? '?' text with
  | some (base, query) =>
      (String.ofList base, Ordered.ofPairs (· == ·) (Form.decode (String.ofList query)))
  | none => (String.ofList text, [])

def join (url : String) (query : List (String × String)) : String :=
  if query.isEmpty then url else url ++ "?" ++ Form.encode query

end Url

end RequestScribe
