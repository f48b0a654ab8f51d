import RequestScribe.Encoding.Percent
import RequestScribe.Request.DomainName
import RequestScribe.Request.HostAddress
import RequestScribe.Text.Basic

/-!
# Proxy addresses

The scheme, host and port of a proxy, read as a browser reads an address.  A
proxy without a scheme is spoken to over http.
-/

namespace RequestScribe

structure Proxy where
  scheme : String
  host : String
  port : Nat
  deriving DecidableEq, Repr

namespace Proxy

/-- Schemes whose addresses follow the rules for web addresses, with their usual ports. -/
def specialPorts : List (String × Nat) :=
  [("http", 80), ("ws", 80), ("https", 443), ("wss", 443), ("ftp", 21)]

/-- Control characters and the space, which do not count at either end. -/
def isOuter (c : Char) : Bool :=
  c.toNat ≤ 0x20

/-- Tabs and line breaks, which count nowhere. -/
def isSkipped (c : Char) : Bool :=
  c == '\t' || c == '\n' || c == '\r'

/-- The characters of an address that count. -/
def essential (cs : List Char) : List Char :=
  let trimmed := ((cs.dropWhile isOuter).reverse.dropWhile isOuter).reverse
  trimmed.filter fun c => !isSkipped c

def isSchemeCharacter (c : Char) : Bool :=
  Chars.isAlphanumeric c || c == '+' || c == '-' || c == '.'

/-- The scheme in lower case and what follows its colon. -/
def scheme? (cs : List Char) : Option (String × List Char) :=
  match cs.span isSchemeCharacter with
  | (first :: rest, ':' :: after) =>
      if Chars.isLetter first then some (String.ofList (Chars.lower (first :: rest)), after)
      else none
  | _ => none

/-- Whether a character ends the part of an address that names user, host and port. -/
def endsAuthority (special : Bool) (c : Char) : Bool :=
  c == '/' || c == '?' || c == '#' || (special && c == '\\')

/-- What follows the last `@` of an authority. -/
def withoutUser (authority : List Char) : List Char :=
  (authority.reverse.takeWhile (· != '@')).reverse

/-- The end of the host: the first colon outside of square brackets. -/
def hostLength (inBrackets : Bool) : List Char → Nat
  | [] => 0
  | c :: rest =>
      if c = ':' && !inBrackets then 0
      else hostLength (if c = '[' then true else if c = ']' then false else inBrackets) rest + 1

def isForbidden (c : Char) : Bool :=
  c == '\x00' || c == '\t' || c == '\n' || c == '\r' || "#/:<>?@[\\]^| ".toList.contains c

def isForbiddenInName (c : Char) : Bool :=
  isForbidden c || c.toNat < 0x20 || c == '%' || c == '\x7f'

def bracketed? (cs : List Char) : Option String :=
  if cs.getLast? == some ']' then
    (Ipv6.read? cs.dropLast).map fun groups => "[" ++ Ipv6.text groups ++ "]"
  else none

/-- A host under the rules for web addresses: decoded, as domain names are sent, perhaps an address. -/
def webHost? (cs : List Char) : Option String :=
  match cs with
  | '[' :: rest => bracketed? rest
  | _ =>
      match (Utf8.decode? (Percent.decode (Utf8.encode cs))).bind DomainName.ascii? with
      | none => none
      | some name =>
          if name.isEmpty || name.any isForbiddenInName then none
          else if Ipv4.isNumeric name then (Ipv4.read? name).map Ipv4.text
          else some (String.ofList name)

/-- Control characters and characters beyond ASCII are percent-encoded. -/
def encodeOpaque (b : UInt8) : List Char :=
  if b.toNat < 0x20 || 0x7F ≤ b.toNat then Percent.escape b else [Char.ofNat b.toNat]

/-- A host under any other scheme, which stays as it is written. -/
def opaqueHost? (cs : List Char) : Option String :=
  match cs with
  | [] => none
  | '[' :: rest => bracketed? rest
  | _ =>
      if cs.any isForbidden then none
      else some (String.ofList ((Utf8.encode cs).flatMap encodeOpaque))

/-- A port of 16 bits; nothing at all means the usual port. -/
def port? (usual? : Option Nat) (cs : List Char) : Option Nat :=
  match cs with
  | [] => usual?
  | ':' :: rest =>
      let digits := rest.takeWhile (· != '\\')
      if digits.isEmpty then usual?
      else if digits.all Chars.isDigit then
        let n := Chars.natValue digits
        if n < 65536 then some n else none
      else none
  | _ => none

/-- Host and port from the text after the scheme's slashes. -/
def ofAuthority? (scheme : String) (usual? : Option Nat) (cs : List Char) : Option Proxy :=
  let special := usual?.isSome
  let authority := withoutUser (cs.takeWhile fun c => !endsAuthority special c)
  let length := hostLength false authority
  let host? := if special then webHost? (authority.take length)
    else opaqueHost? (authority.take length)
  match host?, port? usual? (authority.drop length) with
  | some host, some port => some ⟨scheme, host, port⟩
  | _, _ => none

/-- Read an address that has a scheme. -/
def ofUrl? (url : String) : Option Proxy :=
  match scheme? (essential url.toList) with
  | none => none
  | some (scheme, rest) =>
      match specialPorts.lookup scheme with
      | some port =>
          ofAuthority? scheme (some port) (rest.dropWhile fun c => c == '/' || c == '\\')
      | none =>
          match rest with
          | '/' :: '/' :: authority =>
              if scheme = "file" then none else ofAuthority? scheme none authority
          | _ => none

def read? (proxy : String) : Option Proxy :=
  ofUrl? (if Text.contains "://" proxy then proxy else "http://" ++ proxy)

end Proxy

end RequestScribe
