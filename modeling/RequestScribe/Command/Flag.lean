/-!
# Options of the command

The options that a command may carry, their long names and their letters.
Options that do not change the request are listed too, so that their arguments
are not taken for something else.
-/

namespace RequestScribe

inductive Flag where
  | url
  | method
  | header
  | data
  | dataRaw
  | dataBinary
  | dataUrlencode
  | json
  | form
  | formString
  | user
  | bearer
  | basic
  | digest
  | ntlm
  | cookie
  | userAgent
  | referer
  | get
  | head
  | location
  | locationTrusted
  | maxRedirs
  | maxTime
  | connectTimeout
  | insecure
  | compressed
  | proxy
  | cert
  | key
  | cacert
  | http10
  | http11
  | http2
  | http3
  /-- Changes nothing and takes no argument. -/
  | ignored
  /-- Changes nothing and takes an argument. -/
  | ignoredWithArgument
  deriving DecidableEq, Repr

namespace Flag

def takesArgument : Flag → Bool
  | .url | .method | .header | .data | .dataRaw | .dataBinary | .dataUrlencode | .json
  | .form | .formString | .user | .bearer | .cookie | .userAgent | .referer | .maxRedirs
  | .maxTime | .connectTimeout | .proxy | .cert | .key | .cacert | .ignoredWithArgument => true
  | .basic | .digest | .ntlm | .get | .head | .location | .locationTrusted | .insecure
  | .compressed | .http10 | .http11 | .http2 | .http3 | .ignored => false

/-- Long names of the options that change the request. -/
def longNames : List (String × Flag) :=
  [ ("url", .url), ("request", .method), ("header", .header), ("data", .data),
    ("data-ascii", .data), ("data-raw", .dataRaw), ("data-binary", .dataBinary),
    ("data-urlencode", .dataUrlencode), ("json", .json), ("form", .form),
    ("form-string", .formString), ("user", .user), ("oauth2-bearer", .bearer),
    ("basic", .basic), ("digest", .digest), ("ntlm", .ntlm), ("cookie", .cookie),
    ("user-agent", .userAgent), ("referer", .referer), ("get", .get), ("head", .head),
    ("location", .location), ("location-trusted", .locationTrusted), ("max-redirs", .maxRedirs),
    ("max-time", .maxTime), ("connect-timeout", .connectTimeout), ("insecure", .insecure),
    ("compressed", .compressed), ("proxy", .proxy), ("cert", .cert), ("key", .key),
    ("cacert", .cacert), ("http1.0", .http10), ("http1.1", .http11), ("http2", .http2),
    ("http2-prior-knowledge", .http2), ("http3", .http3), ("http3-only", .http3) ]

/-- Long names of options without effect and without argument. -/
def ignoredLongNames : List String :=
  [ "silent", "show-error", "verbose", "include", "fail", "fail-with-body", "globoff",
    "no-buffer", "remote-name", "remote-header-name", "progress-bar", "no-progress-meter",
    "ipv4", "ipv6", "no-keepalive", "path-as-is", "raw", "tlsv1", "tlsv1.0", "tlsv1.1",
    "tlsv1.2", "tlsv1.3", "ssl", "ssl-reqd", "tr-encoding", "anyauth", "negotiate",
    "proxy-insecure", "disable", "no-sessionid", "styled-output" ]

/-- Long names of options without effect that take an argument. -/
def ignoredLongNamesWithArgument : List String :=
  [ "output", "write-out", "cookie-jar", "dump-header", "config", "range", "proxy-user",
    "upload-file", "retry", "retry-delay", "retry-max-time", "resolve", "connect-to",
    "interface", "limit-rate", "max-filesize", "trace", "trace-ascii", "stderr", "key-type",
    "cert-type", "pass", "capath", "ciphers", "time-cond", "unix-socket",
    "abstract-unix-socket", "request-target", "proto", "proto-redir", "aws-sigv4", "output-dir",
    "expect100-timeout", "keepalive-time", "local-port", "dns-servers" ]

/-- Letters of the options that change the request. -/
def letters : List (Char × Flag) :=
  [ ('X', .method), ('H', .header), ('d', .data), ('F', .form), ('u', .user), ('b', .cookie),
    ('A', .userAgent), ('e', .referer), ('G', .get), ('I', .head), ('L', .location),
    ('m', .maxTime), ('k', .insecure), ('x', .proxy), ('E', .cert), ('0', .http10) ]

/-- Letters of options without effect and without argument. -/
def ignoredLetters : List Char :=
  [ 's', 'S', 'v', 'i', 'O', 'J', 'f', 'g', 'N', 'n', 'q', 'j', 'l', 'p', 'R', 'B', 'Z', '#',
    '1', '2', '3', '4', '6' ]

/-- Letters of options without effect that take an argument. -/
def ignoredLettersWithArgument : List Char :=
  [ 'o', 'w', 'c', 'D', 'K', 'r', 'T', 'U', 'y', 'Y', 'z', 'C', 'Q', 't' ]

/-- The option with a long name, which is given without its dashes. -/
def ofLongName? (name : String) : Option Flag :=
  match longNames.lookup name with
  | some flag => some flag
  | none =>
      if ignoredLongNames.contains name then some .ignored
      else if ignoredLongNamesWithArgument.contains name then some .ignoredWithArgument
      else none

def ofLetter? (c : Char) : Option Flag :=
  match letters.lookup c with
  | some flag => some flag
  | none =>
      if ignoredLetters.contains c then some .ignored
      else if ignoredLettersWithArgument.contains c then some .ignoredWithArgument
      else none

end Flag

end RequestScribe
