import NetConsole.Url.Percent

/-!
# URLs

A URL in parts, each part already in the form in which it is written.
-/

set_option autoImplicit false

namespace NetConsole

namespace Url

/-- The host of a URL. -/
inductive Host where
  | domain (name : String)
  /-- the address as one 32-bit number -/
  | ipv4 (address : Nat)
  /-- the address as eight 16-bit numbers -/
  | ipv6 (pieces : List Nat)
  deriving DecidableEq, Repr, Inhabited

/-- Who and where: the user information and the host with its port. A default port is not kept. -/
structure Authority where
  user : String
  password : Option String
  host : Host
  port : Option Nat
  deriving DecidableEq, Repr, Inhabited

/-- The path of a URL. -/
inductive Path where
  /-- a path of segments, each after a slash -/
  | segments (list : List String)
  /-- a path that does not begin with a slash; nothing can be relative to it -/
  | rootless (text : String)
  deriving DecidableEq, Repr, Inhabited

end Url

/-- A URL in parts. -/
structure Url where
  scheme : String
  authority : Option Url.Authority
  path : Url.Path
  query : Option String
  fragment : Option String
  deriving DecidableEq, Repr, Inhabited

namespace Url

/-- The schemes of web addresses, with their default ports. -/
def defaultPort? : String → Option Nat
  | "http" | "ws" => some 80
  | "https" | "wss" => some 443
  | "ftp" => some 21
  | _ => none

/-- Whether a scheme belongs to web addresses or files, which read a backslash as a slash and
always have a path. -/
def isSpecial (scheme : String) : Bool := (defaultPort? scheme).isSome || scheme == "file"

/-! ## Writing -/

/-- A number in lower-case hexadecimal digits. -/
def hexText (n : Nat) : String := String.ofList (Nat.toDigits 16 n)

/-- The four decimal parts of an address. -/
def ipv4Text (address : Nat) : String :=
  ".".intercalate ([address / 16777216 % 256, address / 65536 % 256, address / 256 % 256,
    address % 256].map toString)

/-- The length of the run of zeros at the front. -/
def zeroRun (pieces : List Nat) : Nat := (pieces.takeWhile (· == 0)).length

/-- The first of the longest runs of at least two zeros: its start and its length. -/
def longestZeroRun (pieces : List Nat) : Option (Nat × Nat) :=
  let runs := (List.range pieces.length).map fun start => (start, zeroRun (pieces.drop start))
  runs.foldl (fun best run =>
    if 2 ≤ run.2 ∧ (best.map (·.2)).getD 0 < run.2 then some run else best) none

/-- An address of eight pieces, with its longest run of zeros left out. -/
def ipv6Text (pieces : List Nat) : String :=
  match longestZeroRun pieces with
  | none => ":".intercalate (pieces.map hexText)
  | some (start, length) =>
      ":".intercalate ((pieces.take start).map hexText) ++ "::" ++
        ":".intercalate ((pieces.drop (start + length)).map hexText)

/-- A host as it is written. -/
def Host.text : Host → String
  | .domain name => name
  | .ipv4 address => ipv4Text address
  | .ipv6 pieces => "[" ++ ipv6Text pieces ++ "]"

/-- The user information with its at sign; empty if there is none. -/
def Authority.userText (a : Authority) : String :=
  match a.password with
  | none => if a.user = "" then "" else a.user ++ "@"
  | some password => a.user ++ ":" ++ password ++ "@"

/-- The host with its port. -/
def Authority.hostText (a : Authority) : String :=
  a.host.text ++ (match a.port with
    | none => ""
    | some port => ":" ++ toString port)

/-- A path as it is written. -/
def Path.text : Path → String
  | .segments list => String.join (list.map ("/" ++ ·))
  | .rootless text => text

/-- A part with its mark before it; empty if there is no such part. -/
def marked (mark : String) : Option String → String
  | none => ""
  | some text => mark ++ text

/-- The path as it is written in a URL: one that could be taken for an authority gets a dot
segment before it. -/
def pathText (url : Url) : String :=
  match url.authority, url.path with
  | none, .segments ("" :: _ :: _) => "/." ++ url.path.text
  | _, path => path.text

/-- A URL as it is written. -/
def text (url : Url) : String :=
  url.scheme ++ ":" ++
    (match url.authority with
      | none => ""
      | some a => "//" ++ a.userText ++ a.hostText) ++
    url.pathText ++ marked "?" url.query ++ marked "#" url.fragment

/-- A URL as a request bears it: without user information and fragment. -/
def requestText (url : Url) : String :=
  url.scheme ++ ":" ++
    (match url.authority with
      | none => ""
      | some a => "//" ++ a.hostText) ++
    url.pathText ++ marked "?" url.query

/-- The URL with its path ending in a slash. -/
def withTrailingSlash (url : Url) : Url :=
  match url.path with
  | .segments list =>
      if list.getLast? = some "" then url else { url with path := .segments (list ++ [""]) }
  | .rootless _ => url

/-- Query pairs added after any query there is; without pairs the URL is left alone. -/
def appendPairs (url : Url) (pairs : List (String × String)) : Url :=
  if pairs = [] then url
  else
    let encoded := String.ofList (formPairs pairs)
    let query := match url.query with
      | none | some "" => encoded
      | some before => before ++ "&" ++ encoded
    { url with query := some query }

/-- Whether a URL can be requested over the network. -/
def isHttp (url : Url) : Bool := url.scheme == "http" || url.scheme == "https"

end Url

end NetConsole
