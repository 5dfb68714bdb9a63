import NetConsole.Url.Host

/-!
# Reading URLs

A text is read as a URL on its own, or relative to another one. `Url.parse` and `Url.join` follow
the living standard for URLs: blanks and controls around the text and tabs and line breaks inside
it do not count, a backslash is a slash in web addresses, and dot segments are taken out.
-/

set_option autoImplicit false

namespace NetConsole.Url

/-- A text without the controls and blanks around it and the tabs and line breaks inside it. -/
def clean (cs : List Char) : List Char :=
  let isEdge := fun (c : Char) => decide (c.toNat ≤ 0x20)
  let trimmed := ((cs.dropWhile isEdge).reverse.dropWhile isEdge).reverse
  trimmed.filter fun c => c ≠ '\t' ∧ c ≠ '\n' ∧ c ≠ '\r'

def isSchemeChar (c : Char) : Bool :=
  c.isAlpha || c.isDigit || c == '+' || c == '-' || c == '.'

/-- The scheme at the front of a text, in lower case, and the text after its colon. -/
def splitScheme (cs : List Char) : Option (String × List Char) :=
  match cs with
  | c :: _ =>
      if c.isAlpha then
        match cs.dropWhile isSchemeChar with
        | ':' :: rest => some (String.ofList ((cs.takeWhile isSchemeChar).map Char.toLower), rest)
        | _ => none
      else none
  | [] => none

/-! ## Paths, queries and fragments -/

def isSlash (special : Bool) (c : Char) : Bool := c == '/' || (special && c == '\\')

/-- The segments of a path, each escaped; the path begins after its first slash. -/
def splitSegments (special : Bool) (cs : List Char) : List (List Char) :=
  (cs.splitOnP (isSlash special)).map (encode inPathSet)

/-- Whether a segment is the dot that stands for its directory. -/
def isDot (segment : List Char) : Bool :=
  segment.map Char.toLower == ['.'] || segment.map Char.toLower == ['%', '2', 'e']

/-- Whether a segment is the two dots that stand for the directory above. -/
def isDoubleDot (segment : List Char) : Bool :=
  let lower := segment.map Char.toLower
  lower == ['.', '.'] || lower == ['%', '2', 'e', '%', '2', 'e'] ||
    lower == ['.', '%', '2', 'e'] || lower == ['%', '2', 'e', '.']

/-- The segments that come from following a path from a directory. The last segment names no
directory: a dot segment there leaves an empty one behind. -/
def followSegments (directory : List String) : List (List Char) → List String
  | [] => directory
  | [last] =>
      if isDoubleDot last then directory.dropLast ++ [""]
      else if isDot last then directory ++ [""]
      else directory ++ [String.ofList last]
  | segment :: rest =>
      if isDoubleDot segment then followSegments directory.dropLast rest
      else if isDot segment then followSegments directory rest
      else followSegments (directory ++ [String.ofList segment]) rest

/-- The part of a text before its query and fragment, and the rest. -/
def spanPath (cs : List Char) : List Char × List Char := cs.span fun c => c ≠ '?' ∧ c ≠ '#'

/-- The query and the fragment that a text consists of, both without their marks. -/
def splitTail (special : Bool) (cs : List Char) : Option String × Option String :=
  let querySet := if special then inSpecialQuerySet else inQuerySet
  let fragment := fun (cs : List Char) => String.ofList (encode inFragmentSet cs)
  match cs with
  | '?' :: rest =>
      let (query, after) := rest.span (· ≠ '#')
      (some (String.ofList (encode querySet query)), match after with
        | _ :: rest => some (fragment rest)
        | [] => none)
  | '#' :: rest => (none, some (fragment rest))
  | _ => (none, none)

/-- The URL with the path, query and fragment of a text; its path is followed from a directory. -/
def withPath (scheme : String) (authority : Option Authority) (directory : List String)
    (cs : List Char) : Url :=
  let special := isSpecial scheme
  let (path, tail) := spanPath cs
  let (query, fragment) := splitTail special tail
  { scheme, authority, query, fragment
    path := .segments (followSegments directory (splitSegments special path)) }

/-! ## Authorities -/

def endsAuthority (special : Bool) (c : Char) : Bool :=
  c == '/' || c == '?' || c == '#' || (special && c == '\\')

/-- The text before the last at sign, if there is one, and the text after it. -/
def splitUser (cs : List Char) : Option (List Char) × List Char :=
  if cs.contains '@' then
    (some ((cs.reverse.dropWhile (· ≠ '@')).drop 1).reverse,
      (cs.reverse.takeWhile (· ≠ '@')).reverse)
  else (none, cs)

/-- The user and the password of the user information. An empty password is none. -/
def userAndPassword (cs : List Char) : String × Option String :=
  let (user, rest) := cs.span (· ≠ ':')
  let password := rest.drop 1
  (String.ofList (encode inUserSet user),
    if password = [] then none else some (String.ofList (encode inUserSet password)))

/-- The host of an authority, up to the first colon outside brackets, and the rest. -/
def spanHost (inside : Bool) : List Char → List Char × List Char
  | [] => ([], [])
  | c :: rest =>
      if c = ':' ∧ inside = false then ([], c :: rest)
      else
        let (host, after) := spanHost (c = '[' || (inside && c ≠ ']')) rest
        (c :: host, after)

/-- The port after its colon; without digits, or with the default of the scheme, there is none. -/
def readPort (scheme : String) (cs : List Char) : Except Error (Option Nat) :=
  if cs = [] then .ok none
  else match numberIn 10 cs with
    | none => .error .invalidPort
    | some port =>
        if 65535 < port then .error .invalidPort
        else .ok (if defaultPort? scheme = some port then none else some port)

/-- An authority, given whether anything follows it. -/
def readAuthority (scheme : String) (cs : List Char) (followed : Bool) :
    Except Error Authority := do
  let special := isSpecial scheme
  let (userPart, hostPart) := splitUser cs
  if userPart = some [] ∧ hostPart = [] ∧ followed then throw .emptyHost
  let (user, password) := userAndPassword (userPart.getD [])
  let (hostChars, portPart) := spanHost false hostPart
  if hostChars = [] ∧ special then throw .emptyHost
  let host ← if special then specialHost hostChars else plainHost hostChars
  if host = .domain "" ∧ portPart ≠ [] then throw .emptyHost
  let port ← readPort scheme (portPart.drop 1)
  if host = .domain "" ∧ (user ≠ "" ∨ password.isSome) then throw .emptyHost
  return { user, password, host, port }

/-- The URL that a text is after the two slashes before its authority. -/
def readAfterSlashes (scheme : String) (cs : List Char) : Except Error Url := do
  let special := isSpecial scheme
  let (authorityPart, rest) := cs.span fun c => !endsAuthority special c
  let authority ← readAuthority scheme authorityPart (!rest.isEmpty)
  match rest with
  | c :: more =>
      if isSlash special c then return withPath scheme (some authority) [] more
      else if special then return withPath scheme (some authority) [] rest
      else
        let (query, fragment) := splitTail special rest
        return { scheme, authority := some authority, path := .segments [], query, fragment }
  | [] =>
      return { scheme, authority := some authority, query := none, fragment := none
               path := .segments (if special then [""] else []) }

/-- A file, whose host may be left out. -/
def readFile (cs : List Char) : Except Error Url := do
  let isFileSlash := isSlash true
  match cs with
  | a :: b :: rest =>
      if isFileSlash a && isFileSlash b then
        let (hostPart, rest) := rest.span fun c => !endsAuthority true c
        let host ← if hostPart = [] then pure (Host.domain "") else specialHost hostPart
        let host := if host = .domain "localhost" then .domain "" else host
        let path := match rest with
          | c :: more => if isFileSlash c then more else rest
          | [] => []
        return withPath "file" (some ⟨"", none, host, none⟩) [] path
      else if isFileSlash a then
        return withPath "file" (some ⟨"", none, .domain "", none⟩) [] (b :: rest)
      else return withPath "file" (some ⟨"", none, .domain "", none⟩) [] cs
  | [a] =>
      let rest := if isFileSlash a then [] else [a]
      return withPath "file" (some ⟨"", none, .domain "", none⟩) [] rest
  | [] => return withPath "file" (some ⟨"", none, .domain "", none⟩) [] []

/-- The URL of another scheme: with an authority, with a path from the root, or with one that has
no root. -/
def readPlain (scheme : String) (cs : List Char) : Except Error Url :=
  match cs with
  | '/' :: '/' :: rest => readAfterSlashes scheme rest
  | '/' :: rest => .ok (withPath scheme none [] rest)
  | _ =>
      let (path, tail) := spanPath cs
      let (query, fragment) := splitTail false tail
      .ok { scheme, authority := none, query, fragment
            path := .rootless (String.ofList (encode isControl path)) }

/-- The URL that a text with a scheme stands for on its own. -/
def readAbsolute (scheme : String) (rest : List Char) : Except Error Url :=
  if scheme = "file" then readFile rest
  else if isSpecial scheme then readAfterSlashes scheme (rest.dropWhile (isSlash true))
  else readPlain scheme rest

/-! ## Relative URLs -/

/-- The directory of a path: its segments but the last. -/
def Path.directory : Path → List String
  | .segments list => list.dropLast
  | .rootless _ => []

/-- The URL that a text without a scheme stands for, relative to a web address. -/
def readRelative (base : Url) (cs : List Char) : Except Error Url :=
  let special := isSpecial base.scheme
  match cs with
  | [] => .ok { base with fragment := none }
  | '?' :: _ =>
      let (query, fragment) := splitTail special cs
      .ok { base with query, fragment }
  | '#' :: _ => .ok { base with fragment := (splitTail special cs).2 }
  | c :: rest =>
      if isSlash special c then
        match rest with
        | d :: more =>
            if isSlash special d then
              if c = '/' ∧ d = '/' then readAfterSlashes base.scheme more
              else readAfterSlashes base.scheme (more.dropWhile (isSlash special))
            else .ok (withPath base.scheme base.authority [] rest)
        | [] => .ok (withPath base.scheme base.authority [] [])
      else .ok (withPath base.scheme base.authority base.path.directory cs)

/-- The URL that a text stands for on its own. -/
def parse (text : String) : Except Error Url :=
  match splitScheme (clean text.toList) with
  | some (scheme, rest) => readAbsolute scheme rest
  | none => .error .relativeWithoutBase

/-- The URL that a text stands for relative to another one. -/
def join (base : Url) (text : String) : Except Error Url :=
  let cs := clean text.toList
  match splitScheme cs with
  | some (scheme, rest) =>
      let slashes := (rest.takeWhile (isSlash true)).length
      if scheme ≠ "file" ∧ isSpecial scheme ∧ scheme = base.scheme ∧ slashes < 2 then
        readRelative base rest
      else readAbsolute scheme rest
  | none =>
      match cs, base.path with
      | '#' :: _, _ => readRelative base cs
      | _, .rootless _ => .error .relativeToRootless
      | _, _ => readRelative base cs

end NetConsole.Url
