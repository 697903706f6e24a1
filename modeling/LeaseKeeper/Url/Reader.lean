import LeaseKeeper.Url.Host

/-!
# Reading URLs

`Url.parse` reads a URL that stands on its own; blanks and controls around it and line
ends and tabs within are left out. `Url.below` reads a path relative to a URL: it takes
the place of what stands behind the last slash there. Dots as segments are resolved, and
what follows a number sign is dropped.
-/

namespace LeaseKeeper.Url

open Text

/-! ## Characters -/

/-- Whether the character is a control or the space. -/
def isOuter (c : Char) : Bool := c.toNat ≤ 0x20

/-- The characters that count. -/
def clean (s : String) : List Char :=
  let cs := s.toList.dropWhile isOuter
  let cs := (cs.reverse.dropWhile isOuter).reverse
  cs.filter fun c => c != '\t' && c != '\n' && c != '\r'

/-- Whether the character divides a path. -/
def isSlash (special : Bool) (c : Char) : Bool := c == '/' || (special && c == '\\')

/-- Whether the character ends what stands in front of the path. -/
def endsAuthority (special : Bool) (c : Char) : Bool := isSlash special c || c == '?' || c == '#'

/-- Whether the character may stand in a scheme behind the first letter. -/
def isSchemeChar (c : Char) : Bool := c.isAlphanum || c == '+' || c == '-' || c == '.'

/-- The scheme, in small letters, and what stands behind its colon. -/
def splitScheme? : List Char → Option (String × List Char)
  | [] => none
  | c :: cs =>
    if c.isAlpha then
      let name := cs.takeWhile isSchemeChar
      match cs.drop name.length with
      | ':' :: rest => some (String.ofList (lowerChars (c :: name)), rest)
      | _ => none
    else none

/-! ## Paths and queries -/

/-- Whether a segment stands for the place itself. -/
def isDot (cs : List Char) : Bool := [".", "%2e"].contains (String.ofList (lowerChars cs))

/-- Whether a segment stands for the place above. -/
def isDotDot (cs : List Char) : Bool :=
  ["..", ".%2e", "%2e.", "%2e%2e"].contains (String.ofList (lowerChars cs))

/-- Goes down a path segment by segment from where `done` leads. -/
def descend (done : List String) : List (List Char) → List String
  | [] => done
  | [s] =>
    if isDotDot s then done.dropLast ++ [""]
    else if isDot s then done ++ [""]
    else done ++ [String.ofList (percentEncode isEncodedInPath s)]
  | s :: rest =>
    if isDotDot s then descend done.dropLast rest
    else if isDot s then descend done rest
    else descend (done ++ [String.ofList (percentEncode isEncodedInPath s)]) rest

/-- The query, what follows a number sign being dropped. -/
def readQuery? (special : Bool) : List Char → Option String
  | '?' :: cs =>
    some (String.ofList (percentEncode (isEncodedInQuery special) (cs.takeWhile (· != '#'))))
  | _ => none

/-- Whether the character ends a path. -/
def endsPath (c : Char) : Bool := c == '?' || c == '#'

/-- A path behind what `done` leads to, and the query behind it. -/
def readPath (special : Bool) (done : List String) (cs : List Char) : Path × Option String :=
  let path := cs.takeWhile (!endsPath ·)
  (.segments (descend done (path.splitOnP (isSlash special))),
    readQuery? special (cs.drop path.length))

/-- The path behind a host; a special URL has one even if none is written. -/
def readRootedPath (special : Bool) (cs : List Char) : Path × Option String :=
  match cs with
  | [] => (.segments (if special then [""] else []), none)
  | c :: rest =>
    if isSlash special c then readPath special [] rest
    else if endsPath c && !special then (.segments [], readQuery? special (c :: rest))
    else readPath special [] (c :: rest)

/-- A path without a slash in front. -/
def readRootlessPath (cs : List Char) : Path × Option String :=
  let path := cs.takeWhile (!endsPath ·)
  (.rootless (String.ofList (percentEncode (fun _ => false) path)),
    readQuery? false (cs.drop path.length))

/-! ## Hosts and ports -/

/-- A number, or nothing where there are no digits. -/
def readPort? : List Char → Except UrlFault (Option Nat)
  | [] => .ok none
  | cs =>
    match cs.all Char.isDigit, digitsValue? 10 cs with
    | true, some n => if n < 65536 then .ok (some n) else .error .port
    | _, _ => .error .port

/-- The characters up to the last at sign, if there is one, and those behind it. -/
def splitUserinfo (cs : List Char) : Option (List Char) × List Char :=
  let tail := (cs.reverse.takeWhile (· != '@')).reverse
  if tail.length = cs.length then (none, cs)
  else (some (cs.take (cs.length - tail.length - 1)), tail)

/-- The length of a host at the start: up to a colon outside of brackets. -/
def hostLength (bracketed : Bool) : List Char → Nat
  | [] => 0
  | '[' :: cs => 1 + hostLength true cs
  | ']' :: cs => 1 + hostLength false cs
  | ':' :: cs => if bracketed then 1 + hostLength bracketed cs else 0
  | _ :: cs => 1 + hostLength bracketed cs

/-- What is encoded of the part before the at sign. -/
def isEncodedInUserinfo (c : Char) : Bool :=
  isEncodedInPath c || "/;=@[\\]^|".toList.contains c

/-- Reads what stands behind two slashes. A backslash ends a port in any URL; where it is no
slash, the path begins with it. -/
def readAuthority (scheme : String) (cs : List Char) : Except UrlFault Url := do
  let special := isSpecial scheme
  let authority := cs.takeWhile (!endsAuthority special ·)
  let rest := cs.drop authority.length
  let (userinfo, place) := splitUserinfo authority
  if userinfo == some [] && place.isEmpty && !rest.isEmpty then throw .emptyHost
  let name := place.take (hostLength false place)
  let port := (place.drop name.length).takeWhile (· != '\\')
  if name.isEmpty && (special || !port.isEmpty) then throw .emptyHost
  let host ← if special then readHost name else readPlainHost name
  let number ← readPort? (port.drop 1)
  if name.isEmpty && !(userinfo.getD []).isEmpty && userinfo != some [':'] then throw .emptyHost
  let (path, query) := readRootedPath special (place.drop (name.length + port.length) ++ rest)
  pure {
    scheme := scheme
    userinfo := String.ofList (percentEncode isEncodedInUserinfo (userinfo.getD []))
    host := if name.isEmpty then none else some host
    port := if number == usualPort? scheme then none else number
    path := path
    query := query }

/-- Whether the text is a letter with a colon, the name of a drive. -/
def isDrive : List Char → Bool
  | [c, ':'] => c.isAlpha
  | [c, '|'] => c.isAlpha
  | _ => false

/-- Reads what stands behind the scheme of a file. -/
def readFile (cs : List Char) : Except UrlFault Url := do
  let slashes := (cs.take 2).takeWhile (isSlash true)
  let rest := cs.drop slashes.length
  let name := if slashes.length = 2 then rest.takeWhile (!endsAuthority true ·) else []
  let hasHost := !name.isEmpty && !isDrive name
  let host ← if hasHost then (readHost name).map some else pure none
  let (path, query) := readRootedPath true (if hasHost then rest.drop name.length else rest)
  pure {
    scheme := fileScheme, userinfo := "", port := none, path := path, query := query
    host := host.filter (· != "localhost") }

/-- Reads a URL. -/
def parse (s : String) : Except UrlFault Url :=
  match splitScheme? (clean s) with
  | none => .error .noBase
  | some (scheme, cs) =>
    if scheme = fileScheme then readFile cs
    else if isSpecial scheme then readAuthority scheme (cs.dropWhile (isSlash true))
    else
      match cs with
      | '/' :: '/' :: rest => readAuthority scheme rest
      | cs =>
        let (path, query) :=
          if cs.head? == some '/' then readRootedPath false cs else readRootlessPath cs
        .ok {
          scheme := scheme, userinfo := "", host := none, port := none, path := path
          query := query }

/-- Reads a path that stands in the place of what is behind the last slash. -/
def below (u : Url) (relative : String) : Except UrlFault Url :=
  match u.path with
  | .rootless _ => .error .rootlessBase
  | .segments parts =>
    let (path, query) := readPath (isSpecial u.scheme) parts.dropLast (clean relative)
    .ok { u with path := path, query := query }

end LeaseKeeper.Url
