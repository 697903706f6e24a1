import LeaseKeeper.Text.Blank

/-!
# URLs

An address on the net: a scheme, and either a host with what leads to it or none, a path,
and a query. The path of a rootless URL is a text of its own, so nothing can be addressed
below it (`Path.rootless`); every other path is a list of segments. What is asked of a
server is the path with the query (`Url.target`).
-/

namespace LeaseKeeper

/-- Why a text is no URL. -/
inductive UrlFault where
  | emptyHost
  | domain
  | port
  | ipv4
  | ipv6
  | hostCharacter
  | noBase
  | rootlessBase
deriving DecidableEq, Repr

/-- The reason in words. -/
def UrlFault.message : UrlFault → String
  | .emptyHost => "empty host"
  | .domain => "invalid international domain name"
  | .port => "invalid port number"
  | .ipv4 => "invalid IPv4 address"
  | .ipv6 => "invalid IPv6 address"
  | .hostCharacter => "invalid domain character"
  | .noBase => "relative URL without a base"
  | .rootlessBase => "relative URL with a cannot-be-a-base base"

/-- A path. -/
inductive Url.Path where
  /-- Does not begin with a slash. -/
  | rootless (text : String)
  /-- Each segment stands behind a slash. -/
  | segments (parts : List String)
deriving DecidableEq, Repr

/-- An address on the net. -/
structure Url where
  scheme : String
  userinfo : String
  host : Option String
  port : Option Nat
  path : Url.Path
  query : Option String
deriving DecidableEq, Repr

namespace Url

/-- The port of a scheme, for schemes in which every URL has a host. -/
def usualPort? (scheme : String) : Option Nat :=
  [("http", 80), ("https", 443), ("ws", 80), ("wss", 443), ("ftp", 21)].lookup scheme

/-- The scheme of files. -/
def fileScheme : String := "file"

/-- Whether a backslash is as good as a slash. -/
def isSpecial (scheme : String) : Bool := (usualPort? scheme).isSome || scheme == fileScheme

/-- The text of a path. -/
def Path.text : Path → String
  | rootless s => s
  | segments parts => String.join (parts.map fun s => "/" ++ s)

/-- Whether the path is that of a server's root, or none. -/
def Path.isRoot : Path → Bool
  | rootless _ => false
  | segments parts => parts.all String.isEmpty && parts.length ≤ 1

/-- What is asked of a server. -/
def target (u : Url) : String :=
  u.path.text ++
    (match u.query with
      | some q => "?" ++ q
      | none => "")

/-- Whether the URL is one of the web. -/
def isHttp (u : Url) : Bool := u.scheme == "http" || u.scheme == "https"

end Url

end LeaseKeeper
