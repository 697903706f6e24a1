import LeaseKeeper.Json.Printer
import LeaseKeeper.Server.Wire

/-!
# Rehearsed networks

What becomes of requests: a network on which nothing is reached or nobody answers, or a
server that answers from a script, whatever is asked or route by route. The last answer of
a route repeats. The requests that a server has seen are kept (`Network.take`).
-/

namespace LeaseKeeper.Rehearsal

open Server

/-- What becomes of requests. -/
inductive Traffic where
  /-- No server is reached. -/
  | unreachable
  /-- Nobody answers in time. -/
  | mute
  /-- Whatever is asked, the answers are given in order. -/
  | queued (answers : List Reception)
  /-- Every route, a method with a target, has answers of its own. -/
  | routed (routes : List (String × List Reception))

/-- A network, and the requests that its server has seen, latest first. -/
structure Network where
  traffic : Traffic
  seen : List Request

namespace Network

/-- A network of which nobody has made use. -/
def ofTraffic (t : Traffic) : Network := ⟨t, []⟩

/-- The answer of a server that has none prepared. -/
def unprepared : Reception :=
  .answered 500 (Json.object [("errors", .array [.text "no response scripted"])]).render

/-- The answer of a route, and the routes afterwards. -/
def followRoute (key : String) : List (String × List Reception) →
    Reception × List (String × List Reception)
  | [] => (unprepared, [])
  | (name, answers) :: rest =>
    if name = key then
      match answers with
      | [] => (unprepared, (name, []) :: rest)
      | [a] => (a, (name, [a]) :: rest)
      | a :: more => (a, (name, more) :: rest)
    else
      let (a, rest) := followRoute key rest
      (a, (name, answers) :: rest)

/-- Sends a request. -/
def send (r : Request) (n : Network) : Reception × Network :=
  match n.traffic with
  | .unreachable => (.lost .unreachable, n)
  | .mute => (.lost .overdue, n)
  | .queued [] => (unprepared, { n with seen := r :: n.seen })
  | .queued (a :: rest) => (a, ⟨.queued rest, r :: n.seen⟩)
  | .routed routes =>
    let (a, routes) := followRoute (r.method ++ " " ++ r.target) routes
    (a, ⟨.routed routes, r :: n.seen⟩)

/-- The requests seen since the last time, oldest first. -/
def take (n : Network) : List Request × Network := (n.seen.reverse, { n with seen := [] })

end Network

end LeaseKeeper.Rehearsal
