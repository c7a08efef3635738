import ApiDiscovery.Client

/-!
A server that answers from a script. Every route, a method with an address, has replies in store; each
request takes the first of them, and the last one stays.
-/

namespace ApiDiscovery

inductive Reply where
  | respond (response : Response)
  | breakDown (message : String)
  | fail (failure : Failure)
  deriving DecidableEq, Repr

structure Server where
  routes : List (String × List Reply) := []
  received : List Request := []
  limit : Option Nat := none
  deriving Inhabited

namespace Server

def routeOf (request : Request) : String := request.method ++ " " ++ request.uri.print

def notFound : Response :=
  { status := 404, body := Text.Utf8.encode "404 page not found\n" }

def setRoute (server : Server) (route : String) (replies : List Reply) : Server :=
  { server with routes := (route, replies) :: server.routes.filter (·.1 != route) }

def replies (server : Server) (route : String) : List Reply := (server.routes.lookup route).getD []

def isReady (server : Server) : Bool :=
  match server.limit with
  | none => true
  | some limit => server.received.length < limit

def outcome : Reply → Except Failure Response
  | .respond response => .ok response
  | .breakDown message => .error (.service message)
  | .fail failure => .error failure

def answer (request : Request) : Exchange Server Response := fun server =>
  if !server.isReady then (.error (.service "buffered service failed: not ready"), server)
  else
    let route := routeOf request
    let heard := { server with received := request :: server.received }
    match server.replies route with
    | [] => (.ok notFound, heard)
    | [last] => (outcome last, heard)
    | first :: others => (outcome first, heard.setRoute route others)

def service : Service Server where
  call := answer

end Server

end ApiDiscovery
