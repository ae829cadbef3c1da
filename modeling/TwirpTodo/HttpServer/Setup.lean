import TwirpTodo.Errors
import Mathlib.Data.List.Perm.Basic

namespace TwirpTodo.HttpServer

/-- `serverConfig`: the network family and address `Run` listens on. -/
structure ServerConfig where
  network : String
  address : String
  deriving DecidableEq, Repr

/-- `httpserver.Config`, filled from flags. -/
structure Config where
  address : String
  deriving DecidableEq, Repr

/-- An `Option` of `New`: the `serverOptionFunc` made by `WithServerAddress`, or
a `serverOptions` list. -/
inductive ServerOption where
  | withServerAddress (network address : String)
  | serverOptions (options : List ServerOption)
  deriving Repr

/-- The body of the closure `WithServerAddress` returns. -/
def serverAddress (network address : String) (c : ServerConfig) : Except GoError ServerConfig :=
  if network = "udp" ∨ network = "unixgram" then .error (.errorf "unsupported network %q" [network])
  else if network = "" then .error (.new "network must not be empty")
  else if address = "" then .error (.new "address must not be empty")
  else .ok { c with network := network, address := address }

mutual

def ServerOption.apply : ServerOption → ServerConfig → Except GoError ServerConfig
  | .withServerAddress network address, c => serverAddress network address c
  | .serverOptions options, c => applyOptions options c

/-- `serverOptions.apply`: the options in order, stopping at the first error. -/
def applyOptions : List ServerOption → ServerConfig → Except GoError ServerConfig
  | [], c => .ok c
  | o :: rest, c => o.apply c >>= applyOptions rest

end

def withConfig (c : Config) : ServerOption := .serverOptions [.withServerAddress "tcp" c.address]

/-- A `TwirpServer`: an `http.Handler` that names its route. Twirp path prefixes
are never empty. -/
structure TwirpServer where
  service : String
  pathPrefix : String
  pathPrefix_ne : pathPrefix ≠ ""
  deriving DecidableEq

/-- The Twirp server generated for `service TodoService` of package
`bakins.todo.v1`. -/
def todoService : TwirpServer :=
  ⟨"bakins.todo.v1.TodoService", "/twirp/bakins.todo.v1.TodoService/", by decide⟩

/-- What the `ServeMux` routes to: a Twirp server or any other handler. -/
inductive Handler where
  | twirp (server : TwirpServer)
  | other (name : String)
  deriving DecidableEq

/-- The middlewares in `s.chain`: the two `New` adds and those of `AddMiddleware`. -/
inductive Middleware where
  | h2c
  | gzip
  | custom (name : String)
  deriving DecidableEq, Repr

/-- A `Server` during setup. `reflection` lists the services registered with
the built-in reflection server, which describes exactly those. -/
structure Server where
  chain : List Middleware
  mux : List (String × Handler)
  reflection : List TwirpServer
  config : ServerConfig

/-- `http.ServeMux.Handle`, which panics on an empty pattern and on a pattern
registered before; `.error` carries the panic value. -/
def muxHandle (mux : List (String × Handler)) (pattern : String) (handler : Handler) :
    Except String (List (String × Handler)) :=
  if pattern = "" then .error "http: invalid pattern"
  else if mux.any (·.1 == pattern) then .error ("http: multiple registrations for " ++ pattern)
  else .ok (mux ++ [(pattern, handler)])

def Server.handle (s : Server) (pattern : String) (handler : Handler) : Except String Server :=
  (muxHandle s.mux pattern handler).map fun mux => { s with mux := mux }

def Server.registerService (s : Server) (t : TwirpServer) : Except String Server :=
  (muxHandle s.mux t.pathPrefix (.twirp t)).map fun mux =>
    { s with mux := mux, reflection := s.reflection ++ [t] }

def Server.addMiddleware (s : Server) (middleware : Middleware) : Server :=
  { s with chain := s.chain ++ [middleware] }

/-- `New` with the built-in reflection server `reflection`: the options fill
the config over the default `tcp`, `127.0.0.1:0`; the reflection server is
registered on the empty mux (see `new_registers_reflection`), then `h2c` and
`gzip` are added. -/
def new (reflection : TwirpServer) (options : List ServerOption) : Except GoError Server :=
  match applyOptions options ⟨"tcp", "127.0.0.1:0"⟩ with
  | .error err => .error (.wrapf "failed to create HTTP server %w" [] err)
  | .ok cfg =>
    .ok ((Server.addMiddleware ⟨[], [(reflection.pathPrefix, .twirp reflection)], [reflection], cfg⟩
      .h2c).addMiddleware .gzip)

theorem new_registers_reflection (reflection : TwirpServer) (cfg : ServerConfig) :
    (Server.mk [] [] [] cfg).registerService reflection =
      .ok ⟨[], [(reflection.pathPrefix, .twirp reflection)], [reflection], cfg⟩ := by
  simp [Server.registerService, muxHandle, reflection.pathPrefix_ne, Except.map]

/-- A setup call: `RegisterService`, `Handle` or `AddMiddleware`. -/
inductive SetupCall where
  | registerService (t : TwirpServer)
  | handle (pattern : String) (handler : Handler)
  | addMiddleware (middleware : Middleware)

def Server.setup (s : Server) : SetupCall → Except String Server
  | .registerService t => s.registerService t
  | .handle pattern handler => s.handle pattern handler
  | .addMiddleware middleware => .ok (s.addMiddleware middleware)

def Server.setupAll (s : Server) : List SetupCall → Except String Server
  | [] => .ok s
  | call :: rest => s.setup call >>= (·.setupAll rest)

/-- The Twirp servers the mux routes at their own path prefix. -/
def Server.routed (s : Server) : List TwirpServer :=
  s.mux.filterMap fun
    | (pattern, .twirp t) => if pattern = t.pathPrefix then some t else none
    | _ => none

/-- The routes added by `Handle` calls. -/
def handledRoutes (calls : List SetupCall) : List (String × Handler) :=
  calls.filterMap fun
    | .handle pattern handler => some (pattern, handler)
    | _ => none

end TwirpTodo.HttpServer
