import TwirpTodo.HttpServer.Setup

namespace TwirpTodo.HttpServer

/-- A `net.Addr`: what `Listener.Addr()` returns for the bound listener. -/
structure Addr where
  network : String
  address : String
  deriving DecidableEq, Repr

/-- A connection accepted by `http.Server.Serve`, by its `ConnState`:
`fresh` before its first request, `active` while a handler runs, `idle` between
keep-alive requests, `hijacked` once the h2c handler has taken it over (the
`http.Server` no longer tracks it), `closed`. -/
inductive Conn where
  | fresh
  | active
  | idle
  | hijacked
  | closed
  deriving DecidableEq, Repr

/-- Where `Run` is: before `net.Listen`, bound but not yet stored, serving
under the errgroup, or returned with `eg.Wait()`'s result. -/
inductive RunPhase where
  | idle
  | bound
  | serving
  | returned (result : Option GoError)
  deriving DecidableEq, Repr

/-- The serve task: starting (its listener not yet tracked by the
`http.Server`), in the `Accept` loop, or returned from `svr.Serve`. -/
inductive ServeTask where
  | starting
  | accepting
  | returned (err : GoError)
  deriving DecidableEq, Repr

/-- The shutdown-watcher task: blocked on `<-ctx.Done()`, inside
`svr.Shutdown(shutdownCtx)`, or returned; `Shutdown`'s result is discarded. -/
inductive Watcher where
  | waiting
  | shuttingDown
  | returned (shutdown : Option GoError)
  deriving DecidableEq, Repr

/-- A `WaitForAddress` call: the error of its own context once done, and what
it returned. -/
structure Waiter where
  ctxErr : Option GoError
  result : Option (Except GoError Addr)
  deriving DecidableEq, Repr

/-- A `Server` through one call of `Run`, with the `http.Server` it serves, the
connections that server accepted and the `WaitForAddress` calls. `slot` is
`s.listener`; `bound` is the listener `net.Listen` returned, `listenerOpen`
whether it is still open. -/
structure Lifecycle where
  config : ServerConfig
  slot : Option Addr
  bound : Option Addr
  listenerOpen : Bool
  run : RunPhase
  serve : ServeTask
  watcher : Watcher
  parentDone : Bool
  firstErr : Option GoError
  inShutdown : Bool
  conns : List Conn
  waiters : List Waiter
  deriving DecidableEq, Repr

/-- A server from `New` with this config, `Run` not called yet. -/
def Lifecycle.init (config : ServerConfig) : Lifecycle :=
  ⟨config, none, none, false, .idle, .starting, .waiting, false, none, false, [], []⟩

/-- What the serve task returns to the errgroup: `http.ErrServerClosed` is
not an error. -/
def serveTaskResult (err : GoError) : Option GoError :=
  if err = .errServerClosed then none else some err

theorem serveTaskResult_eq_none {err : GoError} : serveTaskResult err = none ↔ err = .errServerClosed := by
  unfold serveTaskResult
  split <;> simp_all

/-- The errgroup's context is done once the caller cancels `ctx` or a task
returned an error. -/
def Lifecycle.groupDone (s : Lifecycle) : Bool := s.parentDone || s.firstErr.isSome

/-- `Serve` returns `err`: its deferred `l.Close()` closes the listener, and
the task hands the result to the errgroup, which keeps the first error. -/
def Lifecycle.serveReturns (s : Lifecycle) (err : GoError) : Lifecycle :=
  { s with
    serve := .returned err
    listenerOpen := false
    firstErr := s.firstErr <|> serveTaskResult err }

/-- `Shutdown` may return `nil` once no tracked connection is busy and no
listener is tracked, that is once `Serve` has left its loop. -/
def Lifecycle.quiescent (s : Lifecycle) : Bool :=
  s.conns.all (fun c => c = .idle ∨ c = .hijacked ∨ c = .closed) && s.serve != .accepting

/-- One pass of `Shutdown`'s loop: `closeIdleConns` closes the idle
connections, and `Shutdown` returns `nil` if the server was quiescent. -/
def Lifecycle.shutdownPoll (s : Lifecycle) : Lifecycle :=
  { s with
    conns := s.conns.map fun c => if c = .idle then .closed else c
    watcher := if s.quiescent then .returned none else s.watcher }

/-- What can happen to one accepted connection: a request arrives, its handler
returns (`keepAlive`: the client keeps the connection), the h2c handler hijacks
it, the client closes it, or `Shutdown` closes it for having sent no request
for 5 s. -/
inductive ConnEvent where
  | request
  | handlerReturns (keepAlive : Bool)
  | upgrade
  | clientCloses
  | staleFresh
  deriving DecidableEq, Repr

/-- What can happen to one `WaitForAddress` call: its context ends (`expired`:
by deadline), the ticker fires and it loads the slot, or it takes the
`ctx.Done()` case. -/
inductive WaitEvent where
  | ctxDone (expired : Bool)
  | tick
  | returnsErr
  deriving DecidableEq, Repr

/-- A scheduling step. `listen` carries `net.Listen`'s outcome; `acceptFails`
an error of `Accept`; `graceExpires` the end of the 10 s `shutdownCtx`. -/
inductive Action where
  | listen (result : Except String Addr)
  | store
  | serveStart
  | accept
  | acceptFails (message : String)
  | cancel
  | watch
  | shutdownPoll
  | graceExpires
  | wait
  | conn (i : Nat) (event : ConnEvent)
  | enterWait
  | waiter (k : Nat) (event : WaitEvent)
  deriving DecidableEq, Repr

/-- How a connection moves; `none` when the event cannot happen to it. A
response finished during shutdown closes the connection: `doKeepAlives` is off. -/
def Conn.next (inShutdown : Bool) : ConnEvent → Conn → Option Conn
  | .request, .fresh => some .active
  | .request, .idle => some .active
  | .handlerReturns keepAlive, .active =>
    some (if keepAlive && !inShutdown then .idle else .closed)
  | .upgrade, .active => some .hijacked
  | .clientCloses, .fresh => some .closed
  | .clientCloses, .idle => some .closed
  | .clientCloses, .hijacked => some .closed
  | .staleFresh, .fresh => if inShutdown then some .closed else none
  | _, _ => none

/-- How a `WaitForAddress` call moves: the ticker case returns the address of
the listener in the slot, if any; the `ctx.Done()` case returns `ctx.Err()`. -/
def Waiter.next (slot : Option Addr) : WaitEvent → Waiter → Option Waiter
  | .ctxDone expired, ⟨none, result⟩ =>
    some ⟨some (if expired then .deadlineExceeded else .canceled), result⟩
  | .tick, ⟨ctxErr, none⟩ => slot.map fun addr => ⟨ctxErr, some (.ok addr)⟩
  | .returnsErr, ⟨some err, none⟩ => some ⟨some err, some (.error err)⟩
  | _, _ => none

/-- The interleaving semantics of `Run`, of the `http.Server` it drives and of
`WaitForAddress`; `none` when the step is not enabled. The two errgroup tasks
exist once `Run` has stored its listener. -/
def step (s : Lifecycle) : Action → Option Lifecycle
  | .listen result =>
    if s.run = .idle then
      match result with
      | .ok addr => some { s with run := .bound, bound := some addr, listenerOpen := true }
      | .error cause =>
        some { s with run := .returned (some (.wrapf "failed to listen %q %q %w"
          [s.config.network, s.config.address] (.net cause))) }
    else none
  | .store => if s.run = .bound then some { s with run := .serving, slot := s.bound } else none
  | .serveStart =>
    if s.slot.isSome ∧ s.serve = .starting then
      if s.inShutdown then some (s.serveReturns .errServerClosed)
      else some { s with serve := .accepting }
    else none
  | .accept =>
    if s.serve = .accepting ∧ s.listenerOpen then some { s with conns := s.conns ++ [.fresh] }
    else none
  | .acceptFails message =>
    if s.serve = .accepting then
      some (s.serveReturns (if s.inShutdown then .errServerClosed else .net message))
    else none
  | .cancel => some { s with parentDone := true }
  | .watch =>
    if s.slot.isSome ∧ s.watcher = .waiting ∧ s.groupDone then
      some { s with
        watcher := .shuttingDown
        inShutdown := true
        listenerOpen := if s.serve = .accepting then false else s.listenerOpen }
    else none
  | .shutdownPoll => if s.watcher = .shuttingDown then some s.shutdownPoll else none
  | .graceExpires =>
    if s.watcher = .shuttingDown then some { s with watcher := .returned (some .deadlineExceeded) }
    else none
  | .wait =>
    match s.run, s.serve, s.watcher with
    | .serving, .returned _, .returned _ => some { s with run := .returned s.firstErr }
    | _, _, _ => none
  | .conn i event => do
    let c ← s.conns[i]?
    let c' ← Conn.next s.inShutdown event c
    some { s with conns := s.conns.set i c' }
  | .enterWait => some { s with waiters := s.waiters ++ [⟨none, none⟩] }
  | .waiter k event => do
    let w ← s.waiters[k]?
    let w' ← Waiter.next s.slot event w
    some { s with waiters := s.waiters.set k w' }

theorem step_listen {s s' : Lifecycle} {result : Except String Addr}
    (stepped : step s (.listen result) = some s') : s.run = .idle ∧
      ((∃ addr, result = .ok addr ∧
          s' = { s with run := .bound, bound := some addr, listenerOpen := true }) ∨
        ∃ err, s' = { s with run := .returned (some err) }) := by
  simp only [step] at stepped
  split at stepped
  · rename_i idle
    refine ⟨idle, ?_⟩
    cases result with
    | ok addr => exact .inl ⟨addr, rfl, (Option.some.inj stepped).symm⟩
    | error cause => exact .inr ⟨_, (Option.some.inj stepped).symm⟩
  · cases stepped

theorem step_store {s s' : Lifecycle} (stepped : step s .store = some s') :
    s.run = .bound ∧ s' = { s with run := .serving, slot := s.bound } := by
  simp only [step] at stepped
  split at stepped
  · exact ⟨‹_›, (Option.some.inj stepped).symm⟩
  · cases stepped

theorem step_serveStart {s s' : Lifecycle} (stepped : step s .serveStart = some s') :
    s.slot.isSome ∧ s.serve = .starting ∧
      (s.inShutdown = true ∧ s' = s.serveReturns .errServerClosed ∨
        s.inShutdown = false ∧ s' = { s with serve := .accepting }) := by
  simp only [step] at stepped
  split at stepped
  · rename_i started
    refine ⟨started.1, started.2, ?_⟩
    cases shutdown : s.inShutdown
    · simp only [shutdown, Bool.false_eq_true, if_false, Option.some.injEq] at stepped
      exact .inr ⟨rfl, stepped.symm⟩
    · simp only [shutdown, if_true, Option.some.injEq] at stepped
      exact .inl ⟨rfl, stepped.symm⟩
  · cases stepped

theorem step_accept {s s' : Lifecycle} (stepped : step s .accept = some s') :
    s.serve = .accepting ∧ s' = { s with conns := s.conns ++ [.fresh] } := by
  simp only [step] at stepped
  split at stepped
  · exact ⟨‹_ ∧ _›.1, (Option.some.inj stepped).symm⟩
  · cases stepped

theorem step_acceptFails {s s' : Lifecycle} {message : String}
    (stepped : step s (.acceptFails message) = some s') : s.serve = .accepting ∧
      s' = s.serveReturns (if s.inShutdown then .errServerClosed else .net message) := by
  simp only [step] at stepped
  split at stepped
  · exact ⟨‹_›, (Option.some.inj stepped).symm⟩
  · cases stepped

theorem step_watch {s s' : Lifecycle} (stepped : step s .watch = some s') :
    s.slot.isSome ∧ s.watcher = .waiting ∧
      s' = { s with
        watcher := .shuttingDown
        inShutdown := true
        listenerOpen := if s.serve = .accepting then false else s.listenerOpen } := by
  simp only [step] at stepped
  split at stepped
  · exact ⟨‹_ ∧ _ ∧ _›.1, ‹_ ∧ _ ∧ _›.2.1, (Option.some.inj stepped).symm⟩
  · cases stepped

theorem step_shutdownPoll {s s' : Lifecycle} (stepped : step s .shutdownPoll = some s') :
    s.watcher = .shuttingDown ∧ s' = s.shutdownPoll := by
  simp only [step] at stepped
  split at stepped
  · exact ⟨‹_›, (Option.some.inj stepped).symm⟩
  · cases stepped

theorem step_graceExpires {s s' : Lifecycle} (stepped : step s .graceExpires = some s') :
    s.watcher = .shuttingDown ∧ s' = { s with watcher := .returned (some .deadlineExceeded) } := by
  simp only [step] at stepped
  split at stepped
  · exact ⟨‹_›, (Option.some.inj stepped).symm⟩
  · cases stepped

theorem step_wait {s s' : Lifecycle} (stepped : step s .wait = some s') :
    s.run = .serving ∧ (∃ err, s.serve = .returned err) ∧ (∃ shutdown, s.watcher = .returned shutdown) ∧
      s' = { s with run := .returned s.firstErr } := by
  simp only [step] at stepped
  split at stepped
  · rename_i err shutdown run serve watcher
    exact ⟨run, ⟨err, serve⟩, ⟨shutdown, watcher⟩, (Option.some.inj stepped).symm⟩
  · cases stepped

theorem step_conn {s s' : Lifecycle} {i : Nat} {event : ConnEvent}
    (stepped : step s (.conn i event) = some s') : ∃ c c', s.conns[i]? = some c ∧
      Conn.next s.inShutdown event c = some c' ∧ s' = { s with conns := s.conns.set i c' } := by
  simp only [step, Option.bind_eq_bind, Option.bind_eq_some, Option.some.injEq] at stepped
  obtain ⟨c, found, c', moved, rfl⟩ := stepped
  exact ⟨c, c', found, moved, rfl⟩

theorem step_waiter {s s' : Lifecycle} {k : Nat} {event : WaitEvent}
    (stepped : step s (.waiter k event) = some s') : ∃ w w', s.waiters[k]? = some w ∧
      Waiter.next s.slot event w = some w' ∧ s' = { s with waiters := s.waiters.set k w' } := by
  simp only [step, Option.bind_eq_bind, Option.bind_eq_some, Option.some.injEq] at stepped
  obtain ⟨w, found, w', moved, rfl⟩ := stepped
  exact ⟨w, w', found, moved, rfl⟩

def run (s : Lifecycle) : List Action → Option Lifecycle
  | [] => some s
  | a :: rest => (step s a).bind (run · rest)

inductive Reachable (config : ServerConfig) : Lifecycle → Prop
  | start : Reachable config (Lifecycle.init config)
  | next {s s' : Lifecycle} {a : Action} : Reachable config s → step s a = some s' →
      Reachable config s'

end TwirpTodo.HttpServer
