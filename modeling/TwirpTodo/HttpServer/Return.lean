import TwirpTodo.HttpServer.Lifecycle

namespace TwirpTodo.HttpServer

theorem Reachable.run {config : ServerConfig} {s s' : Lifecycle} {actions : List Action}
    (reach : Reachable config s) (ran : run s actions = some s') : Reachable config s' := by
  induction actions generalizing s with
  | nil => cases ran; exact reach
  | cons a rest ih =>
    simp only [HttpServer.run, Option.bind_eq_some] at ran
    obtain ⟨next, stepped, ran⟩ := ran
    exact ih (reach.next stepped) ran

/-- When `Run` has returned, its listener is closed. If `Shutdown` also
returned `nil`, within the grace period, every connection the server accepted
is closed or was hijacked by the h2c handler. -/
theorem run_returned_releases_listener {config : ServerConfig} {s : Lifecycle}
    (reach : Reachable config s) {result : Option GoError} (returned : s.run = .returned result) :
    s.listenerOpen = false ∧
      (s.watcher = .returned none → ∀ c ∈ s.conns, c = .closed ∨ c = .hijacked) := by
  have wf := reach.wellformed
  refine ⟨?_, fun finished => (wf.quiet finished).2⟩
  rcases wf.returned result returned with ⟨-, closed⟩ | ⟨⟨err, served⟩, -⟩
  · exact closed
  · exact wf.listenerClosed err served

/-- The listener `Run` binds in the schedules below. -/
def localListener : Addr := ⟨"tcp", "127.0.0.1:8080"⟩

/-- A request still in its handler when the 10 s grace period ends. -/
def graceExpiry : List Action :=
  [.listen (.ok localListener), .store, .serveStart, .accept, .conn 0 .request, .cancel, .watch,
    .acceptFails "use of closed network connection", .shutdownPoll, .graceExpires, .wait]

/-- A connection upgraded to HTTP/2 by the h2c handler before shutdown. -/
def h2cUpgrade : List Action :=
  [.listen (.ok localListener), .store, .serveStart, .accept, .conn 0 .request, .conn 0 .upgrade,
    .cancel, .watch, .acceptFails "use of closed network connection", .shutdownPoll, .wait]

/-- `Run` returns `nil` while a connection it accepted is still running its
handler, and, after a `Shutdown` that completed in time, while a hijacked h2c
connection is still open. -/
theorem run_returns_with_open_connections :
    (∃ s, run (Lifecycle.init ⟨"tcp", "127.0.0.1:8080"⟩) graceExpiry = some s ∧
      s.run = .returned none ∧ s.listenerOpen = false ∧ s.conns = [.active]) ∧
    ∃ s, run (Lifecycle.init ⟨"tcp", "127.0.0.1:8080"⟩) h2cUpgrade = some s ∧
      s.run = .returned none ∧ s.watcher = .returned none ∧ s.conns = [.hijacked] :=
  ⟨⟨_, rfl, rfl, rfl, rfl⟩, _, rfl, rfl, rfl, rfl⟩

theorem h2cUpgrade_releases_listener :
    ∃ s, run (Lifecycle.init ⟨"tcp", "127.0.0.1:8080"⟩) h2cUpgrade = some s ∧
      s.listenerOpen = false ∧ ∀ c ∈ s.conns, c = .closed ∨ c = .hijacked := by
  obtain ⟨s, ran, returned, finished⟩ : ∃ s, run (Lifecycle.init ⟨"tcp", "127.0.0.1:8080"⟩)
      h2cUpgrade = some s ∧ s.run = .returned none ∧ s.watcher = .returned none :=
    ⟨_, rfl, rfl, rfl⟩
  exact ⟨s, ran, (run_returned_releases_listener (Reachable.start.run ran) returned).1,
    (run_returned_releases_listener (Reachable.start.run ran) returned).2 finished⟩

/-- Once its listener is bound, `Run` returns what the serve task handed the
errgroup: `nil` exactly when `Serve` ended with `http.ErrServerClosed` after
`Shutdown` began, and otherwise `Serve`'s own error, never one of `Shutdown`. -/
theorem run_result_is_serve_result {config : ServerConfig} {s : Lifecycle}
    (reach : Reachable config s) {result : Option GoError} (returned : s.run = .returned result)
    (bound : s.bound.isSome) : ∃ err, s.serve = .returned err ∧ result = serveTaskResult err ∧
      (result = none ↔ err = .errServerClosed) ∧ (err = .errServerClosed → s.inShutdown = true) ∧
      (err = .errServerClosed ∨ ∃ message, err = .net message) := by
  have wf := reach.wellformed
  rcases wf.returned result returned with ⟨unbound, -⟩ | ⟨⟨err, served⟩, -, waited⟩
  · simp [unbound] at bound
  have first : result = serveTaskResult err := by rw [waited, wf.firstErr, served]
  exact ⟨err, served, first, first ▸ serveTaskResult_eq_none,
    fun closed => wf.serverClosed (closed ▸ served), wf.serveErr err served⟩

theorem graceExpiry_returns_serve_result :
    ∃ s, run (Lifecycle.init ⟨"tcp", "127.0.0.1:8080"⟩) graceExpiry = some s ∧
      s.serve = .returned .errServerClosed ∧ s.inShutdown = true := by
  obtain ⟨s, ran, returned, bound⟩ : ∃ s, run (Lifecycle.init ⟨"tcp", "127.0.0.1:8080"⟩)
      graceExpiry = some s ∧ s.run = .returned none ∧ s.bound.isSome :=
    ⟨_, rfl, rfl, rfl⟩
  obtain ⟨err, served, -, closed, shutdown, -⟩ :=
    run_result_is_serve_result (Reachable.start.run ran) returned bound
  exact ⟨s, ran, closed.mp rfl ▸ served, shutdown (closed.mp rfl)⟩

end TwirpTodo.HttpServer
