import TwirpTodo.HttpServer.Return

namespace TwirpTodo.HttpServer

/-- Whether a step is an event of one of the accepted connections. -/
def Action.isConn : Action → Bool
  | .conn _ _ => true
  | _ => false

/-- `closeIdleConns`, as `Shutdown`'s poll applies it to the connections. -/
def closeIdle (c : Conn) : Conn := if c = .idle then .closed else c

theorem step_accept_open {s s' : Lifecycle} (stepped : step s .accept = some s') :
    s.listenerOpen = true := by
  simp only [step] at stepped
  split at stepped
  · exact ‹_ ∧ _›.2
  · cases stepped

/-- What a step does to the connections: `Accept` appends a fresh one, a
connection event moves one by `Conn.next`, `Shutdown`'s poll closes the idle
ones, and every other step leaves them. `inShutdown` is never cleared. -/
theorem step_conns {s s' : Lifecycle} {a : Action} (stepped : step s a = some s') :
    (s.inShutdown = true → s'.inShutdown = true) ∧
      ((a = .accept ∧ s.serve = .accepting ∧ s.listenerOpen = true ∧ s'.conns = s.conns ++ [.fresh]) ∨
        (∃ i event c c', a = .conn i event ∧ s.conns[i]? = some c ∧
          Conn.next s.inShutdown event c = some c' ∧ s'.conns = s.conns.set i c') ∨
        (a = .shutdownPoll ∧ s'.conns = s.conns.map closeIdle) ∨
        (a.isConn = false ∧ s'.conns = s.conns)) := by
  cases a with
  | accept =>
    have listening := step_accept_open stepped
    obtain ⟨accepting, rfl⟩ := step_accept stepped
    exact ⟨id, .inl ⟨rfl, accepting, listening, rfl⟩⟩
  | conn i event =>
    obtain ⟨c, c', found, moved, rfl⟩ := step_conn stepped
    exact ⟨id, .inr (.inl ⟨i, event, c, c', rfl, found, moved, rfl⟩)⟩
  | shutdownPoll =>
    obtain ⟨-, rfl⟩ := step_shutdownPoll stepped
    exact ⟨id, .inr (.inr (.inl ⟨rfl, rfl⟩))⟩
  | watch =>
    obtain ⟨-, -, rfl⟩ := step_watch stepped
    exact ⟨fun _ => rfl, .inr (.inr (.inr ⟨rfl, rfl⟩))⟩
  | listen result =>
    obtain ⟨-, ⟨addr, -, rfl⟩ | ⟨err, rfl⟩⟩ := step_listen stepped <;>
      exact ⟨id, .inr (.inr (.inr ⟨rfl, rfl⟩))⟩
  | store =>
    obtain ⟨-, rfl⟩ := step_store stepped
    exact ⟨id, .inr (.inr (.inr ⟨rfl, rfl⟩))⟩
  | serveStart =>
    obtain ⟨-, -, ⟨-, rfl⟩ | ⟨-, rfl⟩⟩ := step_serveStart stepped <;>
      exact ⟨id, .inr (.inr (.inr ⟨rfl, rfl⟩))⟩
  | acceptFails message =>
    obtain ⟨-, rfl⟩ := step_acceptFails stepped
    exact ⟨id, .inr (.inr (.inr ⟨rfl, rfl⟩))⟩
  | cancel =>
    cases stepped
    exact ⟨id, .inr (.inr (.inr ⟨rfl, rfl⟩))⟩
  | graceExpires =>
    obtain ⟨-, rfl⟩ := step_graceExpires stepped
    exact ⟨id, .inr (.inr (.inr ⟨rfl, rfl⟩))⟩
  | wait =>
    obtain ⟨-, -, -, rfl⟩ := step_wait stepped
    exact ⟨id, .inr (.inr (.inr ⟨rfl, rfl⟩))⟩
  | enterWait =>
    cases stepped
    exact ⟨id, .inr (.inr (.inr ⟨rfl, rfl⟩))⟩
  | waiter k event =>
    obtain ⟨w, w', -, -, rfl⟩ := step_waiter stepped
    exact ⟨id, .inr (.inr (.inr ⟨rfl, rfl⟩))⟩

/-- The caller cancels while a request is in its handler. -/
def cancelMidRequest : List Action :=
  [.listen (.ok localListener), .store, .serveStart, .accept, .conn 0 .request, .cancel, .watch]

/-- A connection whose handler runs stays active until that handler returns or
the h2c handler hijacks it: neither `Shutdown`'s polls, nor the end of its grace
period, nor `Run` returning ends a request in progress. -/
theorem active_connection_left_only_by_its_handler {s s' : Lifecycle} {actions : List Action} {i : Nat}
    (active : s.conns[i]? = some .active)
    (running : ∀ keepAlive, Action.conn i (.handlerReturns keepAlive) ∉ actions)
    (notUpgraded : Action.conn i .upgrade ∉ actions) (ran : run s actions = some s') :
    s'.conns[i]? = some .active := by
  induction actions generalizing s with
  | nil =>
    cases ran
    exact active
  | cons a rest ih =>
    simp only [run, Option.bind_eq_some] at ran
    obtain ⟨next, stepped, ran⟩ := ran
    refine ih ?_ (fun keepAlive member => running keepAlive (List.mem_cons_of_mem _ member))
      (fun member => notUpgraded (List.mem_cons_of_mem _ member)) ran
    rcases (step_conns stepped).2 with ⟨-, -, -, conns⟩ | ⟨j, event, c, c', rfl, found, moved, conns⟩ |
      ⟨-, conns⟩ | ⟨-, conns⟩
    · rw [conns, List.getElem?_append_left (List.getElem?_eq_some_iff.mp active).1]
      exact active
    · rw [conns]
      by_cases same : j = i
      · subst same
        cases active.symm.trans found
        cases event with
        | handlerReturns keepAlive => exact absurd (List.mem_cons_self _ _) (running keepAlive)
        | upgrade => exact absurd (List.mem_cons_self _ _) notUpgraded
        | _ => cases moved
      · rw [List.getElem?_set_ne same]
        exact active
    · rw [conns, List.getElem?_map, active]
      rfl
    · rw [conns]
      exact active

/-- The caller cancels while a request is in its handler, and the grace
period ends before the handler returns. -/
def requestOutlivesGrace : List Action :=
  [.cancel, .watch, .acceptFails "use of closed network connection", .shutdownPoll, .graceExpires, .wait]

theorem graceExpiry_leaves_request_running :
    ∃ s s', run (Lifecycle.init ⟨"tcp", "127.0.0.1:8080"⟩) (cancelMidRequest.take 5) = some s ∧
      s.conns[0]? = some .active ∧ run s requestOutlivesGrace = some s' ∧ s'.conns[0]? = some .active := by
  obtain ⟨s, s', started, active, ran⟩ : ∃ s s',
      run (Lifecycle.init ⟨"tcp", "127.0.0.1:8080"⟩) (cancelMidRequest.take 5) = some s ∧
        s.conns[0]? = some .active ∧ run s requestOutlivesGrace = some s' :=
    ⟨_, _, rfl, rfl, rfl⟩
  exact ⟨s, s', started, active, ran,
    active_connection_left_only_by_its_handler active (by decide) (by decide) ran⟩

end TwirpTodo.HttpServer
