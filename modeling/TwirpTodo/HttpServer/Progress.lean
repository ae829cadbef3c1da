import TwirpTodo.HttpServer.Return

namespace TwirpTodo.HttpServer

def RunPhase.remaining : RunPhase → Nat
  | .idle => 3
  | .bound => 2
  | .serving => 1
  | .returned _ => 0

def ServeTask.remaining : ServeTask → Nat
  | .starting => 2
  | .accepting => 1
  | .returned _ => 0

/-- While it waits on `<-ctx.Done()`, the watcher has one step more before the
errgroup's context is done. -/
def Watcher.remaining (groupDone : Bool) : Watcher → Nat
  | .waiting => if groupDone then 2 else 3
  | .shuttingDown => 1
  | .returned _ => 0

/-- The steps of its own that `Run` is still to take: `net.Listen`, the store,
`eg.Wait()`, the serve task's start and return, and the watcher's. -/
def Lifecycle.remaining (s : Lifecycle) : Nat :=
  s.run.remaining + s.serve.remaining + s.watcher.remaining s.groupDone

/-- While `Run` has not returned, one of its own steps, or the caller's
cancellation of `ctx`, brings it closer to returning, and none of them waits on
a connection or on `WaitForAddress`. -/
theorem Wellformed.exists_step_remaining_lt {s : Lifecycle} (wf : Wellformed s)
    (live : ∀ result, s.run ≠ .returned result) : ∃ a s', step s a = some s' ∧
      s'.remaining < s.remaining ∧ s'.conns = s.conns ∧ s'.waiters = s.waiters := by
  cases run : s.run with
  | idle =>
    refine ⟨.listen (.ok ⟨s.config.network, s.config.address⟩), { s with
        run := .bound
        bound := some ⟨s.config.network, s.config.address⟩
        listenerOpen := true }, by simp [step, run], ?_, rfl, rfl⟩
    simp only [Lifecycle.remaining, run, RunPhase.remaining, Lifecycle.groupDone]
    omega
  | bound =>
    refine ⟨.store, { s with run := .serving, slot := s.bound }, by simp [step, run], ?_, rfl, rfl⟩
    simp only [Lifecycle.remaining, run, RunPhase.remaining, Lifecycle.groupDone]
    omega
  | returned result => exact absurd run (live result)
  | serving =>
    have stored := wf.serving run
    cases watcher : s.watcher with
    | waiting =>
      cases done : s.groupDone
      · refine ⟨.cancel, { s with parentDone := true }, rfl, ?_, rfl, rfl⟩
        simp only [Lifecycle.groupDone] at done
        simp only [Lifecycle.remaining, watcher, Watcher.remaining, Lifecycle.groupDone, done,
          Bool.true_or, if_true, Bool.false_eq_true, if_false]
        omega
      · refine ⟨.watch, { s with
          watcher := .shuttingDown
          inShutdown := true
          listenerOpen := if s.serve = .accepting then false else s.listenerOpen },
          by simp [step, stored, watcher, done], ?_, rfl, rfl⟩
        simp only [Lifecycle.remaining, watcher, Watcher.remaining, done, if_true]
        omega
    | shuttingDown =>
      refine ⟨.graceExpires, { s with watcher := .returned (some .deadlineExceeded) },
        by simp [step, watcher], ?_, rfl, rfl⟩
      simp only [Lifecycle.remaining, watcher, Watcher.remaining]
      omega
    | returned shutdown =>
      cases serve : s.serve with
      | starting =>
        cases shutdown : s.inShutdown
        · refine ⟨.serveStart, { s with serve := .accepting }, by simp [step, stored, serve, shutdown],
            ?_, rfl, rfl⟩
          simp only [Lifecycle.remaining, serve, ServeTask.remaining, watcher, Watcher.remaining]
          omega
        · refine ⟨.serveStart, s.serveReturns .errServerClosed,
            by simp [step, stored, serve, shutdown], ?_, rfl, rfl⟩
          simp only [Lifecycle.remaining, Lifecycle.serveReturns, serve, ServeTask.remaining,
            watcher, Watcher.remaining]
          omega
      | accepting =>
        refine ⟨.acceptFails "use of closed network connection",
          s.serveReturns (if s.inShutdown then .errServerClosed else .net "use of closed network connection"),
          by simp [step, serve], ?_, rfl, rfl⟩
        simp only [Lifecycle.remaining, Lifecycle.serveReturns, serve, ServeTask.remaining, watcher,
          Watcher.remaining]
        omega
      | returned err =>
        refine ⟨.wait, { s with run := .returned s.firstErr }, by simp [step, run, serve, watcher], ?_,
          rfl, rfl⟩
        simp only [Lifecycle.remaining, run, RunPhase.remaining, Lifecycle.groupDone]
        omega

/-- `Run` cannot get stuck: from every reachable state, once the caller cancels
`ctx`, steps of `Run` alone take it to return, while no connection and no
`WaitForAddress` call moves: at the end of the grace period `Shutdown` stops
waiting for busy connections. -/
theorem run_can_return {config : ServerConfig} {s : Lifecycle} (reach : Reachable config s) :
    ∃ actions s', run s actions = some s' ∧ (∃ result, s'.run = .returned result) ∧
      s'.conns = s.conns ∧ s'.waiters = s.waiters := by
  obtain ⟨n, remaining⟩ : ∃ n, s.remaining = n := ⟨_, rfl⟩
  induction n using Nat.strong_induction_on generalizing s with
  | _ n ih =>
    by_cases live : ∀ result, s.run ≠ .returned result
    · obtain ⟨a, s', stepped, less, conns, waiters⟩ := reach.wellformed.exists_step_remaining_lt live
      obtain ⟨actions, s'', ran, returned, conns', waiters'⟩ :=
        ih _ (remaining ▸ less) (reach.next stepped) rfl
      exact ⟨a :: actions, s'', by rw [run, stepped]; exact ran, returned, conns'.trans conns,
        waiters'.trans waiters⟩
    · push_neg at live
      obtain ⟨result, returned⟩ := live
      exact ⟨[], s, rfl, ⟨result, returned⟩, rfl, rfl⟩

theorem init_can_return : ∃ actions s', run (Lifecycle.init ⟨"tcp", "127.0.0.1:8080"⟩) actions = some s' ∧
    (∃ result, s'.run = .returned result) ∧ s'.conns = [] ∧ s'.waiters = [] :=
  @run_can_return ⟨"tcp", "127.0.0.1:8080"⟩ _ Reachable.start

end TwirpTodo.HttpServer
