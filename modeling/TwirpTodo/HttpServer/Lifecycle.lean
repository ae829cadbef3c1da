import TwirpTodo.HttpServer.Run

namespace TwirpTodo.HttpServer

/-- A `WaitForAddress` result is the address in the slot, or the error its own
context ended with. -/
def Waiter.Sound (slot : Option Addr) (w : Waiter) : Prop :=
  (∀ addr, w.result = some (.ok addr) → slot = some addr) ∧
    ∀ err, w.result = some (.error err) → w.ctxErr = some err

theorem Waiter.next_sound {slot : Option Addr} {event : WaitEvent} {w w' : Waiter}
    (sound : w.Sound slot) (moved : Waiter.next slot event w = some w') : w'.Sound slot := by
  unfold Waiter.next at moved
  split at moved
  · cases moved
    exact ⟨sound.1, fun err returned => nomatch sound.2 err returned⟩
  · obtain ⟨addr, found, rfl⟩ := Option.map_eq_some'.mp moved
    exact ⟨fun _ returned => (by cases returned; exact found), fun _ returned => nomatch returned⟩
  · cases moved
    exact ⟨fun _ returned => (nomatch returned), fun _ returned => by cases returned; rfl⟩
  · cases moved

/-- Closed and hijacked connections stay so: a hijacked one can only close. -/
theorem Conn.next_settled {inShutdown : Bool} {event : ConnEvent} {c c' : Conn}
    (settled : c = .closed ∨ c = .hijacked) (moved : Conn.next inShutdown event c = some c') :
    c' = .closed ∨ c' = .hijacked := by
  rcases settled with rfl | rfl <;> cases event <;> cases moved
  exact .inl rfl

/-- The invariant of every reachable lifecycle. -/
structure Wellformed (s : Lifecycle) : Prop where
  idle : s.run = .idle →
    s.slot = none ∧ s.bound = none ∧ s.serve = .starting ∧ s.listenerOpen = false
  bound : s.run = .bound → s.slot = none
  listened : s.run = .bound → s.bound.isSome
  serving : s.run = .serving → s.slot.isSome
  spawned : s.slot = none → s.serve = .starting ∧ s.watcher = .waiting
  stored : s.slot = none ∨ s.slot = s.bound
  firstErr : s.firstErr = match s.serve with
    | .returned err => serveTaskResult err
    | _ => none
  listenerClosed : ∀ err, s.serve = .returned err → s.listenerOpen = false
  serverClosed : s.serve = .returned .errServerClosed → s.inShutdown = true
  serveErr : ∀ err, s.serve = .returned err → err = .errServerClosed ∨ ∃ message, err = .net message
  shutdown : s.watcher ≠ .waiting → s.inShutdown = true
  returned : ∀ result, s.run = .returned result → (s.bound = none ∧ s.listenerOpen = false) ∨
    (∃ err, s.serve = .returned err) ∧ (∃ shutdown, s.watcher = .returned shutdown) ∧
      result = s.firstErr
  quiet : s.watcher = .returned none →
    s.serve ≠ .accepting ∧ ∀ c ∈ s.conns, c = .closed ∨ c = .hijacked
  waiters : ∀ w ∈ s.waiters, w.Sound s.slot

theorem wellformed_init (config : ServerConfig) : Wellformed (Lifecycle.init config) where
  idle _ := ⟨rfl, rfl, rfl, rfl⟩
  bound bound := nomatch bound
  listened bound := nomatch bound
  serving serving := nomatch serving
  spawned _ := ⟨rfl, rfl⟩
  stored := .inl rfl
  firstErr := rfl
  listenerClosed _ started := nomatch started
  serverClosed started := nomatch started
  serveErr _ started := nomatch started
  shutdown waiting := absurd rfl waiting
  returned _ idle := nomatch idle
  quiet waiting := nomatch waiting
  waiters _ member := nomatch member

/-- A stored listener is the one `Run` bound. -/
theorem Wellformed.slot_bound {s : Lifecycle} (wf : Wellformed s) (stored : s.slot.isSome) :
    s.bound = s.slot := by
  rcases wf.stored with empty | same
  · simp [empty] at stored
  · exact same.symm

theorem Wellformed.stored_of_started {s : Lifecycle} (wf : Wellformed s)
    (started : s.serve ≠ .starting ∨ s.watcher ≠ .waiting) : s.slot.isSome := by
  cases slot : s.slot with
  | none =>
    obtain ⟨serve, watcher⟩ := wf.spawned slot
    exact absurd (started.elim (absurd serve) (absurd watcher)) not_false
  | some _ => rfl

/-- Once the listener is stored, `Run` can only return through `eg.Wait()`. -/
theorem Wellformed.waited {s : Lifecycle} (wf : Wellformed s) (stored : s.slot.isSome)
    {result : Option GoError} (returned : s.run = .returned result) :
    (∃ err, s.serve = .returned err) ∧ (∃ shutdown, s.watcher = .returned shutdown) ∧
      result = s.firstErr := by
  rcases wf.returned result returned with ⟨unbound, -⟩ | waited
  · rw [wf.slot_bound stored] at unbound
    simp [unbound] at stored
  · exact waited

theorem Wellformed.not_idle {s : Lifecycle} (wf : Wellformed s) (stored : s.slot.isSome) :
    s.run ≠ .idle := fun idle => by simp [(wf.idle idle).1] at stored

theorem Wellformed.listen {s s' : Lifecycle} {result : Except String Addr} (wf : Wellformed s)
    (stepped : step s (.listen result) = some s') : Wellformed s' := by
  obtain ⟨idle, effect⟩ := step_listen stepped
  obtain ⟨slot, unbound, serve, closed⟩ := wf.idle idle
  rcases effect with ⟨addr, -, rfl⟩ | ⟨err, rfl⟩
  · exact { wf with
      idle := fun bound => nomatch bound
      bound := fun _ => slot
      listened := fun _ => rfl
      serving := fun bound => nomatch bound
      stored := .inl slot
      listenerClosed := fun _ started => nomatch serve.symm.trans started
      returned := fun _ bound => nomatch bound }
  · exact { wf with
      idle := fun returned => nomatch returned
      bound := fun returned => nomatch returned
      listened := fun returned => nomatch returned
      serving := fun returned => nomatch returned
      returned := fun _ _ => .inl ⟨unbound, closed⟩ }

theorem Wellformed.store {s s' : Lifecycle} (wf : Wellformed s)
    (stepped : step s .store = some s') : Wellformed s' := by
  obtain ⟨bound, rfl⟩ := step_store stepped
  have empty := wf.bound bound
  exact { wf with
    idle := fun serving => nomatch serving
    bound := fun serving => nomatch serving
    listened := fun serving => nomatch serving
    serving := fun _ => wf.listened bound
    spawned := fun _ => wf.spawned empty
    stored := .inr rfl
    returned := fun _ serving => nomatch serving
    waiters := fun w member => ⟨fun addr returned => by
      simpa [empty] using (wf.waiters w member).1 addr returned, (wf.waiters w member).2⟩ }

theorem Wellformed.serveStart {s s' : Lifecycle} (wf : Wellformed s)
    (stepped : step s .serveStart = some s') : Wellformed s' := by
  obtain ⟨stored, starting, effect⟩ := step_serveStart stepped
  have noErr : s.firstErr = none := by rw [wf.firstErr, starting]
  have notReturned : ∀ result, s.run ≠ .returned result := fun result returned => by
    obtain ⟨⟨err, serve⟩, -⟩ := wf.waited stored returned
    exact nomatch starting.symm.trans serve
  have running := wf.not_idle stored
  have occupied : s.slot ≠ none := by simpa [Option.isSome_iff_ne_none] using stored
  rcases effect with ⟨shutdown, rfl⟩ | ⟨shutdown, rfl⟩
  · exact { wf with
      idle := fun idle => absurd idle running
      bound := fun bound => absurd (wf.bound bound) occupied
      spawned := fun empty => absurd empty occupied
      firstErr := by simp [Lifecycle.serveReturns, noErr]
      listenerClosed := fun _ _ => rfl
      serverClosed := fun _ => shutdown
      serveErr := fun _ returned => .inl (by cases returned; rfl)
      returned := fun result returned => absurd returned (notReturned result)
      quiet := fun finished => ⟨nofun, (wf.quiet finished).2⟩ }
  · exact { wf with
      idle := fun idle => absurd idle running
      bound := fun bound => absurd (wf.bound bound) occupied
      spawned := fun empty => absurd empty occupied
      firstErr := noErr
      listenerClosed := fun _ accepting => nomatch accepting
      serverClosed := fun accepting => nomatch accepting
      serveErr := fun _ accepting => nomatch accepting
      returned := fun result returned => absurd returned (notReturned result)
      quiet := fun finished => by
        have := wf.shutdown (by rw [finished]; exact nofun)
        simp [shutdown] at this }

theorem Wellformed.accept {s s' : Lifecycle} (wf : Wellformed s)
    (stepped : step s .accept = some s') : Wellformed s' := by
  obtain ⟨accepting, rfl⟩ := step_accept stepped
  exact { wf with quiet := fun finished => absurd accepting (wf.quiet finished).1 }

theorem Wellformed.acceptFails {s s' : Lifecycle} {message : String} (wf : Wellformed s)
    (stepped : step s (.acceptFails message) = some s') : Wellformed s' := by
  obtain ⟨accepting, rfl⟩ := step_acceptFails stepped
  have stored := wf.stored_of_started (.inl (by rw [accepting]; exact nofun))
  have occupied : s.slot ≠ none := by simpa [Option.isSome_iff_ne_none] using stored
  have noErr : s.firstErr = none := by rw [wf.firstErr, accepting]
  exact { wf with
    idle := fun idle => absurd idle (wf.not_idle stored)
    bound := fun bound => absurd (wf.bound bound) occupied
    spawned := fun empty => absurd empty occupied
    firstErr := by simp [Lifecycle.serveReturns, noErr]
    listenerClosed := fun _ _ => rfl
    serverClosed := fun closed => by
      cases shutdown : s.inShutdown
      · simp [Lifecycle.serveReturns, shutdown] at closed
      · exact shutdown
    serveErr := fun err returned => by
      cases returned
      cases s.inShutdown
      · exact .inr ⟨message, rfl⟩
      · exact .inl rfl
    returned := fun result returned => by
      obtain ⟨⟨err, serve⟩, -⟩ := wf.waited stored returned
      exact nomatch accepting.symm.trans serve
    quiet := fun finished => absurd accepting (wf.quiet finished).1 }

theorem Wellformed.watch {s s' : Lifecycle} (wf : Wellformed s)
    (stepped : step s .watch = some s') : Wellformed s' := by
  obtain ⟨stored, waiting, rfl⟩ := step_watch stepped
  have occupied : s.slot ≠ none := by simpa [Option.isSome_iff_ne_none] using stored
  exact { wf with
    idle := fun idle => absurd idle (wf.not_idle stored)
    bound := fun bound => absurd (wf.bound bound) occupied
    spawned := fun empty => absurd empty occupied
    listenerClosed := fun err returned => by
      have served : s.serve = .returned err := returned
      simp only [served, reduceCtorEq, if_false]
      exact wf.listenerClosed err served
    serverClosed := fun _ => rfl
    shutdown := fun _ => rfl
    returned := fun result returned => by
      obtain ⟨-, ⟨shutdown, watcher⟩, -⟩ := wf.waited stored returned
      exact nomatch waiting.symm.trans watcher
    quiet := fun finished => nomatch finished }

/-- Steps of the watcher inside `Shutdown` leave `Run` running. -/
theorem Wellformed.shutting_down {s : Lifecycle} (wf : Wellformed s)
    (shutting : s.watcher = .shuttingDown) :
    s.slot.isSome ∧ s.inShutdown = true ∧ ∀ result, s.run ≠ .returned result := by
  have started : s.watcher ≠ .waiting := by rw [shutting]; exact nofun
  have stored := wf.stored_of_started (.inr started)
  refine ⟨stored, wf.shutdown started, fun result returned => ?_⟩
  obtain ⟨-, ⟨shutdown, watcher⟩, -⟩ := wf.waited stored returned
  exact nomatch shutting.symm.trans watcher

theorem Wellformed.shutdownPoll {s s' : Lifecycle} (wf : Wellformed s)
    (stepped : step s .shutdownPoll = some s') : Wellformed s' := by
  obtain ⟨shutting, rfl⟩ := step_shutdownPoll stepped
  obtain ⟨stored, inShutdown, running⟩ := wf.shutting_down shutting
  have occupied : s.slot ≠ none := by simpa [Option.isSome_iff_ne_none] using stored
  exact { wf with
    spawned := fun empty => absurd empty occupied
    shutdown := fun _ => inShutdown
    returned := fun result returned => absurd returned (running result)
    quiet := fun finished => by
      cases quiet : s.quiescent
      · simp [Lifecycle.shutdownPoll, quiet, shutting] at finished
      · simp only [Lifecycle.quiescent, Bool.and_eq_true, List.all_eq_true, decide_eq_true_eq,
          bne_iff_ne, ne_eq] at quiet
        refine ⟨quiet.2, fun c member => ?_⟩
        obtain ⟨old, inside, rfl⟩ := List.mem_map.mp member
        rcases quiet.1 old inside with idle | hijacked | closed
        · simp [idle]
        · simp [hijacked]
        · simp [closed] }

theorem Wellformed.graceExpires {s s' : Lifecycle} (wf : Wellformed s)
    (stepped : step s .graceExpires = some s') : Wellformed s' := by
  obtain ⟨shutting, rfl⟩ := step_graceExpires stepped
  obtain ⟨stored, inShutdown, running⟩ := wf.shutting_down shutting
  have occupied : s.slot ≠ none := by simpa [Option.isSome_iff_ne_none] using stored
  exact { wf with
    spawned := fun empty => absurd empty occupied
    shutdown := fun _ => inShutdown
    returned := fun result returned => absurd returned (running result)
    quiet := fun finished => nomatch finished }

theorem Wellformed.wait {s s' : Lifecycle} (wf : Wellformed s)
    (stepped : step s .wait = some s') : Wellformed s' := by
  obtain ⟨serving, served, watched, rfl⟩ := step_wait stepped
  exact { wf with
    idle := fun returned => nomatch returned
    bound := fun returned => nomatch returned
    listened := fun returned => nomatch returned
    serving := fun returned => nomatch returned
    returned := fun _ returned => .inr ⟨served, watched, by cases returned; rfl⟩ }

theorem Wellformed.conn {s s' : Lifecycle} {i : Nat} {event : ConnEvent} (wf : Wellformed s)
    (stepped : step s (.conn i event) = some s') : Wellformed s' := by
  obtain ⟨c, c', found, moved, rfl⟩ := step_conn stepped
  exact { wf with
    quiet := fun finished => ⟨(wf.quiet finished).1, fun other member => by
      rcases List.mem_or_eq_of_mem_set member with old | rfl
      · exact (wf.quiet finished).2 other old
      · exact Conn.next_settled ((wf.quiet finished).2 c (List.getElem?_mem found)) moved⟩ }

theorem Wellformed.waiter {s s' : Lifecycle} {k : Nat} {event : WaitEvent} (wf : Wellformed s)
    (stepped : step s (.waiter k event) = some s') : Wellformed s' := by
  obtain ⟨w, w', found, moved, rfl⟩ := step_waiter stepped
  exact { wf with
    waiters := fun other member => by
      rcases List.mem_or_eq_of_mem_set member with old | rfl
      · exact wf.waiters other old
      · exact Waiter.next_sound (wf.waiters w (List.getElem?_mem found)) moved }

theorem Wellformed.next {s s' : Lifecycle} {a : Action} (wf : Wellformed s)
    (stepped : step s a = some s') : Wellformed s' := by
  cases a with
  | listen result => exact wf.listen stepped
  | store => exact wf.store stepped
  | serveStart => exact wf.serveStart stepped
  | accept => exact wf.accept stepped
  | acceptFails message => exact wf.acceptFails stepped
  | cancel =>
    cases stepped
    exact { wf with }
  | watch => exact wf.watch stepped
  | shutdownPoll => exact wf.shutdownPoll stepped
  | graceExpires => exact wf.graceExpires stepped
  | wait => exact wf.wait stepped
  | conn i event => exact wf.conn stepped
  | enterWait =>
    cases stepped
    exact { wf with
      waiters := fun w member => by
        rcases List.mem_append.mp member with old | fresh
        · exact wf.waiters w old
        · simp only [List.mem_singleton] at fresh
          subst fresh
          exact ⟨fun _ returned => (nomatch returned), fun _ returned => (nomatch returned)⟩ }
  | waiter k event => exact wf.waiter stepped

theorem Reachable.wellformed {config : ServerConfig} {s : Lifecycle}
    (reach : Reachable config s) : Wellformed s := by
  induction reach with
  | start => exact wellformed_init config
  | next _ stepped ih => exact ih.next stepped

end TwirpTodo.HttpServer
