import TwirpTodo.StmtCache.Invariant

namespace TwirpTodo.StmtCache

/-- The write lock excludes: at most one goroutine is inside the preparer. -/
theorem Sound.preparing_unique {c : Cache} (sound : Sound c) {i j : Nat} {call call' : Call}
    (first : c.calls[i]? = some call) (second : c.calls[j]? = some call')
    (inside : call.phase = .preparing) (inside' : call'.phase = .preparing) : i = j := by
  by_contra apart
  have once := sound.holders
  have moved := @holders_setPhase c i call .readLock first
  have still : 0 < (c.setPhase i call .readLock).holders :=
    List.countP_pos_iff.mpr ⟨call', List.mem_iff_getElem?.mpr ⟨j, (List.getElem?_set_ne apart).trans second⟩,
      by simp [inside']⟩
  simp [inside] at moved
  omega

/-- The write lock excludes: under every interleaving, at most one goroutine is
inside the preparer at a time. -/
theorem preparer_mutually_exclusive {c : Cache} (reach : Reachable c) {i j : Nat} {call call' : Call}
    (first : c.calls[i]? = some call) (second : c.calls[j]? = some call')
    (inside : call.phase = .preparing) (inside' : call'.phase = .preparing) : i = j :=
  reach.sound.preparing_unique first second inside inside'

/-- One step while goroutine `i` is inside the preparer, other than the
preparer's return to it: the lock is held, so the step is a goroutine entering
or the end of a statement's own work, and neither the holder nor the map moves. -/
theorem Sound.holder_step {c c' : Cache} {a : Action} {i : Nat} {call : Call} (sound : Sound c)
    (inside : c.calls[i]? = some call) (preparing : call.phase = .preparing)
    (other : ∀ failure, a ≠ .prepare i failure) (stepped : step c a = some c') :
    ((∃ entry query, a = .enter entry query) ∨ ∃ j, a = .finish j) ∧
      c'.calls[i]? = some call ∧ c'.statements = c.statements := by
  have locked : c.writeLocked = false → False := fun unlocked =>
    writeLocked_eq_false.mp unlocked call (List.getElem?_mem inside) preparing
  cases a with
  | enter entry query =>
    cases step_enter.symm.trans stepped
    exact ⟨.inl ⟨entry, query, rfl⟩,
      (List.getElem?_append_left (List.getElem?_eq_some_iff.mp inside).1).trans inside, rfl⟩
  | lookup j =>
    obtain ⟨_, -, -, unlocked, -⟩ := step_lookup.mp stepped
    exact (locked unlocked).elim
  | lock j =>
    obtain ⟨_, -, -, unlocked, -⟩ := step_lock.mp stepped
    exact (locked unlocked).elim
  | close => exact (locked (step_close.mp stepped).1).elim
  | prepare j failure =>
    obtain ⟨holder, found, preparing', -⟩ := step_prepare.mp stepped
    cases sound.preparing_unique inside found preparing preparing'
    exact absurd rfl (other failure)
  | finish j =>
    obtain ⟨runner, stmt, found, running, rfl⟩ := step_finish.mp stepped
    have apart : j ≠ i := by
      rintro rfl
      cases inside.symm.trans found
      exact nomatch preparing.symm.trans running
    exact ⟨.inr ⟨j, rfl⟩, (List.getElem?_set_ne apart).trans inside, rfl⟩

/-- `PrepareContext` takes `c.lock.Lock()` before calling the preparer and
releases it only in the deferred `Unlock`. So under every interleaving, while
one goroutine is inside the preparer, no other can do the read-locked lookup of
any query, cached or not, take the lock, or `Close`: until the preparer returns,
the others can only enter the cache or finish a statement they already hold,
and the map stays as it is. -/
theorem cache_lock_held_across_preparer {c c' : Cache} {i : Nat} {call : Call} {actions : List Action}
    (reach : Reachable c) (inside : c.calls[i]? = some call) (preparing : call.phase = .preparing)
    (held : ∀ failure, Action.prepare i failure ∉ actions) (ran : run c actions = some c') :
    (∀ a ∈ actions, (∃ entry query, a = .enter entry query) ∨ ∃ j, a = .finish j) ∧
      c'.calls[i]? = some call ∧ c'.statements = c.statements := by
  induction actions generalizing c with
  | nil =>
    cases ran
    exact ⟨fun _ member => (nomatch member), inside, rfl⟩
  | cons a rest ih =>
    simp only [run, Option.bind_eq_some] at ran
    obtain ⟨next, stepped, ran⟩ := ran
    obtain ⟨kind, inside', same⟩ := reach.sound.holder_step inside preparing
      (fun failure is => held failure (by rw [is]; exact List.mem_cons_self _ _)) stepped
    obtain ⟨kinds, final, same'⟩ := ih (reach.next stepped) inside'
      (fun failure member => held failure (List.mem_cons_of_mem _ member)) ran
    exact ⟨List.forall_mem_cons.mpr ⟨kind, kinds⟩, final, same'.trans same⟩

/-- `QueryContext("B")` prepares `B` and runs it; goroutine 1 then takes the
lock to prepare `A`. -/
def queryWhilePreparing : List Action :=
  [.enter .queryContext "B", .lookup 0, .lock 0, .prepare 0 none, .enter .prepareContext "A", .lookup 1,
    .lock 1]

theorem prepareContext_enters_while_query_finishes :
    ∃ c c', run newStmtCache queryWhilePreparing = some c ∧
      c.calls[1]? = some ⟨.prepareContext, "A", .preparing⟩ ∧
      run c [.enter .prepareContext "B", .finish 0] = some c' ∧
      (∀ a ∈ [Action.enter .prepareContext "B", .finish 0],
        (∃ entry query, a = .enter entry query) ∨ ∃ j, a = .finish j) ∧
      c'.calls[1]? = some ⟨.prepareContext, "A", .preparing⟩ ∧ c'.statements = c.statements := by
  obtain ⟨c, c', ran, holder, later⟩ : ∃ c c', run newStmtCache queryWhilePreparing = some c ∧
      c.calls[1]? = some ⟨.prepareContext, "A", .preparing⟩ ∧
      run c [.enter .prepareContext "B", .finish 0] = some c' :=
    ⟨_, _, rfl, rfl, rfl⟩
  exact ⟨c, c', ran, holder, later, cache_lock_held_across_preparer (Reachable.start.run ran) holder rfl
    (fun failure member => by simp at member) later⟩

/-- Goroutine 0 holds the write lock while goroutine 1 waits for it. -/
theorem first_lock_holder_alone :
    ∃ c, run newStmtCache [.enter .prepareContext "a", .enter .prepareContext "b", .lookup 0, .lookup 1,
        .lock 0] = some c ∧ c.calls[0]? = some ⟨.prepareContext, "a", .preparing⟩ ∧
      ∀ j call, c.calls[j]? = some call → call.phase = .preparing → 0 = j := by
  obtain ⟨c, ran, holder⟩ : ∃ c, run newStmtCache [.enter .prepareContext "a", .enter .prepareContext "b",
      .lookup 0, .lookup 1, .lock 0] = some c ∧ c.calls[0]? = some ⟨.prepareContext, "a", .preparing⟩ :=
    ⟨_, rfl, rfl⟩
  exact ⟨c, ran, holder, fun _ _ found inside =>
    preparer_mutually_exclusive (Reachable.start.run ran) holder found rfl inside⟩

/-- `B` is cached; goroutine 1 is preparing `A` when goroutine 2 asks for `B`. -/
def preparerBlocksLookup : List Action :=
  [.enter .prepareContext "B", .lookup 0, .lock 0, .prepare 0 none,
    .enter .prepareContext "A", .lookup 1, .lock 1, .enter .prepareContext "B"]

theorem preparer_blocks_cached_lookup :
    ∃ c, run newStmtCache preparerBlocksLookup = some c ∧
      c.calls[1]? = some ⟨.prepareContext, "A", .preparing⟩ ∧
      c.calls[2]? = some ⟨.prepareContext, "B", .readLock⟩ ∧
      c.statements.lookup "B" = some ⟨0⟩ ∧ step c (.lookup 2) = none :=
  ⟨_, rfl, by decide, by decide, by decide, by decide⟩

/-- Two `PrepareContext("q")` calls that both miss before either takes the lock. -/
def prepareRace : List Action :=
  [.enter .prepareContext "q", .enter .prepareContext "q", .lookup 0, .lookup 1,
    .lock 0, .prepare 0 none, .lock 1, .prepare 1 none]

/-- The write-locked path does not look the query up again: both calls run the
preparer, they return different statements, and the second replaces the first
in the map. -/
theorem prepareContext_race_prepares_twice :
    ∃ c, run newStmtCache (prepareRace.take 6) = some c ∧ c.statements = [("q", ⟨0⟩)] ∧
      ∃ c', run c (prepareRace.drop 6) = some c' ∧
        c'.prepared = [("q", .ok ⟨0⟩), ("q", .ok ⟨1⟩)] ∧
        c'.calls.map (·.phase) = [.returned (.ok ⟨0⟩), .returned (.ok ⟨1⟩)] ∧
        c'.statements = [("q", ⟨1⟩)] :=
  ⟨_, rfl, rfl, _, rfl, rfl, rfl, rfl⟩

/-- After the race and two `Close` calls, the first statement, prepared without
error, was never closed: it left the map when the second replaced it. -/
theorem prepareContext_race_leaks_statement :
    ∃ c, run newStmtCache (prepareRace ++ [.close, .close]) = some c ∧
      ("q", .ok ⟨0⟩) ∈ c.prepared ∧ (⟨0⟩ : Stmt) ∉ c.closed ∧ c.closed = [⟨1⟩] :=
  ⟨_, rfl, by decide, by decide, rfl⟩

/-- Statements already closed and statements still in the map are pairwise
distinct, and each was handed out by an earlier preparer call. -/
def CloseOnce (c : Cache) : Prop :=
  (c.closed ++ c.statements.map (·.2)).Nodup ∧
    ∀ stmt ∈ c.closed ++ c.statements.map (·.2), stmt.id < c.prepared.length

theorem CloseOnce.of_frame {c c' : Cache} (once : CloseOnce c)
    (statements : c'.statements = c.statements) (closed : c'.closed = c.closed)
    (grown : c.prepared.length ≤ c'.prepared.length) : CloseOnce c' := by
  unfold CloseOnce at *
  rw [statements, closed]
  exact ⟨once.1, fun stmt member => by have := once.2 stmt member; omega⟩

theorem CloseOnce.prepared {c : Cache} {i : Nat} {call : Call} (once : CloseOnce c) :
    CloseOnce (c.prepareReturn i call none) := by
  obtain ⟨distinct, bounded⟩ := once
  have kept : (c.closed ++ (c.statements.filter (·.1 != call.query)).map (·.2)).Sublist
      (c.closed ++ c.statements.map (·.2)) :=
    ((List.filter_sublist _).map _).append_left _
  have fresh : (⟨c.prepared.length⟩ : Stmt) ∉
      c.closed ++ (c.statements.filter (·.1 != call.query)).map (·.2) := fun member =>
    (Nat.lt_irrefl _) (bounded _ (kept.subset member))
  constructor
  · show (c.closed ++ (⟨c.prepared.length⟩ :: (c.statements.filter (·.1 != call.query)).map (·.2))).Nodup
    rw [List.nodup_middle]
    exact List.nodup_cons.mpr ⟨fresh, distinct.sublist kept⟩
  · intro stmt member
    show stmt.id < (c.prepared ++ _).length
    rw [List.length_append, List.length_singleton]
    rcases List.mem_append.mp member with old | added
    · have := bounded stmt (List.mem_append_left _ old); omega
    · rcases List.mem_cons.mp added with rfl | old
      · exact Nat.lt_succ_self _
      · have := bounded stmt (kept.subset (List.mem_append_right _ old)); omega

theorem CloseOnce.next {c c' : Cache} {a : Action} (once : CloseOnce c)
    (stepped : step c a = some c') : CloseOnce c' := by
  cases a with
  | enter entry query =>
    cases step_enter.symm.trans stepped
    exact once.of_frame rfl rfl le_rfl
  | lookup i =>
    obtain ⟨call, -, -, -, rfl⟩ := step_lookup.mp stepped
    exact once.of_frame rfl rfl le_rfl
  | lock i =>
    obtain ⟨call, -, -, -, rfl⟩ := step_lock.mp stepped
    exact once.of_frame rfl rfl le_rfl
  | prepare i failure =>
    obtain ⟨call, -, -, rfl⟩ := step_prepare.mp stepped
    cases failure with
    | none => exact once.prepared
    | some err => exact once.of_frame rfl rfl (List.length_append _ _ ▸ Nat.le_add_right _ _)
  | finish i =>
    obtain ⟨call, stmt, -, -, rfl⟩ := step_finish.mp stepped
    exact once.of_frame rfl rfl le_rfl
  | close =>
    obtain ⟨-, rfl⟩ := step_close.mp stepped
    unfold CloseOnce Cache.close
    simp only [List.map_nil, List.append_nil]
    exact once

/-- However the calls interleave and however often `Close` runs, no statement
is closed twice. -/
theorem Reachable.closed_nodup {c : Cache} (reach : Reachable c) : c.closed.Nodup := by
  have once : CloseOnce c := by
    induction reach with
    | start => simp [CloseOnce, newStmtCache]
    | next _ stepped ih => exact ih.next stepped
  exact once.1.sublist (List.sublist_append_left _ _)

/-- The race, then `Close` twice: the second finds the map empty and closes nothing again. -/
theorem raceThenTwoCloses_closed_nodup :
    ∃ c, run newStmtCache (prepareRace ++ [Action.close, Action.close]) = some c ∧ c.closed = [⟨1⟩] ∧
      c.closed.Nodup := by
  obtain ⟨c, ran, closed⟩ : ∃ c, run newStmtCache (prepareRace ++ [Action.close, Action.close]) = some c ∧
      c.closed = [⟨1⟩] := ⟨_, rfl, rfl⟩
  exact ⟨c, ran, closed, Reachable.closed_nodup (Reachable.start.run ran)⟩

end TwirpTodo.StmtCache
