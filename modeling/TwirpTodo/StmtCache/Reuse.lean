import TwirpTodo.StmtCache.Contention

namespace TwirpTodo.StmtCache

/-- A call for `query` between its miss on the read-locked path and the
preparer's answer: waiting in `c.lock.Lock()` or inside the preparer. -/
def Call.missed (query : String) (call : Call) : Bool :=
  (call.phase == .writeLock || call.phase == .preparing) && call.query == query

/-- The calls for `query` that have missed the map and will call the preparer. -/
def Cache.missed (c : Cache) (query : String) : Nat := c.calls.countP (Call.missed query)

/-- How often the preparer has been called for `query`. -/
def Cache.preparedFor (c : Cache) (query : String) : Nat := c.prepared.countP (·.1 == query)

theorem lookup_filter_ne {statements : List (String × Stmt)} {query key : String} (other : key ≠ query) :
    (statements.filter (·.1 != query)).lookup key = statements.lookup key := by
  induction statements with
  | nil => rfl
  | cons entry rest ih =>
    obtain ⟨k, stmt⟩ := entry
    by_cases dropped : k = query
    · subst dropped
      simp [List.lookup_cons, ih, beq_false_of_ne other]
    · simp [List.lookup_cons, ih, dropped]

theorem lookup_insertStatement (statements : List (String × Stmt)) (query key : String) (stmt : Stmt) :
    (insertStatement statements query stmt).lookup key =
      if key = query then some stmt else statements.lookup key := by
  by_cases same : key = query
  · subst same
    simp [insertStatement]
  · simp [insertStatement, List.lookup_cons, same, beq_false_of_ne same, lookup_filter_ne same]

/-- Storing a statement for one query keeps every other query's entry. -/
theorem lookup_isSome_insertStatement {statements : List (String × Stmt)} {key : String}
    (query : String) (stmt : Stmt) (cached : (statements.lookup key).isSome) :
    ((insertStatement statements query stmt).lookup key).isSome := by
  rw [lookup_insertStatement]
  split
  · rfl
  · exact cached

/-- `countP` over the calls after one of them moves, without truncated subtraction. -/
theorem countP_setPhase (p : Call → Bool) (phase : Phase) {c : Cache} {i : Nat} {call : Call}
    (inside : c.calls[i]? = some call) :
    (c.setPhase i call phase).calls.countP p + (if p call then 1 else 0) =
      c.calls.countP p + (if p { call with phase := phase } then 1 else 0) := by
  obtain ⟨bound, rfl⟩ := List.getElem?_eq_some_iff.mp inside
  have counted : (if p c.calls[i] then 1 else 0) ≤ c.calls.countP p := by
    split
    · exact List.countP_pos_iff.mpr ⟨_, List.getElem_mem bound, ‹_›⟩
    · exact Nat.zero_le _
  rw [Cache.setPhase, List.countP_set _ _ _ _ bound]
  omega

/-- A hit hands out the cached statement, so the call does not go on to the lock. -/
theorem missed_afterLookup {c : Cache} {query : String} (cached : (c.statements.lookup query).isSome)
    (call : Call) : Call.missed query { call with phase := c.afterLookup call } = false := by
  by_cases same : call.query = query
  · obtain ⟨stmt, found⟩ := Option.isSome_iff_exists.mp cached
    unfold Cache.afterLookup
    rw [same, found]
    cases call.entry <;> rfl
  · simp [Call.missed, same]

theorem missed_afterPrepare (query : String) (call : Call) (result : Except SqlError Stmt) :
    Call.missed query { call with phase := call.entry.afterPrepare result } = false := by
  cases result <;> cases call.entry <;> rfl

/-- One step other than `Close` keeps a cached query cached, and the preparer
is called for it only by a call that had already missed it. -/
theorem reuse_step {c c' : Cache} {a : Action} {query : String}
    (cached : (c.statements.lookup query).isSome) (kept : a ≠ .close) (stepped : step c a = some c') :
    (c'.statements.lookup query).isSome ∧
      c'.preparedFor query + c'.missed query = c.preparedFor query + c.missed query := by
  cases a with
  | enter entry query' =>
    cases step_enter.symm.trans stepped
    refine ⟨cached, ?_⟩
    simp [Cache.missed, Cache.preparedFor, Call.missed]
  | lookup i =>
    obtain ⟨call, inside, atLookup, -, rfl⟩ := step_lookup.mp stepped
    have moved := countP_setPhase (Call.missed query) (c.afterLookup call) inside
    have waiting : Call.missed query call = false := by simp [Call.missed, atLookup]
    rw [missed_afterLookup cached, waiting] at moved
    exact ⟨cached, by simpa [Cache.missed, Cache.preparedFor] using moved⟩
  | lock i =>
    obtain ⟨call, inside, atLock, -, rfl⟩ := step_lock.mp stepped
    have moved := countP_setPhase (Call.missed query) .preparing inside
    have still : Call.missed query { call with phase := .preparing } = Call.missed query call := by
      simp [Call.missed, atLock]
    rw [still] at moved
    exact ⟨cached, by simp only [Cache.missed, Cache.preparedFor, setPhase_prepared]; omega⟩
  | prepare i failure =>
    obtain ⟨call, inside, atPrepare, rfl⟩ := step_prepare.mp stepped
    have moved := countP_setPhase (Call.missed query)
      (call.entry.afterPrepare (c.preparerResult failure)) inside
    have inPreparer : Call.missed query call = (call.query == query) := by simp [Call.missed, atPrepare]
    rw [missed_afterPrepare, inPreparer] at moved
    refine ⟨?_, ?_⟩
    · cases failure with
      | none => exact lookup_isSome_insertStatement _ _ cached
      | some err => exact cached
    · simp only [Cache.preparedFor, Cache.missed, Cache.prepareReturn, List.countP_append,
        List.countP_singleton]
      simp only [Bool.false_eq_true, if_false] at moved
      omega
  | finish i =>
    obtain ⟨call, stmt, inside, running, rfl⟩ := step_finish.mp stepped
    have moved := countP_setPhase (Call.missed query) (.returned (.ok stmt)) inside
    have before : Call.missed query call = false := by simp [Call.missed, running]
    have after : Call.missed query { call with phase := .returned (.ok stmt) } = false := by
      simp [Call.missed]
    rw [before, after] at moved
    exact ⟨cached, by simp only [Cache.missed, Cache.preparedFor, setPhase_prepared]; omega⟩
  | close => exact absurd rfl kept

/-- The map does what it is for: once a query is cached, and until `Close`
empties the map, the preparer is called for it again only by calls that had
already missed it. Whatever the schedule, a call that looks the query up later
is served from the map, so the preparer calls for the query plus the calls
still between their miss and the preparer's answer never grow. -/
theorem cached_query_prepared_only_for_earlier_misses {c c' : Cache} {query : String}
    {actions : List Action} (cached : (c.statements.lookup query).isSome)
    (noClose : Action.close ∉ actions) (ran : run c actions = some c') :
    (c'.statements.lookup query).isSome ∧
      c'.preparedFor query + c'.missed query = c.preparedFor query + c.missed query := by
  induction actions generalizing c with
  | nil =>
    cases ran
    exact ⟨cached, rfl⟩
  | cons a rest ih =>
    simp only [run, Option.bind_eq_some] at ran
    obtain ⟨next, stepped, ran⟩ := ran
    obtain ⟨cached', kept⟩ := reuse_step cached (fun closing => noClose (closing ▸ List.mem_cons_self _ _))
      stepped
    obtain ⟨cached'', kept'⟩ := ih cached' (fun member => noClose (List.mem_cons_of_mem _ member)) ran
    exact ⟨cached'', kept'.trans kept⟩

/-- `PrepareContext("q")` fills the map; a later `QueryContext("q")` hits it. -/
theorem queryContext_after_prepareContext_hits :
    ∃ c c', run newStmtCache [.enter .prepareContext "q", .lookup 0, .lock 0, .prepare 0 none] = some c ∧
      (c.statements.lookup "q").isSome ∧
      run c [.enter .queryContext "q", .lookup 1, .finish 1] = some c' ∧
      (c'.statements.lookup "q").isSome ∧
      c'.preparedFor "q" + c'.missed "q" = c.preparedFor "q" + c.missed "q" := by
  obtain ⟨c, c', warm, cached, ran⟩ : ∃ c c',
      run newStmtCache [.enter .prepareContext "q", .lookup 0, .lock 0, .prepare 0 none] = some c ∧
        (c.statements.lookup "q").isSome ∧
        run c [.enter .queryContext "q", .lookup 1, .finish 1] = some c' :=
    ⟨_, _, rfl, rfl, rfl⟩
  exact ⟨c, c', warm, cached, ran, cached_query_prepared_only_for_earlier_misses cached (by decide) ran⟩

/-- The map is a map: no query has two entries, and each key is the query of a
goroutine that entered the cache. -/
structure KeysAsked (c : Cache) : Prop where
  distinct : (c.statements.map (·.1)).Nodup
  asked : ∀ entry ∈ c.statements, entry.1 ∈ c.calls.map (·.query)

theorem map_set_of_apply_eq {α β : Type} (f : α → β) {l : List α} {i : Nat} {x : α} {y : α}
    (inside : l[i]? = some y) (same : f x = f y) : (l.set i x).map f = l.map f := by
  induction l generalizing i with
  | nil => rfl
  | cons head rest ih =>
    cases i with
    | zero =>
      simp only [List.getElem?_cons_zero, Option.some.injEq] at inside
      simp [inside, same]
    | succ i => simp [ih (by simpa using inside)]

theorem setPhase_queries {c : Cache} {i : Nat} {call : Call} {phase : Phase} (inside : c.calls[i]? = some call) :
    (c.setPhase i call phase).calls.map (·.query) = c.calls.map (·.query) :=
  map_set_of_apply_eq _ inside rfl

theorem KeysAsked.of_frame {c c' : Cache} (keys : KeysAsked c) (statements : c'.statements = c.statements)
    (queries : c'.calls.map (·.query) = c.calls.map (·.query)) : KeysAsked c' := by
  constructor
  · rw [statements]; exact keys.distinct
  · rw [statements, queries]; exact keys.asked

theorem KeysAsked.next {c c' : Cache} {a : Action} (keys : KeysAsked c) (stepped : step c a = some c') :
    KeysAsked c' := by
  cases a with
  | enter entry query =>
    cases step_enter.symm.trans stepped
    exact ⟨keys.distinct, fun entry member => by
      simpa using Or.inl (keys.asked entry member)⟩
  | lookup i =>
    obtain ⟨call, inside, -, -, rfl⟩ := step_lookup.mp stepped
    exact keys.of_frame rfl (setPhase_queries inside)
  | lock i =>
    obtain ⟨call, inside, -, -, rfl⟩ := step_lock.mp stepped
    exact keys.of_frame rfl (setPhase_queries inside)
  | finish i =>
    obtain ⟨call, stmt, inside, -, rfl⟩ := step_finish.mp stepped
    exact keys.of_frame rfl (setPhase_queries inside)
  | close =>
    obtain ⟨-, rfl⟩ := step_close.mp stepped
    exact ⟨List.nodup_nil, fun _ member => nomatch member⟩
  | prepare i failure =>
    obtain ⟨call, inside, -, rfl⟩ := step_prepare.mp stepped
    have queries := @setPhase_queries c i call (call.entry.afterPrepare (c.preparerResult failure)) inside
    cases failure with
    | some err => exact keys.of_frame rfl queries
    | none =>
      have own : call.query ∈ c.calls.map (·.query) := List.mem_map_of_mem _ (List.getElem?_mem inside)
      constructor
      · show (call.query :: (c.statements.filter (·.1 != call.query)).map (·.1)).Nodup
        refine List.nodup_cons.mpr ⟨fun member => ?_, keys.distinct.sublist ((List.filter_sublist _).map _)⟩
        obtain ⟨entry, kept, same⟩ := List.mem_map.mp member
        simp only [List.mem_filter, bne_iff_ne, ne_eq] at kept
        exact kept.2 same
      · intro entry member
        rw [show (c.prepareReturn i call none).calls = (c.setPhase i call _).calls from rfl, queries]
        rcases mem_insertStatement member with rfl | old
        · exact own
        · exact keys.asked entry old

theorem Reachable.keysAsked {c : Cache} (reach : Reachable c) : KeysAsked c := by
  induction reach with
  | start => exact ⟨List.nodup_nil, fun _ member => nomatch member⟩
  | next _ stepped keys => exact keys.next stepped

/-- Whatever the interleaving, the map holds at most one statement per query
the goroutines asked for. -/
theorem statements_bounded_by_queries {c : Cache} (reach : Reachable c) {queries : List String}
    (asked : ∀ call ∈ c.calls, call.query ∈ queries) : c.statements.length ≤ queries.length := by
  have keys := reach.keysAsked
  have within : c.statements.map (·.1) ⊆ queries := fun query member => by
    obtain ⟨entry, stored, rfl⟩ := List.mem_map.mp member
    obtain ⟨call, entered, same⟩ := List.mem_map.mp (keys.asked entry stored)
    exact same ▸ asked call entered
  simpa using (List.subperm_of_subset keys.distinct within).length_le

/-- `ListTasks` and `CreateTask` miss at once and both prepare: the map holds a
statement for each of the handlers' queries, and never more than the three. -/
theorem listTasks_and_createTask_prepare :
    ∃ c, run newStmtCache
        [.enter .queryContext "select id, created, title, description from tasks order by id",
          .enter .execContext "insert into tasks (created, title, description) values (?, ?, ?)",
          .lookup 0, .lookup 1, .lock 0, .prepare 0 none, .lock 1, .prepare 1 none] = some c ∧
      (∀ call ∈ c.calls, call.query ∈ ["select id, created, title, description from tasks order by id",
        "insert into tasks (created, title, description) values (?, ?, ?)",
        "select id, created, title, description from tasks where id = ?"]) ∧
      c.statements.length ≤ 3 := by
  obtain ⟨c, ran, asked⟩ : ∃ c, run newStmtCache
      [.enter .queryContext "select id, created, title, description from tasks order by id",
        .enter .execContext "insert into tasks (created, title, description) values (?, ?, ?)",
        .lookup 0, .lookup 1, .lock 0, .prepare 0 none, .lock 1, .prepare 1 none] = some c ∧
      ∀ call ∈ c.calls, call.query ∈ ["select id, created, title, description from tasks order by id",
        "insert into tasks (created, title, description) values (?, ?, ?)",
        "select id, created, title, description from tasks where id = ?"] := ⟨_, rfl, by decide⟩
  exact ⟨c, ran, asked, statements_bounded_by_queries (Reachable.start.run ran) asked⟩

theorem lookup_isSome_of_mem {statements : List (String × Stmt)} {query : String} {stmt : Stmt}
    (stored : (query, stmt) ∈ statements) : (statements.lookup query).isSome := by
  cases found : statements.lookup query with
  | some _ => rfl
  | none => simpa using List.lookup_eq_none_iff.mp found _ stored

/-- Every call of `c'` that stands between a miss of `query` and the
preparer's answer already stood there in `c`. -/
def Cache.MissedSince (c c' : Cache) (query : String) : Prop :=
  ∀ (j : Nat) (call : Call), c'.calls[j]? = some call → Call.missed query call = true →
    ∃ earlier, c.calls[j]? = some earlier ∧ Call.missed query earlier = true

theorem Cache.MissedSince.trans {c c' c'' : Cache} {query : String} (first : c.MissedSince c' query)
    (second : c'.MissedSince c'' query) : c.MissedSince c'' query := fun j call found missed => by
  obtain ⟨middle, found', missed'⟩ := second j call found missed
  exact first j middle found' missed'

theorem missedSince_setPhase {c : Cache} {query : String} {i : Nat} {call : Call} (phase : Phase)
    (inside : c.calls[i]? = some call)
    (kept : Call.missed query { call with phase := phase } = true → Call.missed query call = true) :
    c.MissedSince (c.setPhase i call phase) query := by
  intro j other found missed
  by_cases same : i = j
  · subst same
    obtain rfl := Option.some.inj ((setPhase_calls_self inside).symm.trans found)
    exact ⟨call, inside, kept missed⟩
  · exact ⟨other, (List.getElem?_set_ne same).symm.trans found, missed⟩

theorem missedSince_enter (c : Cache) (entry : Entry) (query query' : String) :
    c.MissedSince { c with calls := c.calls ++ [⟨entry, query', .readLock⟩] } query := by
  intro j other found missed
  by_cases old : j < c.calls.length
  · exact ⟨other, (List.getElem?_append_left old).symm.trans found, missed⟩
  · rw [List.getElem?_append_right (Nat.le_of_not_lt old)] at found
    obtain rfl := List.mem_singleton.mp (List.getElem?_mem found)
    simp [Call.missed] at missed

/-- One step while `stmt` is stored under `query`: it stays stored and no call
newly stands between a miss of `query` and the preparer, or `Close` closes it,
or the preparer returns to a call that had missed `query` and the statement
it stores replaces `stmt`. -/
theorem stored_step {c c' : Cache} {a : Action} {query : String} {stmt : Stmt}
    (stored : (query, stmt) ∈ c.statements) (old : stmt.id < c.prepared.length)
    (stepped : step c a = some c') :
    ((query, stmt) ∈ c'.statements ∧ stmt.id < c'.prepared.length ∧ c.MissedSince c' query) ∨
      stmt ∈ c'.closed ∨
      ∃ j call, a = .prepare j none ∧ c.calls[j]? = some call ∧ Call.missed query call = true ∧
        (query, stmt) ∉ c'.statements ∧ (query, ⟨c.prepared.length⟩) ∈ c'.statements := by
  have cached := lookup_isSome_of_mem stored
  cases a with
  | enter entry query' =>
    cases step_enter.symm.trans stepped
    exact .inl ⟨stored, old, missedSince_enter c entry query query'⟩
  | lookup i =>
    obtain ⟨call, inside, -, -, rfl⟩ := step_lookup.mp stepped
    exact .inl ⟨stored, old, missedSince_setPhase _ inside fun missed => by
      rw [missed_afterLookup cached] at missed
      cases missed⟩
  | lock i =>
    obtain ⟨call, inside, atLock, -, rfl⟩ := step_lock.mp stepped
    exact .inl ⟨stored, old, missedSince_setPhase _ inside fun missed => by
      simpa [Call.missed, atLock] using missed⟩
  | finish i =>
    obtain ⟨call, done, inside, -, rfl⟩ := step_finish.mp stepped
    exact .inl ⟨stored, old, missedSince_setPhase _ inside fun missed => by simp [Call.missed] at missed⟩
  | close =>
    obtain ⟨-, rfl⟩ := step_close.mp stepped
    exact .inr (.inl (List.mem_append_right _ (List.mem_map_of_mem (·.2) stored)))
  | prepare i failure =>
    obtain ⟨call, inside, preparing, rfl⟩ := step_prepare.mp stepped
    have since : c.MissedSince (c.prepareReturn i call failure) query :=
      missedSince_setPhase (call.entry.afterPrepare (c.preparerResult failure)) inside fun missed => by
        rw [missed_afterPrepare] at missed
        cases missed
    have grown : stmt.id < (c.prepareReturn i call failure).prepared.length := by
      simp only [Cache.prepareReturn, List.length_append]
      omega
    cases failure with
    | some err => exact .inl ⟨stored, grown, since⟩
    | none =>
      by_cases same : call.query = query
      · subst same
        refine .inr (.inr ⟨i, call, rfl, inside, by simp [Call.missed, preparing], fun member => ?_,
          List.mem_cons_self _ _⟩)
        rcases List.mem_cons.mp member with made | kept
        · cases made
          exact Nat.lt_irrefl _ old
        · simp at kept
      · exact .inl ⟨List.mem_cons_of_mem _ (List.mem_filter.mpr ⟨stored, by simpa using Ne.symm same⟩),
          grown, since⟩

theorem closed_step {c c' : Cache} {a : Action} {stmt : Stmt} (closed : stmt ∈ c.closed)
    (stepped : step c a = some c') : stmt ∈ c'.closed := by
  cases a with
  | enter entry query =>
    cases step_enter.symm.trans stepped
    exact closed
  | lookup i =>
    obtain ⟨call, -, -, -, rfl⟩ := step_lookup.mp stepped
    exact closed
  | lock i =>
    obtain ⟨call, -, -, -, rfl⟩ := step_lock.mp stepped
    exact closed
  | prepare i failure =>
    obtain ⟨call, -, -, rfl⟩ := step_prepare.mp stepped
    exact closed
  | finish i =>
    obtain ⟨call, done, -, -, rfl⟩ := step_finish.mp stepped
    exact closed
  | close =>
    obtain ⟨-, rfl⟩ := step_close.mp stepped
    exact List.mem_append_left _ closed

theorem closed_run {c c' : Cache} {actions : List Action} {stmt : Stmt} (closed : stmt ∈ c.closed)
    (ran : run c actions = some c') : stmt ∈ c'.closed := by
  induction actions generalizing c with
  | nil =>
    cases ran
    exact closed
  | cons a rest ih =>
    simp only [run, Option.bind_eq_some] at ran
    obtain ⟨next, stepped, ran⟩ := ran
    exact ih (closed_step closed stepped) ran

/-- Over a schedule from a state where `stmt` is stored under `query`: if it
ends neither stored nor closed, some step of the schedule is a successful
preparer return to a call that had missed `query` already in `origin`, and
that step replaces `stmt` with the call's own statement. -/
theorem stored_until_replaced {origin c c' : Cache} {actions : List Action} {query : String}
    {stmt : Stmt} (stored : (query, stmt) ∈ c.statements) (old : stmt.id < c.prepared.length)
    (since : origin.MissedSince c query) (ran : run c actions = some c')
    (gone : (query, stmt) ∉ c'.statements) (unclosed : stmt ∉ c'.closed) :
    ∃ j call before after mid mid', origin.calls[j]? = some call ∧ Call.missed query call = true ∧
      actions = before ++ .prepare j none :: after ∧ run c before = some mid ∧
      step mid (.prepare j none) = some mid' ∧ (query, stmt) ∈ mid.statements ∧
      (query, stmt) ∉ mid'.statements ∧ (query, ⟨mid.prepared.length⟩) ∈ mid'.statements := by
  induction actions generalizing c with
  | nil =>
    cases ran
    exact absurd stored gone
  | cons a rest ih =>
    simp only [run, Option.bind_eq_some] at ran
    obtain ⟨next, stepped, ran⟩ := ran
    rcases stored_step stored old stepped with ⟨kept, old', since'⟩ | closed |
      ⟨j, call, rfl, inside, missed, removed, replaced⟩
    · obtain ⟨j, call, before, after, mid, mid', found, missed, rfl, reached, rest⟩ :=
        ih kept old' (since.trans since') ran
      refine ⟨j, call, a :: before, after, mid, mid', found, missed, rfl, ?_, rest⟩
      rw [run, stepped, Option.some_bind]
      exact reached
    · exact absurd (closed_run closed ran) unclosed
    · obtain ⟨earlier, found, missed'⟩ := since j call inside missed
      exact ⟨j, earlier, [], rest, c, next, found, missed', rfl, rfl, stepped, stored, removed, replaced⟩

/-- A statement the preparer returned leaves the map without being closed only
when a second call overwrites it, one that had already missed the map for the
same query when the statement was stored: from the step that stores it, in
every later schedule, if the statement ends neither in the map nor closed,
then another goroutine, which then stood between its miss of the query and
the preparer, has run the preparer successfully and stored its own statement
in its place. -/
theorem leaked_statement_replaced_by_earlier_miss {c c₁ c₂ : Cache} {i : Nat} {call : Call}
    {actions : List Action} (inside : c.calls[i]? = some call)
    (storing : step c (.prepare i none) = some c₁) (ran : run c₁ actions = some c₂)
    (gone : (call.query, ⟨c.prepared.length⟩) ∉ c₂.statements)
    (unclosed : (⟨c.prepared.length⟩ : Stmt) ∉ c₂.closed) :
    ∃ j other before after mid mid', j ≠ i ∧ c₁.calls[j]? = some other ∧
      Call.missed call.query other = true ∧ actions = before ++ .prepare j none :: after ∧
      run c₁ before = some mid ∧ step mid (.prepare j none) = some mid' ∧
      (call.query, ⟨c.prepared.length⟩) ∈ mid.statements ∧
      (call.query, ⟨c.prepared.length⟩) ∉ mid'.statements ∧
      (call.query, ⟨mid.prepared.length⟩) ∈ mid'.statements := by
  obtain ⟨holder, found, -, rfl⟩ := step_prepare.mp storing
  cases inside.symm.trans found
  have stored : (call.query, ⟨c.prepared.length⟩) ∈ (c.prepareReturn i call none).statements :=
    List.mem_cons_self _ _
  have old : c.prepared.length < (c.prepareReturn i call none).prepared.length := by
    simp [Cache.prepareReturn]
  obtain ⟨j, other, before, after, mid, mid', earlier, missed, rest⟩ :=
    stored_until_replaced stored old (fun _ other found missed => ⟨other, found, missed⟩) ran gone unclosed
  refine ⟨j, other, before, after, mid, mid', ?_, earlier, missed, rest⟩
  rintro rfl
  obtain rfl := Option.some.inj ((setPhase_calls_self inside).symm.trans earlier)
  rw [missed_afterPrepare] at missed
  cases missed

theorem raced_statement_replaced_by_second_miss :
    ∃ c c₁ c₂ call, run newStmtCache (prepareRace.take 5) = some c ∧ c.calls[0]? = some call ∧
      step c (.prepare 0 none) = some c₁ ∧ run c₁ (prepareRace.drop 6) = some c₂ ∧
      (call.query, ⟨c.prepared.length⟩) ∉ c₂.statements ∧ (⟨c.prepared.length⟩ : Stmt) ∉ c₂.closed ∧
      ∃ j other before after mid mid', j ≠ 0 ∧ c₁.calls[j]? = some other ∧
        Call.missed call.query other = true ∧ prepareRace.drop 6 = before ++ .prepare j none :: after ∧
        run c₁ before = some mid ∧ step mid (.prepare j none) = some mid' ∧
        (call.query, ⟨c.prepared.length⟩) ∈ mid.statements ∧
        (call.query, ⟨c.prepared.length⟩) ∉ mid'.statements ∧
        (call.query, ⟨mid.prepared.length⟩) ∈ mid'.statements := by
  obtain ⟨c, c₁, c₂, call, ran, inside, storing, raced, gone, unclosed⟩ : ∃ c c₁ c₂ call,
      run newStmtCache (prepareRace.take 5) = some c ∧ c.calls[0]? = some call ∧
        step c (.prepare 0 none) = some c₁ ∧ run c₁ (prepareRace.drop 6) = some c₂ ∧
        (call.query, ⟨c.prepared.length⟩) ∉ c₂.statements ∧ (⟨c.prepared.length⟩ : Stmt) ∉ c₂.closed :=
    ⟨_, _, _, _, rfl, rfl, rfl, rfl, by decide, by decide⟩
  exact ⟨c, c₁, c₂, call, ran, inside, storing, raced, gone, unclosed,
    leaked_statement_replaced_by_earlier_miss inside storing raced gone unclosed⟩

end TwirpTodo.StmtCache
