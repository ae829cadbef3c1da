import TwirpTodo.StmtCache.Reuse

namespace TwirpTodo.StmtCache

/-- What `stmtCache` is for: a memo table of prepared statements. A query with
an entry gets its statement; one without asks the preparer, which makes a new
statement, named by the number of preparer calls before it, and the table keeps
it when the preparer succeeds. `Close` forgets every entry. -/
structure Memo where
  table : String → Option Stmt
  made : Nat

/-- A request to the cache made while no other goroutine in it moves: a call
through `entry`, with `failure` the preparer's outcome should it be called, or
`Close`. -/
inductive Request where
  | call (entry : Entry) (query : String) (failure : Option SqlError)
  | close
  deriving DecidableEq, Repr

/-- The memo table's answer to a call for `query`, and its next state. -/
def Memo.get (m : Memo) (query : String) (failure : Option SqlError) : Memo × Except SqlError Stmt :=
  match m.table query with
  | some stmt => (m, .ok stmt)
  | none =>
    match failure with
    | none => (⟨fun q => if q = query then some ⟨m.made⟩ else m.table q, m.made + 1⟩, .ok ⟨m.made⟩)
    | some err => (⟨m.table, m.made + 1⟩, .error err)

def Memo.step (m : Memo) : Request → Memo
  | .call _ query failure => (m.get query failure).1
  | .close => ⟨fun _ => none, m.made⟩

/-- The goroutines a request leaves behind, returned with the memo table's answer. -/
def Memo.returned (m : Memo) : Request → List Call
  | .call entry query failure => [⟨entry, query, .returned (m.get query failure).2⟩]
  | .close => []

/-- The steps of one request alone in the cache, as the memo table predicts
them: the read-locked lookup, on a miss the lock and the preparer, and for
`QueryContext` and `ExecContext` holding a statement, the statement's own work. -/
def Memo.soloSteps (m : Memo) (i : Nat) : Request → List Action
  | .call entry query failure =>
    let finish : List Action := if entry = .prepareContext then [] else [.finish i]
    match m.table query, failure with
    | some _, _ => [.enter entry query, .lookup i] ++ finish
    | none, none => [.enter entry query, .lookup i, .lock i, .prepare i none] ++ finish
    | none, some err => [.enter entry query, .lookup i, .lock i, .prepare i (some err)]
  | .close => [.close]

/-- One request after another, each alone in the cache. -/
def Memo.schedule (m : Memo) (i : Nat) : List Request → List Action
  | [] => []
  | request :: rest => m.soloSteps i request ++ (m.step request).schedule (i + (m.returned request).length) rest

/-- The memo table after a sequence of requests, and the goroutines they leave. -/
def Memo.serve (m : Memo) : List Request → Memo × List Call
  | [] => (m, [])
  | request :: rest => ((m.step request).serve rest).map id (m.returned request ++ ·)

/-- The abstraction of a cache: its map, as a function, and how often the
preparer has been called. -/
def Cache.memo (c : Cache) : Memo := ⟨c.statements.lookup, c.prepared.length⟩

/-- The cache with one more goroutine, entered last. -/
def Cache.withLast (c : Cache) (call : Call) : Cache := { c with calls := c.calls ++ [call] }

theorem run_append (c : Cache) (first second : List Action) :
    run c (first ++ second) = (run c first).bind (run · second) := by
  induction first generalizing c with
  | nil => rfl
  | cons a rest ih =>
    simp only [List.cons_append, run]
    cases step c a with
    | none => rfl
    | some c' => exact ih c'

theorem withLast_writeLocked (c : Cache) (call : Call) :
    (c.withLast call).writeLocked = (c.writeLocked || call.phase == .preparing) := by
  simp [Cache.withLast, Cache.writeLocked, List.any_append]

theorem withLast_returned_writeLocked {c : Cache} (unlocked : c.writeLocked = false) (entry : Entry)
    (query : String) (result : Except SqlError Stmt) :
    (c.withLast ⟨entry, query, .returned result⟩).writeLocked = false := by
  rw [withLast_writeLocked, unlocked]
  rfl

theorem withLast_calls_last (c : Cache) (call : Call) : (c.withLast call).calls[c.calls.length]? = some call :=
  List.getElem?_concat_length _ _

theorem setPhase_withLast (c : Cache) (call : Call) (phase : Phase) :
    (c.withLast call).setPhase c.calls.length call phase = c.withLast { call with phase := phase } := by
  simp [Cache.withLast, Cache.setPhase, List.set_append_right]

theorem step_lookup_last {c : Cache} {call : Call} (unlocked : c.writeLocked = false)
    (atLookup : call.phase = .readLock) :
    step (c.withLast call) (.lookup c.calls.length) = some (c.withLast { call with phase := c.afterLookup call }) :=
  step_lookup.mpr ⟨call, withLast_calls_last c call, atLookup,
    by rw [withLast_writeLocked, unlocked, atLookup]; rfl, (setPhase_withLast c call _).symm⟩

theorem step_lock_last {c : Cache} {call : Call} (unlocked : c.writeLocked = false)
    (atLock : call.phase = .writeLock) :
    step (c.withLast call) (.lock c.calls.length) = some (c.withLast { call with phase := .preparing }) :=
  step_lock.mpr ⟨call, withLast_calls_last c call, atLock,
    by rw [withLast_writeLocked, unlocked, atLock]; rfl, (setPhase_withLast c call _).symm⟩

theorem step_prepare_last {c : Cache} {call : Call} (failure : Option SqlError)
    (atPrepare : call.phase = .preparing) :
    step (c.withLast call) (.prepare c.calls.length failure) =
      some ({ c with
        statements :=
          match c.preparerResult failure with
          | .ok stmt => insertStatement c.statements call.query stmt
          | .error _ => c.statements
        prepared := c.prepared ++ [(call.query, c.preparerResult failure)] }.withLast
        { call with phase := call.entry.afterPrepare (c.preparerResult failure) }) := by
  rw [step_prepare.mpr ⟨call, withLast_calls_last c call, atPrepare, rfl⟩, Cache.prepareReturn, setPhase_withLast]
  rfl

theorem step_finish_last {c : Cache} {call : Call} {stmt : Stmt} (running : call.phase = .running stmt) :
    step (c.withLast call) (.finish c.calls.length) =
      some (c.withLast { call with phase := .returned (.ok stmt) }) :=
  step_finish.mpr ⟨call, stmt, withLast_calls_last c call, running, (setPhase_withLast c call _).symm⟩

theorem step_enter_last (c : Cache) (entry : Entry) (query : String) :
    step c (.enter entry query) = some (c.withLast ⟨entry, query, .readLock⟩) := rfl

/-- A call holding a statement returns it, after the statement's own work for
`QueryContext` and `ExecContext`. -/
theorem run_holding (c : Cache) (entry : Entry) (query : String) (stmt : Stmt) :
    run (c.withLast ⟨entry, query, entry.withStmt stmt⟩)
        (if entry = .prepareContext then [] else [.finish c.calls.length]) =
      some (c.withLast ⟨entry, query, .returned (.ok stmt)⟩) := by
  cases entry with
  | prepareContext => rfl
  | queryContext => rw [if_neg (by decide), run, step_finish_last rfl]; rfl
  | execContext => rw [if_neg (by decide), run, step_finish_last rfl]; rfl

/-- A call that enters with the lock free and finds its query in the map takes
the statement on the read-locked path. -/
theorem run_enter_hit {c : Cache} (unlocked : c.writeLocked = false) {entry : Entry} {query : String}
    {stmt : Stmt} (hit : c.statements.lookup query = some stmt) (rest : List Action) :
    run c (.enter entry query :: .lookup c.calls.length :: rest) =
      run (c.withLast ⟨entry, query, entry.withStmt stmt⟩) rest := by
  have looked : c.afterLookup ⟨entry, query, .readLock⟩ = entry.withStmt stmt := by
    simp [Cache.afterLookup, hit]
  rw [run, step_enter_last, Option.some_bind, run, step_lookup_last unlocked rfl, Option.some_bind, looked]

/-- Without an entry it misses, takes the lock and stands before the preparer. -/
theorem run_enter_miss {c : Cache} (unlocked : c.writeLocked = false) {entry : Entry} {query : String}
    (missing : c.statements.lookup query = none) (rest : List Action) :
    run c (.enter entry query :: .lookup c.calls.length :: .lock c.calls.length :: rest) =
      run (c.withLast ⟨entry, query, .preparing⟩) rest := by
  have missed : c.afterLookup ⟨entry, query, .readLock⟩ = .writeLock := by simp [Cache.afterLookup, missing]
  rw [run, step_enter_last, Option.some_bind, run, step_lookup_last unlocked rfl, Option.some_bind,
    missed, run, step_lock_last unlocked rfl, Option.some_bind]

/-- One `PrepareContext(query)` that enters now and runs with no other goroutine
scheduled in between, the preparer failing with `failure` if given. -/
def prepareAlone (c : Cache) (query : String) (failure : Option SqlError) : List Action :=
  [.enter .prepareContext query, .lookup c.calls.length, .lock c.calls.length,
    .prepare c.calls.length failure]

/-- Under every interleaving and every pattern of preparer failures: an entry
holds a statement prepared for exactly its key; a call returns or runs only a
statement prepared for its own query, or returns the preparer's error for it;
a failed preparation changes no entry and frees the lock. And from every such
state with the lock free, `PrepareContext(query)` run alone returns: the
cached statement when the map has an entry, and otherwise what the preparer,
called for `query`, returns. So after a failed preparation the next call for
the query calls the preparer again. -/
theorem statements_prepared_for_own_query {c : Cache} (reach : Reachable c) :
    (∀ query stmt, c.statements.lookup query = some stmt →
      (query, .ok stmt) ∈ c.prepared ∧ ∀ other, (other, .ok stmt) ∈ c.prepared → other = query) ∧
    (∀ call ∈ c.calls, ∀ result, call.phase = .returned result →
      (call.query, result) ∈ c.prepared) ∧
    (∀ call ∈ c.calls, ∀ stmt, call.phase = .running stmt →
      (call.query, .ok stmt) ∈ c.prepared) ∧
    (∀ i err c', step c (.prepare i (some err)) = some c' →
      c'.statements = c.statements ∧ c'.writeLocked = false) ∧
    (c.writeLocked = false → ∀ query stmt, c.statements.lookup query = some stmt →
      run c [.enter .prepareContext query, .lookup c.calls.length] =
        some (c.withLast ⟨.prepareContext, query, .returned (.ok stmt)⟩)) ∧
    (c.writeLocked = false → ∀ query failure, c.statements.lookup query = none →
      ∃ c', run c (prepareAlone c query failure) = some c' ∧
        c'.calls = c.calls ++ [⟨.prepareContext, query, .returned (c.preparerResult failure)⟩] ∧
        c'.prepared = c.prepared ++ [(query, c.preparerResult failure)]) := by
  have sound := reach.sound
  refine ⟨fun query stmt found => ?_, fun call member result returned => ?_,
    fun call member stmt running => ?_, fun i err c' stepped => sound.prepare_failed stepped,
    fun unlocked query stmt hit => run_enter_hit unlocked hit [],
    fun unlocked query failure missing => ?_⟩
  · have prepared := sound.statements _ (mem_of_lookup_eq_some found)
    exact ⟨prepared, fun other also => sound.query_unique prepared also⟩
  · simpa [Call.FromPreparer, returned] using sound.calls call member
  · simpa [Call.FromPreparer, running] using sound.calls call member
  · rw [prepareAlone, run_enter_miss unlocked missing, run, step_prepare_last failure rfl, Option.some_bind]
    cases failure <;> exact ⟨_, rfl, rfl, rfl⟩

/-- `PrepareContext("q")` whose preparer fails, then another `PrepareContext("q")`. -/
theorem failedPrepare_then_retry_prepares :
    ∃ c c' c'', run newStmtCache [.enter .prepareContext "q", .lookup 0, .lock 0] = some c ∧
      step c (.prepare 0 (some ⟨"database is locked"⟩)) = some c' ∧
      c'.statements = c.statements ∧ c'.writeLocked = false ∧ c'.statements.lookup "q" = none ∧
      run c' (prepareAlone c' "q" none) = some c'' ∧
      c''.calls = c'.calls ++ [⟨.prepareContext, "q", .returned (.ok ⟨1⟩)⟩] ∧
      c''.prepared = [("q", .error ⟨"database is locked"⟩), ("q", .ok ⟨1⟩)] := by
  obtain ⟨c, c', ran, failed, missing, log⟩ : ∃ c c',
      run newStmtCache [.enter .prepareContext "q", .lookup 0, .lock 0] = some c ∧
        step c (.prepare 0 (some ⟨"database is locked"⟩)) = some c' ∧ c'.statements.lookup "q" = none ∧
        c'.prepared = [("q", .error ⟨"database is locked"⟩)] :=
    ⟨_, _, rfl, rfl, rfl, rfl⟩
  have reach := Reachable.start.run ran
  obtain ⟨same, unlocked⟩ := (statements_prepared_for_own_query reach).2.2.2.1 0 _ c' failed
  obtain ⟨c'', retried, calls, prepared⟩ :=
    (statements_prepared_for_own_query (reach.next failed)).2.2.2.2.2 unlocked "q" none missing
  rw [Cache.preparerResult, log] at calls prepared
  exact ⟨c, c', c'', ran, failed, same, unlocked, missing, retried, calls, prepared⟩

/-- Every statement the preparer made is in the map under its query, or closed. -/
def Tracked (c : Cache) : Prop :=
  ∀ query stmt, (query, .ok stmt) ∈ c.prepared → (query, stmt) ∈ c.statements ∨ stmt ∈ c.closed

theorem tracked_newStmtCache : Tracked newStmtCache := fun _ _ made => nomatch made

theorem Tracked.close {c : Cache} (tracked : Tracked c) : Tracked c.close := fun query stmt made =>
  .inr <| (tracked query stmt made).elim (fun kept => List.mem_append_right _ (List.mem_map_of_mem (·.2) kept))
    (List.mem_append_left _)

/-- A statement stored for a query without entry replaces nothing. -/
theorem Tracked.stored {c : Cache} (tracked : Tracked c) {query : String} (missing : c.statements.lookup query = none) :
    Tracked { c with
      statements := insertStatement c.statements query ⟨c.prepared.length⟩
      prepared := c.prepared ++ [(query, .ok ⟨c.prepared.length⟩)] } := by
  intro key stmt made
  rcases List.mem_append.mp made with old | latest
  · rcases tracked key stmt old with kept | closed
    · have other : query ≠ key := by
        simpa using (List.lookup_eq_none_iff.mp missing) (key, stmt) kept
      exact .inl (List.mem_cons_of_mem _ (List.mem_filter.mpr ⟨kept, by simpa using other.symm⟩))
    · exact .inr closed
  · simp only [List.mem_singleton, Prod.mk.injEq, Except.ok.injEq] at latest
    obtain ⟨rfl, rfl⟩ := latest
    exact .inl (List.mem_cons_self _ _)

theorem Tracked.failed {c : Cache} (tracked : Tracked c) (query : String) (err : SqlError) :
    Tracked { c with prepared := c.prepared ++ [(query, .error err)] } := by
  intro key stmt made
  rcases List.mem_append.mp made with old | latest
  · exact tracked key stmt old
  · simp at latest

/-- One request alone in the cache is one step of the memo table: the cache
runs the steps the table predicts, its abstraction moves as the table does,
the call returns what the table answers, and the lock is free again. -/
theorem run_soloSteps {c : Cache} (unlocked : c.writeLocked = false) (request : Request) :
    ∃ c', run c (c.memo.soloSteps c.calls.length request) = some c' ∧
      c'.memo = c.memo.step request ∧ c'.calls = c.calls ++ c.memo.returned request ∧
      c'.writeLocked = false ∧ (Tracked c → Tracked c') := by
  cases request with
  | close =>
    refine ⟨c.close, ?_, rfl, (List.append_nil _).symm, unlocked, Tracked.close⟩
    rw [Memo.soloSteps, run, step_close.mpr ⟨unlocked, rfl⟩]
    rfl
  | call entry query failure =>
    cases hit : c.statements.lookup query with
    | some stmt =>
      refine ⟨c.withLast ⟨entry, query, .returned (.ok stmt)⟩, ?_, ?_, ?_,
        withLast_returned_writeLocked unlocked _ _ _, id⟩
      · simp only [Memo.soloSteps, Cache.memo, hit, List.cons_append, List.nil_append]
        rw [run_enter_hit unlocked hit]
        exact run_holding c entry query stmt
      · simp [Memo.step, Memo.get, Cache.memo, hit, Cache.withLast]
      · simp [Memo.returned, Memo.get, Cache.memo, hit, Cache.withLast]
    | none =>
      cases failure with
      | none =>
        let stored : Cache := { c with
          statements := insertStatement c.statements query ⟨c.prepared.length⟩
          prepared := c.prepared ++ [(query, .ok ⟨c.prepared.length⟩)] }
        refine ⟨stored.withLast ⟨entry, query, .returned (.ok ⟨c.prepared.length⟩)⟩, ?_, ?_, ?_,
          withLast_returned_writeLocked unlocked _ _ _, fun tracked => tracked.stored hit⟩
        · simp only [Memo.soloSteps, Cache.memo, hit, List.cons_append, List.nil_append]
          rw [run_enter_miss unlocked hit, run, step_prepare_last none rfl, Option.some_bind]
          exact run_holding stored entry query _
        · simp only [Cache.memo, Memo.step, Memo.get, hit, Cache.withLast, stored, List.length_append,
            List.length_singleton, Memo.mk.injEq, and_true]
          funext key
          exact lookup_insertStatement _ _ _ _
        · simp [Memo.returned, Memo.get, Cache.memo, hit, Cache.withLast, stored]
      | some err =>
        let failed : Cache := { c with prepared := c.prepared ++ [(query, .error err)] }
        refine ⟨failed.withLast ⟨entry, query, .returned (.error err)⟩, ?_, ?_, ?_,
          withLast_returned_writeLocked unlocked _ _ _, fun tracked => tracked.failed query err⟩
        · simp only [Memo.soloSteps, Cache.memo, hit]
          rw [run_enter_miss unlocked hit, run, step_prepare_last (some err) rfl]
          rfl
        · simp [Cache.memo, Memo.step, Memo.get, hit, Cache.withLast, failed]
        · simp [Memo.returned, Memo.get, Cache.memo, hit, Cache.withLast, failed]

theorem run_schedule {c : Cache} (unlocked : c.writeLocked = false) (requests : List Request) :
    ∃ c', run c (c.memo.schedule c.calls.length requests) = some c' ∧
      c'.memo = (c.memo.serve requests).1 ∧ c'.calls = c.calls ++ (c.memo.serve requests).2 ∧
      (Tracked c → Tracked c') := by
  induction requests generalizing c with
  | nil => exact ⟨c, rfl, rfl, (List.append_nil _).symm, id⟩
  | cons request rest ih =>
    obtain ⟨c₁, ran, memo, calls, unlocked₁, tracks⟩ := run_soloSteps unlocked request
    obtain ⟨c₂, ran', memo', calls', tracks'⟩ := ih unlocked₁
    have length : c₁.calls.length = c.calls.length + (c.memo.returned request).length := by
      rw [calls, List.length_append]
    refine ⟨c₂, ?_, ?_, ?_, tracks' ∘ tracks⟩
    · rw [Memo.schedule, run_append, ran, Option.some_bind, ← memo, ← length]
      exact ran'
    · rw [memo', memo]
      rfl
    · rw [calls', calls, memo, List.append_assoc]
      rfl

/-- Used one request at a time, the cache is the memo table it stands for:
from any cache whose lock is free, for every sequence of `PrepareContext`,
`QueryContext`, `ExecContext` and `Close` calls and every pattern of preparer
failures, the cache runs the steps the table predicts, its map ends as the
table's, and every call returns the table's answer. So a query is prepared
once until a `Close`, and every later call gets that statement; a failed
preparation stores nothing, and the next call prepares again. -/
theorem sequential_use_refines_memo {c : Cache} (unlocked : c.writeLocked = false) (requests : List Request) :
    ∃ c', run c (c.memo.schedule c.calls.length requests) = some c' ∧
      c'.memo = (c.memo.serve requests).1 ∧ c'.calls = c.calls ++ (c.memo.serve requests).2 := by
  obtain ⟨c', ran, memo, calls, -⟩ := run_schedule unlocked requests
  exact ⟨c', ran, memo, calls⟩

/-- `PrepareContext("q")`, a `QueryContext("q")` served from the map, `Close`,
and an `ExecContext("q")` that prepares again. -/
def reuseThenClose : List Request :=
  [.call .prepareContext "q" none, .call .queryContext "q" none, .close, .call .execContext "q" none]

theorem reuseThenClose_follows_memo :
    newStmtCache.writeLocked = false ∧
      ∃ c', run newStmtCache (newStmtCache.memo.schedule newStmtCache.calls.length reuseThenClose) = some c' ∧
        c'.memo = (newStmtCache.memo.serve reuseThenClose).1 ∧
        c'.calls = newStmtCache.calls ++ (newStmtCache.memo.serve reuseThenClose).2 :=
  ⟨rfl, @sequential_use_refines_memo newStmtCache rfl reuseThenClose⟩

example : (newStmtCache.memo.serve reuseThenClose).2.map (·.phase) =
    [.returned (.ok ⟨0⟩), .returned (.ok ⟨0⟩), .returned (.ok ⟨1⟩)] := by
  decide

theorem Memo.serve_append_close (m : Memo) (requests : List Request) :
    (m.serve (requests ++ [.close])).1.table = fun _ => none := by
  induction requests generalizing m with
  | nil => rfl
  | cons request rest ih => exact ih (m.step request)

/-- Used one request at a time, the cache leaks nothing: for every sequence of
calls and every pattern of preparer failures, a `Close` at the end has closed
every statement the preparer ever made. Only calls that overlap can make a
statement that no `Close` reaches. -/
theorem sequential_use_closes_every_statement {c : Cache} (unlocked : c.writeLocked = false)
    (tracked : Tracked c) (requests : List Request) :
    ∃ c', run c (c.memo.schedule c.calls.length (requests ++ [.close])) = some c' ∧
      ∀ query stmt, (query, .ok stmt) ∈ c'.prepared → stmt ∈ c'.closed := by
  obtain ⟨c', ran, memo, -, tracks⟩ := run_schedule unlocked (requests ++ [.close])
  refine ⟨c', ran, fun query stmt made => (tracks tracked query stmt made).resolve_left fun kept => ?_⟩
  have emptied : c'.statements.lookup query = none := by
    rw [show c'.statements.lookup query = c'.memo.table query from rfl, memo, Memo.serve_append_close]
  simpa using (List.lookup_eq_none_iff.mp emptied) (query, stmt) kept

theorem reuseThenClose_closes_every_statement :
    newStmtCache.writeLocked = false ∧ Tracked newStmtCache ∧
      ∃ c', run newStmtCache
          (newStmtCache.memo.schedule newStmtCache.calls.length (reuseThenClose ++ [.close])) = some c' ∧
        ∀ query stmt, (query, .ok stmt) ∈ c'.prepared → stmt ∈ c'.closed :=
  ⟨rfl, tracked_newStmtCache,
    @sequential_use_closes_every_statement newStmtCache rfl tracked_newStmtCache reuseThenClose⟩

end TwirpTodo.StmtCache
