import TwirpTodo.Errors

namespace TwirpTodo

/-- A `*sql.Stmt`. The database hands out a new statement on every successful
`PrepareContext`, so a statement is named by the preparer call that made it. -/
structure Stmt where
  id : Nat
  deriving DecidableEq, Repr

namespace StmtCache

/-- The method a goroutine entered the cache through. `QueryContext` and
`ExecContext` call `PrepareContext` and then run the statement outside the lock. -/
inductive Entry where
  | prepareContext
  | queryContext
  | execContext
  deriving DecidableEq, Repr

/-- Program points of a goroutine inside the cache. `RLock`, the map read and
`RUnlock` form one step; `preparing` holds the write lock from `c.lock.Lock()`
until the deferred `Unlock`. -/
inductive Phase where
  | readLock
  | writeLock
  | preparing
  | running (stmt : Stmt)
  | returned (result : Except SqlError Stmt)
  deriving DecidableEq, Repr

structure Call where
  entry : Entry
  query : String
  phase : Phase
  deriving DecidableEq, Repr

/-- Where a call goes once it holds a statement: `PrepareContext` returns it,
`QueryContext` and `ExecContext` run it with their arguments. -/
def Entry.withStmt : Entry → Stmt → Phase
  | .prepareContext, stmt => .returned (.ok stmt)
  | .queryContext, stmt => .running stmt
  | .execContext, stmt => .running stmt

/-- A `stmtCache` with the goroutines inside it. `prepared` records every call of
the preparer with its query and result, `closed` every `stmt.Close()`. -/
structure Cache where
  statements : List (String × Stmt)
  calls : List Call
  prepared : List (String × Except SqlError Stmt)
  closed : List Stmt
  deriving DecidableEq, Repr

def newStmtCache : Cache := ⟨[], [], [], []⟩

/-- `c.statements[query] = stmt` replaces any entry for the same query. -/
def insertStatement (statements : List (String × Stmt)) (query : String) (stmt : Stmt) :
    List (String × Stmt) :=
  (query, stmt) :: statements.filter (·.1 != query)

/-- The write lock is held exactly while some goroutine is inside the preparer. -/
def Cache.writeLocked (c : Cache) : Bool := c.calls.any (·.phase == .preparing)

/-- The goroutines holding the write lock. -/
def Cache.holders (c : Cache) : Nat := c.calls.countP (·.phase == .preparing)

/-- Goroutine `i`, if it stands at program point `phase`. -/
def Cache.callAt (c : Cache) (i : Nat) (phase : Phase) : Option Call :=
  c.calls[i]?.filter (·.phase == phase)

/-- A step of goroutine `i` at `phase` that needs the lock free: `RLock` and
`Lock` both wait while a writer holds it. -/
def Cache.whenUnlocked (c : Cache) (i : Nat) (phase : Phase) (next : Call → Cache) :
    Option Cache :=
  match c.callAt i phase, c.writeLocked with
  | some call, false => some (next call)
  | _, _ => none

def Cache.setPhase (c : Cache) (i : Nat) (call : Call) (phase : Phase) : Cache :=
  { c with calls := c.calls.set i { call with phase := phase } }

/-- The read-locked fast path: a hit hands out the cached statement, a miss
goes on to `c.lock.Lock()`. -/
def Cache.afterLookup (c : Cache) (call : Call) : Phase :=
  match c.statements.lookup call.query with
  | some stmt => call.entry.withStmt stmt
  | none => .writeLock

/-- Where a call goes when the preparer returns: on success as after a hit,
on failure it returns the preparer's error unwrapped. -/
def Entry.afterPrepare (entry : Entry) : Except SqlError Stmt → Phase
  | .ok stmt => entry.withStmt stmt
  | .error err => .returned (.error err)

/-- What the preparer returns; a successful call yields a statement no earlier
call has returned. -/
def Cache.preparerResult (c : Cache) : Option SqlError → Except SqlError Stmt
  | none => .ok ⟨c.prepared.length⟩
  | some err => .error err

/-- The preparer returns to goroutine `i`. On success the statement is stored
under the query; the deferred `Unlock` follows in the same step. -/
def Cache.prepareReturn (c : Cache) (i : Nat) (call : Call) (failure : Option SqlError) : Cache :=
  let result := c.preparerResult failure
  { c.setPhase i call (call.entry.afterPrepare result) with
    statements :=
      match result with
      | .ok stmt => insertStatement c.statements call.query stmt
      | .error _ => c.statements
    prepared := c.prepared ++ [(call.query, result)] }

/-- `stmtCache.Close`: under the write lock, delete every entry and close its
statement. -/
def Cache.close (c : Cache) : Cache :=
  { c with statements := [], closed := c.closed ++ c.statements.map (·.2) }

/-- One scheduling step. `prepare` carries the preparer's outcome, `none` for
success; `finish` is the end of `stmt.QueryContext` or `stmt.ExecContext`. -/
inductive Action where
  | enter (entry : Entry) (query : String)
  | lookup (caller : Nat)
  | lock (caller : Nat)
  | prepare (caller : Nat) (failure : Option SqlError)
  | finish (caller : Nat)
  | close
  deriving DecidableEq, Repr

/-- The interleaving semantics of `stmtCache`; `none` when the step is not
enabled, for instance when it waits for the lock. -/
def step (c : Cache) : Action → Option Cache
  | .enter entry query => some { c with calls := c.calls ++ [⟨entry, query, .readLock⟩] }
  | .lookup i => c.whenUnlocked i .readLock fun call => c.setPhase i call (c.afterLookup call)
  | .lock i => c.whenUnlocked i .writeLock fun call => c.setPhase i call .preparing
  | .prepare i failure => (c.callAt i .preparing).map (c.prepareReturn i · failure)
  | .finish i =>
    match c.calls[i]? with
    | some call =>
      match call.phase with
      | .running stmt => some (c.setPhase i call (.returned (.ok stmt)))
      | _ => none
    | none => none
  | .close => if c.writeLocked then none else some c.close

@[simp] theorem setPhase_statements (c : Cache) (i : Nat) (call : Call) (phase : Phase) :
    (c.setPhase i call phase).statements = c.statements := rfl

@[simp] theorem setPhase_prepared (c : Cache) (i : Nat) (call : Call) (phase : Phase) :
    (c.setPhase i call phase).prepared = c.prepared := rfl

@[simp] theorem setPhase_closed (c : Cache) (i : Nat) (call : Call) (phase : Phase) :
    (c.setPhase i call phase).closed = c.closed := rfl

theorem callAt_eq_some {c : Cache} {i : Nat} {phase : Phase} {call : Call} :
    c.callAt i phase = some call ↔ c.calls[i]? = some call ∧ call.phase = phase := by
  simp [Cache.callAt, Option.filter_eq_some]

theorem writeLocked_eq_false {c : Cache} :
    c.writeLocked = false ↔ ∀ call ∈ c.calls, call.phase ≠ .preparing := by
  simp only [Cache.writeLocked, List.any_eq_false, beq_iff_eq]

theorem writeLocked_eq_false_iff_holders {c : Cache} : c.writeLocked = false ↔ c.holders = 0 := by
  simp only [writeLocked_eq_false, ne_eq, Cache.holders, List.countP_eq_zero, beq_iff_eq]

theorem holders_setPhase {c : Cache} {i : Nat} {call : Call} {phase : Phase}
    (inside : c.calls[i]? = some call) :
    (c.setPhase i call phase).holders =
      c.holders - (if call.phase == .preparing then 1 else 0) +
        (if phase == .preparing then 1 else 0) := by
  obtain ⟨bound, rfl⟩ := List.getElem?_eq_some_iff.mp inside
  exact List.countP_set _ _ _ _ bound

theorem holders_setPhase_of_not_preparing {c : Cache} {i : Nat} {call : Call} {phase : Phase}
    (inside : c.calls[i]? = some call) (before : (call.phase == .preparing) = false)
    (after : (phase == .preparing) = false) :
    (c.setPhase i call phase).holders = c.holders := by
  rw [holders_setPhase inside, before, after]
  rfl

theorem setPhase_calls_self {c : Cache} {i : Nat} {call : Call} {phase : Phase}
    (inside : c.calls[i]? = some call) :
    (c.setPhase i call phase).calls[i]? = some { call with phase := phase } := by
  obtain ⟨bound, -⟩ := List.getElem?_eq_some_iff.mp inside
  exact List.getElem?_set_self bound

theorem step_enter {c : Cache} {entry : Entry} {query : String} :
    step c (.enter entry query) = some { c with calls := c.calls ++ [⟨entry, query, .readLock⟩] } :=
  rfl

theorem whenUnlocked_eq_some {c c' : Cache} {i : Nat} {phase : Phase} {next : Call → Cache} :
    c.whenUnlocked i phase next = some c' ↔ ∃ call, c.calls[i]? = some call ∧
      call.phase = phase ∧ c.writeLocked = false ∧ c' = next call := by
  unfold Cache.whenUnlocked
  split
  · rename_i call found locked
    obtain ⟨inside, atPoint⟩ := callAt_eq_some.mp found
    constructor
    · rintro ⟨⟩; exact ⟨call, inside, atPoint, locked, rfl⟩
    · rintro ⟨other, inside', -, -, rfl⟩
      cases inside.symm.trans inside'; rfl
  · rename_i blocked
    simp only [reduceCtorEq, false_iff, not_exists, not_and]
    intro call inside atPoint locked _
    exact blocked call (callAt_eq_some.mpr ⟨inside, atPoint⟩) locked

theorem step_lookup {c c' : Cache} {i : Nat} :
    step c (.lookup i) = some c' ↔ ∃ call, c.calls[i]? = some call ∧ call.phase = .readLock ∧
      c.writeLocked = false ∧ c' = c.setPhase i call (c.afterLookup call) :=
  whenUnlocked_eq_some

theorem step_lock {c c' : Cache} {i : Nat} :
    step c (.lock i) = some c' ↔ ∃ call, c.calls[i]? = some call ∧ call.phase = .writeLock ∧
      c.writeLocked = false ∧ c' = c.setPhase i call .preparing :=
  whenUnlocked_eq_some

theorem step_prepare {c c' : Cache} {i : Nat} {failure : Option SqlError} :
    step c (.prepare i failure) = some c' ↔ ∃ call, c.calls[i]? = some call ∧
      call.phase = .preparing ∧ c' = c.prepareReturn i call failure := by
  simp only [step, Option.map_eq_some', callAt_eq_some, and_assoc]
  exact exists_congr fun _ => and_congr_right fun _ => and_congr_right fun _ => eq_comm

theorem step_finish {c c' : Cache} {i : Nat} :
    step c (.finish i) = some c' ↔ ∃ call stmt, c.calls[i]? = some call ∧
      call.phase = .running stmt ∧ c' = c.setPhase i call (.returned (.ok stmt)) := by
  constructor
  · intro stepped
    simp only [step] at stepped
    split at stepped
    · rename_i call inside
      split at stepped
      · rename_i stmt running
        exact ⟨call, stmt, inside, running, (Option.some.inj stepped).symm⟩
      · cases stepped
    · cases stepped
  · rintro ⟨call, stmt, inside, running, rfl⟩
    simp only [step, inside, running]

theorem step_close {c c' : Cache} :
    step c .close = some c' ↔ c.writeLocked = false ∧ c' = c.close := by
  cases locked : c.writeLocked <;> simp [step, locked, eq_comm]

def run (c : Cache) : List Action → Option Cache
  | [] => some c
  | a :: rest => (step c a).bind (run · rest)

inductive Reachable : Cache → Prop
  | start : Reachable newStmtCache
  | next {c c' : Cache} {a : Action} : Reachable c → step c a = some c' → Reachable c'

end StmtCache

end TwirpTodo
