import TwirpTodo.StmtCache.Basic

namespace TwirpTodo.StmtCache

/-- What a call holds came from the preparer, called for the call's own query:
the statement it runs or returned, or the preparer's error it returned. -/
def Call.FromPreparer (prepared : List (String × Except SqlError Stmt)) (call : Call) : Prop :=
  match call.phase with
  | .running stmt => (call.query, .ok stmt) ∈ prepared
  | .returned result => (call.query, result) ∈ prepared
  | _ => True

theorem Call.FromPreparer.append {prepared : List (String × Except SqlError Stmt)} {call : Call}
    (origin : call.FromPreparer prepared) (more : List (String × Except SqlError Stmt)) :
    call.FromPreparer (prepared ++ more) := by
  unfold Call.FromPreparer at *
  cases phase : call.phase with
  | running stmt =>
    rw [phase] at origin
    exact List.mem_append_left _ origin
  | returned result =>
    rw [phase] at origin
    exact List.mem_append_left _ origin
  | _ => trivial

theorem Call.fromPreparer_afterPrepare {prepared : List (String × Except SqlError Stmt)}
    {call : Call} {result : Except SqlError Stmt} (member : (call.query, result) ∈ prepared) :
    Call.FromPreparer prepared { call with phase := call.entry.afterPrepare result } := by
  cases result <;> cases call.entry <;> exact member

theorem afterPrepare_ne_preparing (entry : Entry) (result : Except SqlError Stmt) :
    (entry.afterPrepare result == .preparing) = false := by
  cases result <;> cases entry <;> rfl

theorem mem_of_lookup_eq_some {statements : List (String × Stmt)} {query : String} {stmt : Stmt}
    (found : statements.lookup query = some stmt) : (query, stmt) ∈ statements := by
  obtain ⟨before, after, rfl, -⟩ := List.lookup_eq_some_iff.mp found
  simp

theorem mem_insertStatement {statements : List (String × Stmt)} {query : String} {stmt : Stmt}
    {entry : String × Stmt} (member : entry ∈ insertStatement statements query stmt) :
    entry = (query, stmt) ∨ entry ∈ statements := by
  simp only [insertStatement, List.mem_cons, List.mem_filter] at member
  exact member.imp_right And.left

theorem getElem?_append_singleton {α : Type} {l : List α} {x y : α} {n : Nat}
    (found : (l ++ [x])[n]? = some y) : l[n]? = some y ∨ n = l.length ∧ y = x := by
  rw [List.getElem?_append] at found
  split at found
  · exact .inl found
  · rename_i beyond
    have within := (List.getElem?_eq_some_iff.mp found).1
    simp only [List.length_singleton] at within
    refine .inr ⟨by omega, ?_⟩
    simpa [show n - l.length = 0 by omega] using found.symm

theorem mem_setPhase_calls {c : Cache} {i : Nat} {call other : Call} {phase : Phase}
    (member : other ∈ (c.setPhase i call phase).calls) :
    other ∈ c.calls ∨ other = { call with phase := phase } :=
  List.mem_or_eq_of_mem_set member

/-- The invariant of every reachable cache: map entries, and whatever a call
holds, come from the preparer for the same query; the statement of the n-th
preparer call is statement n; at most one goroutine holds the write lock. -/
structure Sound (c : Cache) : Prop where
  statements : ∀ entry ∈ c.statements, (entry.1, .ok entry.2) ∈ c.prepared
  calls : ∀ call ∈ c.calls, call.FromPreparer c.prepared
  ids : ∀ (n : Nat) (query : String) (stmt : Stmt),
    c.prepared[n]? = some (query, .ok stmt) → stmt.id = n
  holders : c.holders ≤ 1

theorem sound_newStmtCache : Sound newStmtCache :=
  ⟨by simp [newStmtCache], by simp [newStmtCache], by simp [newStmtCache],
    by simp [newStmtCache, Cache.holders]⟩

/-- A statement is prepared for one query only. -/
theorem Sound.query_unique {c : Cache} {query other : String} {stmt : Stmt} (sound : Sound c)
    (member : (query, .ok stmt) ∈ c.prepared) (also : (other, .ok stmt) ∈ c.prepared) :
    other = query := by
  obtain ⟨n, atN⟩ := List.mem_iff_getElem?.mp member
  obtain ⟨m, atM⟩ := List.mem_iff_getElem?.mp also
  have same : m = n := (sound.ids m other stmt atM).symm.trans (sound.ids n query stmt atN)
  subst same
  cases atN.symm.trans atM
  rfl

theorem Sound.ids_append {c : Cache} (sound : Sound c) (query : String) (failure : Option SqlError) :
    ∀ (n : Nat) (query' : String) (stmt : Stmt),
      (c.prepared ++ [(query, c.preparerResult failure)])[n]? = some (query', .ok stmt) →
        stmt.id = n := by
  intro n query' stmt found
  rcases getElem?_append_singleton found with old | ⟨rfl, latest⟩
  · exact sound.ids n query' stmt old
  · cases failure with
    | none => cases latest; rfl
    | some err => cases latest

theorem Sound.calls_setPhase {c : Cache} {i : Nat} {call : Call} {phase : Phase}
    {prepared : List (String × Except SqlError Stmt)} (sound : Sound c)
    (grown : ∀ other ∈ c.calls, other.FromPreparer c.prepared → other.FromPreparer prepared)
    (origin : Call.FromPreparer prepared { call with phase := phase }) :
    ∀ other ∈ (c.setPhase i call phase).calls, other.FromPreparer prepared := by
  intro other member
  rcases mem_setPhase_calls member with old | rfl
  · exact grown other old (sound.calls other old)
  · exact origin

theorem Sound.enter {c : Cache} (sound : Sound c) (entry : Entry) (query : String) :
    Sound { c with calls := c.calls ++ [⟨entry, query, .readLock⟩] } where
  statements := sound.statements
  ids := sound.ids
  calls := by
    intro call member
    rcases List.mem_append.mp member with old | fresh
    · exact sound.calls call old
    · simp only [List.mem_singleton] at fresh
      subst fresh
      trivial
  holders := by
    have bound := sound.holders
    simp only [Cache.holders, List.countP_append] at bound ⊢
    simpa using bound

theorem Sound.lookup {c c' : Cache} {i : Nat} (sound : Sound c)
    (stepped : step c (.lookup i) = some c') : Sound c' := by
  obtain ⟨call, inside, atPoint, -, rfl⟩ := step_lookup.mp stepped
  have hit : ∀ stmt, c.statements.lookup call.query = some stmt →
      (call.query, Except.ok stmt) ∈ c.prepared :=
    fun stmt found => sound.statements _ (mem_of_lookup_eq_some found)
  have unchanged : (c.afterLookup call == .preparing) = false := by
    unfold Cache.afterLookup
    split
    · exact afterPrepare_ne_preparing call.entry (.ok _)
    · rfl
  refine ⟨sound.statements, sound.calls_setPhase (fun _ _ => id) ?_, sound.ids, ?_⟩
  · unfold Cache.afterLookup
    split
    · rename_i stmt found
      exact @Call.fromPreparer_afterPrepare _ _ (.ok stmt) (hit stmt found)
    · trivial
  · rw [holders_setPhase_of_not_preparing inside (by rw [atPoint]; rfl) unchanged]
    exact sound.holders

theorem Sound.lock {c c' : Cache} {i : Nat} (sound : Sound c)
    (stepped : step c (.lock i) = some c') : Sound c' := by
  obtain ⟨call, inside, atPoint, unlocked, rfl⟩ := step_lock.mp stepped
  refine ⟨sound.statements, sound.calls_setPhase (fun _ _ => id) trivial, sound.ids, ?_⟩
  rw [holders_setPhase inside, atPoint, writeLocked_eq_false_iff_holders.mp unlocked]
  rfl

/-- The preparer's return releases the write lock: no goroutine holds it after. -/
theorem Sound.prepare_releases {c c' : Cache} {i : Nat} {failure : Option SqlError}
    (sound : Sound c) (stepped : step c (.prepare i failure) = some c') : c'.holders = 0 := by
  obtain ⟨call, inside, atPoint, rfl⟩ := step_prepare.mp stepped
  show (c.setPhase i call _).holders = 0
  rw [holders_setPhase inside, atPoint, afterPrepare_ne_preparing]
  have bound := sound.holders
  simp only [beq_self_eq_true, if_true, Bool.false_eq_true, if_false]
  omega

theorem Sound.prepare {c c' : Cache} {i : Nat} {failure : Option SqlError} (sound : Sound c)
    (stepped : step c (.prepare i failure) = some c') : Sound c' := by
  have released := sound.prepare_releases stepped
  obtain ⟨call, inside, atPoint, rfl⟩ := step_prepare.mp stepped
  have latest : (call.query, c.preparerResult failure) ∈
      c.prepared ++ [(call.query, c.preparerResult failure)] := by simp
  refine ⟨?_, sound.calls_setPhase (fun _ _ origin => origin.append _)
    (Call.fromPreparer_afterPrepare latest), sound.ids_append call.query failure, by omega⟩
  intro entry member
  cases failure with
  | none =>
    rcases mem_insertStatement member with rfl | old
    · exact latest
    · exact List.mem_append_left _ (sound.statements entry old)
  | some err => exact List.mem_append_left _ (sound.statements entry member)

theorem Sound.finish {c c' : Cache} {i : Nat} (sound : Sound c)
    (stepped : step c (.finish i) = some c') : Sound c' := by
  obtain ⟨call, stmt, inside, running, rfl⟩ := step_finish.mp stepped
  have origin := sound.calls call (List.getElem?_mem inside)
  unfold Call.FromPreparer at origin
  rw [running] at origin
  refine ⟨sound.statements, sound.calls_setPhase (fun _ _ => id) origin, sound.ids, ?_⟩
  rw [holders_setPhase_of_not_preparing inside (by rw [running]; rfl) (by rfl)]
  exact sound.holders

theorem Sound.close {c c' : Cache} (sound : Sound c) (stepped : step c .close = some c') :
    Sound c' := by
  obtain ⟨-, rfl⟩ := step_close.mp stepped
  exact ⟨by simp [Cache.close], sound.calls, sound.ids, sound.holders⟩

theorem Sound.next {c c' : Cache} {a : Action} (sound : Sound c)
    (stepped : step c a = some c') : Sound c' := by
  cases a with
  | enter entry query =>
    cases step_enter.symm.trans stepped
    exact sound.enter entry query
  | lookup i => exact sound.lookup stepped
  | lock i => exact sound.lock stepped
  | prepare i failure => exact sound.prepare stepped
  | finish i => exact sound.finish stepped
  | close => exact sound.close stepped

theorem Reachable.sound {c : Cache} (reach : Reachable c) : Sound c := by
  induction reach with
  | start => exact sound_newStmtCache
  | next _ stepped ih => exact ih.next stepped

theorem Reachable.run {c c' : Cache} {actions : List Action} (reach : Reachable c)
    (ran : run c actions = some c') : Reachable c' := by
  induction actions generalizing c with
  | nil =>
    cases ran
    exact reach
  | cons a rest ih =>
    simp only [StmtCache.run, Option.bind_eq_some] at ran
    obtain ⟨next, stepped, ran⟩ := ran
    exact ih (reach.next stepped) ran

/-- A failed preparation changes no entry and leaves the write lock free. -/
theorem Sound.prepare_failed {c c' : Cache} {i : Nat} {err : SqlError} (sound : Sound c)
    (stepped : step c (.prepare i (some err)) = some c') :
    c'.statements = c.statements ∧ c'.writeLocked = false := by
  have released := sound.prepare_releases stepped
  obtain ⟨call, -, -, rfl⟩ := step_prepare.mp stepped
  exact ⟨rfl, writeLocked_eq_false_iff_holders.mpr released⟩

end TwirpTodo.StmtCache
