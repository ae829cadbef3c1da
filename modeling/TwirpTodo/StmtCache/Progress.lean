import TwirpTodo.StmtCache.Basic

namespace TwirpTodo.StmtCache

/-- The steps a call is still to take before it returns: the lookup, `Lock`,
the preparer, the statement. -/
def Phase.remaining : Phase → Nat
  | .readLock => 4
  | .writeLock => 3
  | .preparing => 2
  | .running _ => 1
  | .returned _ => 0

/-- The steps the calls of a list are still to take. -/
def remainingSteps : List Call → Nat
  | [] => 0
  | call :: rest => call.phase.remaining + remainingSteps rest

def Cache.pending (c : Cache) : Nat := remainingSteps c.calls

theorem Phase.exists_returned {phase : Phase} (done : phase.remaining = 0) :
    ∃ result, phase = .returned result := by
  cases phase with
  | returned result => exact ⟨result, rfl⟩
  | _ => exact absurd done (Nat.succ_ne_zero _)

theorem remaining_withStmt (entry : Entry) (stmt : Stmt) : (entry.withStmt stmt).remaining ≤ 1 := by
  cases entry <;> simp [Entry.withStmt, Phase.remaining]

theorem remaining_afterLookup (c : Cache) (call : Call) : (c.afterLookup call).remaining ≤ 3 := by
  unfold Cache.afterLookup
  split
  · exact (remaining_withStmt _ _).trans (by decide)
  · exact le_rfl

theorem remaining_afterPrepare (entry : Entry) (result : Except SqlError Stmt) :
    (entry.afterPrepare result).remaining ≤ 1 := by
  cases result with
  | ok stmt => exact remaining_withStmt entry stmt
  | error err => exact Nat.zero_le _

theorem remainingSteps_set_lt {l : List Call} {i : Nat} {a : Call} (b : Call)
    (inside : l[i]? = some a) (less : b.phase.remaining < a.phase.remaining) :
    remainingSteps (l.set i b) < remainingSteps l := by
  induction l generalizing i with
  | nil => cases inside
  | cons head rest ih =>
    cases i with
    | zero =>
      simp only [List.getElem?_cons_zero, Option.some.injEq] at inside
      subst inside
      simp only [List.set_cons_zero, remainingSteps]
      omega
    | succ i =>
      have := ih (by simpa only [List.getElem?_cons_succ] using inside)
      simp only [List.set_cons_succ, remainingSteps]
      omega

theorem pending_setPhase_lt {c : Cache} {i : Nat} {call : Call} {phase : Phase}
    (inside : c.calls[i]? = some call) (less : phase.remaining < call.phase.remaining) :
    (c.setPhase i call phase).pending < c.pending :=
  remainingSteps_set_lt _ inside less

/-- While a call is in flight, some step of the calls already inside brings one
of them closer to returning: the one inside the preparer if there is one, and
otherwise any call in flight, since then nothing holds the lock. -/
theorem exists_step_pending_lt {c : Cache} (busy : ∃ call ∈ c.calls, call.phase.remaining ≠ 0) :
    ∃ a c', step c a = some c' ∧ c'.pending < c.pending ∧ c'.calls.length = c.calls.length := by
  cases locked : c.writeLocked
  · obtain ⟨call, member, unfinished⟩ := busy
    obtain ⟨i, inside⟩ := List.mem_iff_getElem?.mp member
    have free := writeLocked_eq_false.mp locked
    cases phase : call.phase with
    | readLock =>
      refine ⟨.lookup i, _, step_lookup.mpr ⟨call, inside, phase, locked, rfl⟩,
        pending_setPhase_lt inside ?_, List.length_set _ _ _⟩
      exact (remaining_afterLookup c call).trans_lt (by rw [phase]; decide)
    | writeLock =>
      exact ⟨.lock i, _, step_lock.mpr ⟨call, inside, phase, locked, rfl⟩,
        pending_setPhase_lt inside (by rw [phase]; decide), List.length_set _ _ _⟩
    | preparing => exact absurd phase (free call member)
    | running stmt =>
      exact ⟨.finish i, _, step_finish.mpr ⟨call, stmt, inside, phase, rfl⟩,
        pending_setPhase_lt inside (by rw [phase]; exact Nat.zero_lt_one), List.length_set _ _ _⟩
    | returned result => simp [phase, Phase.remaining] at unfinished
  · obtain ⟨call, member, preparing⟩ : ∃ call ∈ c.calls, call.phase = .preparing := by
      simpa [Cache.writeLocked] using locked
    obtain ⟨i, inside⟩ := List.mem_iff_getElem?.mp member
    refine ⟨.prepare i none, _, step_prepare.mpr ⟨call, inside, preparing, rfl⟩,
      pending_setPhase_lt inside ?_, List.length_set _ _ _⟩
    exact (remaining_afterPrepare _ _).trans_lt (by rw [preparing]; decide)

/-- The cache cannot deadlock, although `PrepareContext` holds the lock across
the preparer: from any state, the calls inside can all return, with no new
call entering. -/
theorem calls_can_all_return (c : Cache) : ∃ actions c', run c actions = some c' ∧
    c'.calls.length = c.calls.length ∧ ∀ call ∈ c'.calls, ∃ result, call.phase = .returned result := by
  obtain ⟨n, pending⟩ : ∃ n, c.pending = n := ⟨_, rfl⟩
  induction n using Nat.strong_induction_on generalizing c with
  | _ n ih =>
    by_cases busy : ∃ call ∈ c.calls, call.phase.remaining ≠ 0
    · obtain ⟨a, c', stepped, less, length⟩ := exists_step_pending_lt busy
      obtain ⟨actions, c'', ran, length', done⟩ := ih _ (pending ▸ less) c' rfl
      exact ⟨a :: actions, c'', by rw [run, stepped]; exact ran, length'.trans length, done⟩
    · push_neg at busy
      exact ⟨[], c, rfl, rfl, fun call member => Phase.exists_returned (busy call member)⟩

end TwirpTodo.StmtCache
