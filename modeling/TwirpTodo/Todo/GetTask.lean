import TwirpTodo.Todo.Table

namespace TwirpTodo.Todo

/-- The answer `GetTask` gives when `rows.Next()` is false: `twirp.NotFound.Errorf("task %d not found", id)`. -/
def notFoundTask (id : UInt64) : TwirpError := ⟨.notFound, "task " ++ toString id ++ " not found", none⟩

/-- The error `database/sql` returns for a `uint64` argument with its high bit set. -/
def highBitArgument : SqlError :=
  ⟨"sql: converting argument $1 type: uint64 values with high bit set are not supported"⟩

theorem Sound.id_le_of_mem {db : Db} (sound : Sound db) {task : Task} (member : task ∈ db.created) :
    task.id.toNat ≤ maxInt64 := by
  obtain ⟨row, stored, -, id⟩ := exists_readsAs_of_mem sound.reads member
  exact id ▸ sound.bounded row stored

/-- Under rowids that no row has, `where id = ?` finds nothing. -/
theorem filter_id_eq_nil {table : List StoredRow} {n : Nat} (missing : n ∉ table.map (·.id)) :
    (table.filter fun r => decide ([Value.integer n] = [.integer r.id])) = [] := by
  refine List.filter_eq_nil_iff.mpr fun r found same => missing (List.mem_map.mpr ⟨r, found, ?_⟩)
  simp only [List.cons.injEq, Value.integer.injEq, Int.ofNat_inj, and_true, decide_eq_true_eq] at same
  exact same.symm

theorem getTask_reads_missing {db : Db} (sound : Sound db) {id : UInt64}
    (missing : ∀ task ∈ db.created, task.id ≠ id) (bound : id.toNat ≤ maxInt64) :
    serve db (.getTask ⟨id⟩ none) = some (db, .getTask (.error (notFoundTask id))) := by
  have unused : id.toNat ∉ db.table.map (·.id) := by
    rw [← readsAs_ids sound.reads]
    intro found
    obtain ⟨task, member, same⟩ := List.mem_map.mp found
    exact missing task member (UInt64.toNat.inj same)
  simp only [serve, queryContext, runSelect_getTask db.table ⟨id⟩ bound, filter_id_eq_nil unused,
    List.map_nil, getTask]
  rfl

/-- `driverArgsConnLocked` refuses an id with its high bit set before the
statement runs, whatever the table holds. -/
theorem getTask_high_bit (db : Db) {id : UInt64} (high : maxInt64 < id.toNat) :
    serve db (.getTask ⟨id⟩ none) = some (db, .getTask (.error (internalErrorWith highBitArgument))) := by
  simp [serve, queryContext, runSelect, getTaskQuery, driverArgs, getTaskArgs, convertArgs,
    Arg.driverValue, Nat.not_le.mpr high, getTask, bind, Except.bind]
  rfl

/-- What `GetTask` answers for every `uint64` id on every reachable table when
the select itself succeeds: the task created under the id, or `NotFound` when
there is none, except that every id with its high bit set, under which no task
can exist, gets an internal error; and `NotFound` also when iteration stops
with an error before the first row, since `rows.Err()` is never read. -/
theorem getTask_answers_every_id {db : Db} (reach : Reachable db) (id : UInt64) :
    (∀ task ∈ db.created, task.id = id →
      serve db (.getTask ⟨id⟩ none) = some (db, .getTask (.ok task))) ∧
    ((∀ task ∈ db.created, task.id ≠ id) → id.toNat ≤ maxInt64 →
      serve db (.getTask ⟨id⟩ none) = some (db, .getTask (.error (notFoundTask id)))) ∧
    (maxInt64 < id.toNat → (∀ task ∈ db.created, task.id ≠ id) ∧
      serve db (.getTask ⟨id⟩ none) = some (db, .getTask (.error (internalErrorWith highBitArgument)))) ∧
    ∀ columns err, getTask ⟨id⟩ (.ok ⟨columns, [], some err⟩) = .error (notFoundTask id) := by
  have sound := reach.sound
  refine ⟨fun task member same => ?_, fun missing => getTask_reads_missing sound missing,
    fun high => ⟨fun task member same => ?_, getTask_high_bit db high⟩, fun _ _ => rfl⟩
  · subst same
    exact getTask_reads_created sound member
  · have := sound.id_le_of_mem member
    rw [same] at this
    omega

theorem getTask_high_bit_on_empty_table :
    serve ⟨[], []⟩ (.getTask ⟨9223372036854775808⟩ none) =
      some (⟨[], []⟩, .getTask (.error (internalErrorWith highBitArgument))) :=
  ((getTask_answers_every_id Reachable.start _).2.2.1 (by decide)).2

end TwirpTodo.Todo
