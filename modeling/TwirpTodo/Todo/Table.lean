import TwirpTodo.Todo.Server
import Mathlib.Data.List.Perm.Basic

namespace TwirpTodo.Todo

/-- A row of `tasks`: the rowid SQLite gave it, which its `id` column reads, and
the value the insert bound to each column the insert named. -/
structure StoredRow where
  id : Nat
  values : List (Column × Value)
  deriving DecidableEq, Repr

/-- The value a select reads from a column of the row; a column the insert did
not name holds NULL. -/
def StoredRow.column (row : StoredRow) : Column → Value
  | .id => .integer row.id
  | column => (row.values.lookup column).getD .null

def StoredRow.select (row : StoredRow) (columns : List Column) : List Value :=
  columns.map row.column

/-- `math.MaxInt64`. -/
def maxInt64 : Nat := 9223372036854775807

/-- `driver.DefaultParameterConverter` on one argument: a `uint64` with its high
bit set has no `int64` to become. -/
def Arg.driverValue : Arg → Except String Value
  | .time t => .ok (.time t)
  | .string s => .ok (.text s)
  | .uint64 n =>
    if n.toNat ≤ maxInt64 then .ok (.integer n.toNat)
    else .error "uint64 values with high bit set are not supported"

/-- The arguments of a statement converted in turn, as `driverArgsConnLocked`
does, an error naming its argument by ordinal (`$1` is the first). -/
def convertArgs (ordinal : Nat) : List Arg → Except SqlError (List Value)
  | [] => .ok []
  | arg :: rest =>
    match arg.driverValue with
    | .error err => .error ⟨"sql: converting argument $" ++ toString ordinal ++ " type: " ++ err⟩
    | .ok v => (convertArgs (ordinal + 1) rest).map (v :: ·)

/-- `driverArgsConnLocked`: the arguments converted, then counted against the
statement's placeholders. -/
def driverArgs (want : Nat) (args : List Arg) : Except SqlError (List Value) := do
  let values ← convertArgs 1 args
  if values.length = want then pure values
  else throw ⟨"sql: expected " ++ toString want ++ " arguments, got " ++ toString values.length⟩

/-- A select on the table, its rows read in full: `order by id` sorts the rows
by rowid, `where id = ?` keeps the row whose `id` is the argument. -/
def runSelect (table : List StoredRow) (statement : Select) (args : List Arg) :
    Except SqlError Rows :=
  match statement with
  | .ordered columns => do
    let _ ← driverArgs 0 args
    pure ⟨columns, (table.mergeSort fun a b => decide (a.id ≤ b.id)).map (·.select columns), none⟩
  | .byId columns => do
    let values ← driverArgs 1 args
    pure ⟨columns, (table.filter fun row => decide (values = [.integer row.id])).map (·.select columns),
      none⟩

/-- An insert on the table: the arguments bound to the statement's columns in
order, in a new row under the rowid `id` SQLite picks, which `LastInsertId`
reports. -/
def runInsert (table : List StoredRow) (statement : Insert) (args : List Arg) (id : Nat) :
    Except SqlError (List StoredRow × ExecResult) := do
  let values ← driverArgs statement.columns.length args
  pure (table ++ [⟨id, statement.columns.zip values⟩], ⟨id⟩)

/-- What `s.stmtCache.QueryContext` returns for a select: `failure` when
preparing or running the statement fails, the table's rows otherwise. -/
def queryContext (table : List StoredRow) (statement : Select) (args : List Arg) :
    Option SqlError → Except SqlError Rows
  | some err => .error err
  | none => runSelect table statement args

/-- The tasks table behind a `todo.Server`, in insertion order, and every task
`CreateTask` has returned so far, a record only the proofs read. -/
structure Db where
  table : List StoredRow
  created : List Task
  deriving DecidableEq, Repr

/-- An RPC on the server. For `CreateTask`, `outcome` is SQLite's: the rowid it
gives the new row, or the error the insert fails with; `failure` is an error a
select fails with. -/
inductive Call where
  | createTask (created : Time) (req : CreateTaskRequest) (outcome : Except SqlError Nat)
  | getTask (req : GetTaskRequest) (failure : Option SqlError)
  | listTasks (failure : Option SqlError)
  deriving DecidableEq, Repr

inductive Response where
  | createTask (result : Except TwirpError Task)
  | getTask (result : Except TwirpError Task)
  | listTasks (result : Except TwirpError (List Task))
  deriving DecidableEq, Repr

/-- One RPC against the table; `none` when SQLite could not answer so: a rowid
is a positive `int64` that no row has. -/
def serve (db : Db) : Call → Option (Db × Response)
  | .createTask created req (.error err) => some (db, .createTask (createTask created req (.error err)))
  | .createTask created req (.ok id) =>
    if 0 < id ∧ id ≤ maxInt64 ∧ id ∉ db.table.map (·.id) then
      match runInsert db.table createTaskQuery (createTaskArgs created req) id with
      | .error err => some (db, .createTask (createTask created req (.error err)))
      | .ok (table, res) =>
        let result := createTask created req (.ok res)
        some (⟨table, db.created ++ result.toOption.toList⟩, .createTask result)
    else none
  | .getTask req failure =>
    some (db, .getTask (getTask req (queryContext db.table getTaskQuery (getTaskArgs req) failure)))
  | .listTasks failure =>
    some (db, .listTasks (listTasks (queryContext db.table listTasksQuery [] failure)))

inductive Reachable : Db → Prop
  | start : Reachable ⟨[], []⟩
  | next {db db' : Db} {call : Call} {response : Response} : Reachable db →
      serve db call = some (db', response) → Reachable db'

/-- What `ListTasks` and `GetTask` make of a stored row: its columns `id,
created, title, description`, scanned into a task. -/
def StoredRow.read (row : StoredRow) : Except SqlError Task :=
  (scan listTasksQuery.columns (row.select listTasksQuery.columns)).map ScannedRow.task

/-- The row `CreateTask`'s insert stores under the rowid `id`. -/
def insertedRow (id : Nat) (created : Time) (req : CreateTaskRequest) : StoredRow :=
  ⟨id, [(.created, .time created), (.title, .text req.title), (.description, .text req.description)]⟩

theorem runInsert_createTask (table : List StoredRow) (created : Time) (req : CreateTaskRequest)
    (id : Nat) : runInsert table createTaskQuery (createTaskArgs created req) id =
      .ok (table ++ [insertedRow id created req], ⟨id⟩) := rfl

theorem uint64OfInt64_natCast {n : Nat} (bound : n < UInt64.size) :
    uint64OfInt64 n = UInt64.ofNat n := by
  have small : (n : Int) % UInt64.size = n := Int.emod_eq_of_lt (by omega) (by exact_mod_cast bound)
  rw [uint64OfInt64, small, Int.toNat_ofNat]

theorem createTask_ok (created : Time) (req : CreateTaskRequest) {id : Nat} (bound : id < UInt64.size) :
    createTask created req (.ok ⟨id⟩) =
      .ok ⟨UInt64.ofNat id, timestamppbNew created, req.title, req.description⟩ := by
  rw [createTask, uint64OfInt64_natCast bound]

theorem scanUint64_natCast {n : Nat} (bound : n < UInt64.size) :
    scanUint64 (.integer n) = .ok (UInt64.ofNat n) := by
  rw [scanUint64, if_pos (by omega), Int.toNat_ofNat, parseUint64, if_pos bound]

theorem read_insertedRow (created : Time) (req : CreateTaskRequest) {id : Nat}
    (bound : id < UInt64.size) :
    (insertedRow id created req).read =
      .ok ⟨UInt64.ofNat id, timestamppbNew created, req.title, req.description⟩ := by
  have selected : (insertedRow id created req).select listTasksQuery.columns =
      [.integer id, .time created, .text req.title, .text req.description] := rfl
  simp only [StoredRow.read, selected, scan, scanColumn, scanUint64_natCast bound]
  rfl

/-- A stored row and the task `CreateTask` returned for it: the handlers read the
row back as that task, whose id is the rowid. -/
def ReadsAs (row : StoredRow) (task : Task) : Prop := row.read = .ok task ∧ task.id.toNat = row.id

/-- The invariant of every reachable table: its rows are the tasks created so
far, in order, under distinct rowids that are positive `int64`s. -/
structure Sound (db : Db) : Prop where
  reads : List.Forall₂ ReadsAs db.table db.created
  ids : (db.table.map (·.id)).Nodup
  bounded : ∀ row ∈ db.table, row.id ≤ maxInt64

theorem serve_createTask {db db' : Db} {created : Time} {req : CreateTaskRequest}
    {outcome : Except SqlError Nat} {response : Response}
    (served : serve db (.createTask created req outcome) = some (db', response)) :
    (db' = db ∧ ∃ err, response = .createTask (.error err)) ∨
      ∃ id, id ≤ maxInt64 ∧ id ∉ db.table.map (·.id) ∧
        let task : Task := ⟨UInt64.ofNat id, timestamppbNew created, req.title, req.description⟩
        db' = ⟨db.table ++ [insertedRow id created req], db.created ++ [task]⟩ ∧
          response = .createTask (.ok task) := by
  cases outcome with
  | error err => cases served; exact .inl ⟨rfl, _, rfl⟩
  | ok id =>
    simp only [serve] at served
    split at served
    · rename_i fresh
      simp only [runInsert_createTask, createTask_ok created req (fresh.2.1.trans_lt (by decide)),
        Except.toOption, Option.toList, Option.some.injEq, Prod.mk.injEq] at served
      exact .inr ⟨id, fresh.2.1, fresh.2.2, served.1.symm, served.2.symm⟩
    · cases served

/-- Only a `CreateTask` that answers with a task changes the store: it adds the
one row it inserted, which reads back as that task. A request that fails, and
every `GetTask` and `ListTasks`, leaves the store as it was. -/
theorem serve_changes_store_only_when_created {db db' : Db} {call : Call} {response : Response}
    (served : serve db call = some (db', response)) :
    db' = db ∨ ∃ row task, response = .createTask (.ok task) ∧ row.read = .ok task ∧
      db' = ⟨db.table ++ [row], db.created ++ [task]⟩ := by
  cases call with
  | createTask created req outcome =>
    rcases serve_createTask served with ⟨rfl, -⟩ | ⟨id, bound, -, rfl, rfl⟩
    · exact .inl rfl
    · exact .inr ⟨_, _, rfl, read_insertedRow created req (bound.trans_lt (by decide)), rfl⟩
  | getTask req failure => cases served; exact .inl rfl
  | listTasks failure => cases served; exact .inl rfl

theorem Sound.next {db db' : Db} {call : Call} {response : Response} (sound : Sound db)
    (served : serve db call = some (db', response)) : Sound db' := by
  cases call with
  | createTask created req outcome =>
    rcases serve_createTask served with ⟨rfl, -⟩ | ⟨id, bound, fresh, rfl, -⟩
    · exact sound
    · have wide : id < UInt64.size := bound.trans_lt (by decide)
      refine ⟨List.rel_append sound.reads
        (.cons ⟨read_insertedRow created req wide, UInt64.toNat_ofNat_of_lt wide⟩ .nil), ?_, ?_⟩
      · rw [List.map_append, List.nodup_append]
        exact ⟨sound.ids, List.nodup_singleton _, List.disjoint_singleton.mpr fresh⟩
      · intro row member
        rcases List.mem_append.mp member with old | new
        · exact sound.bounded row old
        · simp only [List.mem_singleton] at new
          exact new ▸ bound
  | getTask req failure => cases served; exact sound
  | listTasks failure => cases served; exact sound

theorem Reachable.sound {db : Db} (reach : Reachable db) : Sound db := by
  induction reach with
  | start => exact ⟨.nil, List.nodup_nil, fun _ member => nomatch member⟩
  | next _ served ih => exact ih.next served

theorem exists_readsAs_of_mem {rows : List StoredRow} {tasks : List Task}
    (reads : List.Forall₂ ReadsAs rows tasks) {task : Task} (member : task ∈ tasks) :
    ∃ row ∈ rows, ReadsAs row task := by
  induction reads with
  | nil => cases member
  | cons head _ ih =>
    rcases List.mem_cons.mp member with rfl | later
    · exact ⟨_, List.mem_cons_self _ _, head⟩
    · obtain ⟨row, found, reads⟩ := ih later
      exact ⟨row, List.mem_cons_of_mem _ found, reads⟩

theorem readsAs_ids {rows : List StoredRow} {tasks : List Task}
    (reads : List.Forall₂ ReadsAs rows tasks) : tasks.map (·.id.toNat) = rows.map (·.id) := by
  induction reads with
  | nil => rfl
  | cons head _ ih => simp only [List.map_cons, head.2, ih]

theorem mapM_scan_select {rows : List StoredRow} {tasks : List Task}
    (reads : List.Forall₂ ReadsAs rows tasks) :
    ((rows.map (·.select listTasksQuery.columns)).mapM fun row =>
      (scan listTasksQuery.columns row).map ScannedRow.task) = .ok tasks := by
  induction reads with
  | nil => rfl
  | @cons row task _ _ head _ ih =>
    have read : (scan listTasksQuery.columns (row.select listTasksQuery.columns)).map
        ScannedRow.task = .ok task := head.1
    rw [List.map_cons, List.mapM_cons, ih, read]
    rfl

/-- Under distinct rowids, `where id = ?` finds exactly the row with that id. -/
theorem filter_id_eq_singleton {table : List StoredRow} {row : StoredRow}
    (ids : (table.map (·.id)).Nodup) (member : row ∈ table) :
    (table.filter fun r => decide ([Value.integer row.id] = [.integer r.id])) = [row] := by
  induction table with
  | nil => cases member
  | cons head rest ih =>
    rw [List.map_cons, List.nodup_cons] at ids
    rcases List.mem_cons.mp member with rfl | later
    · rw [List.filter_cons_of_pos (by simp), List.filter_eq_nil_iff.mpr]
      intro r found same
      simp only [List.cons.injEq, Value.integer.injEq, Int.ofNat_inj, and_true, decide_eq_true_eq] at same
      exact ids.1 (List.mem_map.mpr ⟨r, found, same.symm⟩)
    · have other : row.id ≠ head.id := fun same => ids.1 (same ▸ List.mem_map_of_mem _ later)
      rw [List.filter_cons_of_neg (by simpa [Int.ofNat_inj] using other), ih ids.2 later]

theorem runSelect_listTasks (table : List StoredRow) :
    runSelect table listTasksQuery [] = .ok ⟨listTasksQuery.columns,
      (table.mergeSort fun a b => decide (a.id ≤ b.id)).map (·.select listTasksQuery.columns), none⟩ :=
  rfl

theorem runSelect_getTask (table : List StoredRow) (req : GetTaskRequest)
    (bound : req.id.toNat ≤ maxInt64) : runSelect table getTaskQuery (getTaskArgs req) =
      .ok ⟨getTaskQuery.columns, (table.filter fun row =>
        decide ([Value.integer req.id.toNat] = [.integer row.id])).map (·.select getTaskQuery.columns),
        none⟩ := by
  simp [runSelect, getTaskQuery, Select.columns, driverArgs, getTaskArgs, convertArgs,
    Arg.driverValue, bound, Except.map, bind, Except.bind, pure, Except.pure]

theorem getTask_reads_created {db : Db} (sound : Sound db) {task : Task} (member : task ∈ db.created) :
    serve db (.getTask ⟨task.id⟩ none) = some (db, .getTask (.ok task)) := by
  obtain ⟨row, stored, read, id⟩ := exists_readsAs_of_mem sound.reads member
  have selected := runSelect_getTask db.table ⟨task.id⟩ (id ▸ sound.bounded row stored)
  rw [id, filter_id_eq_singleton sound.ids stored] at selected
  have scanned : (scan getTaskQuery.columns (row.select getTaskQuery.columns)).map
      ScannedRow.task = .ok task := read
  simp only [serve, queryContext, selected, getTask, List.map_cons, scanned]
  rfl

theorem listTasks_reads_created {db : Db} (sound : Sound db) :
    ∃ tasks, serve db (.listTasks none) = some (db, .listTasks (.ok tasks)) ∧
      tasks.Perm db.created ∧ tasks.Pairwise fun a b => a.id.toNat < b.id.toNat := by
  have sorting := List.mergeSort_perm db.table fun a b => decide (a.id ≤ b.id)
  obtain ⟨tasks, reads, perm⟩ := List.perm_comp_forall₂ sorting sound.reads
  refine ⟨tasks, ?_, perm, ?_⟩
  · simp only [serve, queryContext, runSelect_listTasks, listTasks, listTasksLoop_eq,
      mapM_scan_select reads]
    rfl
  · have ordered := @List.sorted_mergeSort _ (fun a b => decide (a.id ≤ b.id))
      (fun _ _ _ first second => by simp only [decide_eq_true_eq] at *; omega)
      (fun _ _ => by simp only [Bool.or_eq_true, decide_eq_true_eq]; omega) db.table
    have distinct := (sorting.map (·.id)).nodup_iff.mpr sound.ids
    have ascending := (ordered.and (List.pairwise_map.mp distinct)).imp fun ⟨le, ne⟩ =>
      Nat.lt_of_le_of_ne (of_decide_eq_true le) ne
    exact List.pairwise_map.mp (readsAs_ids reads ▸ List.pairwise_map.mpr ascending)

/-- In every reachable state, each task `CreateTask` has returned is what
`GetTask` returns for its id, and `ListTasks` returns exactly the tasks created
so far, each once, in ascending id order, whenever the database answers. -/
theorem created_tasks_read_back {db : Db} (reach : Reachable db) :
    (∀ task ∈ db.created, serve db (.getTask ⟨task.id⟩ none) = some (db, .getTask (.ok task))) ∧
    ∃ tasks, serve db (.listTasks none) = some (db, .listTasks (.ok tasks)) ∧
      tasks.Perm db.created ∧ tasks.Pairwise fun a b => a.id.toNat < b.id.toNat :=
  ⟨fun _ member => getTask_reads_created reach.sound member, listTasks_reads_created reach.sound⟩

theorem createTask_then_getTask :
    ∃ db response, serve ⟨[], []⟩ (.createTask zeroTime ⟨"write spec", ""⟩ (.ok 1)) =
        some (db, response) ∧
      serve db (.getTask ⟨1⟩ none) =
        some (db, .getTask (.ok ⟨1, timestamppbNew zeroTime, "write spec", ""⟩)) := by
  obtain ⟨db, response, served, created⟩ : ∃ db response,
      serve ⟨[], []⟩ (.createTask zeroTime ⟨"write spec", ""⟩ (.ok 1)) = some (db, response) ∧
        db.created = [⟨1, timestamppbNew zeroTime, "write spec", ""⟩] := ⟨_, _, rfl, rfl⟩
  exact ⟨db, response, served, (created_tasks_read_back (Reachable.start.next served)).1 _
    (created ▸ List.mem_singleton_self _)⟩

end TwirpTodo.Todo
