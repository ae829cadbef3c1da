import TwirpTodo.Todo.Scan

namespace TwirpTodo.Todo

/-- A `timestamppb.Timestamp`. -/
structure Timestamp where
  seconds : Int
  nanos : Int
  deriving DecidableEq, Repr

/-- `timestamppb.New`: `Seconds` is `t.Unix()`, `Nanos` is `t.Nanosecond()`. -/
def timestamppbNew (t : Time) : Timestamp := ⟨t.unix, t.nanosecond.val⟩

/-- A `pb.Task`. -/
structure Task where
  id : UInt64
  created : Timestamp
  title : String
  description : String
  deriving DecidableEq, Repr

/-- The `pb.Task` `ListTasks` and `GetTask` build from a scanned row: an
invalid `NullTime` holds the zero time and an invalid `NullString` holds `""`. -/
def ScannedRow.task (row : ScannedRow) : Task :=
  ⟨row.id, timestamppbNew (row.created.getD zeroTime), row.title.getD "", row.description.getD ""⟩

inductive ErrorCode where
  | internal
  | notFound
  deriving DecidableEq, Repr

/-- A `twirp.Error`: its code, its message and the error it wraps. -/
structure TwirpError where
  code : ErrorCode
  msg : String
  cause : Option SqlError
  deriving DecidableEq, Repr

/-- `twirp.InternalErrorWith(err)`: an internal error with `err`'s message, wrapping it. -/
def internalErrorWith (err : SqlError) : TwirpError := ⟨.internal, err.message, some err⟩

structure CreateTaskRequest where
  title : String
  description : String
  deriving DecidableEq, Repr

structure GetTaskRequest where
  id : UInt64
  deriving DecidableEq, Repr

/-- An argument the handlers pass to a statement, by its Go type. -/
inductive Arg where
  | time (t : Time)
  | string (s : String)
  | uint64 (n : UInt64)
  deriving DecidableEq, Repr

/-- `select <columns> from tasks order by id` (`ordered`) and
`select <columns> from tasks where id = ?` (`byId`). -/
inductive Select where
  | ordered (columns : List Column)
  | byId (columns : List Column)
  deriving DecidableEq, Repr

def Select.columns : Select → List Column
  | .ordered columns => columns
  | .byId columns => columns

/-- `insert into tasks (<columns>) values (?, ...)`, one placeholder per column. -/
structure Insert where
  columns : List Column
  deriving DecidableEq, Repr

/-- The `sql.Result` of an insert: what `LastInsertId` returns, an `int64`. -/
structure ExecResult where
  lastInsertId : Int
  deriving DecidableEq, Repr

/-- Go's conversion `uint64(id)` of an `int64`: its two's complement bits. -/
def uint64OfInt64 (id : Int) : UInt64 := UInt64.ofNat (id % UInt64.size).toNat

/-- `select id, created, title, description from tasks order by id` -/
def listTasksQuery : Select := .ordered [.id, .created, .title, .description]

/-- The loop of `ListTasks`: `for rows.Next()` scans each row into a task and
appends it to the response, and returns at the first `Scan` error. -/
def listTasksLoop (columns : List Column) (tasks : List Task) : List (List Value) →
    Except TwirpError (List Task)
  | [] => .ok tasks
  | row :: rest =>
    match scan columns row with
    | .error err => .error (internalErrorWith err)
    | .ok scanned => listTasksLoop columns (tasks ++ [scanned.task]) rest

/-- `Server.ListTasks`, given what `s.stmtCache.QueryContext(ctx, listTasksQuery)`
returned. -/
def listTasks (rows : Except SqlError Rows) : Except TwirpError (List Task) :=
  match rows with
  | .error err => .error (internalErrorWith err)
  | .ok rows => listTasksLoop rows.columns [] rows.values

theorem listTasksLoop_eq (columns : List Column) (tasks : List Task) (values : List (List Value)) :
    listTasksLoop columns tasks values =
      ((values.mapM fun row => (scan columns row).map ScannedRow.task).map (tasks ++ ·)).mapError
        internalErrorWith := by
  induction values generalizing tasks with
  | nil =>
    simp only [listTasksLoop, List.mapM_nil]
    simp [Except.map, Except.mapError, pure, Except.pure]
  | cons row rest ih =>
    simp only [listTasksLoop, List.mapM_cons, ih]
    cases scan columns row <;> cases rest.mapM fun row => (scan columns row).map ScannedRow.task <;>
      simp [Except.map, Except.mapError, bind, Except.bind, pure, Except.pure]

/-- A row, then an iteration error: `ListTasks` answers with that row as the
whole list. -/
theorem listTasks_returns_rows_read_before_error :
    listTasks (.ok ⟨listTasksQuery.columns, [[.integer 1, .time zeroTime, .text "first", .null]],
      some ⟨"context canceled"⟩⟩) = .ok [⟨1, timestamppbNew zeroTime, "first", ""⟩] := rfl

/-- `insert into tasks (created, title, description) values (?, ?, ?)` -/
def createTaskQuery : Insert := ⟨[.created, .title, .description]⟩

def createTaskArgs (created : Time) (req : CreateTaskRequest) : List Arg :=
  [.time created, .string req.title, .string req.description]

/-- `Server.CreateTask`, given `created := time.Now()` and what
`s.stmtCache.ExecContext(ctx, createTaskQuery, createTaskArgs created req...)`
returned. -/
def createTask (created : Time) (req : CreateTaskRequest) (res : Except SqlError ExecResult) :
    Except TwirpError Task :=
  match res with
  | .error err => .error (internalErrorWith err)
  | .ok res => .ok ⟨uint64OfInt64 res.lastInsertId, timestamppbNew created, req.title, req.description⟩

/-- `select id, created, title, description from tasks where id = ?` -/
def getTaskQuery : Select := .byId [.id, .created, .title, .description]

def getTaskArgs (req : GetTaskRequest) : List Arg := [.uint64 req.id]

/-- `Server.GetTask`, given what
`s.stmtCache.QueryContext(ctx, getTaskQuery, getTaskArgs req...)` returned:
`NotFound` as soon as `rows.Next()` is false, otherwise the first row. -/
def getTask (req : GetTaskRequest) (rows : Except SqlError Rows) : Except TwirpError Task :=
  match rows with
  | .error err => .error (internalErrorWith err)
  | .ok rows =>
    match rows.values with
    | [] => .error ⟨.notFound, "task " ++ toString req.id ++ " not found", none⟩
    | row :: _ => ((scan rows.columns row).map ScannedRow.task).mapError internalErrorWith

end TwirpTodo.Todo
