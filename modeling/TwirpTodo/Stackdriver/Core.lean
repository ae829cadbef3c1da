import TwirpTodo.Todo.Scan

namespace TwirpTodo.Stackdriver

/-- A `serviceContext`: the service a log line comes from. -/
structure ServiceContext where
  name : String
  version : String
  deriving DecidableEq, Repr

def newServiceContext (name version : String) : ServiceContext := ⟨name, version⟩

/-- The `file`, `line` and `function` a `source` and a `reportLocation` hold. -/
structure Location where
  file : String
  line : String
  function : String
  deriving DecidableEq, Repr

/-- The value of a `zap.Field`: one of the objects this package marshals, or
any other value a caller supplies, by the text it encodes to. -/
inductive FieldValue where
  | serviceContext (service : ServiceContext)
  | source (location : Option Location)
  | reportContext (location : Option Location)
  | plain (text : String)
  deriving DecidableEq, Repr

structure Field where
  key : String
  value : FieldValue
  deriving DecidableEq, Repr

def contextKey : String := "context"

def serviceContextKey : String := "serviceContext"

def sourceKey : String := "logging.googleapis.com/sourceLocation"

/-- `zapcore.ErrorLevel`; levels are `int8`s from `DebugLevel` (-1) to `FatalLevel` (5). -/
def errorLevel : Int := 2

/-- `zapcore.EntryCaller`, with the name `runtime.FuncForPC(PC)` gives its
function (`""` when there is none) in place of the program counter. -/
structure EntryCaller where
  defined : Bool
  file : String
  line : Int
  function : String
  deriving DecidableEq, Repr

/-- A `zapcore.Entry`. -/
structure Entry where
  level : Int
  time : Todo.Time
  loggerName : String
  message : String
  caller : EntryCaller
  stack : String
  deriving DecidableEq, Repr

/-- What `newSource` and `newReportContext` share: nothing when `ok` is false,
otherwise the file, the line by `strconv.Itoa` and the function. -/
def callerLocation (function file : String) (line : Int) (ok : Bool) : Option Location :=
  if ok then some ⟨file, toString line, function⟩ else none

def newSource (function file : String) (line : Int) (ok : Bool) : Option Location :=
  callerLocation function file line ok

def newReportContext (function file : String) (line : Int) (ok : Bool) : Option Location :=
  callerLocation function file line ok

/-- `ServiceContext(name, version)`. -/
def serviceContext (name version : String) : Field :=
  ⟨serviceContextKey, .serviceContext (newServiceContext name version)⟩

/-- `SourceLocation(pc, file, line, ok)`. -/
def sourceLocation (function file : String) (line : Int) (ok : Bool) : Field :=
  ⟨sourceKey, .source (newSource function file line ok)⟩

/-- `ErrorReport(pc, file, line, ok)`. -/
def errorReport (function file : String) (line : Int) (ok : Bool) : List Field :=
  [⟨contextKey, .reportContext (newReportContext function file line ok)⟩]

/-- `logLevelSeverity[l]`, `""` for a level the map lacks. -/
def logLevelSeverity (l : Int) : String :=
  ([(-1, "DEBUG"), (0, "INFO"), (1, "WARNING"), (2, "ERROR"), (3, "CRITICAL"), (4, "ALERT"),
    (5, "EMERGENCY")].lookup l).getD ""

/-- zap's JSON `EncodeEntry` under `Encoder()`'s config, the entry as the keys
and values of the line it writes: `severity`, `timestamp`, `logger` when the
logger is named, `message` (the caller's key is omitted), then the fields the
core's `With` calls added, the entry's fields, and `stacktrace` when there is
a stack. -/
def encodeEntry (context : List Field) (ent : Entry) (fields : List Field) : List Field :=
  [⟨"severity", .plain (logLevelSeverity ent.level)⟩, ⟨"timestamp", .plain ent.time.rfc3339Nano⟩] ++
    (if ent.loggerName = "" then [] else [⟨"logger", .plain ent.loggerName⟩]) ++
    [⟨"message", .plain ent.message⟩] ++ context ++ fields ++
    (if ent.stack = "" then [] else [⟨"stacktrace", .plain ent.stack⟩])

/-- The `zapcore.Core` of `zapcore.NewCore(Encoder(), out, level)`, by the
fields its `With` calls have added to the encoder, in order. -/
structure IoCore where
  context : List Field
  deriving DecidableEq, Repr

/-- `ioCore.With` (`with` is a keyword). -/
def IoCore.withFields (c : IoCore) (fields : List Field) : IoCore := ⟨c.context ++ fields⟩

/-- `ioCore.Write`: the line written to `out`. -/
def IoCore.write (c : IoCore) (ent : Entry) (fields : List Field) : List Field :=
  encodeEntry c.context ent fields

/-- The stackdriver `Core` around an `ioCore`. -/
structure Core where
  core : IoCore
  service : ServiceContext
  deriving DecidableEq, Repr

def wrapCore (core : IoCore) (serviceName serviceVersion : String) : Core :=
  ⟨core, newServiceContext (if serviceName = "" then "unknown" else serviceName)
    (if serviceVersion = "" then "unknown" else serviceVersion)⟩

/-- `Core.With`: the wrapped core's `With`, with the same service. -/
def Core.withFields (c : Core) (fields : List Field) : Core := ⟨c.core.withFields fields, c.service⟩

def Core.withServiceContext (c : Core) (fields : List Field) : List Field :=
  if fields.any (·.key == serviceContextKey) then fields
  else fields ++ [⟨serviceContextKey, .serviceContext c.service⟩]

/-- What `withErrorReport` and `withSourceLocation` share: the fields as they
are when one of them has the key `key` or the entry has no caller, with
`added` appended otherwise. -/
def withCallerFields (key : String) (added : List Field) (ent : Entry) (fields : List Field) :
    List Field :=
  if fields.any (·.key == key) then fields
  else if !ent.caller.defined then fields
  else fields ++ added

def withErrorReport (ent : Entry) (fields : List Field) : List Field :=
  withCallerFields contextKey
    (errorReport ent.caller.function ent.caller.file ent.caller.line true) ent fields

def withSourceLocation (ent : Entry) (fields : List Field) : List Field :=
  withCallerFields sourceKey
    [sourceLocation ent.caller.function ent.caller.file ent.caller.line true] ent fields

/-- `Core.Write`: the service context always, the source location and the
error report from `ErrorLevel` up, then the wrapped core's `Write`. -/
def Core.write (c : Core) (ent : Entry) (fields : List Field) : List Field :=
  let fields := c.withServiceContext fields
  let fields := if errorLevel ≤ ent.level then withErrorReport ent (withSourceLocation ent fields)
    else fields
  c.core.write ent fields

/-- The core `logging.Config.Build` gives its logger, for the service and
version `metadata` holds. -/
def configBuild (service version : String) : Core := wrapCore ⟨[]⟩ service version

end TwirpTodo.Stackdriver
