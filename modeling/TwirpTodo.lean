import TwirpTodo.Errors
import TwirpTodo.StmtCache.Basic
import TwirpTodo.StmtCache.Invariant
import TwirpTodo.StmtCache.Contention
import TwirpTodo.StmtCache.Progress
import TwirpTodo.StmtCache.Reuse
import TwirpTodo.StmtCache.Sequential
import TwirpTodo.HttpServer.Setup
import TwirpTodo.HttpServer.Routes
import TwirpTodo.HttpServer.Options
import TwirpTodo.HttpServer.Chain
import TwirpTodo.HttpServer.Run
import TwirpTodo.HttpServer.Lifecycle
import TwirpTodo.HttpServer.Return
import TwirpTodo.HttpServer.Progress
import TwirpTodo.HttpServer.Drain
import TwirpTodo.Todo.Scan
import TwirpTodo.Todo.Server
import TwirpTodo.Todo.Table
import TwirpTodo.Todo.GetTask
import TwirpTodo.Stackdriver.Core
import TwirpTodo.Stackdriver.Fields
