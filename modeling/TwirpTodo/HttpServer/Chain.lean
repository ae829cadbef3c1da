import TwirpTodo.HttpServer.Routes

namespace TwirpTodo.HttpServer

/-- An `http.Handler` built by the middleware chain: the mux, or a middleware
wrapped around the handler it was given. -/
inductive HttpHandler where
  | mux (routes : List (String × Handler))
  | wrapped (middleware : Middleware) (next : HttpHandler)
  deriving DecidableEq

/-- `alice.Chain.Then(h)`: for `i` from 0, `h = constructors[len-1-i](h)`, so
the last constructor is applied first and the first one ends outermost. -/
def chainThen (constructors : List Middleware) (h : HttpHandler) : HttpHandler :=
  constructors.reverse.foldl (fun h m => .wrapped m h) h

/-- `s.chain.Then(s.mux)`, the handler `Run` gives `http.Server`. -/
def Server.handler (s : Server) : HttpHandler := chainThen s.chain (.mux s.mux)

/-- What a request meets on its way through a handler: each middleware's code
before it calls `next.ServeHTTP`, the mux's dispatch, and each middleware's code
after `next` returns. -/
inductive Event where
  | before (middleware : Middleware)
  | route
  | after (middleware : Middleware)
  deriving DecidableEq, Repr

def HttpHandler.serveHttp : HttpHandler → List Event
  | .mux _ => [.route]
  | .wrapped m next => .before m :: next.serveHttp ++ [.after m]

/-- The middlewares of `AddMiddleware` calls, in call order. -/
def addedMiddlewares (calls : List SetupCall) : List Middleware :=
  calls.filterMap fun
    | .addMiddleware m => some m
    | _ => none

theorem chainThen_eq_foldr (constructors : List Middleware) (h : HttpHandler) :
    chainThen constructors h = constructors.foldr .wrapped h := by
  rw [chainThen, List.foldl_reverse]

theorem serveHttp_foldr (middlewares : List Middleware) (h : HttpHandler) :
    (middlewares.foldr .wrapped h).serveHttp =
      middlewares.map .before ++ h.serveHttp ++ middlewares.reverse.map .after := by
  induction middlewares with
  | nil => simp
  | cons m rest ih => simp [HttpHandler.serveHttp, ih]

theorem setup_chain {s s' : Server} {call : SetupCall} (done : s.setup call = .ok s') :
    s'.chain = s.chain ++ addedMiddlewares [call] := by
  cases call with
  | addMiddleware m =>
    cases done
    rfl
  | _ =>
    obtain ⟨rfl, -⟩ := muxHandle_map_ok done
    exact (List.append_nil _).symm

theorem addedMiddlewares_cons (call : SetupCall) (rest : List SetupCall) :
    addedMiddlewares (call :: rest) = addedMiddlewares [call] ++ addedMiddlewares rest := by
  cases call <;> rfl

theorem setupAll_chain {s s' : Server} {calls : List SetupCall} (done : s.setupAll calls = .ok s') :
    s'.chain = s.chain ++ addedMiddlewares calls := by
  induction calls generalizing s with
  | nil =>
    cases done
    exact (List.append_nil _).symm
  | cons call rest ih =>
    cases first : s.setup call with
    | error panic =>
      rw [Server.setupAll, first] at done
      cases done
    | ok next =>
      rw [Server.setupAll, first] at done
      rw [ih done, setup_chain first, List.append_assoc, ← addedMiddlewares_cons]

theorem new_chain {reflection : TwirpServer} {options : List ServerOption} {s₀ : Server}
    (created : new reflection options = .ok s₀) : s₀.chain = [.h2c, .gzip] := by
  unfold new at created
  split at created
  · cases created
  · cases created
    rfl

/-- After `New`, whatever `RegisterService`, `Handle` and `AddMiddleware(m₁)`,
…, `AddMiddleware(mₖ)` calls succeed, `Run` serves `h2c(gzip(m₁(…mₖ(mux))))`:
the earliest registered middleware is outermost, so a request meets the
middlewares' code before `next` in registration order and their code after
`next` in the reverse order. -/
theorem run_handler_wraps_in_registration_order {reflection : TwirpServer}
    {options : List ServerOption} {calls : List SetupCall} {s₀ s : Server}
    (created : new reflection options = .ok s₀) (configured : s₀.setupAll calls = .ok s) :
    let chain : List Middleware := [.h2c, .gzip] ++ addedMiddlewares calls
    s.handler = chain.foldr .wrapped (.mux s.mux) ∧
      s.handler.serveHttp = chain.map .before ++ [.route] ++ chain.reverse.map .after := by
  intro chain
  have wraps : s.handler = chain.foldr .wrapped (.mux s.mux) := by
    rw [Server.handler, chainThen_eq_foldr, setupAll_chain configured, new_chain created]
  exact ⟨wraps, by rw [wraps, serveHttp_foldr]; rfl⟩

theorem auth_then_metrics_wrap_in_order :
    let reflection : TwirpServer := ⟨"reflection", "/twirp/reflection/", by decide⟩
    ∃ s₀ s, new reflection [] = .ok s₀ ∧
      s₀.setupAll [.addMiddleware (.custom "auth"), .registerService todoService,
        .addMiddleware (.custom "metrics")] = .ok s ∧
      s.handler.serveHttp = [.before .h2c, .before .gzip, .before (.custom "auth"),
        .before (.custom "metrics"), .route, .after (.custom "metrics"), .after (.custom "auth"),
        .after .gzip, .after .h2c] := by
  intro reflection
  obtain ⟨s₀, s, created, configured⟩ : ∃ s₀ s, new reflection [] = .ok s₀ ∧
      s₀.setupAll [.addMiddleware (.custom "auth"), .registerService todoService,
        .addMiddleware (.custom "metrics")] = .ok s := ⟨_, _, rfl, rfl⟩
  exact ⟨s₀, s, created, configured, (run_handler_wraps_in_registration_order created configured).2⟩

end TwirpTodo.HttpServer
