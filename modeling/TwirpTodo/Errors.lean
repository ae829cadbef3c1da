import Mathlib.Data.List.Nodup

namespace TwirpTodo

instance instDecidableEqExcept {ε α : Type} [DecidableEq ε] [DecidableEq α] :
    DecidableEq (Except ε α)
  | .error a, .error b => decidable_of_iff (a = b) ⟨congrArg _, Except.error.inj⟩
  | .ok a, .ok b => decidable_of_iff (a = b) ⟨congrArg _, Except.ok.inj⟩
  | .error _, .ok _ => isFalse fun same => Except.noConfusion same
  | .ok _, .error _ => isFalse fun same => Except.noConfusion same

/-- An `error` value returned by `database/sql` or its driver. -/
structure SqlError where
  message : String
  deriving DecidableEq, Repr

/-- The Go `error` values the HTTP server creates or passes on. `errorf` and
`wrapf` are `fmt.Errorf` without and with a `%w` cause; the sentinels are
compared by identity in Go, so they are constructors of their own. -/
inductive GoError where
  | new (text : String)
  | errorf (format : String) (args : List String)
  | wrapf (format : String) (args : List String) (cause : GoError)
  | errServerClosed
  | deadlineExceeded
  | canceled
  | net (message : String)
  deriving DecidableEq, Repr

end TwirpTodo
