import TwirpTodo.Stackdriver.Core

namespace TwirpTodo.Stackdriver

/-- How often `key` is the key of one of `fields`. -/
def keyCount (key : String) (fields : List Field) : Nat := (fields.map (·.key)).count key

/-- Whether `Write` adds a field with key `key` when its own fields have none:
`serviceContext` always, the source location and the error report for an entry
from `ErrorLevel` up that has a caller. -/
def addsKey (ent : Entry) (key : String) : Bool :=
  key == serviceContextKey ||
    (decide (errorLevel ≤ ent.level) && ent.caller.defined && (key == sourceKey || key == contextKey))

@[simp] theorem keyCount_append (key : String) (a b : List Field) :
    keyCount key (a ++ b) = keyCount key a + keyCount key b := by
  simp [keyCount]

@[simp] theorem keyCount_nil (key : String) : keyCount key [] = 0 := rfl

@[simp] theorem keyCount_cons (key : String) (f : Field) (fields : List Field) :
    keyCount key (f :: fields) = keyCount key fields + if f.key = key then 1 else 0 := by
  simp [keyCount, List.count_cons]

theorem any_key_eq_true {key : String} {fields : List Field} :
    fields.any (·.key == key) = true ↔ key ∈ fields.map (·.key) := by
  simp only [List.any_eq_true, beq_iff_eq, List.mem_map]

theorem keyCount_eq_zero {key : String} {fields : List Field} :
    keyCount key fields = 0 ↔ key ∉ fields.map (·.key) :=
  List.count_eq_zero

/-- None of the keys the encoder writes itself is one that `Write` adds. -/
theorem keyCount_encodeEntry (context : List Field) (ent : Entry) (fields : List Field) {key : String}
    (watched : key ∈ [serviceContextKey, sourceKey, contextKey]) :
    keyCount key (encodeEntry context ent fields) = keyCount key (context ++ fields) := by
  obtain ⟨severity, timestamp, logger, message, stacktrace⟩ : "severity" ≠ key ∧ "timestamp" ≠ key ∧
      "logger" ≠ key ∧ "message" ≠ key ∧ "stacktrace" ≠ key := by
    simp only [List.mem_cons, List.mem_singleton, List.not_mem_nil, or_false] at watched
    rcases watched with rfl | rfl | rfl <;> decide
  unfold encodeEntry
  split_ifs <;> simp [severity, timestamp, logger, message, stacktrace]

theorem keyCount_withServiceContext (c : Core) (fields : List Field) (key : String) :
    keyCount key (c.withServiceContext fields) = keyCount key fields +
      if keyCount serviceContextKey fields = 0 ∧ serviceContextKey = key then 1 else 0 := by
  unfold Core.withServiceContext
  by_cases present : serviceContextKey ∈ fields.map (·.key)
  · have counted : keyCount serviceContextKey fields ≠ 0 := fun zero => keyCount_eq_zero.mp zero present
    rw [if_pos (any_key_eq_true.mpr present)]
    simp [counted]
  · rw [if_neg (mt any_key_eq_true.mp present)]
    simp [keyCount_eq_zero.mpr present]

theorem keyCount_withCallerFields (key' : String) (added : List Field) (ent : Entry)
    (fields : List Field) (key : String) :
    keyCount key (withCallerFields key' added ent fields) = keyCount key fields +
      if keyCount key' fields = 0 ∧ ent.caller.defined = true then keyCount key added else 0 := by
  unfold withCallerFields
  by_cases present : key' ∈ fields.map (·.key)
  · have counted : keyCount key' fields ≠ 0 := fun zero => keyCount_eq_zero.mp zero present
    rw [if_pos (any_key_eq_true.mpr present)]
    simp [counted]
  · rw [if_neg (mt any_key_eq_true.mp present)]
    cases defined : ent.caller.defined <;> simp [keyCount_eq_zero.mpr present]

/-- What `Write` encodes of each key it may add: every field with that key the
core's `With` calls and the `Write` were given, and one more when `Write` adds
it, which it does only when its own fields lack the key. -/
theorem keyCount_write (c : Core) (ent : Entry) (fields : List Field) {key : String}
    (watched : key ∈ [serviceContextKey, sourceKey, contextKey]) :
    keyCount key (c.write ent fields) = keyCount key (c.core.context ++ fields) +
      if key ∉ fields.map (·.key) ∧ addsKey ent key then 1 else 0 := by
  simp only [Core.write, IoCore.write, ← keyCount_eq_zero]
  rw [keyCount_encodeEntry _ _ _ watched, keyCount_append, keyCount_append, Nat.add_assoc]
  congr 1
  simp only [List.mem_cons, List.mem_singleton, List.not_mem_nil, or_false] at watched
  rcases watched with rfl | rfl | rfl <;> by_cases error : errorLevel ≤ ent.level <;>
    simp [error, withErrorReport, withSourceLocation, errorReport, sourceLocation,
      keyCount_withCallerFields, keyCount_withServiceContext, addsKey, serviceContextKey, sourceKey,
      contextKey]

theorem foldl_withFields (c : Core) (withs : List (List Field)) :
    withs.foldl Core.withFields c = ⟨⟨c.core.context ++ withs.flatten⟩, c.service⟩ := by
  induction withs generalizing c with
  | nil => simp
  | cons fields rest ih => simp [ih, Core.withFields, IoCore.withFields]

theorem prefix_withServiceContext (c : Core) (fields : List Field) : fields <+: c.withServiceContext fields := by
  unfold Core.withServiceContext
  split
  · exact List.prefix_refl _
  · exact List.prefix_append _ _

theorem prefix_withCallerFields (key : String) (added : List Field) (ent : Entry) (fields : List Field) :
    fields <+: withCallerFields key added ent fields := by
  unfold withCallerFields
  split_ifs
  · exact List.prefix_refl _
  · exact List.prefix_refl _
  · exact List.prefix_append _ _

/-- The fields `Write` hands the wrapped core are its own, followed by what it adds. -/
theorem write_appends (c : Core) (ent : Entry) (fields : List Field) :
    ∃ extra, c.write ent fields = encodeEntry c.core.context ent (fields ++ extra) := by
  obtain ⟨extra, added⟩ : fields <+: if errorLevel ≤ ent.level then
      withErrorReport ent (withSourceLocation ent (c.withServiceContext fields)) else c.withServiceContext fields := by
    split
    · exact ((prefix_withServiceContext c fields).trans (prefix_withCallerFields _ _ _ _)).trans
        (prefix_withCallerFields _ _ _ _)
    · exact prefix_withServiceContext c fields
  exact ⟨extra, by rw [added]; rfl⟩

theorem encodeEntry_contains_fields (context : List Field) (ent : Entry) (fields : List Field) :
    context ++ fields <:+: encodeEntry context ent fields := by
  unfold encodeEntry
  rw [List.append_assoc _ context fields]
  exact List.infix_append _ _ _

/-- What `Write` guarantees: it never drops, reorders or rewrites a field, so
the fields of the core's `With` calls and of the call itself are encoded in
order as they were given; every line carries a `serviceContext`, and a line
from `ErrorLevel` up whose entry has a caller carries a source location and an
error report, whether the caller supplied them or `Write` added them. -/
theorem write_keeps_fields_and_adds_reports (c : Core) (ent : Entry) (fields : List Field) :
    c.core.context ++ fields <:+: c.write ent fields ∧
      ∀ key ∈ [serviceContextKey, sourceKey, contextKey], addsKey ent key = true →
        1 ≤ keyCount key (c.write ent fields) := by
  refine ⟨?_, fun key watched adds => ?_⟩
  · obtain ⟨extra, written⟩ := write_appends c ent fields
    rw [written]
    exact (List.append_assoc _ fields extra ▸ (List.prefix_append _ extra).isInfix).trans
      (encodeEntry_contains_fields _ _ _)
  · rw [keyCount_write c ent fields watched, keyCount_append]
    by_cases supplied : key ∈ fields.map (·.key)
    · have present : keyCount key fields ≠ 0 := fun zero => keyCount_eq_zero.mp zero supplied
      omega
    · rw [if_pos ⟨supplied, adds⟩]
      omega

/-- `Write` looks for the keys it adds only among its own fields, never among
those the core's earlier `With` calls were given: a key that the `With` calls
supplied once, and that `Write` adds because its own fields lack it, is
encoded twice. -/
theorem write_encodes_with_key_twice (c : Core) (withs : List (List Field)) (ent : Entry)
    (fields : List Field) {key : String} (watched : key ∈ [serviceContextKey, sourceKey, contextKey])
    (adds : addsKey ent key = true) (once : keyCount key (c.core.context ++ withs.flatten) = 1)
    (fresh : key ∉ fields.map (·.key)) :
    keyCount key ((withs.foldl Core.withFields c).write ent fields) = 2 := by
  have absent := keyCount_eq_zero.mpr fresh
  rw [keyCount_write _ _ _ watched, if_pos ⟨fresh, adds⟩, foldl_withFields]
  simp only [keyCount_append] at once ⊢
  omega

theorem logger_with_serviceContext_encodes_it_twice :
    let ent : Entry := ⟨0, Todo.zeroTime, "", "task created", ⟨true, "todo.go", 95, "CreateTask"⟩, ""⟩
    keyCount serviceContextKey
      (([[serviceContext "todo" "v1"]].foldl Core.withFields (configBuild "todo" "v1")).write ent []) = 2 :=
  write_encodes_with_key_twice (configBuild "todo" "v1") [[serviceContext "todo" "v1"]] _ []
    (by decide) (by decide) (by decide) (by decide)

end TwirpTodo.Stackdriver
