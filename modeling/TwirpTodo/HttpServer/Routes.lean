import TwirpTodo.HttpServer.Setup

namespace TwirpTodo.HttpServer

/-- The route `RegisterService` adds for a Twirp server. -/
def serviceRoute (t : TwirpServer) : String × Handler := (t.pathPrefix, .twirp t)

theorem serviceRoute_injective : Function.Injective serviceRoute := by
  intro t t' same
  simpa [serviceRoute] using congrArg Prod.snd same

theorem mem_routed {s : Server} {t : TwirpServer} : t ∈ s.routed ↔ serviceRoute t ∈ s.mux := by
  simp only [Server.routed, List.mem_filterMap, serviceRoute]
  constructor
  · rintro ⟨⟨pattern, handler⟩, member, found⟩
    cases handler with
    | twirp t' =>
      by_cases atPrefix : pattern = t'.pathPrefix
      · simp only [atPrefix, if_true, Option.some.injEq] at found
        subst found atPrefix
        exact member
      · simp [atPrefix] at found
    | other name => cases found
  · intro member
    exact ⟨_, member, by simp⟩

theorem muxHandle_map_ok {α : Type} {mux : List (String × Handler)} {pattern : String}
    {handler : Handler} {f : List (String × Handler) → α} {a : α}
    (handled : (muxHandle mux pattern handler).map f = .ok a) :
    a = f (mux ++ [(pattern, handler)]) ∧ pattern ∉ mux.map (·.1) := by
  unfold muxHandle at handled
  split at handled
  · cases handled
  · split at handled
    · cases handled
    · rename_i _ fresh
      cases handled
      simp only [List.any_eq_true, beq_iff_eq, not_exists, not_and] at fresh
      refine ⟨rfl, fun member => ?_⟩
      obtain ⟨entry, inside, same⟩ := List.mem_map.mp member
      exact fresh entry inside same

/-- The mux holds the routes of the registered services and those of the
`Handle` calls, and no pattern twice. -/
structure RouteTable (s : Server) (handled : List (String × Handler)) : Prop where
  perm : s.mux.Perm (s.reflection.map serviceRoute ++ handled)
  patterns : (s.mux.map (·.1)).Nodup

theorem RouteTable.extend {s : Server} {handled : List (String × Handler)}
    (table : RouteTable s handled) {pattern : String} {handler : Handler}
    (fresh : pattern ∉ s.mux.map (·.1)) : ((s.mux ++ [(pattern, handler)]).map (·.1)).Nodup := by
  rw [List.map_append, List.nodup_append_comm]
  exact List.nodup_cons.mpr ⟨fresh, table.patterns⟩

theorem RouteTable.setup {s s' : Server} {handled : List (String × Handler)}
    (table : RouteTable s handled) (call : SetupCall) (done : s.setup call = .ok s') :
    RouteTable s' (handled ++ handledRoutes [call]) := by
  cases call with
  | registerService t =>
    obtain ⟨rfl, fresh⟩ := muxHandle_map_ok done
    refine ⟨?_, table.extend fresh⟩
    show (s.mux ++ [serviceRoute t]).Perm
      ((s.reflection ++ [t]).map serviceRoute ++ (handled ++ []))
    rw [List.append_nil, List.map_append, List.map_singleton, List.append_assoc]
    exact (table.perm.append_right _).trans
      ((List.append_assoc _ _ _).symm ▸ List.perm_append_comm.append_left _)
  | handle pattern handler =>
    obtain ⟨rfl, fresh⟩ := muxHandle_map_ok done
    refine ⟨?_, table.extend fresh⟩
    rw [← List.append_assoc]
    exact table.perm.append_right _
  | addMiddleware middleware =>
    cases done
    rw [show handledRoutes [.addMiddleware middleware] = [] from rfl, List.append_nil]
    exact ⟨table.perm, table.patterns⟩

theorem handledRoutes_cons (call : SetupCall) (rest : List SetupCall) :
    handledRoutes (call :: rest) = handledRoutes [call] ++ handledRoutes rest := by
  cases call <;> rfl

theorem RouteTable.setupAll {s s' : Server} {handled : List (String × Handler)}
    (table : RouteTable s handled) {calls : List SetupCall} (done : s.setupAll calls = .ok s') :
    RouteTable s' (handled ++ handledRoutes calls) := by
  induction calls generalizing s handled with
  | nil =>
    cases done
    rw [show handledRoutes [] = [] from rfl, List.append_nil]
    exact table
  | cons call rest ih =>
    cases first : s.setup call with
    | error panic =>
      rw [Server.setupAll, first] at done
      cases done
    | ok next =>
      rw [Server.setupAll, first] at done
      rw [handledRoutes_cons, ← List.append_assoc]
      exact ih (table.setup call first) done

theorem new_mux {reflection : TwirpServer} {options : List ServerOption} {s₀ : Server}
    (created : new reflection options = .ok s₀) :
    s₀.mux = [serviceRoute reflection] ∧ s₀.reflection = [reflection] := by
  unfold new at created
  split at created
  · cases created
  · cases created
    exact ⟨rfl, rfl⟩

theorem new_routeTable {reflection : TwirpServer} {options : List ServerOption} {s₀ : Server}
    (created : new reflection options = .ok s₀) : RouteTable s₀ [] := by
  obtain ⟨mux, registered⟩ := new_mux created
  exact ⟨by simp [mux, registered], by simp [mux]⟩

/-- `RegisterService` informs the reflection service and `Handle` does not.
After any setup that does not panic, a Twirp server is described exactly when
the mux routes it at its prefix by a route that no `Handle` call added; the two
sets agree exactly when no `Handle` call routes a Twirp server at its prefix. -/
theorem reflection_describes_registered_services {reflection : TwirpServer}
    {options : List ServerOption} {calls : List SetupCall} {s₀ s : Server}
    (created : new reflection options = .ok s₀) (configured : s₀.setupAll calls = .ok s) :
    (∀ t, t ∈ s.reflection ↔ t ∈ s.routed ∧ serviceRoute t ∉ handledRoutes calls) ∧
    ((∀ t, t ∈ s.reflection ↔ t ∈ s.routed) ↔ ∀ t, serviceRoute t ∉ handledRoutes calls) := by
  have table := (new_routeTable created).setupAll configured
  rw [List.nil_append] at table
  have routes (t : TwirpServer) :
      t ∈ s.routed ↔ t ∈ s.reflection ∨ serviceRoute t ∈ handledRoutes calls := by
    rw [mem_routed, table.perm.mem_iff, List.mem_append,
      List.mem_map_of_injective serviceRoute_injective]
  have disjoint (t : TwirpServer) (member : t ∈ s.reflection) :
      serviceRoute t ∉ handledRoutes calls :=
    List.disjoint_of_nodup_append (table.perm.nodup_iff.mp (table.patterns.of_map _))
      (List.mem_map_of_mem _ member)
  have described (t : TwirpServer) :
      t ∈ s.reflection ↔ t ∈ s.routed ∧ serviceRoute t ∉ handledRoutes calls := by
    rw [routes t]
    exact ⟨fun member => ⟨.inl member, disjoint t member⟩,
      fun ⟨routed, direct⟩ => routed.resolve_right direct⟩
  refine ⟨described, fun same t handled => ?_, fun none t => ?_⟩
  · exact ((described t).mp ((same t).mpr ((routes t).mpr (.inr handled)))).2 handled
  · exact (described t).trans (and_iff_left (none t))

theorem registered_services_described :
    let reflection : TwirpServer := ⟨"reflection", "/twirp/reflection/", by decide⟩
    ∃ s₀ s, new reflection [] = .ok s₀ ∧ s₀.setupAll [.registerService todoService] = .ok s ∧
      ∀ t, t ∈ s.reflection ↔ t ∈ s.routed := by
  intro reflection
  exact ⟨_, _, rfl, rfl, (@reflection_describes_registered_services reflection []
    [.registerService todoService] _ _ rfl rfl).2.mpr (by simp [handledRoutes])⟩

/-- What `app.Config.Run` does: `Handle` routes the todo service, which the
built-in reflection server then does not describe. -/
theorem handle_routes_undescribed_service :
    let reflection : TwirpServer := ⟨"reflection", "/twirp/reflection/", by decide⟩
    ∃ s₀ s, new reflection [] = .ok s₀ ∧
      s₀.setupAll [.handle todoService.pathPrefix (.twirp todoService)] = .ok s ∧
      todoService ∈ s.routed ∧ todoService ∉ s.reflection :=
  ⟨_, _, rfl, rfl, by decide, by decide⟩

/-- The pattern a setup call registers on the mux, if it registers one. -/
def SetupCall.pattern : SetupCall → Option String
  | .registerService t => some t.pathPrefix
  | .handle pattern _ => some pattern
  | .addMiddleware _ => none

end TwirpTodo.HttpServer
