import Mathlib.Data.List.Induction
import Mathlib.Data.List.Pairwise
import ProtoRest.Proofs.Route.Acceptance
import ProtoRest.Route.Registration
import ProtoRest.Route.Server

/-! # Mounts of a service
The code of a service registers its bindings route by route. `mounts_eq` says which mounts the pass
over the bindings leaves, `mountedBy?_registerItem` that the code registers just these, and
`bindings_are_mounted_once` what this means for a file with a table: no binding is lost, and the
router can tell all of them apart. -/

namespace ProtoRest.Route

open ProtoRest.Code ProtoRest.Schema ProtoRest.Setting ProtoRest.Result

/-! ## Lists by their keys -/

section Keys

variable {α κ : Type} [DecidableEq κ]

/-- A list is put together again from its parts by key. -/
theorem perm_flatMap_filter (key : α → κ) {keys : List κ} (hkeys : keys.Nodup) {as : List α}
    (has : ∀ a ∈ as, key a ∈ keys) :
    (keys.flatMap fun k => as.filter (key · = k)).Perm as := by
  induction keys generalizing as with
  | nil =>
    rw [List.eq_nil_iff_forall_not_mem.mpr fun a ha => List.not_mem_nil (has a ha)]
    exact .nil
  | cons k keys ih =>
    obtain ⟨hk, hkeys⟩ := List.nodup_cons.mp hkeys
    -- the parts of the other keys are parts of the elements without this key
    have hothers : (keys.flatMap fun k' => as.filter (key · = k')) =
        keys.flatMap fun k' => (as.filter fun a => !decide (key a = k)).filter (key · = k') := by
      refine List.flatMap_congr fun k' hk' => ?_
      rw [List.filter_filter]
      refine List.filter_congr fun a _ => ?_
      have hne : k' ≠ k := ne_of_mem_of_not_mem hk' hk
      by_cases ha : key a = k' <;> simp [ha, hne]
    rw [List.flatMap_cons, hothers]
    refine ((ih hkeys fun a ha => ?_).append_left _).trans (List.filter_append_perm _ as)
    obtain ⟨ha, hak⟩ := List.mem_filter.mp ha
    exact (List.mem_cons.mp (has a ha)).resolve_left (by simpa using hak)

end Keys

/-! ## The mounts of a list of handlers -/

/-- The handlers for a route. -/
def handlersFor (handlers : List (String × Handler)) (route : String) : List Handler :=
  (handlers.filter (·.1 = route)).map (·.2)

/-- The mounts for handlers: one for each of their routes. -/
def mountsOf (handlers : List (String × Handler)) : List Mount :=
  (handlers.map (·.1)).eraseDups.map fun route => ⟨route, handlersFor handlers route⟩

/-- A handler at the end is the last of its route and of no other. -/
theorem handlersFor_concat (handlers : List (String × Handler)) (route : String)
    (handler : Handler) (other : String) :
    handlersFor (handlers ++ [(route, handler)]) other =
      if other = route then handlersFor handlers other ++ [handler]
      else handlersFor handlers other := by
  rw [handlersFor, List.filter_append, List.map_append]
  split_ifs with h
  · simp [handlersFor, h]
  · simp [handlersFor, Ne.symm h]

/-- A route at which no handler stands has none. -/
theorem handlersFor_eq_nil {handlers : List (String × Handler)} {route : String}
    (h : route ∉ handlers.map (·.1)) : handlersFor handlers route = [] := by
  rw [handlersFor, List.map_eq_nil_iff, List.filter_eq_nil_iff]
  intro x hx hroute
  exact h (List.mem_map.mpr ⟨x, hx, of_decide_eq_true hroute⟩)

/-- A handler for a new route is mounted behind all others. -/
theorem mountAt_of_notMem {route : String} (handler : Handler) {mounts : List Mount}
    (h : ∀ m ∈ mounts, m.route ≠ route) :
    mountAt route handler mounts = mounts ++ [⟨route, [handler]⟩] := by
  induction mounts with
  | nil => rfl
  | cons m mounts ih =>
    rw [List.forall_mem_cons] at h
    rw [mountAt, if_neg h.1, ih h.2, List.cons_append]

/-- A handler for a route that is mounted joins the handlers there. -/
theorem mountAt_of_mem {route : String} (handler : Handler) {routes : List String}
    (hroutes : routes.Nodup) (hroute : route ∈ routes) (f : String → List Handler) :
    mountAt route handler (routes.map fun r => ⟨r, f r⟩) =
      routes.map fun r => ⟨r, if r = route then f r ++ [handler] else f r⟩ := by
  induction routes with
  | nil => cases hroute
  | cons r routes ih =>
    obtain ⟨hr, hroutes⟩ := List.nodup_cons.mp hroutes
    rw [List.map_cons, List.map_cons, mountAt]
    by_cases h : r = route
    -- the handler goes to the first mount, and no other one has the route
    · subst h
      have hrest : (routes.map fun q => (⟨q, if q = r then f q ++ [handler] else f q⟩ : Mount)) =
          routes.map fun q => ⟨q, f q⟩ :=
        List.map_congr_left fun q hq => by rw [if_neg (ne_of_mem_of_not_mem hq hr)]
      rw [if_pos rfl, if_pos rfl, hrest]
    · rw [if_neg h, if_neg h, ih hroutes ((List.mem_cons.mp hroute).resolve_left (Ne.symm h))]

/-- One more handler keeps the mounts in order. -/
theorem mountAt_mountsOf (handlers : List (String × Handler)) (route : String) (handler : Handler) :
    mountAt route handler (mountsOf handlers) = mountsOf (handlers ++ [(route, handler)]) := by
  rw [mountsOf, mountsOf, List.map_append, List.map_singleton, eraseDups_concat]
  by_cases h : route ∈ handlers.map (·.1)
  · rw [if_pos h, mountAt_of_mem handler (nodup_eraseDups _) (List.mem_eraseDups.mpr h)]
    simp only [handlersFor_concat]
  · rw [if_neg h, mountAt_of_notMem, List.map_append, List.map_singleton, handlersFor_concat,
      if_pos rfl, handlersFor_eq_nil h, List.nil_append]
    · refine congrArg (· ++ _) (List.map_congr_left fun r hr => ?_)
      rw [handlersFor_concat, if_neg (ne_of_mem_of_not_mem (List.mem_eraseDups.mp hr) h)]
    · rintro m hm rfl
      obtain ⟨r, hr, rfl⟩ := List.mem_map.mp hm
      exact h (List.mem_eraseDups.mp hr)

/-- The mounts of a service hold each route once, in the order in which the routes appear first, with
all of its handlers in the order of the bindings. -/
theorem mounts_eq (s : ServiceRoutes) : s.mounts = mountsOf s.handlers := by
  rw [ServiceRoutes.mounts]
  generalize s.handlers = handlers
  induction handlers using List.reverseRecOn with
  | nil => rfl
  | append_singleton handlers h ih =>
    rw [List.foldl_concat, ih, mountAt_mountsOf]

/-! ## The code that registers them -/

/-- What a handler adds to a route. -/
def Handler.answer (h : Handler) : String × String := (h.verb.routingName, h.name)

/-- What a mount registers. -/
def Mount.registration (m : Mount) : Registration :=
  ⟨Text.literal m.route, m.handlers.map Handler.answer⟩

/-- A chain of handlers answers what it answered before and then, in order, as each handler does. -/
theorem answers?_foldl (handlers : List Handler) {chain : Expr} {answers : List (String × String)}
    (h : answers? chain = some answers) :
    answers? (handlers.foldl (fun chain h =>
      .method chain h.verb.routingName [] [handlerExpr h.name]) chain) =
      some (answers ++ handlers.map Handler.answer) := by
  induction handlers generalizing chain answers with
  | nil => rw [List.map_nil, List.append_nil, List.foldl_nil, h]
  | cons handler handlers ih =>
    have hstep : answers? (.method chain handler.verb.routingName [] [handlerExpr handler.name]) =
        some (answers ++ [handler.answer]) := by
      simp only [answers?, h]
      rfl
    rw [List.foldl_cons, ih hstep, List.map_cons, List.append_assoc, List.singleton_append]

/-- The chain of a mount has its handlers in order. -/
theorem exists_chain {m : Mount} (h : m.handlers ≠ []) :
    ∃ chain, m.chain = some chain ∧ answers? chain = some (m.handlers.map Handler.answer) := by
  obtain ⟨first, rest, hhandlers⟩ := List.exists_cons_of_ne_nil h
  rw [Mount.chain, hhandlers]
  -- the first handler starts the chain, and the others are put behind it
  exact ⟨_, rfl, @answers?_foldl rest _ [first.answer] rfl⟩

/-- A chain of mounts registers what it registered before and then each mount, in order. -/
theorem registrations?_foldl {mounts : List Mount} (hmounts : ∀ m ∈ mounts, m.handlers ≠ [])
    {router : Expr} {registered : List Registration} (h : registrations? router = some registered) :
    registrations? (mounts.foldl Mount.register router) =
      some (registered ++ mounts.map Mount.registration) := by
  induction mounts generalizing router registered with
  | nil => rw [List.map_nil, List.append_nil, List.foldl_nil, h]
  | cons m mounts ih =>
    rw [List.forall_mem_cons] at hmounts
    obtain ⟨chain, hchain, hanswers⟩ := exists_chain hmounts.1
    have hstep : registrations? (m.register router) = some (registered ++ [m.registration]) := by
      rw [Mount.register, hchain]
      simp only [Option.toList, registrations?, h, hanswers]
      rfl
    rw [List.foldl_cons, ih hmounts.2 hstep, List.map_cons, List.append_assoc,
      List.singleton_append]

/-- Every mount has a handler. -/
theorem handlers_ne_nil {handlers : List (String × Handler)} {m : Mount}
    (hm : m ∈ mountsOf handlers) : m.handlers ≠ [] := by
  obtain ⟨route, hroute, rfl⟩ := List.mem_map.mp hm
  obtain ⟨h, hh, rfl⟩ := List.mem_map.mp (List.mem_eraseDups.mp hroute)
  exact List.ne_nil_of_mem (List.mem_map_of_mem (List.mem_filter.mpr ⟨hh, decide_eq_true rfl⟩))

/-- The registering function of a service registers its mounts in order. -/
theorem mountedBy?_registerItem (s : ServiceRoutes) (name server : Ident) :
    mountedBy? (registerItem s name server) =
      some ((mountsOf s.handlers).map Mount.registration) := by
  have hmounts : ∀ m ∈ mountsOf s.handlers, m.handlers ≠ [] := fun m hm => handlers_ne_nil hm
  have hnew : registrations? (.call (rootExpr ["axum", "Router", "new"]) []) = some [] := rfl
  have hrun := registrations?_foldl hmounts hnew
  rw [← mounts_eq] at hrun ⊢
  exact hrun

/-- The last item generated for a service is its register function. -/
theorem getLast?_generateService {package : String} {s : ServiceRoutes} {g : Generated}
    (h : generateService package s = .ok g) :
    ∃ register server, g.items.getLast? = some (registerItem s register server) := by
  rw [generateService, bind_eq_ok_iff] at h
  obtain ⟨server, -, h⟩ := h
  obtain ⟨register, -, h⟩ := bind_eq_ok_iff.mp h
  obtain ⟨methods, -, h⟩ := bind_eq_ok_iff.mp h
  obtain ⟨operations, -, h⟩ := bind_eq_ok_iff.mp h
  obtain rfl := pure_eq_ok_iff.mp h
  exact ⟨register, server, by simp [List.getLast?_append, List.getLast?_cons]⟩

/-! ## Mounts of a file with a table -/

/-- The routes of a service, in the order in which they appear first. -/
def ServiceRoutes.routes (s : ServiceRoutes) : List String := (s.bindings.map (·.route)).eraseDups

/-- The handlers of a service stand at the routes and verbs of its bindings, in order. -/
theorem map_handlers (s : ServiceRoutes) :
    s.handlers.map (fun h => (h.1, h.2.verb)) = s.bindings.map fun b => (b.route, b.verb) := by
  simp [ServiceRoutes.handlers, ServiceRoutes.bindings, List.map_flatMap, Function.comp_def]

/-- The handlers of a service stand at the routes of its bindings, in order. -/
theorem map_fst_handlers (s : ServiceRoutes) :
    s.handlers.map (·.1) = s.bindings.map (·.route) := by
  have h := congrArg (List.map Prod.fst) (map_handlers s)
  simpa [Function.comp_def] using h

/-- The handlers of a service, route by route, are all of its handlers. -/
theorem perm_handlers (s : ServiceRoutes) :
    (s.routes.flatMap fun route => (handlersFor s.handlers route).map (route, ·)).Perm
      s.handlers := by
  have hparts (route : String) : (handlersFor s.handlers route).map (route, ·) =
      s.handlers.filter (·.1 = route) := by
    rw [handlersFor, List.map_map]
    refine (List.map_congr_left fun h hh => ?_).trans (List.map_id _)
    rw [← of_decide_eq_true (List.mem_filter.mp hh).2]
    rfl
  simp only [hparts]
  refine perm_flatMap_filter Prod.fst (nodup_eraseDups _) fun h hh => ?_
  rw [List.mem_eraseDups, ← map_fst_handlers]
  exact List.mem_map_of_mem hh

section Table

variable {settings : RouteSettings} {file : File} {table : Table} {s : ServiceRoutes}
  (htable : Table.ofFile settings file = .ok table) (hs : s ∈ table.services)

include htable hs

/-- Two bindings of one shape in an accepted service have one route and differ in their verbs. -/
theorem pairwise_bindings_of_service :
    s.bindings.Pairwise fun x y =>
      shape x.route = shape y.route → x.route = y.route ∧ x.verb ≠ y.verb :=
  (List.pairwise_flatMap.mp (pairwise_bindings settings file htable)).1 s hs

/-- No two routes of a service have one shape. -/
theorem pairwise_routes : s.routes.Pairwise fun a b => shape a ≠ shape b := by
  have hshapes : ∀ x ∈ s.bindings, ∀ y ∈ s.bindings, shape x.route = shape y.route →
      x.route = y.route := by
    have hsymm : Std.Symm fun x y : Binding => shape x.route = shape y.route → x.route = y.route :=
      ⟨fun _ _ h hshape => (h hshape.symm).symm⟩
    intro x hx y hy
    exact List.Pairwise.forall_of_forall (fun _ _ _ => rfl)
      ((pairwise_bindings_of_service htable hs).imp fun h hshape => (h hshape).1) hx hy
  refine (nodup_eraseDups _).imp_of_mem fun ha hb hne hshape => hne ?_
  obtain ⟨x, hx, rfl⟩ := List.mem_map.mp (List.mem_eraseDups.mp ha)
  obtain ⟨y, hy, rfl⟩ := List.mem_map.mp (List.mem_eraseDups.mp hb)
  exact hshapes x hx y hy hshape

/-- No function of the router takes two handlers of one route. -/
theorem nodup_routingNames (route : String) :
    ((handlersFor s.handlers route).map fun h => h.verb.routingName).Nodup := by
  have hpairs : s.handlers.Pairwise fun h k => h.1 = k.1 → h.2.verb ≠ k.2.verb := by
    have hbindings := pairwise_bindings_of_service htable hs
    have htargets : (s.bindings.map fun b => (b.route, b.verb)).Pairwise fun p q =>
        p.1 = q.1 → p.2 ≠ q.2 :=
      List.pairwise_map.mpr (hbindings.imp fun h hroute => (h (congrArg shape hroute)).2)
    rw [← map_handlers, List.pairwise_map] at htargets
    exact htargets
  rw [handlersFor, List.map_map]
  -- two verbs are served by two functions of the router
  refine List.pairwise_map.mpr ((hpairs.filter _).imp_of_mem fun hh hk hverbs hname => ?_)
  have hroute := of_decide_eq_true (List.mem_filter.mp hh).2
  have hroute' := of_decide_eq_true (List.mem_filter.mp hk).2
  exact hverbs (hroute.trans hroute'.symm) (Verb.routingName_inj.mp hname)

/-! ## Main statement -/

/-- The code that is generated for a service registers its routes, each once and in the order in
which they appear first, with all handlers for the route in the order of the bindings. The routes
have all the handlers of the service, each once; no route has two handlers for one function of the
router, and no two routes have one shape. -/
theorem bindings_are_mounted_once {g : Generated} (hg : generateService table.package s = .ok g) :
    (∃ item, g.items.getLast? = some item ∧
      mountedBy? item = some (s.routes.map fun route =>
        ⟨Text.literal route, (handlersFor s.handlers route).map fun h =>
          (h.verb.routingName, h.name)⟩)) ∧
    (s.routes.flatMap fun route => (handlersFor s.handlers route).map (route, ·)).Perm s.handlers ∧
    (∀ route ∈ s.routes,
      ((handlersFor s.handlers route).map fun h => h.verb.routingName).Nodup) ∧
    s.routes.Pairwise fun a b => shape a ≠ shape b := by
  obtain ⟨register, server, hlast⟩ := getLast?_generateService hg
  refine ⟨⟨_, hlast, ?_⟩, perm_handlers s, fun route _ => nodup_routingNames htable hs route,
    pairwise_routes htable hs⟩
  rw [mountedBy?_registerItem, mountsOf, List.map_map, map_fst_handlers]
  rfl

end Table

/-- A method without data that is bound to a path by one rule and to another by a further one. -/
def pingMethod (name : String) (rule : HttpRule) : Method where
  name
  fullName := "ping.v1.Ping." ++ name
  comment := ""
  input := ⟨⟨"ping.v1.Empty", "Empty", "Empty"⟩, []⟩
  output := ⟨⟨"ping.v1.Empty", "Empty", "Empty"⟩, []⟩
  rule := some rule
  auth := false
  authLine := none
  clientStreaming := false
  serverStreaming := false

/-- A file with two routes, the first of which has two handlers that do not follow each other. -/
def pingFile : File where
  name := "ping.proto"
  package := "ping.v1"
  services :=
    [{ name := "Ping", fullName := "ping.v1.Ping", comment := "", auth := false
       methods :=
        [pingMethod "Get" (.mk "" (some (.get "/ping")) "" "" [.mk "" (some (.get "/pong")) "" "" []]),
          pingMethod "Put" (.mk "" (some (.put "/ping")) "" "" [])] }]
  enums := []

/-- Both handlers of the first route are registered with it. -/
theorem mounts_of_pingFile :
    ∃ table s g item, Table.ofFile {} pingFile = .ok table ∧ s ∈ table.services ∧
      generateService table.package s = .ok g ∧ g.items.getLast? = some item ∧
      mountedBy? item = some
        [⟨Text.literal "/ping", [("get", "ping_get_handler"), ("put", "ping_put_handler")]⟩,
          ⟨Text.literal "/pong", [("get", "ping_get_handler_1")]⟩] := by
  have hrun : ((Table.ofFile {} pingFile).toOption.bind fun table =>
      table.services.head?.bind fun s => (generateService table.package s).toOption.map fun _ =>
        s.routes.map fun route => (route, (handlersFor s.handlers route).map fun h =>
          (h.verb.routingName, h.name))) =
      some [("/ping", [("get", "ping_get_handler"), ("put", "ping_put_handler")]),
        ("/pong", [("get", "ping_get_handler_1")])] := by
    decide +kernel
  obtain ⟨table, htable, hrun⟩ := Option.bind_eq_some_iff.mp hrun
  obtain ⟨s, hs, hrun⟩ := Option.bind_eq_some_iff.mp hrun
  obtain ⟨g, hg, hroutes⟩ := Option.map_eq_some_iff.mp hrun
  rw [toOption_eq_some_iff] at htable hg
  have hs := List.mem_of_head? hs
  -- the routes and handlers are evaluated; that the item mounts just these is the theorem
  obtain ⟨⟨item, hitem, hmounted⟩, -⟩ := bindings_are_mounted_once htable hs hg
  refine ⟨table, s, g, item, htable, hs, hg, hitem, hmounted.trans ?_⟩
  have hregistrations := congrArg (List.map fun r : String × List (String × String) =>
    (⟨Text.literal r.1, r.2⟩ : Registration)) hroutes
  rw [List.map_map] at hregistrations
  exact congrArg some hregistrations

end ProtoRest.Route
