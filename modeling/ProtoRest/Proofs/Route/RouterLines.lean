import ProtoRest.Proofs.Route.Acceptance
import ProtoRest.Proofs.Route.ShapeLanguages

/-! # Router lines
The documentation of a binding ends in its **router line**: the path and the verb. Two rules with one
router line clash, except where one takes the rest of a path and the other takes one segment
(`router_lines_differ_up_to_reach`): routes of these two kinds have two shapes, and one text in the
documentation. Two rules clash exactly when their routes differ in names of parameters only
(`DifferInNames`), or are one route for one verb. -/

namespace ProtoRest.Route

open ProtoRest.Schema ProtoRest.Setting ProtoRest.Result ProtoRest.Path

/-- The last line of the documentation of a binding. -/
def Binding.routerLine (b : Binding) : String :=
  "@Router " ++ b.docPath ++ " [" ++ b.verb.routingName ++ "]"

/-- The router line holds the verb and the path, and nothing else of the binding. -/
theorem routerLine_inj {x y : Binding} :
    x.routerLine = y.routerLine ↔ x.verb = y.verb ∧ x.docPath = y.docPath := by
  constructor
  · intro h
    -- the verb stands in the last bracket, so the line splits there
    have hbracket (v : Verb) : '[' ∉ v.routingName.toList ++ [']'] := by cases v <;> decide
    have hlist := congrArg String.toList h
    simp only [Binding.routerLine, String.toList_append, List.append_assoc] at hlist
    rw [List.append_cancel_left_eq] at hlist
    have hlist : (x.docPath.toList ++ [' ']) ++ '[' :: (x.verb.routingName.toList ++ [']']) =
        (y.docPath.toList ++ [' ']) ++ '[' :: (y.verb.routingName.toList ++ [']']) := by
      simpa using hlist
    obtain ⟨hpath, hverb⟩ := append_cons_inj (hbracket x.verb) (hbracket y.verb) hlist
    rw [List.append_cancel_right_eq, String.toList_inj] at hpath hverb
    exact ⟨Verb.routingName_inj.mp hverb, hpath⟩
  · rintro ⟨hverb, hpath⟩
    rw [Binding.routerLine, Binding.routerLine, hverb, hpath]

/-- The documentation of a binding ends in its router line. -/
theorem getLast?_doc {settings : RouteSettings} {package : String} {service : Service}
    {method : Method} {index : Nat} {rule : HttpRule} {b : Binding}
    (h : bindingOfRule settings package service method index rule = .ok b) :
    b.doc.getLast? = some b.routerLine := by
  rw [doc_of_bindingOfRule h, docLines, List.getLast?_append]
  rfl

/-! ## Shapes of routes that take the rest -/

/-- The shape of a text starts with the shape of its start. -/
theorem exists_shapeFrom_append (inside : Bool) (front : List Char) :
    ∃ start inside', ∀ rest, shapeFrom inside (front ++ rest) = start ++ shapeFrom inside' rest := by
  induction front generalizing inside with
  | nil => exact ⟨[], inside, fun _ => rfl⟩
  | cons c front ih =>
    simp only [List.cons_append, shapeFrom]
    -- the first character is kept or dropped, and sets the state for the others
    split_ifs
    all_goals
      obtain ⟨start, inside', h⟩ := ih _
      first
        | exact ⟨c :: start, inside', fun rest => by rw [h]; rfl⟩
        | exact ⟨start, inside', h⟩

/-- The shape of a route that ends in a parameter does not depend on the name of the parameter. -/
theorem exists_shape (front : String) :
    ∃ start, ∀ name : String, Path.isName name.toList = true →
      shape (front ++ "\x7b" ++ name ++ "\x7d") = start ++ "\x7b\x7d" ∧
        shape (front ++ "\x7b*" ++ name ++ "\x7d") = start ++ "\x7b*\x7d" := by
  obtain ⟨start, inside, hstart⟩ := exists_shapeFrom_append false front.toList
  refine ⟨String.ofList start, fun name hname => ?_⟩
  have hbraces : shapeFrom true (name.toList ++ ['\x7d']) = ['\x7d'] :=
    shapeFrom_name (fun c hc => (ne_of_mem_name hname c hc).2) []
  constructor
  all_goals
    rw [← String.toList_inj, shape, String.toList_ofList]
    simp only [String.toList_append, List.append_assoc, hstart, String.toList_ofList]
  · exact congrArg (start ++ '\x7b' :: ·) hbraces
  · exact congrArg (start ++ '\x7b' :: '*' :: ·) hbraces

/-- A route that takes the rest and one that takes a segment have two shapes. -/
theorem shape_ne_of_differInRest {one rest : String} (h : DifferInRest one rest) :
    shape one ≠ shape rest := by
  obtain ⟨front, name, hname, rfl, rfl⟩ := h
  obtain ⟨start, hstart⟩ := exists_shape front
  rw [(hstart name hname).1, (hstart name hname).2, Ne, String.append_right_inj]
  decide

/-! ## Sites with one router line -/

/-- The route and the path in the documentation come from one template. -/
theorem exists_template {settings : RouteSettings} {package : String} {service : Service}
    {method : Method} {index : Nat} {rule : HttpRule} {b : Binding}
    (h : bindingOfRule settings package service method index rule = .ok b) :
    ∃ t : Template, t.IsRead ∧ t.IsWellFormed ∧ b.route = t.route ∧ b.docPath = t.docPath := by
  obtain ⟨_, _, t, _, _, _, -, ht, -, -, -, -, -, hroute, hpath, -⟩ := bindingOfRule_eq_ok h
  exact ⟨t, isRead_of_parse ht, isWellFormed_of_parse ht, hroute, hpath⟩

/-- Two routes of which one takes the rest of a path where the other takes one segment. -/
def DifferInReach (a b : String) : Prop := DifferInRest a b ∨ DifferInRest b a

/-- Two routes that differ in nothing but names of parameters, whether these take one segment or the
rest of a path. -/
def DifferInNames (a b : String) : Prop :=
  a ≠ b ∧ (segmentsOfRoute a).map unnamed = (segmentsOfRoute b).map unnamed

instance : DecidableRel DifferInNames := fun _ _ => inferInstanceAs (Decidable (_ ∧ _))

example : DifferInNames "/a/\x7bx\x7d/b" "/a/\x7by\x7d/b" ∧
    DifferInNames "/a/\x7b*x\x7d" "/a/\x7b*y\x7d" ∧
    ¬ DifferInNames "/a/\x7bx\x7d" "/a/\x7b*x\x7d" := by
  decide +kernel

section Sites

variable {settings : RouteSettings} {file : File} {a b : Site} {x y : Binding}
  (hx : a.binding settings file.package = .ok x) (hy : b.binding settings file.package = .ok y)

include hx hy

/-- Two sites are at odds when the routes of their bindings have one shape, and differ or are for the
same verb. -/
theorem atOdds_iff_shape : a.AtOdds settings file.package b ↔
    shape x.route = shape y.route ∧ (x.route ≠ y.route ∨ x.verb = y.verb) := by
  constructor
  · rintro ⟨x', y', hx', hy', hodds⟩
    obtain rfl := Except.ok.inj (hx.symm.trans hx')
    obtain rfl := Except.ok.inj (hy.symm.trans hy')
    exact hodds
  · intro hodds
    exact ⟨x, y, hx, hy, hodds⟩

/-- The routes of two bindings have one shape exactly when their segments are equal but for names. -/
theorem shape_eq_iff_map_unnamed : shape x.route = shape y.route ↔
    (segmentsOfRoute x.route).map unnamed = (segmentsOfRoute y.route).map unnamed := by
  obtain ⟨t, -, ht, htroute, -⟩ := exists_template hx
  obtain ⟨u, -, hu, huroute, -⟩ := exists_template hy
  rw [htroute, huroute, shape_route_eq_iff ht hu, segmentsOfRoute_route ht, segmentsOfRoute_route hu]

/-- Two sites are at odds exactly when their routes differ in names only, whatever the verbs, or when
they have one route for one verb. -/
theorem atOdds_iff_differInNames : a.AtOdds settings file.package b ↔
    DifferInNames x.route y.route ∨ x.route = y.route ∧ x.verb = y.verb := by
  rw [atOdds_iff_shape hx hy, shape_eq_iff_map_unnamed hx hy]
  constructor
  · rintro ⟨hsame, hroute⟩
    by_cases heq : x.route = y.route
    · exact .inr ⟨heq, hroute.resolve_left (not_not_intro heq)⟩
    · exact .inl ⟨heq, hsame⟩
  · rintro (⟨hne, hsame⟩ | ⟨heq, hverb⟩)
    · exact ⟨hsame, .inl hne⟩
    · exact ⟨by rw [heq], .inr hverb⟩

/-- Two sites with one router line are at odds unless their routes differ in reach. -/
theorem atOdds_iff_of_routerLine_eq (h : x.routerLine = y.routerLine) :
    a.AtOdds settings file.package b ↔ ¬ DifferInReach x.route y.route := by
  obtain ⟨hverb, hpath⟩ := routerLine_inj.mp h
  obtain ⟨t, ht, -, htroute, htpath⟩ := exists_template hx
  obtain ⟨u, hu, -, huroute, hupath⟩ := exists_template hy
  rw [atOdds_iff_shape hx hy, and_iff_left (.inr hverb)]
  constructor
  · rintro hshape (hone | hone)
    · exact shape_ne_of_differInRest hone hshape
    · exact shape_ne_of_differInRest hone hshape.symm
  · intro hreach
    -- what is read from two paths with one documentation is one route, or differs in reach
    rw [htpath, hupath] at hpath
    rw [htroute, huroute] at hreach ⊢
    rw [(ht.routes_of_docPath_eq hu hpath).resolve_right hreach]

end Sites

/-! ## Main statement -/

/-- The documentation of every binding of a file with a table ends in its router line. No two
bindings have one router line, except two routes that differ in reach; any other two rules with one
router line are at odds. Two rules are at odds exactly when their routes differ in names of parameters
only, or are one route for one verb. -/
theorem router_lines_differ_up_to_reach {settings : RouteSettings} {file : File} {table : Table}
    (h : Table.ofFile settings file = .ok table) :
    (∀ b ∈ table.bindings, b.doc.getLast? = some b.routerLine) ∧
    (table.bindings.Pairwise fun x y =>
      x.routerLine = y.routerLine → DifferInReach x.route y.route) ∧
    ∀ (a b : Site) (x y : Binding), a.binding settings file.package = .ok x →
      b.binding settings file.package = .ok y →
        (x.routerLine = y.routerLine →
          (a.AtOdds settings file.package b ↔ ¬ DifferInReach x.route y.route)) ∧
        (a.AtOdds settings file.package b ↔
          DifferInNames x.route y.route ∨ x.route = y.route ∧ x.verb = y.verb) := by
  obtain ⟨hclean, rfl⟩ := (ofFile_eq_ok_iff settings file).mp h
  have hbindings := forall₂_bindings settings file hclean
  have hfree := ((exists_table_iff settings file).mp ⟨_, h⟩).2
  refine ⟨fun b hb => ?_, ?_, fun a b x y hx hy =>
    ⟨atOdds_iff_of_routerLine_eq hx hy, atOdds_iff_differInNames hx hy⟩⟩
  · obtain ⟨site, -, hsite⟩ := exists_left_of_forall₂ hbindings b hb
    exact getLast?_doc hsite
  · -- an accepted table has no two sites at odds, so equal lines leave a difference in reach
    refine pairwise_of_forall₂ (fun a b x y hx hy hodds hline => ?_) hbindings hfree
    rw [atOdds_iff_of_routerLine_eq hx hy hline, not_not] at hodds
    exact hodds

/-- A rule that reads a file by its path. -/
def readRule (path : String) : HttpRule := .mk "" (some (.get path)) "" "" []

/-- A method that reads a file by its path. -/
def readMethod (name path : String) : Method where
  name
  fullName := "files.v1.Files." ++ name
  comment := ""
  input := ⟨⟨"files.v1.Query", "Query", "Query"⟩,
    [{ name := "path", number := 1, kind := .scalar .string, label := .singular, oneof := none },
      { name := "other", number := 2, kind := .scalar .string, label := .singular, oneof := none }]⟩
  output := ⟨⟨"files.v1.File", "File", "File"⟩, []⟩
  rule := some (readRule path)
  auth := false
  authLine := none
  clientStreaming := false
  serverStreaming := false

/-- A service with a method for one segment and a method for the rest of a path. -/
def filesService : Service where
  name := "Files"
  fullName := "files.v1.Files"
  comment := ""
  auth := false
  methods := [readMethod "One" "/files/\x7bpath\x7d", readMethod "Rest" "/files/\x7bpath=**\x7d"]

/-- A file with that service. -/
def filesFile : File where
  name := "files.proto"
  package := "files.v1"
  services := [filesService]
  enums := []

/-- The site of a rule of the service. -/
def readSite (name path : String) : Site := ⟨filesService, readMethod name path, 0, readRule path⟩

/-- The file of one service is accepted, and its two bindings share their verb and their documented
path. -/
theorem exists_table_of_filesFile :
    ∃ table x y, Table.ofFile {} filesFile = .ok table ∧ table.bindings = [x, y] ∧
      x.verb = y.verb ∧ x.docPath = y.docPath := by
  have hrun : ((Table.ofFile {} filesFile).toOption.map fun table =>
      table.bindings.map fun b => (b.verb, b.docPath)) =
        some [(.get, "/files/\x7bpath\x7d"), (.get, "/files/\x7bpath\x7d")] := by
    decide +kernel
  obtain ⟨table, htable, hbindings⟩ := Option.map_eq_some_iff.mp hrun
  rw [List.map_eq_cons_iff] at hbindings
  obtain ⟨x, _, hx, hxpath, htail⟩ := hbindings
  obtain ⟨y, rfl, hypath⟩ := List.map_eq_singleton_iff.mp htail
  rw [Prod.mk.injEq] at hxpath hypath
  exact ⟨table, x, y, toOption_eq_some_iff.mp htable, hx, hxpath.1.trans hypath.1.symm,
    hxpath.2.trans hypath.2.symm⟩

/-- The two bindings have one router line, and their routes differ in reach. A rule that has another
name for the parameter in the middle of its path is at odds with one that is otherwise equal. -/
theorem router_lines_of_filesFile :
    ∃ table x y, Table.ofFile {} filesFile = .ok table ∧ table.bindings = [x, y] ∧
      x.routerLine = y.routerLine ∧ DifferInReach x.route y.route ∧
      (readSite "Parts" "/files/\x7bpath\x7d/parts").AtOdds {} filesFile.package
        (readSite "Others" "/files/\x7bother\x7d/parts") := by
  obtain ⟨table, x, y, htable, hbindings, hline⟩ := exists_table_of_filesFile
  obtain ⟨-, hpair, hsites⟩ := router_lines_differ_up_to_reach htable
  rw [hbindings, List.pairwise_pair] at hpair
  -- both sites are bound, with the routes of their rules
  have hroutes : (((readSite "Parts" "/files/\x7bpath\x7d/parts").binding {}
        filesFile.package).toOption.bind fun a =>
      ((readSite "Others" "/files/\x7bother\x7d/parts").binding {}
        filesFile.package).toOption.map fun b => (a.route, b.route)) =
      some ("/files/\x7bpath\x7d/parts", "/files/\x7bother\x7d/parts") := by
    decide +kernel
  obtain ⟨a, ha, hroutes⟩ := Option.bind_eq_some_iff.mp hroutes
  obtain ⟨b, hb, hroutes⟩ := Option.map_eq_some_iff.mp hroutes
  obtain ⟨hroute, hroute'⟩ := Prod.mk.inj hroutes
  have hodds := (hsites _ _ a b (toOption_eq_some_iff.mp ha) (toOption_eq_some_iff.mp hb)).2
  refine ⟨table, x, y, htable, hbindings, routerLine_inj.mpr hline,
    hpair (routerLine_inj.mpr hline), hodds.mpr (.inl ?_)⟩
  rw [hroute, hroute']
  decide +kernel

/-- The bindings of a file with a table may have one verb and one path in the documentation. -/
theorem router_lines_can_repeat :
    ¬ ∀ (settings : RouteSettings) (file : File) (table : Table),
      Table.ofFile settings file = .ok table →
        table.bindings.Pairwise fun x y => ¬ (x.verb = y.verb ∧ x.docPath = y.docPath) := by
  intro h
  obtain ⟨table, x, y, htable, hbindings, hline⟩ := exists_table_of_filesFile
  have hpair := h {} filesFile table htable
  rw [hbindings, List.pairwise_pair] at hpair
  exact hpair hline

end ProtoRest.Route
