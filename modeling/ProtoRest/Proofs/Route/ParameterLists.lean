import ProtoRest.Proofs.Path.RouteTexts
import ProtoRest.Proofs.Route.BoundFields
import ProtoRest.Route.ParameterNames

/-! # Lists of parameters
The route of a binding, its path in the documentation, the fields it reads from the path and the
lines of its documentation name the same parameters in the same order (`parameters_are_named_alike`).
They can be read back since no text of a template has a brace and no name of one has a blank. -/

namespace ProtoRest.Route

open ProtoRest.Path ProtoRest.Schema ProtoRest.Setting ProtoRest.Result ProtoRest.Text

/-! ## Texts between braces -/

section Braced

variable {s cs : List Char}

/-- A text without an opening brace adds no braced name. -/
theorem braced_append (hs : '{' ∉ s) (cs : List Char) : braced (s ++ cs) = braced cs := by
  induction s with
  | nil => rfl
  | cons c s ih =>
    rw [List.mem_cons, not_or] at hs
    rw [List.cons_append, braced, if_neg (Ne.symm hs.1), ih hs.2]

/-- A name in braces behind a slash is the first braced name. -/
theorem braced_braces (hs : ∀ c ∈ s, c ≠ '{' ∧ c ≠ '}') (cs : List Char) :
    braced ('/' :: ('{' :: s ++ ['}']) ++ cs) = s :: braced cs := by
  have hbody : (s ++ '}' :: cs).takeWhile (· != '}') = s := by
    have hall : ∀ c ∈ s, (c != '}') = true := fun c hc => by simpa using (hs c hc).2
    rw [List.takeWhile_append_of_pos hall]
    simp
  have hrest : braced (s ++ '}' :: cs) = braced cs := by
    rw [List.append_cons, braced_append]
    simpa using fun hmem => (hs '{' hmem).1 rfl
  simp only [List.cons_append, List.append_assoc, List.nil_append]
  rw [braced, if_neg (by decide), braced, if_pos rfl, hbody, hrest]

/-- Dropping the stars leaves a text without an opening brace alone. -/
theorem dropStars_append (hs : '{' ∉ s) (cs : List Char) :
    dropStars (s ++ cs) = s ++ dropStars cs := by
  induction s with
  | nil => rfl
  | cons c s ih =>
    rw [List.mem_cons, not_or] at hs
    rw [List.cons_append, dropStars, ih hs.2]
    · rfl
    · exact fun _ hc _ => hs.1 hc.symm

/-- Dropping the stars leaves a name in braces without a star alone. -/
theorem dropStars_braces (hs : ∀ c ∈ s, c ≠ '{' ∧ c ≠ '*') (cs : List Char) :
    dropStars ('/' :: ('{' :: s ++ ['}']) ++ cs) = '/' :: ('{' :: s ++ ['}']) ++ dropStars cs := by
  have hbody : dropStars (s ++ '}' :: cs) = s ++ '}' :: dropStars cs := by
    rw [dropStars_append fun hmem => (hs '{' hmem).1 rfl, dropStars]
    simp
  have hopen : dropStars ('{' :: (s ++ '}' :: cs)) = '{' :: dropStars (s ++ '}' :: cs) := by
    rw [dropStars]
    -- what follows the brace is a character of the body, or the brace that closes
    rintro rest - hrest
    cases s with
    | nil => simp at hrest
    | cons c s => exact (hs c List.mem_cons_self).2 (List.cons.inj hrest).1
  simp only [List.cons_append, List.append_assoc, List.nil_append]
  rw [dropStars, hopen, hbody]
  simp

/-- The star behind an opening brace is dropped. -/
theorem dropStars_starred (hs : '{' ∉ s) (cs : List Char) :
    dropStars ('/' :: ('{' :: '*' :: s ++ ['}']) ++ cs) =
      '/' :: ('{' :: s ++ ['}']) ++ dropStars cs := by
  have hbody : dropStars (s ++ '}' :: cs) = s ++ '}' :: dropStars cs := by
    rw [dropStars_append hs, dropStars]
    simp
  simp only [List.cons_append, List.append_assoc, List.nil_append]
  rw [dropStars, dropStars, hbody]
  simp

end Braced

/-! ## The two texts of a path -/

section Segments

variable {s : Segment} {segments : List Segment} {t : Template}

/-- A text has no brace, so reading goes on behind it. -/
theorem brace_notMem_literal {text : String} (h : (Segment.literal text).IsWellFormed) :
    '{' ∉ '/' :: text.toList := by
  rw [List.mem_cons, not_or]
  exact ⟨by decide, fun hmem => ((isLiteral_iff.mp h).2 '{' hmem).2.1 rfl⟩

/-- In the route the braces of a segment hold its name, behind a star if it binds the rest. -/
theorem map_nameInRoute_segment (hs : s.IsWellFormed) (cs : List Char) :
    (braced ('/' :: s.route.toList ++ cs)).map nameInRoute =
      s.name?.toList ++ (braced cs).map nameInRoute := by
  rw [toList_route]
  cases s with
  | literal text =>
    rw [braced_append (brace_notMem_literal hs)]
    rfl
  | param name =>
    have hname := ne_of_mem_name hs
    -- no name begins with a star, so none is taken off
    have hread : nameInRoute name.toList = name := by
      rw [nameInRoute, String.ofList_toList]
      rintro rest hrest
      exact (hname '*' (by rw [hrest]; exact List.mem_cons_self)).2.2.2 rfl
    rw [braced_braces fun c hc => ⟨(hname c hc).2.1, (hname c hc).2.2.1⟩, List.map_cons, hread]
    rfl
  | catchAll name =>
    have hname := ne_of_mem_name hs
    have hread : nameInRoute ('*' :: name.toList) = name := by
      rw [nameInRoute, String.ofList_toList]
    have hbody : ∀ c ∈ '*' :: name.toList, c ≠ '{' ∧ c ≠ '}' :=
      List.forall_mem_cons.mpr ⟨by decide, fun c hc => ⟨(hname c hc).2.1, (hname c hc).2.2.1⟩⟩
    refine (congrArg (List.map nameInRoute) (braced_braces hbody cs)).trans ?_
    rw [List.map_cons, hread]
    rfl

/-- In the documentation the braces of a segment hold its name. -/
theorem map_ofList_segment (hs : s.IsWellFormed) (cs : List Char) :
    (braced ('/' :: s.docPath.toList ++ cs)).map String.ofList =
      s.name?.toList ++ (braced cs).map String.ofList := by
  rw [toList_docPath]
  cases s with
  | literal text =>
    rw [braced_append (brace_notMem_literal hs)]
    rfl
  | param name | catchAll name =>
    have hname := ne_of_mem_name hs
    rw [braced_braces fun c hc => ⟨(hname c hc).2.1, (hname c hc).2.2.1⟩, List.map_cons,
      String.ofList_toList]
    rfl

/-- The path in the documentation is the route without its stars. -/
theorem dropStars_pathChars (hwell : ∀ s ∈ segments, s.IsWellFormed) (cs : List Char) :
    dropStars (pathChars Segment.route segments ++ cs) =
      pathChars Segment.docPath segments ++ dropStars cs := by
  induction segments with
  | nil => rfl
  | cons s segments ih =>
    rw [List.forall_mem_cons] at hwell
    have ih := ih hwell.2
    rw [pathChars_cons, pathChars_cons, List.append_assoc, List.append_assoc, toList_route,
      toList_docPath]
    -- a star stands behind the brace of a parameter for the rest, and nowhere else
    cases s with
    | literal text => rw [dropStars_append (brace_notMem_literal hwell.1), ih]
    | param name =>
      have hname := ne_of_mem_name hwell.1
      rw [dropStars_braces fun c hc => ⟨(hname c hc).2.1, (hname c hc).2.2.2⟩, ih]
    | catchAll name =>
      have hname := ne_of_mem_name hwell.1
      rw [dropStars_starred fun hmem => (hname '{' hmem).2.1 rfl, ih]

/-- A verb has no brace. -/
theorem brace_notMem_verbText (ht : t.IsWellFormed) :
    '{' ∉ verbText (t.verb.map String.toList) := by
  have hverb : ∀ v ∈ t.verb.map String.toList, isVerb v = true := by
    intro v hv
    obtain ⟨verb, hverb, rfl⟩ := Option.map_eq_some_iff.mp hv
    exact (ht.verb verb hverb).1
  exact fun hmem => (ne_of_mem_verbText hverb '{' hmem).2.1 rfl

/-- The verb of a template holds no braced name. -/
theorem braced_verbText (ht : t.IsWellFormed) :
    braced (verbText (t.verb.map String.toList)) = [] := by
  rw [← List.append_nil (verbText _), braced_append (brace_notMem_verbText ht)]
  rfl

/-- A text of a template that holds the name of each segment in braces names the parameters of the
template, in their order. -/
theorem map_braced_write {segment : Segment → String} {read : List Char → String}
    (ht : t.IsWellFormed)
    (hsegment : ∀ s : Segment, s.IsWellFormed → ∀ cs,
      (braced ('/' :: (segment s).toList ++ cs)).map read = s.name?.toList ++ (braced cs).map read) :
    (braced (t.write segment).toList).map read = t.parameters := by
  -- the induction is on the segments, with the verb as what follows them
  have hpath (segments : List Segment) (hwell : ∀ s ∈ segments, s.IsWellFormed) (cs : List Char) :
      (braced (pathChars segment segments ++ cs)).map read =
        segments.filterMap Segment.name? ++ (braced cs).map read := by
    induction segments with
    | nil => rfl
    | cons s segments ih =>
      rw [List.forall_mem_cons] at hwell
      rw [pathChars_cons, List.append_assoc, hsegment s hwell.1, ih hwell.2, List.filterMap_cons]
      cases s.name? <;> rfl
  rw [toList_write]
  split_ifs with hnil
  · rw [braced_append (by decide), braced_verbText ht, Template.parameters, hnil]
    rfl
  · rw [hpath t.segments ht.segments, braced_verbText ht]
    exact List.append_nil _

/-- A route holds the template's parameters in its braces, in order. -/
theorem namesInRoute_route (ht : t.IsWellFormed) : namesInRoute t.route = t.parameters :=
  map_braced_write ht fun _ => map_nameInRoute_segment

/-- A documented path holds the template's parameters in its braces, in order. -/
theorem namesInDocPath_docPath (ht : t.IsWellFormed) : namesInDocPath t.docPath = t.parameters :=
  map_braced_write ht fun _ => map_ofList_segment

/-- The documented path is the route without its stars. -/
theorem toList_docPath_eq (ht : t.IsWellFormed) : t.docPath.toList = dropStars t.route.toList := by
  have hverb : dropStars (verbText (t.verb.map String.toList)) =
      verbText (t.verb.map String.toList) := by
    rw [← List.append_nil (verbText _), dropStars_append (brace_notMem_verbText ht)]
    rfl
  rw [Template.docPath, Template.route, toList_write, toList_write]
  split_ifs
  · rw [dropStars_append (by decide), hverb]
  · rw [dropStars_pathChars ht.segments, hverb]

/-- Parameters have names. -/
theorem isName_of_mem_parameters (ht : t.IsWellFormed) :
    ∀ name ∈ t.parameters, Path.isName name.toList = true := by
  intro name hname
  obtain ⟨s, hs, hsname⟩ := List.mem_filterMap.mp hname
  have hwell := ht.segments s hs
  cases s with
  | literal text => cases hsname
  | param | catchAll =>
    obtain rfl := Option.some.inj hsname
    exact hwell

end Segments

/-! ## The lines of the documentation -/

section Lines

variable {place : String}

/-- The parameters of two runs of lines are those of the first and those of the second. -/
theorem paramNames_append (place : String) (lines lines' : List String) :
    paramNames place (lines ++ lines') = paramNames place lines ++ paramNames place lines' :=
  List.filterMap_append

/-- A line with another tag names no parameter. -/
theorem paramName?_of_tag_ne (place tag : String) (htag : ' ' ∉ tag.toList)
    (hne : tag ≠ "@Param") (rest : String) : paramName? place (tag ++ " " ++ rest) = none := by
  have hsplit : splitAt ' ' (tag ++ " " ++ rest).toList = tag.toList :: splitAt ' ' rest.toList := by
    rw [String.toList_append, String.toList_append, List.append_assoc]
    exact splitAt_append htag _
  have hne : tag.toList ≠ "@Param".toList := fun heq => hne (String.toList_inj.mp heq)
  rw [paramName?, hsplit]
  split
  · next heq =>
    obtain ⟨rfl, -⟩ := List.cons.inj heq
    exact if_neg fun h => hne h.1
  · rfl

/-- A line of a parameter names it in its own place, when the line can be split into words. -/
theorem paramName?_line (place name : String) {word : String} (hname : ' ' ∉ name.toList)
    (hword : ' ' ∉ word.toList) (rest : String) :
    paramName? place ("@Param " ++ name ++ " " ++ word ++ " " ++ rest) =
      if word = place then some name else none := by
  have hsplit : splitAt ' ' ("@Param " ++ name ++ " " ++ word ++ " " ++ rest).toList =
      "@Param".toList :: name.toList :: word.toList :: splitAt ' ' rest.toList := by
    simp only [String.toList_append, List.append_assoc]
    refine (splitAt_append (s := "@Param".toList) (by decide) _).trans (congrArg _ ?_)
    refine (splitAt_append hname _).trans (congrArg _ ?_)
    exact splitAt_append hword _
  have hplace : "@Param".toList = "@Param".toList ∧ word.toList = place.toList ↔ word = place :=
    (and_iff_right rfl).trans String.toList_inj
  rw [paramName?, hsplit]
  exact if_congr hplace (congrArg some String.ofList_toList) rfl

/-- The line of a parameter starts with three words. -/
theorem paramLine_eq (word required : String) (p : BoundField) :
    paramLine word required p = "@Param " ++ p.name ++ " " ++ word ++ " " ++
      (p.docType ++ " " ++ required ++ " \"" ++ p.name ++ "\"") := by
  -- the equation of the definition is slow to make, so it is stated here
  have hline : paramLine word required p = "@Param " ++ p.name ++ " " ++ word ++ " " ++ p.docType ++
      " " ++ required ++ " \"" ++ p.name ++ "\"" := rfl
  simp only [hline, String.append_assoc]

/-- The lines of parameters name them in their own place. -/
theorem paramNames_paramLine (place : String) {word : String} (hword : ' ' ∉ word.toList)
    (required : String) {params : List BoundField} (hparams : ∀ p ∈ params, ' ' ∉ p.name.toList) :
    paramNames place (params.map (paramLine word required)) =
      if word = place then params.map (·.name) else [] := by
  induction params with
  | nil => simp [paramNames]
  | cons p params ih =>
    rw [List.forall_mem_cons] at hparams
    have hline : paramName? place (paramLine word required p) =
        if word = place then some p.name else none := by
      rw [paramLine_eq]
      exact paramName?_line place p.name hparams.1 hword _
    rw [List.map_cons, paramNames, List.filterMap_cons, hline, ← paramNames, ih hparams.2]
    split_ifs <;> rfl

/-- A line under another tag documents no parameter. -/
theorem paramNames_tag (place tag : String) (htag : ' ' ∉ tag.toList) (hne : tag ≠ "@Param")
    (rest : String) : paramNames place [tag ++ " " ++ rest] = [] :=
  List.filterMap_cons_none (paramName?_of_tag_ne place tag htag hne rest)

/-- The lines about the method name no parameter. -/
theorem paramNames_methodLines (place package : String) (service : Service) (method : Method) :
    paramNames place (["@Summary " ++ method.name] ++
      (if method.comment = "" then [] else ["@Description " ++ method.comment]) ++
      ["@Tags " ++ package ++ "," ++ package ++ "." ++ service.name, "@Accept json",
        "@Produce json"]) = [] := by
  -- none of the lines has the tag of parameters
  have hsummary : paramNames place ["@Summary " ++ method.name] = [] :=
    paramNames_tag place "@Summary" (by decide) (by decide) method.name
  have hcomment : paramNames place
      (if method.comment = "" then [] else ["@Description " ++ method.comment]) = [] := by
    split_ifs
    · rfl
    · exact paramNames_tag place "@Description" (by decide) (by decide) method.comment
  have htags : paramNames place ["@Tags " ++ package ++ "," ++ package ++ "." ++ service.name] =
      [] := by
    simp only [String.append_assoc]
    exact paramNames_tag place "@Tags" (by decide) (by decide) _
  have hkinds : paramNames place ["@Accept json", "@Produce json"] = [] :=
    List.append_eq_nil_iff.mpr ⟨paramNames_tag place "@Accept" (by decide) (by decide) "json",
      paramNames_tag place "@Produce" (by decide) (by decide) "json"⟩
  rw [paramNames_append, paramNames_append, hsummary, hcomment, List.nil_append, List.nil_append,
    ← List.singleton_append, paramNames_append, htags, hkinds, List.nil_append]

/-- The line of the body has the tag of a parameter, and a place of its own. -/
theorem paramNames_bodyLine (hplace : place ≠ "body") (type : String) :
    paramNames place ["@Param request body " ++ type ++ " true \"request body\""] = [] := by
  have hword : ' ' ∉ "body".toList := by decide
  have hline := paramName?_line place "request" (by decide) hword (type ++ " true \"request body\"")
  rw [if_neg hplace.symm] at hline
  refine List.filterMap_cons_none ?_
  rw [String.append_assoc]
  exact hline

/-- The lines about the answers name no parameter. -/
theorem paramNames_answerLines (place : String) (method : Method) (b : Binding) :
    paramNames place ([match b.response with
        | .whole => "@Success 200 \x7bobject\x7d " ++ method.output.type.name
        | .field _ _ _ docType => "@Success 200 " ++ docType] ++
      ["@Failure 400,401,403,500,default \x7bobject\x7d ErrorResponse",
        "@Router " ++ b.docPath ++ " [" ++ b.verb.routingName ++ "]"]) = [] := by
  -- each of the three lines starts with another tag than that of parameters
  have hsuccess : paramNames place [match b.response with
      | .whole => "@Success 200 \x7bobject\x7d " ++ method.output.type.name
      | .field _ _ _ docType => "@Success 200 " ++ docType] = [] := by
    cases b.response with
    | whole =>
      exact paramNames_tag place "@Success" (by decide) (by decide)
        ("200 \x7bobject\x7d " ++ method.output.type.name)
    | field _ _ _ docType =>
      exact paramNames_tag place "@Success" (by decide) (by decide) ("200 " ++ docType)
  have hfailure :
      paramNames place ["@Failure 400,401,403,500,default \x7bobject\x7d ErrorResponse"] = [] :=
    paramNames_tag place "@Failure" (by decide) (by decide)
      "400,401,403,500,default \x7bobject\x7d ErrorResponse"
  have hrouter : paramNames place ["@Router " ++ b.docPath ++ " [" ++ b.verb.routingName ++ "]"] =
      [] := by
    simp only [String.append_assoc]
    exact paramNames_tag place "@Router" (by decide) (by decide) _
  rw [paramNames_append, hsuccess, List.nil_append, ← List.singleton_append, paramNames_append,
    hfailure, hrouter, List.nil_append]

/-- Only the line for authentication and the lines of the parameters name parameters outside of the
body. -/
theorem paramNames_docLines (hplace : place ≠ "body") (package : String) (service : Service)
    (method : Method) (b : Binding) :
    paramNames place (docLines package service method b) =
      paramNames place b.authLine.toList ++
        (paramNames place (b.pathParams.map (paramLine "path" "true")) ++
          paramNames place (b.queryParams.map (paramLine "query" "false"))) := by
  have hbody : paramNames place (if b.verb.carriesBody then
      ["@Param request body " ++ method.input.type.name ++ " true \"request body\""] else []) = [] := by
    split_ifs
    · exact paramNames_bodyLine hplace _
    · rfl
  have hparts := paramNames_append place
  rw [docLines, List.append_assoc _ _ [_, _], hparts]
  refine (congrArg (_ ++ ·) (paramNames_answerLines place method b)).trans ?_
  rw [List.append_nil, hparts, hbody, List.append_nil, hparts, hparts, hparts,
    paramNames_methodLines, List.nil_append, List.append_assoc]

end Lines

/-! ## Main statement -/

/-- The route, the path in the documentation and the fields that a binding reads from the path name
the same parameters in the same order, and all parameters are fields of the request. -/
structure Binding.NamesAgree (request : Message) (b : Binding) : Prop where
  /-- The names in the route. -/
  route : namesInRoute b.route = b.pathParams.map (·.name)
  /-- The names in the path of the documentation. -/
  docPath : namesInDocPath b.docPath = b.pathParams.map (·.name)
  /-- The two texts differ in the stars only. -/
  docPath_eq : b.docPath.toList = dropStars b.route.toList
  /-- What is read from the path or from the query are fields. -/
  fields : ∀ p ∈ b.pathParams ++ b.queryParams, TakesParam request p

variable {settings : RouteSettings} {package : String} {service : Service} {method : Method}
  {index : Nat} {rule : HttpRule} {b : Binding}

/-- The path parameters are those of a template that is well formed. -/
theorem exists_wellFormed (h : bindingOfRule settings package service method index rule = .ok b) :
    ∃ t : Template, t.IsWellFormed ∧ b.route = t.route ∧ b.docPath = t.docPath ∧
      b.pathParams.map (·.name) = t.parameters := by
  obtain ⟨_, _, t, params, _, _, -, ht, hparams, -, -, -, -, hroute, hpath, hfields, -⟩ :=
    bindingOfRule_eq_ok h
  obtain ⟨fields, hnames, rfl, -⟩ := pathParams_eq_ok hparams
  refine ⟨t, isWellFormed_of_parse ht, hroute, hpath, ?_⟩
  rw [hfields, ← hnames, List.map_map]
  rfl

/-- The parameters of a bound rule are named alike in its route, its documented path, its structs
and its documentation. -/
theorem namesAgree_of_bindingOfRule
    (h : bindingOfRule settings package service method index rule = .ok b) :
    b.NamesAgree method.input := by
  obtain ⟨t, ht, hroute, hpath, hnames⟩ := exists_wellFormed h
  have hfields := takesFields_of_bindingOfRule h
  exact {
    route := by rw [hroute, namesInRoute_route ht, hnames]
    docPath := by rw [hpath, namesInDocPath_docPath ht, hnames]
    docPath_eq := by rw [hroute, hpath, toList_docPath_eq ht]
    fields := List.forall_mem_append.mpr ⟨hfields.pathParams, hfields.queryParams⟩ }

/-- The lists of parameters of a binding agree. Its documentation names the same path parameters and
the same query parameters, behind what the line for authentication names if that line is written as
one of a parameter, when no name of a query parameter has a blank. -/
theorem parameters_are_named_alike
    (h : bindingOfRule settings package service method index rule = .ok b) :
    b.NamesAgree method.input ∧
    ((∀ p ∈ b.queryParams, ' ' ∉ p.name.toList) →
      paramNames "path" b.doc =
        paramNames "path" b.authLine.toList ++ b.pathParams.map (·.name) ∧
      paramNames "query" b.doc =
        paramNames "query" b.authLine.toList ++ b.queryParams.map (·.name)) := by
  refine ⟨namesAgree_of_bindingOfRule h, fun hquery => ?_⟩
  -- the names of path parameters come from a template, where a name has no blank
  have hpath : ∀ p ∈ b.pathParams, ' ' ∉ p.name.toList := by
    obtain ⟨t, ht, -, -, hnames⟩ := exists_wellFormed h
    intro p hp hmem
    have hname : p.name ∈ t.parameters := hnames ▸ List.mem_map_of_mem hp
    exact notMem_of_isName (isName_of_mem_parameters ht _ hname) rfl (by decide) hmem
  rw [doc_of_bindingOfRule h]
  constructor
  · rw [paramNames_docLines (by decide), paramNames_paramLine _ (by decide) _ hpath,
      paramNames_paramLine _ (by decide) _ hquery, if_pos rfl, if_neg (by decide), List.append_nil]
  · rw [paramNames_docLines (by decide), paramNames_paramLine _ (by decide) _ hpath,
      paramNames_paramLine _ (by decide) _ hquery, if_neg (by decide), if_pos rfl, List.nil_append]

/-- A method that reads the loans of a reader below a path, with one field for the query. -/
def loansMethod (authLine : Option String) (query : String) : Method where
  name := "Loans"
  fullName := "loans.v1.Readers.Loans"
  comment := ""
  input := ⟨⟨"loans.v1.Query", "Query", "Query"⟩,
    [("reader", 1), ("shelf", 2), (query, 3)].map fun (name, number) =>
      { name, number, kind := .scalar .string, label := .singular, oneof := none }⟩
  output := ⟨⟨"loans.v1.Loans", "Loans", "Loans"⟩, []⟩
  rule := some (.mk "" (some (.get "/readers/\x7breader\x7d/\x7bshelf=**\x7d")) "" "" [])
  auth := false
  authLine
  clientStreaming := false
  serverStreaming := false

/-- What the rule of the method is bound to. -/
def loansBinding (authLine : Option String) (query : String) : Except BindingFault Binding :=
  bindingOfRule {} "loans.v1"
    { name := "Readers", fullName := "loans.v1.Readers", comment := "", auth := false, methods := [] }
    (loansMethod authLine query) 0
    (.mk "" (some (.get "/readers/\x7breader\x7d/\x7bshelf=**\x7d")) "" "" [])

/-- A binding with a variable, a rest and a query field names its parameters alike everywhere. -/
theorem parameters_of_loansBinding :
    ∃ b, loansBinding none "page" = .ok b ∧ b.NamesAgree (loansMethod none "page").input ∧
      b.route = "/readers/\x7breader\x7d/\x7b*shelf\x7d" ∧
      paramNames "path" b.doc = ["reader", "shelf"] ∧ paramNames "query" b.doc = ["page"] := by
  have hrun : ((loansBinding none "page").toOption.map fun b =>
      (b.authLine, b.route, b.pathParams.map (·.name), b.queryParams.map (·.name))) =
        some (none, "/readers/\x7breader\x7d/\x7b*shelf\x7d", ["reader", "shelf"], ["page"]) := by
    decide +kernel
  obtain ⟨b, hb, hparts⟩ := Option.map_eq_some_iff.mp hrun
  simp only [Prod.mk.injEq] at hparts
  obtain ⟨hauth, hroute, hpath, hquery⟩ := hparts
  have hb := toOption_eq_some_iff.mp hb
  obtain ⟨hagree, hlines⟩ := parameters_are_named_alike hb
  -- the name of the query field holds no blank, so its line can be read back
  have hblank : ∀ p ∈ b.queryParams, ' ' ∉ p.name.toList := by
    intro p hp
    have hname : p.name ∈ ["page"] := hquery ▸ List.mem_map_of_mem hp
    rw [List.mem_singleton.mp hname]
    decide
  obtain ⟨hpathLines, hqueryLines⟩ := hlines hblank
  rw [hauth, hpath] at hpathLines
  rw [hauth, hquery] at hqueryLines
  exact ⟨b, hb, hagree, hroute, hpathLines, hqueryLines⟩

/-- The line for authentication is free text, so it may name a parameter that is no field; and where
the name of a field has a blank, its line in the query can be read as one in the path. -/
theorem documented_parameters_can_differ :
    (¬ ∀ (settings : RouteSettings) (package : String) (service : Service) (method : Method)
      (index : Nat) (rule : HttpRule) (b : Binding),
      bindingOfRule settings package service method index rule = .ok b →
        paramNames "query" b.doc = b.queryParams.map (·.name)) ∧
    ¬ ∀ (settings : RouteSettings) (package : String) (service : Service) (method : Method)
      (index : Nat) (rule : HttpRule) (b : Binding),
      bindingOfRule settings package service method index rule = .ok b → b.authLine = none →
        paramNames "path" b.doc = b.pathParams.map (·.name) := by
  constructor
  · intro h
    -- an authentication line may itself be the line of a parameter
    have hrun : ((loansBinding (some "@Param token query string true \"token\"") "page").toOption.map
        fun b => (paramNames "query" b.doc, b.queryParams.map (·.name))) =
          some (["token", "page"], ["page"]) := by
      decide +kernel
    obtain ⟨b, hb, hparts⟩ := Option.map_eq_some_iff.mp hrun
    rw [Prod.mk.injEq] at hparts
    obtain ⟨hlines, hfields⟩ := hparts
    have hnames := h _ _ _ _ _ _ b (toOption_eq_some_iff.mp hb)
    rw [hlines, hfields] at hnames
    exact absurd hnames (by decide)
  · intro h
    -- a blank in a field's name moves the place where the line is divided
    have hrun : ((loansBinding none "page path").toOption.map
        fun b => (b.authLine, paramNames "path" b.doc, b.pathParams.map (·.name))) =
          some (none, ["reader", "shelf", "page"], ["reader", "shelf"]) := by
      decide +kernel
    obtain ⟨b, hb, hparts⟩ := Option.map_eq_some_iff.mp hrun
    simp only [Prod.mk.injEq] at hparts
    obtain ⟨hauth, hlines, hfields⟩ := hparts
    have hnames := h _ _ _ _ _ _ b (toOption_eq_some_iff.mp hb) hauth
    rw [hlines, hfields] at hnames
    exact absurd hnames (by decide)

end ProtoRest.Route
