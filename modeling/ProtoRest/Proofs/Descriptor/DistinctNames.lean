import Mathlib.Data.List.Nodup
import ProtoRest.Proofs.Descriptor.BuildSteps

/-! # Distinct names
Only packages are defined more than once. All other definitions of a file have different names
(`nodup_ownNames`), and so have the fields of a message (`nodup_fieldNames`). -/

namespace ProtoRest.Descriptor

open Result

/-- The name that a finding takes for itself: that of any definition but a package. -/
def Finding.ownName? : Finding → Option String
  | .defines d => if d.role = .package then none else some d.name
  | .wrong _ => none

/-! ## Definitions -/

/-- A definition comes to those before it. Unless it is one of a package, none of them has its
name. -/
theorem define_eq_ok {defs more : List Definition} {d : Definition}
    (h : define defs d = .ok more) :
    defs ⊆ more ∧ (d.role ≠ .package → d ∈ more ∧ ∀ e ∈ defs, e.name ≠ d.name) := by
  rw [define] at h
  split at h
  · rename_i hnone
    obtain rfl := Except.ok.inj h
    refine ⟨List.subset_append_left _ _, fun _ => ⟨by simp, fun e he => ?_⟩⟩
    simpa using List.find?_eq_none.mp hnone e he
  · split_ifs at h with hpackages
    obtain rfl := Except.ok.inj h
    exact ⟨List.Subset.refl _, fun hrole => absurd hpackages.2 hrole⟩

/-- What is found takes different names, and none that was taken before. -/
theorem nodup_of_addFindings {findings : List Finding} {defs more : List Definition}
    (h : findings.foldlM addFinding defs = .ok more) :
    (findings.filterMap Finding.ownName?).Nodup ∧
      ∀ name ∈ findings.filterMap Finding.ownName?, ∀ d ∈ defs, d.name ≠ name := by
  induction findings generalizing defs with
  | nil => simp
  | cons finding findings ih =>
    rw [List.foldlM_cons] at h
    obtain ⟨next, hnext, h⟩ := bind_eq_ok_iff.mp h
    obtain ⟨hnodup, hfresh⟩ := ih h
    cases finding with
    | wrong fault => cases hnext
    | defines d =>
      obtain ⟨hsubset, hown⟩ := define_eq_ok hnext
      -- what was defined before is still defined, so later names differ from it as well
      have hrest : ∀ name ∈ findings.filterMap Finding.ownName?, ∀ e ∈ defs, e.name ≠ name :=
        fun name hname e he => hfresh name hname e (hsubset he)
      -- a package may be defined again and has no name of its own
      by_cases hrole : d.role = .package
      · rw [List.filterMap_cons_none (by simp [Finding.ownName?, hrole])]
        exact ⟨hnodup, hrest⟩
      · obtain ⟨hmem, hbefore⟩ := hown hrole
        rw [List.filterMap_cons_some (b := d.name) (by simp [Finding.ownName?, hrole]),
          List.nodup_cons, List.forall_mem_cons]
        exact ⟨⟨fun hagain => hfresh d.name hagain d hmem rfl, hnodup⟩, hbefore, hrest⟩

/-- The definitions of a file have different names, but for those of packages. -/
theorem nodup_ownNames {files : List (FileDecl × Edition)} {defs : List Definition}
    (h : definitionsOf files = .ok defs) :
    ∀ f ∈ files, ((f.1.findings f.2).filterMap Finding.ownName?).Nodup := by
  -- the files before and their definitions grow along the list
  have hfrom (names : List String) (before : List Definition) (fs : List (FileDecl × Edition))
      (h : definitionsFrom names before fs = .ok defs) :
      ∀ f ∈ fs, ((f.1.findings f.2).filterMap Finding.ownName?).Nodup := by
    induction fs generalizing names before with
    | nil => simp
    | cons f fs ih =>
      obtain ⟨-, next, hnext, h⟩ := definitionsFrom_cons_eq_ok h
      exact List.forall_mem_cons.mpr ⟨(nodup_of_addFindings hnext).1, ih _ _ h⟩
  exact hfrom _ _ _ h

/-- No two files have one name. -/
theorem nodup_fileNames {files : List (FileDecl × Edition)} {defs : List Definition}
    (h : definitionsOf files = .ok defs) : (files.map (·.1.name)).Nodup := by
  -- the names of the files before grow along the list, and no file has one of them
  have hfrom (names : List String) (before : List Definition) (fs : List (FileDecl × Edition))
      (h : definitionsFrom names before fs = .ok defs) :
      (fs.map (·.1.name)).Nodup ∧ ∀ f ∈ fs, f.1.name ∉ names := by
    induction fs generalizing names before with
    | nil => simp
    | cons f fs ih =>
      obtain ⟨hseen, next, -, h⟩ := definitionsFrom_cons_eq_ok h
      obtain ⟨hnodup, hfresh⟩ := ih _ _ h
      rw [List.map_cons, List.nodup_cons, List.forall_mem_cons]
      refine ⟨⟨fun hmem => ?_, hnodup⟩, hseen, fun g hg hname => ?_⟩
      · obtain ⟨g, hg, hname⟩ := List.mem_map.mp hmem
        exact hfresh g hg (hname ▸ List.mem_cons_self)
      · exact hfresh g hg (List.mem_cons_of_mem _ hname)
  exact (hfrom _ _ _ h).1

/-! ## Fields -/

/-- The findings of several definitions in a scope name them in order. -/
theorem ownNames_defines {α : Type} {role : Role} (hrole : role ≠ .package) (s : Source)
    (scope : String) (as : List α) (name : α → String) :
    (as.map fun a => s.defines scope (name a) role).filterMap Finding.ownName? =
      as.map fun a => inScope scope (name a) := by
  have hown (a : α) : (s.defines scope (name a) role).ownName? = some (inScope scope (name a)) :=
    if_neg hrole
  rw [List.filterMap_map, ← List.filterMap_eq_map]
  exact List.filterMap_congr fun a _ => hown a

section Fields

variable {s : Source}

mutual

/-- The names of the fields of a message are among those that a file takes for itself. -/
theorem fieldNames_sublist_message : ∀ {m : MessageDecl} {scope : String},
    ∀ head ∈ m.headsIn scope, (head.2.fields.map fun f => inScope head.1 f.name).Sublist
      ((m.findings s scope).filterMap Finding.ownName?)
  | .mk head nested, scope, inner, hinner => by
    rw [MessageDecl.headsIn, List.mem_cons] at hinner
    rw [MessageDecl.findings]
    obtain rfl | hinner := hinner
    · have hrole : Role.field ≠ .package := by decide
      dsimp only
      rw [← ownNames_defines hrole s (inScope scope head.name) head.fields FieldDecl.name]
      refine (List.Sublist.cons _ ?_).filterMap _
      -- the fields come after what is wrong with their names and after the choices
      refine .trans ?_ (List.sublist_append_left _ _)
      refine .trans ?_ (List.sublist_append_left _ _)
      exact .trans (List.sublist_append_right _ _) (List.sublist_append_left _ _)
    · refine (fieldNames_sublist_messages inner hinner).trans ?_
      refine (List.Sublist.cons _ ?_).filterMap _
      refine .trans ?_ (List.sublist_append_left _ _)
      exact .trans (List.sublist_append_right _ _) (List.sublist_append_left _ _)

/-- The fields of every message are among the names that its file defines, in order. -/
theorem fieldNames_sublist_messages : ∀ {ms : List MessageDecl} {scope : String},
    ∀ head ∈ headsInAll scope ms, (head.2.fields.map fun f => inScope head.1 f.name).Sublist
      ((nestedFindings s scope ms).filterMap Finding.ownName?)
  | [], scope, head, hhead => by
    rw [headsInAll] at hhead
    cases hhead
  | m :: ms, scope, head, hhead => by
    rw [headsInAll, List.mem_append] at hhead
    rw [nestedFindings, List.filterMap_append]
    obtain hhead | hhead := hhead
    · exact (fieldNames_sublist_message head hhead).trans (List.sublist_append_left _ _)
    · exact (fieldNames_sublist_messages head hhead).trans (List.sublist_append_right _ _)

end

end Fields

/-- The fields of a declared message have different names. -/
theorem nodup_fieldNames {files : List (FileDecl × Edition)} {defs : List Definition}
    (h : definitionsOf files = .ok defs) {f : FileDecl × Edition} (hf : f ∈ files)
    {m : String × MessageHead} (hm : m ∈ headsInAll f.1.package f.1.messages) :
    (m.2.fields.map (·.name)).Nodup := by
  have hfile := nodup_ownNames h f hf
  -- the findings in messages are one part of those of the file
  have hmessages : (nestedFindings ⟨f.1.name, f.2⟩ f.1.package f.1.messages).Sublist
      (f.1.findings f.2) := by
    rw [FileDecl.findings]
    refine .trans ?_ (List.sublist_append_left _ _)
    refine .trans ?_ (List.sublist_append_left _ _)
    exact .trans (List.sublist_append_right _ _) (List.sublist_append_left _ _)
  have hnames := (fieldNames_sublist_messages m hm).trans (hmessages.filterMap Finding.ownName?)
  have hnodup : ((m.2.fields.map (·.name)).map (inScope m.1)).Nodup := by
    rw [List.map_map]
    exact hfile.sublist hnames
  exact hnodup.of_map

end ProtoRest.Descriptor
