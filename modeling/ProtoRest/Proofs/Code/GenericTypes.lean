import ProtoRest.Proofs.Code.TypeArguments

/-! # Types with arguments
A path from the root with arguments after its last step is a type exactly when the arguments can be
read (`isType_generic`, `noType_generic`). -/

namespace ProtoRest.Code

open ProtoRest.Text ProtoRest.Schema Read Readers

variable {left : Option Char} {ts us rest : List Token} {ws : List String} {w : String}
  {inner : Readers} {joint' : Bool}

/-! ## Reading -/

/-- A path with arguments behind its last step is read as a generic type. -/
theorem reads_readTy_generic (joint : Bool) {args : List Arg} (h : StepsThen [.word w] ws ts)
    (hws : ∀ v ∈ ws, isStepWord v = true) (hw : w ∉ reservedWords) (hstart : NoEqual us)
    (hargs : Reads left inner.angleArgs (.mark '<' joint' :: us) args rest) (hrest : Stops rest) :
    Reads left (inner.readTy true) (.mark ':' true :: .mark ':' joint :: (ts ++ .mark '<' joint' :: us))
      (.path (.generic true ws w args)) rest := by
  have hlast : Reads left (inner.segment false) ([.word w] ++ .mark '<' joint' :: us)
      (.angle w args) rest :=
    (segment_angle hw hstart).trans (Reads.bind hargs rfl)
  have hpath : Reads left (inner.path false)
      (.mark ':' true :: .mark ':' joint :: (ts ++ .mark '<' joint' :: us))
      (.generic true ws w args) rest :=
    reads_path (reads_markIf rfl) (h.append _) ⟨rfl, fun _ => rfl⟩ hws hlast hrest (by simp)
  exact readTy_of_root.trans (reads_namedTy rfl hpath hrest)

/-- A path with refused arguments behind its last step is refused. -/
theorem rejects_readTy_generic (joint : Bool) (h : StepsThen [.word w] ws ts)
    (hws : ∀ v ∈ ws, isStepWord v = true) (hw : w ∉ reservedWords) (hstart : NoEqual us)
    (hargs : Rejects left inner.angleArgs (.mark '<' joint' :: us)) :
    Rejects left (inner.readTy true)
      (.mark ':' true :: .mark ':' joint :: (ts ++ .mark '<' joint' :: us)) := by
  have hlast : Rejects left (inner.segment false) ([.word w] ++ .mark '<' joint' :: us) :=
    (Rejects.first hargs).of_eq (segment_angle hw hstart)
  have hpath : Rejects left (inner.path false)
      (.mark ':' true :: .mark ':' joint :: (ts ++ .mark '<' joint' :: us)) :=
    rejects_path (reads_markIf rfl) (h.append _) ⟨rfl, fun _ => rfl⟩ hws hlast
  exact (rejects_namedTy rfl hpath).of_eq readTy_of_root

/-! ## Texts -/

section Texts

variable {before : List (List Char)} {last text : List Char} {depth : Nat}

/-- The tokens up to the opening angle bracket. -/
theorem lexes_generic (hnames : AreNames (before ++ [last]))
    (hsteps : ∀ s ∈ before ++ [last], isStep s = true) (cs : List Char) :
    ∃ joint joint' ts, Lexes (afterFirst (before ++ [last]) ('<' :: cs))
        (.mark ':' true :: .mark ':' joint :: (ts ++ [.mark '<' joint'])) cs ∧
      StepsThen [.word (String.ofList last)] (before.map String.ofList) ts := by
  have hborder : AtBorder ('<' :: cs) := fun c hc => by
    obtain rfl := Option.some.inj hc
    rfl
  obtain ⟨joint, ws, v, ts, hlex, hthen, hwords⟩ := lexes_afterFirst hnames hsteps (by simp) hborder
  rw [List.map_append] at hwords
  obtain ⟨rfl, hlast⟩ := List.append_inj' hwords rfl
  obtain rfl := (List.cons.inj hlast).1
  exact ⟨joint, _, ts, hlex.trans (Lexes.mark rfl cs), hthen⟩

/-- The text of a path with arguments writes a generic type. -/
theorem isType_generic (hnames : AreNames (before ++ [last]))
    (hsteps : ∀ s ∈ before ++ [last], isStep s = true) (hlast : String.ofList last ∉ reservedWords)
    {args : List Arg} (hargs : IsArgs depth text args) :
    IsType (depth + 1) (afterFirst (before ++ [last]) ('<' :: text ++ ['>']))
      (.path (.generic true (before.map String.ofList) (String.ofList last) args)) := by
  -- the tokens are those of the steps, the opening mark, those of the arguments and the closing
  -- one
  intro cs hcs
  obtain ⟨joint', us, hlex', hread⟩ := hargs cs
  obtain ⟨joint, joint'', ts, hlex, hthen⟩ := lexes_generic hnames hsteps (text ++ '>' :: cs)
  refine ⟨.mark ':' true, .mark ':' joint :: (ts ++ .mark '<' joint'' :: (us ++ [.mark '>' joint'])),
    ?_, rfl, fun n hn left rest hrest => ?_⟩
  · have hall := hlex.trans hlex'
    rw [afterFirst_append]
    simpa using hall
  · -- one level of depth is spent on the brackets, and the others are left for the arguments
    obtain ⟨n, rfl⟩ := Nat.exists_eq_add_of_le' hn
    have hword : ∀ v ∈ before.map String.ofList, isStepWord v = true := fun v hv =>
      isStepWord_of_mem_map (fun s hs => hsteps s (List.mem_append_left _ hs)) hv
    obtain ⟨hstart, hmain⟩ := hread (n + depth) (Nat.le_add_left _ _) left rest
      ((us ++ .mark '>' joint' :: rest).length + 1) (by rw [List.length_append]; omega)
    have htype : Reads left ((readers (n + (depth + 1))).ty true) _ _ rest :=
      reads_readTy_generic joint hthen hword hlast hstart
        (reads_angleArgs joint'' hmain) hrest
    simpa using htype

/-- The text of a path with what are no arguments writes no type. -/
theorem noType_generic (hnames : AreNames (before ++ [last]))
    (hsteps : ∀ s ∈ before ++ [last], isStep s = true) (hlast : String.ofList last ∉ reservedWords)
    (hargs : NoArgs depth text) :
    NoType (depth + 1) (afterFirst (before ++ [last]) ('<' :: text ++ ['>'])) := by
  intro cs hcs
  -- reading stops among the arguments, so what closes them is never reached
  obtain ⟨p, us, more, hlex', hmore, hread⟩ := hargs ('>' :: cs) (by simp [AtStop])
  obtain ⟨joint, joint'', ts, hlex, hthen⟩ := lexes_generic hnames hsteps (text ++ '>' :: cs)
  refine ⟨p, .mark ':' true :: .mark ':' joint :: (ts ++ .mark '<' joint'' :: us), more, ?_, hmore,
    fun n hn left tail htail => ?_⟩
  · have hall := hlex.trans hlex'
    rw [afterFirst_append]
    simpa using hall
  · obtain ⟨n, rfl⟩ := Nat.exists_eq_add_of_le' hn
    have hword : ∀ v ∈ before.map String.ofList, isStepWord v = true := fun v hv =>
      isStepWord_of_mem_map (fun s hs => hsteps s (List.mem_append_left _ hs)) hv
    obtain ⟨hstart, hmain⟩ := hread (n + depth) (Nat.le_add_left _ _) left
      ((us ++ tail).length + 1) tail htail
    have htype : Rejects left ((readers (n + (depth + 1))).ty true) _ :=
      rejects_readTy_generic joint hthen hword hlast hstart
        (rejects_angleArgs joint'' hmain)
    simpa using htype

end Texts

end ProtoRest.Code
