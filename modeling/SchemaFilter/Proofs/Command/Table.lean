import SchemaFilter.Proofs.Command.ObjectArgument
import SchemaFilter.Proofs.Command.Relisting
import SchemaFilter.Proofs.Filter.Verdicts

/-!
# Verdicts as a table

Verdicts are written as a table: a line for each object and each rule, the rules of an object one
after another, and on each line four cells with tabs between them.  Labels and rules are written as
they are, so a tab or a line end in one of them breaks the line that it stands on.

* `Listing.IsCell` — a text without tabs and line ends;
* `Listing.splitOn_row`, `Listing.splitOn_lines` — the cells of a line, and the lines of a text;
* `Listing.Tabulates` — a text that is the table of a set and some objects;
* `run_table` — **the table** is written exactly if labels and rules can stand in cells.
-/

namespace SchemaFilter

/-! ### Parts of one length -/

/-- Where a list is made of parts of one length, the members of a part stand one after another
    behind those of the parts before it. -/
theorem getElem?_flatMap_of_length {α β : Type} {f : α → List β} {n : Nat}
    (hlength : ∀ a, (f a).length = n) {as : List α} {j : Nat} {a : α} (ha : as[j]? = some a)
    {i : Nat} (hi : i < n) : (as.flatMap f)[j * n + i]? = (f a)[i]? := by
  induction as generalizing j with
  | nil => exact absurd ha (by simp)
  | cons b as ih =>
    rw [List.flatMap_cons]
    cases j with
    | zero =>
      obtain rfl : b = a := by simpa using ha
      rw [Nat.zero_mul, Nat.zero_add, List.getElem?_append_left (by rw [hlength]; exact hi)]
    | succ j =>
      have hbehind : (j + 1) * n + i = (f b).length + (j * n + i) := by
        rw [hlength, Nat.succ_mul]
        omega
      have hj : as[j]? = some a := by simpa using ha
      rw [hbehind, List.getElem?_append_right (Nat.le_add_right _ _), Nat.add_sub_cancel_left,
        ih hj]

namespace Listing

/-! ### Cells -/

/-- A text can stand in a cell if it has no tab and no line end. -/
def IsCell (text : String) : Prop :=
  '\t' ∉ text.toList ∧ '\n' ∉ text.toList

instance : DecidablePred IsCell :=
  fun _ => inferInstanceAs (Decidable (_ ∧ _))

/-- A number can stand in a cell. -/
theorem isCell_toString (n : Nat) : IsCell (toString n) := by
  have hdigit : ∀ c ∈ (toString n).toList, c.isDigit = true := by
    intro c hc
    rw [show (toString n).toList = Nat.toDigits 10 n by simp] at hc
    exact Nat.isDigit_of_mem_toDigits (by decide) (by decide) hc
  exact ⟨fun h => absurd (hdigit _ h) (by decide), fun h => absurd (hdigit _ h) (by decide)⟩

theorem isCell_boolText (b : Bool) : IsCell (boolText b) := by
  cases b <;> exact ⟨by decide, by decide⟩

/-! ### Lines -/

variable {cells : List String}

/-- Cells without tabs are found again on their line. -/
theorem splitOn_row (hne : cells ≠ []) (h : ∀ cell ∈ cells, '\t' ∉ cell.toList) :
    (row cells).splitOn '\t' = cells.map String.toList := by
  rw [row, joinWith_eq_intercalate]
  exact List.splitOn_intercalate '\t' (List.forall_mem_map.mpr h) (by simpa using hne)

/-- Cells without line ends can stand on a line. -/
theorem newline_notMem_row (h : ∀ cell ∈ cells, '\n' ∉ cell.toList) : '\n' ∉ row cells := by
  cases cells with
  | nil => exact List.not_mem_nil
  | cons cell cells =>
    obtain ⟨hcell, hcells⟩ := List.forall_mem_cons.mp h
    rw [row, List.map_cons, joinWith_cons]
    simpa [hcell] using hcells

/-- Lines without line ends in them are found again in their text, and nothing stands behind the
    last one. -/
theorem splitOn_lines {lines : List (List Char)} (h : ∀ text ∈ lines, '\n' ∉ text) :
    (lines.flatMap line).splitOn '\n' = lines ++ [[]] := by
  induction lines with
  | nil => rfl
  | cons text lines ih =>
    obtain ⟨htext, hlines⟩ := List.forall_mem_cons.mp h
    rw [List.flatMap_cons, line, List.append_assoc, List.singleton_append,
      List.splitOn_append_cons_self_of_not_mem htext, ih hlines, List.cons_append]

/-! ### Tables -/

/-- The cells on the line of an object and a rule: the text that the object is written as, the place
    of the rule, its canonical text, and whether it applies. -/
def cellsOf (argument : ObjectArgument) (i : Nat) (filter : Filter) : List String :=
  [argument.label, toString i, filter.rule.text, boolText (filter.applies argument.object)]

/-- All but the label and the rule can stand in cells anyway. -/
theorem forall_isCell_cellsOf_iff {argument : ObjectArgument} {i : Nat} {filter : Filter} :
    (∀ cell ∈ cellsOf argument i filter, IsCell cell) ↔
      IsCell argument.label ∧ IsCell filter.rule.text := by
  simp only [cellsOf, List.forall_mem_cons]
  constructor
  · rintro ⟨hlabel, -, htext, -⟩
    exact ⟨hlabel, htext⟩
  · rintro ⟨hlabel, htext⟩
    exact ⟨hlabel, isCell_toString i, htext, isCell_boolText _, List.forall_mem_nil _⟩

/-- The text is a table.  It has as many lines as there are objects and rules, and the line of each
    object and each rule, which stands in its place, has its cells with tabs between them. -/
def Tabulates (set : FilterSet) (arguments : List ObjectArgument) (text : String) : Prop :=
  ∃ lines : List (List Char), text.toList.splitOn '\n' = lines ++ [[]] ∧
    lines.length = set.size * arguments.length ∧
    ∀ j argument, arguments[j]? = some argument → ∀ i filter, set.filters[i]? = some filter →
      ∃ chars, lines[j * set.size + i]? = some chars ∧
        chars.splitOn '\t' = (cellsOf argument i filter).map String.toList

variable {set : FilterSet} {arguments : List ObjectArgument}

/-- The lines of an object, one for each rule. -/
def rowsOf (set : FilterSet) (argument : ObjectArgument) : List (List Char) :=
  set.filters.mapIdx fun i filter => row (cellsOf argument i filter)

theorem length_rowsOf (set : FilterSet) (argument : ObjectArgument) :
    (rowsOf set argument).length = set.size :=
  List.length_mapIdx

/-- The verdicts on objects are written as the lines of these objects. -/
theorem toList_verdictLines (set : FilterSet) (arguments : List ObjectArgument) :
    (verdictLines (set.reports arguments)).toList =
      (arguments.flatMap (rowsOf set)).flatMap line := by
  rw [verdictLines, String.toList_ofList, FilterSet.reports_eq_map, List.flatMap_map,
    List.flatMap_assoc]
  refine List.flatMap_congr fun argument _ => ?_
  rw [reportLines, ObjectReport.ofVerdicts, FilterSet.verdicts_eq_mapIdx, List.flatMap_map, rowsOf]
  simp only [List.mapIdx_eq_zipIdx_map, List.flatMap_map]
  rfl

/-- What can stand in cells is written as a table. -/
theorem tabulates_verdictLines
    (h : ∀ argument ∈ arguments, ∀ rule ∈ set.rules, IsCell argument.label ∧ IsCell rule.text) :
    Tabulates set arguments (verdictLines (set.reports arguments)) := by
  have hcells : ∀ argument ∈ arguments, ∀ i filter, set.filters[i]? = some filter →
      ∀ cell ∈ cellsOf argument i filter, IsCell cell := by
    intro argument hargument i filter hfilter
    have hrule : filter.rule ∈ set.rules := List.mem_map_of_mem (List.mem_of_getElem? hfilter)
    exact forall_isCell_cellsOf_iff.mpr (h argument hargument filter.rule hrule)
  refine ⟨arguments.flatMap (rowsOf set), ?_, ?_, ?_⟩
  · rw [toList_verdictLines]
    refine splitOn_lines fun text htext => ?_
    obtain ⟨argument, hargument, hrow⟩ := List.mem_flatMap.mp htext
    obtain ⟨i, hi, rfl⟩ := List.mem_mapIdx.mp hrow
    exact newline_notMem_row fun cell hcell =>
      (hcells argument hargument i _ (List.getElem?_eq_getElem hi) cell hcell).2
  · simp [List.length_flatMap, length_rowsOf, Nat.mul_comm]
  · intro j argument hj i filter hi
    have hplace : i < set.size := (List.getElem?_eq_some_iff.mp hi).1
    refine ⟨row (cellsOf argument i filter), ?_, ?_⟩
    · rw [getElem?_flatMap_of_length (length_rowsOf set) hj hplace, rowsOf, List.getElem?_mapIdx,
        hi]
      rfl
    · exact splitOn_row (by simp [cellsOf]) fun cell hcell =>
        (hcells argument (List.mem_of_getElem? hj) i filter hi cell hcell).1

/-- In a table, labels and rules stand in cells. -/
theorem Tabulates.isCell {text : String} (h : Tabulates set arguments text) :
    ∀ argument ∈ arguments, ∀ rule ∈ set.rules, IsCell argument.label ∧ IsCell rule.text := by
  obtain ⟨lines, hlines, -, hcells⟩ := h
  intro argument hargument rule hrule
  obtain ⟨filter, hfilter, rfl⟩ := List.mem_map.mp hrule
  obtain ⟨j, hj⟩ := List.mem_iff_getElem?.mp hargument
  obtain ⟨i, hi⟩ := List.mem_iff_getElem?.mp hfilter
  obtain ⟨chars, hchars, hsplit⟩ := hcells j argument hj i filter hi
  have hline : chars ∈ text.toList.splitOn '\n' := by
    rw [hlines]
    exact List.mem_append_left _ (List.mem_of_getElem? hchars)
  have hnewline : '\n' ∉ chars := not_mem_of_mem_splitOn hline
  have hcell : ∀ cell ∈ cellsOf argument i filter, IsCell cell := by
    intro cell hcell
    have hpiece : cell.toList ∈ chars.splitOn '\t' := hsplit ▸ List.mem_map_of_mem hcell
    exact ⟨not_mem_of_mem_splitOn hpiece, fun h => hnewline (mem_of_mem_splitOn hpiece h)⟩
  exact forall_isCell_cellsOf_iff.mp hcell

end Listing

namespace Command

/-! ### The run -/

variable {a : Arguments} {inputs : Inputs}

/-- Objects are labelled with the arguments that they are read from. -/
theorem Arguments.ReadsObjects.map_label {objects : List ObjectArgument}
    (h : a.ReadsObjects objects) : objects.map (·.label) = a.objects.map Bytes.toText :=
  ObjectArgument.map_label_eq (List.forall₂_map_left_iff.mpr h)

/-- A run that succeeds writes the whole listing. -/
theorem run_lists {args : List Bytes} {output : Sink}
    (haccepted : Arguments.ofArgs args.tail = .ok a) (hhelp : a.help = false)
    (hversion : a.version = false) (hsuccess : (run args inputs output).status = 0) :
    ∃ text, a.Lists inputs text ∧
      (run args inputs output).output.written = output.written ++ .ofString text := by
  have hrun := run_eq_deliver_listing inputs output haccepted hhelp hversion
  rw [hrun] at hsuccess ⊢
  obtain ⟨text, hvalue, hconfirmed⟩ := status_deliver_eq_success_iff.mp hsuccess
  have hmeets := listing_meets a inputs
  rw [Work.Meets, hvalue] at hmeets
  exact ⟨text, hmeets.1.2, (deliver_of_confirmed hvalue hconfirmed).1⟩

/-- **The table.**  Where the command succeeds in telling of objects, and not in JSON, what it
    writes is the table of its rules and objects exactly if every label and every rule can stand in
    a cell.  Labels are the arguments as they were given; so neither they nor the rules are kept
    from having tabs and line ends. -/
theorem run_table {args : List Bytes} {output : Sink}
    (haccepted : Arguments.ofArgs args.tail = .ok a) (hhelp : a.help = false)
    (hversion : a.version = false) (hobjects : a.objects ≠ []) (hjson : a.json = false)
    (hsuccess : (run args inputs output).status = 0) :
    ∃ (set : FilterSet) (objects : List ObjectArgument) (text : String),
      a.ReadsRules inputs set.rules ∧ a.ReadsObjects objects ∧
      objects.map (·.label) = a.objects.map Bytes.toText ∧
      (run args inputs output).output.written = output.written ++ .ofString text ∧
      (Listing.Tabulates set objects text ↔ ∀ object ∈ objects, ∀ rule ∈ set.rules,
        Listing.IsCell object.label ∧ Listing.IsCell rule.text) := by
  obtain ⟨text, ⟨set, objects, hrules, hread, htext⟩, hwritten⟩ :=
    run_lists haccepted hhelp hversion hsuccess
  rw [if_neg hobjects, hjson, if_neg Bool.false_ne_true] at htext
  refine ⟨set, objects, text, hrules, hread, hread.map_label, hwritten, fun h => h.isCell, ?_⟩
  intro hcells
  rw [htext]
  exact Listing.tabulates_verdictLines hcells

/-- Two rules and two objects, of which one has blanks around its text. -/
theorem run_table_of_cells :
    let inputs : Inputs := { file := fun _ => .error .notFound, standardInput := .ok [] }
    let args := ["schema-filter", "-f", "KeepName(x)", "-fIgnoreType(Table)", " Table:a.b ",
      "View:c"].map Bytes.ofString
    ∃ set objects text, set.size = 2 ∧ objects.length = 2 ∧
      (run args inputs {}).output.written = .ofString text ∧
      Listing.Tabulates set objects text := by
  intro inputs args
  have haccepted : Arguments.ofArgs args.tail = .ok
      { rules := ["KeepName(x)", "IgnoreType(Table)"].map Bytes.ofString
        objects := [" Table:a.b ", "View:c"].map Bytes.ofString } := rfl
  have hsuccess : (run args inputs {}).status = 0 := by decide
  obtain ⟨set, objects, text, hrules, hread, hlabels, hwritten, htable⟩ :=
    run_table haccepted rfl rfl (by decide) rfl hsuccess
  have hset : set.rules = [.keep .name "x", .ignore .objectType "Table"] :=
    Except.ok.inj ((mapM_eq_ok_iff.mpr hrules).symm.trans (by decide))
  have hsize : set.size = 2 := FilterSet.size_of_ofRules (FilterSet.ofRules_eq_ok_iff.mpr hset)
  have hlabel : ∀ label ∈ objects.map (·.label), Listing.IsCell label := by
    rw [hlabels]
    decide
  have hrule : ∀ rule ∈ set.rules, Listing.IsCell rule.text := by
    rw [hset]
    decide
  refine ⟨set, objects, text, hsize, hread.length_eq.symm, hwritten, htable.mpr ?_⟩
  exact fun object hobject rule h => ⟨hlabel _ (List.mem_map_of_mem hobject), hrule rule h⟩

/-- A line end in the label of an object ends the line before its cells are complete, so that the
    one verdict on it takes two lines. -/
theorem run_breaks_line :
    let inputs : Inputs := { file := fun _ => .error .notFound, standardInput := .ok [] }
    let args := ["schema-filter", "-f", "KeepName(x)", "Table:a\nb"].map Bytes.ofString
    let text := "Table:a\nb\t0\tKeepName(x)\tfalse\n"
    (run args inputs {}).status = 0 ∧ (run args inputs {}).output.written = .ofString text ∧
      ∃ set object, FilterSet.ofRules [.keep .name "x"] = .ok set ∧
        ObjectArgument.parse "Table:a\nb" = .ok object ∧
        ¬ Listing.Tabulates set [object] text := by
  intro inputs args text
  have hset : ∃ set, FilterSet.ofRules [.keep .name "x"] = .ok set := ⟨_, rfl⟩
  have hobject : ∃ object, ObjectArgument.parse "Table:a\nb" = .ok object := ⟨_, rfl⟩
  obtain ⟨set, hset⟩ := hset
  obtain ⟨object, hobject⟩ := hobject
  refine ⟨by decide, by decide, set, object, hset, hobject, ?_⟩
  rintro ⟨lines, hlines, hlength, -⟩
  have hone : lines.length = 1 := by rw [hlength, FilterSet.size_of_ofRules hset]; rfl
  have htwo : (text.toList.splitOn '\n').length = 3 := by decide
  rw [hlines, List.length_append, hone] at htwo
  exact absurd htwo (by decide)

end Command

end SchemaFilter
