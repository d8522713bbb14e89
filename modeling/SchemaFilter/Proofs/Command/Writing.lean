import SchemaFilter.Command.Writing
import SchemaFilter.Proofs.Filter.Sink
import SchemaFilter.Proofs.Filter.Verdicts
import SchemaFilter.Proofs.Text.Utf8

/-!
# What is written piece by piece

Pieces are written as the bytes that they make up, and the texts of a listing as that listing.  So
it makes no difference how a listing is cut.

* `Cutting.flatten_piecesOf` — **pieces** of texts make up these texts;
* `Sink.deliverTexts_eq_deliver` — texts that are written piece by piece, or at once;
* `Listing.join_texts` — the texts of a listing make up the listing.
-/

namespace SchemaFilter

/-! ### Pieces -/

/-- Put together, the pieces of texts are these texts, one after another. -/
theorem Cutting.flatten_piecesOf (cutting : Cutting) (texts : List String) :
    (cutting.piecesOf texts).flatten = Bytes.ofString (String.join texts) := by
  induction texts with
  | nil => rfl
  | cons text texts ih =>
    rw [piecesOf, List.flatMap_cons, List.flatten_append, cutting.flatten_pieces, ← piecesOf, ih,
      String.join_cons, Bytes.ofString_append]

/-- To write texts piece by piece is to write them at once. -/
theorem Sink.deliverTexts_eq_deliver (sink : Sink) (cutting : Cutting) (texts : List String) :
    sink.deliverTexts cutting texts = sink.deliver (.ofString (String.join texts)) := by
  rw [deliverTexts, deliver, writeEach_eq_write, Cutting.flatten_piecesOf]

/-! ### Listings -/

namespace Listing

/-- The line of a report is made of its cells. -/
theorem toList_reportText (label : String) (report : VerdictReport) :
    (label ++ "\t" ++ toString report.index ++ "\t" ++ report.rule ++ "\t" ++
      boolText report.applies ++ "\n").toList = line (row (verdictCells label report)) := by
  simp [line, row, verdictCells, joinWith]

/-- The lines of reports, one after another. -/
theorem verdictLines_eq_join (reports : List ObjectReport) :
    verdictLines reports = (String.join <| reports.flatMap fun report =>
      report.verdicts.map fun verdict =>
        report.label ++ "\t" ++ toString verdict.index ++ "\t" ++ verdict.rule ++ "\t" ++
          boolText verdict.applies ++ "\n") := by
  rw [← String.toList_inj, String.toList_join, verdictLines, String.toList_ofList,
    List.flatMap_assoc]
  refine List.flatMap_congr fun report _ => ?_
  rw [List.flatMap_map, reportLines]
  exact List.flatMap_congr fun verdict _ => (toList_reportText report.label verdict).symm

/-- The verdicts on objects are written as the lines of their reports. -/
theorem join_verdictTexts (set : FilterSet) (arguments : List ObjectArgument) :
    String.join (verdictTexts set arguments) = verdictLines (set.reports arguments) := by
  have hzip : arguments.zip (set.verdictsAll (arguments.map (·.object))) =
      arguments.map fun argument => (argument, set.verdicts argument.object) := by
    rw [FilterSet.verdictsAll, List.map_map, ← List.map_prod_left_eq_zip]
    rfl
  rw [verdictLines_eq_join, verdictTexts, hzip, FilterSet.reports_eq_map, List.flatMap_map,
    List.flatMap_map]
  simp only [ObjectReport.ofVerdicts, List.map_map]
  rfl

theorem join_singleton (text : String) : String.join [text] = text := by
  rw [String.join_cons, String.join_nil, String.append_empty]

theorem join_document (value : Json.Value) :
    String.join [value.pretty, "\n"] = document value := by
  rw [← String.toList_inj, String.toList_join, document, String.toList_ofList]
  simp [line]

theorem join_ruleTexts (set : FilterSet) :
    String.join (set.rules.map fun rule => rule.text ++ "\n") = ruleLines set := by
  rw [← String.toList_inj, String.toList_join, ruleLines, String.toList_ofList,
    List.flatMap_map]
  refine List.flatMap_congr fun rule _ => ?_
  simp [line, Rule.text]

/-- A listing is made of its texts. -/
theorem join_texts (json : Bool) (set : FilterSet) (arguments : List ObjectArgument) :
    String.join (texts json set arguments) = text json set arguments := by
  cases hobjects : arguments.isEmpty <;> cases json <;> simp only [texts, text, hobjects]
  · exact join_verdictTexts set arguments
  · exact join_document _
  · exact join_ruleTexts set
  · exact join_document _

end Listing

end SchemaFilter
