import SchemaFilter.Command.Listing
import SchemaFilter.Filter.Report

/-!
# Writing piece by piece

A listing is not written at once.  It is made of texts that are written one after another, and each
of these reaches its sink in pieces, of which nothing is known but that they make up the text.
Nothing more is written once a piece does not fit.

* `Cutting` — how texts are cut into pieces;
* `Sink.deliverTexts` — writes texts piece by piece, as far as they fit;
* `Listing.verdictTexts`, `Listing.texts` — the texts that listings are made of.
-/

namespace SchemaFilter

/-! ### Pieces -/

/-- A way to cut texts into pieces.  Put together again, the pieces are the text. -/
structure Cutting where
  pieces : Bytes → List Bytes
  flatten_pieces : ∀ bytes, (pieces bytes).flatten = bytes

namespace Cutting

/-- Every text is one piece. -/
def whole : Cutting where
  pieces bytes := [bytes]
  flatten_pieces _ := List.flatten_singleton

/-- Every byte is a piece. -/
def single : Cutting where
  pieces bytes := bytes.map ([·])
  flatten_pieces bytes := by rw [← List.flatMap_def, List.flatMap_singleton']

/-- The pieces of texts, one text after another. -/
def piecesOf (cutting : Cutting) (texts : List String) : List Bytes :=
  texts.flatMap fun text => cutting.pieces (.ofString text)

end Cutting

namespace Sink

/-- Writes texts piece by piece.  What can go wrong is that a piece does not fit, or that what is
    written is not confirmed. -/
def deliverTexts (sink : Sink) (cutting : Cutting) (texts : List String) :
    Sink × Option String :=
  let (sink, complete) := sink.writeEach (cutting.piecesOf texts)
  (sink,
    if !complete then some closedText
    else if sink.flushFails then some flushFailedText
    else none)

end Sink

/-! ### Listings -/

namespace Listing

/-- The lines with the verdicts on some objects: for each object, a line for each verdict. -/
def verdictTexts (set : FilterSet) (arguments : List ObjectArgument) : List String :=
  (arguments.zip (set.verdictsAll (arguments.map (·.object)))).flatMap fun (argument, verdicts) =>
    verdicts.map fun verdict =>
      argument.label ++ "\t" ++ toString verdict.index ++ "\t" ++ verdict.rule.text ++ "\t" ++
        boolText verdict.applies ++ "\n"

/-- The texts of a listing: a text for each line, or a JSON document and the end of its line. -/
def texts (json : Bool) (set : FilterSet) (arguments : List ObjectArgument) : List String :=
  match arguments.isEmpty, json with
  | true, false => set.rules.map fun rule => rule.text ++ "\n"
  | true, true => [(Json.Value.array (set.rules.map Rule.json)).pretty, "\n"]
  | false, false => verdictTexts set arguments
  | false, true => [(Json.Value.array ((set.reports arguments).map ObjectReport.json)).pretty, "\n"]

end Listing

end SchemaFilter
