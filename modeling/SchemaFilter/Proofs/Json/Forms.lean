import SchemaFilter.Command.Listing
import SchemaFilter.Proofs.Json.Decode

/-!
# Rules and objects survive as JSON

Nothing is lost when a rule or a schema object is written as JSON, whatever characters its texts
hold, and in either layout.

* `Rule.inverts_json`, `SchemaObject.inverts_json` — rules and objects are read from their JSON;
* `readDocument_of_inverts`, `readDocument_document` — whole documents;
* `json_round_trip` — **the round trip**.
-/

namespace SchemaFilter

open Json

/-! ### The closed parts of rules -/

theorem Operation.inverts_readJson (operation : Operation) :
    Inverts Operation.readJson (.string operation.keyword) operation :=
  inverts_readVariant (by cases operation <;> decide)

theorem Subject.inverts_readJson (subject : Subject) :
    Inverts Subject.readJson (.string subject.keyword) subject :=
  inverts_readVariant (by cases subject <;> decide)

theorem Polarity.inverts_readJson (polarity : Polarity) :
    Inverts Polarity.readJson (.string polarity.keyword) polarity :=
  inverts_readVariant (by cases polarity <;> decide)

/-! ### Records -/

/-- A field is read into what has been read of its record. -/
theorem inverts_recordField {σ α : Type} {name : String} {get : σ → Option α} {set : σ → α → σ}
    {read : Read α} {value : Value} {a : α} (h : Inverts read value a) (s : σ) :
    Inverts ((recordField name get set read).read s) value (set s a) := by
  intro text htext gap rest hgap hends
  show (read (gap ++ (text ++ rest))).map _ = _
  rw [h text htext gap rest hgap hends]
  rfl

/-- What has been read of a rule when all of it has. -/
def Rule.Draft.complete (rule : Rule) : Draft where
  operation := some rule.operation
  subject := some rule.subject
  polarity := some rule.polarity
  pattern := some rule.pattern
  options := some rule.options

/-- A rule is read from its JSON. -/
theorem Rule.inverts_json (rule : Rule) : Inverts recordType.readRecord rule.json rule := by
  have hoperation := rule.operation.inverts_readJson
  have hsubject := rule.subject.inverts_readJson
  have hpolarity := rule.polarity.inverts_readJson
  have hpattern := inverts_readString rule.pattern
  have hoptions := inverts_readList_map inverts_readString rule.options
  refine RecordType.inverts_readRecord (s := Draft.complete rule) ?_ rfl
  refine .cons rfl rfl (inverts_recordField hoperation _) ?_
  refine .cons rfl rfl (inverts_recordField hsubject _) ?_
  refine .cons rfl rfl (inverts_recordField hpolarity _) ?_
  refine .cons rfl rfl (inverts_recordField hpattern _) ?_
  exact .cons rfl rfl (inverts_recordField hoptions _) (.nil _)

/-- What has been read of a schema object when all of it has. -/
def SchemaObject.Draft.complete (object : SchemaObject) : Draft where
  objectType := some object.objectType
  schema := some object.schema
  name := some object.name
  multiPartName := some object.multiPartName
  containingSchema := some object.containingSchema

/-- A schema object is read from its JSON, whether or not it has a containing schema. -/
theorem SchemaObject.inverts_json (object : SchemaObject) :
    Inverts recordType.readRecord object.json object := by
  have htype := inverts_readString object.objectType
  have hschema := inverts_readString object.schema
  have hname := inverts_readString object.name
  have hmultiPartName := inverts_readString object.multiPartName
  have hcontaining := inverts_readString? object.containingSchema
  refine RecordType.inverts_readRecord (s := Draft.complete object) ?_ rfl
  refine .cons rfl rfl (inverts_recordField htype _) ?_
  refine .cons rfl rfl (inverts_recordField hschema _) ?_
  refine .cons rfl rfl (inverts_recordField hname _) ?_
  refine .cons rfl rfl (inverts_recordField hmultiPartName _) ?_
  exact .cons rfl rfl (inverts_recordField hcontaining _) (.nil _)

/-! ### Documents -/

/-- A document that holds a text of the value, and gaps around it, is read as the result. -/
theorem readDocument_of_inverts {α : Type} {read : Read α} {value : Value} {a : α}
    (h : Inverts read value a) {text : List Char} (htext : value.IsText text) {gap : List Char}
    (hgap : IsGap gap) : readDocument read (.ofList (text ++ gap)) = .ok a := by
  have hread : read (text ++ gap) = .ok (a, gap) :=
    h text htext [] gap isGap_nil hgap.endsValue
  have hrest : skipBlanks gap = [] := by
    rw [← List.append_nil gap, skipBlanks_append hgap]
    rfl
  unfold readDocument
  rw [String.toList_ofList, hread]
  show (if skipBlanks gap = [] then _ else _) = _
  rw [if_pos hrest]
  rfl

/-- What is written as a document is read as the result. -/
theorem readDocument_document {α : Type} {read : Read α} {value : Value} {a : α}
    (h : Inverts read value a) : readDocument read (Listing.document value) = .ok a := by
  rw [Listing.document, Value.pretty, String.toList_ofList]
  exact readDocument_of_inverts h (.inr ⟨0, rfl⟩) (by decide : IsGap ['\n'])

/-- **The round trip.**  A rule, and a schema object, is read from its JSON without blanks; and the
    document that lists the rules of a set is read as those rules, in order. -/
theorem json_round_trip :
    (∀ rule : Rule, Rule.ofJson rule.json.compact = .ok rule) ∧
    (∀ object : SchemaObject, SchemaObject.ofJson object.json.compact = .ok object) ∧
    (∀ set : FilterSet,
      readDocument (readList Rule.recordType.readRecord) (Listing.rulesJson set) =
        .ok set.rules) := by
  refine ⟨fun rule => ?_, fun object => ?_, fun set => ?_⟩
  · have h := readDocument_of_inverts rule.inverts_json (.inl rfl) isGap_nil
    rwa [List.append_nil] at h
  · have h := readDocument_of_inverts object.inverts_json (.inl rfl) isGap_nil
    rwa [List.append_nil] at h
  · have hrules := inverts_readList_map Rule.inverts_json set.rules
    exact readDocument_document hrules

end SchemaFilter
