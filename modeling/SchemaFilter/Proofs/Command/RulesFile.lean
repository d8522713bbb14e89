import SchemaFilter.Command.RulesFile
import SchemaFilter.Proofs.Text.Replacement
import SchemaFilter.Proofs.Text.Trim

/-!
# What a rules file says

A rules file can be laid out in many ways: with blanks around its rules, with blank lines and
comments between them, and with either kind of line end.  It always says the same.  It need not be
UTF-8: its bytes are cut into lines and read line by line, which is as good as reading all of them
and cutting the text.

* `rules_append_newline`, `rules_of_line` — a file says what its lines say, one after another;
* `rulesOfText` — the rules in a text;
* `rules_read_as_text` — **a file says what its text says**, and its parts say it one after another;
* `IsRuleLine` — the texts that can stand on a line as a rule;
* `IsLine`, `LaysOut` — the bytes of a line, and of a file, that holds given rules;
* `rules_of_laysOut` — **what is laid out is what is read**.
-/

namespace SchemaFilter.RulesFile

/-! ### Line by line -/

/-- The rule that a line holds, if it holds one. -/
def ruleOnLine? (line : List Char) : Option String :=
  if holdsRule (trim line) then some (.ofList (trim line)) else none

theorem rulesOfLines_eq_filterMap (lines : List (List Char)) :
    rulesOfLines lines = lines.filterMap ruleOnLine? := by
  rw [rulesOfLines, List.filter_map, List.map_map, ← List.filterMap_eq_map,
    List.filterMap_filter]
  rfl

/-- A file says what its parts say, if it is cut at a line end. -/
theorem rules_append_newline (bytes bytes' : Bytes) :
    rules (bytes ++ newline :: bytes') = rules bytes ++ rules bytes' := by
  simp only [rules, rulesOfLines_eq_filterMap, piecesAt_eq_splitOn,
    List.splitOn_append_cons_self, List.map_append, List.filterMap_append]

/-- A file without line ends says what its only line says. -/
theorem rules_of_line {bytes : Bytes} (h : newline ∉ bytes) :
    rules bytes = (ruleOnLine? (decode bytes)).toList := by
  rw [rules, rulesOfLines_eq_filterMap, piecesAt_eq_splitOn, List.splitOn_eq_singleton h]
  cases hline : ruleOnLine? (decode bytes) <;> simp [hline]

/-- The byte that ends a line stands in the bytes of a text exactly if the text has a line end. -/
theorem newline_mem_encode_iff {text : List Char} : newline ∈ encode text ↔ '\n' ∈ text :=
  mem_encode_iff (c := '\n') (by decide)

/-! ### Rules, blanks and comments -/

/-- The text can stand on a line as a rule: it has no line end, it is not blank, and it does not
    begin as a comment does. -/
def IsRuleLine (text : String) : Prop :=
  '\n' ∉ text.toList ∧ trim text.toList ≠ [] ∧
    ∀ c ∈ (trim text.toList).head?, c ∉ commentMarks

theorem isRuleLine_iff {text : String} :
    IsRuleLine text ↔ '\n' ∉ text.toList ∧ holdsRule (trim text.toList) = true := by
  unfold IsRuleLine holdsRule
  cases trim text.toList <;> simp

instance (text : String) : Decidable (IsRuleLine text) :=
  decidable_of_iff _ isRuleLine_iff.symm

theorem IsRuleLine.holdsRule {text : String} (h : IsRuleLine text) :
    holdsRule (trim text.toList) = true :=
  (isRuleLine_iff.mp h).2

/-- The blanks around a rule are not part of it. -/
theorem ruleOnLine?_of_isRuleLine {text : String} {left right : List Char} (h : IsRuleLine text)
    (hleft : allBlank left = true) (hright : allBlank right = true) :
    ruleOnLine? (left ++ text.toList ++ right) = some (trimmed text) := by
  rw [ruleOnLine?, trim_append_of_blank hleft hright, if_pos h.holdsRule, trimmed]

theorem ruleOnLine?_of_blank {line : List Char} (h : allBlank line = true) :
    ruleOnLine? line = none := by
  rw [ruleOnLine?, trim_eq_nil_iff.mpr h]
  rfl

/-- A comment mark is no blank, so that trimming does not take it off. -/
theorem ruleOnLine?_of_comment {left : List Char} {mark : Char} (hleft : allBlank left = true)
    (hmark : mark ∈ commentMarks) (rest : List Char) :
    ruleOnLine? (left ++ mark :: rest) = none := by
  have hshown : isBlank mark = false := by
    simp only [commentMarks, List.mem_cons, List.not_mem_nil, or_false] at hmark
    rcases hmark with rfl | rfl <;> decide
  have htrim : ∃ tail, trim (left ++ mark :: rest) = mark :: tail := by
    have hleft' : trimLeft (left ++ mark :: rest) = mark :: rest := by
      rw [trimLeft, List.dropWhile_append_of_pos (allBlank_eq_true_iff.mp hleft),
        List.dropWhile_cons_of_neg (by simp [hshown])]
    rw [trim, hleft', trimRight, List.reverse_cons, List.dropWhile_append]
    split
    · exact ⟨[], by rw [List.dropWhile_cons_of_neg (by simp [hshown])]; rfl⟩
    · exact ⟨_, List.reverse_concat ..⟩
  obtain ⟨tail, htail⟩ := htrim
  rw [ruleOnLine?, htail]
  simp [holdsRule, hmark]

/-! ### Files as texts -/

/-- The rules in a text: what its lines hold without the blanks around it, unless that is nothing or
    begins as a comment does. -/
def rulesOfText (text : List Char) : List String :=
  (((text.splitOn '\n').map trim).filter fun line =>
    line ≠ [] ∧ line.head? ≠ some '#' ∧ line.head? ≠ some ';').map String.ofList

theorem holdsRule_iff {line : List Char} :
    holdsRule line = true ↔ line ≠ [] ∧ line.head? ≠ some '#' ∧ line.head? ≠ some ';' := by
  cases line <;> simp [RulesFile.holdsRule, commentMarks]

theorem rulesOfLines_splitOn (text : List Char) :
    rulesOfLines (text.splitOn '\n') = rulesOfText text := by
  rw [rulesOfLines, rulesOfText]
  congr 1
  apply List.filter_congr
  intro line _
  rw [Bool.eq_iff_iff, holdsRule_iff, decide_eq_true_iff]

/-- Reading the lines of a file is reading the file and cutting its text into lines. -/
theorem rules_eq_rulesOfText_decode (bytes : Bytes) : rules bytes = rulesOfText (decode bytes) := by
  have hpieces : (decode bytes).splitOn '\n' = (bytes.splitOn newline).map decode :=
    splitOn_decode (b := newline) (by decide) bytes
  rw [rules, piecesAt_eq_splitOn, ← hpieces, rulesOfLines_splitOn]

/-- What is found in a text is shown and trimmed, stands on one line, and is not a comment. -/
theorem of_mem_rulesOfText {text : List Char} {rule : String} (h : rule ∈ rulesOfText text) :
    rule ≠ "" ∧ trimmed rule = rule ∧ '\n' ∉ rule.toList ∧
      rule.toList.head? ≠ some '#' ∧ rule.toList.head? ≠ some ';' := by
  obtain ⟨line, hline, rfl⟩ := List.mem_map.mp h
  obtain ⟨hmem, hshown⟩ := List.mem_filter.mp hline
  obtain ⟨hne, hmark⟩ := decide_eq_true_iff.mp hshown
  obtain ⟨piece, hpiece, rfl⟩ := List.mem_map.mp hmem
  have hnewline : '\n' ∉ trim piece := fun h =>
    not_mem_of_mem_splitOn hpiece (mem_of_mem_trim h)
  refine ⟨fun hempty => hne ?_, ?_, ?_, ?_⟩
  · rw [← String.toList_ofList (l := trim piece), hempty]
    rfl
  · rw [trimmed, String.toList_ofList, trim_trim]
  · rwa [String.toList_ofList]
  · rwa [String.toList_ofList]

/-- No text in a file has a line end. -/
theorem newline_notMem_of_mem_rules {bytes : Bytes} {rule : String} (h : rule ∈ rules bytes) :
    '\n' ∉ rule.toList := by
  rw [rules_eq_rulesOfText_decode] at h
  exact (of_mem_rulesOfText h).2.2.1

/-- **A file says what its text says**, whatever its bytes are and wherever a line end cuts them.
    Where it is cut at a line end, its parts say it one after another. -/
theorem rules_read_as_text :
    (∀ bytes text, Utf8.Reads bytes text ↔ text = decode bytes) ∧
      (∀ bytes, rules bytes = rulesOfText (decode bytes)) ∧
      (∀ bytes bytes', rules (bytes ++ newline :: bytes') = rules bytes ++ rules bytes') ∧
      ∀ bytes, ∀ rule ∈ rules bytes,
        rule ≠ "" ∧ trimmed rule = rule ∧ '\n' ∉ rule.toList ∧
          rule.toList.head? ≠ some '#' ∧ rule.toList.head? ≠ some ';' := by
  refine ⟨fun _ _ => Utf8.reads_iff, rules_eq_rulesOfText_decode, rules_append_newline,
    fun bytes rule h => ?_⟩
  rw [rules_eq_rulesOfText_decode] at h
  exact of_mem_rulesOfText h

/-- A character that a line end cuts is read as a replacement character before it. -/
example : rules [0x61, 0xE2, 0x82, 10, 0xAC, 0x20] = ["a\uFFFD", "\uFFFD"] := by decide

/-! ### Layouts -/

/-- The byte that may stand before the one that ends a line. -/
def carriageReturn : UInt8 := 13

/-- How a line can end. -/
def lineEnds : List Bytes := [[newline], [carriageReturn, newline]]

/-- The bytes of a line without its end.  It holds a rule, with any blanks around it, or none: it
    is blank, or a comment, which may be anything and need not even be text. -/
inductive IsLine : (held : Option String) → Bytes → Prop
  | rule {left right : List Char} (text : String) (hleft : allBlank left = true)
      (hright : allBlank right = true) :
      IsLine (some text) (encode (left ++ text.toList ++ right))
  | blank {text : List Char} (h : allBlank text = true) : IsLine none (encode text)
  | comment {left : List Char} {mark : Char} (rest : Bytes) (hleft : allBlank left = true)
      (hmark : mark ∈ commentMarks) : IsLine none (encode (left ++ [mark]) ++ rest)

/-- The bytes of a file whose lines hold some rules, in order.  The last line has no end; it may
    be empty. -/
inductive LaysOut : (texts : List String) → Bytes → Prop
  | last {held : Option String} {bytes : Bytes} (hline : IsLine held bytes)
      (hbytes : newline ∉ bytes) : LaysOut held.toList bytes
  | line {held : Option String} {bytes ending rest : Bytes} {texts : List String}
      (hline : IsLine held bytes) (hbytes : newline ∉ bytes) (hending : ending ∈ lineEnds)
      (hrest : LaysOut texts rest) : LaysOut (held.toList ++ texts) (bytes ++ ending ++ rest)

/-- A carriage return behind a line is one blank more, or a part of the comment. -/
theorem IsLine.append_carriageReturn {held : Option String} {bytes : Bytes}
    (h : IsLine held bytes) : IsLine held (bytes ++ [carriageReturn]) := by
  have hreturn : [carriageReturn] = encode ['\r'] := rfl
  have hblank {text : List Char} (htext : allBlank text = true) :
      allBlank (text ++ ['\r']) = true := by
    rw [allBlank, List.all_append, ← allBlank, htext]
    rfl
  cases h with
  | rule text hleft hright =>
    rw [hreturn, ← encode_append, List.append_assoc]
    exact .rule text hleft (hblank hright)
  | blank htext =>
    rw [hreturn, ← encode_append]
    exact .blank (hblank htext)
  | comment rest hleft hmark =>
    rw [List.append_assoc]
    exact .comment (rest ++ [carriageReturn]) hleft hmark

/-- What a line holds is what is read from it. -/
theorem IsLine.ruleOnLine? {held : Option String} {bytes : Bytes} (h : IsLine held bytes)
    (hheld : ∀ text ∈ held, IsRuleLine text) :
    ruleOnLine? (decode bytes) = held.map trimmed := by
  cases h with
  | rule text hleft hright =>
    rw [decode_encode]
    exact ruleOnLine?_of_isRuleLine (hheld text rfl) hleft hright
  | blank htext =>
    rw [decode_encode]
    exact ruleOnLine?_of_blank htext
  | comment rest hleft hmark =>
    rw [decode_encode_append, List.append_assoc, List.singleton_append]
    exact ruleOnLine?_of_comment hleft hmark _

theorem rules_of_isLine {held : Option String} {bytes : Bytes} (h : IsLine held bytes)
    (hbytes : newline ∉ bytes) (hheld : ∀ text ∈ held, IsRuleLine text) :
    rules bytes = held.toList.map trimmed := by
  rw [rules_of_line hbytes, h.ruleOnLine? hheld]
  cases held <;> rfl

/-- **What is laid out is what is read**, without the blanks around it. -/
theorem rules_of_laysOut {texts : List String} {bytes : Bytes} (h : LaysOut texts bytes)
    (htexts : ∀ text ∈ texts, IsRuleLine text) : rules bytes = texts.map trimmed := by
  induction h with
  | last hline hbytes =>
    exact rules_of_isLine hline hbytes fun text ht => htexts text (by simpa using ht)
  | @line held bytes ending rest texts hline hbytes hending _ ih =>
    have hheld : ∀ text ∈ held, IsRuleLine text := fun text ht =>
      htexts text (List.mem_append_left _ (by simpa using ht))
    have hrest := ih fun text ht => htexts text (List.mem_append_right _ ht)
    rw [List.map_append, ← hrest]
    simp only [lineEnds, List.mem_cons, List.not_mem_nil, or_false] at hending
    rcases hending with rfl | rfl
    · rw [List.append_assoc, List.singleton_append, rules_append_newline,
        rules_of_isLine hline hbytes hheld]
    · have hbytes' : newline ∉ bytes ++ [carriageReturn] := by
        rw [List.mem_append, List.mem_singleton, not_or]
        exact ⟨hbytes, by decide⟩
      rw [show bytes ++ [carriageReturn, newline] ++ rest =
          (bytes ++ [carriageReturn]) ++ newline :: rest by simp,
        rules_append_newline, rules_of_isLine hline.append_carriageReturn hbytes' hheld]

end SchemaFilter.RulesFile
