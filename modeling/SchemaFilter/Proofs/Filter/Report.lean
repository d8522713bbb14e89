import SchemaFilter.Proofs.Filter.Sink
import SchemaFilter.Proofs.Text.Utf8

/-!
# What a reporter that writes accounts for

A reporter that writes puts each message on a line, of which as much is written as there is room
for.  What it has written, and whether it remembers a failure, can be told from a list of these
lines, with the room that there was for each of them.

* `Reporter.Step`, `Reporter.afterAll` — what can happen to a reporter, and what becomes of it;
* `Reporter.after_parse_of_ok`, `Reporter.after_parse_of_error` — what reading a rule does;
* `Reporter.Entry`, `Reporter.Ledger` — the lines of messages, with the room for them;
* `Ledger.Accounts` — the reporter stands as the ledger says;
* `Ledger.Accounts.after`, `Ledger.Accounts.afterAll` — one step, and any number of them;
* `Reporter.afterAll_accounted` — **the account** of a reporter that writes.
-/

namespace SchemaFilter

namespace Reporter

/-! ### Steps -/

/-- What can happen to a reporter: a message is reported; a text is read, and reported if it is no
    rule; or its sink takes as many bytes from now on as `room` says. -/
inductive Step where
  | report (message : String)
  | parse (raw : String)
  | setRoom (room : Option Nat)
  deriving DecidableEq, Repr

/-- The message that a step reports, if there is one. -/
def Step.message? : Step → Option String
  | report message => some message
  | parse raw =>
    match Rule.parse raw with
    | .ok _ => none
    | .error e => some e.message
  | setRoom _ => none

/-- The reporter behind a step. -/
def after (reporter : Reporter) : Step → Reporter
  | .report message => (reporter.report message).value
  | .parse raw => (Rule.parseReported raw reporter).value.2
  | .setRoom room =>
    match reporter with
    | write sink mark lastError => write { sink with room } mark lastError
    | other => other

/-- The reporter behind some steps. -/
def afterAll (reporter : Reporter) (steps : List Step) : Reporter :=
  steps.foldl after reporter

/-- The failure to write that is remembered. -/
def lastError? : Reporter → Option String
  | write _ _ lastError => lastError
  | collect _ | drop | observe => none

variable {raw : String} {reporter : Reporter}

/-- Whoever is told of it, a text is read as it is read. -/
theorem fst_value_parseReported (raw : String) (reporter : Reporter) :
    (Rule.parseReported raw reporter).value.1 = Rule.parse raw := by
  simp only [Rule.parseReported, Rule.parseTraced, Traced.value_bind]
  cases Rule.parse raw <;> rfl

/-- Nobody is told of a text that is a rule. -/
theorem after_parse_of_ok {rule : Rule} (h : Rule.parse raw = .ok rule) :
    reporter.after (.parse raw) = reporter := by
  simp only [after, Rule.parseReported, Rule.parseTraced, Traced.value_bind, h]
  rfl

/-- The error of a text that is no rule is reported. -/
theorem after_parse_of_error {e : ParseError} (h : Rule.parse raw = .error e) :
    reporter.after (.parse raw) = reporter.after (.report e.message) := by
  simp only [after, Rule.parseReported, Rule.parseTraced, Traced.value_bind, h]
  rfl

/-- Put together, the pieces of a line are the line. -/
theorem flatten_linePieces (mark message : String) :
    (linePieces mark message).flatten = line mark message := by
  simp [linePieces, line, Bytes.ofString_append]

/-- A message is written as its line; if not all of that is taken, this is remembered. -/
theorem after_report_write (sink : Sink) (mark : String) (lastError : Option String)
    (message : String) :
    (write sink mark lastError).after (.report message) =
      write (sink.write (line mark message)).1 mark
        (if (sink.write (line mark message)).2 then lastError else some Sink.closedText) := by
  rw [← flatten_linePieces, ← Sink.writeEach_eq_write]
  rfl

/-! ### The ledger -/

/-- The line of a message, and the room that there is for it. -/
structure Entry where
  room : Option Nat
  line : Bytes
  deriving DecidableEq, Repr

namespace Entry

/-- How many bytes of the line are written: as many as there are, or as there is room for. -/
def count (entry : Entry) : Nat :=
  match entry.room with
  | none => entry.line.length
  | some room => min room entry.line.length

/-- What is written of the line. -/
def contribution (entry : Entry) : Bytes :=
  entry.line.take entry.count

/-- The room that there is behind the line. -/
def roomLeft (entry : Entry) : Option Nat :=
  entry.room.map (· - entry.count)

/-- Some of the line is not written. -/
def IsCut (entry : Entry) : Prop :=
  entry.contribution.length < entry.line.length

theorem length_contribution (entry : Entry) : entry.contribution.length = entry.count := by
  obtain ⟨_ | room, bytes⟩ := entry <;> simp [contribution, count]

theorem isCut_iff {entry : Entry} :
    entry.IsCut ↔ ∃ room, entry.room = some room ∧ room < entry.line.length := by
  obtain ⟨_ | room, bytes⟩ := entry
  · simp [IsCut, length_contribution, count]
  · have hmin : min room bytes.length < bytes.length ↔ room < bytes.length := by omega
    simp [IsCut, length_contribution, count, hmin]

end Entry

end Reporter

open Reporter

/-- A sink takes of a line what its entry says. -/
theorem Sink.fst_write_eq (sink : Sink) (bytes : Bytes) :
    (sink.write bytes).1 =
      { sink with
        room := Entry.roomLeft ⟨sink.room, bytes⟩
        written := sink.written ++ Entry.contribution ⟨sink.room, bytes⟩ } := by
  obtain ⟨room, flushFails, written⟩ := sink
  cases room with
  | none => simp [write, Entry.roomLeft, Entry.contribution, Entry.count]
  | some room => simp [write, Entry.roomLeft, Entry.contribution, Entry.count]

/-- A sink takes all of a line exactly if its entry is not cut. -/
theorem Sink.snd_write_eq_true_iff (sink : Sink) (bytes : Bytes) :
    (sink.write bytes).2 = true ↔ ¬ Entry.IsCut ⟨sink.room, bytes⟩ := by
  rw [Entry.isCut_iff]
  obtain ⟨room, flushFails, written⟩ := sink
  cases room with
  | none => simp [write]
  | some room => simp [write]

namespace Reporter

/-- What a reporter that writes has been told: its mark, the room that is left, and an entry for
    each message, in order. -/
structure Ledger where
  mark : String
  room : Option Nat
  entries : List Entry := []
  deriving DecidableEq, Repr

namespace Ledger

/-- The ledger with a message more, which takes some of the room. -/
def enter (ledger : Ledger) (message : String) : Ledger :=
  let entry : Entry := ⟨ledger.room, line ledger.mark message⟩
  { ledger with room := entry.roomLeft, entries := ledger.entries ++ [entry] }

/-- The ledger behind a step. -/
def after (ledger : Ledger) : Step → Ledger
  | .setRoom room => { ledger with room }
  | step => step.message?.elim ledger ledger.enter

/-- The ledger behind some steps. -/
def afterAll (ledger : Ledger) (steps : List Step) : Ledger :=
  steps.foldl after ledger

/-- What is written of all lines, one after another. -/
def contributions (ledger : Ledger) : Bytes :=
  ledger.entries.flatMap Entry.contribution

/-- The sink that was `start` before anything was told. -/
def sink (ledger : Ledger) (start : Sink) : Sink :=
  { start with room := ledger.room, written := start.written ++ ledger.contributions }

/-- The reporter stands as the ledger says: it has written what the entries contribute, and
    remembers a failure exactly if one of them is cut. -/
structure Accounts (start : Sink) (ledger : Ledger) (reporter : Reporter) : Prop where
  reporter_eq : reporter = write (ledger.sink start) ledger.mark reporter.lastError?
  lastError_iff : reporter.lastError? ≠ none ↔ ∃ entry ∈ ledger.entries, entry.IsCut

variable {start : Sink} {ledger : Ledger} {reporter : Reporter}

@[simp] theorem contributions_enter (ledger : Ledger) (message : String) :
    (ledger.enter message).contributions =
      ledger.contributions ++ Entry.contribution ⟨ledger.room, line ledger.mark message⟩ := by
  simp [enter, contributions]

/-! ### One step -/

/-- A reporter that has been told nothing. -/
theorem accounts_start (start : Sink) (mark : String) :
    Accounts start ⟨mark, start.room, []⟩ (write start mark none) where
  reporter_eq := by simp [sink, contributions, lastError?]
  lastError_iff := by simp [lastError?]

/-- A message is written as far as there is room for its line. -/
theorem Accounts.after_report (h : Accounts start ledger reporter) (message : String) :
    Accounts start (ledger.enter message) (reporter.after (.report message)) := by
  obtain ⟨hreporter, hlast⟩ := h
  generalize reporter.lastError? = lastError at hreporter hlast
  subst hreporter
  have hsink : ((ledger.sink start).write (line ledger.mark message)).1 =
      (ledger.enter message).sink start := by
    rw [Sink.fst_write_eq, sink, sink, contributions_enter, ← List.append_assoc]
    rfl
  rw [after_report_write, hsink]
  refine ⟨rfl, ?_⟩
  show ite _ lastError (some Sink.closedText) ≠ none ↔ _
  have hentries : (∃ entry ∈ (ledger.enter message).entries, entry.IsCut) ↔
      (∃ entry ∈ ledger.entries, entry.IsCut) ∨
        Entry.IsCut ⟨ledger.room, line ledger.mark message⟩ := by
    simp [enter, or_and_right, exists_or]
  rw [hentries, ← hlast]
  -- If this line is cut, that is remembered; or else what has been remembered before.
  by_cases hcut : Entry.IsCut ⟨ledger.room, line ledger.mark message⟩
  · rw [if_neg (mt (Sink.snd_write_eq_true_iff _ _).mp (not_not_intro hcut))]
    simp [hcut]
  · rw [if_pos ((Sink.snd_write_eq_true_iff _ _).mpr hcut)]
    simp [hcut]

/-- New room changes nothing of what has been written. -/
theorem Accounts.after_setRoom (h : Accounts start ledger reporter) (room : Option Nat) :
    Accounts start { ledger with room } (reporter.after (.setRoom room)) := by
  obtain ⟨hreporter, hlast⟩ := h
  generalize reporter.lastError? = lastError at hreporter hlast
  subst hreporter
  exact ⟨rfl, hlast⟩

/-- **One step** keeps the reporter as the ledger says. -/
theorem Accounts.after (h : Accounts start ledger reporter) (step : Step) :
    Accounts start (ledger.after step) (reporter.after step) := by
  cases step with
  | report message => exact h.after_report message
  | setRoom room => exact h.after_setRoom room
  | parse raw =>
    cases hparse : Rule.parse raw with
    | ok rule =>
      have hledger : ledger.after (.parse raw) = ledger := by
        simp [Ledger.after, Step.message?, hparse]
      rw [hledger, after_parse_of_ok hparse]
      exact h
    | error e =>
      have hledger : ledger.after (.parse raw) = ledger.enter e.message := by
        simp [Ledger.after, Step.message?, hparse]
      rw [hledger, after_parse_of_error hparse]
      exact h.after_report e.message

/-- Each message that is reported has its entry. -/
theorem lines_after (ledger : Ledger) (step : Step) :
    (ledger.after step).mark = ledger.mark ∧
      (ledger.after step).entries.map Entry.line =
        ledger.entries.map Entry.line ++ step.message?.toList.map (line ledger.mark) := by
  cases step with
  | setRoom room => simp [Ledger.after, Step.message?]
  | report message => simp [Ledger.after, Step.message?, enter]
  | parse raw =>
    simp only [Ledger.after]
    cases (Step.parse raw).message? with
    | none => simp
    | some message => simp [enter]

/-- No step takes an entry back. -/
theorem entries_prefix_after (ledger : Ledger) (step : Step) :
    ledger.entries <+: (ledger.after step).entries := by
  cases step with
  | setRoom room => exact List.prefix_rfl
  | report message => exact List.prefix_append ..
  | parse raw =>
    simp only [Ledger.after]
    cases (Step.parse raw).message? with
    | none => exact List.prefix_rfl
    | some message => exact List.prefix_append ..

/-! ### Any number of steps -/

/-- **A run** keeps the reporter as the ledger says. -/
theorem Accounts.afterAll (h : Accounts start ledger reporter) (steps : List Step) :
    Accounts start (ledger.afterAll steps) (reporter.afterAll steps) := by
  induction steps generalizing ledger reporter with
  | nil => exact h
  | cons step steps ih => exact ih (h.after step)

/-- Each message that is reported has its entry, in the order of the steps. -/
theorem lines_afterAll (ledger : Ledger) (steps : List Step) :
    (ledger.afterAll steps).mark = ledger.mark ∧
      (ledger.afterAll steps).entries.map Entry.line =
        ledger.entries.map Entry.line ++
          (steps.filterMap Step.message?).map (line ledger.mark) := by
  induction steps generalizing ledger with
  | nil => simp [afterAll]
  | cons step steps ih =>
    obtain ⟨hmark, hlines⟩ := ledger.lines_after step
    obtain ⟨hmarks, hrest⟩ := ih (ledger.after step)
    rw [hmark] at hmarks hrest
    refine ⟨hmarks, ?_⟩
    show ((ledger.after step).afterAll steps).entries.map Entry.line = _
    rw [hrest, hlines, List.append_assoc, ← List.map_append]
    congr 2
    cases h : step.message? with
    | none => rw [List.filterMap_cons_none h, Option.toList_none, List.nil_append]
    | some message => rw [List.filterMap_cons_some h, Option.toList_some, List.singleton_append]

/-- No entry is taken back. -/
theorem entries_prefix_afterAll (ledger : Ledger) (steps : List Step) :
    ledger.entries <+: (ledger.afterAll steps).entries := by
  induction steps generalizing ledger with
  | nil => exact List.prefix_rfl
  | cons step steps ih => exact (ledger.entries_prefix_after step).trans (ih (ledger.after step))

/-- What is remembered once is not forgotten. -/
theorem Accounts.remembers (h : Accounts start ledger reporter) (more : List Step)
    (hlast : reporter.lastError? ≠ none) : (reporter.afterAll more).lastError? ≠ none := by
  obtain ⟨entry, hentry, hcut⟩ := h.lastError_iff.mp hlast
  have hmem : entry ∈ (ledger.afterAll more).entries :=
    (ledger.entries_prefix_afterAll more).subset hentry
  exact (h.afterAll more).lastError_iff.mpr ⟨entry, hmem, hcut⟩

end Ledger

/-- **The account.**  Whatever reporter is told, a text is read as it is read, and reading it does
    what reporting its error does, or nothing if it is a rule.  And whatever happens to a reporter
    that writes, it has written the lines of all messages that were reported, in order, each with
    as many bytes as there are or as there was room for; it remembers a failure if and only if
    some line was cut so far, and does not forget it. -/
theorem afterAll_accounted :
    (∀ (reporter : Reporter) (raw : String),
      (Rule.parseReported raw reporter).value.1 = Rule.parse raw ∧
      (∀ rule, Rule.parse raw = .ok rule → reporter.after (.parse raw) = reporter) ∧
      ∀ e, Rule.parse raw = .error e →
        reporter.after (.parse raw) = reporter.after (.report e.message)) ∧
    ∀ (mark : String) (start : Sink) (steps : List Step),
      let reporter := (write start mark none).afterAll steps
      let ledger := (Ledger.mk mark start.room []).afterAll steps
      reporter = write
        { start with
          room := ledger.room
          written := start.written ++ ledger.entries.flatMap Entry.contribution }
        mark reporter.lastError? ∧
      ledger.entries.map Entry.line = (steps.filterMap Step.message?).map (line mark) ∧
      (reporter.lastError? ≠ none ↔
        ∃ entry ∈ ledger.entries, entry.contribution.length < entry.line.length) ∧
      ∀ more, reporter.lastError? ≠ none → (reporter.afterAll more).lastError? ≠ none := by
  constructor
  · intro reporter raw
    exact ⟨fst_value_parseReported raw reporter, fun _ h => after_parse_of_ok h,
      fun _ h => after_parse_of_error h⟩
  · intro mark start steps reporter ledger
    have haccounts : Ledger.Accounts start ledger reporter :=
      (Ledger.accounts_start start mark).afterAll steps
    obtain ⟨hmark, hlines⟩ := Ledger.lines_afterAll ⟨mark, start.room, []⟩ steps
    have hreporter := haccounts.reporter_eq
    rw [show ledger.mark = mark from hmark] at hreporter
    exact ⟨hreporter, hlines, haccounts.lastError_iff, haccounts.remembers⟩

/-- The second line is cut within its message.  When there is room again, that is not made up for,
    and it is still remembered. -/
example :
    (write { room := some 9 } "! " none).afterAll
        [.report "one", .report "two", .setRoom none, .parse "KeepName(x)", .report "three"] =
      write { written := .ofString "! one\n! t! three\n" } "! " (some "closed") := by
  decide

end Reporter

end SchemaFilter
