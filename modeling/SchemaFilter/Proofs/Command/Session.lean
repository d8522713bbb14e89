import SchemaFilter.Command.Session
import SchemaFilter.Proofs.Command.Outcome
import SchemaFilter.Proofs.Command.Writing

/-!
# A run on its two streams

What a run does to its streams is what `Command.run` tells of: its output is delivered, and its
diagnostics are written, however they are cut.  So a stream that takes some bytes only gets just
these, and nothing else changes.

* `Performs` — what is done with the streams is what work tells of;
* `Performs.bind` and the other rules — how that is shown step by step;
* `session_eq_run` — **the run** on streams, and the run that is told of;
* `runOn_eq_runOn_whole` — how texts are cut makes no difference;
* `runOn_truncated` — **truncation**: what becomes of a run where a stream fails.
-/

namespace SchemaFilter

namespace Command

/-! ### Work that is done with streams -/

/-- The streams when the user has been told something. -/
def Streams.tell (streams : Streams) (text : String) : Streams :=
  { streams with stderr := (streams.stderr.write (.ofString text)).1 }

namespace Streams

variable (streams : Streams)

@[simp] theorem tell_empty : streams.tell "" = streams :=
  congrArg (fun p => { streams with stderr := p.1 }) streams.stderr.write_nil

theorem tell_append (text text' : String) :
    streams.tell (text ++ text') = (streams.tell text).tell text' := by
  rw [tell, Bytes.ofString_append, Sink.fst_write_append, tell, tell]

end Streams

variable {α β γ δ ε : Type} (cutting : Cutting)

/-- What the user is told is written on standard error, as far as it fits. -/
theorem run_complain (text : String) (streams : Streams) :
    (complain cutting text).run streams = ((), streams.tell text) := by
  have hwrite : streams.stderr.writeEach (cutting.piecesOf [text]) =
      streams.stderr.write (.ofString text) := by
    rw [Sink.writeEach_eq_write, Cutting.flatten_piecesOf, Listing.join_singleton]
  rw [Streams.tell, ← hwrite]
  rfl

/-- What has been given up is not gone on with. -/
theorem Attempt.run_bind (attempt : Attempt β) (next : β → Attempt δ) (streams : Streams) :
    (attempt >>= next).run.run streams =
      match attempt.run.run streams with
      | (some b, streams) => (next b).run.run streams
      | (none, streams) => (none, streams) := by
  rw [OptionT.run_bind, Option.elimM, StateT.run_bind]
  rcases attempt.run.run streams with ⟨_ | b, s⟩ <;> rfl

/-- What is done with the streams ends as the work does, up to `f`, and the user is told what the
    work tells. -/
def Performs (f : β → α) (attempt : Attempt β) (work : Work α) : Prop :=
  ∀ streams, ∃ result,
    attempt.run.run streams = (result, streams.tell (diagnosticText work.run.events)) ∧
    result.map f = work.run.value

namespace Performs

variable {f : β → α} {attempt : Attempt β} {work : Work α}

theorem pure (b : β) {a : α} (h : f b = a) : Performs f (pure b) (pure a) := by
  intro streams
  refine ⟨some b, ?_, congrArg some h⟩
  exact congrArg (Prod.mk (some b)) streams.tell_empty.symm

theorem giveUp (text : String) :
    Performs f (Attempt.giveUp cutting text) (Work.giveUp text) := by
  intro streams
  refine ⟨none, ?_, rfl⟩
  have htext : diagnosticText (Work.giveUp text : Work α).run.events = text :=
    diagnosticText_diagnostic text
  have hlift : (OptionT.lift (complain cutting text) : Attempt Unit).run.run streams =
      (some (), streams.tell text) := by
    rw [OptionT.run_lift, StateT.run_bind, run_complain]
    rfl
  rw [htext, Attempt.giveUp, Attempt.run_bind, hlift]
  rfl

theorem orGiveUp (message : ε → String) (result : Except ε β) :
    Performs id (Attempt.orGiveUp cutting message result) (Work.orGiveUp message result) := by
  cases result with
  | ok b => exact pure b rfl
  | error e => exact giveUp cutting _

theorem bind {g : δ → γ} {next : β → Attempt δ} {next' : α → Work γ}
    (h : Performs f attempt work) (hnext : ∀ b, Performs g (next b) (next' (f b))) :
    Performs g (attempt >>= next) (work >>= next') := by
  intro streams
  obtain ⟨result, hrun, hvalue⟩ := h streams
  rw [Attempt.run_bind, hrun]
  cases result with
  | none =>
    rw [Work.run_bind_of_none hvalue.symm]
    exact ⟨none, rfl, rfl⟩
  | some b =>
    -- What follows is told behind what has been told so far.
    obtain ⟨result, hrest, hvalue'⟩ := hnext b (streams.tell (diagnosticText work.run.events))
    rw [Work.run_bind_of_some hvalue.symm, diagnosticText_append, Streams.tell_append]
    exact ⟨result, hrest, hvalue'⟩

/-- Nothing is done with the streams where the user is told nothing. -/
theorem silent_bind {g : δ → γ} {next : Attempt δ} {next' : α → Work γ} {a : α}
    (hvalue : work.run.value = some a) (htext : diagnosticText work.run.events = "")
    (h : Performs g next (next' a)) : Performs g next (work >>= next') := by
  intro streams
  rw [Work.run_bind_of_some hvalue, diagnosticText_append, htext, String.empty_append]
  exact h streams

end Performs

/-! ### The steps -/

/-- Reading rules goes on behind a text that is rejected, on the streams as well. -/
theorem performs_readRules (raws : List String) :
    Performs id (Attempt.readRules cutting raws) (readRules raws) := by
  induction raws with
  | nil => exact .pure [] rfl
  | cons raw raws ih =>
    intro streams
    cases h : Rule.parse raw with
    | ok rule =>
      obtain ⟨result, hrun, hvalue⟩ := ih streams
      rw [readRules_cons_ok h, diagnosticText_append, diagnosticText_event, String.empty_append,
        Attempt.readRules, h, ← hvalue]
      refine ⟨result.map (rule :: ·), ?_, by cases result <;> rfl⟩
      show ((Attempt.readRules cutting raws).run >>= _).run streams = _
      rw [StateT.run_bind, hrun]
      rfl
    | error e =>
      -- The others are read behind what is told of this one, and their rules are lost.
      obtain ⟨result, hrun, -⟩ := ih (streams.tell (Work.errorLine e.message))
      rw [readRules_cons_error h, diagnosticText_append, diagnosticText_event,
        String.empty_append, diagnosticText_append, diagnosticText_diagnostic,
        Streams.tell_append, Attempt.readRules, h]
      refine ⟨none, ?_, rfl⟩
      show (complain cutting (Work.errorLine e.message) >>= _).run streams = _
      rw [StateT.run_bind, run_complain]
      show ((Attempt.readRules cutting raws).run >>= _).run _ = _
      rw [StateT.run_bind, hrun]
      rfl

theorem performs_loadRules (a : Arguments) (inputs : Inputs) :
    Performs id (Attempt.loadRules cutting a inputs) (a.loadRules inputs) := by
  unfold Attempt.loadRules Arguments.loadRules
  dsimp only
  generalize Source.loadAll inputs (a.rules.map Bytes.toText) (a.ruleFiles.map Source.ofArg) =
    loaded
  have htext : diagnosticText (Work.watch loaded).run.events = "" :=
    (congrArg diagnosticText (List.append_nil _)).trans (diagnosticText_events loaded.events)
  refine .silent_bind (a := loaded.value) rfl htext ?_
  cases loaded.value.failure with
  | none => exact .pure _ rfl
  | some e => exact .giveUp cutting _

theorem performs_buildSet (raws : List String) :
    Performs id (Attempt.buildSet cutting raws) (buildSet raws) :=
  (performs_readRules cutting raws).bind fun _ => .orGiveUp cutting _ _

/-- What is done to answer ends with the texts that the answer is made of. -/
theorem performs_answer (a : Arguments) (inputs : Inputs) :
    Performs String.join (Attempt.answer cutting a inputs) (a.answer inputs) := by
  unfold Attempt.answer Arguments.answer
  split
  · exact .pure _ (Listing.join_singleton helpText)
  split
  · exact .pure _ (Listing.join_singleton versionText)
  refine (performs_loadRules cutting a inputs).bind fun raws => ?_
  refine (performs_buildSet cutting raws).bind fun set => ?_
  refine (Performs.orGiveUp cutting _ _).bind fun objects => ?_
  -- An event is told to observers only, of whom the streams know nothing.
  refine .silent_bind (a := ()) rfl (diagnosticText_event _) ?_
  exact .pure _ (Listing.join_texts a.json set objects)

/-! ### A run -/

/-- What a run answers. -/
def answerTo (args : List Bytes) (inputs : Inputs) : Work String :=
  match Arguments.ofArgs args.tail with
  | .ok a => a.answer inputs
  | .error e => Work.giveUp (e.message (args.head?.elim programName programOfPath))

theorem run_eq_deliver (args : List Bytes) (inputs : Inputs) (output : Sink) :
    run args inputs output = deliver output (answerTo args inputs).run := rfl

/-- An answer that is a text comes without telling the user anything. -/
theorem answerTo_meets (args : List Bytes) (inputs : Inputs) :
    (answerTo args inputs).Meets (fun _ => True) (fun _ => True) := by
  unfold answerTo
  split
  · unfold Arguments.answer
    split
    · exact .pure trivial
    split
    · exact .pure trivial
    · exact (listing_meets _ inputs).mono (fun _ _ => trivial) fun _ _ => trivial
  · exact .giveUp trivial

/-- Texts are written as one, and the user is told if that fails. -/
theorem run_print (texts : List String) (streams : Streams) :
    (print cutting texts).run streams =
      match streams.stdout.deliver (.ofString (String.join texts)) with
      | (stdout, none) => (Outcome.success, { streams with stdout })
      | (stdout, some reason) =>
        (Outcome.failure,
          { streams with stdout }.tell (Work.errorLine (writeFailure reason))) := by
  simp only [print, StateT.run_bind, StateT.run_get, pure_bind, StateT.run_set,
    Sink.deliverTexts_eq_deliver]
  rcases streams.stdout.deliver (.ofString (String.join texts)) with ⟨stdout, _ | reason⟩
  · rfl
  · show (complain cutting _ >>= _).run _ = _
    rw [StateT.run_bind, run_complain]
    rfl

theorem performs_answerTo (args : List Bytes) (inputs : Inputs) :
    Performs String.join (Attempt.answerTo cutting args inputs) (answerTo args inputs) := by
  unfold answerTo Attempt.answerTo
  cases Arguments.ofArgs args.tail with
  | ok a => exact performs_answer cutting a inputs
  | error e => exact .giveUp cutting _

/-- **The run.**  What a run does to its streams is what `run` tells of: its output is delivered,
    and its diagnostics are written as far as they fit. -/
theorem session_eq_run (args : List Bytes) (inputs : Inputs) (streams : Streams) :
    let o := run args inputs streams.stdout
    runOn cutting args inputs streams =
      (o.status, ⟨o.output, (streams.stderr.write (.ofString o.diagnostics)).1⟩) := by
  intro o
  have ho : o = deliver streams.stdout (answerTo args inputs).run :=
    run_eq_deliver args inputs streams.stdout
  clear_value o
  subst ho
  -- The answer is found as it is told of; what remains is to write it.
  obtain ⟨result, hrun, hvalue⟩ := performs_answerTo cutting args inputs streams
  rw [runOn, session, StateT.run_bind, hrun, deliver, ← hvalue]
  cases result with
  | none => rfl
  | some texts =>
    show (print cutting texts).run _ = _
    rw [run_print]
    dsimp only [Option.map_some, Streams.tell]
    rcases streams.stdout.deliver (.ofString (String.join texts)) with ⟨stdout, _ | reason⟩
    · rfl
    · -- That it fails is told last.
      rw [Outcome.diagnostics_eq, diagnosticText_append, Bytes.ofString_append,
        Sink.fst_write_append, diagnosticText_diagnostic]

/-- How texts are cut into pieces makes no difference. -/
theorem runOn_eq_runOn_whole (args : List Bytes) (inputs : Inputs) (streams : Streams) :
    runOn cutting args inputs streams = runOn .whole args inputs streams := by
  rw [session_eq_run, session_eq_run]

/-! ### Streams that fail -/

/-- A run gives up, and tells the user why without writing anything else; or it has a text to
    deliver, and tells the user something only if that fails. -/
theorem runOn_gives_up_or_delivers (args : List Bytes) (inputs : Inputs) :
    (∃ told, ∀ stdout stderr, runOn cutting args inputs ⟨stdout, stderr⟩ =
      (Outcome.failure, ⟨stdout, (stderr.write told).1⟩)) ∨
    (∃ bytes, ∀ stdout stderr,
      ((stdout.deliver bytes).2 = none → runOn cutting args inputs ⟨stdout, stderr⟩ =
        (Outcome.success, ⟨(stdout.deliver bytes).1, stderr⟩)) ∧
      ∀ reason, (stdout.deliver bytes).2 = some reason →
        runOn cutting args inputs ⟨stdout, stderr⟩ =
          (Outcome.failure, ⟨(stdout.deliver bytes).1,
            (stderr.write (.ofString (Work.errorLine (writeFailure reason)))).1⟩)) := by
  have hmeets := answerTo_meets args inputs
  unfold Work.Meets at hmeets
  split at hmeets
  · rename_i text hvalue
    obtain ⟨-, htext⟩ := hmeets
    refine .inr ⟨.ofString text, fun stdout stderr => ?_⟩
    rw [session_eq_run, run_eq_deliver, deliver, hvalue]
    dsimp only
    -- Nothing has been told when the text is delivered.
    rcases stdout.deliver (.ofString text) with ⟨stdout, failure⟩
    constructor
    · rintro rfl
      have hnil : (stderr.write (.ofString "")).1 = stderr :=
        congrArg Prod.fst stderr.write_nil
      dsimp only
      rw [Outcome.diagnostics_eq, htext, hnil]
    · rintro reason rfl
      dsimp only
      rw [Outcome.diagnostics_eq, diagnosticText_append, htext, String.empty_append,
        diagnosticText_diagnostic]
  · rename_i hvalue
    refine .inl ⟨.ofString (diagnosticText (answerTo args inputs).run.events), fun _ _ => ?_⟩
    rw [session_eq_run, run_eq_deliver, deliver, hvalue]
    rfl

/-- Standard error gets as much as there is room for, and nothing else changes. -/
theorem runOn_stderr_room (args : List Bytes) (inputs : Inputs) (stdout : Sink) (room : Nat) :
    let o := runOn cutting args inputs { stdout }
    let o' := runOn cutting args inputs { stdout, stderr := { room := some room } }
    o'.1 = o.1 ∧ o'.2.stdout = o.2.stdout ∧
      o'.2.stderr.written = o.2.stderr.written.take room := by
  rw [session_eq_run, session_eq_run]
  refine ⟨rfl, rfl, ?_⟩
  rw [Sink.written_write_of_room _ rfl, Sink.written_write_of_unlimited _ rfl]
  rfl

/-- **Truncation.**  Of the output and the diagnostics of a run, a stream with too little room gets
    as much as there is room for.  If that is standard output, or if it does not confirm what it
    has taken, the run fails and tells why; and if it is standard error, nothing else changes. -/
theorem runOn_truncated (cutting : Cutting) (args : List Bytes) (inputs : Inputs) :
    let full := runOn cutting args inputs {}
    let status := full.1
    let output := full.2.stdout.written
    let told := full.2.stderr.written
    (∀ room, output.length ≤ room →
      let o := runOn cutting args inputs { stdout := { room := some room } }
      o.1 = status ∧ o.2.stdout.written = output ∧ o.2.stderr.written = told) ∧
    (∀ room flushFails, room < output.length →
      let o := runOn cutting args inputs { stdout := { room := some room, flushFails } }
      o.1 = 1 ∧ o.2.stdout.written = output.take room ∧
        o.2.stderr.written = .ofString "error: failed to write output: closed\n") ∧
    (∀ stdout : Sink, stdout.HasRoomFor output → stdout.written = [] → stdout.flushFails = true →
      let o := runOn cutting args inputs { stdout }
      o.1 = 1 ∧ o.2.stdout.written = output ∧
        (status = 0 →
          o.2.stderr.written = .ofString "error: failed to write output: flush failed\n") ∧
        (status ≠ 0 → o.2.stderr.written = told)) ∧
    (∀ (stdout : Sink) (room : Nat),
      let o := runOn cutting args inputs { stdout }
      let o' := runOn cutting args inputs { stdout, stderr := { room := some room } }
      o'.1 = o.1 ∧ o'.2.stdout = o.2.stdout ∧
        o'.2.stderr.written = o.2.stderr.written.take room) := by
  intro full status output told
  rcases runOn_gives_up_or_delivers cutting args inputs with ⟨report, hrun⟩ | ⟨bytes, hrun⟩
  · -- Nothing is written, so that there is room for it in any case.
    have hfull : full = (Outcome.failure, ⟨{}, (Sink.write {} report).1⟩) := hrun {} {}
    have houtput : output = [] := congrArg (·.2.stdout.written) hfull
    have hstatus : status = 1 := congrArg (·.1) hfull
    have htold : told = (Sink.write {} report).1.written := congrArg (·.2.stderr.written) hfull
    rw [houtput, hstatus, htold]
    refine ⟨fun room _ => ?_, fun room _ hroom => ?_, fun stdout _ hwritten _ => ?_,
      runOn_stderr_room cutting args inputs⟩
    · rw [hrun]
      exact ⟨rfl, rfl, rfl⟩
    · exact absurd hroom (Nat.not_lt_zero room)
    · rw [hrun]
      exact ⟨rfl, hwritten, fun h => absurd h (by decide), fun _ => rfl⟩
  · have hfull : full = (Outcome.success, ⟨(Sink.deliver {} bytes).1, {}⟩) := (hrun {} {}).1 rfl
    have houtput : output = bytes := congrArg (·.2.stdout.written) hfull
    have hstatus : status = 0 := congrArg (·.1) hfull
    have htold : told = [] := congrArg (·.2.stderr.written) hfull
    rw [houtput, hstatus, htold]
    refine ⟨fun room hroom => ?_, fun room flushFails hroom => ?_,
      fun stdout hroom hbefore hflush => ?_, runOn_stderr_room cutting args inputs⟩
    · have hsink : Sink.HasRoomFor { room := some room } bytes := by
        rintro _ ⟨⟩
        exact hroom
      obtain ⟨hwritten, hconfirmed⟩ := Sink.deliver_of_hasRoomFor _ hsink
      rw [(hrun _ _).1 hconfirmed]
      exact ⟨rfl, hwritten, rfl⟩
    · obtain ⟨hwritten, hclosed⟩ :=
        Sink.deliver_of_room_lt { room := some room, flushFails } rfl hroom
      rw [(hrun _ _).2 _ hclosed]
      exact ⟨rfl, hwritten, by rfl⟩
    · obtain ⟨hwritten, hfailed⟩ := stdout.deliver_of_hasRoomFor hroom
      rw [hflush, if_pos rfl] at hfailed
      rw [hbefore, List.nil_append] at hwritten
      rw [(hrun _ _).2 _ hfailed]
      exact ⟨rfl, hwritten, fun _ => by rfl, fun h => absurd rfl h⟩

-- There is room for some of the version only. -/
example :
    let o := runOn .single (["schema-filter", "--version"].map Bytes.ofString)
      { file := fun _ => .error .notFound, standardInput := .ok [] }
      { stdout := { room := some 6 } }
    o.1 = 1 ∧ o.2.stdout.written = .ofString "schema" ∧
      o.2.stderr.written = .ofString "error: failed to write output: closed\n" := by
  decide

end Command

end SchemaFilter
