import SchemaFilter.Command.Run

/-!
# What work comes to

Work ends with a result, or is given up.  What its user is told in the end is what the diagnostics
say one after another; events are for observers only.

* `diagnosticText` — what the diagnostics among some notes say;
* `Work.Meets` — work that ends with a result has told its user nothing, and both the result and
  what is told when the work is given up are as they should be;
* `Work.Meets.bind` and the other rules — how that is shown step by step;
* `Work.Agrees` — two works that are the same to their user, with results that are related;
* `deliver_agrees` — what two such works lead to.
-/

namespace SchemaFilter.Command

/-! ### Diagnostics -/

/-- What the diagnostics among some notes say, one after another. -/
def diagnosticText (notes : List Note) : String :=
  String.join <| notes.filterMap fun
    | .event _ => none
    | .diagnostic text => some text

theorem Outcome.diagnostics_eq (o : Outcome) : o.diagnostics = diagnosticText o.notes := rfl

@[simp] theorem diagnosticText_append (notes more : List Note) :
    diagnosticText (notes ++ more) = diagnosticText notes ++ diagnosticText more := by
  unfold diagnosticText
  rw [List.filterMap_append, String.join_append]

@[simp] theorem diagnosticText_diagnostic (text : String) :
    diagnosticText [.diagnostic text] = text := by
  simp [diagnosticText]

/-- Events are no diagnostics. -/
@[simp] theorem diagnosticText_events (events : List Event) :
    diagnosticText (events.map .event) = "" := by
  induction events with
  | nil => rfl
  | cons event events ih => exact ih

@[simp] theorem diagnosticText_event (event : Event) : diagnosticText [.event event] = "" :=
  diagnosticText_events [event]

namespace Work

variable {α β ε : Type}

/-! ### Results and reports -/

/-- Work that ends with a result tells its user nothing, and the result is as it should be; and
    where the work is given up, so is what its user is told. -/
def Meets (work : Work α) (post : α → Prop) (report : String → Prop) : Prop :=
  match work.run.value with
  | some a => post a ∧ diagnosticText work.run.events = ""
  | none => report (diagnosticText work.run.events)

variable {work : Work α} {post : α → Prop} {report : String → Prop}

theorem meets_of_some {a : α} (hvalue : work.run.value = some a) (ha : post a)
    (htext : diagnosticText work.run.events = "") : work.Meets post report := by
  rw [Meets, hvalue]
  exact ⟨ha, htext⟩

theorem meets_of_none (hvalue : work.run.value = none)
    (htext : report (diagnosticText work.run.events)) : work.Meets post report := by
  rw [Meets, hvalue]
  exact htext

/-- What is met can be met less strictly. -/
theorem Meets.mono {post' : α → Prop} {report' : String → Prop} (h : work.Meets post report)
    (hpost : ∀ a, post a → post' a) (hreport : ∀ text, report text → report' text) :
    work.Meets post' report' := by
  unfold Meets at h ⊢
  split at h
  · exact ⟨hpost _ h.1, h.2⟩
  · exact hreport _ h

/-! ### Rules -/

theorem Meets.pure {a : α} (h : post a) : (pure a : Work α).Meets post report :=
  meets_of_some rfl h rfl

/-- Work goes on with the result of other work, and tells what both tell. -/
theorem run_bind_of_some {next : α → Work β} {a : α} (hvalue : work.run.value = some a) :
    (work >>= next).run = ⟨(next a).run.value, work.run.events ++ (next a).run.events⟩ := by
  rw [OptionT.run_bind, Option.elimM]
  show Traced.mk _ _ = _
  rw [hvalue]
  rfl

/-- Work does not go on once it has been given up. -/
theorem run_bind_of_none {next : α → Work β} (hvalue : work.run.value = none) :
    (work >>= next).run = ⟨none, work.run.events⟩ := by
  rw [OptionT.run_bind, Option.elimM]
  show Traced.mk _ _ = _
  rw [hvalue]
  exact congrArg (Traced.mk none) (List.append_nil _)

/-- Work that goes on with the result of other work, where that has one. -/
theorem Meets.bind {mid : α → Prop} {next : α → Work β} {post : β → Prop}
    (hwork : work.Meets mid report) (hnext : ∀ a, mid a → (next a).Meets post report) :
    (work >>= next).Meets post report := by
  unfold Meets at hwork
  split at hwork
  · rename_i a hvalue
    obtain ⟨hmid, htext⟩ := hwork
    -- Nothing has been told yet, so that what is told is what the next step tells.
    have h := hnext a hmid
    unfold Meets at h ⊢
    rw [run_bind_of_some hvalue, diagnosticText_append, htext, String.empty_append]
    exact h
  · rename_i hvalue
    rw [Meets, run_bind_of_none hvalue]
    exact hwork

/-- Telling an event is not telling the user anything. -/
theorem Meets.tell_event (event : Event) {post : Unit → Prop} (h : post ()) :
    (tell (.event event)).Meets post report :=
  meets_of_some rfl h (diagnosticText_event event)

theorem Meets.watch {t : Traced Event α} (h : post t.value) : (watch t).Meets post report :=
  meets_of_some rfl h ((congrArg diagnosticText (List.append_nil _)).trans
    (diagnosticText_events t.events))

theorem Meets.giveUp {text : String} (h : report text) : (giveUp text : Work α).Meets post report :=
  meets_of_none rfl ((diagnosticText_diagnostic text).symm ▸ h)

theorem Meets.orGiveUp {message : ε → String} {result : Except ε α}
    (hok : ∀ a, result = .ok a → post a)
    (herror : ∀ e, result = .error e → report (errorLine (message e))) :
    (orGiveUp message result).Meets post report := by
  cases result with
  | ok a => exact .pure (hok a rfl)
  | error e => exact .giveUp (herror e rfl)

/-! ### Works that are the same to their user -/

/-- Both works are given up, or both end with results that are related; and their user is told the
    same.  Events may differ. -/
def Agrees {α' : Type} (R : α → α' → Prop) (work : Work α) (work' : Work α') : Prop :=
  Option.Rel R work.run.value work'.run.value ∧
    diagnosticText work.run.events = diagnosticText work'.run.events

theorem Agrees.refl (work : Work α) : Agrees Eq work work := by
  refine ⟨?_, rfl⟩
  cases work.run.value with
  | none => exact .none
  | some a => exact .some rfl

/-- Works that are never given up have told their user nothing. -/
theorem Agrees.of_meets {α' : Type} {R : α → α' → Prop} {work' : Work α'} {post' : α' → Prop}
    (h : work.Meets post fun _ => False) (h' : work'.Meets post' fun _ => False)
    (hrelated : ∀ a a', post a → post' a' → R a a') : Agrees R work work' := by
  unfold Meets at h h'
  unfold Agrees
  split at h
  · split at h'
    · rename_i hvalue _ _ hvalue'
      rw [hvalue, hvalue', h.2, h'.2]
      exact ⟨.some (hrelated _ _ h.1 h'.1), rfl⟩
    · exact h'.elim
  · exact h.elim

/-- Works that go on with related results, and do the same to their user from there on. -/
theorem Agrees.bind {α' β' : Type} {R : α → α' → Prop} {S : β → β' → Prop} {work : Work α}
    {work' : Work α'} {next : α → Work β} {next' : α' → Work β'} (hwork : Agrees R work work')
    (hnext : ∀ a a', R a a' → Agrees S (next a) (next' a')) :
    Agrees S (work >>= next) (work' >>= next') := by
  obtain ⟨hvalue, htext⟩ := hwork
  generalize hleft : work.run.value = v, hright : work'.run.value = v' at hvalue
  cases hvalue with
  | none =>
    rw [Agrees, run_bind_of_none hleft, run_bind_of_none hright]
    exact ⟨.none, htext⟩
  | some ha =>
    obtain ⟨hrest, htold⟩ := hnext _ _ ha
    rw [Agrees, run_bind_of_some hleft, run_bind_of_some hright]
    refine ⟨hrest, ?_⟩
    rw [diagnosticText_append, diagnosticText_append, htext, htold]

end Work

/-- Works that are the same to their user, and end with the same text, lead to the same. -/
theorem deliver_agrees {answer answer' : Work String} (h : Work.Agrees Eq answer answer')
    (output : Sink) :
    let o := deliver output answer.run
    let o' := deliver output answer'.run
    o.status = o'.status ∧ o.output = o'.output ∧ o.diagnostics = o'.diagnostics := by
  intro o o'
  obtain ⟨hvalue, htext⟩ := h
  have hsame : answer.run.value = answer'.run.value := by
    generalize answer.run.value = v, answer'.run.value = v' at hvalue
    cases hvalue with
    | none => rfl
    | some h => exact congrArg some h
  simp only [o, o', Outcome.diagnostics_eq, deliver, hsame]
  split
  · exact ⟨rfl, rfl, htext⟩
  · split
    · exact ⟨rfl, rfl, htext⟩
    · simp only [diagnosticText_append, htext, and_self]

end SchemaFilter.Command
