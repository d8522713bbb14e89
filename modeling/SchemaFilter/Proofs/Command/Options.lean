import SchemaFilter.Command.Arguments
import SchemaFilter.Proofs.Text.Utf8

/-!
# Options in front of arguments

Rules and rules files can be put in front of any arguments, each as an option with its value, and so
can flags that ask for a more verbose log.  What stands behind them is read as before: two readers
that differ only in what has been asked for in front, and in what a usage line would show, stay that
way.

* `Opt.assign` — an option with its value, as one argument;
* `ArgumentReader.take_assign_eq_takeOption`, `ArgumentReader.take_assign` — what one such argument
  does;
* `ArgumentReader.take_verboseArg_eq_takeFlag`, `ArgumentReader.take_verboseArg` — what a flag for
  the log does;
* `Front` — what can be asked for in front of other arguments, whatever these are;
* `ArgumentReader.Shadows` — readers in the same place, one of which has been asked for more;
* `ArgumentReader.Shadows.take` — what one argument more does to such readers;
* `Arguments.ofArgs_rules_append`, `Arguments.ofArgs_ruleFiles_append` — **what is asked for** with
  rules, or rules files, in front;
* `Arguments.ofArgs_verbose_append` — the same with flags for the log, also where the arguments are
  wrong.
-/

namespace SchemaFilter.Command

/-! ### Options with values -/

/-- An option with its value, as one argument. -/
def Opt.assign (opt : Opt) (value : Bytes) : Bytes :=
  .ofString ("--" ++ opt.long ++ "=") ++ value

namespace ArgumentReader

theorem assign_eq (opt : Opt) (value : Bytes) :
    opt.assign value =
      hyphen :: hyphen :: (Bytes.ofString opt.long ++ '='.toUInt8 :: value) := by
  cases opt <;> rfl

/-- The name of an option ends before the first equality sign, and a value may hold others. -/
theorem takeLong_assign (r : ArgumentReader) {opt : Opt} (hvalue : opt.takesValue = true)
    (value : Bytes) :
    r.takeLong (Bytes.ofString opt.long ++ '='.toUInt8 :: value) = r.takeOption opt value := by
  have hall : (Bytes.ofString opt.long).all (· ≠ '='.toUInt8) = true := by
    cases opt <;> decide
  have hname := List.all_eq_true.mp hall
  have htake : (Bytes.ofString opt.long ++ '='.toUInt8 :: value).takeWhile (· ≠ '='.toUInt8) =
      Bytes.ofString opt.long := by
    rw [List.takeWhile_append_of_pos hname, List.takeWhile_cons_of_neg (by simp),
      List.append_nil]
  have hopt : Opt.ofLong? (.ofList opt.long.toList) = some opt := by
    cases opt <;> rfl
  rw [takeLong]
  simp only [htake, List.drop_left, List.tail?_cons]
  rw [Bytes.ofString, decode?_encode]
  simp only [hopt, hvalue]

/-- An argument that is an option with its value is taken as that. -/
theorem take_assign_eq_takeOption {r : ArgumentReader} (honly : r.objectsOnly = false) {opt : Opt}
    (hvalue : opt.takesValue = true) (value : Bytes) :
    r.take (opt.assign value) = r.takeOption opt value := by
  have hname : Bytes.ofString opt.long ++ '='.toUInt8 :: value ≠ [] := by simp
  rw [assign_eq, take, honly]
  simp only [Bool.false_eq_true, if_false, decide_true, Bool.and_self, if_true, if_neg hname]
  exact takeLong_assign r hvalue value

/-- Where nothing is open, an option with its value is taken as it is. -/
theorem take_assign {r : ArgumentReader} (hpending : r.pending = .nothing)
    (honly : r.objectsOnly = false) {opt : Opt} (hvalue : opt.takesValue = true) (value : Bytes) :
    r.take (opt.assign value) =
      .ok { r.list (.option opt) with arguments := r.arguments.withValue opt value } := by
  have hsettle : r.settle = .ok r := by rw [settle, hpending]
  rw [take_assign_eq_takeOption honly hvalue, takeOption, hsettle]
  rfl

/-- A flag for the log, as one argument. -/
def verboseArg : Bytes := .ofString "-v"

/-- A flag for the log is taken as that.  Its letter is the last of the argument. -/
theorem take_verboseArg_eq_takeFlag {r : ArgumentReader} (honly : r.objectsOnly = false) :
    r.take verboseArg = r.takeFlag .verbose := by
  have hflag : r.take verboseArg = r.takeFlag .verbose >>= pure := by
    unfold take
    rw [honly]
    rfl
  rw [hflag, bind_pure]

/-- Where nothing is open, a flag for the log is taken as it is. -/
theorem take_verboseArg {r : ArgumentReader} (hpending : r.pending = .nothing)
    (honly : r.objectsOnly = false) :
    r.take verboseArg = .ok { r.listLast (.option .verbose) with
      arguments := r.arguments.withFlag .verbose } := by
  have hsettle : r.settle = .ok r := by rw [settle, hpending]
  rw [take_verboseArg_eq_takeFlag honly, takeFlag, hsettle]
  rfl

end ArgumentReader

/-- What is wrong with the arguments, apart from the items that the usage line shows. -/
def UsageError.reason : UsageError → UsageError
  | unknown arg similar _ => unknown arg similar []
  | unwantedValue value opt _ => unwantedValue value opt []
  | repeated opt => repeated opt
  | missingValue opt => missingValue opt

/-! ### What is asked for in front -/

/-- The arguments with rules and files in front of their own. -/
def Arguments.behind (rules ruleFiles : List Bytes) (a : Arguments) : Arguments :=
  { a with rules := rules ++ a.rules, ruleFiles := ruleFiles ++ a.ruleFiles }

namespace Arguments

variable (rules ruleFiles : List Bytes) (a : Arguments) (opt : Opt)

@[simp] theorem behind_given : (a.behind rules ruleFiles).given opt = a.given opt := by
  cases opt <;> rfl

@[simp] theorem behind_withFlag :
    (a.behind rules ruleFiles).withFlag opt = (a.withFlag opt).behind rules ruleFiles := by
  cases opt <;> rfl

@[simp] theorem behind_withValue (value : Bytes) :
    (a.behind rules ruleFiles).withValue opt value =
      (a.withValue opt value).behind rules ruleFiles := by
  cases opt <;> simp [withValue, behind]

@[simp] theorem behind_withObject (object : Bytes) :
    (a.behind rules ruleFiles).withObject object =
      (a.withObject object).behind rules ruleFiles := rfl

/-- The arguments with a more verbose log, by some steps. -/
def louder (count : Nat) (a : Arguments) : Arguments :=
  { a with verbosity := min maxVerbosity (a.verbosity + count) }

end Arguments

/-- What can be asked for in front of other arguments: it makes no difference to what these ask for
    besides, nor to whether they can ask for it. -/
structure Front where
  add : Arguments → Arguments
  given_add : ∀ a opt, opt ≠ .verbose → (add a).given opt = a.given opt
  withFlag_add : ∀ a opt, (add a).withFlag opt = add (a.withFlag opt)
  withValue_add : ∀ a opt value, (add a).withValue opt value = add (a.withValue opt value)
  withObject_add : ∀ a object, (add a).withObject object = add (a.withObject object)

namespace Front

/-- Rules and files. -/
def values (rules ruleFiles : List Bytes) : Front where
  add := Arguments.behind rules ruleFiles
  given_add a opt _ := a.behind_given rules ruleFiles opt
  withFlag_add a opt := a.behind_withFlag rules ruleFiles opt
  withValue_add a opt := a.behind_withValue rules ruleFiles opt
  withObject_add a := a.behind_withObject rules ruleFiles

/-- Some steps of verbosity. -/
def verbosity (count : Nat) : Front where
  add := Arguments.louder count
  given_add a opt h := by
    cases opt with
    | verbose => exact absurd rfl h
    | _ => rfl
  withFlag_add a opt := by
    cases opt with
    | verbose =>
      have hsteps : min Arguments.maxVerbosity (min Arguments.maxVerbosity (a.verbosity + count) + 1)
          = min Arguments.maxVerbosity (min Arguments.maxVerbosity (a.verbosity + 1) + count) := by
        omega
      simp only [Arguments.withFlag, Arguments.louder, hsteps]
    | _ => rfl
  withValue_add a opt _ := by cases opt <;> rfl
  withObject_add _ _ := rfl

end Front

namespace ArgumentReader

@[simp] theorem arguments_list (r : ArgumentReader) (item : Item) :
    (r.list item).arguments = r.arguments := by
  unfold list
  split <;> rfl

@[simp] theorem pending_list (r : ArgumentReader) (item : Item) :
    (r.list item).pending = r.pending := by
  unfold list
  split <;> rfl

@[simp] theorem objectsOnly_list (r : ArgumentReader) (item : Item) :
    (r.list item).objectsOnly = r.objectsOnly := by
  unfold list
  split <;> rfl

/-- The reader `s` stands where `r` does, and has read the same, with what is asked for in front.
    It may have listed other items. -/
structure Shadows (front : Front) (s r : ArgumentReader) : Prop where
  arguments : s.arguments = front.add r.arguments
  pending : s.pending = r.pending
  objectsOnly : s.objectsOnly = r.objectsOnly

/-- Where one reading goes on, the other does too, and shadows it; and where it does not, the other
    does not either, for the same reason. -/
inductive ReadingShadows (front : Front) : ArgumentReading → ArgumentReading → Prop
  | ok {s r : ArgumentReader} (h : Shadows front s r) : ReadingShadows front (.ok s) (.ok r)
  | error {e' e : UsageError} (h : e'.reason = e.reason) :
    ReadingShadows front (.error e') (.error e)

variable {front : Front} {r s : ArgumentReader}

theorem ReadingShadows.bind {x y : ArgumentReading} {f g : ArgumentReader → ArgumentReading}
    (h : ReadingShadows front y x)
    (hnext : ∀ s r, Shadows front s r → ReadingShadows front (g s) (f r)) :
    ReadingShadows front (y >>= g) (x >>= f) := by
  cases h with
  | ok h => exact hnext _ _ h
  | error h => exact .error h

theorem Shadows.settle (h : Shadows front s r) : ReadingShadows front s.settle r.settle := by
  rw [ArgumentReader.settle, ArgumentReader.settle, h.pending]
  cases r.pending with
  | nothing => exact .ok h
  | valueOf opt => exact .error rfl
  | unlisted item =>
    refine .ok ⟨?_, rfl, ?_⟩
    · simpa using h.arguments
    · simpa using h.objectsOnly

/-! ### What arguments do to such readers -/

theorem Shadows.takeFlag (h : Shadows front s r) (opt : Opt) :
    ReadingShadows front (s.takeFlag opt) (r.takeFlag opt) := by
  refine h.settle.bind fun s r h => ?_
  have hflag : s.arguments.withFlag opt = front.add (r.arguments.withFlag opt) := by
    rw [h.arguments, front.withFlag_add]
  by_cases hverbose : opt = .verbose
  · rw [if_pos hverbose, if_pos hverbose]
    exact .ok ⟨hflag, h.pending, h.objectsOnly⟩
  · rw [if_neg hverbose, if_neg hverbose, h.arguments, front.given_add _ _ hverbose]
    by_cases hgiven : r.arguments.given opt = true
    · rw [if_pos hgiven, if_pos hgiven]
      exact .error rfl
    · rw [if_neg hgiven, if_neg hgiven, ← h.arguments]
      refine .ok ⟨hflag, ?_, ?_⟩
      · simpa using h.pending
      · simpa using h.objectsOnly

theorem Shadows.takeOption (h : Shadows front s r) (opt : Opt) (value : Bytes) :
    ReadingShadows front (s.takeOption opt value) (r.takeOption opt value) := by
  refine h.settle.bind fun s r h => .ok ⟨?_, ?_, ?_⟩
  · rw [h.arguments, front.withValue_add]
  · simpa using h.pending
  · simpa using h.objectsOnly

theorem Shadows.awaitValue (h : Shadows front s r) (opt : Opt) :
    ReadingShadows front (s.awaitValue opt) (r.awaitValue opt) :=
  h.settle.bind fun _ _ h => .ok ⟨h.arguments, rfl, h.objectsOnly⟩

theorem Shadows.takeObject (h : Shadows front s r) (object : Bytes) :
    ReadingShadows front (s.takeObject object) (r.takeObject object) := by
  have hobject {s r : ArgumentReader} (h : Shadows front s r) :
      Shadows front
        { s with arguments := s.arguments.withObject object, pending := .unlisted .object }
        { r with arguments := r.arguments.withObject object, pending := .unlisted .object } :=
    ⟨by rw [h.arguments, front.withObject_add], rfl, h.objectsOnly⟩
  unfold ArgumentReader.takeObject
  rw [h.pending]
  split
  · exact .ok (hobject h)
  · exact h.settle.bind fun s r h => .ok (hobject h)

theorem Shadows.takePlain (h : Shadows front s r) (arg : Bytes) :
    ReadingShadows front (s.takePlain arg) (r.takePlain arg) := by
  rw [ArgumentReader.takePlain, ArgumentReader.takePlain, h.pending]
  cases r.pending with
  | valueOf opt =>
    refine .ok ⟨?_, rfl, h.objectsOnly⟩
    rw [h.arguments, front.withValue_add]
  | nothing => exact h.takeObject arg
  | unlisted item => exact h.takeObject arg

/-- An unknown option is refused in any case, though not always with the same usage line. -/
theorem Shadows.refuseLong (name : String) :
    ReadingShadows front (s.refuseLong name) (r.refuseLong name) :=
  .error rfl

theorem Shadows.takeLong (h : Shadows front s r) (text : Bytes) :
    ReadingShadows front (s.takeLong text) (r.takeLong text) := by
  unfold ArgumentReader.takeLong
  dsimp only
  split
  · exact Shadows.refuseLong _
  split
  · exact Shadows.refuseLong _
  split
  · exact h.takeOption _ _
  · exact h.awaitValue _
  · exact h.takeFlag _
  · exact .error rfl

theorem Shadows.takeShorts (h : Shadows front s r) (limit : Nat) (bytes : Bytes) :
    ReadingShadows front (s.takeShorts limit bytes) (r.takeShorts limit bytes) := by
  -- Each flag leaves readers of which one shadows the other, and the options behind it to be taken.
  induction limit generalizing s r bytes with
  | zero => exact .ok h
  | succ limit ih =>
    cases bytes with
    | nil => exact .ok h
    | cons b bytes =>
      unfold ArgumentReader.takeShorts
      split
      · exact .error rfl
      split
      · exact .error rfl
      split
      · split
        · exact h.awaitValue _
        · exact h.takeOption _ _
      · exact (h.takeFlag _).bind fun s r h => ih h _

theorem Shadows.take (h : Shadows front s r) (arg : Bytes) :
    ReadingShadows front (s.take arg) (r.take arg) := by
  unfold ArgumentReader.take
  rw [h.objectsOnly]
  split
  · exact h.takeObject arg
  · split
    · split
      · split
        · exact .ok ⟨h.arguments, h.pending, rfl⟩
        · exact h.takeLong _
      split
      · exact h.takeShorts _ _
      · exact h.takePlain _
    · exact h.takePlain _

theorem Shadows.foldlM_take (h : Shadows front s r) (args : List Bytes) :
    ReadingShadows front (args.foldlM ArgumentReader.take s)
      (args.foldlM ArgumentReader.take r) := by
  induction args generalizing s r with
  | nil => exact .ok h
  | cons arg args ih =>
    rw [List.foldlM_cons, List.foldlM_cons]
    exact (h.take arg).bind fun s r h => ih h

/-! ### Options in front -/

/-- Options with values in front are taken one after another, and leave nothing open. -/
theorem foldlM_take_assign {opt : Opt} (hvalue : opt.takesValue = true) (values : List Bytes)
    {s : ArgumentReader} (hpending : s.pending = .nothing) (honly : s.objectsOnly = false) :
    ∃ s', (values.map opt.assign).foldlM ArgumentReader.take s = .ok s' ∧
      s'.arguments = values.foldl (·.withValue opt ·) s.arguments ∧
      s'.pending = .nothing ∧ s'.objectsOnly = false := by
  induction values generalizing s with
  | nil => exact ⟨s, rfl, rfl, hpending, honly⟩
  | cons value values ih =>
    rw [List.map_cons, List.foldlM_cons, take_assign hpending honly hvalue]
    exact ih ((pending_list s _).trans hpending) ((objectsOnly_list s _).trans honly)

/-- So are flags for the log. -/
theorem foldlM_take_verbose (count : Nat) {s : ArgumentReader}
    (hverbosity : s.arguments.verbosity ≤ Arguments.maxVerbosity) (hpending : s.pending = .nothing)
    (honly : s.objectsOnly = false) :
    ∃ s', (List.replicate count verboseArg).foldlM ArgumentReader.take s = .ok s' ∧
      s'.arguments = s.arguments.louder count ∧
      s'.pending = .nothing ∧ s'.objectsOnly = false := by
  induction count generalizing s with
  | zero =>
    refine ⟨s, rfl, ?_, hpending, honly⟩
    simp [Arguments.louder, hverbosity]
  | succ count ih =>
    rw [List.replicate_succ, List.foldlM_cons, take_verboseArg hpending honly]
    obtain ⟨s', hs', harguments, hopen⟩ := @ih
      { s.listLast (.option .verbose) with arguments := s.arguments.withFlag .verbose }
      (Nat.min_le_left _ _) hpending honly
    refine ⟨s', hs', harguments.trans ?_, hopen⟩
    simp [Arguments.louder, Arguments.withFlag]
    omega

end ArgumentReader

namespace Arguments

theorem foldl_withValue_filter (texts : List Bytes) (a : Arguments) :
    texts.foldl (·.withValue .filter ·) a = { a with rules := a.rules ++ texts } := by
  induction texts generalizing a with
  | nil => simp
  | cons text texts ih =>
    rw [List.foldl_cons, ih, withValue, List.append_assoc, List.singleton_append]

theorem foldl_withValue_filterFile (paths : List Bytes) (a : Arguments) :
    paths.foldl (·.withValue .filterFile ·) a =
      { a with ruleFiles := a.ruleFiles ++ paths } := by
  induction paths generalizing a with
  | nil => simp
  | cons path paths ih =>
    rw [List.foldl_cons, ih, withValue, List.append_assoc, List.singleton_append]

/-- Some arguments ask for something in front of all others: none of them is the beginning of
    another argument, nor the end of the options. -/
def AskFor (args : List Bytes) (front : Front) : Prop :=
  ∃ s, args.foldlM ArgumentReader.take {} = .ok s ∧ s.arguments = front.add {} ∧
    s.pending = .nothing ∧ s.objectsOnly = false

/-- Arguments with others in front of them ask for what they ask for, and for what these do; and if
    they are wrong, then still for the same reason. -/
theorem AskFor.ofArgs_append {first : List Bytes} {front : Front} (h : AskFor first front)
    (rest : List Bytes) :
    (∀ a, ofArgs rest = .ok a → ofArgs (first ++ rest) = .ok (front.add a)) ∧
    (∀ e, ofArgs rest = .error e →
      ∃ e', ofArgs (first ++ rest) = .error e' ∧ e'.reason = e.reason) := by
  obtain ⟨s, hs, harguments, hpending, honly⟩ := h
  have hstart : ArgumentReader.Shadows front s {} := ⟨harguments, hpending, honly⟩
  have hread : ArgumentReader.ReadingShadows front
      (rest.foldlM ArgumentReader.take s >>= ArgumentReader.settle)
      (rest.foldlM ArgumentReader.take {} >>= ArgumentReader.settle) :=
    (hstart.foldlM_take rest).bind fun _ _ h => h.settle
  have hfirst : ofArgs (first ++ rest) =
      (rest.foldlM ArgumentReader.take s >>= ArgumentReader.settle) >>= (pure ·.arguments) := by
    rw [ofArgs, List.foldlM_append, hs]
    show (rest.foldlM ArgumentReader.take s >>= fun r => r.settle >>= (pure ·.arguments)) = _
    rw [bind_assoc]
  have hrest : ofArgs rest =
      (rest.foldlM ArgumentReader.take {} >>= ArgumentReader.settle) >>= (pure ·.arguments) := by
    rw [ofArgs, bind_assoc]
  rw [hfirst, hrest]
  generalize rest.foldlM ArgumentReader.take s >>= ArgumentReader.settle = y,
    rest.foldlM ArgumentReader.take {} >>= ArgumentReader.settle = x at hread ⊢
  cases hread with
  | ok h =>
    constructor
    · rintro _ ⟨⟩
      exact congrArg Except.ok h.arguments
    · rintro _ ⟨⟩
  | error h =>
    constructor
    · rintro _ ⟨⟩
    · rintro _ ⟨⟩
      exact ⟨_, rfl, h⟩

/-- Options with values ask for their values. -/
theorem askFor_assign {opt : Opt} (hvalue : opt.takesValue = true) {values : List Bytes}
    {rules ruleFiles : List Bytes}
    (hvalues : values.foldl (·.withValue opt ·) {} = ({} : Arguments).behind rules ruleFiles) :
    AskFor (values.map opt.assign) (.values rules ruleFiles) := by
  obtain ⟨s, hs, harguments, hopen⟩ :=
    ArgumentReader.foldlM_take_assign hvalue values (s := {}) rfl rfl
  exact ⟨s, hs, harguments.trans hvalues, hopen⟩

theorem askFor_verbose (count : Nat) :
    AskFor (List.replicate count ArgumentReader.verboseArg) (.verbosity count) :=
  ArgumentReader.foldlM_take_verbose count (Nat.zero_le _) rfl rfl

variable {rest : List Bytes} {a : Arguments}

/-- **Rules in front.** -/
theorem ofArgs_rules_append (haccepted : ofArgs rest = .ok a) (texts : List Bytes) :
    ofArgs (texts.map Opt.filter.assign ++ rest) = .ok (a.behind texts []) := by
  have hvalues : texts.foldl (·.withValue .filter ·) {} = ({} : Arguments).behind texts [] := by
    rw [foldl_withValue_filter]
    simp [behind]
  exact ((askFor_assign rfl hvalues).ofArgs_append rest).1 a haccepted

/-- **Rules files in front.** -/
theorem ofArgs_ruleFiles_append (haccepted : ofArgs rest = .ok a) (paths : List Bytes) :
    ofArgs (paths.map Opt.filterFile.assign ++ rest) = .ok (a.behind [] paths) := by
  have hvalues : paths.foldl (·.withValue .filterFile ·) {} =
      ({} : Arguments).behind [] paths := by
    rw [foldl_withValue_filterFile]
    simp [behind]
  exact ((askFor_assign rfl hvalues).ofArgs_append rest).1 a haccepted

/-- **Flags for the log in front.** -/
theorem ofArgs_verbose_append (count : Nat) (rest : List Bytes) :
    (∀ a, ofArgs rest = .ok a →
      ofArgs (List.replicate count ArgumentReader.verboseArg ++ rest) = .ok (a.louder count)) ∧
    (∀ e, ofArgs rest = .error e →
      ∃ e', ofArgs (List.replicate count ArgumentReader.verboseArg ++ rest) = .error e' ∧
        e'.reason = e.reason) :=
  (askFor_verbose count).ofArgs_append rest

end Arguments

end SchemaFilter.Command
