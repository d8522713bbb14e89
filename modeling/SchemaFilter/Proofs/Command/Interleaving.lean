import SchemaFilter.Proofs.Command.Options
import SchemaFilter.Proofs.Command.Outcome

/-!
# Arguments of several kinds, mixed

Rules, rules files, objects and flags can be mixed in any way.  What they ask for is found kind by
kind: of each kind only its own order matters.  So the rules in the arguments always come first, and
behind them those of the files.

* `Token` — the arguments that can be mixed, as they are written;
* `Arguments.askedBy` — what some of them ask for, kind by kind;
* `ArgumentReader.Reaches` — reading goes on with what is asked for, and anything may follow;
* `ArgumentReader.IsReady.take` — **the step**: one argument more;
* `ArgumentReader.IsReady.foldlM_take` — **the run**: all of them are read as what they ask for;
* `run_tokens` — **interleaving** makes no difference.
-/

namespace SchemaFilter.Command

/-! ### Arguments -/

/-- An argument: a rule or a rules file with its option, a flag, or an object, which must not look
    like an option. -/
inductive Token where
  | rule (text : Bytes)
  | ruleFile (path : Bytes)
  | verbose
  | json
  | object (text : Bytes) (plain : text.head? ≠ some ArgumentReader.hyphen)
  deriving DecidableEq

namespace Token

/-- The argument as it is written. -/
def arg : Token → Bytes
  | rule text => Opt.filter.assign text
  | ruleFile path => Opt.filterFile.assign path
  | verbose => .ofString "-v"
  | json => .ofString "--json"
  | object text _ => text

/-- The rule, if it is one. -/
def rule? : Token → Option Bytes
  | rule text => some text
  | _ => none

/-- The path of the rules file, if it is one. -/
def ruleFile? : Token → Option Bytes
  | ruleFile path => some path
  | _ => none

/-- The object, if it is one. -/
def object? : Token → Option Bytes
  | object text _ => some text
  | _ => none

/-- What is asked for with the argument behind others. -/
def addTo (a : Arguments) : Token → Arguments
  | rule text => a.withValue .filter text
  | ruleFile path => a.withValue .filterFile path
  | verbose => a.withFlag .verbose
  | json => a.withFlag .json
  | object text _ => a.withObject text

end Token

/-- What some arguments ask for, kind by kind. -/
def Arguments.askedBy (tokens : List Token) : Arguments where
  json := decide (.json ∈ tokens)
  verbosity := min maxVerbosity (tokens.count .verbose)
  rules := tokens.filterMap Token.rule?
  ruleFiles := tokens.filterMap Token.ruleFile?
  objects := tokens.filterMap Token.object?

theorem Arguments.askedBy_concat (tokens : List Token) (token : Token) :
    askedBy (tokens ++ [token]) = token.addTo (askedBy tokens) := by
  have hcount : min maxVerbosity (tokens.count .verbose + 1) =
      min maxVerbosity (min maxVerbosity (tokens.count .verbose) + 1) := by
    omega
  cases token <;>
    simp [askedBy, Token.addTo, withValue, withFlag, withObject, Token.rule?, Token.ruleFile?,
      Token.object?, hcount]

/-! ### One argument -/

namespace ArgumentReader

/-- The reader is ready for any argument. -/
structure IsReady (r : ArgumentReader) : Prop where
  pending : ∀ opt, r.pending ≠ .valueOf opt
  objectsOnly : r.objectsOnly = false

/-- Reading goes on with what is asked for, and is ready for any argument. -/
def Reaches (x : ArgumentReading) (a : Arguments) : Prop :=
  ∃ r, x = .ok r ∧ r.arguments = a ∧ r.IsReady

variable {r : ArgumentReader}

theorem IsReady.list (h : r.IsReady) (item : Item) : (r.list item).IsReady where
  pending opt := by
    rw [pending_list]
    exact h.pending opt
  objectsOnly := (r.objectsOnly_list item).trans h.objectsOnly

theorem IsReady.reaches (h : r.IsReady) (a : Arguments) :
    Reaches (.ok { r with arguments := a }) a :=
  ⟨_, rfl, rfl, h.pending, h.objectsOnly⟩

theorem IsReady.settle (h : r.IsReady) : Reaches r.settle r.arguments := by
  unfold ArgumentReader.settle
  cases hpending : r.pending with
  | nothing => exact ⟨r, rfl, rfl, h⟩
  | valueOf opt => exact absurd hpending (h.pending opt)
  | unlisted item =>
    exact ⟨_, rfl, r.arguments_list item, by simp, (h.list item).objectsOnly⟩

theorem IsReady.takeOption (h : r.IsReady) (opt : Opt) (value : Bytes) :
    Reaches (r.takeOption opt value) (r.arguments.withValue opt value) := by
  obtain ⟨s, hsettle, harguments, hs⟩ := h.settle
  rw [ArgumentReader.takeOption, hsettle, ← harguments]
  exact (hs.list _).reaches _

/-- A flag is taken if it can be given again, or has not been given. -/
theorem IsReady.takeFlag (h : r.IsReady) {opt : Opt}
    (hnew : opt = .verbose ∨ r.arguments.given opt = false) :
    Reaches (r.takeFlag opt) (r.arguments.withFlag opt) := by
  obtain ⟨s, hsettle, harguments, hs⟩ := h.settle
  rw [ArgumentReader.takeFlag, hsettle, ← harguments]
  show Reaches (if opt = .verbose then _ else _) _
  by_cases hverbose : opt = .verbose
  · rw [if_pos hverbose]
    exact ⟨_, rfl, rfl, hs.pending, hs.objectsOnly⟩
  · have hgiven : ¬ s.arguments.given opt = true := by
      rw [harguments, hnew.resolve_left hverbose]
      exact Bool.false_ne_true
    rw [if_neg hverbose, if_neg hgiven]
    exact (hs.list _).reaches _

theorem IsReady.takeObject (h : r.IsReady) (object : Bytes) :
    Reaches (r.takeObject object) (r.arguments.withObject object) := by
  have hobject {s : ArgumentReader} (hs : s.IsReady) :
      Reaches (.ok { s with
        arguments := s.arguments.withObject object
        pending := .unlisted .object }) (s.arguments.withObject object) :=
    ⟨_, rfl, rfl, by simp, hs.objectsOnly⟩
  -- An object behind another is not settled, but the reader is as ready as before.
  unfold ArgumentReader.takeObject
  split
  · exact hobject h
  · obtain ⟨s, hsettle, harguments, hs⟩ := h.settle
    rw [hsettle, ← harguments]
    exact hobject hs

/-- What does not begin with a hyphen is an object. -/
theorem IsReady.take_of_plain (h : r.IsReady) {text : Bytes}
    (hplain : text.head? ≠ some hyphen) : r.take text = r.takeObject text := by
  have hobject : r.takePlain text = r.takeObject text := by
    unfold takePlain
    cases hpending : r.pending with
    | valueOf opt => exact absurd hpending (h.pending opt)
    | nothing => rfl
    | unlisted item => rfl
  rw [← hobject]
  unfold ArgumentReader.take
  rw [h.objectsOnly, if_neg Bool.false_ne_true]
  split
  · rename_i first second rest
    have hfirst : first ≠ hyphen := fun heq => hplain (congrArg some heq)
    simp [hfirst]
  · rfl

/-- **The step.**  An argument more is read as what it adds to the others, unless it is a flag that
    can be given once, and has been. -/
theorem IsReady.take (h : r.IsReady) {token : Token}
    (hjson : token = .json → r.arguments.json = false) :
    Reaches (r.take token.arg) (token.addTo r.arguments) := by
  cases token with
  | rule text =>
    rw [Token.arg, take_assign_eq_takeOption h.objectsOnly rfl]
    exact h.takeOption .filter text
  | ruleFile path =>
    rw [Token.arg, take_assign_eq_takeOption h.objectsOnly rfl]
    exact h.takeOption .filterFile path
  | verbose =>
    have hflag : r.take (Token.arg .verbose) = r.takeFlag .verbose :=
      take_verboseArg_eq_takeFlag h.objectsOnly
    rw [hflag]
    exact h.takeFlag (.inl rfl)
  | json =>
    have hflag : r.take (Token.arg .json) = r.takeFlag .json := by
      unfold ArgumentReader.take
      rw [h.objectsOnly]
      rfl
    rw [hflag]
    exact h.takeFlag (.inr (hjson rfl))
  | object text plain =>
    rw [Token.arg, h.take_of_plain plain]
    exact h.takeObject text

/-! ### All arguments -/

/-- **The run.**  Behind some arguments, others are read as what all of them ask for. -/
theorem IsReady.foldlM_take (h : r.IsReady) {before : List Token}
    (harguments : r.arguments = .askedBy before) {tokens : List Token}
    (hjson : (before ++ tokens).count .json ≤ 1) :
    Reaches ((tokens.map Token.arg).foldlM ArgumentReader.take r)
      (.askedBy (before ++ tokens)) := by
  -- Each step moves one argument over to those before, which is what the reader has by then.
  induction tokens generalizing r before with
  | nil =>
    rw [List.append_nil]
    exact ⟨r, rfl, harguments, h⟩
  | cons token tokens ih =>
    have hnew : token = .json → r.arguments.json = false := by
      -- Were the flag among those before, it would be given twice.
      rintro rfl
      have hbefore : Token.json ∉ before := by
        rw [List.count_append, List.count_cons_self] at hjson
        exact List.count_eq_zero.mp (by omega)
      rw [harguments]
      exact decide_eq_false hbefore
    obtain ⟨s, htake, hs, hready⟩ := h.take hnew
    rw [harguments, ← Arguments.askedBy_concat] at hs
    rw [List.append_cons] at hjson ⊢
    rw [List.map_cons, List.foldlM_cons, htake]
    exact ih hready hs hjson

end ArgumentReader

/-- Mixed arguments are read as what they ask for, kind by kind. -/
theorem Arguments.ofArgs_tokens {tokens : List Token} (hjson : tokens.count .json ≤ 1) :
    ofArgs (tokens.map Token.arg) = .ok (askedBy tokens) := by
  have hstart : ({} : ArgumentReader).IsReady := ⟨by simp, rfl⟩
  have hnone : ({} : ArgumentReader).arguments = askedBy [] := rfl
  obtain ⟨r, hread, harguments, hr⟩ := hstart.foldlM_take hnone hjson
  obtain ⟨s, hsettle, hs, -⟩ := hr.settle
  rw [ofArgs, hread]
  show (r.settle >>= fun r => pure r.arguments) = _
  rw [hsettle]
  show Except.ok s.arguments = _
  rw [hs, harguments, List.nil_append]

/-! ### What they lead to -/

/-- The listing of the rules that some texts spell, or of what they say of some objects. -/
def listingOf (json : Bool) (raws : List String) (objects : List Bytes) : Work String := do
  let set ← buildSet raws
  let objects ← readObjects objects
  Work.tell (.event (.evaluating set.size objects.length json))
  return Listing.text json set objects

theorem Arguments.listing_eq (a : Arguments) (inputs : Inputs) :
    a.listing inputs = a.loadRules inputs >>= fun raws => listingOf a.json raws a.objects := rfl

/-- Where all sources can be read, what is listed is made of the texts of all rules. -/
theorem listing_agrees {a : Arguments} {inputs : Inputs} (hsources : a.SourcesReadable inputs) :
    Work.Agrees Eq (a.listing inputs) (listingOf a.json (a.ruleTexts inputs) a.objects) := by
  have hload := loadRules_meets_of_readable hsources fun _ => False
  rw [Arguments.listing_eq]
  unfold Work.Meets at hload
  split at hload
  · rename_i raws hvalue
    obtain ⟨rfl, htext⟩ := hload
    rw [Work.Agrees, Work.run_bind_of_some hvalue, diagnosticText_append, htext,
      String.empty_append]
    exact ⟨(Work.Agrees.refl (listingOf a.json _ a.objects)).1, rfl⟩
  · exact hload.elim

/-- **Interleaving.**  Two mixtures of the same rules, the same rules files and the same objects,
    each of these in the same order, lead to the same, if both ask for JSON or neither does.  What
    is evaluated are the rules in the arguments, and behind them those of the files in order, if
    all of these can be read; or else only the first that cannot be read is told of. -/
theorem run_tokens {tokens tokens' : List Token} (hjson : tokens.count .json ≤ 1)
    (hjson' : tokens'.count .json ≤ 1)
    (hrules : tokens'.filterMap Token.rule? = tokens.filterMap Token.rule?)
    (hfiles : tokens'.filterMap Token.ruleFile? = tokens.filterMap Token.ruleFile?)
    (hobjects : tokens'.filterMap Token.object? = tokens.filterMap Token.object?)
    (hsame : .json ∈ tokens' ↔ .json ∈ tokens) (program : Bytes) (inputs : Inputs)
    (output : Sink) :
    let o := run (program :: tokens.map Token.arg) inputs output
    let rules := (tokens.filterMap Token.rule?).map Bytes.toText
    let sources := (tokens.filterMap Token.ruleFile?).map Source.ofArg
    run (program :: tokens'.map Token.arg) inputs output = o ∧
    ((∀ source ∈ sources, source.IsReadable inputs) →
      let evaluated := rules ++ (Source.rulesEach inputs [] sources).flatten
      let e := deliver output (listingOf (decide (.json ∈ tokens)) evaluated
        (tokens.filterMap Token.object?)).run
      o.status = e.status ∧ o.output = e.output ∧ o.diagnostics = e.diagnostics) ∧
    (∀ before source after cause, sources = before ++ source :: after →
      (∀ s ∈ before, s.IsReadable inputs) → source.read inputs = .error cause →
      o.status = 1 ∧ o.output = output ∧
        o.diagnostics = Work.errorLine (SourceError.message ⟨source, cause⟩)) := by
  intro o rules sources
  have hrun : o = deliver output ((Arguments.askedBy tokens).listing inputs).run :=
    run_eq_deliver_listing inputs output (Arguments.ofArgs_tokens hjson) rfl rfl
  have hrun' : run (program :: tokens'.map Token.arg) inputs output =
      deliver output ((Arguments.askedBy tokens').listing inputs).run :=
    run_eq_deliver_listing inputs output (Arguments.ofArgs_tokens hjson') rfl rfl
  have hverbosity : Arguments.askedBy tokens' =
      { Arguments.askedBy tokens with verbosity := (Arguments.askedBy tokens').verbosity } := by
    simp only [Arguments.askedBy, hrules, hfiles, hobjects, hsame]
  clear_value o
  subst hrun
  refine ⟨?_, ?_, ?_⟩
  · -- Nobody looks at the verbosity on the way to a listing.
    rw [hrun', hverbosity]
    rfl
  · intro hreadable
    have hsources : (Arguments.askedBy tokens).SourcesReadable inputs := hreadable
    exact deliver_agrees (listing_agrees hsources) output
  · intro before source after cause hsplit hbefore hcause
    have hsources : (Arguments.askedBy tokens).sources = before ++ source :: after := hsplit
    have hlisting : ((Arguments.askedBy tokens).listing inputs).Meets (fun _ => False)
        (· = Work.errorLine (SourceError.message ⟨source, cause⟩)) := by
      rw [Arguments.listing_eq]
      exact (loadRules_meets_of_failure hsources hbefore hcause).bind fun _ h => h.elim
    unfold Work.Meets at hlisting
    split at hlisting
    · exact hlisting.1.elim
    · rename_i hvalue
      rw [deliver_of_none hvalue]
      exact ⟨rfl, rfl, hlisting⟩

/-- Rules and a rules file behind an object, and standard input that is read between them. -/
theorem run_tokens_of_mixed :
    let inputs : Inputs := {
      file := fun _ => .ok (.ofString "KeepName(y)\n")
      standardInput := .ok (.ofString "Drop") }
    let args := ["Table:dbo.x", "--filter-file=-", "-v", "--filter=KeepName(x)", "--json",
      "--filter-file=a", "-v"].map Bytes.ofString
    let args' := ["--json", "--filter=KeepName(x)", "--filter-file=-", "--filter-file=a",
      "Table:dbo.x"].map Bytes.ofString
    run (.ofString "schema-filter" :: args) inputs {} =
      run (.ofString "schema-filter" :: args') inputs {} := by
  intro inputs args args'
  let object : Token := .object (.ofString "Table:dbo.x") (by decide)
  let rule : Token := .rule (.ofString "KeepName(x)")
  let first : Token := .ruleFile (.ofString "-")
  let second : Token := .ruleFile (.ofString "a")
  have h := @run_tokens [.json, rule, first, second, object]
    [object, first, .verbose, rule, .json, second, .verbose]
    (by decide) (by decide) rfl rfl rfl (by decide) (.ofString "schema-filter") inputs {}
  exact h.1

end SchemaFilter.Command
