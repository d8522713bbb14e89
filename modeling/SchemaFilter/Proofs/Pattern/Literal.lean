import Mathlib.Algebra.Ring.Nat
import SchemaFilter.Pattern.Compile

/-!
# Patterns that stand for themselves

Most characters stand for themselves in a pattern.  A pattern of such characters only is read
as the text that it is.

* `specialChars`, `isPlain` — does a character stand for itself?
* `Reader.run_of_plain`, `parse_of_plain` — a plain text is read character by character;
* `Expr.ofSet_single`, `Expr.all_map_literal` — the characters are joined to one text;
* `compile_of_plain` — a **plain** pattern is its text, unless that is too large;
* `Expr.isTooLarge_literal` — when a text is too large.
-/

namespace SchemaFilter.Pattern

/-! ### Reading -/

/-- The characters that mean something else than themselves. -/
def specialChars : List Char :=
  ['(', ')', '|', '[', '?', '*', '+', '{', '\\', '.', '^', '$']

/-- Does a character stand for itself wherever it is written in a pattern? -/
def isPlain (c : Char) : Bool :=
  c ∉ specialChars

/-- The parts of a plain text, the first of which begins at offset `pos`. -/
def literalsFrom : (pos : Nat) → List Char → List Node
  | _, [] => []
  | pos, c :: cs => .literal { span := ⟨pos, pos + 1⟩, char := c } :: literalsFrom (pos + 1) cs

/-- A plain character is read as a part of its own. -/
theorem Reader.readPart_of_plain {r : Reader} {x : Char} {c : Cursor} (hx : isPlain x = true) :
    r.readPart x c = .ok (r.push (.literal { span := c.charSpan, char := x }), c.next) := by
  unfold readPart
  split
  case h_13 => rfl
  all_goals exact absurd hx (by decide)

/-- Parts are added at the end. -/
theorem Level.foldl_push (level : Level) (nodes : List Node) :
    nodes.foldl push level = { level with parts := nodes.reverse ++ level.parts } := by
  induction nodes generalizing level with
  | nil => rfl
  | cons node nodes ih => simp [ih, push]

/-- What is left of a plain text is read character by character. -/
theorem Reader.run_of_plain {r : Reader} {limit pos : Nat} {text : List Char}
    (hverbose : r.verbose = false) (hgroups : r.groups = [])
    (hplain : ∀ c ∈ text, isPlain c = true) (hlimit : text.length ≤ limit) :
    run limit r ⟨pos, text⟩ =
      .ok (((literalsFrom pos text).foldl Level.push r.level).node (pos + text.length)) := by
  -- The reader changes with each character, which it takes as one more part of the level.
  induction text generalizing r limit pos with
  | nil =>
    have hfinish : r.finish pos = .ok (r.level.node pos) := by
      rw [finish, hgroups]
    cases limit with
    | zero => exact hfinish
    | succ limit =>
      show run (limit + 1) r ⟨pos, []⟩ = .ok (r.level.node pos)
      rw [run, hverbose]
      exact hfinish
  | cons x xs ih =>
    obtain ⟨hx, hxs⟩ := List.forall_mem_cons.mp hplain
    cases limit with
    | zero => exact absurd hlimit (by simp)
    | succ limit =>
      rw [run, hverbose]
      show (r.readPart x ⟨pos, x :: xs⟩ >>= fun behind => run limit behind.1 behind.2) = _
      rw [readPart_of_plain hx]
      let node : Node := .literal { span := ⟨pos, pos + 1⟩, char := x }
      have hrest : run limit (r.push node) ⟨pos + 1, xs⟩ = .ok (Level.node
          ((literalsFrom (pos + 1) xs).foldl Level.push (r.push node).level)
          (pos + 1 + xs.length)) :=
        ih hverbose hgroups hxs (Nat.le_of_succ_le_succ hlimit)
      rw [Nat.add_right_comm] at hrest
      exact hrest

/-- Parts of one character are not nested. -/
theorem Node.anyTooDeep?_literalsFrom (depth pos : Nat) (text : List Char) :
    Node.anyTooDeep? depth (literalsFrom pos text) = none := by
  induction text generalizing pos with
  | nil => rfl
  | cons c cs ih =>
    rw [literalsFrom, Node.anyTooDeep?, ih]
    rfl

/-- A plain text is a pattern. -/
theorem parse_of_plain {text : List Char} (hplain : ∀ c ∈ text, isPlain c = true) :
    parse text = .ok (.ofParts ⟨0, text.length⟩ (literalsFrom 0 text)) := by
  have hrun : Reader.run (text.length + 1) { level := .fresh 0 } (.start text) =
      .ok (.ofParts ⟨0, text.length⟩ (literalsFrom 0 text)) := by
    rw [Cursor.start, Reader.run_of_plain rfl rfl hplain (Nat.le_succ _)]
    simp [Level.foldl_push, Level.node, Level.branch, Level.fresh, Node.ofBranches]
  have hdepth : (Node.ofParts ⟨0, text.length⟩ (literalsFrom 0 text)).tooDeep? 0 = none := by
    -- A node is made of the parts only where there are two of them.
    match text with
    | [] => rfl
    | [_] => rfl
    | c :: d :: cs =>
      show (if nestingLimit ≤ 0 then _ else Node.anyTooDeep? 1 (literalsFrom 0 (c :: d :: cs))) = _
      rw [if_neg (by decide), Node.anyTooDeep?_literalsFrom]
  simp only [parse, hrun, bind, Except.bind, hdepth]
  rfl

/-! ### Meaning -/

namespace Expr

/-- The set of one character is a text. -/
theorem ofSet_single (c : Char) : ofSet (.single c) = literal [c] := by
  have hranges : (CharSet.single c).characters.ranges = [⟨c.toNat, c.toNat⟩] := by
    -- The set leaves out the surrogates, and a character is on either side of them.
    have hvalid : c.toNat < 0xD800 ∨ 0xDFFF < c.toNat := by
      have := c.valid
      rcases this with h | ⟨h, -⟩
      · exact .inl h
      · exact .inr h
    simp only [CharSet.characters, CharSet.single, CharSet.range, List.flatMap_cons,
      List.flatMap_nil, List.append_nil]
    rcases hvalid with h | h
    · rw [List.filter_cons_of_pos (by simp; omega), List.filter_cons_of_neg (by simp; omega),
        Nat.min_eq_left (by omega), List.filter_nil]
    · rw [List.filter_cons_of_neg (by simp; omega), List.filter_cons_of_pos (by simp; omega),
        Nat.max_eq_left (by omega), List.filter_nil]
  rw [ofSet, hranges]
  simp

/-- Each character is joined to the text that those behind it have become. -/
theorem foldr_consPart_literal (c : Char) (cs : List Char) :
    ((c :: cs).map fun c => literal [c]).foldr consPart [] = [literal (c :: cs)] := by
  induction cs generalizing c with
  | nil => rfl
  | cons d ds ih =>
    rw [List.map_cons, List.foldr_cons, ih d]
    rfl

/-- Neighbouring characters are joined to one text. -/
theorem all_map_literal {text : List Char} (h : text ≠ []) :
    all (text.map fun c => literal [c]) = literal text := by
  have hparts : (text.map fun c => literal [c]).flatMap parts = text.map fun c => literal [c] := by
    rw [List.flatMap_map]
    exact (List.map_eq_flatMap (f := fun c => literal [c]) (l := text)).symm
  obtain ⟨c, cs, rfl⟩ := List.exists_cons_of_ne_nil h
  rw [all, hparts, foldr_consPart_literal]
  rfl

end Expr

/-- With no flags in force, plain characters stand for themselves. -/
theorem Node.exprsWith_literalsFrom (pos : Nat) (text : List Char) :
    Node.exprsWith {} (literalsFrom pos text) =
      .ok (text.map fun c => Expr.literal [c], {}) := by
  induction text generalizing pos with
  | nil => rfl
  | cons c cs ih =>
    have hliteral : Node.exprWith {} (.literal { span := ⟨pos, pos + 1⟩, char := c }) =
        .ok (.literal [c], {}) := by
      show Except.ok (Expr.ofSet (.single c), ({} : Flags)) = _
      rw [Expr.ofSet_single]
    rw [literalsFrom, Node.exprsWith, hliteral]
    show (Node.exprsWith {} (literalsFrom (pos + 1) cs) >>= fun behind =>
      Except.ok (Expr.literal [c] :: behind.1, behind.2)) = _
    rw [ih]
    rfl

/-- A plain text means itself. -/
theorem Node.expr_literalsFrom {span : Span} {text : List Char} (h : text ≠ []) :
    (Node.ofParts span (literalsFrom 0 text)).expr = .ok (.literal text) := by
  have hexprs := Node.exprsWith_literalsFrom 0 text
  match text with
  | [] => exact absurd rfl h
  | [c] =>
    show Except.ok (Expr.ofSet (.single c)) = _
    rw [Expr.ofSet_single]
  | c :: d :: cs =>
    show ((Node.exprsWith {} (literalsFrom 0 (c :: d :: cs)) >>= fun behind =>
      Except.ok (Expr.all behind.1, behind.2)) >>= fun behind => Except.ok behind.1) = _
    rw [hexprs]
    show Except.ok (Expr.all _) = _
    rw [Expr.all_map_literal h]

/-! ### Size -/

/-- Adding states fails when all of them together take too much room. -/
theorem addStates_eq {rooms : List Nat} {b : Builder} (hb : b.size ≤ sizeLimit) :
    addStates rooms b =
      if sizeLimit < b.size + (rooms.map (stateSize + ·)).sum then none
      else some { states := b.states + rooms.length,
                  size := b.size + (rooms.map (stateSize + ·)).sum } := by
  -- As long as all rooms so far fit, it does not matter that the limit is checked for each of them.
  induction rooms generalizing b with
  | nil => simp [addStates, hb]
  | cons room rooms ih =>
    rw [addStates, addState, grow]
    split
    next h =>
      rw [if_pos]
      · rfl
      · simp only [List.map_cons, List.sum_cons] at h ⊢
        omega
    next h =>
      show addStates rooms _ = _
      rw [ih (Nat.le_of_not_lt h)]
      simp [Nat.add_assoc, Nat.add_comm 1]

theorem addStates_append (rooms rooms' : List Nat) (b : Builder) :
    addStates (rooms ++ rooms') b = (addStates rooms b).bind (addStates rooms') := by
  induction rooms generalizing b with
  | nil => rfl
  | cons room rooms ih =>
    show (addState room b).bind (addStates (rooms ++ rooms')) =
      ((addState room b).bind (addStates rooms)).bind (addStates rooms')
    rw [Option.bind_assoc]
    exact congrArg _ (funext ih)

theorem addState_eq_addStates (room : Nat) : addState room = addStates [room] := by
  funext b
  exact (Option.bind_fun_some (addState room b)).symm

/-- The states of the automaton forward: three to pass over what comes before a match, one for each
    byte between the start and the end of the match, and the last one. -/
theorem Expr.automaton_forward_literal (text : List Char) :
    (literal text).automaton .forward =
      addStates ([forkRoom, 0, rangeSize] ++ [0] ++ (encode text).map (fun _ => 0) ++ [0] ++ [0])
        {} := by
  simp only [addStates_append]
  simp [automaton, build, joinAlternative, addPass, isAtStart, addState_eq_addStates,
    Option.bind_assoc]

/-- The automaton backward does not note where the match begins and ends. -/
theorem Expr.automaton_backward_literal (text : List Char) :
    (literal text).automaton .backward =
      addStates ([forkRoom, 0, rangeSize] ++ (encode text).map (fun _ => 0) ++ [0]) {} := by
  simp only [addStates_append]
  simp [automaton, build, joinAlternative, addPass, isAtEnd, addState_eq_addStates,
    Option.bind_assoc]

/-- A text is too large when its automaton forward is. -/
theorem Expr.isTooLarge_literal {text : List Char} :
    (literal text).isTooLarge = true ↔ sizeLimit < 208 + stateSize * (encode text).length := by
  show (((literal text).automaton .forward).isNone ||
    ((literal text).automaton .backward).isNone) = true ↔ _
  rw [automaton_forward_literal, automaton_backward_literal, addStates_eq (Nat.zero_le _),
    addStates_eq (Nat.zero_le _)]
  simp [stateSize, forkRoom, waySize, rangeSize, List.map_const']
  omega

/-! ### Patterns -/

/-- A **plain** pattern is its text, unless that has too many bytes. -/
theorem compile_of_plain {pattern : String} (hne : pattern ≠ "")
    (hplain : ∀ c ∈ pattern.toList, isPlain c = true) :
    compile pattern =
      if sizeLimit < 208 + stateSize * (encode pattern.toList).length then .error .tooLarge
      else .ok (.literal pattern.toList) := by
  have hchars : pattern.toList ≠ [] := by
    rwa [Ne, String.toList_eq_nil_iff]
  have hexpr : (parse pattern.toList >>= Node.expr) = .ok (.literal pattern.toList) := by
    rw [parse_of_plain hplain]
    exact Node.expr_literalsFrom hchars
  simp only [compile, hexpr, Expr.isTooLarge_literal]

end SchemaFilter.Pattern
