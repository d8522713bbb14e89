import Mathlib.Data.List.Forall2

/-!
# Results that may be errors

* `mapError_eq_ok_iff`, `mapError_eq_error_iff` — errors told in other words;
* `mapM_eq_ok_iff`, `exists_mapM_eq_ok_iff`, `mapM_eq_error_iff` — a step done for each member of
  a list, up to the first that fails;
* `mapM_zipIdx_eq_ok_iff`, `mapM_zipIdx_eq_error_iff` — the same where an error names the place of
  the member that gives it.
-/

namespace SchemaFilter

variable {ε δ α β : Type}

/-! ### Errors in other words -/

theorem mapError_eq_ok_iff {words : ε → δ} {result : Except ε α} {a : α} :
    result.mapError words = .ok a ↔ result = .ok a := by
  cases result <;> simp [Except.mapError]

theorem mapError_eq_error_iff {words : ε → δ} {result : Except ε α} {e : δ} :
    result.mapError words = .error e ↔ ∃ cause, result = .error cause ∧ words cause = e := by
  cases result <;> simp [Except.mapError]

/-! ### A step for each member of a list -/

private theorem mapM_cons_ok {step : α → Except ε β} {a : α} {b : β} (h : step a = .ok b)
    (as : List α) : (a :: as).mapM step = (as.mapM step).map (b :: ·) := by
  rw [List.mapM_cons, h]
  cases as.mapM step <;> rfl

private theorem mapM_cons_error {step : α → Except ε β} {a : α} {e : ε} (h : step a = .error e)
    (as : List α) : (a :: as).mapM step = .error e := by
  rw [List.mapM_cons, h]
  rfl

/-- All steps succeed exactly if each member gives its result. -/
theorem mapM_eq_ok_iff {step : α → Except ε β} {as : List α} {bs : List β} :
    as.mapM step = .ok bs ↔ List.Forall₂ (fun a b => step a = .ok b) as bs := by
  induction as generalizing bs with
  | nil =>
    rw [List.forall₂_nil_left_iff]
    exact ⟨fun h => (Except.ok.inj h).symm, fun h => h ▸ rfl⟩
  | cons a as ih =>
    rw [List.forall₂_cons_left_iff]
    cases h : step a with
    | error e =>
      rw [mapM_cons_error h]
      simp
    | ok b =>
      rw [mapM_cons_ok h]
      constructor
      · intro hmap
        cases hrest : as.mapM step with
        | error e =>
          rw [hrest] at hmap
          exact absurd hmap (by simp [Except.map])
        | ok bs' =>
          rw [hrest] at hmap
          exact ⟨b, bs', rfl, ih.mp hrest, (Except.ok.inj hmap).symm⟩
      · rintro ⟨b', bs', hb, hbs, rfl⟩
        rw [ih.mpr hbs, Except.ok.inj hb]
        rfl

/-- The steps fail with an error exactly if the first member that fails gives it. -/
theorem mapM_eq_error_iff {step : α → Except ε β} {as : List α} {e : ε} :
    as.mapM step = .error e ↔ ∃ before a after, as = before ++ a :: after ∧
      (∀ x ∈ before, ∃ b, step x = .ok b) ∧ step a = .error e := by
  induction as with
  | nil =>
    constructor
    · intro h
      exact absurd (show Except.ok [] = Except.error e from h) (by simp)
    · rintro ⟨before, a, after, h, -⟩
      exact absurd h (by simp)
  | cons a as ih =>
    cases h : step a with
    | error e' =>
      rw [mapM_cons_error h]
      constructor
      · intro he
        exact ⟨[], a, as, rfl, by simp, h.trans (by rw [Except.error.inj he])⟩
      · rintro ⟨before, x, after, hsplit, hbefore, hx⟩
        cases before with
        | nil =>
          obtain ⟨rfl, -⟩ := List.cons.inj hsplit
          rw [h, Except.error.injEq] at hx
          rw [hx]
        | cons y ys =>
          obtain ⟨rfl, -⟩ := List.cons.inj hsplit
          obtain ⟨b, hb⟩ := hbefore a List.mem_cons_self
          exact absurd (h.symm.trans hb) (by simp)
    | ok b =>
      have hmap : (a :: as).mapM step = .error e ↔ as.mapM step = .error e := by
        rw [mapM_cons_ok h]
        cases as.mapM step <;> simp [Except.map]
      rw [hmap, ih]
      constructor
      · rintro ⟨before, x, after, rfl, hbefore, hx⟩
        refine ⟨a :: before, x, after, rfl, ?_, hx⟩
        intro y hy
        rcases List.mem_cons.mp hy with rfl | hy
        · exact ⟨b, h⟩
        · exact hbefore y hy
      · rintro ⟨before, x, after, hsplit, hbefore, hx⟩
        cases before with
        | nil =>
          obtain ⟨rfl, -⟩ := List.cons.inj hsplit
          exact absurd (h.symm.trans hx) (by simp)
        | cons y ys =>
          obtain ⟨rfl, rfl⟩ := List.cons.inj hsplit
          exact ⟨ys, x, after, rfl, fun z hz => hbefore z (List.mem_cons_of_mem a hz), hx⟩

/-- All steps succeed exactly if each does. -/
theorem exists_mapM_eq_ok_iff {step : α → Except ε β} {as : List α} :
    (∃ bs, as.mapM step = .ok bs) ↔ ∀ a ∈ as, ∃ b, step a = .ok b := by
  constructor
  · rintro ⟨bs, h⟩ a ha
    obtain ⟨i, hi, rfl⟩ := List.getElem_of_mem ha
    have hall := mapM_eq_ok_iff.mp h
    exact ⟨_, hall.get hi (hall.length_eq ▸ hi)⟩
  · intro h
    cases hmap : as.mapM step with
    | ok bs => exact ⟨bs, rfl⟩
    | error e =>
      obtain ⟨before, a, after, rfl, -, he⟩ := mapM_eq_error_iff.mp hmap
      obtain ⟨b, hb⟩ := h a (by simp)
      exact absurd (he.symm.trans hb) (by simp)

/-- The results are those that some member gives. -/
theorem mem_iff_of_forall₂_eq_ok {step : α → Except ε β} {as : List α} {bs : List β}
    (h : List.Forall₂ (fun a b => step a = .ok b) as bs) {b : β} :
    b ∈ bs ↔ ∃ a ∈ as, step a = .ok b := by
  induction h with
  | nil => simp
  | cons hstep _ ih =>
    rw [List.mem_cons, List.exists_mem_cons_iff, ih, hstep, Except.ok.injEq, eq_comm]

/-! ### A step for each member, by its place -/

/-- A step for a member with its place, where an error is told with the place. -/
def numbered (step : α → Except ε β) (words : Nat → ε → δ) (p : α × Nat) : Except δ β :=
  (step p.1).mapError (words p.2)

/-- Places make no difference where all steps succeed. -/
theorem mapM_zipIdx_eq_ok_iff {step : α → Except ε β} {words : Nat → ε → δ} {index : Nat}
    {as : List α} {bs : List β} :
    (as.zipIdx index).mapM (numbered step words) = .ok bs ↔
      List.Forall₂ (fun a b => step a = .ok b) as bs := by
  rw [mapM_eq_ok_iff]
  simp only [numbered, mapError_eq_ok_iff]
  conv_rhs => rw [← List.zipIdx_map_fst index as, List.forall₂_map_left_iff]

/-- The steps fail with the error of the first member that fails, told with its place. -/
theorem mapM_zipIdx_eq_error_iff {step : α → Except ε β} {words : Nat → ε → δ} {index : Nat}
    {as : List α} {e : δ} :
    (as.zipIdx index).mapM (numbered step words) = .error e ↔
      ∃ before a after cause, as = before ++ a :: after ∧ (∀ x ∈ before, ∃ b, step x = .ok b) ∧
        step a = .error cause ∧ words (index + before.length) cause = e := by
  rw [mapM_eq_error_iff]
  simp only [numbered, mapError_eq_ok_iff, mapError_eq_error_iff]
  constructor
  · -- A split of the members with their places is a split of the members, and `p` has the place
    -- behind those before it.
    rintro ⟨placed, p, rest, hsplit, hbefore, cause, hcause, rfl⟩
    obtain ⟨before, others, rfl, rfl, hothers⟩ := List.zipIdx_eq_append_iff.mp hsplit
    obtain ⟨a, after, rfl, rfl, -⟩ := List.zipIdx_eq_cons_iff.mp hothers.symm
    refine ⟨before, a, after, cause, rfl, ?_, hcause, rfl⟩
    intro x hx
    rw [← List.zipIdx_map_fst index before] at hx
    obtain ⟨q, hq, rfl⟩ := List.mem_map.mp hx
    exact hbefore q hq
  · rintro ⟨before, a, after, cause, rfl, hbefore, hcause, rfl⟩
    refine ⟨before.zipIdx index, (a, index + before.length),
      after.zipIdx (index + before.length + 1), ?_, ?_, cause, hcause, rfl⟩
    · rw [List.zipIdx_append, List.zipIdx_cons]
    · intro q hq
      apply hbefore q.1
      rw [← List.zipIdx_map_fst index before]
      exact List.mem_map_of_mem hq

end SchemaFilter
