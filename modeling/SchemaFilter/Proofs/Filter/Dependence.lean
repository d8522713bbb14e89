import SchemaFilter.Proofs.Filter.Compile

/-!
# What a verdict depends on

A rule looks at one attribute of an object.  A rule about types that is restricted to a schema looks
at the schema too, but not at its case.  Nothing else makes a difference.

* `SameLetter`, `SameIgnoringCase` — characters and texts that differ in case at most;
* `sameIgnoringCase_equivalence` — being such texts is an equivalence;
* `Rule.qualifier?_eq` — where the restriction to a schema comes from;
* `Rule.appliesTo_congr` — **dependence** on the attribute and the schema only.
-/

namespace SchemaFilter

/-! ### Case -/

/-- The characters are equal, or one is a capital letter of ASCII and the other its small letter. -/
def SameLetter (c d : Char) : Prop :=
  c = d ∨ (c.isUpper = true ∧ d.toNat = c.toNat + 32) ∨
    (d.isUpper = true ∧ c.toNat = d.toNat + 32)

/-- The texts have the same characters, but for the case of ASCII letters. -/
def SameIgnoringCase (a b : String) : Prop :=
  List.Forall₂ SameLetter a.toList b.toList

/-- Only the capital letters of ASCII have another small letter. -/
private theorem toNat_toLower (c : Char) :
    c.toLower.toNat = if c.isUpper = true then c.toNat + 32 else c.toNat := by
  -- The code point is far too small to overflow when 32 is added to it.
  by_cases h : 'A'.val ≤ c.val ∧ c.val ≤ 'Z'.val
  · have hupper : c.isUpper = true := decide_eq_true h
    have hlower : c.toLower.toNat = (c.val + 32).toNat := congrArg Char.toNat (dif_pos h)
    have hval : c.val.toNat ≤ 90 := h.2
    rw [if_pos hupper, hlower, UInt32.toNat_add]
    exact Nat.mod_eq_of_lt (by simp only [UInt32.reduceToNat]; omega)
  · have hupper : ¬ c.isUpper = true := fun hupper => h (of_decide_eq_true hupper)
    have hlower : c.toLower = c := dif_neg h
    rw [if_neg hupper, hlower]

private theorem isUpper_iff {c : Char} : c.isUpper = true ↔ 65 ≤ c.toNat ∧ c.toNat ≤ 90 :=
  decide_eq_true_iff

/-- Characters have the same small letter exactly if they differ in case at most. -/
theorem toLower_eq_toLower_iff {c d : Char} : c.toLower = d.toLower ↔ SameLetter c d := by
  have hext {x y : Char} : x = y ↔ x.toNat = y.toNat :=
    ⟨congrArg Char.toNat, fun h => Char.ext (UInt32.toNat_inj.mp h)⟩
  rw [SameLetter, hext, hext, toNat_toLower, toNat_toLower]
  simp only [isUpper_iff]
  split <;> split <;> omega

theorem sameIgnoringCase_iff {a b : String} :
    SameIgnoringCase a b ↔ a.toList.map Char.toLower = b.toList.map Char.toLower := by
  rw [SameIgnoringCase, ← List.forall₂_eq_eq_eq, List.forall₂_map_left_iff,
    List.forall₂_map_right_iff]
  simp only [toLower_eq_toLower_iff]

/-- Texts are found to be equal when case is ignored exactly if they differ in case at most. -/
theorem eqIgnoringAsciiCase_iff {a b : String} :
    eqIgnoringAsciiCase a b = true ↔ SameIgnoringCase a b := by
  rw [eqIgnoringAsciiCase, beq_iff_eq, sameIgnoringCase_iff]

theorem sameIgnoringCase_equivalence : Equivalence SameIgnoringCase where
  refl _ := sameIgnoringCase_iff.mpr rfl
  symm h := sameIgnoringCase_iff.mpr (sameIgnoringCase_iff.mp h).symm
  trans h h' :=
    sameIgnoringCase_iff.mpr ((sameIgnoringCase_iff.mp h).trans (sameIgnoringCase_iff.mp h'))

/-- Whether two texts are found to be equal does not change with their case. -/
theorem eqIgnoringAsciiCase_congr {a a' b b' : String} (ha : SameIgnoringCase a a')
    (hb : SameIgnoringCase b b') : eqIgnoringAsciiCase a b = eqIgnoringAsciiCase a' b' := by
  have hsame := sameIgnoringCase_equivalence
  rw [Bool.eq_iff_iff, eqIgnoringAsciiCase_iff, eqIgnoringAsciiCase_iff]
  exact ⟨fun h => hsame.trans (hsame.symm ha) (hsame.trans h hb),
    fun h => hsame.trans ha (hsame.trans h (hsame.symm hb))⟩

namespace Rule

variable {rule rule' : Rule} {object object' : SchemaObject}

/-! ### The schema -/

/-- Only rules about types are restricted to a schema, and only by their first option. -/
theorem qualifier?_eq (rule : Rule) :
    rule.qualifier? = if rule.subject = .objectType then rule.options.head? else none := by
  unfold qualifier?
  cases rule.subject <;> rfl

/-- Objects whose schemas differ in case at most are in the scope of the same rules. -/
theorem inScope_congr {filter filter' : Filter}
    (hqualifier : Option.Rel SameIgnoringCase filter.rule.qualifier? filter'.rule.qualifier?)
    (hschema : filter.rule.qualifier? ≠ none →
      SameIgnoringCase object.effectiveSchema object'.effectiveSchema) :
    filter'.inScope object' = filter.inScope object := by
  unfold Filter.inScope
  generalize filter.rule.qualifier? = q, filter'.rule.qualifier? = q' at hqualifier hschema
  cases hqualifier with
  | none => rfl
  | some h => exact (eqIgnoringAsciiCase_congr (hschema (by simp)) h).symm

/-! ### The verdict -/

/-- **Dependence.**  Two rules with the same subject, polarity and pattern, which are restricted to
    the same schema if they are about types and have options, say the same of two objects with the
    same attribute, which lie in the same schema if the rules are restricted to one; or else both
    have the same bad pattern.  Schemas are the same if they differ in case at most, and it does not
    matter whether they are the objects' own or contain them. -/
theorem appliesTo_congr (hsubject : rule'.subject = rule.subject)
    (hpolarity : rule'.polarity = rule.polarity) (hpattern : rule'.pattern = rule.pattern)
    (hoption : rule.subject = .objectType →
      Option.Rel SameIgnoringCase rule.options.head? rule'.options.head?)
    (hattribute : object'.get rule.subject = object.get rule.subject)
    (hschema : rule.subject = .objectType → rule.options ≠ [] →
      SameIgnoringCase object.effectiveSchema object'.effectiveSchema) :
    rule'.appliesTo object' = rule.appliesTo object := by
  cases hcompile : Pattern.compile rule.pattern with
  | error refusal =>
    have hcompile' : Pattern.compile rule'.pattern = .error refusal := hpattern ▸ hcompile
    rw [appliesTo_of_refusal hcompile, appliesTo_of_refusal hcompile', hpattern]
  | ok expr =>
    have hcompile' : Pattern.compile rule'.pattern = .ok expr := hpattern ▸ hcompile
    -- Whatever the options are, a rule about another attribute is not restricted by them.
    have hqualifier : Option.Rel SameIgnoringCase rule.qualifier? rule'.qualifier? := by
      rw [qualifier?_eq, qualifier?_eq, hsubject]
      split
      · rename_i htype
        exact hoption htype
      · exact .none
    have hrestricted : rule.qualifier? ≠ none →
        SameIgnoringCase object.effectiveSchema object'.effectiveSchema := by
      intro hsome
      rw [qualifier?_eq] at hsome
      split at hsome
      · rename_i htype
        exact hschema htype fun hnil => hsome (by rw [hnil, List.head?_nil])
      · exact absurd rfl hsome
    have hscope : (Filter.mk rule' expr hcompile').inScope object' =
        (Filter.mk rule expr hcompile).inScope object :=
      inScope_congr hqualifier hrestricted
    rw [appliesTo_of_compile hcompile, appliesTo_of_compile hcompile']
    simp only [Filter.applies, Filter.finds, hscope, hpolarity, hsubject, hattribute]

/-- Another operation and other options, a schema in capitals, and an object that is contained in
    that schema instead of having it. -/
theorem appliesTo_congr_of_restricted :
    let rule : Rule := {
      operation := .ignore, subject := .objectType, polarity := .negative, pattern := "Tab.e"
      options := ["dbo"] }
    let rule' : Rule := {
      operation := .keep, subject := .objectType, polarity := .negative, pattern := "Tab.e"
      options := ["DBO", "x"] }
    let object : SchemaObject := {
      objectType := "Table", schema := "dbo", name := "a", multiPartName := "dbo,a" }
    let object' : SchemaObject := {
      objectType := "Table", schema := "sys", name := "b", multiPartName := "sys,b"
      containingSchema := some "Dbo" }
    rule'.appliesTo object' = rule.appliesTo object := by
  intro rule rule' object object'
  have hoption : SameIgnoringCase "dbo" "DBO" := eqIgnoringAsciiCase_iff.mp (by decide)
  have hschema : SameIgnoringCase "dbo" "Dbo" := eqIgnoringAsciiCase_iff.mp (by decide)
  exact appliesTo_congr rfl rfl rfl (fun _ => .some hoption) rfl fun _ _ => hschema

end Rule

end SchemaFilter
