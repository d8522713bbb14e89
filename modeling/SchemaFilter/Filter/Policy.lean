import SchemaFilter.Filter.FilterSet

/-!
# Policies

Ways to make one decision out of many verdicts.

* `Policy.ignoreWins`, `Policy.keepRequired`, `Policy.lastWins` — by the operations of the rules
  that apply;
* `Policy.indexParity`, `Policy.dboOnly` — by other things that a policy can see;
* `Policy.ofName?` — the policy with a name.
-/

namespace SchemaFilter.Policy

/-- The verdicts of the rules that apply. -/
def applying (verdicts : List Verdict) : List Verdict :=
  verdicts.filter (·.applies)

/-- Keeps an object unless a rule to ignore it applies. -/
def ignoreWins : Policy := fun _ verdicts =>
  !(applying verdicts).any (·.rule.operation = .ignore)

/-- Keeps an object if a rule to keep it applies. -/
def keepRequired : Policy := fun _ verdicts =>
  (applying verdicts).any (·.rule.operation = .keep)

/-- Does with an object what the last rule says that applies, and keeps it if none does. -/
def lastWins : Policy := fun _ verdicts =>
  (applying verdicts).getLast?.all (·.rule.operation = .keep)

/-- Keeps an object if the places of the rules that apply have an even sum. -/
def indexParity : Policy := fun _ verdicts =>
  (applying verdicts).foldl (fun sum verdict => sum + verdict.index) 0 % 2 = 0

/-- Keeps the objects of one schema, whatever the rules say. -/
def dboOnly : Policy := fun object _ =>
  object.effectiveSchema = "dbo"

/-- The policy with a name. -/
def ofName? : String → Option Policy
  | "ignore_wins" => some ignoreWins
  | "keep_required" => some keepRequired
  | "last_wins" => some lastWins
  | "index_parity" => some indexParity
  | "dbo_only" => some dboOnly
  | _ => none

end SchemaFilter.Policy
