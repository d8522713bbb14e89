/-!
# Results with what was told on the way

* `Traced` — a result, and what was told an observer on the way to it;
* `Traced.emit` — tells one thing;
* `Traced.retell` — tells it in other words.

What two steps tell together is what the first tells and then what the second tells
(`Traced.events_bind`).
-/

namespace SchemaFilter

/-- A result, and what was told on the way to it, in the order in which it happened. -/
structure Traced (ε α : Type) where
  value : α
  events : List ε := []

namespace Traced

variable {ε δ α β : Type}

/-- Tells one thing. -/
def emit (event : ε) : Traced ε Unit :=
  ⟨(), [event]⟩

/-- Tells everything in other words. -/
def retell (words : ε → δ) (t : Traced ε α) : Traced δ α :=
  ⟨t.value, t.events.map words⟩

instance : Monad (Traced ε) where
  pure value := ⟨value, []⟩
  bind first next :=
    let second := next first.value
    ⟨second.value, first.events ++ second.events⟩

@[simp] theorem value_pure (a : α) : (pure a : Traced ε α).value = a := rfl

@[simp] theorem events_pure (a : α) : (pure a : Traced ε α).events = [] := rfl

@[simp] theorem value_bind (t : Traced ε α) (next : α → Traced ε β) :
    (t >>= next).value = (next t.value).value := rfl

@[simp] theorem events_bind (t : Traced ε α) (next : α → Traced ε β) :
    (t >>= next).events = t.events ++ (next t.value).events := rfl

@[simp] theorem events_emit (event : ε) : (emit event).events = [event] := rfl

@[simp] theorem value_retell (words : ε → δ) (t : Traced ε α) :
    (t.retell words).value = t.value := rfl

@[simp] theorem events_retell (words : ε → δ) (t : Traced ε α) :
    (t.retell words).events = t.events.map words := rfl

end Traced

end SchemaFilter
