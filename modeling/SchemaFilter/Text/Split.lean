/-!
# Cutting texts at separators and at fixed prefixes

* `piecesAt sep` — the pieces of a text between the occurrences of one character, at least one;
* `joinWith sep` — puts pieces back together;
* `stripPrefix?` — what follows a fixed prefix;
* `cutAt? sep` — what stands before the first occurrence of a fixed text, and behind it;
* `betweenParens?` — what stands between a leading `(` and a final `)`.
-/

namespace SchemaFilter

/-- The pieces between the occurrences of `sep`, in a text or in bytes.  Without `sep` there is one
    piece. -/
def piecesAt {α : Type} [DecidableEq α] (sep : α) : List α → List (List α)
  | [] => [[]]
  | c :: cs =>
    if c = sep then
      [] :: piecesAt sep cs
    else
      match piecesAt sep cs with
      | [] => [[c]]
      | piece :: pieces => (c :: piece) :: pieces

/-- The pieces one after another, with `sep` between each two. -/
def joinWith (sep : List Char) : List (List Char) → List Char
  | [] => []
  | [piece] => piece
  | piece :: pieces => piece ++ sep ++ joinWith sep pieces

/-- What follows `front` in a text that starts with it. -/
def stripPrefix? : (front text : List Char) → Option (List Char)
  | [], text => some text
  | _ :: _, [] => none
  | f :: fs, c :: cs => if f = c then stripPrefix? fs cs else none

/-- What stands before the first occurrence of `sep` in a text, and what behind it. -/
def cutAt? (sep : List Char) : List Char → Option (List Char × List Char)
  | [] => none
  | c :: cs =>
    match stripPrefix? sep (c :: cs) with
    | some right => some ([], right)
    | none => (cutAt? sep cs).map fun (left, right) => (c :: left, right)

/-- What stands between a leading `(` and a final `)`, which must be two characters. -/
def betweenParens? : List Char → Option (List Char)
  | '(' :: inner => if inner.getLast? = some ')' then some inner.dropLast else none
  | _ => none

end SchemaFilter
