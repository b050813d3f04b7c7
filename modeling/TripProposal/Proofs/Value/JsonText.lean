import TripProposal.Proofs.Value.JsonQuotes

/-!
# Styles of JSON text

JSON text of a value comes in several styles: on one line or indented, with spaces behind commas
and colons or without, with characters beyond ASCII escaped or not. The text on one line and the
text over several lines that templates show are two of them.
-/

namespace TripProposal

open Text Number Value

/-! ### Styles -/

/-- A style of JSON text. -/
structure JsonStyle where
  /-- Whether characters beyond printable ASCII are escaped. -/
  ascii : Bool
  /-- What each level is indented by, if items stand on lines of their own. -/
  indent? : Option (List CodePoint)
  afterComma : List CodePoint
  afterColon : List CodePoint
  isSpace : ∀ c ∈ indent?.getD [] ++ (afterComma ++ afterColon), isJsonSpace c = true

namespace JsonStyle

/-- On one line without spaces. -/
def compact : JsonStyle := ⟨false, none, [], [], nofun⟩

/-- Over several lines, with two spaces for each level. -/
def indented : JsonStyle := ⟨false, some [' ', ' '], [], [' '], List.all_eq_true.mp rfl⟩

/-- What stands in front of an item. -/
def lineBreak (style : JsonStyle) (level : Nat) : List CodePoint :=
  match style.indent? with
  | none => []
  | some indent => '\n' :: (List.replicate level indent).flatten

mutual

/-- The text of a value that is nested so many levels deep. -/
def write (style : JsonStyle) (level : Nat) : Value → List CodePoint
  | .null => "null".codePoints
  | .bool b => if b then "true".codePoints else "false".codePoints
  | .int n => intText n
  | .float x => x.scriptText
  | .text s => spelled style.ascii s
  | .list [] => ['[', ']']
  | .list (v :: rest) =>
    '[' :: (style.lineBreak (level + 1) ++
      (style.write (level + 1) v ++ style.writeItems level rest))
  | .object [] => ['{', '}']
  | .object ((k, v) :: rest) =>
    .char '{' :: (style.lineBreak (level + 1) ++ (spelled style.ascii k ++ .char ':' :: (style.afterColon ++
      (style.write (level + 1) v ++ style.writeFields level rest))))

/-- The items of a list after the first, and the closing bracket. -/
def writeItems (style : JsonStyle) (level : Nat) : List Value → List CodePoint
  | [] => style.lineBreak level ++ [.char ']']
  | v :: rest =>
    ',' :: (style.afterComma ++ style.lineBreak (level + 1) ++
      (style.write (level + 1) v ++ style.writeItems level rest))

/-- The fields of an object after the first, and the closing brace. -/
def writeFields (style : JsonStyle) (level : Nat) : List (Text × Value) → List CodePoint
  | [] => style.lineBreak level ++ [.char '}']
  | (k, v) :: rest =>
    ',' :: (style.afterComma ++ style.lineBreak (level + 1) ++
      (spelled style.ascii k ++ .char ':' :: (style.afterColon ++
        (style.write (level + 1) v ++ style.writeFields level rest))))

end

mutual

/-- The compact style writes what compact writing gives. -/
lemma write_compact (level : Nat) : ∀ v : Value, compact.write level v = v.compact
  | .null | .bool _ | .int _ | .float _ | .text _ | .list [] | .object [] => rfl
  | .list (v :: rest) => by
    rw [write, write_compact (level + 1) v, writeItems_compact level rest]
    rfl
  | .object ((k, v) :: rest) => by
    rw [write, write_compact (level + 1) v, writeFields_compact level rest, Value.compact]
    simp [compact, lineBreak, spelled_false]

lemma writeItems_compact (level : Nat) :
    ∀ items : List Value, compact.writeItems level items = compactItems items
  | [] => rfl
  | v :: rest => by
    rw [writeItems, write_compact (level + 1) v, writeItems_compact level rest]
    rfl

lemma writeFields_compact (level : Nat) :
    ∀ fields : List (Text × Value), compact.writeFields level fields = compactFields fields
  | [] => rfl
  | (k, v) :: rest => by
    rw [writeFields, write_compact (level + 1) v, writeFields_compact level rest, compactFields]
    simp [compact, lineBreak, spelled_false]

end

lemma lineBreak_indented (level : Nat) : indented.lineBreak level = Value.lineBreak level := by
  have hunit : [.char ' ', .char ' '] = List.replicate 2 (CodePoint.char ' ') := rfl
  rw [Value.lineBreak, lineBreak, Nat.mul_comm, ← List.flatten_replicate_replicate, ← hunit]
  rfl

mutual

/-- The indented style writes what indented writing gives. -/
lemma write_indented (level : Nat) : ∀ v : Value, indented.write level v = v.indentedAt level
  | .null | .bool _ | .int _ | .float _ | .text _ | .list [] | .object [] => rfl
  | .list (v :: rest) => by
    rw [write, write_indented (level + 1) v, writeItems_indented level rest, lineBreak_indented,
      indentedAt]
    simp
  | .object ((k, v) :: rest) => by
    rw [write, write_indented (level + 1) v, writeFields_indented level rest, lineBreak_indented,
      indentedAt]
    simp [indented, spelled_false]

lemma writeItems_indented (level : Nat) :
    ∀ items : List Value, indented.writeItems level items = indentedItems level items
  | [] => by rw [writeItems, indentedItems, lineBreak_indented]
  | v :: rest => by
    rw [writeItems, write_indented (level + 1) v, writeItems_indented level rest,
      lineBreak_indented, indentedItems]
    simp [indented]

lemma writeFields_indented (level : Nat) : ∀ fields : List (Text × Value),
    indented.writeFields level fields = indentedFields level fields
  | [] => by rw [writeFields, indentedFields, lineBreak_indented]
  | (k, v) :: rest => by
    rw [writeFields, write_indented (level + 1) v, writeFields_indented level rest,
      lineBreak_indented, indentedFields]
    simp [indented, spelled_false]

end

end JsonStyle

end TripProposal
