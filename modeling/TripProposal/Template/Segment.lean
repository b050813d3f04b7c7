import TripProposal.Template.Nesting

/-!
# Segments

A template is cut into segments without looking at any data: stretches of text, tags that are
shown as they are, values, and blocks with their bodies. A closer or an `else` outside of its
block and an opener without a closer are shown as they are; a tag that is never closed is text.
-/

namespace TripProposal.Template

open Text

/-- A piece of a template on one level. -/
inductive Segment
  | text (text : List CodePoint)
  /-- A tag that has no meaning here and is shown as it is. -/
  | stray (content : List CodePoint)
  /-- An opener that nothing closes, shown as it is. -/
  | unclosed (content : List CodePoint)
  | value (tag : Tag)
  | block (kind : BlockKind) (expression body : List CodePoint)
deriving DecidableEq

/-- The rest behind a tag is shorter than the text. -/
theorem length_lt_of_tag {text before tail content rest : List CodePoint}
    (h : cut? openMark text = some (before, tail))
    (h' : cut? closeMark tail = some (content, rest)) : rest.length < text.length := by
  rw [cut?_eq_some_append h, cut?_eq_some_append h']
  simp only [openMark, closeMark, List.length_append, List.length_cons, List.length_nil]
  omega

/-- The segments of a template. -/
def segments (text : List CodePoint) : List Segment :=
  match h : cut? openMark text with
  | none => [.text text]
  | some (before, tail) =>
    match h' : cut? closeMark tail with
    | none => [.text text]
    | some (content, rest) =>
      have : rest.length < text.length := length_lt_of_tag h h'
      .text before ::
        match Tag.parse (trim content) with
        | .block kind expression =>
          match closeOffset? kind.opener kind.closer rest with
          | none => .unclosed (trim content) :: segments rest
          | some n =>
            .block kind expression (rest.take n) :: segments (rest.drop (n + kind.closer.length))
        | .close _ | .otherwise => .stray (trim content) :: segments rest
        | tag => .value tag :: segments rest
termination_by text.length
decreasing_by all_goals grind

end TripProposal.Template
