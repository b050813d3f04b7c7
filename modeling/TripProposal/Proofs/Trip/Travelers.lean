import TripProposal.Proofs.Value.JsonReadBack
import TripProposal.Template.Display
import TripProposal.Trip.Booking

/-!
# Travelers as JSON text

The travelers of a booking are a list, or the JSON text of one. In whatever style the text was
written, it shows like the list. Lists and objects that a template has shown are recognised as
JSON, on one line or over several.
-/

namespace TripProposal.Trip

open Text Value Template

variable {v : Value} {items : List Value}

/-- Travelers show like the list that their JSON text was written for. -/
lemma travelersText_write {style : JsonStyle} (h : (Value.list items).Writable style.ascii) :
    travelersText (.text (Text.ofList (style.write 0 (.list items)))) =
      travelersText (.list items) := by
  have hread := ofJson?_write h 0
  rw [travelersText, Text.toList_ofList, hread]
  rfl

/-- Lists and objects show as JSON on one line. -/
lemma display_eq_write (hv : v.isList = true ∨ v.isObject = true) :
    display (some v) = JsonStyle.compact.write 0 v := by
  rw [JsonStyle.write_compact]
  cases v with
  | list items => rfl
  | object fields => rfl
  | _ => rcases hv with hv | hv <;> cases hv

lemma displayIndented_eq_write (v : Value) :
    displayIndented (some v) = JsonStyle.indented.write 0 v :=
  (JsonStyle.write_indented 0 v).symm

/-- JSON text stands for its value: travelers show like the list that the text was written for,
and what a template shows for a list or an object is recognised as JSON. -/
theorem jsonText_stands_for_value :
    (∀ (style : JsonStyle) (items : List Value), (Value.list items).Writable style.ascii →
      travelersText (.text (Text.ofList (style.write 0 (.list items)))) =
        travelersText (.list items)) ∧
    ∀ (v : Value) (before after : List CodePoint),
      v.Writable false → v.isList = true ∨ v.isObject = true →
      (∀ c ∈ before, isBlank c = true) → (∀ c ∈ after, isBlank c = true) →
      looksLikeJson (Text.ofList (before ++ (display (some v) ++ after))) = true ∧
        looksLikeJson (Text.ofList (before ++ (displayIndented (some v) ++ after))) = true := by
  constructor
  · intro style items h
    exact travelersText_write h
  · intro v before after h hv hbefore hafter
    rw [display_eq_write hv, displayIndented_eq_write]
    exact ⟨looksLikeJson_write h hv hbefore hafter,
      looksLikeJson_write h hv hbefore hafter⟩

/-- A traveler with a fraction and a list, one by name, and one without a name. -/
def mixedTravelers : List Value :=
  [.object [("name", .text "Zoë \"Z\" 😀"), ("share", .float (.ofRatio false 1 3)),
     ("cabins", .list [.int (-12), .float .nan])],
   .text "Ben", .object [("name", .null), ("adult", .bool true)]]

theorem jsonText_stands_for_value_mixed :
    (let style : JsonStyle := ⟨true, some [.char '\t'], [], [.char ' '], List.all_eq_true.mp rfl⟩
     travelersText (.text (Text.ofList (style.write 0 (.list mixedTravelers)))) =
       "Zoë \"Z\" 😀, Ben") ∧
    looksLikeJson (Text.ofList
      ([.char '\u2003'] ++ (display (some (.list mixedTravelers)) ++ [.char '\n']))) = true := by
  have hcabin : (decimal 12).length ≤ maxDigits := by decide
  have h (ascii : Bool) : (Value.list mixedTravelers).Writable ascii := by
    have hspelled : ∀ s ∈ (["Zoë \"Z\" 😀", "Ben", "name", "share", "cabins", "adult"] : List Text),
        CanSpell ascii s := by cases ascii <;> decide
    simp only [List.forall_mem_cons] at hspelled
    simp [mixedTravelers, hcabin, hspelled]
  constructor
  · exact (jsonText_stands_for_value.1 _ mixedTravelers (h true)).trans (by decide)
  · exact (jsonText_stands_for_value.2 _ _ _ (h false) (.inl rfl) (List.all_eq_true.mp rfl)
      (List.all_eq_true.mp rfl)).1

end TripProposal.Trip
