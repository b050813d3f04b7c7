import TripProposal.Proofs.Text.Occurrences
import TripProposal.Trip.DayType

/-!
# Days of boarding and of leaving the ship

A day is classified by words that occur anywhere in its text, the words of boarding being looked
for first. They also occur inside of longer words of leaving the ship, so a day whose text speaks
of disembarkation passes for a day of boarding, while one on which guests just disembark is taken
for what it is.
-/

namespace TripProposal.Trip

open Text

variable {port : Fields} {text : Text}

/-! ### Words -/

/-- A word is mentioned when it occurs anywhere in the text. -/
lemma mentions_iff {words : List Text} :
    mentions words text = true ↔ ∃ word ∈ words, word.toList <:+: text.toList := by
  simp only [mentions, List.any_eq_true, holds_iff_infix]

/-- What turns a word of boarding into one of leaving the ship. -/
def undoing : Text := "dis"

/-- The words of leaving the ship that have a word of boarding in them. -/
def disembarkationWords : List Text :=
  embarkationWords.map (undoing ++ ·)

/-- Whether the words of boarding stand in a text only as parts of words of leaving the ship. -/
def OnlyDisembarks (text : Text) : Prop :=
  ∀ word ∈ embarkationWords, OnlyBehind undoing.toList word.toList text.toList

instance (text : Text) : Decidable (OnlyDisembarks text) :=
  inferInstanceAs (Decidable (∀ word ∈ embarkationWords, OnlyBehind _ _ _))

/-- Such a text mentions boarding exactly when it has one of the longer words. -/
lemma OnlyDisembarks.mentions_eq (h : OnlyDisembarks text) :
    mentions embarkationWords text = mentions disembarkationWords text := by
  rw [Bool.eq_iff_iff, mentions_iff, mentions_iff]
  simp only [disembarkationWords, List.mem_map, exists_exists_and_eq_and, Text.toList_append]
  exact exists_congr fun word => and_congr_right fun hword => (h word hword).infix_iff

/-! ### Classification -/

/-- Whether the record of a port says that the ship is boarded there. -/
def Boards (port : Fields) : Prop :=
  Value.lowered (Fields.get? "type" port) = "embarkation" ∨
    (Fields.get? "isEmbarkation" port).any Value.isFilled = true

instance (port : Fields) : Decidable (Boards port) :=
  inferInstanceAs (Decidable (_ ∨ _))

/-- During the cruise, a day is one of boarding by its port or by a word of its text. -/
lemma of_eq_embarkation_iff : DayType.of port text false false = .embarkation ↔
    Boards port ∨ mentions embarkationWords text = true := by
  unfold DayType.of Boards
  simp only [Bool.false_and, Bool.false_eq_true, if_false, Bool.or_eq_true, beq_iff_eq]
  split
  · next h => simpa using h
  · next h =>
    refine iff_of_false ?_ h
    split
    · simp
    · split
      · simp
      · split <;> simp

/-- Leaving the ship is recognised unless the day counts as boarding. -/
lemma of_eq_debarkation (h : DayType.of port text false false ≠ .embarkation)
    (ht : mentions debarkationWords text = true) :
    DayType.of port text false false = .debarkation := by
  rw [ne_eq, of_eq_embarkation_iff, not_or, Boards, not_or] at h
  obtain ⟨⟨htype, hflag⟩, htext⟩ := h
  simp [DayType.of, htype, hflag, htext, ht]

/-- When words of boarding stand in a text only as parts of words of leaving the ship, a day whose
port is none of boarding is still classified as one exactly when there is such a longer word; any
other day that mentions disembarking is one of leaving the ship. -/
theorem of_onlyDisembarks (hport : ¬ Boards port) (htext : OnlyDisembarks text) :
    (DayType.of port text false false = .embarkation ↔
      mentions disembarkationWords text = true) ∧
    (mentions ["disembark"] text = true → mentions disembarkationWords text = false →
      DayType.of port text false false = .debarkation) := by
  have hboards : DayType.of port text false false = .embarkation ↔
      mentions disembarkationWords text = true := by
    rw [of_eq_embarkation_iff, or_iff_right hport, htext.mentions_eq]
  refine ⟨hboards, fun hword hlonger => ?_⟩
  have hleaves : mentions debarkationWords text = true := by
    rw [mentions_iff] at hword ⊢
    obtain ⟨word, hmem, hword⟩ := hword
    exact ⟨word, List.mem_cons_of_mem _ hmem, hword⟩
  refine of_eq_debarkation ?_ hleaves
  rw [ne_eq, hboards, hlonger]
  exact Bool.false_ne_true

theorem of_onlyDisembarks_miami :
    let port : Fields := [("type", .text "port"), ("name", .text "Miami")]
    DayType.of port "miami we disembark in the morning" false false = .debarkation ∧
      DayType.of port "miami disembarkation" false false = .embarkation := by
  intro port
  have hport : ¬ Boards port := by decide
  have hmorning : OnlyDisembarks "miami we disembark in the morning" := by decide
  have hday : OnlyDisembarks "miami disembarkation" := by decide
  constructor
  · exact (of_onlyDisembarks hport hmorning).2 (by decide) (by decide)
  · exact (of_onlyDisembarks hport hday).1.mpr (by decide)

/-- The day of disembarkation passes for one of boarding, without any port that says so. -/
theorem of_disembarkation :
    ¬ Boards [] ∧ OnlyDisembarks "disembarkation" ∧
      mentions ["disembark"] "disembarkation" = true ∧
      DayType.of [] "disembarkation" false false = .embarkation ∧
      DayType.of [] "disembarkation" false false ≠ .debarkation := by
  refine ⟨?_, ?_, ?_, ?_, ?_⟩ <;> decide

end TripProposal.Trip
