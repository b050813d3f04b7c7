import TripProposal.Proofs.Value.Paths
import TripProposal.Trip.Notices

/-!
# Guidance that is kept

Pairs of notices may share fields, in chains and in circles, and a notice that is blanked for one
pair is missing from the next. Since every notice makes way for another one that is left standing,
no pair has two notices in the end and what the trip says is still said somewhere.
-/

namespace TripProposal.Trip

open Value

variable {matcher : NoticeMatcher} {pair : NoticePair} {pairs : List NoticePair} {choice : Choice}
  {choices : List Choice} {trip trip' : Value} {path lost kept : Text} {keys : List Text}

/-! ### Notices -/

/-- Whether the field at a path holds a notice. -/
def IsNotice (matcher : NoticeMatcher) (trip : Value) (path : Text) : Prop :=
  ∃ s, trip.at? (pathKeys path) = some (.text s) ∧ matcher s ≠ []

/-- Whether one of the fields that the pairs name holds a notice. -/
def HasGuidance (matcher : NoticeMatcher) (pairs : List NoticePair) (trip : Value) : Prop :=
  ∃ pair ∈ pairs, IsNotice matcher trip pair.first ∨ IsNotice matcher trip pair.second

/-- Whether a text is at least as specific as another one: it has more distinct cues, or as many
and it is no shorter. -/
def IsAsSpecific (matcher : NoticeMatcher) (text other : Text) : Prop :=
  (matcher other).length < (matcher text).length ∨
    (matcher other).length = (matcher text).length ∧ other.length ≤ text.length

/-- Cues count first, then the length. -/
lemma isBelow_iff {a b : Specificity} :
    a.isBelow b = true ↔ a.cues < b.cues ∨ a.cues = b.cues ∧ a.length < b.length := by
  simp [Specificity.isBelow]

/-- The field that is kept wins, or it is as specific as the other one. -/
lemma isAsSpecific_of_isBelow
    (h : (Specificity.of matcher lost).isBelow (.of matcher kept) = true) :
    IsAsSpecific matcher kept lost := by
  rcases isBelow_iff.mp h with hcues | ⟨hcues, hlength⟩
  · exact .inl hcues
  · exact .inr ⟨hcues, hlength.le⟩

lemma isAsSpecific_of_not_isBelow
    (h : ¬ (Specificity.of matcher kept).isBelow (.of matcher lost) = true) :
    IsAsSpecific matcher kept lost := by
  rw [isBelow_iff, not_or, not_and, not_lt, not_lt] at h
  rcases h.1.lt_or_eq with hcues | hcues
  · exact .inl hcues
  · exact .inr ⟨hcues, h.2 hcues.symm⟩

/-! ### Choices -/

/-- The two choices between the fields of a pair. -/
def choicesOf (pair : NoticePair) : List Choice :=
  [⟨pair.first, pair.second⟩, ⟨pair.second, pair.first⟩]

def Choice.repair (choice : Choice) : Repair :=
  .noticeBlanked choice.blanked choice.kept

/-- A fair choice is one between two notices, and the one that is kept is at least as specific as
the one that is blanked. -/
structure Choice.IsFair (matcher : NoticeMatcher) (trip : Value) (choice : Choice)
    (lost kept : Text) : Prop where
  atBlanked : trip.at? (pathKeys choice.blanked) = some (.text lost)
  lost_ne_nil : matcher lost ≠ []
  atKept : trip.at? (pathKeys choice.kept) = some (.text kept)
  kept_ne_nil : matcher kept ≠ []
  specific : IsAsSpecific matcher kept lost

/-- A choice blanks one field of the pair for the other. -/
lemma exists_isFair_of_choice? (h : choice? matcher trip pair = some choice) :
    choice ∈ choicesOf pair ∧ ∃ lost kept, choice.IsFair matcher trip lost kept := by
  unfold choice? at h
  split at h
  · next first second hfirst hsecond =>
    rw [atPath_eq_text_iff] at hfirst hsecond
    split at h
    · cases h
    · next hne =>
      simp only [Bool.or_eq_true, List.isEmpty_iff, not_or] at hne
      split at h
      · next hbelow =>
        obtain rfl := Option.some.inj h
        exact ⟨by simp [choicesOf], first, second, hfirst, hne.1, hsecond, hne.2,
          isAsSpecific_of_isBelow hbelow⟩
      · next hbelow =>
        obtain rfl := Option.some.inj h
        exact ⟨by simp [choicesOf], second, first, hsecond, hne.2, hfirst, hne.1,
          isAsSpecific_of_not_isBelow hbelow⟩
  · cases h

/-- Without a choice not both fields of a pair hold a notice. -/
lemma not_isNotice_of_choice?_eq_none (h : choice? matcher trip pair = none) :
    ¬ (IsNotice matcher trip pair.first ∧ IsNotice matcher trip pair.second) := by
  rintro ⟨⟨first, hfirst, hmatch⟩, second, hsecond, hmatch'⟩
  rw [← atPath_eq_text_iff] at hfirst hsecond
  simp only [choice?, hfirst, hsecond] at h
  rw [if_neg (by simp [hmatch, hmatch'])] at h
  split at h <;> cases h

/-! ### Blanking one field -/

/-- The trip without the notice that a choice gives up. -/
def Choice.blank (choice : Choice) (trip : Value) : Value :=
  putAtPath (.text "") (pathKeys choice.blanked) trip

lemma Choice.IsFair.at?_blank_self (h : choice.IsFair matcher trip lost kept) :
    (choice.blank trip).at? (pathKeys choice.blanked) = some (.text "") :=
  at?_putAtPath_self _ (pathKeys_ne_nil _) h.atBlanked

/-- Blanking a notice leaves all others, and it is none any more. -/
lemma Choice.IsFair.isNotice_blank_iff (hm : matcher "" = [])
    (h : choice.IsFair matcher trip lost kept) :
    IsNotice matcher (choice.blank trip) path ↔
      IsNotice matcher trip path ∧ path ≠ choice.blanked := by
  by_cases hp : path = choice.blanked
  · subst hp
    refine iff_of_false ?_ fun hn => hn.2 rfl
    rintro ⟨s, hs, hmatch⟩
    rw [h.at?_blank_self] at hs
    obtain rfl := Value.text.inj (Option.some.inj hs)
    exact hmatch hm
  · simp only [ne_eq, hp, not_false_iff, and_true]
    refine exists_congr fun s => and_congr_left fun _ => ?_
    exact at?_putAtPath_text_iff "" h.atBlanked fun hkeys => hp (pathKeys_injective hkeys)

/-! ### Blanking one field after the other -/

/-- A trip becomes another one by fair choices for some of the pairs, each of them made on what the
choices before it have left. -/
inductive Blanks (matcher : NoticeMatcher) (pairs : List NoticePair) :
    Value → List Choice → Value → Prop
  | done (trip : Value) : Blanks matcher pairs trip [] trip
  | blank {trip trip' : Value} {pair : NoticePair} {choice : Choice} {choices : List Choice}
    {lost kept : Text} (hpair : pair ∈ pairs) (hchoice : choice ∈ choicesOf pair)
    (hfair : choice.IsFair matcher trip lost kept)
    (hrest : Blanks matcher pairs (choice.blank trip) choices trip') :
    Blanks matcher pairs trip (choice :: choices) trip'

/-- A document in which the fields at some paths have been blanked. -/
structure NoticesBlanked (matcher : NoticeMatcher) (blanked : List Text) (trip trip' : Value) :
    Prop where
  nodup : blanked.Nodup
  fields : ∀ path ∈ blanked, IsNotice matcher trip path ∧
    trip'.at? (pathKeys path) = some (.text "")
  /-- What is no blanked field and stands around none stays. -/
  rest : ∀ keys, (∀ path ∈ blanked, ¬ keys <+: pathKeys path) → trip'.at? keys = trip.at? keys

namespace Blanks

variable (hm : matcher "" = [])

include hm

/-- What holds a notice in the end held one from the start. -/
lemma isNotice_of (h : Blanks matcher pairs trip choices trip')
    (hn : IsNotice matcher trip' path) : IsNotice matcher trip path := by
  induction h with
  | done => exact hn
  | blank _ _ hfair _ ih => exact ((hfair.isNotice_blank_iff hm).mp (ih hn)).1

/-- A notice goes only where another one stays. -/
lemma hasGuidance (hpairs : ∀ pair ∈ pairs, pair.first ≠ pair.second)
    (h : Blanks matcher pairs trip choices trip') (hg : HasGuidance matcher pairs trip) :
    HasGuidance matcher pairs trip' := by
  induction h with
  | done => exact hg
  | @blank trip _ pair choice _ _ kept hpair hchoice hfair _ ih =>
    refine ih ⟨pair, hpair, ?_⟩
    have hkept : IsNotice matcher trip choice.kept := ⟨kept, hfair.atKept, hfair.kept_ne_nil⟩
    have hne := hpairs pair hpair
    rcases List.mem_pair.mp hchoice with rfl | rfl
    · exact .inr ((hfair.isNotice_blank_iff hm).mpr ⟨hkept, Ne.symm hne⟩)
    · exact .inl ((hfair.isNotice_blank_iff hm).mpr ⟨hkept, hne⟩)

/-- The fields that are blanked are those of the choices, and nothing else changes. -/
lemma noticesBlanked (h : Blanks matcher pairs trip choices trip') :
    NoticesBlanked matcher (choices.map (·.blanked)) trip trip' := by
  induction h with
  | done => exact ⟨List.nodup_nil, (fun _ hp => nomatch hp), fun _ _ => rfl⟩
  | @blank trip trip' pair choice choices _ _ _ _ hfair _ ih =>
    -- A field that is blanked later still is a notice, so it is another field.
    have hlater : ∀ path ∈ choices.map (·.blanked),
        IsNotice matcher trip path ∧ path ≠ choice.blanked := fun path hp =>
      (hfair.isNotice_blank_iff hm).mp (ih.fields path hp).1
    have hself : trip'.at? (pathKeys choice.blanked) = some (.text "") := by
      rw [ih.rest _ fun path hp hprefix => ?_, hfair.at?_blank_self]
      obtain ⟨s, hs, -⟩ := (ih.fields path hp).1
      have hkeys := eq_of_prefix_of_text hprefix hfair.at?_blank_self hs
      exact (hlater path hp).2 (pathKeys_injective hkeys).symm
    rw [List.map_cons]
    constructor
    case nodup => exact List.nodup_cons.mpr ⟨fun hp => (hlater _ hp).2 rfl, ih.nodup⟩
    case fields =>
      intro path hp
      rcases List.mem_cons.mp hp with rfl | hp
      · exact ⟨⟨_, hfair.atBlanked, hfair.lost_ne_nil⟩, hself⟩
      · exact ⟨(hlater path hp).1, (ih.fields path hp).2⟩
    case rest =>
      intro keys hkeys
      rw [List.forall_mem_cons] at hkeys
      rw [ih.rest keys hkeys.2]
      exact at?_putAtPath_of_not_isPrefix "" hfair.atBlanked hkeys.1

end Blanks

/-! ### Going through the pairs -/

namespace Workspace

variable {w : Workspace}

/-- Without a live description, replacing a value changes no other place. -/
lemma trip_putAtPath (hw : w.descriptionLive = false) (keys : List Text) (new : Value) :
    Value.object (w.putAtPath keys new).trip = Value.putAtPath new keys (.object w.trip) := by
  obtain ⟨fields, hfields⟩ : ∃ fields, Value.putAtPath new keys (.object w.trip) = .object fields := by
    unfold Value.putAtPath
    split
    · split <;> exact ⟨_, rfl⟩
    · exact ⟨_, rfl⟩
  simp [putAtPath, afterReplacing, hw, hfields, fields?]

lemma descriptionLive_putAtPath (hw : w.descriptionLive = false) (keys : List Text) (new : Value) :
    (w.putAtPath keys new).descriptionLive = false := by
  simp [putAtPath, afterReplacing, hw]

end Workspace

/-- Going through pairs makes fair choices, reports each of them and leaves no pair with two
notices. -/
lemma exists_blanks {all : List NoticePair} {w : Workspace} (hm : matcher "" = [])
    (hw : w.descriptionLive = false) (hall : pairs ⊆ all) :
    ∃ choices, (blankNotices matcher w pairs).2 = choices.map Choice.repair ∧
      Blanks matcher all (.object w.trip) choices (.object (blankNotices matcher w pairs).1.trip) ∧
      ∀ pair ∈ pairs,
        ¬ (IsNotice matcher (.object (blankNotices matcher w pairs).1.trip) pair.first ∧
          IsNotice matcher (.object (blankNotices matcher w pairs).1.trip) pair.second) := by
  induction pairs generalizing w with
  | nil => exact ⟨[], rfl, .done _, fun _ hp => nomatch hp⟩
  | cons pair pairs ih =>
    obtain ⟨hpair, hpairs⟩ := List.cons_subset.mp hall
    rw [blankNotices]
    cases hc : choice? matcher (.object w.trip) pair with
    | none =>
      obtain ⟨choices, hrepairs, hblanks, hapart⟩ := ih hw hpairs
      refine ⟨choices, hrepairs, hblanks, List.forall_mem_cons.mpr ⟨?_, hapart⟩⟩
      -- Blanking only takes notices away, so two notices in the end were two from the start.
      rintro ⟨hfirst, hsecond⟩
      exact not_isNotice_of_choice?_eq_none hc
        ⟨hblanks.isNotice_of hm hfirst, hblanks.isNotice_of hm hsecond⟩
    | some choice =>
      obtain ⟨hchoice, lost, kept, hfair⟩ := exists_isFair_of_choice? hc
      obtain ⟨choices, hrepairs, hblanks, hapart⟩ :=
        ih (Workspace.descriptionLive_putAtPath hw (pathKeys choice.blanked) (.text "")) hpairs
      rw [Workspace.trip_putAtPath hw] at hblanks
      refine ⟨choice :: choices, congrArg (choice.repair :: ·) hrepairs,
        .blank hpair hchoice hfair hblanks, List.forall_mem_cons.mpr ⟨?_, hapart⟩⟩
      rintro ⟨hfirst, hsecond⟩
      -- The blanked field is no notice any more, and it is one of the pair.
      have hgone {path : Text} (hn : IsNotice matcher _ path) : path ≠ choice.blanked :=
        ((hfair.isNotice_blank_iff hm).mp (hblanks.isNotice_of hm hn)).2
      rcases List.mem_pair.mp hchoice with rfl | rfl
      · exact hgone hfirst rfl
      · exact hgone hsecond rfl

/-- What becomes of the notices of a trip when pairs of them are compared. -/
structure GuidanceKept (matcher : NoticeMatcher) (pairs : List NoticePair) (choices : List Choice)
    (trip trip' : Value) : Prop where
  /-- Whenever a field is blanked, the other one of the pair holds a notice that is at least as
  specific at that moment. -/
  blanks : Blanks matcher pairs trip choices trip'
  apart : ∀ pair ∈ pairs, ¬ (IsNotice matcher trip' pair.first ∧ IsNotice matcher trip' pair.second)
  guidance : HasGuidance matcher pairs trip → HasGuidance matcher pairs trip'
  /-- The blanked fields are empty, each of them was a notice, and nothing else has changed. -/
  fields : NoticesBlanked matcher (choices.map (·.blanked)) trip trip'

/-- Comparing pairs of notices, however they share fields, blanks notices and nothing else, reports
each field that it blanks, and loses no guidance. -/
theorem blankNotices_keepsGuidance (hm : matcher "" = [])
    (hpairs : ∀ pair ∈ pairs, pair.first ≠ pair.second) (trip : Fields) :
    ∃ choices,
      (blankNotices matcher ⟨trip, false, [], false⟩ pairs).2 = choices.map Choice.repair ∧
      GuidanceKept matcher pairs choices (.object trip)
        (.object (blankNotices matcher ⟨trip, false, [], false⟩ pairs).1.trip) := by
  obtain ⟨choices, hrepairs, hblanks, hapart⟩ :=
    exists_blanks (w := ⟨trip, false, [], false⟩) hm rfl (List.Subset.refl pairs)
  exact ⟨choices, hrepairs, hblanks, hapart, hblanks.hasGuidance hm hpairs,
    hblanks.noticesBlanked hm⟩

/-- A trip that says the same in three places. -/
def threeNotes : Fields :=
  [("tours", .text "Please self-book"), ("note", .text "self-book"),
   ("meta", .object [("note", .text "self-book!")])]

theorem blankNotices_keepsGuidance_threeNotes :
    let matcher := keywordMatcher ["self-book"]
    let pairs := [⟨"tours", "note"⟩, ⟨"note", "meta.note"⟩, ⟨"meta.note", "tours"⟩]
    let trip := (blankNotices matcher ⟨threeNotes, false, [], false⟩ pairs).1.trip
    (∃ choices, GuidanceKept matcher pairs choices (.object threeNotes) (.object trip)) ∧
      trip = ([("tours", .text "Please self-book"), ("note", .text ""),
        ("meta", .object [("note", .text "")])] : Fields) := by
  intro matcher pairs trip
  have hempty : matcher "" = [] := by decide
  have hpairs : ∀ pair ∈ pairs, pair.first ≠ pair.second := by decide
  obtain ⟨choices, -, h⟩ := blankNotices_keepsGuidance hempty hpairs threeNotes
  exact ⟨⟨choices, h⟩, rfl⟩

end TripProposal.Trip
