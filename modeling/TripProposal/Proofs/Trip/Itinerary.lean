import Mathlib.Algebra.GroupWithZero.Nat
import Mathlib.Tactic.Common
import TripProposal.Proofs.Number.Characters
import TripProposal.Proofs.Trip.Settled
import TripProposal.Proofs.Value.Difference

/-!
# Sanitizing the itinerary

A day keeps exactly those entries that have something to read, and everything else stays. The
warnings come day by day, and the counts that they state add up to the number of entries that are
gone. A second run finds nothing to do.
-/

namespace TripProposal.Trip

open Fields Number Text Value

variable {trip day day' day'' lodging : Fields} {v : Value} {key label : Text} {n m : Nat}

/-! ### What can be read -/

/-- A text has a letter or a digit. -/
def HasWord (s : Text) : Prop :=
  ∃ c ∈ s.toList, isAlphanumeric c = true

/-- An activity that can be read, by its name or by its description. -/
inductive ReadableActivity : Value → Prop
  | name {activity : Fields} {s : Text} (h : get? "name" activity = some (.text s))
    (hs : HasWord s) : ReadableActivity (.object activity)
  /-- The description is filled, and put into a sentence it can be read. -/
  | description {activity : Fields} {v : Value} (h : get? "description" activity = some v)
    (hv : v.isFilled = true) (hs : HasWord v.inText) : ReadableActivity (.object activity)

/-- An item of a schedule that can be read. -/
inductive ReadableItem : Value → Prop
  | activity {item : Fields} {s : Text} (h : get? "activity" item = some (.text s))
    (hs : HasWord s) : ReadableItem (.object item)

/-- Lodging that can be read. -/
inductive ReadableLodging : Fields → Prop
  | name {lodging : Fields} {s : Text} (h : get? "name" lodging = some (.text s))
    (hs : HasWord s) : ReadableLodging lodging

lemma isWorded_iff {s : Text} : isWorded s = true ↔ HasWord s :=
  List.any_eq_true

lemma isWordedText_iff {o : Option Value} :
    isWordedText o = true ↔ ∃ s, o = some (.text s) ∧ HasWord s := by
  cases o with
  | none => simp [isWordedText]
  | some v => cases v <;> simp [isWordedText, isWorded_iff]

/-- The test of activities is the one for what can be read. -/
lemma activityIsWorded_iff : activityIsWorded v = true ↔ ReadableActivity v := by
  cases v with
  | object activity =>
    simp only [activityIsWorded, Bool.or_eq_true, isWordedText_iff, Option.any_eq_true,
      Bool.and_eq_true, isWorded_iff, field?]
    constructor
    · rintro (⟨s, h, hs⟩ | ⟨v, h, hv, hs⟩)
      · exact .name h hs
      · exact .description h hv hs
    · rintro (⟨h, hs⟩ | ⟨h, hv, hs⟩)
      · exact .inl ⟨_, h, hs⟩
      · exact .inr ⟨_, h, hv, hs⟩
  | _ =>
    refine iff_of_false (by simp [activityIsWorded, isWordedText, field?]) ?_
    intro h
    cases h

/-- So is the test of schedules. -/
lemma scheduleItemIsWorded_iff : scheduleItemIsWorded v = true ↔ ReadableItem v := by
  rw [scheduleItemIsWorded, isWordedText_iff]
  constructor
  · rintro ⟨s, h, hs⟩
    cases v with
    | object item => exact .activity h hs
    | _ => cases h
  · rintro ⟨h, hs⟩
    exact ⟨_, h, hs⟩

/-- So is the test of lodging. -/
lemma isWordedText_name_iff :
    isWordedText (get? "name" lodging) = true ↔ ReadableLodging lodging := by
  rw [isWordedText_iff]
  constructor
  · rintro ⟨s, h, hs⟩
    exact .name h hs
  · rintro ⟨h, hs⟩
    exact ⟨_, h, hs⟩

instance : DecidablePred ReadableActivity := fun _ =>
  decidable_of_iff _ activityIsWorded_iff

instance : DecidablePred ReadableItem := fun _ =>
  decidable_of_iff _ scheduleItemIsWorded_iff

instance : DecidablePred ReadableLodging := fun _ =>
  decidable_of_iff _ isWordedText_name_iff

/-! ### Warnings -/

/-- A warning about the day with a label, and how many entries it says were removed. -/
inductive Warns (label : Text) : Text → Nat → Prop
  | activities {n : Nat} (h : 0 < n) :
    Warns label ("Day " ++ label ++ ": Removed " ++ Text.ofNat n ++ " emoji-only activity name(s)") n
  | schedule {n : Nat} (h : 0 < n) :
    Warns label ("Day " ++ label ++ ": Removed " ++ Text.ofNat n ++ " emoji-only schedule item(s)") n
  | lodging : Warns label ("Day " ++ label ++ ": Removed lodging with emoji-only name") 1

/-- A warning says that a number of entries were removed from some day. -/
def States (warning : Text) (n : Nat) : Prop :=
  ∃ label, Warns label warning n

lemma Warns.pos {warning : Text} (h : Warns label warning n) : 0 < n := by
  cases h with
  | activities h => exact h
  | schedule h => exact h
  | lodging => exact Nat.one_pos

/-- The number in front of an ending can be told from the text. -/
lemma eq_of_count_eq {before before' ending ending' : List CodePoint}
    (hlength : ending.length = ending'.length)
    (h : before ++ .char ' ' :: decimal n ++ ending =
      before' ++ .char ' ' :: decimal m ++ ending') : n = m := by
  have hspace : ∀ k, CodePoint.char ' ' ∉ (decimal k).reverse := by
    intro k hmem
    exact absurd (isDigit_of_mem_decimal (List.mem_reverse.mp hmem)) (by decide)
  have hreverse := congrArg List.reverse (List.append_inj_left' h hlength)
  simp only [List.reverse_append, List.reverse_cons, List.append_assoc, List.singleton_append]
    at hreverse
  have hdigits := eq_of_append_cons_eq (hspace n) (hspace m) hreverse
  exact decimal_injective (List.reverse_injective hdigits)

/-- How warnings about several entries end. -/
def countEndings : List Text :=
  [" emoji-only activity name(s)", " emoji-only schedule item(s)"]

lemma States.cases {warning : Text} (h : States warning n) :
    (∃ label, ∃ ending ∈ countEndings,
      warning = "Day " ++ label ++ ": Removed " ++ Text.ofNat n ++ ending) ∨
    ∃ label, warning = "Day " ++ label ++ ": Removed lodging with emoji-only name" ∧ n = 1 := by
  obtain ⟨label, h⟩ := h
  cases h with
  | activities _ => exact .inl ⟨label, _, List.mem_cons_self, rfl⟩
  | schedule _ => exact .inl ⟨label, _, List.mem_cons_of_mem _ List.mem_cons_self, rfl⟩
  | lodging => exact .inr ⟨label, rfl, rfl⟩

/-- A warning about several items states their number. -/
lemma eq_of_countWarning_eq {label label' ending ending' : Text} (hending : ending ∈ countEndings)
    (hending' : ending' ∈ countEndings)
    (h : "Day " ++ label ++ ": Removed " ++ Text.ofNat n ++ ending =
      "Day " ++ label' ++ ": Removed " ++ Text.ofNat m ++ ending') : n = m := by
  have htoList : ∀ (label ending : Text) (k : Nat),
      ("Day " ++ label ++ ": Removed " ++ Text.ofNat k ++ ending).toList =
        ("Day " ++ label ++ ": Removed").toList ++ .char ' ' :: decimal k ++ ending.toList := by
    intro label ending k
    simp [Text.ofNat]
  have hlength : ∀ ending ∈ countEndings, ending.toList.length = 28 := by decide
  have htext := congrArg Text.toList h
  rw [htoList, htoList] at htext
  exact eq_of_count_eq ((hlength ending hending).trans (hlength ending' hending').symm) htext

/-- A warning about several entries ends in a bracket. -/
lemma countWarning_ne_lodgingWarning {label label' ending : Text}
    (hending : ending ∈ countEndings) : "Day " ++ label ++ ": Removed " ++ Text.ofNat n ++ ending ≠
      "Day " ++ label' ++ ": Removed lodging with emoji-only name" := by
  intro h
  have hlast := congrArg (fun s => s.toList.getLast?) h
  have hend : ∀ ending ∈ countEndings, ending.toList.getLast? = some (.char ')') := by decide
  have hname : ": Removed lodging with emoji-only name".codePoints.getLast? =
      some (.char 'e') := by decide
  simp only [Text.toList_append, List.getLast?_append, hend ending hending, Text.toList_ofString,
    hname, Option.some_or] at hlast
  exact absurd (Option.some.inj hlast) (by decide)

/-- A warning says one number. -/
lemma States.unique {warning : Text} (h : States warning n) (h' : States warning m) : n = m := by
  rcases h.cases with ⟨label, ending, hending, rfl⟩ | ⟨label, rfl, rfl⟩ <;>
    rcases h'.cases with ⟨label', ending', hending', heq⟩ | ⟨label', heq, rfl⟩
  · exact eq_of_countWarning_eq hending hending' heq
  · exact absurd heq (countWarning_ne_lodgingWarning hending)
  · exact absurd heq.symm (countWarning_ne_lodgingWarning hending')
  · rfl

/-! ### One day -/

/-- How warnings call a day. -/
def dayLabel (day : Fields) : Text :=
  ((get? "day" day).getD .null).inText

/-- The number of entries of a day that can be removed: activities, items of the schedule and the
lodging. -/
def entryCount (day : Fields) : Nat :=
  (listAt "activities" day).length + (listAt "schedule" day).length +
    if (get? "lodging" day).any isObject then 1 else 0

/-- Warnings about the day with a label state how many entries it has lost. -/
def AccountFor (label : Text) (warnings : List Text) (day day' : Fields) : Prop :=
  ∃ counts, List.Forall₂ (Warns label) warnings counts ∧
    entryCount day' + counts.sum = entryCount day

/-- What becomes of a day, and the warnings about it. -/
structure DaySanitized (day day' : Fields) (warnings : List Text) : Prop where
  activities : ∀ items, get? "activities" day = some (.list items) →
    get? "activities" day' = some (.list (items.filter (ReadableActivity ·)))
  schedule : ∀ items, get? "schedule" day = some (.list items) →
    get? "schedule" day' = some (.list (items.filter (ReadableItem ·)))
  lodging : ∀ lodging, get? "lodging" day = some (.object lodging) →
    get? "lodging" day' = if ReadableLodging lodging then some (.object lodging) else none
  rest : ∀ key : Text,
    (key ∈ (["activities", "schedule"] : List Text) → ∀ items, get? key day ≠ some (.list items)) →
    (key = "lodging" → ∀ lodging, get? key day ≠ some (.object lodging)) →
    get? key day' = get? key day
  keys : (day'.map Prod.fst).Sublist (day.map Prod.fst)
  counts : AccountFor (dayLabel day) warnings day day'

lemma AccountFor.refl (label : Text) (day : Fields) : AccountFor label [] day day :=
  ⟨[], .nil, rfl⟩

/-- Warnings of two steps account for what both of them drop. -/
lemma AccountFor.trans {warnings warnings' : List Text}
    (h : AccountFor label warnings day day') (h' : AccountFor label warnings' day' day'') :
    AccountFor label (warnings ++ warnings') day day'' := by
  obtain ⟨counts, hwarns, hsum⟩ := h
  obtain ⟨counts', hwarns', hsum'⟩ := h'
  refine ⟨counts ++ counts', List.rel_append hwarns hwarns', ?_⟩
  rw [List.sum_append]
  omega

/-- Dropping items of a list is reported by their number. -/
lemma accountFor_keepItems {test : Value → Bool} {report : Nat → Repair}
    (hreport : ∀ n, 0 < n → Warns label (report n).message n)
    (hkey : key ∈ (["activities", "schedule"] : List Text)) (day : Fields) :
    AccountFor label ((keepItems key test report day).2.map Repair.message) day
      (keepItems key test report day).1 := by
  unfold keepItems
  split
  · next items hv =>
    have hle := List.length_filter_le test items
    have hcount : entryCount (put key (.list (items.filter test)) day) + items.length =
        entryCount day + (items.filter test).length := by
      simp only [List.mem_cons, List.not_mem_nil, or_false] at hkey
      rcases hkey with rfl | rfl
      · simp [entryCount, listAt, hv]
        omega
      · simp [entryCount, listAt, hv]
        omega
    by_cases hall : (items.filter test).length = items.length
    · exact ⟨[], by simp [hall], by simp; omega⟩
    · refine ⟨[items.length - (items.filter test).length], ?_, by simp; omega⟩
      simpa [hall] using hreport _ (by omega)
  · exact .refl label day

/-- Dropping the lodging is reported. -/
lemma accountFor_keepLodging {report : Repair} (hreport : Warns label report.message 1)
    (day : Fields) : AccountFor label ((keepLodging report day).2.map Repair.message) day
      (keepLodging report day).1 := by
  unfold keepLodging
  split
  · next lodging hv =>
    split
    · exact .refl label day
    · refine ⟨[1], .cons hreport .nil, ?_⟩
      simp [entryCount, listAt, get?_erase, hv, isObject]
  · exact .refl label day

lemma map_fst_keepLodging (report : Repair) (day : Fields) :
    ((keepLodging report day).1.map Prod.fst).Sublist (day.map Prod.fst) := by
  unfold keepLodging
  split
  · split
    · exact .refl _
    · exact map_fst_erase "lodging" day ▸ List.filter_sublist
  · exact .refl _

lemma get?_keepLodging_of_object (report : Repair)
    (hv : get? "lodging" day = some (.object lodging)) :
    get? "lodging" (keepLodging report day).1 =
      if ReadableLodging lodging then some (.object lodging) else none := by
  by_cases hl : ReadableLodging lodging
  · simp [keepLodging, hv, isWordedText_name_iff.mpr hl, hl]
  · simp [keepLodging, hv, mt isWordedText_name_iff.mp hl, hl, get?_erase]

lemma get?_keepLodging_of_not_object (report : Repair)
    (h : key = "lodging" → ∀ lodging, get? key day ≠ some (.object lodging)) :
    get? key (keepLodging report day).1 = get? key day := by
  by_cases hkey : "lodging" = key
  · subst hkey
    simp [keepLodging, h rfl]
  · exact get?_keepLodging report day hkey

/-- The warnings about a day state how many entries are gone. -/
lemma accountFor_sanitizeDay (day : Fields) : AccountFor (dayLabel day)
    ((sanitizeDay day).2.map Repair.message) day (sanitizeDay day).1 := by
  have hactivities : ∀ n, 0 < n → Warns (dayLabel day)
      (Repair.activitiesDropped ((get? "day" day).getD .null) n).message n :=
    fun _ hn => .activities hn
  have hschedule : ∀ n, 0 < n → Warns (dayLabel day)
      (Repair.scheduleDropped ((get? "day" day).getD .null) n).message n :=
    fun _ hn => .schedule hn
  have hlodging : Warns (dayLabel day)
      (Repair.lodgingDropped ((get? "day" day).getD .null)).message 1 := .lodging
  simp only [sanitizeDay, List.map_append]
  exact ((accountFor_keepItems hactivities (by simp) _).trans
    (accountFor_keepItems hschedule (by simp) _)).trans (accountFor_keepLodging hlodging _)

/-- Sanitizing a day keeps what can be read, and accounts for the rest. -/
lemma daySanitized_sanitizeDay (day : Fields) :
    DaySanitized day (sanitizeDay day).1 ((sanitizeDay day).2.map Repair.message) where
  activities items hv := by
    rw [fst_sanitizeDay, get?_keepLodging _ _ (by decide), get?_changeList_of_ne (by decide),
      changeList_of_get? hv, get?_put_self]
    simp only [← activityIsWorded_iff, Bool.decide_eq_true]
  schedule items hv := by
    have hsame : get? "schedule" (changeList "activities" (List.filter activityIsWorded) day) =
        some (.list items) := by rw [get?_changeList_of_ne (by decide), hv]
    rw [fst_sanitizeDay, get?_keepLodging _ _ (by decide), changeList_of_get? hsame, get?_put_self]
    simp only [← scheduleItemIsWorded_iff, Bool.decide_eq_true]
  lodging lodging hv := by
    rw [fst_sanitizeDay]
    refine get?_keepLodging_of_object _ ?_
    rw [get?_changeList_of_ne (by decide), get?_changeList_of_ne (by decide), hv]
  rest key hlist hobject := by
    have hactivities : get? key (changeList "activities" (List.filter activityIsWorded) day) =
        get? key day := get?_changeList_of_not_list fun h => hlist (by simp [← h])
    have hschedule : get? key (changeList "schedule" (List.filter scheduleItemIsWorded)
        (changeList "activities" (List.filter activityIsWorded) day)) = get? key day := by
      rw [← hactivities]
      refine get?_changeList_of_not_list fun h => ?_
      rw [hactivities]
      exact hlist (by simp [← h])
    rw [fst_sanitizeDay, get?_keepLodging_of_not_object, hschedule]
    rwa [hschedule]
  keys := by
    rw [fst_sanitizeDay]
    refine (map_fst_keepLodging _ _).trans ?_
    rw [map_fst_changeList, map_fst_changeList]
  counts := accountFor_sanitizeDay day

/-! ### The itinerary -/

/-- What becomes of an item of the itinerary, and the warnings about it. -/
inductive ItemSanitized : Value → Value × List Text → Prop
  | day {day day' : Fields} {warnings : List Text} (h : DaySanitized day day' warnings) :
    ItemSanitized (.object day) (.object day', warnings)
  | other {v : Value} (h : v.isObject = false) : ItemSanitized v (v, [])

/-- The number of entries that the days of a list have. -/
def daysEntryCount (days : List Value) : Nat :=
  ((days.filterMap fields?).map entryCount).sum

/-- What becomes of a trip, and the warnings about it. -/
structure ItinerarySanitized (trip trip' : Fields) (warnings : List Text) : Prop where
  days : ∀ days, get? "itinerary" trip = some (.list days) → ∃ results,
    List.Forall₂ ItemSanitized days results ∧
    get? "itinerary" trip' = some (.list (results.map Prod.fst)) ∧
    warnings = results.flatMap Prod.snd
  other : (∀ days, get? "itinerary" trip ≠ some (.list days)) → trip' = trip ∧ warnings = []
  rest : SameExcept ["itinerary"] trip trip'
  keys : trip'.map Prod.fst = trip.map Prod.fst
  /-- Each warning states one number, and together they are the number of entries that are gone. -/
  counts : ∃ counts, (∀ counts', List.Forall₂ States warnings counts' ↔ counts' = counts) ∧
    daysEntryCount (listAt "itinerary" trip') + counts.sum =
      daysEntryCount (listAt "itinerary" trip)

/-- An item of the itinerary without entries that cannot be read, and the warnings about it. -/
def sanitizedItem : Value → Value × List Text
  | .object day => (.object (sanitizeDay day).1, (sanitizeDay day).2.map Repair.message)
  | v => (v, [])

lemma itemSanitized_sanitizedItem (v : Value) : ItemSanitized v (sanitizedItem v) := by
  cases v with
  | object day => exact .day (daySanitized_sanitizeDay day)
  | _ => exact .other rfl

lemma fst_sanitizeDays_eq (days : List Value) :
    (sanitizeDays days).1 = (days.map sanitizedItem).map Prod.fst := by
  induction days with
  | nil => rfl
  | cons v days ih => cases v <;> simp [sanitizeDays, sanitizedItem, ih]

lemma snd_sanitizeDays_eq (days : List Value) :
    (sanitizeDays days).2.map Repair.message = (days.map sanitizedItem).flatMap Prod.snd := by
  induction days with
  | nil => rfl
  | cons v days ih => cases v <;> simp [sanitizeDays, sanitizedItem, ih]

lemma DaySanitized.states {warnings : List Text} (h : DaySanitized day day' warnings) :
    ∃ counts, List.Forall₂ States warnings counts ∧
      entryCount day' + counts.sum = entryCount day := by
  obtain ⟨counts, hwarns, hsum⟩ := h.counts
  exact ⟨counts, hwarns.imp fun _ _ hw => ⟨_, hw⟩, hsum⟩

/-- The warnings about all days state how many entries are gone. -/
lemma exists_counts {days : List Value} {results : List (Value × List Text)}
    (h : List.Forall₂ ItemSanitized days results) :
    ∃ counts, List.Forall₂ States (results.flatMap Prod.snd) counts ∧
      daysEntryCount (results.map Prod.fst) + counts.sum = daysEntryCount days := by
  induction h with
  | nil => exact ⟨[], .nil, rfl⟩
  | @cons v result days results hv _ ih =>
    obtain ⟨counts, hstates, hsum⟩ := ih
    cases hv with
    | day h =>
      obtain ⟨counts', hstates', hsum'⟩ := h.states
      refine ⟨counts' ++ counts, List.rel_append hstates' hstates, ?_⟩
      simp only [daysEntryCount, List.map_cons, List.filterMap_cons, fields?, List.sum_cons,
        List.sum_append] at hsum ⊢
      omega
    | other h =>
      refine ⟨counts, hstates, ?_⟩
      cases v with
      | object day => cases h
      | _ => exact hsum

/-- The numbers can be read off the warnings. -/
lemma forall₂_states_iff {warnings : List Text} {counts counts' : List Nat}
    (h : List.Forall₂ States warnings counts) :
    List.Forall₂ States warnings counts' ↔ counts' = counts := by
  constructor
  · intro h'
    exact List.right_unique_forall₂' (fun _ _ _ hn hm => hn.unique hm) h' h
  · rintro rfl
    exact h

lemma sanitizeItinerary_of_get? {days : List Value}
    (h : get? "itinerary" trip = some (.list days)) :
    sanitizeItinerary trip =
      (put "itinerary" (.list (sanitizeDays days).1) trip, (sanitizeDays days).2) := by
  rw [sanitizeItinerary, h]

lemma sanitizeItinerary_of_not_list (h : ∀ days, get? "itinerary" trip ≠ some (.list days)) :
    sanitizeItinerary trip = (trip, []) := by
  unfold sanitizeItinerary
  split
  · next days hdays => exact absurd hdays (h days)
  · rfl

/-- Sanitizing an itinerary keeps what can be read, and accounts for the rest. -/
lemma itinerarySanitized (trip : Fields) : ItinerarySanitized trip (sanitizeItinerary trip).1
    ((sanitizeItinerary trip).2.map Repair.message) := by
  by_cases hlist : ∃ days, get? "itinerary" trip = some (.list days)
  · obtain ⟨days, hdays⟩ := hlist
    have hitems : List.Forall₂ ItemSanitized days (days.map sanitizedItem) := by
      rw [List.forall₂_map_right_iff, List.forall₂_same]
      exact fun v _ => itemSanitized_sanitizedItem v
    rw [sanitizeItinerary_of_get? hdays, fst_sanitizeDays_eq, snd_sanitizeDays_eq]
    constructor
    case days =>
      intro days' hdays'
      obtain rfl := Value.list.inj (Option.some.inj (hdays.symm.trans hdays'))
      exact ⟨_, hitems, get?_put_self, rfl⟩
    case other => exact fun hno => absurd hdays (hno days)
    case rest => exact .put List.mem_cons_self _ _
    case keys => exact map_fst_put_of_get? _ hdays
    case counts =>
      obtain ⟨counts, hstates, hsum⟩ := exists_counts hitems
      refine ⟨counts, fun counts' => forall₂_states_iff hstates, ?_⟩
      simpa [listAt, hdays] using hsum
  · have hno : ∀ days, get? "itinerary" trip ≠ some (.list days) := fun days h => hlist ⟨days, h⟩
    rw [sanitizeItinerary_of_not_list hno]
    exact ⟨fun days h => absurd h (hno days), fun _ => ⟨rfl, rfl⟩, .refl _ _, rfl,
      [], fun counts' => forall₂_states_iff .nil, rfl⟩

/-! ### A second run -/

/-- Where nothing is dropped there are no warnings. -/
lemma AccountFor.eq_nil {warnings : List Text} (h : AccountFor label warnings day day) :
    warnings = [] := by
  obtain ⟨counts, hwarns, hsum⟩ := h
  cases hwarns with
  | nil => rfl
  | @cons _ n _ counts hw _ =>
    have hpos := hw.pos
    rw [List.sum_cons] at hsum
    omega

/-- A second run drops nothing. -/
lemma sanitizeDay_sanitizeDay (day : Fields) :
    sanitizeDay (sanitizeDay day).1 = ((sanitizeDay day).1, []) := by
  have hfst := (isSanitized_sanitizeDay day).sanitizeDay_eq
  have haccount := accountFor_sanitizeDay (sanitizeDay day).1
  rw [hfst] at haccount
  exact Prod.ext hfst (List.map_eq_nil_iff.mp haccount.eq_nil)

lemma sanitizeDays_sanitizeDays (days : List Value) :
    sanitizeDays (sanitizeDays days).1 = ((sanitizeDays days).1, []) := by
  induction days with
  | nil => rfl
  | cons v days ih => cases v <;> simp [sanitizeDays, ih, sanitizeDay_sanitizeDay]

/-- So a second run over the itinerary changes nothing. -/
lemma sanitizeItinerary_sanitizeItinerary (trip : Fields) :
    sanitizeItinerary (sanitizeItinerary trip).1 = ((sanitizeItinerary trip).1, []) := by
  by_cases hlist : ∃ days, get? "itinerary" trip = some (.list days)
  · obtain ⟨days, hdays⟩ := hlist
    rw [sanitizeItinerary_of_get? hdays, sanitizeItinerary_of_get? get?_put_self,
      sanitizeDays_sanitizeDays, put_put]
  · have hno : ∀ days, get? "itinerary" trip ≠ some (.list days) := fun days h => hlist ⟨days, h⟩
    rw [sanitizeItinerary_of_not_list hno, sanitizeItinerary_of_not_list hno]

/-- Sanitizing removes exactly the entries that cannot be read, reports them all, and finds nothing
to do in its own result. -/
theorem sanitizeItinerary_keeps_readable (trip : Fields) :
    ItinerarySanitized trip (sanitizeItinerary trip).1
      ((sanitizeItinerary trip).2.map Repair.message) ∧
    sanitizeItinerary (sanitizeItinerary trip).1 = ((sanitizeItinerary trip).1, []) :=
  ⟨itinerarySanitized trip, sanitizeItinerary_sanitizeItinerary trip⟩

/-- An activity without a name that can be read stays for its description. -/
example : (sanitizeDay [("day", .int 2), ("activities", .list [.object [("name", .text "✨")],
      .object [("name", .text "✨"), ("description", .text "Sunset sail")], .text "Beach"])]).2.map
    Repair.message = ["Day 2: Removed 2 emoji-only activity name(s)"] := by
  decide +kernel

end TripProposal.Trip
