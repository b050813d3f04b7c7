import TripProposal.Proofs.Value.Difference
import TripProposal.Trip.Timeline

/-!
# Dates decide the timeline

A day is matched by the key of its date and by nothing else. Neither the number of a day nor the
spelling of a date nor the order of the ports has a part in it.
-/

namespace TripProposal.Trip

open Fields Value Calendar

/-! ### Changes to a trip -/

/-- The days of a trip have other numbers, or none. -/
structure DaysRenumbered (trip trip' : Fields) : Prop where
  rest : SameExcept ["itinerary"] trip trip'
  days : ItemsRelated (SameExcept ["day"]) (get? "itinerary" trip) (get? "itinerary" trip')

/-- The date of an object is written in another way. -/
structure Respelled (year : Int) (fields fields' : Fields) : Prop where
  rest : SameExcept ["date"] fields fields'
  date : dayKeyOf? year (get? "date" fields') = dayKeyOf? year (get? "date" fields)

/-- The dates of the ports of a cruise are written in another way. -/
structure CruiseRespelled (year : Int) (cruise cruise' : Fields) : Prop where
  rest : SameExcept ["ports"] cruise cruise'
  ports : ItemsRelated (Respelled year) (get? "ports" cruise) (get? "ports" cruise')

/-- The dates of days and ports are written in another way. -/
structure DatesRespelled (year : Int) (trip trip' : Fields) : Prop where
  rest : SameExcept ["itinerary", "ports", "cruiseInfo"] trip trip'
  days : ItemsRelated (Respelled year) (get? "itinerary" trip) (get? "itinerary" trip')
  ports : ItemsRelated (Respelled year) (get? "ports" trip) (get? "ports" trip')
  cruise : CruiseRespelled year (objectAt "cruiseInfo" trip) (objectAt "cruiseInfo" trip')

/-- The ports in use are in another order. -/
structure PortsPermuted (trip trip' : Fields) : Prop where
  rest : SameExcept ["ports", "cruiseInfo"] trip trip'
  cruise : SameExcept ["ports"] (objectAt "cruiseInfo" trip) (objectAt "cruiseInfo" trip')
  ports : (portsInUse trip').Perm (portsInUse trip)

/-- No two of the ports name the same day. -/
def OnDistinctDays (year : Int) (ports : List Fields) : Prop :=
  ports.Pairwise fun port other => ∀ day, dayKeyOf? year (get? "date" port) = some day →
    dayKeyOf? year (get? "date" other) ≠ some day

/-! ### Changes to an entry -/

/-- The title of a day that has no other: its number. -/
def numberTitle (number : Value) : Value :=
  .text ("Day " ++ number.inText)

/-- An entry has another number, and with it another title if the number is the title. -/
def EntryRenumbered (entry entry' : Fields) : Prop :=
  ∃ number title, entry' = putAll [("dayNumber", number), ("title", title)] entry ∧
    (get? "title" entry = some title ∨
      (∃ old, get? "dayNumber" entry = some old ∧ get? "title" entry = some (numberTitle old)) ∧
        title = numberTitle number)

/-- An entry has another date. -/
def EntryRedated (entry entry' : Fields) : Prop :=
  ∃ date, entry' = put "date" date entry

/-! ### The port of a day -/

section Ports

variable {port port' : Fields} {v v' : Voyage}

lemma portName?_sameExcept (h : SameExcept ["date"] port port') :
    portName? port' = portName? port :=
  h.firstFilled? _ (by decide)

lemma portFields_sameExcept (h : SameExcept ["date"] port port') :
    portFields port' = portFields port := by
  have harrival := h.firstFilled? ["arrival", "arrive"] (by decide)
  have hdeparture := h.firstFilled? ["departure", "depart"] (by decide)
  simp only [portFields, portName?_sameExcept h, harrival, hdeparture, h "country" (by decide),
    h "description" (by decide), h "highlights" (by decide)]

/-- The type of a day does not depend on how its port is dated. -/
lemma DayType.of_sameExcept (h : SameExcept ["date"] port port')
    (hempty : port'.isEmpty = port.isEmpty) (words : Text) (isPre isPost : Bool) :
    DayType.of port' words isPre isPost = DayType.of port words isPre isPost := by
  simp only [DayType.of, hempty, portName?_sameExcept h, h "type" (by decide),
    h "isEmbarkation" (by decide), h "isDebarkation" (by decide)]

/-- A port that is found by its date has at least that field. -/
lemma Voyage.isEmpty_portOn? (date : Option (List CodePoint)) :
    ((v.portOn? date).getD []).isEmpty = (v.portOn? date).isNone := by
  cases hport : v.portOn? date with
  | none => rfl
  | some port =>
    obtain ⟨day, -, hfind⟩ := Option.bind_eq_some_iff.mp hport
    cases port with
    | nil => simpa [get?, dayKeyOf?] using List.find?_some hfind
    | cons => rfl

end Ports

/-! ### Voyages that match alike -/

/-- Two voyages match every day with the same things, but for the date of its port. -/
structure Voyage.Alike (v v' : Voyage) : Prop where
  year : v'.year = v.year
  hotelsBefore : v'.hotelsBefore = v.hotelsBefore
  hotelsAfter : v'.hotelsAfter = v.hotelsAfter
  flights : v'.flights = v.flights
  cruise : SameExcept ["ports"] v.cruise v'.cruise
  port : ∀ date, Option.Rel (SameExcept ["date"]) (v.portOn? date) (v'.portOn? date)

namespace Voyage

variable {v v' : Voyage} {day day' : Fields}

lemma Alike.refl (v : Voyage) : v.Alike v where
  year := rfl
  hotelsBefore := rfl
  hotelsAfter := rfl
  flights := rfl
  cruise := .refl _ _
  port := fun date => by
    cases v.portOn? date with
    | none => exact .none
    | some port => exact .some (.refl _ port)

lemma Alike.portD (h : v.Alike v') (date : Option (List CodePoint)) :
    SameExcept ["date"] ((v.portOn? date).getD []) ((v'.portOn? date).getD []) := by
  have hport := h.port date
  generalize v.portOn? date = port, v'.portOn? date = port' at hport ⊢
  cases hport with
  | none => exact .refl _ _
  | some hport => exact hport

lemma Alike.isEmpty_portD (h : v.Alike v') (date : Option (List CodePoint)) :
    ((v'.portOn? date).getD []).isEmpty = ((v.portOn? date).getD []).isEmpty := by
  rw [isEmpty_portOn?, isEmpty_portOn?]
  have hport := h.port date
  generalize v.portOn? date = port, v'.portOn? date = port' at hport ⊢
  cases hport <;> rfl

/-- Voyages that are alike have the same hotels. -/
lemma Alike.staysOn (h : v.Alike v') (stays : List Fields) (date : Option (List CodePoint)) :
    v'.staysOn stays date = v.staysOn stays date := by
  rw [Voyage.staysOn, Voyage.staysOn, h.year]

lemma Alike.dayWords (h : v.Alike v') (hday : SameExcept ["day", "date"] day day')
    (date : Option (List CodePoint)) : dayWords ((v'.portOn? date).getD []) day' =
      dayWords ((v.portOn? date).getD []) day := by
  have hport := h.portD date
  have htitle := hday.firstFilled? ["title", "location"] (by decide)
  simp only [Trip.dayWords, portName?_sameExcept hport, hport "description" (by decide), htitle]

/-- A day has one type in them. -/
lemma Alike.typeOf (h : v.Alike v') (hday : SameExcept ["day", "date"] day day')
    (hdate : v'.dateOf? day' = v.dateOf? day) : v'.typeOf day' = v.typeOf day := by
  simp only [Voyage.typeOf, hdate, h.dayWords hday, h.staysOn, h.hotelsBefore, h.hotelsAfter]
  exact DayType.of_sameExcept (h.portD _) (h.isEmpty_portD _) _ _ _

lemma Alike.typeFields (h : v.Alike v') (type : DayType) :
    v'.typeFields type = v.typeFields type := by
  cases type <;>
    simp only [Voyage.typeFields, sectionField, h.flights, h.hotelsBefore, h.hotelsAfter,
      h.cruise "embarkation" (by decide), h.cruise "debarkation" (by decide)]

/-- The port of a day shows the same in them. -/
lemma Alike.portBlock? (h : v.Alike v') (date : Option (List CodePoint)) (info : Option Value) :
    portBlock? (v'.portOn? date) info = portBlock? (v.portOn? date) info := by
  have hport := h.port date
  generalize v.portOn? date = port, v'.portOn? date = port' at hport ⊢
  cases hport with
  | none => rfl
  | some hport =>
    have hfields := portFields_sameExcept hport
    cases info with
    | none => exact congrArg some hfields
    | some info =>
      cases info with
      | object info => exact congrArg (fun port => some (fillPort info port)) hfields
      | _ => exact congrArg some hfields

lemma Alike.highlightsOf (h : v.Alike v') (hday : SameExcept ["day", "date"] day day')
    (date : Option (List CodePoint)) :
    highlightsOf (v'.portOn? date) day' = highlightsOf (v.portOn? date) day := by
  have hport := (h.portD date).listAt "highlights" (by decide)
  have hown := hday.listAt "highlights" (by decide)
  simp only [Trip.highlightsOf, hport, hown]

end Voyage

lemma keptOf_sameExcept {keys : List Text} {day day' : Fields} (h : SameExcept keys day day')
    (hkept : ∀ key ∈ keptFields, key ∉ keys) : keptOf day' = keptOf day :=
  List.filterMap_congr fun key hkey => by rw [h key (hkept key hkey)]

/-- Voyages that match alike give a day the same entry whatever its number and date, but for the
number, the title and the date themselves. -/
lemma Voyage.entry_alike {v v' : Voyage} {day day' : Fields} (hv : v.Alike v')
    (hday : SameExcept ["day", "date"] day day') (hdate : v'.dateOf? day' = v.dateOf? day)
    (position : Nat) : v'.entry position day' =
      putAll [("dayNumber", dayNumber position day'),
        ("title", dayTitle position ((v'.portOn? (v.dateOf? day)).getD []) day'),
        ("date", (get? "date" day').getD .null)] (v.entry position day) := by
  simp only [Voyage.entry, hv.typeOf hday hdate, hdate, hv.portBlock?, hv.typeFields,
    hv.highlightsOf hday, keptOf_sameExcept hday (by decide), hday "portInfo" (by decide),
    hday "description" (by decide)]
  -- What is left are the same fields, of which three are written over.
  simp [putAll, put]

/-! ### Entries -/

section Entries

variable {v v' : Voyage} {day day' : Fields} {position : Nat}

lemma dayNumber_sameExcept (h : SameExcept ["date"] day day') :
    dayNumber position day' = dayNumber position day := by
  rw [dayNumber, dayNumber, h "day" (by decide)]

/-- A title is that of the day or its port, whatever its number, or the number. -/
lemma dayTitle_renumbered (h : SameExcept ["day"] day day') (port : Fields) :
    dayTitle position port day' = dayTitle position port day ∨
      dayTitle position port day = numberTitle (dayNumber position day) ∧
        dayTitle position port day' = numberTitle (dayNumber position day') := by
  simp only [dayTitle, h.firstFilled? ["title", "location"] (by decide)]
  cases firstFilled? ["title", "location"] day with
  | some title => exact .inl rfl
  | none =>
    cases portName? port with
    | some name => exact .inl rfl
    | none => exact .inr ⟨rfl, rfl⟩

/-- A title does not depend on how the day is dated. -/
lemma dayTitle_sameExcept {port port' : Fields} (h : SameExcept ["date"] day day')
    (hport : SameExcept ["date"] port port') :
    dayTitle position port' day' = dayTitle position port day := by
  simp only [dayTitle, dayNumber_sameExcept h, portName?_sameExcept hport,
    h.firstFilled? ["title", "location"] (by decide)]

lemma get?_dayNumber_entry :
    get? "dayNumber" (v.entry position day) = some (dayNumber position day) :=
  rfl

lemma get?_title_entry : get? "title" (v.entry position day) =
    some (dayTitle position ((v.portOn? (v.dateOf? day)).getD []) day) :=
  rfl

lemma get?_date_entry :
    get? "date" (v.entry position day) = some ((get? "date" day).getD .null) :=
  rfl

/-- A number matters for the number and the title of an entry only. -/
lemma Voyage.entry_renumbered (h : SameExcept ["day"] day day') :
    EntryRenumbered (v.entry position day) (v.entry position day') := by
  have hboth : SameExcept ["day", "date"] day day' := h.mono (by simp)
  have hdate : v.dateOf? day' = v.dateOf? day := by
    rw [dateOf?, dateOf?, h "date" (by decide)]
  refine ⟨dayNumber position day', dayTitle position ((v.portOn? (v.dateOf? day)).getD []) day',
    ?_, ?_⟩
  · rw [entry_alike (.refl v) hboth hdate position, h "date" (by decide)]
    exact put_of_get? (by simp [get?_date_entry])
  · rw [get?_title_entry, get?_dayNumber_entry]
    obtain htitle | ⟨htitle, htitle'⟩ := dayTitle_renumbered h _
    · exact .inl (congrArg some htitle.symm)
    · exact .inr ⟨⟨_, rfl, congrArg some htitle⟩, htitle'⟩

/-- Voyages that match alike give a day the same entry whatever the spelling of its date, but for
the date itself. -/
lemma Voyage.entry_respelled (hv : v.Alike v') (h : Respelled v.year day day') :
    v'.entry position day' =
      put "date" ((get? "date" day').getD .null) (v.entry position day) := by
  have hboth : SameExcept ["day", "date"] day day' := h.rest.mono (by simp)
  have hdate : v'.dateOf? day' = v.dateOf? day := by
    rw [dateOf?, dateOf?, hv.year, h.date]
  rw [entry_alike hv hboth hdate position, dayNumber_sameExcept h.rest,
    dayTitle_sameExcept h.rest (hv.portD _)]
  simp only [putAll, List.foldl_cons, List.foldl_nil, put_of_get? get?_dayNumber_entry,
    put_of_get? get?_title_entry]

end Entries

/-! ### Ports -/

section Find

variable {v v' : Voyage} {ports ports' : List Fields} {p : Fields → Bool}

/-- The order of a list has no part in what is found if no two of its items are looked for. -/
lemma find?_perm (h : ports'.Perm ports)
    (hone : ports.Pairwise fun port other => p port = true → p other ≠ true) :
    ports'.find? p = ports.find? p := by
  have hfilter := h.filter p
  have hone' : (ports.filter p).Pairwise fun _ _ => False := by
    rw [List.pairwise_filter]
    exact hone.imp fun hne hport hother => hne hport hother
  rw [← List.head?_filter, ← List.head?_filter]
  match hfound : ports.filter p with
  | [] =>
    rw [hfound] at hfilter
    rw [hfilter.eq_nil]
  | [port] =>
    rw [hfound] at hfilter
    rw [hfilter.eq_singleton]
  | port :: other :: rest =>
    rw [hfound, List.pairwise_cons] at hone'
    exact (hone'.1 other List.mem_cons_self).elim

/-- The port of a day is found by the day that its date names. -/
lemma find?_respelled {year : Int} (day : List CodePoint)
    (h : List.Forall₂ (Respelled year) ports ports') : Option.Rel (SameExcept ["date"])
      (ports.find? fun port => dayKeyOf? year (get? "date" port) == some day)
      (ports'.find? fun port => dayKeyOf? year (get? "date" port) == some day) := by
  induction h with
  | nil => exact .none
  | @cons port port' _ _ hport _ ih =>
    rw [List.find?_cons, List.find?_cons, hport.date]
    cases dayKeyOf? year (get? "date" port) == some day with
    | true => exact .some hport.rest
    | false => exact ih

/-- So it is the same port, up to its date. -/
lemma Voyage.portOn?_respelled (hyear : v'.year = v.year)
    (hports : List.Forall₂ (Respelled v.year) v.ports v'.ports) (date : Option (List CodePoint)) :
    Option.Rel (SameExcept ["date"]) (v.portOn? date) (v'.portOn? date) := by
  cases date with
  | none => exact .none
  | some day =>
    have hreverse := List.forall₂_reverse_iff.mpr hports
    simpa only [portOn?, hyear, Option.bind_some] using find?_respelled day hreverse

/-- With one port a day at most, their order does not matter. -/
lemma Voyage.portOn?_perm (hyear : v'.year = v.year) (hports : v'.ports.Perm v.ports)
    (hdays : OnDistinctDays v.year v.ports) (date : Option (List CodePoint)) :
    v'.portOn? date = v.portOn? date := by
  cases date with
  | none => rfl
  | some day =>
    have hone : v.ports.Pairwise fun port other =>
        (dayKeyOf? v.year (get? "date" port) == some day) = true →
          (dayKeyOf? v.year (get? "date" other) == some day) ≠ true :=
      hdays.imp fun hne hport => by simpa using hne day (by simpa using hport)
    simp only [portOn?, hyear, Option.bind_some]
    rw [find?_perm (v'.ports.reverse_perm.trans hports) hone,
      find?_perm v.ports.reverse_perm hone]

end Find

section Voyages

variable {now : Moment} {year : Int} {trip trip' : Fields}

lemma Respelled.refl (year : Int) (fields : Fields) : Respelled year fields fields :=
  ⟨.refl _ _, rfl⟩

/-- Respelled dates leave the ports in use. -/
lemma portsInUse_respelled (h : DatesRespelled year trip trip') :
    List.Forall₂ (Respelled year) (portsInUse trip) (portsInUse trip') := by
  have hports := h.ports.objectsOf (Respelled.refl year)
  have hcruise := h.cruise.ports.objectsOf (Respelled.refl year)
  unfold portsInUse
  generalize objectsOf (get? "ports" trip) = ports, objectsOf (get? "ports" trip') = ports'
    at hports ⊢
  -- A spelling does not decide whether the trip has ports of its own.
  cases hports with
  | nil => exact hcruise
  | cons hport hrest => exact .cons hport hrest

/-- The year of a trip comes from its dates only. -/
lemma tripYear_congr (h : get? "dates" trip' = get? "dates" trip) :
    tripYear now trip' = tripYear now trip := by
  rw [tripYear, tripYear, startYear?, startYear?, h]

/-- Days have no part in what days are matched with. -/
lemma Voyage.ofTrip_congr (now : Moment) (h : SameExcept ["itinerary"] trip trip') :
    ofTrip now trip' = ofTrip now trip := by
  simp only [ofTrip, portsInUse, tripYear_congr (h "dates" (by decide)), h "ports" (by decide),
    h "lodging" (by decide), h.objectAt "flights" (by decide), h.objectAt "cruiseInfo" (by decide)]

/-- The rest of what days are matched with is the same for trips that differ in days and ports. -/
lemma Voyage.ofTrip_alike (h : SameExcept ["itinerary", "ports", "cruiseInfo"] trip trip')
    (hcruise : SameExcept ["ports"] (objectAt "cruiseInfo" trip) (objectAt "cruiseInfo" trip'))
    (hport : ∀ date, Option.Rel (SameExcept ["date"]) ((ofTrip now trip).portOn? date)
      ((ofTrip now trip').portOn? date)) :
    (ofTrip now trip).Alike (ofTrip now trip') where
  year := tripYear_congr (h "dates" (by decide))
  hotelsBefore := by rw [ofTrip, ofTrip, h "lodging" (by decide)]
  hotelsAfter := by rw [ofTrip, ofTrip, h "lodging" (by decide)]
  flights := h.objectAt "flights" (by decide)
  cruise := hcruise
  port := hport

/-- Respelling dates gives a voyage that is alike. -/
lemma Voyage.alike_of_respelled (h : DatesRespelled (tripYear now trip) trip trip') :
    (ofTrip now trip).Alike (ofTrip now trip') :=
  ofTrip_alike h.rest h.cruise.rest
    (portOn?_respelled (tripYear_congr (h.rest "dates" (by decide))) (portsInUse_respelled h))

/-- So does permuting ports. -/
lemma Voyage.alike_of_permuted (h : PortsPermuted trip trip')
    (hdays : OnDistinctDays (tripYear now trip) (portsInUse trip)) :
    (ofTrip now trip).Alike (ofTrip now trip') := by
  have hyear : (ofTrip now trip').year = (ofTrip now trip).year :=
    tripYear_congr (h.rest "dates" (by decide))
  refine ofTrip_alike (h.rest.mono (by simp)) h.cruise fun date => ?_
  rw [portOn?_perm hyear h.ports hdays date]
  exact (Alike.refl (ofTrip now trip)).port date

end Voyages

/-! ### Timelines -/

lemma forall₂_mapIdx {α β : Type} {r : α → α → Prop} {q : β → β → Prop} {as as' : List α}
    {f g : Nat → α → β} (h : List.Forall₂ r as as')
    (hfg : ∀ index a a', r a a' → q (f index a) (g index a')) :
    List.Forall₂ q (as.mapIdx f) (as'.mapIdx g) := by
  induction h generalizing f g with
  | nil => exact .nil
  | cons ha _ ih =>
    rw [List.mapIdx_cons, List.mapIdx_cons]
    exact .cons (hfg 0 _ _ ha) (ih fun index => hfg (index + 1))

/-- What becomes of the timeline when days have other numbers, when dates are written in another
way, and when the ports are in another order. -/
theorem timeline_depends_on_dates (now : Moment) (trip trip' : Fields) :
    (DaysRenumbered trip trip' →
      List.Forall₂ (ObjectsRelated EntryRenumbered) (timeline now trip) (timeline now trip')) ∧
    (DatesRespelled (tripYear now trip) trip trip' →
      List.Forall₂ (ObjectsRelated EntryRedated) (timeline now trip) (timeline now trip')) ∧
    (PortsPermuted trip trip' → OnDistinctDays (tripYear now trip) (portsInUse trip) →
      timeline now trip' = timeline now trip) := by
  refine ⟨fun h => ?_, fun h => ?_, fun h hdays => ?_⟩
  · have hvoyage := Voyage.ofTrip_congr now h.rest
    have hitems := h.days.objectsOf (SameExcept.refl _)
    unfold timeline
    rw [hvoyage]
    exact forall₂_mapIdx hitems fun index day day' hday => .object (Voyage.entry_renumbered hday)
  · have hvoyage := Voyage.alike_of_respelled h
    have hitems := h.days.objectsOf (Respelled.refl _)
    exact forall₂_mapIdx hitems fun index day day' hday =>
      .object ⟨_, Voyage.entry_respelled hvoyage hday⟩
  · have hentry : ∀ position day, (Voyage.ofTrip now trip').entry position day =
        (Voyage.ofTrip now trip).entry position day := by
      intro position day
      rw [Voyage.entry_respelled (Voyage.alike_of_permuted h hdays) (.refl _ day),
        put_of_get? get?_date_entry]
    simp only [timeline, h.rest "itinerary" (by decide), hentry]

/-- A trip of one day that is in one of two ports. -/
def bergenTrip (day bergen oslo : Fields) : Fields :=
  [("itinerary", .list [.object day]), ("ports", .list [.object bergen, .object oslo])]

/-- A day of a trip. -/
def bergenDay : Fields :=
  [("day", .int 3), ("date", .text "2026-05-29")]

/-- The port of the day. -/
def bergen : Fields :=
  [("name", .text "Bergen"), ("date", .text "May 29, 2026")]

/-- The port of the day after. -/
def oslo : Fields :=
  [("name", .text "Oslo"), ("date", .text "2026-05-30")]

/-- The day in Bergen with another number, with other spellings of the dates, and with the ports the
other way round. -/
theorem timeline_bergenTrip :
    List.Forall₂ (ObjectsRelated EntryRenumbered)
        (timeline (.ofDate ⟨2026, 1, 1, by decide⟩) (bergenTrip bergenDay bergen oslo))
        (timeline (.ofDate ⟨2026, 1, 1, by decide⟩)
          (bergenTrip (put "day" (.int 1) bergenDay) bergen oslo)) ∧
      List.Forall₂ (ObjectsRelated EntryRedated)
        (timeline (.ofDate ⟨2026, 1, 1, by decide⟩) (bergenTrip bergenDay bergen oslo))
        (timeline (.ofDate ⟨2026, 1, 1, by decide⟩)
          (bergenTrip (put "date" (.text "May 29") bergenDay)
            (put "date" (.text "29 May 2026") bergen) oslo)) ∧
      timeline (.ofDate ⟨2026, 1, 1, by decide⟩) (bergenTrip bergenDay oslo bergen) =
        timeline (.ofDate ⟨2026, 1, 1, by decide⟩) (bergenTrip bergenDay bergen oslo) := by
  have hrenumbered : DaysRenumbered (bergenTrip bergenDay bergen oslo)
      (bergenTrip (put "day" (.int 1) bergenDay) bergen oslo) := by
    have hday : SameExcept ["day"] bergenDay (put "day" (.int 1) bergenDay) :=
      .put (by decide) _ _
    exact ⟨.put List.mem_cons_self (.list [.object _]) (bergenTrip bergenDay bergen oslo),
      .list (.cons (.object hday) .nil)⟩
  have hrespelled : DatesRespelled 2026 (bergenTrip bergenDay bergen oslo)
      (bergenTrip (put "date" (.text "May 29") bergenDay)
        (put "date" (.text "29 May 2026") bergen) oslo) := by
    have hday : Respelled 2026 bergenDay (put "date" (.text "May 29") bergenDay) :=
      ⟨.put (by decide) _ _, by decide⟩
    have hbergen : Respelled 2026 bergen (put "date" (.text "29 May 2026") bergen) :=
      ⟨.put (by decide) _ _, by decide⟩
    have hdays : SameExcept ["itinerary", "ports", "cruiseInfo"] (bergenTrip bergenDay bergen oslo)
        (bergenTrip (put "date" (.text "May 29") bergenDay) bergen oslo) :=
      .put List.mem_cons_self (.list [.object _]) (bergenTrip bergenDay bergen oslo)
    have hports : SameExcept ["itinerary", "ports", "cruiseInfo"]
        (bergenTrip (put "date" (.text "May 29") bergenDay) bergen oslo)
        (bergenTrip (put "date" (.text "May 29") bergenDay)
          (put "date" (.text "29 May 2026") bergen) oslo) :=
      .put (List.mem_cons_of_mem _ List.mem_cons_self) (.list [.object _, .object oslo])
        (bergenTrip _ bergen oslo)
    exact ⟨hdays.trans hports, .list (.cons (.object hday) .nil),
      .list (.cons (.object hbergen) (.cons (.same _) .nil)), ⟨.refl _ _, .same _⟩⟩
  have hpermuted : PortsPermuted (bergenTrip bergenDay bergen oslo)
      (bergenTrip bergenDay oslo bergen) :=
    ⟨.put List.mem_cons_self (.list [.object _, .object _]) (bergenTrip bergenDay bergen oslo),
      .refl _ _, .swap _ _ _⟩
  have hdays : OnDistinctDays 2026 [bergen, oslo] := by
    have hne : dayKeyOf? 2026 (get? "date" oslo) ≠ dayKeyOf? 2026 (get? "date" bergen) := by decide
    refine List.pairwise_pair.mpr fun day hday hother => hne ?_
    rw [hday, hother]
  exact ⟨(timeline_depends_on_dates _ _ _).1 hrenumbered,
    (timeline_depends_on_dates _ _ _).2.1 hrespelled,
    (timeline_depends_on_dates _ _ _).2.2 hpermuted hdays⟩

end TripProposal.Trip
