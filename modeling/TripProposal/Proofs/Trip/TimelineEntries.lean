import TripProposal.Proofs.Trip.Dates
import TripProposal.Proofs.Value.Sameness

/-!
# The entries of a timeline

The timeline has one entry for every day of the itinerary. What an entry has depends on three
things: the day itself, the port that is matched with it, and its type.
-/

namespace TripProposal.Trip

open Fields Value

/-! ### What an entry has -/

/-- The port of a date is the last one with that date, if there is one. -/
def IsLastOn (year : Int) (date : Option (List CodePoint)) (ports : List Fields) :
    Option Fields → Prop
  | none => ∀ other ∈ ports, ∀ key, date = some key →
      dayKeyOf? year (get? "date" other) ≠ some key
  | some port => ∃ key before after, date = some key ∧ ports = before ++ port :: after ∧
      dayKeyOf? year (get? "date" port) = some key ∧
      ∀ other ∈ after, dayKeyOf? year (get? "date" other) ≠ some key

/-- What is recorded of a port under a key of an entry's port. -/
def recorded? (port : Fields) (key : Text) : Option Value :=
  if key = "name" then firstFilled? ["name", "port", "location"] port
  else if key = "arrival" then firstFilled? ["arrival", "arrive"] port
  else if key = "departure" then firstFilled? ["departure", "depart"] port
  else if key ∈ (["country", "description", "highlights"] : List Text) then
    (get? key port).filter (!·.isNull)
  else none

/-- What the port information of a day offers under a key of an entry's port. -/
def offered? (info : Fields) (key : Text) : Option Value :=
  if key = "name" then firstFilled? ["name", "port"] info
  else if key = "arrival" then firstFilled? ["arrival", "arrive"] info
  else if key = "departure" then firstFilled? ["departure", "depart"] info
  else if key = "description" then (get? key info).filter (!·.isNull)
  else none

/-- Whether the item at a position is the same as none that is listed before all items or stands
before it. -/
def isNewAt (listed items : List Value) (entry : Value × Nat) : Bool :=
  !(listed ++ items.take entry.2).any entry.1.sameAs

/-- The first occurrences of the items that are not listed. -/
def firstOccurrences (listed items : List Value) : List Value :=
  (items.zipIdx.filter (isNewAt listed items)).map Prod.fst

/-- The highlights of a port, and what is new among those of the day. -/
def mergedHighlights (port day : Fields) : List Value :=
  listAt "highlights" port ++
    firstOccurrences (listAt "highlights" port) (listAt "highlights" day)

/-- Whether a section of an object is an object. -/
def HasSection (key : Text) (fields : Fields) : Prop :=
  ∃ inner, get? key fields = some (.object inner)

/-- Whether a trip has a hotel for days of a type. -/
def HasStay (type : DayType) (trip : Fields) : Prop :=
  ∃ stay ∈ objectsOf (get? "lodging" trip), isStayOf type stay = true

/-- What the entry of a day has when the day is matched with a port, or with none, and is of a
type. -/
structure IsEntryOf (now : Calendar.Moment) (trip day : Fields) (port : Option Fields)
    (type : DayType) (entry : Fields) : Prop where
  /-- The port is the last one in use with the date of the day. -/
  matched : IsLastOn (tripYear now trip) (dayKeyOf? (tripYear now trip) (get? "date" day))
    (portsInUse trip) port
  dayType : get? "dayType" entry = some (.text type.name)
  /-- Days with a port are neither before nor after the cruise. -/
  within : port.isSome → type ≠ .preCruise ∧ type ≠ .postCruise
  hasPort : (get? "port" entry).isSome ↔ port.isSome ∨ HasSection "portInfo" day
  /-- The port is as recorded, and the information of the day is used for what it lacks. -/
  portBlock : ∀ v, get? "port" entry = some v → ∃ block, v = .object block ∧
    ∀ key, get? key block = ((recorded? (port.getD []) key).filter isFilled).or
      ((offered? (objectAt "portInfo" day) key).or (recorded? (port.getD []) key))
  flight : (get? "flight" entry).isSome ↔
    type = .preCruise ∧ HasSection "outbound" (objectAt "flights" trip) ∨
      type = .postCruise ∧ HasSection "return" (objectAt "flights" trip)
  hotel : (get? "hotel" entry).isSome ↔
    (type = .preCruise ∨ type = .postCruise) ∧ HasStay type trip
  embarkation : (get? "embarkation" entry).isSome ↔
    type = .embarkation ∧ HasSection "embarkation" (objectAt "cruiseInfo" trip)
  debarkation : (get? "debarkation" entry).isSome ↔
    type = .debarkation ∧ HasSection "debarkation" (objectAt "cruiseInfo" trip)
  kept : ∀ key ∈ keptFields, ∀ v, get? key entry = some v ↔
    get? key day = some v ∧ v ≠ .null ∧ v ≠ .bool false ∧ v ≠ .text ""
  highlights : ∀ v, get? "highlights" entry = some v ↔
    v = .list (mergedHighlights (port.getD []) day) ∧ mergedHighlights (port.getD []) day ≠ []

/-! ### Reading the parts -/

section Parts

variable {key : Text} {port info day fields : Fields}

lemma get?_append (key : Text) (fields fields' : Fields) :
    get? key (fields ++ fields') = (get? key fields).or (get? key fields') := by
  induction fields with
  | nil => rfl
  | cons field fields ih =>
    obtain ⟨k, v⟩ := field
    rw [List.cons_append, get?, get?, ih]
    split <;> rfl

@[simp] lemma get?_nil (key : Text) : get? key [] = none := rfl

lemma get?_cons (key k : Text) (v : Value) (fields : Fields) :
    get? key ((k, v) :: fields) = if key = k then some v else get? key fields := by
  simp only [get?, @eq_comm _ k]

/-- Of the fields that are made from keys, one is found under its key. -/
lemma get?_filterMap (f : Text → Option Value) (keys : List Text) (key : Text) :
    get? key (keys.filterMap fun k => (f k).map fun v => (k, v)) =
      if key ∈ keys then f key else none := by
  induction keys with
  | nil => rfl
  | cons k keys ih =>
    by_cases hk : k = key
    · subst hk
      cases hf : f k with
      | none => simp [hf, ih]
      | some v => simp [hf, get?]
    · have hmem : key ∈ k :: keys ↔ key ∈ keys := by simp [Ne.symm hk]
      cases hf : f k with
      | none => simp [hf, ih, hmem]
      | some v => simp [hf, get?, hk, ih, hmem]

@[simp] lemma get?_given_nil (key : Text) : get? key (given []) = none := rfl

@[simp] lemma get?_given_cons (key k : Text) (v : Option Value)
    (fields : List (Text × Option Value)) : get? key (given ((k, v) :: fields)) =
      (if key = k then v.filter (!·.isNull) else none).or (get? key (given fields)) := by
  have hrest : given ((k, v) :: fields) =
      ((v.filter (!·.isNull)).map fun v => (k, v)).toList ++ given fields := by
    cases v with
    | none => rfl
    | some v => cases v <;> rfl
  rw [hrest, get?_append]
  cases v.filter (!·.isNull) <;> simp [get?_cons]

lemma get?_keptOf (key : Text) (day : Fields) : get? key (keptOf day) =
    if key ∈ keptFields then (get? key day).filter isGiven else none :=
  get?_filterMap (fun key => (get? key day).filter isGiven) keptFields key

lemma isFilled_of_firstFilled? {keys : List Text} {v : Value}
    (h : firstFilled? keys fields = some v) : v.isFilled = true := by
  obtain ⟨key, -, hkey⟩ := List.exists_of_findSome?_eq_some h
  obtain ⟨w, -, hw⟩ := Option.bind_eq_some_iff.mp hkey
  unfold filled? at hw
  split at hw
  · next hfilled => exact Option.some.inj hw ▸ hfilled
  · cases hw

lemma not_isNull_of_isFilled {v : Value} (h : v.isFilled = true) : (!v.isNull) = true := by
  cases v with
  | null => cases h
  | _ => rfl

/-- A filled value is not `null`. -/
@[simp] lemma filter_isNull_firstFilled? (keys : List Text) (fields : Fields) :
    (firstFilled? keys fields).filter (!·.isNull) = firstFilled? keys fields := by
  cases h : firstFilled? keys fields with
  | none => rfl
  | some v => rw [Option.filter_some, if_pos (not_isNull_of_isFilled (isFilled_of_firstFilled? h))]

lemma get?_portFields (port : Fields) (key : Text) :
    get? key (portFields port) = recorded? port key := by
  unfold portFields recorded?
  split_ifs with hname harrival hdeparture hrest
  · simp_all [portName?]
  · simp_all
  · simp_all
  · simp only [List.mem_cons, List.not_mem_nil, or_false] at hrest
    rcases hrest with rfl | rfl | rfl <;> simp
  · simp_all

/-- The last update of a field counts. -/
lemma get?_putAll (updates fields : Fields) (key : Text) :
    get? key (putAll updates fields) = (get? key updates.reverse).or (get? key fields) := by
  unfold putAll
  induction updates generalizing fields with
  | nil => rfl
  | cons update updates ih =>
    obtain ⟨k, v⟩ := update
    rw [List.foldl_cons, ih, List.reverse_cons, get?_append, get?_put, Option.or_assoc]
    congr 1
    rw [get?]
    split <;> rfl

lemma reverse_given (fields : List (Text × Option Value)) :
    (given fields).reverse = given fields.reverse :=
  (List.filterMap_reverse ..).symm

lemma bind_filled? (o : Option Value) : o.bind filled? = o.filter isFilled := by
  cases o with
  | none => rfl
  | some v => simp [filled?, Option.filter_some]

/-- A filled value, or else a fallback that is not `null`. -/
lemma filter_isNull_or (o fallback : Option Value) :
    ((o.filter isFilled).or fallback).filter (!·.isNull) =
      (o.filter isFilled).or (fallback.filter (!·.isNull)) := by
  cases o with
  | none => rfl
  | some v =>
    by_cases h : v.isFilled = true
    · simp [Option.filter_some, h, not_isNull_of_isFilled h]
    · simp [Option.filter_some, h]

lemma filter_or_self (o : Option Value) : (o.filter isFilled).or o = o := by
  cases o with
  | none => rfl
  | some v => by_cases h : v.isFilled = true <;> simp [Option.filter_some, h]

/-- A recorded value counts before information about the day. -/
lemma get?_fillPort (info port : Fields) (key : Text) :
    get? key (fillPort info port) = ((get? key port).filter isFilled).or
      ((offered? info key).or (get? key port)) := by
  unfold fillPort offered?
  rw [get?_putAll, reverse_given]
  split_ifs <;> simp_all [bind_filled?, filter_isNull_or, filter_or_self, Option.or_assoc]

/-! ### What an entry has because of its type -/

/-- A section is there when the trip has something in it. -/
@[simp] lemma isSome_get?_sectionField (name : Text) (keys : List Text) :
    (get? key (sectionField name keys fields)).isSome ↔ key = name ∧ HasSection name fields := by
  unfold sectionField HasSection
  split
  · next inner h => simp [get?_cons, h]
  · next h => simpa [get?] using fun _ => h

/-- A flight is there when the trip has one in that direction. -/
@[simp] lemma isSome_get?_flightField (direction name : Text) :
    (get? key (flightField direction name fields)).isSome ↔
      key = "flight" ∧ HasSection name fields := by
  unfold flightField HasSection
  split
  · next inner h => simp [get?_cons, h]
  · next h => simpa [get?] using fun _ => h

/-- A hotel is there when there is a stay. -/
@[simp] lemma isSome_get?_hotelField (stays : List Fields) :
    (get? key (hotelField stays)).isSome ↔ key = "hotel" ∧ stays ≠ [] := by
  cases stays <;> simp [hotelField, get?_cons]

/-! ### The port of an entry -/

/-- A port shows when the day has one or information about one. -/
lemma isSome_portBlock? (port : Option Fields) (day : Fields) :
    (portBlock? port (get? "portInfo" day)).isSome ↔ port.isSome ∨ HasSection "portInfo" day := by
  unfold portBlock? HasSection
  split <;> simp_all

/-- Without information of the day, the port is as recorded. -/
lemma portBlock?_of_not_object {info : Option Value} (h : ∀ fields, info ≠ some (.object fields))
    (port : Option Fields) : portBlock? port info = port.map portFields := by
  unfold portBlock?
  split <;> simp_all

lemma offered?_nil (key : Text) : offered? [] key = none := by
  unfold offered?
  split_ifs <;> rfl

lemma recorded?_nil (key : Text) : recorded? [] key = none := by
  unfold recorded?
  split_ifs <;> rfl

/-- The port is as recorded, and the information of the day is used for what it lacks. -/
lemma get?_portBlock? {port : Option Fields} {block : Fields}
    (h : portBlock? port (get? "portInfo" day) = some block) (key : Text) : get? key block =
      ((recorded? (port.getD []) key).filter isFilled).or
        ((offered? (objectAt "portInfo" day) key).or (recorded? (port.getD []) key)) := by
  by_cases hinfo : HasSection "portInfo" day
  · obtain ⟨info, hinfo⟩ := hinfo
    rw [hinfo] at h
    rw [objectAt_of_get? hinfo]
    cases port with
    | none =>
      obtain rfl := Option.some.inj h
      rw [get?_fillPort, Option.getD_none, recorded?_nil]
      rfl
    | some port =>
      obtain rfl := Option.some.inj h
      rw [get?_fillPort, get?_portFields]
      rfl
  · have hnone : objectAt "portInfo" day = [] := by
      unfold objectAt
      split
      · next info h => exact (hinfo ⟨info, h⟩).elim
      · rfl
    rw [portBlock?_of_not_object fun info h => hinfo ⟨info, h⟩, Option.map_eq_some_iff] at h
    obtain ⟨port, rfl, rfl⟩ := h
    rw [hnone, offered?_nil, Option.none_or, filter_or_self, get?_portFields]
    rfl

end Parts

/-! ### Matching -/

/-- The port of a date is searched for from the end. -/
lemma Voyage.isLastOn_portOn? (v : Voyage) (date : Option (List CodePoint)) :
    IsLastOn v.year date v.ports (v.portOn? date) := by
  cases date with
  | none => exact fun _ _ _ => nofun
  | some day =>
    simp only [portOn?, Option.bind_some]
    cases h : v.ports.reverse.find? fun port => dayKeyOf? v.year (get? "date" port) == some day with
    | none =>
      rw [List.find?_eq_none] at h
      rintro other hother _ ⟨⟩
      simpa using h other (List.mem_reverse.mpr hother)
    | some port =>
      obtain ⟨hport, after, before, hports, hafter⟩ := List.find?_eq_some_iff_append.mp h
      refine ⟨day, before.reverse, after.reverse, rfl, ?_, by simpa using hport, ?_⟩
      · rw [← List.reverse_reverse v.ports, hports]
        simp
      · intro other hother
        simpa using hafter other (List.mem_reverse.mp hother)

/-- A day with a port is on the cruise. -/
lemma DayType.of_of_not_isEmpty {port : Fields} (h : port.isEmpty = false) (words : Text)
    (isPre isPost : Bool) :
    DayType.of port words isPre isPost ≠ .preCruise ∧
      DayType.of port words isPre isPost ≠ .postCruise := by
  unfold DayType.of
  simp only [h, Bool.and_false, Bool.false_eq_true, if_false]
  split
  · exact ⟨nofun, nofun⟩
  · split
    · exact ⟨nofun, nofun⟩
    · split
      · exact ⟨nofun, nofun⟩
      · split <;> exact ⟨nofun, nofun⟩

/-- A day that is matched with a port is neither before nor after the cruise. -/
lemma Voyage.typeOf_of_isSome {v : Voyage} {day : Fields}
    (h : (v.portOn? (v.dateOf? day)).isSome) :
    v.typeOf day ≠ .preCruise ∧ v.typeOf day ≠ .postCruise := by
  refine DayType.of_of_not_isEmpty ?_ _ _ _
  rw [isEmpty_portOn?, Option.isNone_eq_false_iff]
  exact h

/-! ### Highlights -/

section Highlights

variable {listed items : List Value} {item : Value}

/-- An item that is the same as a listed one may as well be listed itself. -/
lemma firstOccurrences_append (h : listed.any item.sameAs = true) (items : List Value) :
    firstOccurrences (listed ++ [item]) items = firstOccurrences listed items := by
  obtain ⟨first, hfirst, hsame⟩ := List.any_eq_true.mp h
  have hnew : isNewAt (listed ++ [item]) items = isNewAt listed items := by
    funext entry
    have hlisted : entry.1.sameAs item = true → listed.any entry.1.sameAs = true := fun hentry =>
      List.any_eq_true.mpr ⟨first, hfirst, sameAs_trans hentry hsame⟩
    cases hentry : entry.1.sameAs item with
    | false => simp [isNewAt, hentry]
    | true => simp [isNewAt, hlisted hentry]
  rw [firstOccurrences, hnew, firstOccurrences]

/-- Whether an item is first is decided by what is before it. -/
lemma firstOccurrences_cons (listed : List Value) (item : Value) (items : List Value) :
    firstOccurrences listed (item :: items) =
      if listed.any item.sameAs then firstOccurrences listed items
      else item :: firstOccurrences (listed ++ [item]) items := by
  have hhead : isNewAt listed (item :: items) (item, 0) = !listed.any item.sameAs := by
    simp [isNewAt]
  have hrest : ((items.zipIdx 1).filter (isNewAt listed (item :: items))).map Prod.fst =
      firstOccurrences (listed ++ [item]) items := by
    have hnew : isNewAt listed (item :: items) ∘ (fun entry => (entry.1, entry.2 + 1)) =
        isNewAt (listed ++ [item]) items := by
      funext entry
      simp [isNewAt]
    rw [firstOccurrences, ← hnew, List.zipIdx_succ, List.filter_map, List.map_map]
    rfl
  rw [firstOccurrences, List.zipIdx_cons, List.filter_cons, hhead]
  cases h : listed.any item.sameAs with
  | true =>
    rw [← firstOccurrences_append h]
    exact hrest
  | false => exact congrArg (item :: ·) hrest

/-- The highlights are the first occurrences of what is not listed. -/
lemma newItems_eq_firstOccurrences (listed items : List Value) :
    newItems listed items = firstOccurrences listed items := by
  induction items generalizing listed with
  | nil => rfl
  | cons item items ih => rw [newItems, firstOccurrences_cons, ih, ih]

lemma highlightsOf_eq (port : Option Fields) (day : Fields) :
    highlightsOf port day = mergedHighlights (port.getD []) day := by
  rw [highlightsOf, mergedHighlights, newItems_eq_firstOccurrences]

end Highlights

/-! ### Entries -/

section Entries

variable {key : Text} {day day' : Fields} {position : Nat}

/-- The type of a day decides about flights, hotels and boarding. -/
lemma isSome_get?_typeFields (v : Voyage) (type : DayType) (key : Text) :
    (get? key (v.typeFields type)).isSome ↔
      key = "flight" ∧ (type = .preCruise ∧ HasSection "outbound" v.flights ∨
        type = .postCruise ∧ HasSection "return" v.flights) ∨
      key = "hotel" ∧ (type = .preCruise ∧ v.hotelsBefore ≠ [] ∨
        type = .postCruise ∧ v.hotelsAfter ≠ []) ∨
      key = "embarkation" ∧ type = .embarkation ∧ HasSection "embarkation" v.cruise ∨
      key = "debarkation" ∧ type = .debarkation ∧ HasSection "debarkation" v.cruise := by
  cases type <;> simp [Voyage.typeFields, get?_append]

lemma get?_typeFields_of_not_mem (v : Voyage) (type : DayType)
    (h : key ∉ (["flight", "hotel", "embarkation", "debarkation"] : List Text)) :
    get? key (v.typeFields type) = none := by
  simp only [List.mem_cons, List.not_mem_nil, or_false, not_or] at h
  simp [← Option.not_isSome_iff_eq_none, isSome_get?_typeFields, h]

lemma get?_portField (block : Option Fields) :
    get? key (block.map fun port => (("port" : Text), Value.object port)).toList =
      if key = "port" then block.map .object else none := by
  cases block <;> simp [get?_cons]

/-- The keys that every entry has. -/
def commonKeys : List Text :=
  ["dayNumber", "dayType", "isPreCruise", "isPostCruise", "title", "date", "description"]

/-- What an entry has besides the fields that every entry has. -/
lemma get?_entry (v : Voyage) (h : key ∉ commonKeys) : get? key (v.entry position day) =
    (if key = "port" then
      (portBlock? (v.portOn? (v.dateOf? day)) (get? "portInfo" day)).map .object else none).or
    ((get? key (v.typeFields (v.typeOf day))).or
    ((if key ∈ keptFields then (get? key day).filter isGiven else none).or
    (if key = "highlights" ∧ highlightsOf (v.portOn? (v.dateOf? day)) day ≠ [] then
      some (.list (highlightsOf (v.portOn? (v.dateOf? day)) day)) else none))) := by
  simp only [commonKeys, List.mem_cons, List.not_mem_nil, or_false, not_or] at h
  simp only [Voyage.entry, get?_append, get?_cons, get?_nil, h, if_false, Option.none_or,
    get?_portField, get?_keptOf, Option.or_assoc]
  cases highlightsOf (v.portOn? (v.dateOf? day)) day <;> simp [get?_cons]

/-- Kept fields are those of the day, unless they are empty. -/
lemma get?_entry_of_kept (v : Voyage) (h : key ∈ keptFields) :
    get? key (v.entry position day) = (get? key day).filter isGiven := by
  have hother : ∀ key ∈ keptFields, key ∉ commonKeys ∧ key ≠ "port" ∧ key ≠ "highlights" ∧
      key ∉ (["flight", "hotel", "embarkation", "debarkation"] : List Text) := by decide
  obtain ⟨hcommon, hport, hhighlights, htype⟩ := hother key h
  rw [get?_entry v hcommon, get?_typeFields_of_not_mem v _ htype]
  simp [h, hport, hhighlights]

lemma isSome_get?_entry_of_type (v : Voyage)
    (h : key ∈ (["flight", "hotel", "embarkation", "debarkation"] : List Text)) :
    (get? key (v.entry position day)).isSome ↔
      (get? key (v.typeFields (v.typeOf day))).isSome := by
  have hother : ∀ key ∈ (["flight", "hotel", "embarkation", "debarkation"] : List Text),
      key ∉ commonKeys ∧
      key ≠ "port" ∧ key ≠ "highlights" ∧ key ∉ keptFields := by decide
  obtain ⟨hcommon, hport, hhighlights, hkept⟩ := hother key h
  rw [get?_entry v hcommon]
  simp [hport, hhighlights, hkept]

lemma filter_isStayOf_ne_nil {type : DayType} {trip : Fields} :
    (objectsOf (get? "lodging" trip)).filter (isStayOf type) ≠ [] ↔ HasStay type trip := by
  simp [HasStay]

/-- What is left out is nothing, a flag that is not set and the empty text. -/
lemma isGiven_iff (v : Value) :
    isGiven v = true ↔ v ≠ .null ∧ v ≠ .bool false ∧ v ≠ .text "" := by
  unfold isGiven
  split <;> simp_all

/-- The entry of a day. -/
lemma Voyage.isEntryOf (now : Calendar.Moment) (trip day : Fields) (position : Nat) :
    let v := ofTrip now trip
    IsEntryOf now trip day (v.portOn? (v.dateOf? day)) (v.typeOf day) (v.entry position day) := by
  intro v
  -- The port comes in front of the fields that the type of the day adds.
  have hport : get? "port" (v.entry position day) =
      (portBlock? (v.portOn? (v.dateOf? day)) (get? "portInfo" day)).map .object := by
    rw [get?_entry v (by decide), get?_typeFields_of_not_mem v _ (by decide)]
    simp [keptFields]
  constructor
  case matched => exact v.isLastOn_portOn? _
  case dayType => rfl
  case within => exact typeOf_of_isSome
  case hasPort =>
    rw [hport, Option.isSome_map]
    exact isSome_portBlock? _ day
  case portBlock =>
    intro w hw
    rw [hport, Option.map_eq_some_iff] at hw
    obtain ⟨block, hblock, rfl⟩ := hw
    exact ⟨block, rfl, get?_portBlock? hblock⟩
  case flight =>
    rw [isSome_get?_entry_of_type v (by decide), isSome_get?_typeFields]
    simp [v, ofTrip]
  case hotel =>
    rw [isSome_get?_entry_of_type v (by decide), isSome_get?_typeFields]
    have hbefore : v.hotelsBefore ≠ [] ↔ HasStay .preCruise trip := filter_isStayOf_ne_nil
    have hafter : v.hotelsAfter ≠ [] ↔ HasStay .postCruise trip := filter_isStayOf_ne_nil
    -- Hotels before and after the cruise show on days of the two outer types only.
    generalize v.typeOf day = type
    cases type <;> simp [hbefore, hafter]
  case embarkation =>
    rw [isSome_get?_entry_of_type v (by decide), isSome_get?_typeFields]
    simp [v, ofTrip]
  case debarkation =>
    rw [isSome_get?_entry_of_type v (by decide), isSome_get?_typeFields]
    simp [v, ofTrip]
  case kept =>
    intro key hkey w
    rw [get?_entry_of_kept v hkey, Option.filter_eq_some_iff, isGiven_iff]
  case highlights =>
    intro w
    rw [get?_entry v (by decide), get?_typeFields_of_not_mem v _ (by decide), highlightsOf_eq]
    simp [keptFields, and_comm, @eq_comm _ w]

/-- The information of a day about its port is used for the port only. -/
lemma Voyage.entry_portInfo (v : Voyage) (h : SameExcept ["portInfo"] day day') :
    SameExcept ["port"] (v.entry position day) (v.entry position day') := by
  have htitle := h.firstFilled? ["title", "location"] (by decide)
  have hhighlights := h.listAt "highlights" (by decide)
  have hkept := keptOf_sameExcept h (by decide)
  simp only [entry, typeOf, dateOf?, dayWords, dayNumber, dayTitle, highlightsOf, htitle,
    hhighlights, hkept, h "date" (by decide), h "day" (by decide), h "description" (by decide)]
  intro key hkey
  rw [List.mem_singleton] at hkey
  simp only [get?_append, get?_portField, hkey, if_false]

end Entries

/-! ### Timelines -/

lemma forall₂_mapIdx_right {α β : Type} {r : α → β → Prop} {f : Nat → α → β} (as : List α)
    (h : ∀ index a, r a (f index a)) : List.Forall₂ r as (as.mapIdx f) := by
  induction as generalizing f with
  | nil => exact .nil
  | cons a as ih =>
    rw [List.mapIdx_cons]
    exact .cons (h 0 a) (ih fun index => h (index + 1))

/-- The timeline has one entry for every day, in order, and what days say about their ports shows
in the ports of the entries only. -/
theorem timeline_entries (now : Calendar.Moment) (trip : Fields) :
    List.Forall₂ (fun day entry => ∃ port type fields, entry = .object fields ∧
        IsEntryOf now trip day port type fields)
      (objectsOf (get? "itinerary" trip)) (timeline now trip) ∧
    ∀ trip', SameExcept ["itinerary"] trip trip' →
      ItemsRelated (SameExcept ["portInfo"]) (get? "itinerary" trip) (get? "itinerary" trip') →
      List.Forall₂ (ObjectsRelated (SameExcept ["port"])) (timeline now trip)
        (timeline now trip') := by
  refine ⟨?_, fun trip' h hdays => ?_⟩
  · exact forall₂_mapIdx_right _ fun index day =>
      ⟨_, _, _, rfl, Voyage.isEntryOf now trip day (index + 1)⟩
  · have hvoyage := Voyage.ofTrip_congr now h
    have hitems := hdays.objectsOf (SameExcept.refl _)
    unfold timeline
    rw [hvoyage]
    exact forall₂_mapIdx hitems fun index day day' hday => .object (Voyage.entry_portInfo _ hday)

/-- A day in Bergen, with and without information about its port. -/
theorem timeline_entries_bergenTrip :
    List.Forall₂ (fun day entry => ∃ port type fields, entry = .object fields ∧
        IsEntryOf (.ofDate ⟨2026, 1, 1, by decide⟩) (bergenTrip bergenDay bergen oslo) day port type
          fields)
      [bergenDay]
      (timeline (.ofDate ⟨2026, 1, 1, by decide⟩) (bergenTrip bergenDay bergen oslo)) ∧
    List.Forall₂ (ObjectsRelated (SameExcept ["port"]))
      (timeline (.ofDate ⟨2026, 1, 1, by decide⟩) (bergenTrip bergenDay bergen oslo))
      (timeline (.ofDate ⟨2026, 1, 1, by decide⟩)
        (bergenTrip (put "portInfo" (.object [("arrival", .text "08:00")]) bergenDay) bergen
          oslo)) := by
  have hday : SameExcept ["portInfo"] bergenDay
      (put "portInfo" (.object [("arrival", .text "08:00")]) bergenDay) := .put (by decide) _ _
  exact ⟨(timeline_entries _ _).1, (timeline_entries _ _).2 _
    (.put List.mem_cons_self (.list [.object _]) (bergenTrip bergenDay bergen oslo))
    (.list (.cons (.object hday) .nil))⟩

end TripProposal.Trip
