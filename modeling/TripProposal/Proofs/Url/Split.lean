import TripProposal.Proofs.Url.Query
import TripProposal.Url.Basic

/-!
# Splitting joined URLs

The parts that a URL is split into keep to themselves: no part has a character that would end it.
So a URL that is joined from such parts, possibly with another query, splits into them again.
-/

namespace TripProposal.Url

open Text

variable {c mark : CodePoint} {text rest : List CodePoint}

/-! ### Cutting -/

lemma cutAt_of_notMem (h : mark ∉ text) : cutAt mark text = (text, []) := by
  induction text with
  | nil => rfl
  | cons c text ih =>
    simp only [List.mem_cons, not_or] at h
    rw [cutAt, if_neg (Ne.symm h.1), ih h.2]

/-- What is cut off in front has no mark. -/
lemma notMem_cutAt (mark : CodePoint) (text : List CodePoint) : mark ∉ (cutAt mark text).1 := by
  induction text with
  | nil => simp [cutAt]
  | cons c text ih =>
    rw [cutAt]
    split
    · simp
    · next hc => simp [Ne.symm hc, ih]

lemma mem_of_mem_cutAt_fst (h : c ∈ (cutAt mark text).1) : c ∈ text := by
  induction text with
  | nil => simp [cutAt] at h
  | cons d text ih =>
    rw [cutAt] at h
    split at h
    · simp at h
    · simp only [List.mem_cons] at h ⊢
      exact h.imp id ih

lemma mem_of_mem_cutAt_snd (h : c ∈ (cutAt mark text).2) : c ∈ text := by
  induction text with
  | nil => simp [cutAt] at h
  | cons d text ih =>
    rw [cutAt] at h
    split at h
    · exact List.mem_cons_of_mem _ h
    · exact List.mem_cons_of_mem _ (ih h)

/-! ### Schemes -/

/-- What holds of all ASCII characters holds of a character below 128. -/
lemma of_ascii {p : CodePoint → Bool} (h : ∀ k : Fin 128, p (CodePoint.ofNat k) = true)
    (hc : c.toNat < 128) : p c = true := by
  have hp := h ⟨c.toNat, hc⟩
  rwa [CodePoint.ofNat_toNat] at hp

lemma toNat_lt_of_isSchemeChar (h : isSchemeChar c = true) : c.toNat < 128 := by
  simp only [isSchemeChar, Bool.or_eq_true, beq_iff_eq] at h
  rcases h with ((h | rfl) | rfl) | rfl
  · exact toNat_lt_of_isAlphanum h
  all_goals decide

/-- In small letters a character of a scheme is one of a scheme. -/
lemma isSchemeChar_toLower (h : isSchemeChar c = true) : isSchemeChar c.toLower = true := by
  have hp : (!isSchemeChar c || isSchemeChar c.toLower) = true :=
    of_ascii (p := fun c => !isSchemeChar c || isSchemeChar c.toLower) (by decide)
      (toNat_lt_of_isSchemeChar h)
  rwa [h, Bool.not_true, Bool.false_or] at hp

/-- Small letters are left as they are. -/
lemma toLower_toLower_of_isSchemeChar (h : isSchemeChar c = true) :
    c.toLower.toLower = c.toLower :=
  beq_iff_eq.mp (of_ascii (p := fun c => c.toLower.toLower == c.toLower) (by decide)
    (toNat_lt_of_isSchemeChar h))

/-- Letters stay letters. -/
lemma isAlpha_toLower_of_isAlpha (h : c.isAlpha = true) : c.toLower.isAlpha = true := by
  have halnum : c.isAlphanum = true := by simp [CodePoint.isAlphanum, h]
  have hp : (!c.isAlpha || c.toLower.isAlpha) = true :=
    of_ascii (p := fun c => !c.isAlpha || c.toLower.isAlpha) (by decide)
      (toNat_lt_of_isAlphanum halnum)
  rwa [h, Bool.not_true, Bool.false_or] at hp

/-- A scheme in small letters. -/
structure IsScheme (scheme : List CodePoint) : Prop where
  head : scheme.head?.any CodePoint.isAlpha = true
  chars : ∀ c ∈ scheme, isSchemeChar c = true
  small : scheme.map CodePoint.toLower = scheme

/-- Any scheme in small letters is a scheme. -/
lemma IsScheme.ofRaw {raw : List CodePoint} (hhead : raw.head?.any CodePoint.isAlpha = true)
    (hchars : ∀ c ∈ raw, isSchemeChar c = true) : IsScheme (raw.map CodePoint.toLower) where
  head := by
    cases raw with
    | nil => cases hhead
    | cons c raw => exact isAlpha_toLower_of_isAlpha hhead
  chars c hc := by
    obtain ⟨d, hd, rfl⟩ := List.mem_map.mp hc
    exact isSchemeChar_toLower (hchars d hd)
  small := by
    rw [List.map_map]
    exact List.map_congr_left fun c hc => toLower_toLower_of_isSchemeChar (hchars c hc)

/-- Without a scheme the text is left as it is. -/
lemma cutScheme_of_slash (rest : List CodePoint) :
    cutScheme (.char '/' :: rest) = ([], .char '/' :: rest) := by
  have hcut : (cutAt (.char ':') (.char '/' :: rest)).1 =
      .char '/' :: (cutAt (.char ':') rest).1 := by
    rw [cutAt, if_neg (by decide)]
  have halpha : (.char '/' :: (cutAt (.char ':') rest).1).head?.any CodePoint.isAlpha = false := rfl
  unfold cutScheme
  simp only [hcut, halpha, Bool.and_false, Bool.false_and, Bool.false_eq_true, if_false]

/-- A scheme ends at the first colon. -/
lemma cutScheme_append {scheme : List CodePoint} (h : IsScheme scheme) (rest : List CodePoint) :
    cutScheme (scheme ++ .char ':' :: rest) = (scheme, rest) := by
  have hcolon : .char ':' ∉ scheme := fun hm => absurd (h.chars _ hm) (by decide)
  have hall : scheme.all isSchemeChar = true := List.all_eq_true.mpr h.chars
  have hcontains : (scheme ++ .char ':' :: rest).contains (.char ':') = true := by simp
  unfold cutScheme
  simp only [cutAt_append hcolon, hcontains, h.head, hall, Bool.and_self, if_true, h.small]

/-- Either there is a scheme, with a colon behind it, or nothing is cut. -/
lemma cutScheme_cases (text : List CodePoint) :
    cutScheme text = ([], text) ∨
      IsScheme (cutScheme text).1 ∧ ∀ c ∈ (cutScheme text).2, c ∈ text := by
  unfold cutScheme
  simp only
  split
  · next h =>
    simp only [Bool.and_eq_true, List.all_eq_true] at h
    exact .inr ⟨.ofRaw h.1.2 h.2, fun c hc => mem_of_mem_cutAt_snd hc⟩
  · exact .inl rfl

/-! ### Locations -/

/-- A location ends where a path, a query or a fragment starts. -/
lemma cutLocation_append {location rest : List CodePoint}
    (hlocation : ∀ c ∈ location, endsLocation c = false)
    (hrest : ∀ c ∈ rest.head?, endsLocation c = true) :
    cutLocation ('/' :: '/' :: (location ++ rest)) = (location, rest) := by
  have hall : ∀ c ∈ location, (!endsLocation c) = true := fun c hc => by simp [hlocation c hc]
  have hstop : rest.takeWhile (!endsLocation ·) = [] ∧ rest.dropWhile (!endsLocation ·) = rest := by
    cases rest with
    | nil => exact ⟨rfl, rfl⟩
    | cons c rest =>
      have hc := hrest c rfl
      simp [hc]
  rw [cutLocation, List.takeWhile_append_of_pos hall, List.dropWhile_append_of_pos hall, hstop.1,
    hstop.2, List.append_nil]

/-- A location that is not empty ends where the rest starts. -/
lemma cutLocation_spec {text : List CodePoint} (h : (cutLocation text).1 ≠ []) :
    (∀ c ∈ (cutLocation text).1, endsLocation c = false ∧ c ∈ text) ∧
      (∀ c ∈ (cutLocation text).2.head?, endsLocation c = true) ∧
        ∀ c ∈ (cutLocation text).2, c ∈ text := by
  unfold cutLocation at h ⊢
  split at h
  · next rest =>
    refine ⟨fun c hc => ⟨?_, ?_⟩, fun c hc => ?_, fun c hc => ?_⟩
    · simpa using List.mem_takeWhile_imp hc
    · have := (List.takeWhile_sublist _).subset hc
      simp [this]
    · have := List.head?_dropWhile_not (!endsLocation ·) rest
      rw [hc] at this
      simpa using this
    · have := (List.dropWhile_sublist _).subset hc
      simp [this]
  · exact absurd rfl h

/-! ### URLs with a location -/

/-- Whether a character stays when tabs and line breaks are dropped. -/
def isKept (c : CodePoint) : Bool := c != '\t' && c != '\r' && c != '\n'

/-- A URL with a location, whose parts keep to themselves. -/
structure Located (url : Url) : Prop where
  scheme : url.scheme = [] ∨ IsScheme url.scheme
  location_ne : url.location ≠ []
  location : ∀ c ∈ url.location, endsLocation c = false
  brackets : bracketsAllowed url.location = true
  /-- No delimiter in it is in disguise. -/
  delimiters : delimitersAllowed url.location = true
  path_head : ∀ c ∈ url.path.head?, c = '/'
  path : .char '?' ∉ url.path ∧ .char '#' ∉ url.path
  query : .char '#' ∉ url.query
  kept : ∀ c ∈ url.location ++ url.path ++ url.query ++ url.fragment, isKept c = true

/-- A query or fragment with its mark, nothing when it is empty. -/
def marked (mark : CodePoint) (part : List CodePoint) : List CodePoint :=
  if part.isEmpty then [] else mark :: part

/-- A part that may be missing is cut off at its mark. -/
lemma cutAt_marked {mark : CodePoint} (h : mark ∉ text) (part : List CodePoint) :
    cutAt mark (text ++ marked mark part) = (text, part) := by
  cases part with
  | nil => rw [marked, List.isEmpty_nil, if_pos rfl, List.append_nil, cutAt_of_notMem h]
  | cons c part => exact cutAt_append h (c :: part)

lemma mem_marked {part : List CodePoint} (h : c ∈ marked mark part) : c = mark ∨ c ∈ part := by
  unfold marked at h
  split at h
  · cases h
  · exact List.mem_cons.mp h

/-- What stands behind the location of a URL. -/
def behindLocation (url : Url) : List CodePoint :=
  url.path ++ marked '?' url.query ++ marked '#' url.fragment

/-- A URL with a location is joined from its scheme, its location and the rest. -/
lemma join_eq {url : Url} (h : Located url) :
    url.join = (if url.scheme.isEmpty then [] else url.scheme ++ [.char ':']) ++
      (.char '/' :: .char '/' :: (url.location ++ behindLocation url)) := by
  have hlocated : url.location.isEmpty = false := by simpa using h.location_ne
  have hpath : (url.path.isEmpty || url.path.head? == some (.char '/')) = true := by
    cases hp : url.path with
    | nil => rfl
    | cons c path =>
      have hc := h.path_head c (by rw [hp]; rfl)
      simp [hc]
  unfold join behindLocation marked
  simp only [hlocated, hpath, Bool.not_false, Bool.true_or, if_true, List.append_assoc,
    List.cons_append]

/-- The scheme is cut off a joined URL. -/
lemma Located.cutScheme_join {url : Url} (h : Located url) :
    cutScheme url.join =
      (url.scheme, .char '/' :: .char '/' :: (url.location ++ behindLocation url)) := by
  rw [join_eq h]
  rcases h.scheme with hs | hs
  · rw [hs]
    exact cutScheme_of_slash _
  · have hne : url.scheme.isEmpty = false := by
      cases hu : url.scheme with
      | nil => rw [hu] at hs; exact absurd hs.head (by decide)
      | cons c scheme => rfl
    rw [hne, if_neg (by decide), List.append_assoc]
    exact cutScheme_append hs _

/-- Then the location is. -/
lemma Located.cutLocation_behind {url : Url} (h : Located url) :
    cutLocation ('/' :: '/' :: (url.location ++ behindLocation url)) =
      (url.location, behindLocation url) := by
  refine cutLocation_append h.location fun c hc => ?_
  unfold behindLocation at hc
  cases hp : url.path with
  | cons d path =>
    have hd := h.path_head d (by rw [hp]; rfl)
    rw [hp] at hc
    obtain rfl : d = c := by simpa using hc
    rw [hd]
    rfl
  | nil =>
    rw [hp, List.nil_append] at hc
    cases hq : url.query with
    | cons d query =>
      rw [hq] at hc
      obtain rfl : '?' = c := by simpa [marked] using hc
      rfl
    | nil =>
      rw [hq] at hc
      cases hf : url.fragment with
      | cons d fragment =>
        rw [hf] at hc
        obtain rfl : '#' = c := by simpa [marked] using hc
        rfl
      | nil =>
        rw [hf] at hc
        cases hc

/-- Then the fragment is. -/
lemma Located.cutFragment {url : Url} (h : Located url) :
    cutAt '#' (behindLocation url) = (url.path ++ marked '?' url.query, url.fragment) := by
  refine cutAt_marked ?_ url.fragment
  intro hm
  rcases List.mem_append.mp hm with hm | hm
  · exact h.path.2 hm
  · rcases mem_marked hm with hm | hm
    · cases hm
    · exact h.query hm

/-- What remains is the path and the query. -/
lemma Located.cutQuery {url : Url} (h : Located url) :
    cutAt '?' (url.path ++ marked '?' url.query) = (url.path, url.query) :=
  cutAt_marked h.path.1 url.query

lemma isKept_of_isSchemeChar (h : isSchemeChar c = true) : 32 < c.toNat ∧ isKept c = true := by
  have hall : ∀ k : Fin 128, (!isSchemeChar (CodePoint.ofNat k) ||
      decide (32 < (CodePoint.ofNat k).toNat) && isKept (CodePoint.ofNat k)) = true := by decide
  have hc := of_ascii (p := fun c => !isSchemeChar c || decide (32 < c.toNat) && isKept c) hall
    (toNat_lt_of_isSchemeChar h)
  simpa [h] using hc

/-- A text without blanks in front and without line breaks is left as it is. -/
lemma cleaned_of_kept (hhead : ∀ c ∈ text.head?, 32 < c.toNat)
    (h : ∀ c ∈ text, isKept c = true) : cleaned text = text := by
  have hdrop : text.dropWhile (·.toNat ≤ 32) = text := by
    cases text with
    | nil => rfl
    | cons c text =>
      have hc := hhead c rfl
      rw [List.dropWhile_cons, if_neg (by simp [Nat.not_le.mpr hc])]
  rw [cleaned, hdrop]
  exact List.filter_eq_self.mpr h

/-- Nothing of a URL is dropped before it is split. -/
lemma Located.isKept_behind {url : Url} (h : Located url) :
    ∀ c ∈ url.location ++ behindLocation url, isKept c = true := by
  intro c hc
  simp only [behindLocation, List.mem_append] at hc
  have hkept := h.kept c
  simp only [List.mem_append] at hkept
  rcases hc with hc | (hc | hc) | hc
  · exact hkept (.inl (.inl (.inl hc)))
  · exact hkept (.inl (.inl (.inr hc)))
  · rcases mem_marked hc with rfl | hc
    · rfl
    · exact hkept (.inl (.inr hc))
  · rcases mem_marked hc with rfl | hc
    · rfl
    · exact hkept (.inr hc)

/-- Nothing of a joined URL is dropped before it is split. -/
lemma Located.cleaned_join {url : Url} (h : Located url) : cleaned url.join = url.join := by
  have hslash :
      ∀ c ∈ .char '/' :: .char '/' :: (url.location ++ behindLocation url), isKept c = true := by
    intro c hc
    rw [List.mem_cons, List.mem_cons] at hc
    rcases hc with rfl | rfl | hc
    · rfl
    · rfl
    · exact h.isKept_behind c hc
  rw [join_eq h]
  -- With a scheme the first character is a letter, without one it is a slash.
  rcases h.scheme with hs | hs
  · rw [hs, List.isEmpty_nil, if_pos rfl, List.nil_append]
    refine cleaned_of_kept (fun c hc => ?_) hslash
    obtain rfl := Option.some.inj hc
    decide
  · have hchar := fun d hd => isKept_of_isSchemeChar (hs.chars d hd)
    cases hu : url.scheme with
    | nil =>
      rw [hu] at hs
      exact absurd hs.head (by decide)
    | cons d scheme =>
      rw [hu] at hchar
      refine cleaned_of_kept (fun c hc => ?_) fun c hc => ?_
      · obtain rfl : d = c := by simpa using hc
        exact (hchar d List.mem_cons_self).1
      · rw [List.isEmpty_cons, if_neg (by decide), List.append_assoc, List.singleton_append] at hc
        rcases List.mem_append.mp hc with hc | hc
        · exact (hchar c hc).2
        · rcases List.mem_cons.mp hc with rfl | hc
          · rfl
          · exact hslash c hc

/-- A URL with a location splits into its parts. -/
theorem split_join {url : Url} (h : Located url) : split url.join = .ok url := by
  unfold split
  simp only [h.cleaned_join, h.cutScheme_join, h.cutLocation_behind, h.brackets, h.delimiters,
    h.cutFragment, h.cutQuery, Bool.not_true, Bool.false_eq_true, if_false]

/-! ### Parts of a split URL -/

/-- Behind a location there is a path that starts with a slash, or none. -/
lemma head_of_cutAt (h : ∀ c ∈ rest.head?, endsLocation c = true) :
    ∀ c ∈ (cutAt '?' (cutAt '#' rest).1).1.head?, c = '/' := by
  intro c hc
  cases rest with
  | nil => cases hc
  | cons d rest =>
    have hd := h d rfl
    simp only [endsLocation, Bool.or_eq_true, beq_iff_eq] at hd
    rcases hd with (rfl | rfl) | rfl
    · simp only [cutAt, CodePoint.char.injEq, Char.reduceEq, if_false] at hc
      exact (Option.some.inj hc).symm
    · simp only [cutAt, CodePoint.char.injEq, Char.reduceEq, if_false, if_true] at hc
      cases hc
    · simp only [cutAt, if_true] at hc
      cases hc

/-- The parts that a text with a location is split into keep to themselves. -/
lemma located_of_split {text : List CodePoint} {url : Url} (h : split text = .ok url)
    (hne : url.location ≠ []) : Located url := by
  unfold split at h
  simp only at h
  split at h
  · cases h
  · next hbrackets =>
    split at h
    · cases h
    · next hdelimiters =>
      obtain rfl := Except.ok.inj h
      simp only [Bool.not_eq_true, Bool.not_eq_false'] at hbrackets hdelimiters
      have hkept : ∀ c ∈ cleaned text, isKept c = true := fun c hc => (List.mem_filter.mp hc).2
      -- What is cut later is part of what is left, so no part has a mark that ends it.
      have hscheme := cutScheme_cases (cleaned text)
      have hbehind : ∀ c ∈ (cutScheme (cleaned text)).2, isKept c = true := by
        intro c hc
        rcases hscheme with hs | hs
        · rw [hs] at hc
          exact hkept c hc
        · exact hkept c (hs.2 c hc)
      obtain ⟨hlocation, hhead, hrest⟩ := cutLocation_spec hne
      have hlast := notMem_cutAt '#' (cutLocation (cutScheme (cleaned text)).2).2
      refine ⟨hscheme.imp (fun hs => by rw [hs]) (·.1), hne, fun c hc => (hlocation c hc).1,
        hbrackets, hdelimiters, ?_, ⟨notMem_cutAt _ _, fun hm => ?_⟩, fun hm => ?_, fun c hc => ?_⟩
      · exact head_of_cutAt hhead
      · exact hlast (mem_of_mem_cutAt_fst hm)
      · exact hlast (mem_of_mem_cutAt_snd hm)
      · simp only [List.mem_append] at hc
        rcases hc with ((hc | hc) | hc) | hc
        · exact hbehind c (hlocation c hc).2
        · exact hbehind c (hrest c (mem_of_mem_cutAt_fst (mem_of_mem_cutAt_fst hc)))
        · exact hbehind c (hrest c (mem_of_mem_cutAt_fst (mem_of_mem_cutAt_snd hc)))
        · exact hbehind c (hrest c (mem_of_mem_cutAt_snd hc))

end TripProposal.Url
