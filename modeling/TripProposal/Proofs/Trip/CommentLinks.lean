import TripProposal.Proofs.Url.Query
import TripProposal.Template.Display
import TripProposal.Trip.Comments

/-!
# Links to comments

The id of a trip is one segment of the link to the comments on the trip: no character of it divides
the link, whatever the id holds, and the id can be read back from it. So trips with different ids
have different links. What a template puts into a URL can be read back in the same way.
-/

namespace TripProposal

open Text

namespace Url

variable {c : CodePoint} {rest : List CodePoint} {bytes : List Nat}

/-! ### Segments -/

/-- One segment of a path: ASCII characters that are no marks and no blanks, and escapes. -/
inductive IsSegment : List CodePoint → Prop
  | nil : IsSegment []
  | plain {c : CodePoint} {rest : List CodePoint} (hascii : c.toNat < 128)
    (hmark : c ∉ [.char '/', .char '?', .char '#', .char '%'])
    (hblank : isBlank c = false) (h : IsSegment rest) : IsSegment (c :: rest)
  | escape {a b : CodePoint} {rest : List CodePoint} (ha : isHexDigit a = true)
    (hb : isHexDigit b = true) (h : IsSegment rest) : IsSegment ('%' :: a :: b :: rest)

lemma IsSegment.of_isUnreserved (hc : isUnreserved c = true) (h : IsSegment rest) :
    IsSegment (c :: rest) := by
  have hall : ∀ k : Fin 128, isUnreserved (CodePoint.ofNat k) = true →
      CodePoint.ofNat k ∉ [.char '/', .char '?', .char '#', .char '%'] ∧
        isBlank (CodePoint.ofNat k) = false := by decide
  have hascii := (isSafeClass_unreserved c hc).1
  have hplain := hall ⟨c.toNat, hascii⟩
  rw [CodePoint.ofNat_toNat] at hplain
  exact .plain hascii (hplain hc).1 (hplain hc).2 h

lemma isHexDigit_upperHexDigit {n : Nat} (h : n < 16) : isHexDigit (upperHexDigit n) = true := by
  rw [isHexDigit, hexValue?_upperHexDigit h]
  rfl

/-- Escapes can stand in a segment. -/
lemma IsSegment.of_escapes (hbytes : ∀ b ∈ bytes, b < 256) (h : IsSegment rest) :
    IsSegment (bytes.flatMap escapeByte ++ rest) := by
  induction bytes with
  | nil => exact h
  | cons b bytes ih =>
    rw [List.forall_mem_cons] at hbytes
    rw [List.flatMap_cons, List.append_assoc]
    exact .escape (isHexDigit_upperHexDigit (by omega)) (isHexDigit_upperHexDigit (by omega))
      (ih hbytes.2)

/-- An encoded text is a segment. -/
lemma isSegment_escaped (text : List CodePoint) : IsSegment (escaped isUnreserved text) := by
  induction text with
  | nil => exact .nil
  | cons c text ih =>
    rw [escaped, List.flatMap_cons, ← escaped, encodeChar]
    split
    · next hc => exact .of_isUnreserved hc ih
    · exact .of_escapes (fun _ => lt_of_mem_utf8Bytes) ih

lemma isSafeClass_component : IsSafeClass isComponentSafe := by
  intro c h
  rw [isComponentSafe, Bool.or_eq_true] at h
  rcases h with h | h
  · exact isSafeClass_unreserved c h
  · simp only [String.codePoints, String.reduceToList, List.map_cons, List.map_nil,
      List.contains_iff_mem, List.mem_cons, List.not_mem_nil,
      or_false] at h
    rcases h with rfl | rfl | rfl | rfl | rfl <;> decide

end Url

namespace Template

/-- A text of characters can be put into a URL. -/
lemma exists_displayUri {s : Text} (h : s.isEncodable = true) :
    ∃ shown, displayUri (some (.text s)) = .ok shown := by
  unfold displayUri
  split
  · have hencode : Url.percentEncode Url.isComponentSafe (display (some (.text s))) = .ok _ :=
      Url.percentEncode_eq_ok_iff.mpr ⟨h, rfl⟩
    exact ⟨_, by rw [hencode]; rfl⟩
  · exact ⟨[], rfl⟩

/-- What a template puts into a URL is read back. -/
lemma percentDecode_of_displayUri {s : Text} {shown : List CodePoint}
    (h : displayUri (some (.text s)) = .ok shown) : Url.percentDecode shown = s.toList := by
  unfold displayUri at h
  split at h
  · obtain ⟨hchars, rfl⟩ := Url.percentEncode_eq_ok_iff.mp (mapError_eq_ok.mp h)
    exact Url.percentDecode_escaped Url.isSafeClass_component hchars
  · next hempty =>
    cases h
    have hs : s = "" := by simpa [isFilled, Value.isFilled] using hempty
    rw [hs]
    simp [Url.percentDecode, Url.decodeFrom, decodeUtf8, Text.decodeFrom]

end Template

namespace Trip

open Url

/-! ### The link of a trip -/

/-- A URL names a trip: behind the endpoint without the slashes at its end, the id of the trip is one
segment. -/
structure NamesTrip (endpoint tripId url : Text) (base segment : List CodePoint) : Prop where
  /-- The endpoint is the base with slashes behind it. -/
  slashes : ∃ n, endpoint.toList = base ++ List.replicate n (.char '/')
  trimmed : base.getLast? ≠ some (.char '/')
  parts : url.toList = base ++ "/trips/".codePoints ++ segment ++ "/comments".codePoints
  isSegment : IsSegment segment
  decoded : percentDecode segment = tripId.toList

/-- What is stripped from the end is marks. -/
lemma exists_trailing (mark : CodePoint) (text : List CodePoint) :
    ∃ n, text = (text.reverse.dropWhile (· == mark)).reverse ++ List.replicate n mark := by
  have hmarks : text.reverse.takeWhile (· == mark) =
      List.replicate (text.reverse.takeWhile (· == mark)).length mark := by
    refine List.eq_replicate_of_mem fun c hc => ?_
    simpa using List.mem_takeWhile_imp hc
  refine ⟨(text.reverse.takeWhile (· == mark)).length, ?_⟩
  have hsplit := congrArg List.reverse
    (List.takeWhile_append_dropWhile (p := (· == mark)) (l := text.reverse))
  rw [List.reverse_append, List.reverse_reverse, hmarks, List.reverse_replicate] at hsplit
  exact hsplit.symm

/-- What remains ends in no mark. -/
lemma getLast?_trailing (mark : CodePoint) (text : List CodePoint) :
    (text.reverse.dropWhile (· == mark)).reverse.getLast? ≠ some mark := by
  intro h
  rw [List.getLast?_reverse] at h
  have hhead := List.head?_dropWhile_not (· == mark) text.reverse
  rw [h] at hhead
  simp at hhead

/-- The address of a thread names its trip. -/
lemma namesTrip_of_commentThread {endpoint tripId url : Text}
    (h : commentThread endpoint tripId = .ok url) :
    NamesTrip endpoint tripId url
      (endpoint.toList.reverse.dropWhile (· == .char '/')).reverse
      (escaped isUnreserved tripId.toList) := by
  obtain ⟨segment, hencode, rfl⟩ := map_eq_ok_iff.mp h
  obtain ⟨hchars, rfl⟩ := percentEncode_eq_ok_iff.mp hencode
  exact {
    slashes := exists_trailing '/' endpoint.toList
    trimmed := getLast?_trailing '/' endpoint.toList
    parts := Text.toList_ofList _
    isSegment := isSegment_escaped tripId.toList
    decoded := percentDecode_escaped isSafeClass_unreserved hchars }

/-- Exactly the ids without lone surrogates have a thread. -/
lemma exists_commentThread (endpoint tripId : Text) :
    (∃ url, commentThread endpoint tripId = .ok url) ↔ tripId.isEncodable = true := by
  rw [commentThread, exists_map_eq_ok]
  constructor
  · rintro ⟨segment, h⟩
    exact (percentEncode_eq_ok_iff.mp h).1
  · exact fun h => ⟨_, percentEncode_eq_ok_iff.mpr ⟨h, rfl⟩⟩

/-- Different trips have different threads. -/
lemma eq_of_commentThread {endpoint tripId tripId' url : Text}
    (h : commentThread endpoint tripId = .ok url) (h' : commentThread endpoint tripId' = .ok url) :
    tripId = tripId' := by
  have hurl := (namesTrip_of_commentThread h).parts.symm.trans (namesTrip_of_commentThread h').parts
  rw [List.append_cancel_right_eq, List.append_cancel_left_eq] at hurl
  have hid := congrArg percentDecode hurl
  rw [(namesTrip_of_commentThread h).decoded, (namesTrip_of_commentThread h').decoded] at hid
  exact Text.toList_injective hid

/-- The link to the comments on a trip names the trip, so links of different trips differ. Decoding
also gives back a text that a template puts into a URL. -/
theorem commentThread_names_trip (endpoint : Text) :
    (∀ tripId tripId' : Text, tripId.isEncodable = true → tripId'.isEncodable = true →
      tripId ≠ tripId' → ∃ url url', commentThread endpoint tripId = .ok url ∧
        commentThread endpoint tripId' = .ok url' ∧ url ≠ url') ∧
    (∀ tripId : Text, tripId.isEncodable = true → ∃ url base segment,
      commentThread endpoint tripId = .ok url ∧ NamesTrip endpoint tripId url base segment) ∧
    ∀ s : Text, s.isEncodable = true → ∃ shown,
      Template.displayUri (some (.text s)) = .ok shown ∧ percentDecode shown = s.toList := by
  refine ⟨?_, ?_, ?_⟩
  · intro tripId tripId' h h' hne
    obtain ⟨url, hurl⟩ := (exists_commentThread endpoint tripId).mpr h
    obtain ⟨url', hurl'⟩ := (exists_commentThread endpoint tripId').mpr h'
    exact ⟨url, url', hurl, hurl', fun heq => hne (eq_of_commentThread hurl (heq ▸ hurl'))⟩
  · intro tripId h
    obtain ⟨url, hurl⟩ := (exists_commentThread endpoint tripId).mpr h
    exact ⟨url, _, _, hurl, namesTrip_of_commentThread hurl⟩
  · intro s h
    obtain ⟨shown, hshown⟩ := Template.exists_displayUri h
    exact ⟨shown, hshown, Template.percentDecode_of_displayUri hshown⟩

/-- The slash at the end of the endpoint and the blank in the id. -/
example : commentThread "https://api.example.com/" "a b" =
    .ok "https://api.example.com/trips/a%20b/comments" := by
  rfl

end Trip

end TripProposal
