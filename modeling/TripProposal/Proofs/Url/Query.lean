import Mathlib.Tactic.Common
import TripProposal.Proofs.Outcomes
import TripProposal.Proofs.Text.Searching
import TripProposal.Proofs.Text.Utf8
import TripProposal.Url.Query

/-!
# Query round trip

Reading a written query gives the query back, whatever characters its names and values have. A
written field has nothing but safe characters, so the separators of the query keep their meaning.
-/

namespace TripProposal.Url

open Text

variable {c : CodePoint} {text rest : List CodePoint}

/-! ### Escapes -/

lemma hexValue?_upperHexDigit {n : Nat} (h : n < 16) : hexValue? (upperHexDigit n) = some n := by
  have hall : ∀ k : Fin 16, hexValue? (upperHexDigit k) = some k.val := by decide
  exact hall ⟨n, h⟩

/-- An escape stands for its byte. -/
lemma decodeFrom_escapeByte {b : Nat} (h : b < 256) (pending : List Nat) (rest : List CodePoint) :
    decodeFrom pending (escapeByte b ++ rest) = decodeFrom (b :: pending) rest := by
  have hvalue : b / 16 * 16 + b % 16 = b := by omega
  rw [escapeByte]
  simp only [List.cons_append, List.nil_append]
  rw [decodeFrom, hexValue?_upperHexDigit (by omega), hexValue?_upperHexDigit (by omega)]
  simp only [hvalue]

/-- Escapes in a row stand for their bytes. -/
lemma decodeFrom_escapes {bytes : List Nat} (h : ∀ b ∈ bytes, b < 256) (pending : List Nat)
    (rest : List CodePoint) :
    decodeFrom pending (bytes.flatMap escapeByte ++ rest) =
      decodeFrom (bytes.reverse ++ pending) rest := by
  induction bytes generalizing pending with
  | nil => rfl
  | cons b bytes ih =>
    rw [List.flatMap_cons, List.append_assoc, decodeFrom_escapeByte (h b List.mem_cons_self),
      ih fun d hd => h d (List.mem_cons_of_mem _ hd)]
    simp

/-- Plain ASCII characters stand for themselves. -/
lemma decodeFrom_ascii (hc : c.toNat < 128) (hp : c ≠ '%') (pending : List Nat)
    (rest : List CodePoint) : decodeFrom pending (c :: rest) =
      decodeFrom (c.toNat :: pending) rest := by
  rw [decodeFrom.eq_def]
  split
  · next heq => cases heq
  · next heq =>
    obtain ⟨rfl, -⟩ := List.cons.inj heq
    exact absurd rfl hp
  · next heq =>
    obtain ⟨rfl, rfl⟩ := List.cons.inj heq
    rw [if_pos hc]

/-- A class of characters that stand for themselves when they are not escaped. -/
def IsSafeClass (safe : CodePoint → Bool) : Prop :=
  ∀ c, safe c = true → c.toNat < 128 ∧ c ≠ '%'

/-- A character, escaped or not, stands for its bytes. -/
lemma decodeFrom_encodeChar {safe : CodePoint → Bool} (hsafe : IsSafeClass safe) (c : CodePoint)
    (pending : List Nat) (rest : List CodePoint) :
    decodeFrom pending (encodeChar safe c ++ rest) =
      decodeFrom ((utf8Bytes c).reverse ++ pending) rest := by
  unfold encodeChar
  split
  · next hc =>
    obtain ⟨hlt, hp⟩ := hsafe c hc
    have hbytes : utf8Bytes c = [c.toNat] := by simp [utf8Bytes, hlt]
    rw [List.singleton_append, decodeFrom_ascii hlt hp, hbytes]
    rfl
  · exact decodeFrom_escapes (fun b hb => lt_of_mem_utf8Bytes hb) pending rest

/-- Decoding an escaped text of characters gives the text. -/
lemma percentDecode_escaped {safe : CodePoint → Bool} (hsafe : IsSafeClass safe)
    {text : List CodePoint} (hchars : text.all CodePoint.isChar = true) :
    percentDecode (escaped safe text) = text := by
  have h : ∀ (text : List CodePoint) (pending : List Nat),
      decodeFrom pending (escaped safe text) =
        decodeUtf8 (pending.reverse ++ text.flatMap utf8Bytes) := by
    intro text
    induction text with
    | nil =>
      intro pending
      simp [escaped, decodeFrom]
    | cons c text ih =>
      intro pending
      rw [escaped, List.flatMap_cons, decodeFrom_encodeChar hsafe, ← escaped, ih]
      simp
  rw [percentDecode, h, List.reverse_nil, List.nil_append, decodeUtf8_flatMap hchars]

/-- Texts of characters have an encoding, and only they do. -/
lemma percentEncode_eq_ok_iff {safe : CodePoint → Bool} {result : List CodePoint} :
    percentEncode safe text = .ok result ↔
      text.all CodePoint.isChar = true ∧ escaped safe text = result := by
  unfold percentEncode
  split
  · next h => simp [h]
  · next h => simp [h]

/-! ### Fields -/

/-- Whether a character may stand in a written name or value. -/
def isFieldChar (c : CodePoint) : Bool :=
  isUnreserved c || c == '%' || c == '+'

/-- Letters and digits of this kind are ASCII characters. -/
lemma toNat_lt_of_isAlphanum (h : c.isAlphanum = true) : c.toNat < 128 := by
  simp only [CodePoint.isAlphanum, CodePoint.isAlpha, CodePoint.isUpper, CodePoint.isLower,
    CodePoint.isDigit, Bool.or_eq_true, Bool.and_eq_true, decide_eq_true_eq] at h
  omega

lemma isSafeClass_unreserved : IsSafeClass isUnreserved := by
  intro c h
  simp only [isUnreserved, Bool.or_eq_true, beq_iff_eq] at h
  rcases h with (((h | rfl) | rfl) | rfl) | rfl
  · refine ⟨toNat_lt_of_isAlphanum h, ?_⟩
    rintro rfl
    cases h
  all_goals decide

lemma isSafeClass_field : IsSafeClass fun c => isUnreserved c || c == ' ' := by
  intro c h
  rw [Bool.or_eq_true, beq_iff_eq] at h
  rcases h with h | rfl
  · exact isSafeClass_unreserved c h
  · decide

/-- The digits of an escape need no escape. -/
lemma isUnreserved_upperHexDigit {n : Nat} (h : n < 16) :
    isUnreserved (upperHexDigit n) = true := by
  have hall : ∀ k : Fin 16, isUnreserved (upperHexDigit k) = true := by decide
  exact hall ⟨n, h⟩

lemma isFieldChar_of_isUnreserved (h : isUnreserved c = true) : isFieldChar c = true := by
  simp [isFieldChar, h]

lemma isFieldChar_escapeByte {b : Nat} (hb : b < 256) (h : c ∈ escapeByte b) :
    isFieldChar c = true ∧ c ≠ '+' := by
  simp only [escapeByte, List.mem_cons, List.not_mem_nil, or_false] at h
  have hplus : ∀ {d}, isUnreserved d = true → isFieldChar d = true ∧ d ≠ '+' := by
    intro d hd
    refine ⟨isFieldChar_of_isUnreserved hd, ?_⟩
    rintro rfl
    cases hd
  rcases h with rfl | rfl | rfl
  · decide
  · exact hplus (isUnreserved_upperHexDigit (by omega))
  · exact hplus (isUnreserved_upperHexDigit (by omega))

/-- The characters of an encoded field before spaces become plus signs. -/
lemma mem_escaped (h : c ∈ escaped (fun c => isUnreserved c || c == ' ') text) :
    c = ' ' ∨ isFieldChar c = true ∧ c ≠ '+' := by
  obtain ⟨d, -, hd⟩ := List.mem_flatMap.mp h
  unfold encodeChar at hd
  split at hd
  · next hsafe =>
    obtain rfl := List.mem_singleton.mp hd
    simp only [Bool.or_eq_true, beq_iff_eq] at hsafe
    rcases hsafe with hu | rfl
    · refine .inr ⟨isFieldChar_of_isUnreserved hu, ?_⟩
      rintro rfl
      cases hu
    · exact .inl rfl
  · obtain ⟨b, hb, hc⟩ := List.mem_flatMap.mp hd
    exact .inr (isFieldChar_escapeByte (lt_of_mem_utf8Bytes hb) hc)

/-- The written form of a name or value of characters. -/
def escapedField (text : List CodePoint) : List CodePoint :=
  (escaped (fun c => isUnreserved c || c == ' ') text).map fun c : CodePoint =>
    if c = ' ' then '+' else c

lemma encodeField_eq_ok_iff {result : List CodePoint} : encodeField text = .ok result ↔
    text.all CodePoint.isChar = true ∧ escapedField text = result := by
  rw [encodeField, map_eq_ok_iff]
  constructor
  · rintro ⟨encoded, hencoded, rfl⟩
    obtain ⟨hchars, rfl⟩ := percentEncode_eq_ok_iff.mp hencoded
    exact ⟨hchars, rfl⟩
  · rintro ⟨hchars, rfl⟩
    exact ⟨_, percentEncode_eq_ok_iff.mpr ⟨hchars, rfl⟩, rfl⟩

/-- An encoded field has no other characters. -/
lemma isFieldChar_of_mem_escapedField (h : c ∈ escapedField text) : isFieldChar c = true := by
  obtain ⟨d, hd, rfl⟩ := List.mem_map.mp h
  rcases mem_escaped hd with rfl | ⟨hd, -⟩
  · rfl
  · split
    · rfl
    · exact hd

/-- Reading a written field gives the field. -/
lemma decodeField_escapedField (h : text.all CodePoint.isChar = true) :
    decodeField (escapedField text) = text := by
  have hmap : (escapedField text).map (fun c : CodePoint => if c = '+' then .char ' ' else c) =
        escaped (fun c : CodePoint => isUnreserved c || c == .char ' ') text := by
    rw [escapedField, List.map_map]
    conv_rhs => rw [← List.map_id (escaped _ text)]
    refine List.map_congr_left fun c hc => ?_
    rcases mem_escaped hc with rfl | ⟨-, hplus⟩
    · rfl
    · by_cases hs : c = ' '
      · subst hs
        rfl
      · simp [hs, hplus]
  rw [decodeField, hmap, percentDecode_escaped isSafeClass_field h]

/-! ### Queries -/

/-- So no mark stands in it. -/
lemma notMem_escapedField {mark : CodePoint} (h : isFieldChar mark = false)
    (text : List CodePoint) :
    mark ∉ escapedField text := by
  intro hm
  rw [isFieldChar_of_mem_escapedField hm] at h
  cases h

/-- The first mark cuts. -/
lemma cutAt_append {mark : CodePoint} (h : mark ∉ text) (rest : List CodePoint) :
    cutAt mark (text ++ mark :: rest) = (text, rest) := by
  induction text with
  | nil => simp [cutAt]
  | cons c text ih =>
    simp only [List.mem_cons, not_or] at h
    rw [List.cons_append, cutAt, if_neg (Ne.symm h.1), ih h.2]

/-- A mark that is in no piece and is not the separator is nowhere. -/
lemma notMem_intercalate {mark sep : CodePoint} {pieces : List (List CodePoint)} (hs : mark ≠ sep)
    (h : ∀ piece ∈ pieces, mark ∉ piece) : mark ∉ List.intercalate [sep] pieces := by
  induction pieces with
  | nil => simp [List.intercalate_nil]
  | cons piece pieces ih =>
    have hpiece := h piece List.mem_cons_self
    cases pieces with
    | nil => rwa [List.intercalate_singleton]
    | cons next pieces =>
      have hrest := ih fun p hp => h p (List.mem_cons_of_mem _ hp)
      rw [List.intercalate_cons_cons, List.append_assoc, List.singleton_append, List.mem_append,
        List.mem_cons, not_or, not_or]
      exact ⟨hpiece, hs, hrest⟩

/-- The written form of a pair of characters. -/
def escapedPair (pair : List CodePoint × List CodePoint) : List CodePoint :=
  escapedField pair.1 ++ .char '=' :: escapedField pair.2

/-- Whether a name and its value consist of characters. -/
def IsEncodable (pair : List CodePoint × List CodePoint) : Prop :=
  pair.1.all CodePoint.isChar = true ∧ pair.2.all CodePoint.isChar = true

lemma printPair_eq_ok_iff {pair : List CodePoint × List CodePoint} {result : List CodePoint} :
    printPair pair = .ok result ↔ IsEncodable pair ∧ escapedPair pair = result := by
  simp only [printPair, bind_eq_ok_iff, encodeField_eq_ok_iff]
  constructor
  · rintro ⟨_, ⟨hname, rfl⟩, _, ⟨hvalue, rfl⟩, ⟨⟩⟩
    exact ⟨⟨hname, hvalue⟩, rfl⟩
  · rintro ⟨⟨hname, hvalue⟩, rfl⟩
    exact ⟨_, ⟨hname, rfl⟩, _, ⟨hvalue, rfl⟩, rfl⟩

/-- Pairs are written one by one, up to the first that has no bytes. -/
lemma mapM_printPair_eq_ok_iff {query : Query} {pieces : List (List CodePoint)} :
    query.mapM printPair = .ok pieces ↔
      (∀ pair ∈ query, IsEncodable pair) ∧ query.map escapedPair = pieces := by
  induction query generalizing pieces with
  | nil => exact ⟨fun h => ⟨by simp, Except.ok.inj h⟩, fun h => congrArg Except.ok h.2⟩
  | cons pair query ih =>
    simp only [List.mapM_cons, List.forall_mem_cons, List.map_cons, bind_eq_ok_iff,
      printPair_eq_ok_iff, ih]
    constructor
    · rintro ⟨_, ⟨hpair, rfl⟩, _, ⟨hrest, rfl⟩, ⟨⟩⟩
      exact ⟨⟨hpair, hrest⟩, rfl⟩
    · rintro ⟨⟨hpair, hrest⟩, rfl⟩
      exact ⟨_, ⟨hpair, rfl⟩, _, ⟨hrest, rfl⟩, rfl⟩

/-- A query is written when all its names and values consist of characters, and only then. -/
lemma Query.print_eq_ok_iff {query : Query} {result : List CodePoint} :
    query.print = .ok result ↔ (∀ pair ∈ query, IsEncodable pair) ∧
      List.intercalate [.char '&'] (query.map escapedPair) = result := by
  rw [Query.print, map_eq_ok_iff]
  constructor
  · rintro ⟨pieces, hpieces, rfl⟩
    obtain ⟨hencodable, rfl⟩ := mapM_printPair_eq_ok_iff.mp hpieces
    exact ⟨hencodable, rfl⟩
  · rintro ⟨hencodable, rfl⟩
    exact ⟨_, mapM_printPair_eq_ok_iff.mpr ⟨hencodable, rfl⟩, rfl⟩

/-- The marks that separate pairs are in no pair. -/
lemma notMem_escapedPair {mark : CodePoint} (h : isFieldChar mark = false) (he : mark ≠ '=')
    (pair : List CodePoint × List CodePoint) : mark ∉ escapedPair pair := by
  simp [escapedPair, notMem_escapedField h, he]

/-- Reading a written query gives the query. -/
theorem Query.parse_of_print {query : Query} {written : List CodePoint}
    (h : query.print = .ok written) : Query.parse written = query := by
  obtain ⟨hencodable, rfl⟩ := Query.print_eq_ok_iff.mp h
  cases query with
  | nil => rfl
  | cons pair query =>
    have hsplit : splitAtMark '&' (List.intercalate ['&'] ((pair :: query).map escapedPair)) =
        (pair :: query).map escapedPair := by
      refine splitAtMark_intercalate (by simp) fun piece hp => ?_
      obtain ⟨p, -, rfl⟩ := List.mem_map.mp hp
      exact notMem_escapedPair (by decide) (by decide) p
    have hfilter : ((pair :: query).map escapedPair).filter (!·.isEmpty) =
        (pair :: query).map escapedPair := by
      refine List.filter_eq_self.mpr fun piece hp => ?_
      obtain ⟨p, -, rfl⟩ := List.mem_map.mp hp
      simp [escapedPair]
    rw [Query.parse, hsplit, hfilter, List.map_map]
    conv_rhs => rw [← List.map_id (pair :: query)]
    refine List.map_congr_left fun p hp => ?_
    have hcut : cutAt '=' (escapedPair p) = (escapedField p.1, escapedField p.2) :=
      cutAt_append (notMem_escapedField (by decide) p.1) _
    obtain ⟨hname, hvalue⟩ := hencodable p hp
    simp only [Function.comp_apply, hcut, decodeField_escapedField hname,
      decodeField_escapedField hvalue, id]

/-- A written query has none of the characters that end a query or are dropped from a URL. -/
lemma notMem_of_print {mark : CodePoint} (h : isFieldChar mark = false) (he : mark ≠ '=')
    (ha : mark ≠ '&') {query : Query} {written : List CodePoint} (hp : query.print = .ok written) :
    mark ∉ written := by
  obtain ⟨-, rfl⟩ := Query.print_eq_ok_iff.mp hp
  refine notMem_intercalate ha fun piece hp => ?_
  obtain ⟨p, -, rfl⟩ := List.mem_map.mp hp
  exact notMem_escapedPair h he p

end TripProposal.Url
