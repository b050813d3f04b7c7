import TripProposal.Proofs.Template.Lookup
import TripProposal.Proofs.Value.Fields
import TripProposal.Proofs.Value.JsonNumbers
import TripProposal.Proofs.Value.JsonText

/-!
# JSON text reads back

In whatever style a value is written as JSON text, it reads back as the value. What is written for
a value is read to its end: a number stops where a space, a comma or a bracket follows, and every
other text ends by itself.
-/

namespace TripProposal

open Text Number Value

namespace JsonStyle

variable {style : JsonStyle} {level fuel : Nat} {v : Value} {rest : List CodePoint}

/-! ### Tokens -/

lemma isSpace_afterComma (style : JsonStyle) : ∀ c ∈ style.afterComma, isJsonSpace c = true :=
  fun c hc => style.isSpace c (by simp [hc])

lemma isSpace_afterColon (style : JsonStyle) : ∀ c ∈ style.afterColon, isJsonSpace c = true :=
  fun c hc => style.isSpace c (by simp [hc])

/-- Line breaks are blanks. -/
lemma isSpace_lineBreak (style : JsonStyle) (level : Nat) :
    ∀ c ∈ style.lineBreak level, isJsonSpace c = true := by
  have hspace := style.isSpace
  unfold lineBreak
  split
  · simp
  · next indent hindent =>
    rw [hindent] at hspace
    intro c hc
    rw [List.mem_cons, List.mem_flatten] at hc
    rcases hc with rfl | ⟨unit, hunit, hc⟩
    · rfl
    · rw [List.eq_of_mem_replicate hunit] at hc
      exact hspace c (by simp [hc])

lemma skipSpaces_append {spaces : List CodePoint} (h : ∀ c ∈ spaces, isJsonSpace c = true)
    (hrest : ∀ c ∈ rest.head?, isJsonSpace c = false) : skipSpaces (spaces ++ rest) = rest :=
  (takeWhile_dropWhile_iff.mpr ⟨rfl, h, hrest⟩).2

/-- The blanks of JSON are among those that are trimmed. -/
lemma isBlank_of_isJsonSpace {c : CodePoint} (h : isJsonSpace c = true) : isBlank c = true := by
  simp only [isJsonSpace, Bool.or_eq_true, beq_iff_eq] at h
  rcases h with ((rfl | rfl) | rfl) | rfl <;> rfl

/-- Neither spaces nor brackets nor commas go on with a number. -/
lemma stopsNumeral_spaces_append {spaces : List CodePoint} (h : ∀ c ∈ spaces, isJsonSpace c = true)
    (hrest : StopsNumeral rest) : StopsNumeral (spaces ++ rest) := by
  cases spaces with
  | nil => exact hrest
  | cons c spaces =>
    have hc := isBlank_of_isJsonSpace (h c List.mem_cons_self)
    have hblank : StopsNumeral [c] := stopsNumeral_of_blanks (by simpa using hc)
    exact ⟨hblank.digit, hblank.point, hblank.exponent⟩

/-- The marks that follow an item end a numeral. -/
lemma stopsNumeral_mark {c : CodePoint}
    (h : c ∈ [.char ',', .char ']', .char '}']) (rest : List CodePoint) :
    StopsNumeral (c :: rest) := by
  obtain ⟨hdigit, hpoint, hexponent⟩ :
      isDecimalDigit c = false ∧ c ≠ .char '.' ∧ ¬ (c = .char 'e' ∨ c = .char 'E') := by
    simp only [List.mem_cons, List.not_mem_nil, or_false] at h
    rcases h with rfl | rfl | rfl <;> decide
  constructor
  · rintro d ⟨⟩
    exact hdigit
  · rintro d ⟨⟩
    exact hpoint
  · rintro d ⟨⟩
    exact hexponent

/-! ### Words and numbers -/

lemma readWord_number {d : CodePoint} (hd : d.isDigit = true) (negative : Bool)
    (text : List CodePoint) :
    readWord (signed negative (d :: text)) = none := by
  have hne : ∀ c : CodePoint, c.isDigit = false → (c == d) = false := by
    intro c hc
    rw [beq_eq_false_iff_ne]
    rintro rfl
    rw [hd] at hc
    cases hc
  cases negative with
  | true => simp [readWord, words, signed, List.isPrefixOf?, hne]
  | false => simp [readWord, words, signed, List.isPrefixOf?, hne]

/-- What starts like a number is read as a number. -/
lemma readValue_number {negative : Bool} {d : CodePoint} {text : List CodePoint}
    (hd : d.isDigit = true) :
    readValue (fuel + 1) (signed negative (d :: text)) =
      readNumber (signed negative (d :: text)) := by
  have hword := readWord_number hd negative text
  have hhead : ∀ c behind, c.isDigit = false → c ≠ .char '-' →
      signed negative (d :: text) ≠ c :: behind := by
    intro c behind hc hminus heq
    cases negative with
    | true => exact hminus (List.cons.inj heq).1.symm
    | false =>
      rw [← (List.cons.inj heq).1, hd] at hc
      cases hc
  generalize signed negative (d :: text) = number at *
  unfold readValue
  split
  · next heq => cases heq
  · exact absurd rfl (hhead _ _ (by decide) (by decide))
  · exact absurd rfl (hhead _ _ (by decide) (by decide))
  · exact absurd rfl (hhead _ _ (by decide) (by decide))
  · rw [hword]

/-- Whether the text of a value reads back in front of whatever may follow it. -/
def Reads (style : JsonStyle) (v : Value) : Prop :=
  ∀ level fuel rest, (style.write level v).length < fuel → StopsNumeral rest →
    readValue fuel (style.write level v ++ rest) = some (v, rest)

/-- Numbers are read back. -/
lemma reads_float (style : JsonStyle) (x : Binary64) : style.Reads (.float x) := by
  intro level fuel rest hfuel hrest
  obtain ⟨fuel, rfl⟩ := Nat.exists_eq_add_one_of_ne_zero (Nat.ne_zero_of_lt hfuel)
  rw [write]
  cases x with
  | nan => rfl
  | infinite negative => cases negative <;> rfl
  | finite negative size =>
    have hread := readNumber_scriptText negative size hrest
    obtain ⟨d, text, htext, hd⟩ := (isPrinted_magnitudeText size).exists_cons
    rw [Binary64.scriptText, signed_append, htext, List.cons_append] at hread ⊢
    rw [readValue_number hd, hread]

/-- Whole numbers within the limit are read back. -/
lemma reads_int (style : JsonStyle) {n : Int} (h : (decimal n.natAbs).length ≤ maxDigits) :
    style.Reads (.int n) := by
  intro level fuel rest hfuel hrest
  obtain ⟨fuel, rfl⟩ := Nat.exists_eq_add_one_of_ne_zero (Nat.ne_zero_of_lt hfuel)
  have hread := readNumber_intText h hrest
  obtain ⟨d, digits, hdigits⟩ := List.exists_cons_of_ne_nil (isWhole_decimal n.natAbs).ne_nil
  have hd := (isDigits_cons.mp (hdigits ▸ isDigits_decimal n.natAbs)).1
  rw [write]
  rw [intText, signed_append, hdigits, List.cons_append] at hread ⊢
  rw [readValue_number hd, hread]

/-- Texts are read back. -/
lemma reads_text {style : JsonStyle} {s : Text} (h : CanSpell style.ascii s) :
    style.Reads (.text s) := by
  intro level fuel rest hfuel hrest
  obtain ⟨fuel, rfl⟩ := Nat.exists_eq_add_one_of_ne_zero (Nat.ne_zero_of_lt hfuel)
  have hlength := length_add_two_le_spelled style.ascii s
  rw [write] at hfuel ⊢
  rw [spelled_append, readValue, readQuoted_flatMap _ h _ (by omega), Option.map_some]

/-! ### Lists -/

lemma not_isJsonSpace_of_isDigit {c : CodePoint} (h : c.isDigit = true) :
    isJsonSpace c = false := by
  rw [← Bool.not_eq_true]
  intro hspace
  simp only [isJsonSpace, Bool.or_eq_true, beq_iff_eq] at hspace
  rcases hspace with ((rfl | rfl) | rfl) | rfl <;> exact absurd h (by decide)

lemma exists_signed_cons {d : CodePoint} (hd : d.isDigit = true) (negative : Bool)
    (text : List CodePoint) :
    ∃ c behind, signed negative (d :: text) = c :: behind ∧ isJsonSpace c = false ∧
      c ≠ .char ']' := by
  cases negative with
  | true => exact ⟨.char '-', d :: text, rfl, rfl, by decide⟩
  | false =>
    refine ⟨d, text, rfl, not_isJsonSpace_of_isDigit hd, ?_⟩
    rintro rfl
    exact absurd hd (by decide)

/-- The text of a value starts with neither a space nor a closing bracket. -/
lemma exists_write_cons (style : JsonStyle) (level : Nat) (v : Value) :
    ∃ c text, style.write level v = c :: text ∧ isJsonSpace c = false ∧ c ≠ .char ']' := by
  cases v with
  | null => exact ⟨.char 'n', _, rfl, rfl, by decide⟩
  | bool b => cases b <;> exact ⟨_, _, rfl, rfl, by decide⟩
  | int n =>
    obtain ⟨d, digits, hdigits⟩ := List.exists_cons_of_ne_nil (isWhole_decimal n.natAbs).ne_nil
    have hd := (isDigits_cons.mp (hdigits ▸ isDigits_decimal n.natAbs)).1
    rw [write, intText, hdigits]
    exact exists_signed_cons hd _ digits
  | float x =>
    rw [write]
    cases x with
    | nan => exact ⟨.char 'N', _, rfl, rfl, by decide⟩
    | infinite negative => cases negative <;> exact ⟨_, _, rfl, rfl, by decide⟩
    | finite negative size =>
      obtain ⟨d, text, htext, hd⟩ := (isPrinted_magnitudeText size).exists_cons
      rw [Binary64.scriptText, htext]
      exact exists_signed_cons hd _ text
  | text s => exact ⟨.char '"', _, rfl, rfl, by decide⟩
  | list items => cases items <;> exact ⟨.char '[', _, rfl, rfl, by decide⟩
  | object fields => cases fields <;> exact ⟨.char '{', _, rfl, rfl, by decide⟩

/-- A written value starts with no blank. -/
lemma head?_write_append (style : JsonStyle) (level : Nat) (v : Value) (rest : List CodePoint) :
    ∀ c ∈ (style.write level v ++ rest).head?, isJsonSpace c = false := by
  obtain ⟨c, text, hwrite, hc, -⟩ := style.exists_write_cons level v
  rw [hwrite]
  rintro d ⟨⟩
  exact hc

lemma stopsNumeral_writeItems (style : JsonStyle) (level : Nat) (items : List Value)
    (rest : List CodePoint) : StopsNumeral (style.writeItems level items ++ rest) := by
  cases items with
  | nil =>
    rw [writeItems, List.append_assoc]
    exact stopsNumeral_spaces_append (style.isSpace_lineBreak level) (stopsNumeral_mark (by simp) _)
  | cons w items =>
    rw [writeItems]
    exact stopsNumeral_mark (by simp) _

/-- What stands between two items. -/
lemma skipSpaces_behind_comma (style : JsonStyle) (level : Nat)
    (hrest : ∀ c ∈ rest.head?, isJsonSpace c = false) :
    skipSpaces (style.afterComma ++ style.lineBreak level ++ rest) = rest := by
  refine skipSpaces_append (fun c hc => ?_) hrest
  rcases List.mem_append.mp hc with hc | hc
  · exact style.isSpace_afterComma c hc
  · exact style.isSpace_lineBreak level c hc

/-- Written items are read back. -/
lemma readItems_write {items : List Value} (hv : style.Reads v) (h : ∀ w ∈ items, style.Reads w)
    (hfuel : (style.write (level + 1) v).length + (style.writeItems level items).length < fuel) :
    readItems fuel (style.write (level + 1) v ++ (style.writeItems level items ++ rest)) =
      some (v :: items, rest) := by
  -- On the items that follow; each one costs one unit of fuel and at least one character.
  induction items generalizing v fuel with
  | nil =>
    obtain ⟨fuel, rfl⟩ := Nat.exists_eq_add_one_of_ne_zero (Nat.ne_zero_of_lt hfuel)
    have hlength : (style.writeItems level []).length = (style.lineBreak level).length + 1 := by
      rw [writeItems, List.length_append, List.length_singleton]
    have hskip : skipSpaces (style.writeItems level [] ++ rest) = .char ']' :: rest := by
      rw [writeItems, List.append_assoc]
      exact skipSpaces_append (style.isSpace_lineBreak level) (by rintro c ⟨⟩; rfl)
    rw [readItems, hv (level + 1) fuel _ (by omega) (style.stopsNumeral_writeItems level [] rest)]
    dsimp only
    rw [hskip]
    rfl
  | cons w items ih =>
    obtain ⟨fuel, rfl⟩ := Nat.exists_eq_add_one_of_ne_zero (Nat.ne_zero_of_lt hfuel)
    have hlength : (style.write (level + 1) w).length + (style.writeItems level items).length <
        (style.writeItems level (w :: items)).length := by
      simp only [writeItems, List.length_cons, List.length_append]
      omega
    have hcomma : skipSpaces (style.writeItems level (w :: items) ++ rest) =
        .char ',' :: (style.afterComma ++ style.lineBreak (level + 1) ++
          (style.write (level + 1) w ++ (style.writeItems level items ++ rest))) := by
      simp [writeItems, skipSpaces, isJsonSpace]
    have hskip := style.skipSpaces_behind_comma (level + 1)
      (style.head?_write_append (level + 1) w (style.writeItems level items ++ rest))
    rw [readItems, hv (level + 1) fuel _ (by omega) (style.stopsNumeral_writeItems level _ rest)]
    dsimp only
    simp only [hcomma, hskip]
    rw [ih (h w List.mem_cons_self) (fun u hu => h u (List.mem_cons_of_mem w hu)) (by omega)]
    rfl

/-- A list reads back when its items do. -/
lemma reads_list {items : List Value} (h : ∀ v ∈ items, style.Reads v) :
    style.Reads (.list items) := by
  intro level fuel rest hfuel hrest
  obtain ⟨fuel, rfl⟩ := Nat.exists_eq_add_one_of_ne_zero (Nat.ne_zero_of_lt hfuel)
  cases items with
  | nil => rfl
  | cons v items =>
    rw [write] at hfuel ⊢
    rw [List.length_cons, List.length_append, List.length_append] at hfuel
    have hskip := skipSpaces_append (style.isSpace_lineBreak (level + 1))
      (style.head?_write_append (level + 1) v (style.writeItems level items ++ rest))
    have hitems : readItems fuel
        (style.write (level + 1) v ++ (style.writeItems level items ++ rest)) =
          some (v :: items, rest) :=
      readItems_write (h v List.mem_cons_self) (fun w hw => h w (List.mem_cons_of_mem v hw))
        (by omega)
    rw [List.cons_append, List.append_assoc, List.append_assoc, readValue, hskip]
    split
    · next after heq =>
      obtain ⟨c, text, hwrite, -, hbracket⟩ := style.exists_write_cons (level + 1) v
      rw [hwrite, List.cons_append] at heq
      exact absurd (List.cons.inj heq).1 hbracket
    · rw [hitems]
      rfl

/-! ### Objects -/

lemma stopsNumeral_writeFields (style : JsonStyle) (level : Nat) (fields : List (Text × Value))
    (rest : List CodePoint) : StopsNumeral (style.writeFields level fields ++ rest) := by
  cases fields with
  | nil =>
    rw [writeFields, List.append_assoc]
    exact stopsNumeral_spaces_append (style.isSpace_lineBreak level) (stopsNumeral_mark (by simp) _)
  | cons field fields =>
    rw [writeFields]
    exact stopsNumeral_mark (by simp) _

lemma head?_spelled_append (ascii : Bool) (s : Text) (rest : List CodePoint) :
    ∀ c ∈ (spelled ascii s ++ rest).head?, isJsonSpace c = false := by
  rintro c ⟨⟩
  rfl

/-- How an object goes on behind a member: it ends there, or more members follow. -/
def readMembersBehind (fuel : Nat) (member : Text × Value) :
    List CodePoint → Option (List (Text × Value) × List CodePoint)
  | '}' :: after => some ([member], after)
  | ',' :: more => (readMembers fuel (skipSpaces more)).map fun (entries, after) =>
      (member :: entries, after)
  | _ => none

/-- One member is read, and what follows it decides how the object goes on. -/
lemma readMembers_step {k : Text} {behind : List CodePoint} (hk : CanSpell style.ascii k)
    (hv : style.Reads v)
    (hfuel : (spelled style.ascii k).length + (style.write level v).length < fuel + 1)
    (hbehind : StopsNumeral behind) :
    readMembers (fuel + 1) (spelled style.ascii k ++ .char ':' :: (style.afterColon ++
      (style.write level v ++ behind))) = readMembersBehind fuel (k, v) (skipSpaces behind) := by
  have hkey := length_add_two_le_spelled style.ascii k
  have hmark : ∀ text, skipSpaces (.char ':' :: text) = .char ':' :: text := fun _ => rfl
  have hcolon := skipSpaces_append style.isSpace_afterColon
    (style.head?_write_append level v behind)
  have hvalue := hv level fuel behind (by omega) hbehind
  rw [spelled_append, readMembers, readQuoted_flatMap _ hk _ (by omega)]
  simp only [hmark, hcolon, hvalue, Text.ofList_toList]
  rfl

/-- Written fields are read back. -/
lemma readMembers_write {fields : List (Text × Value)} {k : Text} (hk : CanSpell style.ascii k)
    (hv : style.Reads v) (h : ∀ field ∈ fields, CanSpell style.ascii field.1 ∧ style.Reads field.2)
    (hfuel : (spelled style.ascii k).length + (style.write (level + 1) v).length +
      (style.writeFields level fields).length < fuel) :
    readMembers fuel (spelled style.ascii k ++ .char ':' :: (style.afterColon ++
      (style.write (level + 1) v ++ (style.writeFields level fields ++ rest)))) =
      some ((k, v) :: fields, rest) := by
  -- On the fields that follow; each one costs one unit of fuel and at least one character.
  induction fields generalizing k v fuel with
  | nil =>
    obtain ⟨fuel, rfl⟩ := Nat.exists_eq_add_one_of_ne_zero (Nat.ne_zero_of_lt hfuel)
    have hskip : skipSpaces (style.writeFields level [] ++ rest) = .char '}' :: rest := by
      rw [writeFields, List.append_assoc]
      exact skipSpaces_append (style.isSpace_lineBreak level) (by rintro c ⟨⟩; rfl)
    rw [readMembers_step hk hv (by omega) (style.stopsNumeral_writeFields level [] rest), hskip]
    rfl
  | cons field fields ih =>
    obtain ⟨key, w⟩ := field
    obtain ⟨fuel, rfl⟩ := Nat.exists_eq_add_one_of_ne_zero (Nat.ne_zero_of_lt hfuel)
    have hlength : (spelled style.ascii key).length + (style.write (level + 1) w).length +
        (style.writeFields level fields).length <
        (style.writeFields level ((key, w) :: fields)).length := by
      simp only [writeFields, List.length_cons, List.length_append]
      omega
    have hmembers : readMembers fuel (spelled style.ascii key ++ .char ':' :: (style.afterColon ++
        (style.write (level + 1) w ++ (style.writeFields level fields ++ rest)))) =
        some ((key, w) :: fields, rest) :=
      ih (h (key, w) List.mem_cons_self).1 (h (key, w) List.mem_cons_self).2
        (fun u hu => h u (List.mem_cons_of_mem _ hu)) (by omega)
    have hcomma : skipSpaces (style.writeFields level ((key, w) :: fields) ++ rest) =
        .char ',' :: (style.afterComma ++ style.lineBreak (level + 1) ++
          (spelled style.ascii key ++ .char ':' :: (style.afterColon ++
            (style.write (level + 1) w ++ (style.writeFields level fields ++ rest))))) := by
      simp [writeFields, skipSpaces, isJsonSpace]
    rw [readMembers_step hk hv (by omega) (style.stopsNumeral_writeFields level _ rest), hcomma,
      readMembersBehind, style.skipSpaces_behind_comma _ (head?_spelled_append _ _ _), hmembers]
    rfl

/-- An object reads back when its fields do and its keys are distinct. -/
lemma reads_object {fields : Fields}
    (h : ∀ field ∈ fields, CanSpell style.ascii field.1 ∧ style.Reads field.2)
    (hkeys : (fields.map Prod.fst).Nodup) : style.Reads (.object fields) := by
  intro level fuel rest hfuel hrest
  obtain ⟨fuel, rfl⟩ := Nat.exists_eq_add_one_of_ne_zero (Nat.ne_zero_of_lt hfuel)
  cases fields with
  | nil => rfl
  | cons field fields =>
    obtain ⟨k, v⟩ := field
    -- The written members get a name, so that the reader is opened on its brace only.
    obtain ⟨members, hmembers⟩ : ∃ members, members = spelled style.ascii k ++ .char ':' ::
        (style.afterColon ++
          (style.write (level + 1) v ++ (style.writeFields level fields ++ rest))) :=
      ⟨_, rfl⟩
    have htext : style.write level (.object ((k, v) :: fields)) ++ rest =
        .char '{' :: (style.lineBreak (level + 1) ++ members) := by
      simp [write, hmembers]
    have hskip : skipSpaces (style.lineBreak (level + 1) ++ members) = members :=
      skipSpaces_append (style.isSpace_lineBreak _) (hmembers ▸ head?_spelled_append _ _ _)
    have hread : readMembers fuel members = some ((k, v) :: fields, rest) := by
      rw [hmembers]
      refine readMembers_write (h (k, v) List.mem_cons_self).1 (h (k, v) List.mem_cons_self).2
        (fun w hw => h w (List.mem_cons_of_mem _ hw)) ?_
      simp only [write, List.length_cons, List.length_append] at hfuel
      omega
    rw [htext, readValue, hskip]
    split
    · rw [spelled_append] at hmembers
      cases hmembers
    · rw [hread, Option.map_some]
      dsimp only
      rw [Fields.ofEntries_of_nodup hkeys]

end JsonStyle

/-! ### Values -/

/-- The values that JSON text stands for: the keys of every object in them are distinct, no whole
number has too many digits, and where characters are escaped, all of them are characters. -/
structure Value.Writable (ascii : Bool) (v : Value) : Prop where
  keys : ∀ fields, v.Holds (.object fields) → (fields.map Prod.fst).Nodup
  /-- Whole numbers have digits up to the limit. -/
  digits : ∀ n, v.Holds (.int n) → (decimal n.natAbs).length ≤ maxDigits
  encodable : ascii = true → v.IsEncodable

namespace Value

variable {v : Value} {items : List Value} {fields : Fields} {style : JsonStyle} {ascii : Bool}

@[simp] lemma writable_null : Value.null.Writable ascii := ⟨nofun, nofun, by simp⟩

@[simp] lemma writable_bool (b : Bool) : (Value.bool b).Writable ascii := ⟨nofun, nofun, by simp⟩

@[simp] lemma writable_float (x : Binary64) : (Value.float x).Writable ascii :=
  ⟨nofun, nofun, by simp⟩

@[simp] lemma writable_text {s : Text} : (Value.text s).Writable ascii ↔ CanSpell ascii s := by
  constructor
  · exact fun h hascii => isEncodable_text.mp (h.encodable hascii)
  · exact fun h => ⟨nofun, nofun, fun hascii => isEncodable_text.mpr (h hascii)⟩

/-- A whole number is writable within the limit of digits. -/
@[simp] lemma writable_int {n : Int} :
    (Value.int n).Writable ascii ↔ (decimal n.natAbs).length ≤ maxDigits := by
  constructor
  · intro h
    exact h.digits n (.self _)
  · intro h
    refine ⟨nofun, ?_, by simp⟩
    rintro _ ⟨⟩
    exact h

/-- A list is writable when its items are. -/
@[simp] lemma writable_list :
    (Value.list items).Writable ascii ↔ ∀ v ∈ items, v.Writable ascii := by
  constructor
  · intro h v hv
    exact ⟨fun fields hf => h.keys fields (.item hv hf), fun n hn => h.digits n (.item hv hn),
      fun hascii => isEncodable_list.mp (h.encodable hascii) v hv⟩
  · intro h
    constructor
    · intro fields hfields
      cases hfields with
      | item hv hf => exact (h _ hv).keys fields hf
    · intro n hnumber
      cases hnumber with
      | item hv hn => exact (h _ hv).digits n hn
    · exact fun hascii => isEncodable_list.mpr fun v hv => (h v hv).encodable hascii

/-- An object is writable when its keys are distinct and can be spelled and its values are
writable. -/
@[simp] lemma writable_object : (Value.object fields).Writable ascii ↔
    (fields.map Prod.fst).Nodup ∧
      ∀ field ∈ fields, CanSpell ascii field.1 ∧ field.2.Writable ascii := by
  constructor
  · intro h
    refine ⟨h.keys fields (.self _), fun field hfield => ?_⟩
    have hparts (hascii : ascii = true) := isEncodable_object.mp (h.encodable hascii) field hfield
    exact ⟨fun hascii => (hparts hascii).1, fun inner hf => h.keys inner (.field hfield hf),
      fun n hn => h.digits n (.field hfield hn), fun hascii => (hparts hascii).2⟩
  · intro ⟨hkeys, hfields⟩
    constructor
    · intro inner hinner
      cases hinner with
      | self => exact hkeys
      | field hv hf => exact (hfields _ hv).2.keys inner hf
    · intro n hnumber
      cases hnumber with
      | field hv hn => exact (hfields _ hv).2.digits n hn
    · exact fun hascii => isEncodable_object.mpr fun field hfield =>
        ⟨(hfields field hfield).1 hascii, (hfields field hfield).2.encodable hascii⟩

/-- What is written for a value reads back as the value. -/
lemma Writable.reads : ∀ {v : Value}, v.Writable style.ascii → style.Reads v
  | .null, _ => by
    intro level fuel rest hfuel hrest
    obtain ⟨fuel, rfl⟩ := Nat.exists_eq_add_one_of_ne_zero (Nat.ne_zero_of_lt hfuel)
    rfl
  | .bool b, _ => by
    intro level fuel rest hfuel hrest
    obtain ⟨fuel, rfl⟩ := Nat.exists_eq_add_one_of_ne_zero (Nat.ne_zero_of_lt hfuel)
    cases b <;> rfl
  | .int n, h => style.reads_int (writable_int.mp h)
  | .float x, _ => style.reads_float x
  | .text s, h => JsonStyle.reads_text (writable_text.mp h)
  | .list items, h => JsonStyle.reads_list fun v hv => (writable_list.mp h v hv).reads
  | .object fields, h =>
    JsonStyle.reads_object
      (fun field hfield => ((writable_object.mp h).2 field hfield).imp_right Writable.reads)
      (writable_object.mp h).1
termination_by v => sizeOf v
decreasing_by
  · have hsize := List.sizeOf_lt_of_mem hv
    simp only [list.sizeOf_spec]
    omega
  · have hsize := List.sizeOf_lt_of_mem hfield
    obtain ⟨k, w⟩ := field
    simp only [object.sizeOf_spec, Prod.mk.sizeOf_spec] at hsize ⊢
    omega

/-- JSON text in any style reads back as the value that is written. -/
lemma ofJson?_write (h : v.Writable style.ascii) (level : Nat) :
    ofJson? (style.write level v) = some v := by
  have hspaces : skipSpaces (style.write level v) = style.write level v := by
    obtain ⟨c, text, hwrite, hc, -⟩ := style.exists_write_cons level v
    rw [hwrite, skipSpaces, List.dropWhile_cons_of_neg (by simp [hc])]
  have hread := h.reads level (2 * (style.write level v).length + 2) [] (by omega)
    stopsNumeral_nil
  rw [List.append_nil] at hread
  unfold ofJson?
  rw [hspaces, hread]
  rfl

/-! ### Recognition -/

lemma suffix_writeItems (style : JsonStyle) (level : Nat) (items : List Value) :
    [.char ']'] <:+ style.writeItems level items := by
  induction items with
  | nil => exact List.suffix_append _ _
  | cons v items ih =>
    refine ih.trans ?_
    rw [JsonStyle.writeItems]
    exact ((List.suffix_append _ _).trans (List.suffix_append _ _)).trans (List.suffix_cons _ _)

lemma suffix_member (style : JsonStyle) (level : Nat) (k : Text) (v : Value)
    (behind : List CodePoint) : behind <:+ spelled style.ascii k ++ .char ':' ::
      (style.afterColon ++ (style.write level v ++ behind)) := by
  have hvalue : behind <:+ style.afterColon ++ (style.write level v ++ behind) :=
    (List.suffix_append _ _).trans (List.suffix_append _ _)
  exact (hvalue.trans (List.suffix_cons _ _)).trans (List.suffix_append _ _)

lemma suffix_writeFields (style : JsonStyle) (level : Nat) (fields : List (Text × Value)) :
    [.char '}'] <:+ style.writeFields level fields := by
  induction fields with
  | nil => exact List.suffix_append _ _
  | cons field fields ih =>
    obtain ⟨k, v⟩ := field
    refine (ih.trans (suffix_member style (level + 1) k v _)).trans ?_
    rw [JsonStyle.writeFields]
    exact (List.suffix_append _ _).trans (List.suffix_cons _ _)

/-- A list is written in brackets. -/
lemma exists_write_list (style : JsonStyle) (level : Nat) (items : List Value) :
    ∃ text, style.write level (.list items) = .char '[' :: text ∧ [.char ']'] <:+ text := by
  cases items with
  | nil => exact ⟨[.char ']'], rfl, List.suffix_rfl⟩
  | cons v items =>
    refine ⟨_, by rw [JsonStyle.write], ?_⟩
    exact ((suffix_writeItems style level items).trans (List.suffix_append _ _)).trans
      (List.suffix_append _ _)

/-- An object is written in braces. -/
lemma exists_write_object (style : JsonStyle) (level : Nat) (fields : Fields) :
    ∃ text, style.write level (.object fields) = .char '{' :: text ∧ [.char '}'] <:+ text := by
  cases fields with
  | nil => exact ⟨[.char '}'], rfl, List.suffix_rfl⟩
  | cons field fields =>
    obtain ⟨k, v⟩ := field
    refine ⟨_, by rw [JsonStyle.write], ?_⟩
    exact ((suffix_writeFields style level fields).trans (suffix_member style _ k v _)).trans
      (List.suffix_append _ _)

/-- Text in brackets or braces that reads as JSON is recognised with any blanks around it. -/
lemma looksLikeJson_of_ofJson? {opening closing : CodePoint} {text before after : List CodePoint}
    (hmarks : opening = '[' ∧ closing = ']' ∨ opening = '{' ∧ closing = '}')
    (hclosing : [closing] <:+ text) (hread : (ofJson? (opening :: text)).isSome)
    (hbefore : ∀ c ∈ before, isBlank c = true) (hafter : ∀ c ∈ after, isBlank c = true) :
    looksLikeJson (Text.ofList (before ++ (opening :: text ++ after))) = true := by
  have hlast : (opening :: text).getLast? = some closing := by
    obtain ⟨inner, rfl⟩ := hclosing
    rw [← List.cons_append]
    exact List.getLast?_concat
  have hblank : isBlank opening = false ∧ isBlank closing = false := by
    rcases hmarks with ⟨rfl, rfl⟩ | ⟨rfl, rfl⟩ <;> decide
  have htrim : trim (before ++ (opening :: text ++ after)) = opening :: text := by
    rw [trim_blanks_append hbefore, trim_append_blanks hafter]
    refine trim_eq_self ?_ ?_
    · rintro c ⟨⟩
      exact hblank.1
    · intro c hc
      rw [hlast] at hc
      cases hc
      exact hblank.2
  unfold looksLikeJson
  rw [Text.toList_ofList, htrim]
  dsimp only
  rw [hlast, hread, Bool.and_true]
  rcases hmarks with ⟨rfl, rfl⟩ | ⟨rfl, rfl⟩ <;> rfl

/-- Lists and objects are recognised in whatever style they are written. -/
lemma looksLikeJson_write (h : v.Writable style.ascii)
    (hv : v.isList = true ∨ v.isObject = true) {before after : List CodePoint}
    (hbefore : ∀ c ∈ before, isBlank c = true) (hafter : ∀ c ∈ after, isBlank c = true) :
    looksLikeJson (Text.ofList (before ++ (style.write 0 v ++ after))) = true := by
  have hread := ofJson?_write h 0
  cases v with
  | list items =>
    obtain ⟨text, hwrite, hclosing⟩ := exists_write_list style 0 items
    rw [hwrite] at hread ⊢
    exact looksLikeJson_of_ofJson? (.inl ⟨rfl, rfl⟩) hclosing (by rw [hread]; rfl) hbefore hafter
  | object fields =>
    obtain ⟨text, hwrite, hclosing⟩ := exists_write_object style 0 fields
    rw [hwrite] at hread ⊢
    exact looksLikeJson_of_ofJson? (.inr ⟨rfl, rfl⟩) hclosing (by rw [hread]; rfl) hbefore hafter
  | _ => rcases hv with hv | hv <;> cases hv

end Value

end TripProposal
