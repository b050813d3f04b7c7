/-!
# Texts of code points

A text is a sequence of code points. Escapes in JSON name code points one by one, so a text can
hold half of a surrogate pair, which stands for no character and has no UTF-8 bytes. Literals
stand for the texts of their characters.
-/

namespace TripProposal

/-- A code point: a character, or a surrogate by its distance from `U+D800`. -/
inductive CodePoint where
  | char (c : Char)
  | surrogate (n : Fin 2048)
deriving DecidableEq, Repr, Inhabited

namespace CodePoint

instance : Coe Char CodePoint := ⟨char⟩

/-- The number of a code point. -/
def toNat : CodePoint → Nat
  | char c => c.toNat
  | surrogate n => 0xD800 + n

/-- The code point of a number, `U+0000` beyond the last one. -/
def ofNat (n : Nat) : CodePoint :=
  if h : 0xD800 ≤ n ∧ n < 0xE000 then surrogate ⟨n - 0xD800, by omega⟩ else char (Char.ofNat n)

/-- The character of a code point that is one. -/
def char? : CodePoint → Option Char
  | char c => some c
  | surrogate _ => none

/-- Whether a code point is a character. -/
def isChar (c : CodePoint) : Bool := c.char?.isSome

instance : LE CodePoint := ⟨fun a b => a.toNat ≤ b.toNat⟩

instance (a b : CodePoint) : Decidable (a ≤ b) :=
  inferInstanceAs (Decidable (a.toNat ≤ b.toNat))

@[simp] theorem toNat_char (c : Char) : (char c).toNat = c.toNat := rfl

@[simp] theorem toNat_surrogate (n : Fin 2048) : (surrogate n).toNat = 0xD800 + n := rfl

/-- The number of a character is none of a surrogate. -/
theorem toNat_char_apart (c : Char) : c.toNat < 0xD800 ∨ 0xDFFF < c.toNat ∧ c.toNat < 0x110000 :=
  c.valid

theorem toNat_inj {a b : CodePoint} : a.toNat = b.toNat ↔ a = b := by
  refine ⟨fun h => ?_, congrArg toNat⟩
  cases a with
  | char c =>
    have hc := toNat_char_apart c
    cases b with
    | char d => exact congrArg char (Char.toNat_inj.mp h)
    | surrogate n =>
      rw [toNat_char, toNat_surrogate] at h
      omega
  | surrogate m =>
    cases b with
    | char d =>
      have hd := toNat_char_apart d
      rw [toNat_char, toNat_surrogate] at h
      omega
    | surrogate n => exact congrArg surrogate (Fin.ext (Nat.add_left_cancel h))

@[simp] theorem ofNat_toNat (c : CodePoint) : ofNat c.toNat = c := by
  cases c with
  | char c =>
    have hc := toNat_char_apart c
    rw [toNat_char, ofNat, dif_neg (by omega), Char.ofNat_toNat]
  | surrogate n =>
    rw [toNat_surrogate, ofNat, dif_pos (by omega)]
    exact congrArg surrogate (Fin.ext (Nat.add_sub_cancel_left ..))

@[simp] theorem isChar_char (c : Char) : (char c).isChar = true := rfl

/-- The code points that are characters are the numbers outside of the surrogates. -/
theorem isChar_iff {c : CodePoint} : c.isChar = true ↔ c.toNat < 0xD800 ∨ 0xDFFF < c.toNat := by
  cases c with
  | char c =>
    have hc := toNat_char_apart c
    exact Iff.intro (fun _ => hc.imp_right And.left) (fun _ => rfl)
  | surrogate n =>
    refine Iff.intro (fun h => Bool.noConfusion h) fun h => ?_
    rw [toNat_surrogate] at h
    omega

theorem toNat_lt (c : CodePoint) : c.toNat < 0x110000 := by
  cases c with
  | char c =>
    have hc := toNat_char_apart c
    rw [toNat_char]
    omega
  | surrogate n =>
    rw [toNat_surrogate]
    omega

/-! ### Letters and digits of ASCII -/

/-- Whether a code point is a digit from `0` to `9`. -/
def isDigit (c : CodePoint) : Bool := 48 ≤ c.toNat && c.toNat ≤ 57

/-- Whether a code point is a letter from `A` to `Z`. -/
def isUpper (c : CodePoint) : Bool := 65 ≤ c.toNat && c.toNat ≤ 90

/-- Whether a code point is a letter from `a` to `z`. -/
def isLower (c : CodePoint) : Bool := 97 ≤ c.toNat && c.toNat ≤ 122

@[simp] theorem isDigit_char (c : Char) : (char c).isDigit = c.isDigit := by
  rw [Bool.eq_iff_iff, isDigit, Char.isDigit]
  simp only [Bool.and_eq_true, decide_eq_true_eq]
  exact Iff.rfl

def isAlpha (c : CodePoint) : Bool := c.isUpper || c.isLower

def isAlphanum (c : CodePoint) : Bool := c.isAlpha || c.isDigit

/-- The small form of a letter from `A` to `Z`; other code points stay. -/
def toLower (c : CodePoint) : CodePoint := if c.isUpper then ofNat (c.toNat + 32) else c

end CodePoint

end TripProposal

/-- The code points of a literal. -/
@[simp] def String.codePoints (s : String) : List TripProposal.CodePoint := s.toList.map .char

namespace TripProposal

/-- A text, as the list of its code points. -/
structure Text where
  ofList ::
  toList : List CodePoint
deriving DecidableEq, Repr, Inhabited

namespace Text

/-- The text of a string of characters. -/
def ofString (s : String) : Text := ofList s.codePoints

instance : Coe String Text := ⟨ofString⟩

protected def append (s t : Text) : Text := ofList (s.toList ++ t.toList)

instance : Append Text := ⟨Text.append⟩

protected def length (s : Text) : Nat := s.toList.length

protected def isEmpty (s : Text) : Bool := s.toList.isEmpty

/-- The texts one behind another. -/
protected def join (texts : List Text) : Text := ofList (texts.map toList).flatten

/-- The texts one behind another, with a separator between neighbours. -/
protected def intercalate (sep : Text) (texts : List Text) : Text :=
  ofList (sep.toList.intercalate (texts.map toList))

/-- Whether all code points of a text are characters, so that it has UTF-8 bytes. -/
protected def isEncodable (s : Text) : Bool := s.toList.all CodePoint.isChar

@[simp] theorem toList_ofList (cs : List CodePoint) : (ofList cs).toList = cs := rfl

@[simp] theorem ofList_toList (s : Text) : ofList s.toList = s := rfl

theorem toList_inj {s t : Text} : s.toList = t.toList ↔ s = t :=
  ⟨fun h => congrArg ofList h, congrArg toList⟩

theorem toList_injective : Function.Injective toList := fun _ _ => congrArg ofList

theorem ofList_inj {a b : List CodePoint} : ofList a = ofList b ↔ a = b :=
  ⟨Text.ofList.inj, congrArg ofList⟩

@[simp] theorem ofList_nil : ofList [] = ofString "" := rfl

@[simp] theorem ofList_eq_empty_iff {cs : List CodePoint} : ofList cs = ofString "" ↔ cs = [] :=
  ofList_inj

theorem toList_eq_nil_iff {s : Text} : s.toList = [] ↔ s = ofString "" :=
  toList_inj (t := ofString "")

@[simp] theorem toList_append (s t : Text) : (s ++ t).toList = s.toList ++ t.toList := rfl

theorem ofList_append (a b : List CodePoint) : ofList (a ++ b) = ofList a ++ ofList b := rfl

theorem append_assoc (s t u : Text) : s ++ t ++ u = s ++ (t ++ u) :=
  toList_inj.mp (List.append_assoc ..)

@[simp] theorem empty_append (s : Text) : ofString "" ++ s = s := rfl

@[simp] theorem join_nil : Text.join [] = ofString "" := rfl

@[simp] theorem join_cons (s : Text) (texts : List Text) :
    Text.join (s :: texts) = s ++ Text.join texts := rfl

@[simp] theorem join_append (texts texts' : List Text) :
    Text.join (texts ++ texts') = Text.join texts ++ Text.join texts' := by
  simp [Text.join, ← ofList_append]

@[simp] theorem length_toList (s : Text) : s.toList.length = s.length := rfl

@[simp] theorem toList_ofString (s : String) : (ofString s).toList = s.codePoints := rfl

@[simp] theorem ofString_inj {s t : String} : ofString s = ofString t ↔ s = t := by
  refine ⟨fun h => ?_, congrArg ofString⟩
  have hchars : List.map CodePoint.char s.toList = List.map CodePoint.char t.toList :=
    Text.ofList.inj h
  exact String.toList_inj.mp (List.map_inj_right (fun _ _ => CodePoint.char.inj) |>.mp hchars)

end Text

end TripProposal
