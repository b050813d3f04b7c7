import TripProposal.Proofs.Template.Faults
import TripProposal.Proofs.Template.PlainData

/-!
# What templates weigh

The body of a block stands behind its opener. So it weighs less than the template, provided that an
opener weighs something and parts weigh no more than the whole. What a loop writes into its body must
not weigh more than the markers that it replaces. Three such weights are the number of opening
delimiters, the number of closing ones and the number of hashes.
-/

namespace TripProposal

open Text Number

/-- Every text in a value and every key has a property. -/
structure Value.EachText (p : List CodePoint → Prop) (data : Value) : Prop where
  texts : ∀ s, data.Holds (.text s) → p s.toList
  keys : ∀ fields, data.Holds (.object fields) → ∀ key v, (key, v) ∈ fields → p key.toList

namespace Template

/-! ### Doubled characters -/

/-- How often a character follows itself in a text. -/
def doubles (c : CodePoint) : List CodePoint → Nat
  | d :: e :: rest => (if d = c ∧ e = c then 1 else 0) + doubles c (e :: rest)
  | _ => 0

section Doubles

variable {c : CodePoint} {a b : List CodePoint}

@[simp] lemma doubles_nil (c : CodePoint) : doubles c [] = 0 := rfl

@[simp] lemma doubles_singleton (c d : CodePoint) : doubles c [d] = 0 := rfl

@[simp] lemma doubles_cons_cons (c d e : CodePoint) (rest : List CodePoint) :
    doubles c (d :: e :: rest) = (if d = c ∧ e = c then 1 else 0) + doubles c (e :: rest) := rfl

/-- A text is cut at the character, which belongs to both parts. -/
lemma doubles_append_cons (c : CodePoint) (a b : List CodePoint) :
    doubles c (a ++ c :: b) = doubles c (a ++ [c]) + doubles c (c :: b) := by
  induction a with
  | nil => simp
  | cons d a ih =>
    cases a with
    | nil => simp
    | cons e a => simpa [Nat.add_assoc] using ih

/-- Between two texts there are no more pairs than with the character behind the first one. -/
lemma doubles_append_le (c : CodePoint) (a b : List CodePoint) :
    doubles c (a ++ b) ≤ doubles c (a ++ [c]) + doubles c b := by
  induction a with
  | nil => simp
  | cons d a ih =>
    cases a with
    | nil =>
      cases b with
      | nil => simp
      | cons e b =>
        simp only [List.cons_append, List.nil_append, doubles_cons_cons, doubles_singleton]
        split <;> split <;> simp_all
    | cons e a =>
      simp only [List.cons_append, doubles_cons_cons] at ih ⊢
      omega

/-- Between two texts there are no more pairs than with the character in front of the second. -/
lemma doubles_append_le_cons (c : CodePoint) (a b : List CodePoint) :
    doubles c (a ++ b) ≤ doubles c a + doubles c (c :: b) := by
  induction a with
  | nil => cases b <;> simp
  | cons d a ih =>
    cases a with
    | nil =>
      cases b with
      | nil => simp
      | cons e b =>
        simp only [List.cons_append, List.nil_append, doubles_cons_cons, doubles_singleton]
        split <;> split <;> simp_all
    | cons e a =>
      simp only [List.cons_append, doubles_cons_cons] at ih ⊢
      omega

/-- Pairs inside the parts are pairs of the whole. -/
lemma le_doubles_append (c : CodePoint) (a b : List CodePoint) :
    doubles c a + doubles c b ≤ doubles c (a ++ b) := by
  induction a with
  | nil => simp
  | cons d a ih =>
    cases a with
    | nil => cases b <;> simp
    | cons e a =>
      simp only [List.cons_append, doubles_cons_cons] at ih ⊢
      omega

/-- Between two texts, one that starts with the character lets none of its pairs be lost. -/
lemma le_doubles_insert_cons (c : CodePoint) (front a rest : List CodePoint) :
    doubles c (front ++ [c]) + (doubles c (c :: a) + doubles c rest) ≤
      doubles c (front ++ (c :: a ++ rest)) := by
  have hle := le_doubles_append c (c :: a) rest
  have hcut := doubles_append_cons c front (a ++ rest)
  rw [List.cons_append] at hle ⊢
  omega

/-- Between two texts, one that ends with the character lets none of its pairs be lost. -/
lemma le_doubles_insert_concat (c : CodePoint) (front a rest : List CodePoint) :
    doubles c front + (doubles c (a ++ [c]) + doubles c (c :: rest)) ≤
      doubles c (front ++ (a ++ [c] ++ rest)) := by
  have hle := le_doubles_append c front (a ++ [c])
  have hcut := doubles_append_cons c (front ++ a) rest
  simp only [List.append_assoc, List.cons_append, List.nil_append] at hle hcut ⊢
  omega

lemma doubles_of_notMem (h : c ∉ a) : doubles c a = 0 := by
  induction a with
  | nil => rfl
  | cons d a ih =>
    rw [List.mem_cons, not_or] at h
    cases a with
    | nil => rfl
    | cons e a => simp [ih h.2, Ne.symm h.1]

/-- There are no more pairs than characters. -/
lemma doubles_le_length (c : CodePoint) (a : List CodePoint) : doubles c a ≤ a.length := by
  induction a with
  | nil => exact Nat.le_refl 0
  | cons d a ih =>
    cases a with
    | nil => exact Nat.zero_le 1
    | cons e a =>
      rw [doubles_cons_cons, List.length_cons]
      split <;> omega

end Doubles

/-! ### Texts that bring back no more than they replace -/

/-- A text opens at most one tag, even when a brace follows it. -/
def OpensOnce (text : List CodePoint) : Prop := doubles '{' (text ++ [.char '{']) ≤ 1

/-- A text closes at most one tag, even when a brace is in front of it. -/
def ClosesOnce (text : List CodePoint) : Prop := doubles '}' ('}' :: text) ≤ 1

/-- A text opens no block, whatever it stands next to. -/
def OpensNoBlock (text : List CodePoint) : Prop := CodePoint.char '#' ∉ text

instance : DecidablePred OpensOnce := fun text =>
  inferInstanceAs (Decidable (doubles '{' (text ++ [.char '{']) ≤ 1))

instance : DecidablePred ClosesOnce := fun text =>
  inferInstanceAs (Decidable (doubles '}' ('}' :: text) ≤ 1))

instance : DecidablePred OpensNoBlock := fun text =>
  inferInstanceAs (Decidable (CodePoint.char '#' ∉ text))

variable {text body content expression : List CodePoint} {kind : BlockKind}

/-- Numbers and words have no braces. -/
lemma opensOnce_of_isBasic (h : IsBasic text) : OpensOnce text := by
  have hmem : CodePoint.char '{' ∉ text := (isPlain_of_isBasic h).1
  have hle := doubles_append_le_cons '{' text [.char '{']
  rw [doubles_of_notMem hmem] at hle
  exact hle

lemma closesOnce_of_isBasic (h : IsBasic text) : ClosesOnce text := by
  have hmem : CodePoint.char '}' ∉ text := (isPlain_of_isBasic h).2
  have hle := doubles_append_le '}' [.char '}'] text
  rw [doubles_of_notMem hmem] at hle
  exact hle

lemma opensNoBlock_of_isBasic (h : IsBasic text) : OpensNoBlock text :=
  fun hmem => (h '#' hmem).2 rfl

/-- A tag has a pair of opening braces. -/
lemma pos_doubles_open (content : List CodePoint) : 0 < doubles '{' (delimited content) := by
  rw [delimited_eq_cons, doubles_cons_cons, if_pos ⟨rfl, rfl⟩]
  omega

lemma pos_doubles_close (content : List CodePoint) : 0 < doubles '}' (delimited content) := by
  have hle := le_doubles_append '}' (openMark ++ content) closeMark
  have hclose : doubles '}' closeMark = 1 := rfl
  rw [delimited]
  omega

/-- A tag that opens a block has a hash. -/
lemma hash_mem_of_parse (h : Tag.parse content = .block kind expression) :
    CodePoint.char '#' ∈ content := by
  have hspelled := (Tag.parse_eq_iff (by simp)).mp h
  cases hspelled
  simp

/-- A block stands in a template behind its opener. -/
lemma exists_of_block_mem_segments (h : .block kind expression body ∈ segments text) :
    ∃ before content after, text = before ++ (delimited content ++ (body ++ after)) ∧
      Tag.parse (trim content) = .block kind expression := by
  fun_induction segments text with
  | case1 text ho => simp at h
  | case2 text before tail ho hc => simp at h
  | case3 text before tail ho content rest hc _ ihRest ihBehind =>
    have htext : text = before ++ (delimited content ++ rest) := by
      rw [cut?_eq_some_append ho, cut?_eq_some_append hc]
      simp [delimited]
    -- What stands in a part of the rest stands in the template.
    have hlater (skipped later : List CodePoint) (hrest : rest = skipped ++ later)
        (h : ∃ before content after, later = before ++ (delimited content ++ (body ++ after)) ∧
          Tag.parse (trim content) = .block kind expression) :
        ∃ before content after, text = before ++ (delimited content ++ (body ++ after)) ∧
          Tag.parse (trim content) = .block kind expression := by
      obtain ⟨between, content', after, rfl, htag⟩ := h
      refine ⟨before ++ (delimited content ++ (skipped ++ between)), content', after, ?_, htag⟩
      rw [htext, hrest]
      simp
    have hnext (hm : .block kind expression body ∈ segments rest) := hlater [] rest rfl (ihRest hm)
    rcases List.mem_cons.mp h with h | h
    · cases h
    · split at h
      · next kind' expression' htag =>
        split at h
        · exact hnext ((List.mem_cons.mp h).resolve_left nofun)
        · next n _ =>
          rcases List.mem_cons.mp h with heq | h
          · cases heq
            exact ⟨before, content, rest.drop n, by rw [htext, List.take_append_drop], htag⟩
          · exact hlater _ _ (List.take_append_drop _ rest).symm (ihBehind kind' n h)
      · exact hnext ((List.mem_cons.mp h).resolve_left nofun)
      · exact hnext ((List.mem_cons.mp h).resolve_left nofun)
      · exact hnext ((List.mem_cons.mp h).resolve_left nofun)

/-- If replacing one occurrence of a pattern makes a text no heavier, whatever stands around it,
then replacing all of them does not either. -/
lemma weigh_replaceAll_le (weigh : List CodePoint → Nat) {pattern replacement : List CodePoint}
    (hne : pattern ≠ []) (hstep : ∀ front rest rest',
      (∀ front, weigh (front ++ rest') ≤ weigh (front ++ rest)) →
      weigh (front ++ (replacement ++ rest')) ≤ weigh (front ++ (pattern ++ rest)))
    (front text : List CodePoint) :
    weigh (front ++ replaceAll pattern replacement text) ≤ weigh (front ++ text) := by
  induction hlength : text.length using Nat.strong_induction_on generalizing front text with
  | _ n ih =>
    cases text with
    | nil => exact Nat.le_refl _
    | cons c rest =>
      cases hp : pattern.isPrefixOf (c :: rest) with
      | true =>
        obtain ⟨behind, hbehind⟩ := List.isPrefixOf_iff_prefix.mp hp
        have hpos := List.length_pos_iff.mpr hne
        have hshorter : behind.length < n := by
          rw [← hlength, ← hbehind, List.length_append]
          omega
        rw [← hbehind, replaceAll, replaceFrom_append_self hne]
        exact hstep front behind _ fun front => ih _ hshorter front behind rfl
      | false =>
        rw [replaceAll, replaceFrom_cons_of_not hp]
        have hrest := ih rest.length (by simp [← hlength]) (front ++ [c]) rest rfl
        simpa [replaceAll] using hrest

lemma delimited_eq_concat (content : List CodePoint) :
    delimited content = openMark ++ content ++ [.char '}'] ++ [.char '}'] := by
  simp [delimited, closeMark]

lemma delimited_ne_nil (content : List CodePoint) : delimited content ≠ [] := by
  simp [delimited_eq_cons]

/-- A text that opens once makes no new pairs, since the braces around the marker were a pair. -/
lemma OpensOnce.replaceAll_le {replacement : List CodePoint} (h : OpensOnce replacement)
    (word text : List CodePoint) :
    doubles '{' (replaceAll (delimited word) replacement text) ≤ doubles '{' text := by
  refine weigh_replaceAll_le (doubles '{') (delimited_ne_nil word)
    (fun front rest rest' hrest => ?_) [] text
  have hpos := pos_doubles_open word
  have hmarker := le_doubles_insert_cons '{' front ('{' :: (word ++ closeMark)) rest
  rw [← delimited_eq_cons] at hmarker
  calc doubles '{' (front ++ (replacement ++ rest'))
    _ ≤ doubles '{' (front ++ [.char '{']) + doubles '{' (replacement ++ rest') :=
        doubles_append_le '{' _ _
    _ ≤ doubles '{' (front ++ [.char '{']) +
        (doubles '{' (replacement ++ [.char '{']) + doubles '{' rest') :=
        Nat.add_le_add_left (doubles_append_le '{' _ _) _
    _ ≤ doubles '{' (front ++ [.char '{']) + (doubles '{' (delimited word) + doubles '{' rest) :=
        Nat.add_le_add_left (Nat.add_le_add (h.trans hpos) (hrest [])) _
    _ ≤ doubles '{' (front ++ (delimited word ++ rest)) := hmarker

/-- The same holds for closing braces. -/
lemma ClosesOnce.replaceAll_le {replacement : List CodePoint} (h : ClosesOnce replacement)
    (word text : List CodePoint) :
    doubles '}' (replaceAll (delimited word) replacement text) ≤ doubles '}' text := by
  refine weigh_replaceAll_le (doubles '}') (delimited_ne_nil word)
    (fun front rest rest' hrest => ?_) [] text
  have hpos := pos_doubles_close word
  have hmarker := le_doubles_insert_concat '}' front (openMark ++ word ++ [.char '}']) rest
  rw [← delimited_eq_concat] at hmarker
  calc doubles '}' (front ++ (replacement ++ rest'))
    _ ≤ doubles (.char '}') front + doubles (.char '}') (.char '}' :: replacement ++ rest') :=
        doubles_append_le_cons '}' _ _
    _ ≤ doubles '}' front + (doubles '}' ('}' :: replacement) + doubles '}' ('}' :: rest')) :=
        Nat.add_le_add_left (doubles_append_le_cons '}' _ _) _
    _ ≤ doubles '}' front + (doubles '}' (delimited word) + doubles '}' ('}' :: rest)) :=
        Nat.add_le_add_left (Nat.add_le_add (h.trans hpos) (hrest [.char '}'])) _
    _ ≤ doubles '}' (front ++ (delimited word ++ rest)) := hmarker

/-- A text that opens no block brings no number signs. -/
lemma OpensNoBlock.replaceAll_le {replacement : List CodePoint} (h : OpensNoBlock replacement)
    (word text : List CodePoint) :
    (replaceAll (delimited word) replacement text).count (.char '#') ≤ text.count (.char '#') := by
  refine weigh_replaceAll_le (List.count (.char '#')) (delimited_ne_nil word)
    (fun front rest rest' hrest => ?_) [] text
  have hrest := hrest []
  have hnone : replacement.count (.char '#') = 0 := List.count_eq_zero.mpr h
  simp only [List.nil_append, List.count_append] at hrest ⊢
  omega

/-! ### Weights -/

/-- A weight of templates that openers of blocks add to, and the texts that are light enough to
replace a marker. -/
structure Weight where
  weigh : List CodePoint → Nat
  /-- Whether a text weighs no more than a marker, wherever it stands. -/
  Light : List CodePoint → Prop
  append_le : ∀ a b, weigh a + weigh b ≤ weigh (a ++ b)
  /-- An opener weighs something. -/
  pos_of_parse : ∀ {content kind expression}, Tag.parse (trim content) = .block kind expression →
    0 < weigh (delimited content)
  /-- Light texts in place of a marker make nothing heavier. -/
  replaceAll_le : ∀ {replacement}, Light replacement → ∀ word text,
    weigh (replaceAll (delimited word) replacement text) ≤ weigh text
  light_of_isBasic : ∀ {text}, IsBasic text → Light text
  le_length : ∀ text, weigh text ≤ text.length

/-- The number of opening delimiters. -/
def Weight.opening : Weight where
  weigh := doubles '{'
  Light := OpensOnce
  append_le := le_doubles_append '{'
  pos_of_parse _ := pos_doubles_open _
  replaceAll_le := OpensOnce.replaceAll_le
  light_of_isBasic := opensOnce_of_isBasic
  le_length := doubles_le_length '{'

/-- The number of closing delimiters. -/
def Weight.closing : Weight where
  weigh := doubles '}'
  Light := ClosesOnce
  append_le := le_doubles_append '}'
  pos_of_parse _ := pos_doubles_close _
  replaceAll_le := ClosesOnce.replaceAll_le
  light_of_isBasic := closesOnce_of_isBasic
  le_length := doubles_le_length '}'

/-- The number of hashes. -/
def Weight.hashes : Weight where
  weigh := List.count '#'
  Light := OpensNoBlock
  append_le _ _ := List.count_append.ge
  pos_of_parse {content} _ _ h := by
    have hmem : CodePoint.char '#' ∈ content := trim_subset content (hash_mem_of_parse h)
    rw [List.count_pos_iff, delimited]
    simp [hmem]
  replaceAll_le := OpensNoBlock.replaceAll_le
  light_of_isBasic := opensNoBlock_of_isBasic
  le_length _ := List.count_le_length

namespace Weight

variable {w : Weight}

/-- A part weighs no more than the whole. -/
lemma weigh_part_le {a b : List CodePoint} (h : a <:+: b) : w.weigh a ≤ w.weigh b := by
  obtain ⟨front, back, rfl⟩ := h
  have hfront := w.append_le front a
  have hback := w.append_le (front ++ a) back
  omega

/-! ### Blocks -/

/-- The body of a block weighs less than the template that the block is in. -/
lemma weigh_body_lt (h : .block kind expression body ∈ segments text) :
    w.weigh body < w.weigh text := by
  obtain ⟨before, content, after, rfl, htag⟩ := exists_of_block_mem_segments h
  have hopener := w.pos_of_parse htag
  have hbefore := w.append_le before (delimited content ++ (body ++ after))
  have hcontent := w.append_le (delimited content) (body ++ after)
  have hbody := w.append_le body after
  omega

/-- What a loop makes of its body weighs no more than the body. -/
lemma weigh_entryBody_le {entry : Entry} (hkey : w.Light entry.key)
    (hvalue : opensScope entry.value = false → w.Light (display (some entry.value))) :
    w.weigh (entry.body body) ≤ w.weigh body := by
  have hindex := w.replaceAll_le (w.light_of_isBasic (isBasic_decimal entry.position))
    "@index".codePoints body
  have hmarked := w.replaceAll_le hkey "@key".codePoints
    (replaceAll indexMarker (decimal entry.position) body)
  unfold Entry.body
  split
  · exact hmarked.trans hindex
  · next hs =>
    have hitem := w.replaceAll_le (hvalue (Bool.not_eq_true _ ▸ hs)) "this".codePoints
      (replaceAll keyMarker entry.key (replaceAll indexMarker (decimal entry.position) body))
    exact hitem.trans (hmarked.trans hindex)

/-- What a block renders weighs no more than its body, if the texts and keys in scope are light. -/
lemma weigh_le_of_opens {data : Value} {scope scope' : Scope} (hdata : data.EachText w.Light)
    (hscope : scope.Within data) (h : Opens scope expression body kind scope' text) :
    w.weigh text ≤ w.weigh body := by
  cases h with
  | branch hbranch => exact weigh_part_le (part_of_branch? hbranch)
  | unset => exact Nat.le_refl _
  | inside _ => exact Nat.le_refl _
  | @entry v entry hv he =>
    have hreach : data.Reaches v := hscope v (Scope.reaches_resolve hv)
    have hpart := hreach.trans (.part (holds_of_mem_entriesOf he))
    apply weigh_entryBody_le
    · rcases key_of_mem_entriesOf he with ⟨n, hkey⟩ | ⟨fields, key, value, rfl, hm, hkey⟩
      · rw [hkey]
        exact w.light_of_isBasic (isBasic_decimal n)
      · rw [hkey]
        cases hreach with
        | part hfields => exact hdata.keys fields hfields key value hm
    · intro hs
      rcases isBasic_display hs with hbasic | ⟨s, hs⟩
      · exact w.light_of_isBasic hbasic
      · rw [hs] at hpart ⊢
        cases hpart with
        | part htext => exact hdata.texts s htext

end Weight

end Template

end TripProposal
