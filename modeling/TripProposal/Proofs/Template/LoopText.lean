import TripProposal.Proofs.Template.Markers
import TripProposal.Proofs.Template.PlainData
import TripProposal.Proofs.Template.Segmentation

/-!
# Items as template text

A loop over plain items writes each item into its body and then reads the body as a template. So
an item shows as it is when there is no tag in what it is written into; a tag in the data is
followed like any other.
-/

namespace TripProposal.Template

open Text

variable {text rest : List CodePoint}

/-! ### Text without tags -/

/-- Whether a text holds the delimiters of a tag, one after the other. -/
def HasTag (text : List CodePoint) : Prop :=
  ∃ before content after, text = before ++ openMark ++ (content ++ closeMark ++ after)

/-- Without braces there are no tags. -/
lemma not_hasTag_of_notMem (h : .char '{' ∉ text) : ¬ HasTag text := by
  rintro ⟨before, content, after, rfl⟩
  simp [openMark] at h

/-- A text without tags is one segment. -/
lemma segments_of_not_hasTag (h : ¬ HasTag text) : segments text = [.text text] := by
  cases ho : cut? openMark text with
  | none => exact segments_of_no_open ho
  | some pieces =>
    obtain ⟨before, tail⟩ := pieces
    cases hc : cut? closeMark tail with
    | none => exact segments_of_no_close ho hc
    | some pieces =>
      obtain ⟨content, after⟩ := pieces
      refine absurd ⟨before, content, after, ?_⟩ h
      rw [cut?_eq_some_append ho, cut?_eq_some_append hc]

/-- Text without tags shows as it is. -/
lemma outcome_of_not_hasTag (engine : Engine) (depth : Nat) (scope : Scope) (h : ¬ HasTag text) :
    (engine.renderAt (depth + 1) scope text).outcome = .ok text := by
  rw [Engine.renderAt, segments_of_not_hasTag h]
  simp [Rendering.concatMap, Engine.renderSegment, Rendering.andThen, Rendering.ofText,
    Rendering.empty, Rendering.outcome]

/-- Without tags there is no marker to replace. -/
lemma replaceAll_of_not_hasTag {replacement : List CodePoint} (h : ¬ HasTag text) :
    replaceAll itemMarker replacement text = text := by
  rw [replaceAll]
  induction text with
  | nil => rfl
  | cons c text ih =>
    have hhead : itemMarker.isPrefixOf (c :: text) = false := by
      rw [← Bool.not_eq_true, List.isPrefixOf_iff_prefix]
      rintro ⟨after, hafter⟩
      refine h ⟨[], "this".codePoints, after, ?_⟩
      rw [← hafter, itemMarker, delimited]
      simp
    rw [replaceFrom_cons_of_not hhead, ih]
    rintro ⟨before, content, after, rfl⟩
    exact h ⟨c :: before, content, after, rfl⟩

/-! ### Lines -/

/-- What a loop over a list writes for an item: its position and the item. -/
def itemLine (position : Nat) (v : Value) : List CodePoint :=
  decimal position ++ .char ':' :: (display (some v) ++ [.char ';'])

/-- What a loop over an object writes for a field: its key and its value. -/
def fieldLine (field : Text × Value) : List CodePoint :=
  field.1.toList ++ .char '=' :: (display (some field.2) ++ [.char ';'])

/-- What is written for a field when the key itself may hold the marker of the value. -/
def splicedLine (field : Text × Value) : List CodePoint :=
  replaceAll itemMarker (display (some field.2)) field.1.toList ++
    .char '=' :: (display (some field.2) ++ [.char ';'])

/-- What the lines of a loop come to, each of them being read as a template. -/
def Engine.showLines (engine : Engine) (depth : Nat) (scope : Scope)
    (lines : List (List CodePoint)) :
    Except Fault (List CodePoint) := do
  return (← lines.mapM fun line => (engine.renderAt depth scope line).outcome).flatten

/-- Lines without tags show as they are. -/
lemma showLines_of_not_hasTag (engine : Engine) (depth : Nat) (scope : Scope)
    {lines : List (List CodePoint)} (h : ∀ line ∈ lines, ¬ HasTag line) :
    engine.showLines (depth + 1) scope lines = .ok lines.flatten := by
  have hlines : (lines.mapM fun line => (engine.renderAt (depth + 1) scope line).outcome) =
      .ok lines := by
    induction lines with
    | nil => rfl
    | cons line lines ih =>
      have hline := outcome_of_not_hasTag engine depth scope (h line List.mem_cons_self)
      rw [List.mapM_cons, hline, ih fun l hl => h l (List.mem_cons_of_mem _ hl)]
      rfl
  rw [Engine.showLines, hlines]
  rfl

/-! ### Loops over plain items -/

/-- The document with one value. -/
def single (v : Value) : Value := .object [("x", v)]

/-- The template that repeats a body for the entries of the value. -/
def eachTemplate (body : List CodePoint) : List CodePoint :=
  openerTag .forEach "x".codePoints ++ (body ++ (BlockKind.forEach.closer ++ []))

/-- A loop over plain items reads the body with each item written into it as a template of its
own, in the scope around the loop. -/
lemma outcome_eachTemplate (engine : Engine) (depth : Nat) {v : Value} {body : List CodePoint}
    (hclose : closeOffset? BlockKind.forEach.opener BlockKind.forEach.closer
      (body ++ (BlockKind.forEach.closer ++ [])) = some body.length)
    (hplain : ∀ entry ∈ entriesOf (some v), opensScope entry.value = false) :
    (engine.renderAt (depth + 1) (.root (single v)) (eachTemplate body)).outcome =
      engine.showLines depth (.root (single v))
        ((entriesOf (some v)).map fun entry => entry.body body) := by
  have hblock := renderAt_block engine depth (.root (single v)) .forEach
    ⟨"x".codePoints, by decide, by decide, by decide⟩ body [] hclose
  have hfound : (Scope.root (single v)).resolve "x".codePoints = .ok (some v) := rfl
  have hscope : ∀ entry ∈ entriesOf (some v),
      engine.renderAt depth (entry.scope (.root (single v))) (entry.body body) =
        engine.renderAt depth (.root (single v)) (entry.body body) := by
    intro entry he
    simp [Entry.scope, hplain entry he]
  rw [eachTemplate, hblock, renderBlock, hfound]
  simp only [Rendering.ofFound, Rendering.concatMap_congr hscope]
  rw [renderAt_nil, Rendering.outcome_andThen_empty, Rendering.outcome_concatMap,
    Engine.showLines, List.mapM_map]
  rfl

/-- The body that shows the position and the item. -/
def itemBody : List CodePoint := indexMarker ++ .char ':' :: (itemMarker ++ [.char ';'])

/-- The body that shows the key and the value. -/
def fieldBody : List CodePoint := keyMarker ++ .char '=' :: (itemMarker ++ [.char ';'])

/-- The body for an item is the line with its position and text. -/
lemma body_item (position : Nat) {v : Value} (hv : opensScope v = false) :
    (⟨decimal position, position, v⟩ : Entry).body itemBody = itemLine position v := by
  have hinert := (isPlain_decimal position).inert
  have hindex : replaceAll indexMarker (decimal position) itemBody =
      decimal position ++ .char ':' :: (itemMarker ++ [.char ';']) := rfl
  have hkey : replaceAll keyMarker (decimal position)
      (decimal position ++ .char ':' :: (itemMarker ++ [.char ';'])) =
        decimal position ++ .char ':' :: (itemMarker ++ [.char ';']) := by
    rw [replaceAll, keyMarker, replaceFrom_inert hinert]
    rfl
  rw [Entry.body, hindex, hkey, if_neg (by simp [hv]), replaceAll, itemMarker,
    replaceFrom_inert hinert, itemLine]
  rfl

/-- The body for a field is the line with its key and text. -/
lemma body_field (position : Nat) {key : Text} {v : Value} (hv : opensScope v = false) :
    (⟨key.toList, position, v⟩ : Entry).body fieldBody = splicedLine (key, v) := by
  have hindex : replaceAll indexMarker (decimal position) fieldBody = fieldBody := rfl
  have hkey : replaceAll keyMarker key.toList fieldBody =
      key.toList ++ .char '=' :: (itemMarker ++ [.char ';']) := rfl
  rw [Entry.body, hindex, hkey, if_neg (by simp [hv]), replaceAll,
    replaceFrom_append_cons (by decide) (by decide) _ _ 0 (Nat.zero_le _), splicedLine]
  rfl

/-- A key and a value that hold no tag between them are written as they are. -/
lemma splicedLine_of_not_hasTag {field : Text × Value} (h : ¬ HasTag (fieldLine field)) :
    splicedLine field = fieldLine field := by
  have hkey : ¬ HasTag field.1.toList := by
    rintro ⟨before, content, after, hk⟩
    refine h ⟨before, content, after ++ .char '=' :: (display (some field.2) ++ [.char ';']), ?_⟩
    rw [fieldLine, hk]
    simp
  rw [splicedLine, replaceAll_of_not_hasTag hkey, fieldLine]

/-- A loop over a list shows line by line. -/
lemma outcome_items (engine : Engine) (depth : Nat) {items : List Value}
    (h : ∀ v ∈ items, opensScope v = false) :
    (engine.renderAt (depth + 1) (.root (single (.list items))) (eachTemplate itemBody)).outcome =
      engine.showLines depth (.root (single (.list items))) (items.mapIdx itemLine) := by
  have hplain : ∀ entry ∈ entriesOf (some (.list items)), opensScope entry.value = false := by
    intro entry he
    obtain ⟨n, hn, rfl⟩ := List.mem_mapIdx.mp he
    exact h _ (List.getElem_mem hn)
  have hlines : ((entriesOf (some (.list items))).map fun entry => entry.body itemBody) =
      items.mapIdx itemLine := by
    refine List.ext_getElem (by simp [entriesOf]) fun n hn hn' => ?_
    simp only [entriesOf, List.getElem_map, List.getElem_mapIdx]
    exact body_item n (h _ (List.getElem_mem _))
  rw [outcome_eachTemplate engine depth (by decide) hplain, hlines]

/-- So does a loop over an object. -/
lemma outcome_fields (engine : Engine) (depth : Nat) {fields : Fields}
    (h : ∀ key v, (key, v) ∈ fields → opensScope v = false) :
    (engine.renderAt (depth + 1) (.root (single (.object fields)))
      (eachTemplate fieldBody)).outcome =
        engine.showLines depth (.root (single (.object fields))) (fields.map splicedLine) := by
  have hplain : ∀ entry ∈ entriesOf (some (.object fields)), opensScope entry.value = false := by
    intro entry he
    obtain ⟨n, hn, rfl⟩ := List.mem_mapIdx.mp he
    exact h _ _ (List.getElem_mem hn)
  have hlines : ((entriesOf (some (.object fields))).map fun entry => entry.body fieldBody) =
      fields.map splicedLine := by
    refine List.ext_getElem (by simp [entriesOf]) fun n hn hn' => ?_
    simp only [entriesOf, List.getElem_map, List.getElem_mapIdx]
    exact body_field n (h _ _ (List.getElem_mem _))
  rw [outcome_eachTemplate engine depth (by decide) hplain, hlines]

/-- What a loop with the given body shows for a value. -/
def Engine.showEach (engine : Engine) (body : List CodePoint) (v : Value) :
    Except Fault (List CodePoint) :=
  (engine.render (Text.ofList (eachTemplate body)) (single v)).outcome

/-- There is room for a loop and the lines in it. -/
lemma depthFor_eq (template : List CodePoint) :
    depthFor template = template.length + 9998 + 1 + 1 := rfl

/-- A loop over plain items shows what its lines come to when each of them is read as a template;
when no line holds a tag that is the lines themselves. -/
theorem showEach_plain (engine : Engine) :
    (∀ items : List Value, (∀ v ∈ items, opensScope v = false) →
      engine.showEach itemBody (.list items) =
        engine.showLines (depthFor (eachTemplate itemBody) - 1) (.root (single (.list items)))
          (items.mapIdx itemLine) ∧
      ((∀ line ∈ items.mapIdx itemLine, ¬ HasTag line) →
        engine.showEach itemBody (.list items) = .ok (items.mapIdx itemLine).flatten)) ∧
    (∀ fields : Fields, (∀ key v, (key, v) ∈ fields → opensScope v = false) →
      engine.showEach fieldBody (.object fields) =
        engine.showLines (depthFor (eachTemplate fieldBody) - 1) (.root (single (.object fields)))
          (fields.map splicedLine) ∧
      ((∀ line ∈ fields.map fieldLine, ¬ HasTag line) →
        engine.showEach fieldBody (.object fields) = .ok (fields.map fieldLine).flatten)) := by
  refine ⟨fun items h => ?_, fun fields h => ?_⟩
  · rw [Engine.showEach, Engine.render, Text.toList_ofList, depthFor_eq, outcome_items engine _ h]
    exact ⟨rfl, fun hlines => showLines_of_not_hasTag engine _ _ hlines⟩
  · rw [Engine.showEach, Engine.render, Text.toList_ofList, depthFor_eq, outcome_fields engine _ h]
    refine ⟨rfl, fun hlines => ?_⟩
    have hspliced : fields.map splicedLine = fields.map fieldLine :=
      List.map_congr_left fun field hf =>
        splicedLine_of_not_hasTag (hlines _ (List.mem_map_of_mem hf))
    rw [hspliced]
    exact showLines_of_not_hasTag engine _ _ hlines

theorem showEach_guests :
    let engine : Engine := ⟨true, .ofDate ⟨2026, 1, 1, by decide⟩⟩
    engine.showEach itemBody (.list [.text "Ann", .int 7]) = .ok "0:Ann;1:7;".codePoints ∧
      engine.showEach fieldBody (.object [("gold", .int 1)]) = .ok "gold=1;".codePoints := by
  intro engine
  have h := showEach_plain engine
  have hitems : ∀ line ∈ [Value.text "Ann", .int 7].mapIdx itemLine, CodePoint.char '{' ∉ line := by
    decide
  have hfields : ∀ line ∈ ([("gold", .int 1)] : Fields).map fieldLine, CodePoint.char '{' ∉ line := by
    decide
  constructor
  · apply (h.1 _ (by simp [opensScope])).2
    exact fun line hline => not_hasTag_of_notMem (hitems line hline)
  · apply (h.2 _ (by simp [opensScope])).2
    exact fun line hline => not_hasTag_of_notMem (hfields line hline)

/-- The length of the list shows in place of an item that reads like the tag for it. -/
theorem showEach_follows_tag :
    let engine : Engine := ⟨true, .ofDate ⟨2026, 1, 1, by decide⟩⟩
    let item : Value := .text (Text.ofList (delimited "x.length".codePoints))
    engine.showEach itemBody (.list [item]) = .ok "0:1;".codePoints ∧
      engine.showEach itemBody (.list [item]) ≠ .ok ([item].mapIdx itemLine).flatten := by
  intro engine item
  let scope : Scope := .root (single (.list [item]))
  let content : ValueContent :=
    ⟨⟨"x.length".codePoints, by decide, by decide, by decide⟩, by decide, by decide, by decide⟩
  have hline : [item].mapIdx itemLine =
      ["0:".codePoints ++ (delimited content.chars ++ [.char ';'])] := rfl
  have hparse : Tag.parse content.chars = .variable content.chars := by decide
  have hfound : scope.resolve content.chars = .ok (some (.int 1)) := rfl
  have htag : engine.tagText scope (.parse content.chars) = .ok [.char '1'] := by
    rw [hparse, tagText_variable, hfound]
    rfl
  have h : engine.showEach itemBody (.list [item]) = .ok "0:1;".codePoints := by
    rw [Engine.showEach, Engine.render, Text.toList_ofList, depthFor_eq,
      outcome_items engine _ (by simp [item, opensScope]), hline, Engine.showLines]
    rw [List.mapM_cons, List.mapM_nil, renderAt_inert_append engine _ _ (by decide),
      renderAt_value, htag, ← List.append_nil [CodePoint.char ';'],
      renderAt_inert_append engine _ _ (by decide), renderAt_nil]
    rfl
  refine ⟨h, ?_⟩
  rw [h, hline]
  decide

end TripProposal.Template
