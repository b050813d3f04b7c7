import TripProposal.Proofs.Template.LoopText

/-!
# Loops inside of loops

A loop fills in its markers everywhere in the text of its body, also in the loops inside. When the
inner loop is reached, the marker for the position is gone: it belongs to the outermost loop.
-/

namespace TripProposal.Template

open Text Number

variable {depth : Nat} {scope : Scope} {items : List Value}

/-! ### Loops over lists -/

namespace Rendering

lemma andThen_empty_ofText (text : List CodePoint) :
    (ofText text).andThen (fun _ => empty) = ofText text := by
  simp [andThen, ofText, empty]

lemma andThen_ofText_ofText (a b : List CodePoint) :
    (ofText a).andThen (fun _ => ofText b) = ofText (a ++ b) := by
  simp [andThen, ofText]

/-- Renderings that are texts show these texts. -/
lemma concatMap_eq_ofText {α : Type} {f : α → Rendering} {l : List α}
    {texts : List (List CodePoint)}
    (h : l.map f = texts.map ofText) : concatMap f l = ofText texts.flatten := by
  induction l generalizing texts with
  | nil =>
    obtain rfl : texts = [] := by simpa using h.symm
    rfl
  | cons v l ih =>
    obtain ⟨text, texts, rfl, hv, hl⟩ := List.map_eq_cons_iff.mp h.symm
    rw [concatMap, ← hv, ih hl.symm, andThen_ofText_ofText, List.flatten_cons]

end Rendering

/-- A text without tags shows itself. -/
lemma renderAt_inert (engine : Engine) {a : List CodePoint} (h : IsInert a) :
    engine.renderAt (depth + 1) scope a = .ofText a := by
  rw [← List.append_nil a, renderAt_inert_append engine depth scope h, renderAt_nil,
    Rendering.andThen_empty_ofText, List.append_nil]

lemma isPlain_key_of_list : ∀ entry ∈ entriesOf (some (.list items)), IsPlain entry.key := by
  intro entry he
  obtain ⟨n, hn, rfl⟩ := List.mem_mapIdx.mp he
  exact isPlain_decimal n

/-- A loop over a list renders its body once for every item, with the markers of the item filled in
wherever they stand in the body. -/
lemma renderAt_forEach (engine : Engine) {expression : Content}
    (hfound : scope.resolve expression.chars = .ok (some (.list items))) (body : Tree)
    (rest : List CodePoint) :
    engine.renderAt (depth + 1) scope
        (openerTag .forEach expression.chars ++ (body.print ++ (BlockKind.forEach.closer ++ rest))) =
      (Rendering.concatMap (fun entry => engine.renderAt depth (entry.scope scope)
        (body.textWith entry.marker?)) (entriesOf (some (.list items)))).andThen fun _ =>
          engine.renderAt (depth + 1) scope rest := by
  have hbody : ∀ entry ∈ entriesOf (some (.list items)),
      engine.renderAt depth (entry.scope scope) (entry.body body.print) =
        engine.renderAt depth (entry.scope scope) (body.textWith entry.marker?) := by
    intro entry he
    rw [entry.body_print (isPlain_key_of_list entry he) (isPlain_decimal _)]
  rw [renderAt_block engine depth scope .forEach expression body.print rest
    (closeOffset?_textWith isInertFill_none body rest), renderBlock, hfound]
  simp only [Rendering.ofFound, Rendering.concatMap_congr hbody]

/-- A loop over a list shows the texts of its items when each of them comes to a text. -/
lemma concatMap_entries {f : Entry → Rendering} {texts : List (List CodePoint)}
    (hlength : items.length = texts.length)
    (h : ∀ (n : Nat) (hn : n < items.length) (ht : n < texts.length),
      f ⟨decimal n, n, items[n]⟩ = .ofText texts[n]) :
    Rendering.concatMap f (entriesOf (some (.list items))) = .ofText texts.flatten := by
  refine Rendering.concatMap_eq_ofText (List.ext_getElem ?_ fun n hn ht => ?_)
  · rw [List.length_map, List.length_map, entriesOf, List.length_mapIdx, hlength]
  · simp only [entriesOf, List.getElem_map, List.getElem_mapIdx]
    exact h n _ _

/-! ### A grid -/

def gridExpression : Content := ⟨[.char 'm'], by decide, by decide, by decide⟩

/-- The item of a loop as an expression. -/
def itemExpression : Content :=
  ⟨("this" : Text).toList, by decide, by decide, by decide⟩

/-- The tag that shows the item of a loop, with a semicolon behind it. -/
def itemCell : Tree :=
  .value ⟨itemExpression, by decide, by decide, by decide⟩ (.text ⟨[.char ';'], by decide⟩ .nil)

/-- The tags that show the position and the item of a loop. -/
def cell : Tree :=
  .value
    ⟨⟨("@index" : Text).toList, by decide, by decide, by decide⟩, by decide, by decide, by decide⟩
    (.text ⟨[.char '='], by decide⟩ itemCell)

/-- The cells of a row and a stroke. -/
def row : Tree :=
  .block .forEach itemExpression cell (.text ⟨[.char '|'], by decide⟩ .nil)

/-- The rows of a grid. -/
def grid : Tree :=
  .block .forEach gridExpression row .nil

example : grid.print = ("\x7b\x7b#each m\x7d\x7d\x7b\x7b#each this\x7d\x7d\x7b\x7b@index\x7d\x7d=" ++
    "\x7b\x7bthis\x7d\x7d;\x7b\x7b/each\x7d\x7d|\x7b\x7b/each\x7d\x7d").codePoints := by decide

def numberedCell (n : Nat) : Tree :=
  .text ⟨decimal n ++ [.char '='], (isPlain_decimal n).inert.append (by decide)⟩ itemCell

/-- What a cell shows under a number. -/
def cellText (n : Nat) (v : Value) : List CodePoint :=
  decimal n ++ .char '=' :: (display (some v) ++ [.char ';'])

/-- What the cells of a row show when all of them stand under the number of the row. -/
def rowText (n : Nat) (items : List Value) : List CodePoint :=
  items.flatMap (cellText n) ++ [.char '|']

/-- What the cells of a row show when each of them stands under its own position. -/
def ownRowText (items : List Value) : List CodePoint :=
  (items.mapIdx cellText).flatten ++ [.char '|']

/-- An item that opens a scope of its own fills in the position in the loop inside of its row. -/
lemma textWith_row (n : Nat) {v : Value} (hv : opensScope v = true) :
    row.textWith (⟨decimal n, n, v⟩ : Entry).marker? = openerTag .forEach itemExpression.chars ++
      ((numberedCell n).print ++ (BlockKind.forEach.closer ++ [.char '|'])) := by
  have hindex : (⟨decimal n, n, v⟩ : Entry).marker? "@index".codePoints = some (decimal n) := rfl
  have hitem : (⟨decimal n, n, v⟩ : Entry).marker? "this".codePoints = none := by
    simp [Entry.marker?, hv]
  simp [row, cell, itemCell, numberedCell, itemExpression, Tree.print, Tree.textWith, hindex, hitem,
    -String.codePoints]

/-- An item that opens no scope fills itself in. -/
lemma textWith_numberedCell (n position : Nat) {v : Value} (hv : opensScope v = false) :
    (numberedCell n).textWith (⟨decimal position, position, v⟩ : Entry).marker? = cellText n v := by
  have hitem :
      (⟨decimal position, position, v⟩ : Entry).marker? "this".codePoints = some (display (some v)) := by
    simp [Entry.marker?, hv]
  simp [numberedCell, itemCell, itemExpression, Tree.textWith, hitem, cellText, -String.codePoints]

/-- A cell has no tags. -/
lemma isInert_cellText (n : Nat) {v : Value} (hv : v.Plain) (hs : opensScope v = false) :
    IsInert (cellText n v) := by
  have hend : IsInert [.char ';'] := by decide
  have hmark : IsInert [.char '='] := by decide
  have hitem : IsInert (display (some v) ++ [.char ';']) :=
    (isPlain_display hv hs).inert.append hend
  exact (isPlain_decimal n).inert.append (hmark.append hitem)

/-- A row shows its cells. -/
lemma renderAt_row (engine : Engine) (n : Nat)
    (h : ∀ v ∈ items, v.Plain ∧ opensScope v = false) :
    engine.renderAt (depth + 2) (scope.enter (.list items))
        (row.textWith (⟨decimal n, n, .list items⟩ : Entry).marker?) = .ofText (rowText n items) := by
  have hfound : (scope.enter (.list items)).resolve itemExpression.chars =
      .ok (some (.list items)) := rfl
  have hcells : ∀ (position : Nat) (hp : position < items.length)
      (ht : position < (items.map (cellText n)).length),
      engine.renderAt (depth + 1)
        ((⟨decimal position, position, items[position]⟩ : Entry).scope (scope.enter (.list items)))
        ((numberedCell n).textWith
          (⟨decimal position, position, items[position]⟩ : Entry).marker?) =
            .ofText (items.map (cellText n))[position] := by
    intro position hp ht
    obtain ⟨hplain, hs⟩ := h _ (List.getElem_mem hp)
    rw [textWith_numberedCell n position hs, List.getElem_map,
      renderAt_inert engine (isInert_cellText n hplain hs)]
  rw [textWith_row n rfl, renderAt_forEach engine hfound,
    concatMap_entries (List.length_map _).symm hcells, renderAt_inert engine (by decide),
    Rendering.andThen_ofText_ofText, rowText, List.flatMap]

/-! ### Own positions -/

/-- The number of a cell can be read off its text. -/
lemma eq_of_cellText_append {n m : Nat} {v : Value} {a b : List CodePoint}
    (h : cellText n v ++ a = cellText m v ++ b) : n = m ∧ a = b := by
  have hdigits : ∀ n, CodePoint.char '=' ∉ decimal n := fun n hc =>
    absurd (isDigit_of_mem_decimal hc) (by decide)
  rw [cellText, cellText, List.append_assoc, List.append_assoc, List.cons_append,
    List.cons_append] at h
  obtain rfl := decimal_injective (eq_of_append_cons_eq (hdigits n) (hdigits m) h)
  simpa using h

/-- Cells under one number show the same as cells under their positions only if every position is
the number. -/
lemma eq_of_cellTexts_append {n : Nat} (first : Nat) {a b : List CodePoint}
    (h : items.flatMap (cellText n) ++ a =
      (items.mapIdx fun position => cellText (position + first)).flatten ++ b) :
    (∀ position < items.length, position + first = n) ∧ a = b := by
  -- The first cells agree up to their equals signs, so they have one number; the rest starts later.
  induction items generalizing first with
  | nil => exact ⟨fun position hp => absurd hp (Nat.not_lt_zero position), h⟩
  | cons v items ih =>
    rw [List.flatMap_cons, List.mapIdx_cons, List.flatten_cons, List.append_assoc,
      List.append_assoc, Nat.zero_add] at h
    obtain ⟨hn, hrest⟩ := eq_of_cellText_append h
    have hnext : ∀ position, position + 1 + first = position + (first + 1) := fun _ => by omega
    simp only [hnext] at hrest
    obtain ⟨hpositions, hab⟩ := ih (first + 1) hrest
    refine ⟨fun position hp => ?_, hab⟩
    cases position with
    | zero => rw [Nat.zero_add, hn]
    | succ position => rw [hnext, hpositions position (Nat.lt_of_succ_lt_succ hp)]

/-- With its own numbers a row shows as it should. -/
lemma rowText_eq_ownRowText {n : Nat} (h : ∀ position < items.length, position = n) :
    rowText n items = ownRowText items := by
  have hcells : items.map (cellText n) = items.mapIdx cellText := by
    refine List.ext_getElem (by simp) fun position hp _ => ?_
    rw [List.length_map] at hp
    rw [List.getElem_map, List.getElem_mapIdx]
    exact congrArg (cellText · items[position]) (h position hp).symm
  rw [rowText, ownRowText, List.flatMap, hcells]

/-- Rows under their numbers show the same as rows of cells under their own positions only if no cell
stands at another position than its row. -/
lemma eq_of_rowTexts (first : Nat) {rows : List (List Value)}
    (h : (rows.mapIdx fun n => rowText (n + first)).flatten = rows.flatMap ownRowText) {n : Nat}
    (hrow : rows[n]? = some items) : ∀ position < items.length, position = n + first := by
  induction rows generalizing first n with
  | nil => simp at hrow
  | cons row rows ih =>
    rw [List.mapIdx_cons, List.flatten_cons, List.flatMap_cons, Nat.zero_add, rowText,
      ownRowText, List.append_assoc, List.append_assoc] at h
    obtain ⟨hpositions, hrest⟩ := eq_of_cellTexts_append 0 h
    cases n with
    | zero =>
      obtain rfl : row = items := by simpa using hrow
      simpa using hpositions
    | succ n =>
      have hnext : ∀ n, n + 1 + first = n + (first + 1) := fun _ => by omega
      simp only [hnext] at hrest ⊢
      exact ih (first + 1) (List.append_cancel_left hrest) (by simpa using hrow)

/-- The text of a grid is that of cells under their own positions exactly when every cell stands at
the position of its row. -/
lemma rowTexts_eq_iff {rows : List (List Value)} :
    (rows.mapIdx rowText).flatten = rows.flatMap ownRowText ↔
      ∀ (n : Nat) (items : List Value), rows[n]? = some items →
        ∀ position < items.length, position = n := by
  constructor
  · intro h n items hrow
    exact eq_of_rowTexts 0 h hrow
  · intro h
    have hrows : rows.mapIdx rowText = rows.map ownRowText := by
      refine List.ext_getElem (by simp) fun n hn _ => ?_
      rw [List.getElem_mapIdx, List.getElem_map]
      exact rowText_eq_ownRowText (h n _ (List.getElem?_eq_getElem _))
    rw [hrows, List.flatMap]

/-! ### Showing a grid -/

def Engine.showGrid (engine : Engine) (rows : List (List Value)) : Rendering :=
  engine.render (Text.ofList grid.print) (.object [("m", .list (rows.map .list))])

lemma depthFor_add_three (template : List CodePoint) :
    depthFor template = template.length + 9997 + 2 + 1 := rfl

/-- A grid shows row by row. -/
lemma showGrid_eq (engine : Engine) {rows : List (List Value)}
    (h : ∀ items ∈ rows, ∀ v ∈ items, v.Plain ∧ opensScope v = false) :
    engine.showGrid rows = .ofText (rows.mapIdx rowText).flatten := by
  have hfound : (Scope.root (.object [("m", .list (rows.map .list))])).resolve
      gridExpression.chars = .ok (some (.list (rows.map .list))) := rfl
  have hprint : grid.print = openerTag .forEach gridExpression.chars ++
      (row.print ++ (BlockKind.forEach.closer ++ [])) := rfl
  have hrows : ∀ (n : Nat) (hn : n < (rows.map Value.list).length)
      (ht : n < (rows.mapIdx rowText).length),
      engine.renderAt (grid.print.length + 9997 + 2)
        ((⟨decimal n, n, (rows.map Value.list)[n]⟩ : Entry).scope
          (.root (.object [("m", .list (rows.map .list))])))
        (row.textWith (⟨decimal n, n, (rows.map Value.list)[n]⟩ : Entry).marker?) =
          .ofText (rows.mapIdx rowText)[n] := by
    intro n hn ht
    rw [List.getElem_map, List.getElem_mapIdx]
    exact renderAt_row engine n (h _ (List.getElem_mem _))
  rw [Engine.showGrid, Engine.render, Text.toList_ofList, depthFor_add_three]
  generalize grid.print.length + 9997 = depth at hrows ⊢
  rw [hprint, renderAt_forEach engine hfound, concatMap_entries (by simp) hrows, renderAt_nil,
    Rendering.andThen_empty_ofText]

/-- In a loop inside of a loop, every item stands behind the position that its list has in the outer
loop. That is its own position only in a grid that has nothing but the first cell of its first row. -/
theorem showGrid_numbers_rows (engine : Engine) {rows : List (List Value)}
    (h : ∀ items ∈ rows, ∀ v ∈ items, v.Plain ∧ opensScope v = false) :
    engine.showGrid rows = .ofText (rows.mapIdx rowText).flatten ∧
      (engine.showGrid rows = .ofText (rows.flatMap ownRowText) ↔
        ∀ (n : Nat) (items : List Value), rows[n]? = some items →
          ∀ position < items.length, position = n) := by
  have htext : ∀ a b : List CodePoint, Rendering.ofText a = .ofText b ↔ a = b := fun a b =>
    ⟨fun h => congrArg Rendering.text h, congrArg _⟩
  refine ⟨showGrid_eq engine h, ?_⟩
  rw [showGrid_eq engine h, htext, rowTexts_eq_iff]

/-- Guests at two tables, and a table that is free. -/
def tables : List (List Value) := [[.text "Ann", .int 7], [.text "Ben"], []]

lemma plain_tables : ∀ items ∈ tables, ∀ v ∈ items, v.Plain ∧ opensScope v = false := by
  have htext : ∀ s : Text, IsPlain s.toList → (Value.text s).Plain ∧
      opensScope (.text s) = false := fun s hs => ⟨.text hs, rfl⟩
  simp only [tables, List.forall_mem_cons, List.not_mem_nil, false_imp_iff, implies_true, and_true]
  exact ⟨⟨htext "Ann" (by decide), .int 7, rfl⟩, htext "Ben" (by decide)⟩

theorem showGrid_numbers_rows_tables :
    let engine : Engine := ⟨true, .ofDate ⟨2026, 1, 1, by decide⟩⟩
    engine.showGrid tables = .ofText "0=Ann;0=7;|1=Ben;||".codePoints ∧
      engine.showGrid tables ≠ .ofText "0=Ann;1=7;|0=Ben;||".codePoints := by
  intro engine
  obtain ⟨hshown, hown⟩ := showGrid_numbers_rows engine plain_tables
  refine ⟨hshown, fun h => ?_⟩
  have hposition : 1 = 0 := hown.mp h 0 [.text "Ann", .int 7] rfl 1 (by decide)
  exact absurd hposition (by decide)

/-- The cells of a row of two do not stand under their own positions. -/
theorem showGrid_shares_number :
    let engine : Engine := ⟨true, .ofDate ⟨2026, 1, 1, by decide⟩⟩
    let items : List Value := [.text "a", .text "b"]
    (∀ v ∈ items, v.Plain ∧ opensScope v = false) ∧
      engine.showGrid [items] ≠ .ofText ((items.mapIdx cellText).flatten ++ [.char '|']) := by
  intro engine items
  have hitems : ∀ v ∈ items, v.Plain ∧ opensScope v = false := by
    simp only [items, List.forall_mem_cons, List.not_mem_nil, false_imp_iff, implies_true, and_true]
    exact ⟨⟨.text (by decide), rfl⟩, .text (by decide), rfl⟩
  refine ⟨hitems, ?_⟩
  rw [showGrid_eq engine (by simpa using hitems)]
  decide

end TripProposal.Template
