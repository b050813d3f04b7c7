import TripProposal.Proofs.Template.Directory
import TripProposal.Template.Selection

/-!
# Folders of templates

In a directory every tier has a folder of its own, and the file of a template stands below the folder
of the tier that it is looked for in. Names are used as they are, so what leads out of the folder is a
part of the name that stands for the directory above: without one the file is where it belongs,
whoever chose the name.
-/

namespace TripProposal.Template

open Text

variable {folders : List Text} {root : Path} {mark : CodePoint}

/-! ### Parts -/

/-- What stands between the strokes of a text. -/
def partsOf (s : Text) : List Text :=
  (splitAtMark '/' s.toList).map Text.ofList

/-- The parts of a path: those that mean something. -/
def pathParts (s : Text) : Path :=
  (partsOf s).filter fun part => part ≠ "" ∧ part ≠ "."

/-- An ending without marks belongs to the last piece. -/
lemma exists_splitAtMark_append {ending : List CodePoint} (h : mark ∉ ending)
    (text : List CodePoint) :
    ∃ init last, splitAtMark mark text = init ++ [last] ∧
      splitAtMark mark (text ++ ending) = init ++ [last ++ ending] := by
  induction text with
  | nil => exact ⟨[], [], rfl, splitAtMark_of_notMem h⟩
  | cons c text ih =>
    obtain ⟨init, last, htext, hboth⟩ := ih
    rw [List.cons_append, splitAtMark, splitAtMark, htext, hboth]
    by_cases hc : c = mark
    · rw [if_pos hc, if_pos hc]
      exact ⟨[] :: init, last, rfl, rfl⟩
    · rw [if_neg hc, if_neg hc]
      cases init with
      | nil => exact ⟨[], c :: last, rfl, rfl⟩
      | cons piece init => exact ⟨(c :: piece) :: init, last, rfl, rfl⟩

/-- A suffix changes the last part only. -/
lemma exists_partsOf_append_suffix (name : Text) : ∃ init last, partsOf name = init ++ [last] ∧
    partsOf (name ++ Store.fileSuffix) = init ++ [last ++ Store.fileSuffix] := by
  have hsuffix : CodePoint.char '/' ∉ Store.fileSuffix.toList := by decide
  obtain ⟨init, last, hname, hboth⟩ := exists_splitAtMark_append hsuffix name.toList
  refine ⟨init.map Text.ofList, Text.ofList last, ?_, ?_⟩
  · rw [partsOf, hname, List.map_append]
    rfl
  · rw [partsOf, Text.toList_append, hboth, List.map_append, List.map_singleton, Text.ofList_append,
      Text.ofList_toList]

/-- The parts of a file that lead upwards are those of its name before the last stroke. -/
lemma above_mem_pathParts_iff (name : Text) :
    (".." : Text) ∈ pathParts (name ++ Store.fileSuffix) ↔
      (".." : Text) ∈ (partsOf name).dropLast := by
  obtain ⟨init, last, hname, hboth⟩ := exists_partsOf_append_suffix name
  have hlast : (".." : Text) ≠ last ++ Store.fileSuffix := (append_suffix_ne (by decide) last).symm
  rw [pathParts, hboth, hname, List.dropLast_concat, List.mem_filter, List.mem_append,
    List.mem_singleton, or_iff_left hlast]
  exact and_iff_left (by decide)

/-- A file has a name. -/
lemma pathParts_ne_nil (name : Text) : pathParts (name ++ Store.fileSuffix) ≠ [] := by
  obtain ⟨init, last, -, hboth⟩ := exists_partsOf_append_suffix name
  have hlast : last ++ Store.fileSuffix ≠ "" ∧ last ++ Store.fileSuffix ≠ "." :=
    ⟨append_suffix_ne (by decide) last, append_suffix_ne (by decide) last⟩
  rw [pathParts, hboth]
  exact List.ne_nil_of_mem (List.mem_filter.mpr ⟨List.mem_concat_self, decide_eq_true hlast⟩)

/-! ### Scopes -/

/-- The scope that is spelled with the names of folders, a stroke behind each. -/
def scopeOf (folders : List Text) : Text :=
  Text.join (folders.map (· ++ "/"))

/-- The folder of a tier below the directory of a store. -/
def Tier.folder (folders : List Text) : Tier → Path
  | .inScope => folders ++ [("_templates" : Text)]
  | .shared => ["_templates"]
  | .builtIn => []

/-- The folders of a scope come first. -/
lemma partsOf_scopeOf_append (h : ∀ folder ∈ folders, IsName folder) (rest : Text) :
    partsOf (scopeOf folders ++ rest) = folders ++ partsOf rest := by
  induction folders with
  | nil => simp [scopeOf]
  | cons folder folders ih =>
    obtain ⟨hfolder, hfolders⟩ := List.forall_mem_cons.mp h
    have hchars : (scopeOf (folder :: folders) ++ rest).toList =
        folder.toList ++ .char '/' :: (scopeOf folders ++ rest).toList := by
      simp [scopeOf]
    rw [partsOf, hchars, splitAtMark_append hfolder.no_stroke, List.map_cons, ← partsOf, ih hfolders,
      Text.ofList_toList, List.cons_append]

/-- A path below folders that are spelled out is read back. -/
lemma parse_scopeOf_append (hne : folders ≠ []) (h : ∀ folder ∈ folders, IsName folder)
    (rest : Text) : Path.parse (scopeOf folders ++ rest) = folders ++ pathParts rest := by
  have hkept : (folders.filter fun part : Text => part ≠ "" ∧ part ≠ ".") = folders := by
    refine List.filter_eq_self.mpr fun part hpart => ?_
    simpa using ⟨(h part hpart).ne_empty, (h part hpart).ne_here⟩
  have hparts : pathParts (scopeOf folders ++ rest) = folders ++ pathParts rest := by
    rw [pathParts, partsOf_scopeOf_append h, List.filter_append, hkept, pathParts]
  have hrelative : (scopeOf folders ++ rest).toList.head? ≠ some (.char '/') := by
    intro hhead
    obtain ⟨chars, hchars⟩ := List.head?_eq_some_iff.mp hhead
    have hempty : partsOf (scopeOf folders ++ rest) =
        ("" : Text) :: (splitAtMark (.char '/') chars).map Text.ofList := by
      rw [partsOf, hchars, splitAtMark, if_pos rfl]
      rfl
    obtain ⟨folder, folders, rfl⟩ := List.exists_cons_of_ne_nil hne
    rw [partsOf_scopeOf_append h, List.cons_append] at hempty
    exact (h folder List.mem_cons_self).ne_empty (List.cons.inj hempty).1
  rw [Path.parse, rootOf?_of_head?_ne hrelative]
  exact hparts

lemma scopeOf_append (folders below : List Text) :
    scopeOf (folders ++ below) = scopeOf folders ++ scopeOf below := by
  simp [scopeOf]

lemma scopeOf_templates : scopeOf ["_templates"] = keySpace := by
  decide

/-- A tier is looked for under the key that is spelled with its folder. -/
lemma of_mem_placesFor {name : Text} {scope : Option Text} {place : Tier × Text}
    (hscope : scope.getD "" = scopeOf folders) (h : place ∈ placesFor name scope) :
    place.1.folder folders ≠ [] ∧ place.2 = scopeOf (place.1.folder folders) ++ name := by
  rw [placesFor, List.mem_append, List.mem_singleton, Option.mem_toList, Option.map_eq_some_iff] at h
  rcases h with ⟨s, hs, rfl⟩ | rfl
  · obtain ⟨rfl, -⟩ := Option.filter_eq_some_iff.mp hs
    obtain rfl : s = scopeOf folders := hscope
    refine ⟨by simp [Tier.folder], ?_⟩
    rw [Tier.folder, scopeOf_append, scopeOf_templates, Text.append_assoc]
  · refine ⟨by simp [Tier.folder], ?_⟩
    rw [Tier.folder, scopeOf_templates]

lemma Tier.isName_of_mem_folder (hfolders : ∀ folder ∈ folders, IsName folder) {tier : Tier} :
    ∀ folder ∈ tier.folder folders, IsName folder := by
  have htemplates : IsName "_templates" := by decide
  cases tier with
  | inScope => simpa [Tier.folder, or_imp, forall_and] using ⟨hfolders, htemplates⟩
  | shared => simpa [Tier.folder] using htemplates
  | builtIn => simp [Tier.folder]

/-- The file of a template stands below the folder of the tier that it is looked for in, whatever name
was chosen. It leads out of there only with a part of the name that stands for the directory above;
without one it is found below the folder. -/
theorem pathFor_folder {scope : Option Text} (hfolders : ∀ folder ∈ folders, IsName folder)
    (hscope : scope.getD "" = scopeOf folders) (root : Path) (requested trip preferred : Value) :
    ∀ place ∈ placesFor (nameForTrip requested trip preferred) scope,
      ∃ below, Store.pathFor root place.2 = root ++ (place.1.folder folders ++ below) ∧ below ≠ [] ∧
        ((".." : Text) ∈ below ↔
          (".." : Text) ∈ (partsOf (nameForTrip requested trip preferred)).dropLast) ∧
        ((".." : Text) ∉ below → ∀ (tree : FileTree) (directory : Path),
          tree.resolve? root = some directory →
            tree.resolve? (Store.pathFor root place.2) =
              some (directory ++ (place.1.folder folders ++ below))) := by
  intro place hplace
  -- Nothing is known of the name: it is a text that someone chose.
  generalize nameForTrip requested trip preferred = name at hplace ⊢
  obtain ⟨hne, hkey⟩ := of_mem_placesFor hscope hplace
  have hnames : ∀ folder ∈ place.1.folder folders, IsName folder :=
    Tier.isName_of_mem_folder hfolders
  have hpath : Store.pathOf place.2 =
      place.1.folder folders ++ pathParts (name ++ Store.fileSuffix) := by
    rw [Store.pathOf, hkey, Text.append_assoc, parse_scopeOf_append hne hnames]
  have hrelative : Path.isAbsolute (place.1.folder folders ++ pathParts (name ++ Store.fileSuffix)) =
      false := by
    rw [Path.isAbsolute, List.head?_append_of_ne_nil _ hne]
    exact isAbsolute_of_isName hnames
  have hfor : Store.pathFor root place.2 =
      root ++ (place.1.folder folders ++ pathParts (name ++ Store.fileSuffix)) := by
    simp only [Store.pathFor, hpath, hrelative, Bool.false_eq_true, if_false]
  refine ⟨_, hfor, pathParts_ne_nil name, above_mem_pathParts_iff name, ?_⟩
  intro hbelow tree directory hroot
  have hdown : (".." : Text) ∉ place.1.folder folders ++ pathParts (name ++ Store.fileSuffix) := by
    rw [List.mem_append, not_or]
    exact ⟨above_notMem_of_isName hnames, hbelow⟩
  rw [hfor]
  exact FileTree.resolve?_append hroot hdown hrelative

/-- A caller's own template, asked for by name. -/
theorem pathFor_folder_gold :
    (∀ folder ∈ (["ana"] : List Text), IsName folder) ∧
      (some ("ana/" : Text)).getD "" = scopeOf ["ana"] ∧
      ∃ below, Store.pathFor ["store"] "ana/_templates/gold" =
        (["store"] : Path) ++ ((["ana", "_templates"] : Path) ++ below) ∧ (".." : Text) ∉ below := by
  have hfolders : ∀ folder ∈ (["ana"] : List Text), IsName folder := by decide
  have hscope : (some ("ana/" : Text)).getD "" = scopeOf ["ana"] := by decide
  obtain ⟨below, hpath, -, habove, -⟩ :=
    pathFor_folder hfolders hscope ["store"] (.text "gold") (.object []) .null
      (.inScope, "ana/_templates/gold") (by decide +kernel)
  exact ⟨hfolders, hscope, below, hpath, mt habove.mp (by decide +kernel)⟩

/-- With strokes in its name, a trip asks for the template of another caller. -/
theorem pathFor_folder_above :
    nameForTrip .null (.object [("template", .text "../ana/_templates/gold")]) .null =
        "../ana/_templates/gold" ∧
      (Tier.shared, ("_templates/../ana/_templates/gold" : Text)) ∈
        placesFor "../ana/_templates/gold" none ∧
      Store.pathFor ["store"] "_templates/../ana/_templates/gold" =
        (["store", "_templates", "..", "ana", "_templates", "gold.html"] : Path) := by
  decide +kernel

end TripProposal.Template
