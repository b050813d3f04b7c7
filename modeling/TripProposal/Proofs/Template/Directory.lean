import TripProposal.Proofs.Files.Tree
import TripProposal.Proofs.Text.Order
import TripProposal.Proofs.Text.Searching
import TripProposal.Template.Registry

/-!
# Tables and directories of templates

A directory with one file for every key of a table is as good a store as the table. The key of a
file is read back from its path, folders are no keys, and the order in which files are found has no
part in a listing.
-/

namespace TripProposal.Template

open Text

/-! ### Keys -/

/-- A text that can stand between the strokes of a key. -/
structure IsName (part : Text) : Prop where
  ne_empty : part ≠ ""
  no_stroke : .char '/' ∉ part.toList
  ne_here : part ≠ "."
  ne_above : part ≠ ".."

instance : DecidablePred IsName := fun part =>
  decidable_of_iff (part ≠ "" ∧ .char '/' ∉ part.toList ∧ part ≠ "." ∧ part ≠ "..")
    ⟨fun h => ⟨h.1, h.2.1, h.2.2.1, h.2.2.2⟩, fun h => ⟨h.1, h.2, h.3, h.4⟩⟩

/-- Whether a part of a path ends like the name of a template file. -/
def IsFileName (part : Text) : Prop :=
  Store.fileSuffix.toList <:+ part.toList

instance : DecidablePred IsFileName := fun part =>
  inferInstanceAs (Decidable (Store.fileSuffix.toList <:+ part.toList))

/-- A key in its normal form: names between strokes, of which only the last may look like that of a
template file. -/
structure Key where
  folders : List Text
  name : Text
  folders_ok : ∀ folder ∈ folders, IsName folder
  name_ok : IsName name
  /-- No folder looks like a file. -/
  folders_plain : ∀ folder ∈ folders, ¬ IsFileName folder

namespace Key

variable (key : Key)

/-- The key as text. -/
def text : Text :=
  Text.intercalate "/" (key.folders ++ [key.name])

/-- The path of the file of a key. -/
def path : Path :=
  key.folders ++ [key.name ++ Store.fileSuffix]

end Key

/-- A text is a key in its normal form. -/
def IsKey (text : Text) : Prop :=
  ∃ key : Key, key.text = text

lemma toList_fileSuffix : Store.fileSuffix.toList = ".html".codePoints := by
  decide

/-- The name of a template file is at least as long as the suffix. -/
lemma append_suffix_ne {short : Text} (hshort : short.toList.length < 5) (part : Text) :
    part ++ Store.fileSuffix ≠ short := by
  rintro rfl
  rw [Text.toList_append, List.length_append, toList_fileSuffix] at hshort
  exact absurd hshort (Nat.not_lt.mpr (Nat.le_add_left 5 _))

/-- A name with a suffix is a name. -/
lemma IsName.append_suffix {part : Text} (h : IsName part) : IsName (part ++ Store.fileSuffix) := by
  constructor
  case no_stroke => simpa [Text.toList_append, toList_fileSuffix] using h.no_stroke
  all_goals exact append_suffix_ne (by decide) part

/-- The parts of a key's path are names. -/
lemma Key.isName_of_mem_path {key : Key} {part : Text} (h : part ∈ key.path) : IsName part := by
  rcases List.mem_append.mp h with hfolder | hname
  · exact key.folders_ok part hfolder
  · rw [List.mem_singleton.mp hname]
    exact key.name_ok.append_suffix

lemma intercalate_concat_append (sep : List CodePoint) (pieces : List (List CodePoint))
    (last rest : List CodePoint) : List.intercalate sep (pieces ++ [last]) ++ rest =
      List.intercalate sep (pieces ++ [last ++ rest]) := by
  induction pieces with
  | nil => simp [List.intercalate_singleton]
  | cons piece pieces ih =>
    cases pieces with
    | nil => simp [List.intercalate_cons_cons, List.intercalate_singleton]
    | cons next pieces =>
      simp only [List.cons_append, List.intercalate_cons_cons] at ih ⊢
      rw [List.append_assoc, List.append_assoc, ih, List.append_assoc]

/-- A text without a stroke in front does not start from the root. -/
lemma rootOf?_of_head?_ne {text : List CodePoint} (h : text.head? ≠ some (.char '/')) :
    Path.rootOf? text = none := by
  fun_cases Path.rootOf? text with
  | case4 => rfl
  | _ => exact absurd rfl h

/-- A path of names that is written with strokes is read back. -/
lemma parse_intercalate {path : Path} (hne : path ≠ []) (h : ∀ part ∈ path, IsName part) {s : Text}
    (hs : s.toList = List.intercalate [.char '/'] (path.map Text.toList)) : Path.parse s =
      path := by
  have hsplit : splitAtMark '/' s.toList = path.map Text.toList := by
    rw [hs]
    refine splitAtMark_intercalate (by simpa using hne) fun piece hpiece => ?_
    obtain ⟨part, hpart, rfl⟩ := List.mem_map.mp hpiece
    exact (h part hpart).no_stroke
  have hparts : (splitAtMark '/' s.toList).map Text.ofList = path := by
    rw [hsplit, List.map_map]
    exact List.map_id _
  have hrelative : s.toList.head? ≠ some (.char '/') := by
    intro hhead
    obtain ⟨rest, htext⟩ := List.head?_eq_some_iff.mp hhead
    have hempty : [] ∈ path.map Text.toList := by
      rw [← hsplit, htext]
      simp [splitAtMark]
    obtain ⟨part, hpart, hnil⟩ := List.mem_map.mp hempty
    exact (h part hpart).ne_empty (Text.toList_eq_nil_iff.mp hnil)
  have hfilter : (path.filter fun part : Text => part ≠ "" ∧ part ≠ ".") = path := by
    refine List.filter_eq_self.mpr fun part hpart => ?_
    simpa using ⟨(h part hpart).ne_empty, (h part hpart).ne_here⟩
  rw [Path.parse, hparts, rootOf?_of_head?_ne hrelative, hfilter]
  rfl

/-- Names lead down from where one is. -/
lemma isAbsolute_of_isName {path : Path} (h : ∀ part ∈ path, IsName part) :
    path.isAbsolute = false := by
  cases path with
  | nil => rfl
  | cons part path =>
    have hstroke := (h part List.mem_cons_self).no_stroke
    have hroot : part ≠ Path.rootPart ∧ part ≠ Path.doubleRootPart := by
      constructor <;> rintro rfl <;> exact hstroke (by decide)
    simpa [Path.isAbsolute, Path.isRoot] using hroot

lemma above_notMem_of_isName {path : Path} (h : ∀ part ∈ path, IsName part) :
    (".." : Text) ∉ path :=
  fun habove => (h ".." habove).ne_above rfl

/-- The file of a key that is written with names stands at its names, the last one with the
suffix. -/
lemma pathOf_intercalate {folders : List Text} {name : Text}
    (h : ∀ part ∈ folders ++ [name ++ Store.fileSuffix], IsName part) :
    Store.pathOf (Text.intercalate "/" (folders ++ [name])) =
      folders ++ [name ++ Store.fileSuffix] := by
  have hstroke : Text.toList "/" = [.char '/'] := by decide
  refine parse_intercalate (by simp) h ?_
  simp only [Text.toList_append, Text.intercalate, hstroke, List.map_append, List.map_cons,
    List.map_nil, intercalate_concat_append]

namespace Key

variable (key : Key)

/-- The file of a key stands at its path. -/
lemma pathOf_text : Store.pathOf key.text = key.path :=
  pathOf_intercalate fun _ => key.isName_of_mem_path

/-- The key of a file is read back from its path. -/
lemma keyOf?_path : Store.keyOf? key.path = some key.text := by
  have hname : key.path.name = key.name ++ Store.fileSuffix := by simp [Path.name, path]
  have hparent : key.path.parent = key.folders := by simp [Path.parent, path]
  have hstem : (key.name ++ Store.fileSuffix).toList.take
      ((key.name ++ Store.fileSuffix).toList.length - Store.fileSuffix.length) =
        key.name.toList := by
    rw [Text.toList_append, List.length_append, ← Text.length_toList, Nat.add_sub_cancel,
      List.take_left]
  have hsuffix : Store.fileSuffix.toList.isSuffixOf (key.name ++ Store.fileSuffix).toList =
      true := by
    rw [Text.toList_append, List.isSuffixOf_iff_suffix]
    exact List.suffix_append _ _
  have hne : key.name.toList ≠ [] := fun h => key.name_ok.ne_empty (Text.toList_eq_nil_iff.mp h)
  simp only [Store.keyOf?, hname, hparent, hstem, if_pos hsuffix, List.isEmpty_eq_false_iff.mpr hne,
    Bool.false_eq_true, if_false, Text.ofList_toList]
  rfl

/-- No folder on the way to a file reads like a file. -/
lemma keyOf?_of_prefix {place : Path} (h : place <+: key.folders) : Store.keyOf? place = none := by
  have hname : ¬ Store.fileSuffix.toList.isSuffixOf place.name.toList = true := by
    rw [List.isSuffixOf_iff_suffix]
    cases hlast : place.getLast? with
    | none =>
      rw [Path.name, hlast]
      decide
    | some folder =>
      rw [Path.name, hlast]
      exact key.folders_plain folder (h.subset (List.mem_of_getLast? hlast))
  rw [Store.keyOf?, if_neg hname]

end Key

/-! ### Tables -/

/-- A table of templates: every key stands once and is in its normal form, and lines end with line
feeds. -/
structure IsTable (templates : List (Text × Text)) : Prop where
  nodup : (templates.map (·.1)).Nodup
  keys : ∀ entry ∈ templates, IsKey entry.1
  texts : ∀ entry ∈ templates, .char '\r' ∉ entry.2.toList

/-- A directory of a tree holds a file for every key of a table with the text of the key, no other
files, be they texts or not, and no folders but those on the way to a file. -/
structure Holds (tree : FileTree) (root place : Path) (templates : List (Text × Text)) :
    Prop where
  resolves : tree.resolve? root = some place
  isDirectory : tree.isDirectory place = true
  files : ∀ path text, tree.node? (place ++ path) = some (.file text) ↔
    ∃ key, (key, text) ∈ templates ∧ Store.pathOf key = path
  readable : ∀ path, tree.node? (place ++ path) ≠ some .binary
  folders : ∀ path, tree.node? (place ++ path) = some .directory →
    path = [] ∨ ∃ entry ∈ templates, path <+: (Store.pathOf entry.1).parent

variable {tree : FileTree} {root place path : Path} {templates : List (Text × Text)}
  {key text : Text}

/-- The file of a key that is written with names is looked for below the directory of the store. -/
lemma find?_pathFor (hroot : tree.resolve? root = some place)
    (h : ∀ part ∈ Store.pathOf key, IsName part) :
    tree.find? (Store.pathFor root key) = tree.node? (place ++ Store.pathOf key) := by
  have hrelative := isAbsolute_of_isName h
  rw [Store.pathFor, hrelative]
  simp only [Bool.false_eq_true, if_false, FileTree.find?]
  rw [FileTree.resolve?_append hroot (above_notMem_of_isName h) hrelative, Option.bind_some]

/-- Only the key itself leads to its file. -/
lemma IsKey.eq_of_pathOf {key' : Text} (h : IsKey key) (h' : IsKey key')
    (hpath : Store.pathOf key = Store.pathOf key') : key = key' := by
  obtain ⟨k, rfl⟩ := h
  obtain ⟨k', rfl⟩ := h'
  rw [Key.pathOf_text, Key.pathOf_text] at hpath
  have hkeys := k.keyOf?_path
  rw [hpath, k'.keyOf?_path] at hkeys
  exact (Option.some.inj hkeys).symm

namespace Holds

variable (h : Holds tree root place templates) (ht : IsTable templates)

include h ht

/-- The files are the entries of the table, each at the path of its key. -/
lemma node?_of_lookup (hkey : IsKey key) :
    tree.node? (place ++ Store.pathOf key) = some (.file text) ↔
    templates.lookup key = some text := by
  rw [h.files, FileTree.lookup_eq_some_iff_mem ht.nodup]
  constructor
  · rintro ⟨key', hmem, hpath⟩
    obtain rfl : key' = key := (ht.keys _ hmem).eq_of_pathOf hkey hpath
    exact hmem
  · exact fun hmem => ⟨key, hmem, rfl⟩

/-- The text of a key is that of its file. -/
lemma get?_eq (hkey : IsKey key) :
    (Store.directory tree root).get? key = (Store.memory templates).get? key := by
  have hnode : ∀ text, tree.node? (place ++ Store.pathOf key) = some (.file text) ↔
      templates.lookup key = some text := fun _ => h.node?_of_lookup ht hkey
  obtain ⟨k, rfl⟩ := hkey
  have hfind : tree.find? (Store.pathFor root k.text) = tree.node? (place ++ Store.pathOf k.text) :=
    find?_pathFor h.resolves (by simpa only [k.pathOf_text] using fun _ => k.isName_of_mem_path)
  rw [Store.get?, Store.get?, FileTree.read?, hfind]
  cases hlookup : templates.lookup k.text with
  | some text =>
    have hmem := (FileTree.lookup_eq_some_iff_mem ht.nodup).mp hlookup
    rw [(hnode text).mpr hlookup]
    simp [Except.map, onString, unifyNewlines_of_notMem (ht.texts _ hmem)]
  | none =>
    have hno : ∀ text, tree.node? (place ++ Store.pathOf k.text) ≠ some (.file text) := by
      intro text hfile
      rw [(hnode text).mp hfile] at hlookup
      cases hlookup
    split
    · next text hfile => exact absurd hfile (hno text)
    · next hbinary => exact absurd hbinary (h.readable _)
    · rfl
    · rfl

/-- What is listed as a key comes from an entry. -/
lemma exists_of_keyOf? (hmem : path ∈ tree.pathsBelow place) (hkey : Store.keyOf? path = some key) :
    ∃ text, (key, text) ∈ templates ∧ Store.pathOf key = path := by
  obtain ⟨hne, hsome⟩ := FileTree.mem_pathsBelow.mp hmem
  obtain ⟨node, hnode⟩ := Option.isSome_iff_exists.mp hsome
  cases node with
  | file text =>
    obtain ⟨key', hmem', rfl⟩ := (h.files path text).mp hnode
    obtain ⟨k, rfl⟩ := ht.keys _ hmem'
    rw [k.pathOf_text, k.keyOf?_path] at hkey
    obtain rfl := Option.some.inj hkey
    exact ⟨text, hmem', rfl⟩
  | binary => exact absurd hnode (h.readable path)
  | directory =>
    -- A folder on the way to a file does not read like a file, so it has no key.
    rcases h.folders path hnode with rfl | ⟨entry, hentry, hbegin⟩
    · exact absurd rfl hne
    · obtain ⟨k, hk⟩ := ht.keys entry hentry
      have hparent : (Store.pathOf entry.1).parent = k.folders := by
        rw [← hk, k.pathOf_text]
        simp [Path.parent, Key.path]
      rw [hparent] at hbegin
      rw [k.keyOf?_of_prefix hbegin] at hkey
      cases hkey

/-- Both stores have the same keys. -/
lemma mem_keys : key ∈ (tree.pathsBelow place).filterMap Store.keyOf? ↔
    key ∈ templates.map (·.1) := by
  simp only [List.mem_filterMap, List.mem_map]
  constructor
  · rintro ⟨path, hpath, hkey⟩
    obtain ⟨text, hmem, -⟩ := h.exists_of_keyOf? ht hpath hkey
    exact ⟨(key, text), hmem, rfl⟩
  · rintro ⟨⟨key, text⟩, hmem, rfl⟩
    have hfile := (h.files (Store.pathOf key) text).mpr ⟨key, hmem, rfl⟩
    obtain ⟨k, rfl⟩ := ht.keys _ hmem
    rw [k.pathOf_text] at hfile
    refine ⟨k.path, FileTree.mem_pathsBelow.mpr ⟨by simp [Key.path], ?_⟩, k.keyOf?_path⟩
    rw [hfile]
    rfl

/-- No two files have the same key. -/
lemma nodup_keys : ((tree.pathsBelow place).filterMap Store.keyOf?).Nodup := by
  rw [List.Nodup, List.pairwise_filterMap]
  refine (FileTree.nodup_pathsBelow tree place).imp_of_mem ?_
  intro path path' hpath hpath' hne key hkey key' hkey' heq
  obtain ⟨text, -, hfile⟩ := h.exists_of_keyOf? ht hpath hkey
  obtain ⟨text', -, hfile'⟩ := h.exists_of_keyOf? ht hpath' hkey'
  exact hne (by rw [← hfile, ← hfile', heq])

/-- They have them as often, that is once. -/
lemma keys_perm : (Store.directory tree root).keys.Perm (Store.memory templates).keys := by
  have hkeys : (Store.directory tree root).keys =
      (tree.pathsBelow place).filterMap Store.keyOf? := by
    simp only [Store.keys, h.resolves, h.isDirectory, if_true]
  rw [hkeys, Store.keys, List.perm_ext_iff_of_nodup (h.nodup_keys ht) ht.nodup]
  exact fun key => h.mem_keys ht

/-- Sorted, the keys are in the same order. -/
lemma keysFrom_eq (start : Text) :
    (Store.directory tree root).keysFrom start = (Store.memory templates).keysFrom start :=
  mergeSort_precedes_of_perm ((h.keys_perm ht).filter _)

/-- So the listings are the same. -/
lemma listing_eq (scope : Option Text) :
    (Store.directory tree root).listing scope = (Store.memory templates).listing scope := by
  simp only [Store.listing, Store.namesFrom, h.keysFrom_eq ht]

end Holds

/-- A table and a directory that holds its files are the same store: they have the same text under
every key in its normal form, the same keys in the same order, and so the same listings. -/
theorem directory_eq_memory (h : Holds tree root place templates) (ht : IsTable templates) :
    (∀ key, IsKey key →
      (Store.directory tree root).get? key = (Store.memory templates).get? key) ∧
    (∀ start, (Store.directory tree root).keysFrom start = (Store.memory templates).keysFrom start) ∧
    ∀ scope, (Store.directory tree root).listing scope = (Store.memory templates).listing scope :=
  ⟨fun _ hkey => h.get?_eq ht hkey, h.keysFrom_eq ht, h.listing_eq ht⟩

/-! ### Directories of tables -/

/-- The tree of a directory that the files of a table are written to. -/
def treeOf (place : Path) (templates : List (Text × Text)) : FileTree where
  entries := (place, .directory) ::
    templates.map fun entry => (place ++ Store.pathOf entry.1, .file entry.2)

lemma IsKey.pathOf_ne_nil (h : IsKey key) : Store.pathOf key ≠ [] := by
  obtain ⟨k, rfl⟩ := h
  rw [k.pathOf_text]
  simp [Key.path]

/-- The entries of a table stand at different paths. -/
lemma nodup_treeOf (ht : IsTable templates) (place : Path) :
    ((treeOf place templates).entries.map (·.1)).Nodup := by
  have hfiles : ((templates.map (·.1)).map fun key => place ++ Store.pathOf key).Nodup := by
    refine ht.nodup.map_on ?_
    simp only [List.mem_map]
    rintro key ⟨entry, hentry, rfl⟩ key' ⟨entry', hentry', rfl⟩ heq
    exact (ht.keys _ hentry).eq_of_pathOf (ht.keys _ hentry') (List.append_cancel_left heq)
  rw [List.map_map] at hfiles
  simp only [treeOf, List.map_cons, List.map_map, List.nodup_cons]
  refine ⟨?_, hfiles⟩
  rw [List.mem_map]
  rintro ⟨entry, hentry, heq⟩
  exact (ht.keys entry hentry).pathOf_ne_nil (by simpa using heq)

/-- The files of a table can be written to any directory, which then holds the table. -/
lemma holds_treeOf (ht : IsTable templates) (hdown : (".." : Text) ∉ place)
    (hplace : place.isAbsolute = false) :
    Holds (treeOf place templates) place place templates where
  resolves := by
    rw [FileTree.resolve?, FileTree.startOf, hplace,
      FileTree.grounded_of_isAbsolute_eq_false hplace, FileTree.resolveFrom?_down _ _ hdown]
    rfl
  isDirectory := by
    simp [FileTree.isDirectory, FileTree.node?, treeOf]
  files := by
    intro path text
    rw [FileTree.node?_eq_iff (nodup_treeOf ht place) (by simp)]
    simp only [treeOf, List.mem_cons, List.mem_map]
    constructor
    · rintro (heq | ⟨⟨key, text'⟩, hmem, heq⟩)
      · cases (Prod.mk.inj heq).2
      · obtain ⟨hpath, htext⟩ := Prod.mk.inj heq
        obtain rfl := FileNode.file.inj htext
        exact ⟨key, hmem, List.append_cancel_left hpath⟩
    · rintro ⟨key, hmem, rfl⟩
      exact .inr ⟨(key, text), hmem, rfl⟩
  readable := by
    intro path hnode
    have hmem := (FileTree.node?_eq_iff (nodup_treeOf ht place) (by simp)).mp hnode
    simp [treeOf] at hmem
  folders := by
    intro path hnode
    rcases FileTree.of_node?_eq_directory hnode with hempty | ⟨entry, hmem, hbegin, hself⟩
    · exact .inl (List.append_eq_nil_iff.mp hempty).2
    · rcases List.mem_cons.mp hmem with rfl | hfile
      · have hlength : (place ++ path).length ≤ place.length := hbegin.length_le
        rw [List.length_append] at hlength
        exact .inl (List.length_eq_zero_iff.mp (by omega))
      -- Any other folder stands above the file of some entry.
      · obtain ⟨entry, hentry, rfl⟩ := List.mem_map.mp hfile
        have hbelow := (List.prefix_append_right_inj place).mp hbegin
        obtain ⟨k, hk⟩ := ht.keys entry hentry
        rw [← hk, k.pathOf_text] at hbelow hself
        refine .inr ⟨entry, hentry, ?_⟩
        rw [← hk, k.pathOf_text]
        rcases List.prefix_concat_iff.mp hbelow with rfl | hfolders
        · cases hself rfl
        · simpa [Path.parent, Key.path] using hfolders

/-- A table with a shared template and a hidden, empty one of a caller. -/
def cruiseTable : List (Text × Text) :=
  [("_templates/cruise", "Cruise"), ("ana/_templates/.draft", "")]

lemma isTable_cruiseTable : IsTable cruiseTable where
  nodup := by decide
  keys := by
    have hshared : IsKey "_templates/cruise" :=
      ⟨⟨["_templates"], "cruise", by decide, by decide, by decide⟩, by decide⟩
    have hdraft : IsKey "ana/_templates/.draft" :=
      ⟨⟨["ana", "_templates"], ".draft", by decide, by decide, by decide⟩, by decide⟩
    exact List.forall_mem_cons.mpr ⟨hshared, List.forall_mem_cons.mpr ⟨hdraft, by simp⟩⟩
  texts := by decide

/-- The files of the table, written to a directory. -/
theorem directory_eq_memory_cruiseTable :
    Holds (treeOf ["store"] cruiseTable) ["store"] ["store"] cruiseTable ∧ IsTable cruiseTable ∧
      (∀ key, IsKey key → (Store.directory (treeOf ["store"] cruiseTable) ["store"]).get? key =
        (Store.memory cruiseTable).get? key) ∧
      (∀ start, (Store.directory (treeOf ["store"] cruiseTable) ["store"]).keysFrom start =
        (Store.memory cruiseTable).keysFrom start) ∧
      ∀ scope, (Store.directory (treeOf ["store"] cruiseTable) ["store"]).listing scope =
        (Store.memory cruiseTable).listing scope := by
  have hdown : (".." : Text) ∉ (["store"] : Path) := by decide
  have hholds := holds_treeOf isTable_cruiseTable hdown (by decide)
  exact ⟨hholds, isTable_cruiseTable, directory_eq_memory hholds isTable_cruiseTable⟩

end TripProposal.Template
