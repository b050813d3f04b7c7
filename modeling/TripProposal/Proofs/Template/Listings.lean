import TripProposal.Proofs.Template.Directory
import TripProposal.Proofs.Template.History

/-!
# Listed templates

A listed name stands for something that is stored under one of the keys of the name. When that is a
text, and there is something in it, the name is answered with a text, unless a file that is checked
before has none: the key that was read off the path of a file leads back to the file.
-/

namespace TripProposal.Template

open Text

variable {tree : FileTree} {root place path : Path} {templates : List (Text × Text)}
  {store : Store} {scope : Option Text} {start key name text : Text}

/-! ### What is stored under a key -/

namespace Store

/-- What a store has under one of its keys: a text, if it is one that can be asked for. -/
inductive Shows : Store → Text → Option Text → Prop
  | entry {templates : List (Text × Text)} {key text : Text}
    (h : templates.lookup key = some text) : Shows (.memory templates) key (some text)
  | file {tree : FileTree} {root place : Path} {folders : List Text} {name text : Text}
    (hroot : tree.resolve? root = some place) (hname : name ≠ "")
    (h : tree.node? (place ++ (folders ++ [name ++ fileSuffix])) = some (.file text)) :
    Shows (.directory tree root) (Text.intercalate "/" (folders ++ [name])) (some text)
  /-- A file without a text, or a folder that is named like a file. -/
  | textless {tree : FileTree} {root place : Path} {folders : List Text} {name : Text}
    {node : FileNode} (hroot : tree.resolve? root = some place) (hname : name ≠ "")
    (hnode : ∀ text, node ≠ .file text)
    (h : tree.node? (place ++ (folders ++ [name ++ fileSuffix])) = some node) :
    Shows (.directory tree root) (Text.intercalate "/" (folders ++ [name])) none
  /-- A file or folder without a name before the suffix. -/
  | nameless {tree : FileTree} {root place : Path} {folders : List Text}
    (hroot : tree.resolve? root = some place)
    (h : (tree.node? (place ++ (folders ++ [fileSuffix]))).isSome) :
    Shows (.directory tree root) (Text.intercalate "/" (folders ++ [fileSuffix])) none

/-- The files and folders below the directory of a store have names. -/
def IsNamed : Store → Prop
  | .memory _ => True
  | .directory tree root => ∀ place, tree.resolve? root = some place →
    ∀ entry ∈ tree.entries, ∀ path, entry.1 = place ++ path → ∀ part ∈ path, IsName part

/-- The key leads to a file without a text. -/
def IsUnreadableAt (key : Text) : Store → Prop
  | .memory _ => False
  | .directory tree root => tree.find? (pathFor root key) = some .binary

/-- A text in which there is something stands under one of the keys, and no key before it leads to a
file without a text. -/
def OffersText (store : Store) (keys : List Text) : Prop :=
  ∃ before key after text, keys = before ++ key :: after ∧ store.Shows key (some text) ∧
    text ≠ "" ∧ ∀ earlier ∈ before, ¬ store.IsUnreadableAt earlier

end Store

/-! ### Keys of a listing -/

/-- A path with a key ends in the suffix. Without a name before the suffix the whole name stands in
the key. -/
lemma exists_of_keyOf? (h : Store.keyOf? path = some key) : ∃ folders name,
    path = folders ++ [name ++ Store.fileSuffix] ∧
      key = Text.intercalate "/" (folders ++ [if name = "" then Store.fileSuffix else name]) := by
  rw [Store.keyOf?] at h
  split at h
  · next hsuffix =>
    obtain ⟨stem, hstem⟩ := List.isSuffixOf_iff_suffix.mp hsuffix
    have htake : path.name.toList.take (path.name.toList.length - Store.fileSuffix.length) =
        stem := by
      rw [← hstem, List.length_append, ← Text.length_toList, Nat.add_sub_cancel, List.take_left]
    have hname : path.name = Text.ofList stem ++ Store.fileSuffix := by
      rw [← Text.toList_inj, Text.toList_append, Text.toList_ofList, hstem]
    have hpath : path = path.parent ++ [path.name] := by
      cases hlast : path.getLast? with
      | none =>
        have hnone : path.name = "" := by rw [Path.name, hlast]; rfl
        rw [hnone] at hsuffix
        exact absurd hsuffix (by decide)
      | some last =>
        rw [Path.name, hlast]
        exact (List.dropLast_append_getLast? last hlast).symm
    refine ⟨path.parent, Text.ofList stem, by rw [← hname, ← hpath], ?_⟩
    rw [htake] at h
    rw [← Option.some.inj h]
    cases stem with
    | nil => simp [hname]
    | cons c stem => simp
  · cases h

/-- Something is stored under every key. -/
lemma exists_shows (h : key ∈ store.keys) : ∃ found, store.Shows key found := by
  cases store with
  | memory templates =>
    obtain ⟨entry, hmem, rfl⟩ := List.mem_map.mp h
    cases hlookup : templates.lookup entry.1 with
    | none =>
      have hno := List.lookup_eq_none_iff.mp hlookup entry hmem
      simp at hno
    | some text => exact ⟨some text, .entry hlookup⟩
  | directory tree root =>
    cases hroot : tree.resolve? root with
    | none => simp [Store.keys, hroot] at h
    | some place =>
      simp only [Store.keys, hroot] at h
      split at h
      · obtain ⟨path, hpath, hkey⟩ := List.mem_filterMap.mp h
        obtain ⟨-, hnode⟩ := FileTree.mem_pathsBelow.mp hpath
        obtain ⟨folders, name, rfl, rfl⟩ := exists_of_keyOf? hkey
        by_cases hname : name = ""
        · subst hname
          exact ⟨none, .nameless hroot (by simpa using hnode)⟩
        · rw [if_neg hname]
          obtain ⟨node, hnode⟩ := Option.isSome_iff_exists.mp hnode
          cases node with
          | file text => exact ⟨some text, .file hroot hname hnode⟩
          | _ => exact ⟨none, .textless hroot hname (by simp) hnode⟩
      · cases h

/-- A listed name is what a key has behind the prefix. -/
lemma eq_append_of_visibleName? (hstart : start.toList <+: key.toList)
    (h : visibleName? start key = some name) : key = start ++ name := by
  obtain ⟨rest, hrest⟩ := hstart
  rw [visibleName?, ← hrest, ← Text.length_toList, List.drop_left] at h
  split at h
  · cases h
  · rw [← Text.toList_inj, ← Option.some.inj h, Text.toList_append, Text.toList_ofList, hrest]

/-- Listed names come from keys. -/
lemma mem_keys_of_mem_namesFrom (h : name ∈ store.namesFrom start) :
    start ++ name ∈ store.keys := by
  obtain ⟨key, hkey, hname⟩ := List.mem_filterMap.mp h
  obtain ⟨hmem, hstart⟩ := List.mem_filter.mp (List.mem_mergeSort.mp hkey)
  rwa [← eq_append_of_visibleName? (List.isPrefixOf_iff_prefix.mp hstart) hname]

/-- A name that a caller can see: listed in the scope or shared, or the name without a choice. -/
def Store.Lists (store : Store) (scope : Option Text) (name : Text) : Prop :=
  name ∈ (store.listing scope).inScope ∨ name ∈ (store.listing scope).shared ∨
    name = (store.listing scope).defaultTemplate

/-- A name in the scope of a caller is stored under one of the keys that are checked. -/
lemma mem_keys_of_mem_inScope (h : name ∈ (store.listing scope).inScope) :
    ∃ key ∈ keysFor name scope, key ∈ store.keys := by
  simp only [Store.listing] at h
  cases hscope : scope? scope with
  | none => simp [hscope] at h
  | some s =>
    rw [hscope] at h
    exact ⟨s ++ keySpace ++ name, by simp [keysFor, placesFor, hscope], mem_keys_of_mem_namesFrom h⟩

/-- A shared name is, too. -/
lemma mem_keys_of_mem_shared (h : name ∈ (store.listing scope).shared) :
    ∃ key ∈ keysFor name scope, key ∈ store.keys :=
  ⟨keySpace ++ name, by simp [keysFor, placesFor], mem_keys_of_mem_namesFrom h⟩

/-- The default template is a shared one, unless there are none. -/
lemma Listing.defaultTemplate_eq_or_mem (listing : Listing) :
    listing.defaultTemplate = defaultName ∨ listing.defaultTemplate ∈ listing.shared := by
  rw [Listing.defaultTemplate]
  split
  · exact .inl rfl
  · cases hshared : listing.shared with
    | nil => exact .inl rfl
    | cons name names => exact .inr List.mem_cons_self

/-- A listed name has a key of the store, or is the default one. -/
lemma Store.Lists.mem_keys (h : store.Lists scope name) :
    name = defaultName ∨ ∃ key ∈ keysFor name scope, key ∈ store.keys := by
  rcases h with h | h | rfl
  · exact .inr (mem_keys_of_mem_inScope h)
  · exact .inr (mem_keys_of_mem_shared h)
  · exact (store.listing scope).defaultTemplate_eq_or_mem.imp_right mem_keys_of_mem_shared

/-! ### Asking for listed names -/

/-- What stands below the root has names. -/
lemma Store.IsNamed.isName (h : (Store.directory tree root).IsNamed)
    (hroot : tree.resolve? root = some place) (hne : path ≠ [])
    (hnode : (tree.node? (place ++ path)).isSome) : ∀ part ∈ path, IsName part := by
  obtain ⟨entry, hmem, more, hentry⟩ := (FileTree.isSome_node?_iff (by simp [hne])).mp hnode
  rw [List.append_assoc] at hentry
  exact fun part hpart => h place hroot entry hmem _ hentry.symm part (List.mem_append_left _ hpart)

lemma unifyNewlines_ne_nil {a : List CodePoint} (h : a ≠ []) : unifyNewlines a ≠ [] := by
  fun_cases unifyNewlines a with
  | case1 => exact absurd rfl h
  | _ => simp

/-- A text that is shown is read, up to its line breaks. -/
lemma get?_of_shows (hnamed : store.IsNamed) (h : store.Shows key (some text)) (hne : text ≠ "") :
    ∃ text', store.get? key = .ok (some text') ∧ text' ≠ "" := by
  cases h with
  | entry hlookup => exact ⟨text, congrArg Except.ok hlookup, hne⟩
  | @file tree root place folders name text hroot hname hnode =>
    have hpath : ∀ part ∈ folders ++ [name ++ Store.fileSuffix], IsName part :=
      hnamed.isName hroot (by simp) (Option.isSome_of_eq_some hnode)
    have hkey := pathOf_intercalate hpath
    have hfind : tree.find? (Store.pathFor root (Text.intercalate "/" (folders ++ [name]))) =
        some (.file text) := by
      rw [find?_pathFor hroot (hkey ▸ hpath), hkey, hnode]
    refine ⟨onString unifyNewlines text, ?_, ?_⟩
    · rw [Store.get?, FileTree.read?, hfind]
      rfl
    · intro hempty
      rw [onString, Text.ofList_eq_empty_iff] at hempty
      exact unifyNewlines_ne_nil (mt Text.toList_eq_nil_iff.mp hne) hempty

/-- Only a file without a text cannot be read. -/
lemma exists_get?_of_not_isUnreadableAt (h : ¬ store.IsUnreadableAt key) :
    ∃ found, store.get? key = .ok found := by
  cases store with
  | memory templates => exact ⟨_, rfl⟩
  | directory tree root =>
    rw [Store.get?, FileTree.read?]
    split
    · exact ⟨_, rfl⟩
    · next hbinary => exact absurd hbinary h
    · exact ⟨_, rfl⟩
    · exact ⟨_, rfl⟩

/-- A search that comes to a text finds one. -/
lemma exists_searchPlaces {places : List (Tier × Text)} {before after : List Text}
    (hkeys : places.map (·.2) = before ++ key :: after)
    (hbefore : ∀ earlier ∈ before, ¬ store.IsUnreadableAt earlier)
    (hkey : store.get? key = .ok (some text)) (hne : text ≠ "") :
    ∃ found, (searchPlaces store places).outcome = .ok (some found) := by
  induction places generalizing before with
  | nil => simp at hkeys
  | cons place places ih =>
    obtain ⟨tier, first⟩ := place
    rw [List.map_cons] at hkeys
    cases before with
    | nil =>
      obtain ⟨rfl, -⟩ := List.cons.inj hkeys
      have hfilter : (some text).filter (fun text : Text => text ≠ "") = some text := by
        simp [Option.filter, hne]
      refine ⟨(tier, text), ?_⟩
      rw [searchPlaces, hkey]
      dsimp only
      rw [hfilter]
      rfl
    | cons earlier before =>
      obtain ⟨rfl, hrest⟩ := List.cons.inj hkeys
      obtain ⟨hfirst, hbefore⟩ := List.forall_mem_cons.mp hbefore
      obtain ⟨found, hfound⟩ := exists_get?_of_not_isUnreadableAt hfirst
      rw [searchPlaces, hfound]
      dsimp only
      cases found.filter (fun text : Text => text ≠ "") with
      | some other => exact ⟨(tier, other), rfl⟩
      | none => exact ih hrest hbefore

/-- A text is found unless a file without one comes first. -/
lemma exists_outcome_resolve (hnamed : store.IsNamed)
    (h : (name = defaultName ∧ ∀ key ∈ keysFor name scope, ¬ store.IsUnreadableAt key) ∨
      store.OffersText (keysFor name scope)) :
    ∃ text, (store.resolve name scope).outcome = .ok text := by
  rw [store.outcome_resolve]
  rcases h with ⟨rfl, hreadable⟩ | ⟨before, key, after, text, hkeys, hshows, hne, hbefore⟩
  · have hkeys : ∀ place ∈ placesFor defaultName scope,
        store.get? place.2 = .ok (store.get? place.2).toOption.join := by
      intro place hplace
      obtain ⟨found, hfound⟩ :=
        exists_get?_of_not_isUnreadableAt (hreadable place.2 (List.mem_map_of_mem hplace))
      rw [hfound]
      rfl
    obtain ⟨found, houtcome, -⟩ :=
      outcome_searchPlaces (fun key => (store.get? key).toOption.join) _ hkeys
    rw [houtcome]
    cases found with
    | some found => exact ⟨found.2, rfl⟩
    | none => exact ⟨builtInText, if_pos rfl⟩
  · obtain ⟨text', hkey, hne'⟩ := get?_of_shows hnamed hshows hne
    obtain ⟨found, houtcome⟩ := exists_searchPlaces hkeys hbefore hkey hne'
    rw [houtcome]
    exact ⟨found.2, rfl⟩

/-- An empty cache does not take part. -/
lemma outcome_get_of_empty (store : Store) (name : Text) (scope : Option Text) :
    ((⟨store, []⟩ : Registry).get name scope).1.outcome = (store.resolve name scope).outcome := by
  simp only [Registry.get, Registry.cached?, List.lookup_nil]
  split
  · rfl
  · rfl

/-- Every listed name is the default one or stands for something in the store. It is answered with a
text when it stands for a text in which there is something, or when it is the default one, unless a
file that is checked before has no text. -/
theorem get_of_lists (hnamed : store.IsNamed) (hlists : store.Lists scope name) :
    (name = defaultName ∨ ∃ key ∈ keysFor name scope, ∃ found, store.Shows key found) ∧
    ((name = defaultName ∧ ∀ key ∈ keysFor name scope, ¬ store.IsUnreadableAt key) ∨
        store.OffersText (keysFor name scope) →
      ∃ text, ((⟨store, []⟩ : Registry).get name scope).1.outcome = .ok text) := by
  constructor
  · refine hlists.mem_keys.imp_right ?_
    rintro ⟨key, hkey, hmem⟩
    exact ⟨key, hkey, exists_shows hmem⟩
  · intro h
    rw [outcome_get_of_empty]
    exact exists_outcome_resolve hnamed h

/-- A directory with an empty template of a caller, one with the same name that is shared, a file
without a text and a folder that is named like a file. -/
def goldTree : FileTree where
  entries := [(["/", "store", "ana", "_templates", "gold.html"], .file ""),
    (["/", "store", "_templates", "gold.html"], .file "Gold"),
    (["/", "store", "_templates", "photo.html"], .binary),
    (["/", "store", "_templates", "old.html"], .directory)]

lemma isNamed_goldTree : (Store.directory goldTree ["/", "store"]).IsNamed := by
  intro place hplace entry hmem path hpath
  obtain rfl : (["/", "store"] : Path) = place := Option.some.inj hplace
  have hbelow : ∀ entry ∈ goldTree.entries, ∀ part ∈ entry.1.drop 2, IsName part := by decide
  have hdrop : entry.1.drop 2 = path := by
    rw [hpath]
    rfl
  exact hdrop ▸ hbelow entry hmem

/-- The name of the empty template is answered with the shared text. -/
theorem get_of_lists_gold :
    let store := Store.directory goldTree ["/", "store"]
    store.IsNamed ∧ store.Lists (some "ana/") "gold" ∧
      store.OffersText (keysFor "gold" (some "ana/")) ∧
      ∃ text, ((⟨store, []⟩ : Registry).get "gold" (some "ana/")).1.outcome = .ok text := by
  intro store
  have hlists : store.Lists (some "ana/") "gold" := by
    left
    decide +kernel
  have hshows : store.Shows "_templates/gold" (some "Gold") :=
    @Store.Shows.file goldTree ["/", "store"] ["/", "store"] ["_templates"] "gold" "Gold" (by decide)
      (by decide) (by decide)
  have hreadable : ¬ store.IsUnreadableAt "ana/_templates/gold" := by
    show goldTree.find? (Store.pathFor ["/", "store"] "ana/_templates/gold") ≠ some .binary
    decide +kernel
  have hoffers : store.OffersText (keysFor "gold" (some "ana/")) :=
    ⟨["ana/_templates/gold"], "_templates/gold", [], "Gold", by decide, hshows, by decide,
      by simpa using hreadable⟩
  exact ⟨isNamed_goldTree, hlists, hoffers, (get_of_lists isNamed_goldTree hlists).2 (.inr hoffers)⟩

/-- A listed template without text is not found, even where it is the one without a choice. -/
theorem get_of_lists_blank :
    ("blank" : Text) ∈ ((Store.memory [("_templates/blank", "")]).listing none).shared ∧
      ((Store.memory [("_templates/blank", "")]).listing none).defaultTemplate = "blank" ∧
      ((⟨.memory [("_templates/blank", "")], []⟩ : Registry).get "blank" none).1.outcome =
        .error (.missing ⟨"blank", none, ["_templates/blank"]⟩) := by
  decide +kernel

end TripProposal.Template
