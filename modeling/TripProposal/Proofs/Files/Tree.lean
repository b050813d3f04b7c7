import Mathlib.Data.List.Infix
import Mathlib.Data.List.Nodup
import Mathlib.Tactic.Common
import TripProposal.Files.Tree

/-!
# Looking into directory trees

What is listed below a directory is what stands there: a path is listed once if something stands at
it, and not at all otherwise. A path that only leads down is resolved by appending it.
-/

namespace TripProposal

namespace FileTree

variable {tree : FileTree} {path other above directory here place : Path}

/-! ### What stands at a path -/

/-- What stands below a path has this path in front. -/
lemma isBelow_iff : isBelow path above = true ↔ above <+: path ∧ path ≠ above := by
  simp [isBelow, List.isPrefixOf_iff_prefix]

/-- The path itself and what stands above it, without the root. -/
lemma mem_upwards : other ∈ upwards path ↔ other <+: path ∧ other ≠ [] := by
  simp only [upwards, List.mem_map, List.mem_range]
  constructor
  · rintro ⟨n, hn, rfl⟩
    refine ⟨List.take_prefix _ _, ?_⟩
    rw [Ne, List.take_eq_nil_iff, not_or]
    refine ⟨by omega, ?_⟩
    rintro rfl
    simp at hn
  · rintro ⟨hstart, hne⟩
    have hpositive : 0 < other.length := List.length_pos_iff.mpr hne
    have hle := hstart.length_le
    refine ⟨other.length - 1, by omega, ?_⟩
    rw [Nat.sub_add_cancel hpositive]
    exact (List.prefix_iff_eq_take.mp hstart).symm

/-- Something stands at the paths of the entries and above them. -/
lemma isSome_node?_iff (hne : path ≠ []) :
    (tree.node? path).isSome ↔ ∃ entry ∈ tree.entries, path <+: entry.1 := by
  unfold node?
  cases hlookup : tree.entries.lookup path with
  | some node =>
    obtain ⟨before, after, heq, -⟩ := List.lookup_eq_some_iff.mp hlookup
    exact iff_of_true rfl ⟨(path, node), by simp [heq], List.prefix_rfl⟩
  | none =>
    have hentry : ∀ entry ∈ tree.entries, entry.1 ≠ path := by
      intro entry hmem heq
      have hno := List.lookup_eq_none_iff.mp hlookup entry hmem
      simp [heq] at hno
    have hany : (∃ entry ∈ tree.entries, path <+: entry.1) ↔
        ∃ entry ∈ tree.entries, isBelow entry.1 path = true := by
      simp only [isBelow_iff]
      constructor
      · rintro ⟨entry, hmem, hstart⟩
        exact ⟨entry, hmem, hstart, hentry entry hmem⟩
      · rintro ⟨entry, hmem, hstart, -⟩
        exact ⟨entry, hmem, hstart⟩
    rw [hany, ← List.any_eq_true, List.isEmpty_eq_false_iff.mpr hne, Bool.false_or]
    split <;> simp_all

/-- Where no key stands twice, the entries are what can be looked up. -/
lemma lookup_eq_some_iff_mem {α β : Type} [BEq α] [LawfulBEq α] {entries : List (α × β)} {a : α}
    {b : β} (h : (entries.map (·.1)).Nodup) : entries.lookup a = some b ↔ (a, b) ∈ entries := by
  induction entries with
  | nil => simp
  | cons entry entries ih =>
    obtain ⟨a', b'⟩ := entry
    rw [List.map_cons, List.nodup_cons] at h
    by_cases ha : a = a'
    · subst ha
      have hno : (a, b) ∉ entries := fun hmem => h.1 (List.mem_map.mpr ⟨(a, b), hmem, rfl⟩)
      simp [List.lookup_cons_self, hno, eq_comm]
    · have hlookup : ((a', b') :: entries).lookup a = entries.lookup a := by
        rw [List.lookup_cons, beq_false_of_ne ha]
      simp [hlookup, ih h.2, ha]

/-- What is no directory is an entry. -/
lemma node?_eq_iff {node : FileNode} (h : (tree.entries.map (·.1)).Nodup)
    (hnode : node ≠ .directory) :
    tree.node? path = some node ↔ (path, node) ∈ tree.entries := by
  rw [← lookup_eq_some_iff_mem h, node?]
  cases tree.entries.lookup path with
  | some node => rfl
  | none => simp [Ne.symm hnode]

/-- Directories are entries or stand above entries. -/
lemma of_node?_eq_directory (h : tree.node? path = some .directory) :
    path = [] ∨ ∃ entry ∈ tree.entries, path <+: entry.1 ∧
      (entry.1 = path → entry = (path, .directory)) := by
  unfold node? at h
  split at h
  · next node hlookup =>
    obtain rfl := Option.some.inj h
    obtain ⟨before, after, heq, -⟩ := List.lookup_eq_some_iff.mp hlookup
    exact .inr ⟨(path, .directory), by simp [heq], List.prefix_rfl, fun _ => rfl⟩
  · split at h
    · next habove =>
      rw [Bool.or_eq_true, List.isEmpty_iff, List.any_eq_true] at habove
      rcases habove with hempty | ⟨entry, hmem, hbelow⟩
      · exact .inl hempty
      · obtain ⟨hstart, hne⟩ := isBelow_iff.mp hbelow
        exact .inr ⟨entry, hmem, hstart, fun heq => absurd heq hne⟩
    · cases h

/-- The paths of a tree are those with a node, without the root. -/
lemma mem_paths : path ∈ tree.paths ↔ path ≠ [] ∧ (tree.node? path).isSome := by
  simp only [paths, List.mem_eraseDups, List.mem_flatMap, mem_upwards]
  constructor
  · rintro ⟨entry, hmem, hstart, hne⟩
    exact ⟨hne, (isSome_node?_iff hne).mpr ⟨entry, hmem, hstart⟩⟩
  · rintro ⟨hne, hnode⟩
    obtain ⟨entry, hmem, hstart⟩ := (isSome_node?_iff hne).mp hnode
    exact ⟨entry, hmem, hstart, hne⟩

/-! ### Listing a directory -/

/-- What stands below a directory is listed, and nothing else. -/
lemma mem_pathsBelow : path ∈ tree.pathsBelow place ↔
    path ≠ [] ∧ (tree.node? (place ++ path)).isSome := by
  simp only [pathsBelow, List.mem_map, List.mem_filter, isBelow_iff, mem_paths]
  constructor
  · rintro ⟨other, ⟨⟨-, hnode⟩, ⟨rest, rfl⟩, hne⟩, rfl⟩
    rw [List.drop_left]
    exact ⟨by simpa using hne, hnode⟩
  · rintro ⟨hne, hnode⟩
    exact ⟨place ++ path, ⟨⟨by simp [hne], hnode⟩, List.prefix_append _ _, by simpa using hne⟩,
      List.drop_left⟩

lemma nodup_eraseDups {α : Type} [BEq α] [LawfulBEq α] (l : List α) : l.eraseDups.Nodup := by
  match l with
  | [] => simp
  | a :: l =>
    rw [List.eraseDups_cons, List.nodup_cons, List.mem_eraseDups]
    exact ⟨by simp, nodup_eraseDups (l.filter fun b => !b == a)⟩
termination_by l.length
decreasing_by exact Nat.lt_succ_of_le (List.length_filter_le _ l)

/-- Each path below a place is met once. -/
lemma nodup_pathsBelow (tree : FileTree) (place : Path) : (tree.pathsBelow place).Nodup := by
  refine List.Nodup.map_on ?_ ((nodup_eraseDups _).filter _)
  simp only [List.mem_filter, isBelow_iff]
  rintro path ⟨-, ⟨rest, rfl⟩, -⟩ other ⟨-, ⟨rest', rfl⟩, -⟩ h
  rw [List.drop_left, List.drop_left] at h
  rw [h]

/-! ### Leading down -/

/-- A path is followed part by part. -/
lemma resolveFrom?_append (tree : FileTree) (here path other : Path) :
    tree.resolveFrom? here (path ++ other) =
      (tree.resolveFrom? here path).bind fun place => tree.resolveFrom? place other := by
  induction path generalizing here with
  | nil => rfl
  | cons part path ih =>
    rw [List.cons_append, resolveFrom?, resolveFrom?]
    split
    · split
      · rfl
      · exact ih _
    · exact ih _

/-- A path that goes down only leads to the place that it spells. -/
lemma resolveFrom?_down (tree : FileTree) (here : Path) (h : (".." : Text) ∉ path) :
    tree.resolveFrom? here path = some (here ++ path) := by
  induction path generalizing here with
  | nil => simp [resolveFrom?]
  | cons part path ih =>
    rw [List.mem_cons, not_or] at h
    rw [resolveFrom?, if_neg (Ne.symm h.1), ih _ h.2, List.append_assoc, List.singleton_append]

/-- A relative path has no stroke in front to lose. -/
lemma grounded_of_isAbsolute_eq_false (h : path.isAbsolute = false) : path.grounded = path := by
  cases path with
  | nil => rfl
  | cons part path =>
    have hpart : part ≠ Path.doubleRootPart := by
      rintro rfl
      simp [Path.isAbsolute, Path.isRoot] at h
    rw [Path.grounded, if_neg hpart]

/-- A path that leads down from another one leads to where it stands below it. -/
lemma resolve?_append (h : tree.resolve? path = some place) (hdown : (".." : Text) ∉ other)
    (hrelative : other.isAbsolute = false) : tree.resolve? (path ++ other) =
      some (place ++ other) := by
  have hstart : tree.startOf (path ++ other) = tree.startOf path := by
    cases path with
    | nil =>
      rw [List.nil_append, startOf, startOf, hrelative]
      rfl
    | cons part path => rfl
  have hground : (path ++ other).grounded = path.grounded ++ other := by
    cases path with
    | nil => exact grounded_of_isAbsolute_eq_false hrelative
    | cons part path => rfl
  unfold resolve? at h ⊢
  rw [hstart, hground, resolveFrom?_append, h, Option.bind_some, resolveFrom?_down tree place hdown]

end FileTree

end TripProposal
