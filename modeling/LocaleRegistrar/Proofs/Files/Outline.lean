import LocaleRegistrar.Locale.Catalog
import LocaleRegistrar.Proofs.Files.Writing

/-! The outline of a tree: which files and directories there are, without what the files hold.
Where a path leads, which packages can be found and which locales are available depends on the
outline alone, and putting other bytes into a file keeps it. -/

namespace LocaleRegistrar

namespace Files

def Node.emptied : Node → Node
  | .file _ => .file []
  | .directory => .directory

namespace Tree

/-- The tree with all files empty. -/
def outline (t : Tree) : Tree :=
  ⟨t.entries.map fun entry => (entry.1, entry.2.emptied)⟩

theorem lookup_emptied (entries : List (Location × Node)) (l : Location) :
    (entries.map fun entry => (entry.1, entry.2.emptied)).lookup l =
      (entries.lookup l).map Node.emptied := by
  induction entries with
  | nil => rfl
  | cons entry entries ih =>
    rw [List.map_cons, List.lookup_cons, List.lookup_cons, ih]
    cases l == entry.1 <;> rfl

@[simp] theorem get?_outline (t : Tree) (l : Location) :
    t.outline.get? l = (t.get? l).map Node.emptied := by
  unfold get?
  split
  · rfl
  · exact lookup_emptied t.entries l

@[simp] theorem isFile_outline (t : Tree) (l : Location) : t.outline.isFile l = t.isFile l := by
  rw [isFile, isFile, get?_outline]
  cases t.get? l with
  | none => rfl
  | some node => cases node <;> rfl

@[simp] theorem isDirectory_outline (t : Tree) (l : Location) :
    t.outline.isDirectory l = t.isDirectory l := by
  rw [isDirectory, isDirectory, get?_outline]
  cases t.get? l with
  | none => rfl
  | some node => cases node <;> rfl

theorem follow_outline (t : Tree) : t.outline.follow = t.follow := by
  funext l name
  rw [follow, follow, get?_outline]
  cases t.get? l with
  | none => rfl
  | some node => cases node <;> rfl

@[simp] theorem locate_outline (t : Tree) (here : Location) (p : Path) :
    t.outline.locate here p = t.locate here p := by
  rw [locate, locate, follow_outline]

/-- Reading a file depends on the outline and on what stands at the place of the path. -/
theorem read_congr {t t' : Tree} {here : Location} {p : Path} (houtline : t'.outline = t.outline)
    (hget : t'.get? (p.resolve here) = t.get? (p.resolve here)) :
    t'.read here p = t.read here p := by
  have hlocate : t'.locate here p = t.locate here p := by
    rw [← locate_outline, houtline, locate_outline]
  rw [read, read, hlocate]
  cases hl : t.locate here p with
  | error fault => rfl
  | ok l =>
    obtain ⟨rfl, -⟩ := locate_eq_ok_iff.mp hl
    simp only [hget]

/-! ### Packages -/

theorem findOn_outline (t : Tree) (path : List Location) (name : String) :
    t.outline.findOn path name = t.findOn path name := by
  have hfind : t.outline.findIn name = t.findIn name := by
    funext dir
    simp [findIn]
  rw [findOn, findOn, hfind]

@[simp] theorem packageDirectories_outline (t : Tree) (path : List Location) (name : String) :
    t.outline.packageDirectories path name = t.packageDirectories path name := by
  simp only [packageDirectories, findOn_outline]

theorem children_outline (t : Tree) (l : Location) :
    t.outline.children l = (t.children l).map fun child => (child.1, child.2.emptied) := by
  rw [children, children, outline, List.filterMap_map, List.map_filterMap]
  congr 1
  funext entry
  by_cases hl : entry.1.dropLast = l
  · cases hlast : entry.1.getLast? <;> simp [hl, hlast]
  · simp [hl]

theorem glob_outline (t : Tree) (l : Location) (pattern : String) :
    t.outline.glob l pattern = (t.glob l pattern).map fun child => (child.1, child.2.emptied) := by
  rw [glob, children_outline, List.filter_map]
  rfl

theorem isSome_lookup_emptied (children : List (String × Node)) (name : String) :
    ((children.map fun child => (child.1, child.2.emptied)).lookup name).isSome =
      (children.lookup name).isSome := by
  induction children with
  | nil => rfl
  | cons child children ih =>
    rw [List.map_cons, List.lookup_cons, List.lookup_cons]
    cases name == child.1
    · exact ih
    · rfl

theorem mergedChildren_outline (t : Tree) (dirs : List Location) :
    t.outline.mergedChildren dirs =
      (t.mergedChildren dirs).map fun child => (child.1, child.2.emptied) := by
  have hall : dirs.flatMap t.outline.children =
      (dirs.flatMap t.children).map fun child => (child.1, child.2.emptied) := by
    rw [List.map_flatMap]
    congr 1
    funext l
    exact t.children_outline l
  rw [mergedChildren, mergedChildren, hall, List.foldl_map]
  -- what has been seen so far has the same names in both trees
  refine @List.foldl_hom _ _ _ (List.map fun child : String × Node => (child.1, child.2.emptied))
    _ _ _ [] fun seen child => ?_
  rw [isSome_lookup_emptied]
  split <;> simp

/-! ### Rewriting a file -/

/-- Every location stands once in a tree, and `..` is no name. -/
structure WellFormed (t : Tree) : Prop where
  distinct : (t.entries.map (·.1)).Nodup
  named : ∀ entry ∈ t.entries, ".." ∉ entry.1

theorem insert_of_get? {t : Tree} {l : Location} {e : Node} (hl : l ≠ [])
    (hold : t.get? l = some e) (new : Node) :
    t.insert l new = ⟨t.entries.map fun entry => if entry.1 = l then (l, new) else entry⟩ := by
  rw [get?, if_neg hl] at hold
  rw [insert, if_pos (by simp [hold])]

theorem keys_replace (entries : List (Location × Node)) (l : Location) (new : Node) :
    (entries.map fun entry => if entry.1 = l then (l, new) else entry).map (·.1) =
      entries.map (·.1) := by
  rw [List.map_map]
  refine List.map_congr_left fun entry _ => ?_
  by_cases hentry : entry.1 = l <;> simp [hentry]

/-- Putting a node somewhere keeps every location from standing twice. -/
theorem nodup_insert (t : Tree) (l : Location) (e : Node) (h : (t.entries.map (·.1)).Nodup) :
    ((t.insert l e).entries.map (·.1)).Nodup := by
  unfold insert
  split
  · rwa [keys_replace]
  · next hnew =>
    have hnone := List.lookup_eq_none_iff.mp (Option.not_isSome_iff_eq_none.mp hnew)
    rw [List.map_append, List.nodup_append]
    refine ⟨h, by simp, fun place hplace other hother => ?_⟩
    obtain rfl : other = l := by simpa using hother
    obtain ⟨entry, hentry, rfl⟩ := List.mem_map.mp hplace
    simpa using Ne.symm (by simpa using hnone entry hentry)

theorem WellFormed.insert {t : Tree} (h : t.WellFormed) {l : Location} (hl : l ≠ []) {e : Node}
    (hold : t.get? l = some e) (new : Node) : (t.insert l new).WellFormed := by
  refine ⟨nodup_insert t l new h.distinct, ?_⟩
  rw [insert_of_get? hl hold]
  intro entry hentry
  obtain ⟨old, hmem, rfl⟩ := List.mem_map.mp hentry
  have hname := h.named old hmem
  split
  · next heq => exact heq ▸ hname
  · exact hname

/-- What a well-formed tree holds for a location is what stands there. -/
theorem WellFormed.get?_of_mem {t : Tree} (h : t.WellFormed) {l : Location} {e : Node}
    (hmem : (l, e) ∈ t.entries) (hl : l ≠ []) : t.get? l = some e := by
  rw [get?, if_neg hl]
  obtain ⟨front, back, hsplit⟩ := List.append_of_mem hmem
  have hnodup := h.distinct
  rw [hsplit, List.map_append, List.map_cons, List.nodup_append] at hnodup
  rw [hsplit, List.lookup_append, List.lookup_cons_self]
  have hnone : front.lookup l = none := by
    refine List.lookup_eq_none_iff.mpr fun entry hentry => ?_
    have hne := hnodup.2.2 entry.1 (List.mem_map_of_mem hentry) l (by simp)
    simpa using Ne.symm hne
  rw [hnone, Option.none_or]

/-- Putting other bytes into a file keeps the outline. -/
theorem outline_insert {t : Tree} (h : t.WellFormed) {l : Location} {old : List UInt8}
    (hold : t.get? l = some (.file old)) (new : List UInt8) :
    (t.insert l (.file new)).outline = t.outline := by
  have hl : l ≠ [] := t.ne_nil_of_get? (by simp [hold])
  rw [insert_of_get? hl hold, outline, outline, List.map_map]
  congr 1
  refine List.map_congr_left fun entry hentry => ?_
  obtain ⟨key, node⟩ := entry
  by_cases hkey : key = l
  · subst hkey
    have hnode := h.get?_of_mem hentry hl
    rw [hold] at hnode
    obtain rfl := Option.some.inj hnode
    simp [Node.emptied]
  · simp [hkey]

end Tree

end Files

namespace Locale

open LocaleRegistrar.Files

theorem fileNames_emptied (children : List (String × Node)) :
    fileNames (children.map fun child => (child.1, child.2.emptied)) = fileNames children := by
  rw [fileNames, fileNames, List.filterMap_map]
  congr 1
  funext child
  obtain ⟨name, _ | _⟩ := child <;> rfl

namespace Source

variable (source : Source) (here : Location) (searchPath : List Location) {t t' : Tree}

theorem directory?_outline (s : Surroundings) (path : Files.Path) :
    directory? { s with files := s.files.outline } path = directory? s path := by
  simp [directory?]

theorem list_outline (s : Surroundings) :
    source.list { s with files := s.files.outline } = source.list s := by
  cases source with
  | fixed locales => rfl
  | directory path =>
    simp [list, directory?_outline, Tree.glob_outline, fileNames_emptied]
  | package name =>
    simp [list, package?, Tree.mergedChildren_outline, fileNames_emptied]

theorem listNotes_outline (s : Surroundings) :
    source.listNotes { s with files := s.files.outline } = source.listNotes s := by
  cases source with
  | fixed locales => rfl
  | directory path => simp [listNotes, directory?_outline]
  | package name =>
    have hpackage : package? { s with files := s.files.outline } name = package? s name :=
      s.files.packageDirectories_outline s.searchPath name
    rw [listNotes, listNotes, hpackage]

/-- The available locales depend on the outline of the files. -/
theorem list_congr (h : t'.outline = t.outline) :
    source.list ⟨t', here, searchPath⟩ = source.list ⟨t, here, searchPath⟩ := by
  rw [← source.list_outline ⟨t', here, searchPath⟩, ← source.list_outline ⟨t, here, searchPath⟩, h]

theorem listNotes_congr (h : t'.outline = t.outline) :
    source.listNotes ⟨t', here, searchPath⟩ = source.listNotes ⟨t, here, searchPath⟩ := by
  rw [← source.listNotes_outline ⟨t', here, searchPath⟩,
    ← source.listNotes_outline ⟨t, here, searchPath⟩, h]

end Source

end Locale

end LocaleRegistrar
