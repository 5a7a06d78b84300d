import Mathlib.Data.List.Lex
import Mathlib.Data.List.Sort
import Mathlib.Data.String.Basic
import MockApi.Files.Tree

/-!
# Which documents are found

A listing of the documents below a location is in order and names each of them once, and each of
them can be read.

* `FileTree.Plain` : a tree that a disk can hold, with one file at a place and no file inside another;
* `FileTree.mem_documentsBelow` : what is listed below a location;
* `FileTree.Plain.documentsBelow_pairwise` : the listing is in order, without repetitions;
* `FileTree.Plain.read_of_mem_documentsBelow` : what is listed can be read;
* `FileTree.Receives` : where a file can be put, be it in place of another one;
* `FileTree.Plain.documentsBelow_putFile`, `FileTree.Plain.read_putFile` : a file that is put in a
  tree changes nothing about the other documents.
-/

namespace MockApi

/-! ## The order of locations -/

namespace Location

theorem before_iff_lt (a b : Location) : before a b = true ↔ a < b := by
  induction a generalizing b with
  | nil => cases b <;> simp [before]
  | cons x xs ih =>
    cases b with
    | nil => simp [before]
    | cons y ys =>
      unfold before
      rw [List.cons_lt_cons_iff]
      split
      · next heq => simp [heq, ih]
      · next hne => simp [hne]

theorem insert_eq_orderedInsert (place : Location) (others : List Location) :
    insert place others = others.orderedInsert (· ≤ ·) place := by
  induction others with
  | nil => rfl
  | cons other rest ih =>
    by_cases hbefore : before other place = true
    · have hlt : ¬ place ≤ other := not_le.2 ((before_iff_lt other place).1 hbefore)
      simp [insert, hbefore, hlt, ih]
    · have hle : place ≤ other := not_lt.1 fun hlt => hbefore ((before_iff_lt other place).2 hlt)
      simp [insert, hbefore, hle]

theorem sort_eq_insertionSort (places : List Location) :
    sort places = places.insertionSort (· ≤ ·) := by
  induction places with
  | nil => rfl
  | cons place rest ih => rw [sort, ih, insert_eq_orderedInsert, List.insertionSort_cons]

/-- Different locations in order are strictly in order. -/
theorem pairwise_sort {places : List Location} (h : places.Nodup) :
    (sort places).Pairwise (· < ·) := by
  have hnodup : (sort places).Nodup := (sort_perm places).nodup_iff.2 h
  have hle : (sort places).Pairwise (· ≤ ·) := by
    rw [sort_eq_insertionSort]
    exact List.pairwise_insertionSort (· ≤ ·) places
  refine (hle.and hnodup).imp ?_
  rintro a b ⟨hle, hne⟩
  exact lt_of_le_of_ne hle hne

end Location

namespace FileTree

variable {tree : FileTree} {top here place other target : Location} {bytes : List Nat}

/-! ## Plain trees -/

/-- A tree that a disk can hold: there is one file at a place, no file where a folder is, and no name
for the folder above on the way to a file. -/
structure Plain (tree : FileTree) : Prop where
  once : (tree.files.map Prod.fst).Nodup
  apart : ∀ file ∈ tree.files, tree.isFolder file.1 = false
  ahead : ∀ file ∈ tree.files, Location.above ∉ file.1

instance (tree : FileTree) : Decidable tree.Plain :=
  decidable_of_iff ((tree.files.map Prod.fst).Nodup ∧
      (∀ file ∈ tree.files, tree.isFolder file.1 = false) ∧
      ∀ file ∈ tree.files, Location.above ∉ file.1)
    ⟨fun ⟨once, apart, ahead⟩ => ⟨once, apart, ahead⟩,
      fun hplain => ⟨hplain.once, hplain.apart, hplain.ahead⟩⟩

theorem isFolder_iff : tree.isFolder place = true ↔
    place = [] ∨ (∃ folder ∈ tree.folders, place <+: folder) ∨
      ∃ file ∈ tree.files, place <+: file.1 ∧ place ≠ file.1 := by
  simp [isFolder, or_assoc]

theorem isFolder_of_prefix (hbelow : place <+: other) (h : tree.isFolder other = true) :
    tree.isFolder place = true := by
  rw [isFolder_iff] at h ⊢
  obtain rfl | ⟨folder, hfolder, hother⟩ | ⟨file, hfile, hother, hne⟩ := h
  · exact .inl (List.prefix_nil.1 hbelow)
  · exact .inr (.inl ⟨folder, hfolder, hbelow.trans hother⟩)
  · refine .inr (.inr ⟨file, hfile, hbelow.trans hother, ?_⟩)
    rintro rfl
    exact hne (hother.eq_of_length (le_antisymm hother.length_le hbelow.length_le))

/-- What is left behind on the way to a file is a folder. -/
theorem isFolder_of_mem_files {name : String} {rest : List String}
    (hfile : (here ++ name :: rest, bytes) ∈ tree.files) : tree.isFolder here = true := by
  refine isFolder_iff.2 (.inr (.inr ⟨_, hfile, List.prefix_append .., ?_⟩))
  intro h
  simp at h

namespace Plain

variable (hplain : tree.Plain)
include hplain

theorem entry?_eq_folder_iff : tree.entry? place = some .folder ↔ tree.isFolder place = true := by
  unfold entry?
  split
  · next bytes hlookup =>
    obtain ⟨_, _, hfiles, -⟩ := List.lookup_eq_some_iff.1 hlookup
    have hapart : tree.isFolder place = false := hplain.apart (place, bytes) (by simp [hfiles])
    simp [hapart]
  · simp

theorem entry?_of_mem_files (hfile : (place, bytes) ∈ tree.files) :
    tree.entry? place = some (.file bytes) := by
  obtain ⟨before, after, hfiles⟩ := List.append_of_mem hfile
  have honce := hplain.once
  rw [hfiles, List.map_append, List.nodup_append] at honce
  have hlookup : tree.files.lookup place = some bytes := by
    refine List.lookup_eq_some_iff.2 ⟨before, after, hfiles, ?_⟩
    intro file hbefore
    have hne : file.1 ≠ place :=
      honce.2.2 file.1 (List.mem_map_of_mem hbefore) place (by simp)
    simpa using hne.symm
  unfold entry?
  rw [hlookup]

theorem resolveFrom_cons {name : String} {rest : List String} :
    tree.resolveFrom here (name :: rest) = .ok target ↔
      tree.isFolder here = true ∧
        tree.resolveFrom (if name = Location.above then up here else here ++ [name]) rest =
          .ok target := by
  rw [← hplain.entry?_eq_folder_iff]
  conv_lhs => unfold resolveFrom
  split <;> simp [*]

/-- The way to a file leads there. -/
theorem resolveFrom_of_mem_files {way : Location} (hfile : (here ++ way, bytes) ∈ tree.files) :
    tree.resolveFrom here way = .ok (here ++ way) := by
  induction way generalizing here with
  | nil => simp [resolveFrom]
  | cons name rest ih =>
    have hahead : Location.above ∉ here ++ name :: rest := hplain.ahead _ hfile
    have hname : name ≠ Location.above := by
      rintro rfl
      exact hahead (by simp)
    rw [hplain.resolveFrom_cons, if_neg hname]
    refine ⟨isFolder_of_mem_files hfile, ?_⟩
    rw [List.append_cons] at hfile ⊢
    simpa using ih hfile

theorem read_of_mem_files (hfile : (target, bytes) ∈ tree.files)
    (h : tree.resolve place = .ok target) : tree.read place = .ok bytes := by
  simp [read, find, h, hplain.entry?_of_mem_files hfile, bind, Except.bind, pure, Except.pure]

end Plain

/-! ## Listings -/

def IsDocument (way : Location) : Prop := ∃ name, way.getLast? = some name ∧ isDocumentName name = true

theorem resolveFrom_append (here : Location) (names more : List String) :
    tree.resolveFrom here (names ++ more) =
      (tree.resolveFrom here names).bind (tree.resolveFrom · more) := by
  induction names generalizing here with
  | nil => rfl
  | cons name rest ih =>
    simp only [List.cons_append, resolveFrom]
    split
    · rfl
    · rfl
    · exact ih _

/-- The document that a file is when what is below one place is listed as below another one. -/
def listed? (top here file : Location) : Option Location := do
  let way ← wayBelow? here file
  let name ← way.getLast?
  if isDocumentName name then some (top ++ way) else none

theorem listed?_eq_some_iff {file : Location} :
    listed? top here file = some place ↔
      ∃ way, IsDocument way ∧ file = here ++ way ∧ place = top ++ way := by
  unfold listed? wayBelow?
  by_cases hbelow : here <+: file
  · obtain ⟨way, rfl⟩ := hbelow
    cases hlast : way.getLast? with
    | none => simp [IsDocument, hlast]
    | some name =>
      by_cases hname : isDocumentName name = true
      · simp [IsDocument, hlast, hname, eq_comm (a := place)]
      · simp [IsDocument, hlast, hname]
  · have hne : ∀ way, file ≠ here ++ way := fun way heq => hbelow ⟨way, heq.symm⟩
    simp [hbelow, hne]

theorem documentsBelow_of_resolve (htop : tree.resolve top = .ok here) :
    tree.documentsBelow top =
      Location.sort ((tree.files.map Prod.fst).filterMap (listed? top here)) := by
  unfold documentsBelow
  rw [htop, List.filterMap_map]
  rfl

theorem documentsBelow_of_error {fault : FileFault} (htop : tree.resolve top = .error fault) :
    tree.documentsBelow top = [] := by
  simp [documentsBelow, htop]

/-- What is listed below a location: each document that a way from there leads to. -/
theorem mem_documentsBelow : place ∈ tree.documentsBelow top ↔
    ∃ here way, tree.resolve top = .ok here ∧ IsDocument way ∧ place = top ++ way ∧
      here ++ way ∈ tree.files.map Prod.fst := by
  cases htop : tree.resolve top with
  | error fault => simp [documentsBelow_of_error htop]
  | ok here =>
    rw [documentsBelow_of_resolve htop, (Location.sort_perm _).mem_iff, List.mem_filterMap]
    simp only [listed?_eq_some_iff]
    constructor
    · rintro ⟨file, hfile, way, hway, rfl, rfl⟩
      exact ⟨here, way, rfl, hway, rfl, hfile⟩
    · rintro ⟨_, way, hhere, hway, rfl, hfile⟩
      cases hhere
      exact ⟨here ++ way, hfile, way, hway, rfl, rfl⟩

namespace Plain

variable (hplain : tree.Plain)
include hplain

/-- A listing is in order. -/
theorem documentsBelow_pairwise (top : Location) : (tree.documentsBelow top).Pairwise (· < ·) := by
  cases htop : tree.resolve top with
  | error fault => simp [documentsBelow_of_error htop]
  | ok here =>
    rw [documentsBelow_of_resolve htop]
    apply Location.pairwise_sort
    refine List.Pairwise.filterMap (listed? top here) ?_ hplain.once
    rintro file other hne place hfile _ hother rfl
    obtain ⟨way, -, rfl, rfl⟩ := listed?_eq_some_iff.1 hfile
    obtain ⟨way', -, rfl, heq⟩ := listed?_eq_some_iff.1 hother
    exact hne (by rw [List.append_cancel_left heq])

theorem resolve_append {way : Location} (htop : tree.resolve top = .ok here)
    (hfile : here ++ way ∈ tree.files.map Prod.fst) :
    tree.resolve (top ++ way) = .ok (here ++ way) := by
  obtain ⟨⟨place, bytes⟩, hfile, hplace⟩ := List.mem_map.1 hfile
  cases hplace
  unfold resolve at htop ⊢
  rw [resolveFrom_append, htop]
  exact hplain.resolveFrom_of_mem_files hfile

/-- What is listed leads to a file. -/
theorem resolve_of_mem_documentsBelow (h : place ∈ tree.documentsBelow top) :
    ∃ target bytes, (target, bytes) ∈ tree.files ∧ tree.resolve place = .ok target := by
  obtain ⟨here, way, htop, -, rfl, hfile⟩ := mem_documentsBelow.1 h
  have hplace := hplain.resolve_append htop hfile
  obtain ⟨⟨target, bytes⟩, hfile, rfl⟩ := List.mem_map.1 hfile
  exact ⟨here ++ way, bytes, hfile, hplace⟩

/-- What is listed can be read. -/
theorem read_of_mem_documentsBelow (h : place ∈ tree.documentsBelow top) :
    ∃ bytes, tree.read place = .ok bytes := by
  obtain ⟨target, bytes, hfile, htarget⟩ := hplain.resolve_of_mem_documentsBelow h
  exact ⟨bytes, hplain.read_of_mem_files hfile htarget⟩

end Plain

/-! ## Files that are put in a tree -/

/-- Whether a file can be put at a place: in a folder, where no folder is. -/
structure Receives (tree : FileTree) (place : Location) : Prop where
  parent : tree.isFolder place.dropLast = true
  free : tree.isFolder place = false
  ahead : Location.above ∉ place

def leadsTo (tree : FileTree) (target place : Location) : Bool :=
  decide (tree.resolve place = .ok target)

theorem leadsTo_iff : tree.leadsTo target place = true ↔ tree.resolve place = .ok target :=
  decide_eq_true_iff

theorem mem_files_putFile {file : Location × List Nat} :
    file ∈ (tree.putFile target bytes).files ↔
      file ∈ tree.files ∧ file.1 ≠ target ∨ file = (target, bytes) := by
  simp [putFile]

theorem Receives.isFolder_putFile (h : tree.Receives target) (bytes : List Nat) (place : Location) :
    (tree.putFile target bytes).isFolder place = tree.isFolder place := by
  have hne : target ≠ [] := by
    rintro rfl
    exact absurd h.free (by simp [isFolder])
  rw [Bool.eq_iff_iff]
  constructor
  · intro hfolder
    obtain hnil | hfolders | ⟨file, hfile, hbelow, hproper⟩ := isFolder_iff.1 hfolder
    · exact isFolder_iff.2 (.inl hnil)
    · exact isFolder_iff.2 (.inr (.inl hfolders))
    · obtain ⟨hold, -⟩ | rfl := mem_files_putFile.1 hfile
      · exact isFolder_iff.2 (.inr (.inr ⟨file, hold, hbelow, hproper⟩))
      · -- A folder on the way to the new file is the one it is put in, or leads to that.
        rw [← List.dropLast_concat_getLast hne, List.prefix_concat_iff,
          List.dropLast_concat_getLast hne] at hbelow
        exact isFolder_of_prefix (hbelow.resolve_left hproper) h.parent
  · intro hfolder
    obtain hnil | hfolders | ⟨file, hfile, hbelow, hproper⟩ := isFolder_iff.1 hfolder
    · exact isFolder_iff.2 (.inl hnil)
    · exact isFolder_iff.2 (.inr (.inl hfolders))
    · by_cases htarget : file.1 = target
      · rw [htarget] at hbelow hproper
        exact isFolder_iff.2 (.inr (.inr ⟨_, mem_files_putFile.2 (.inr rfl), hbelow, hproper⟩))
      · exact isFolder_iff.2
          (.inr (.inr ⟨file, mem_files_putFile.2 (.inl ⟨hfile, htarget⟩), hbelow, hproper⟩))

namespace Plain

variable (hplain : tree.Plain) (h : tree.Receives target)
include hplain h

theorem putFile (bytes : List Nat) : (tree.putFile target bytes).Plain where
  once := by
    have hkept : ((tree.files.filter fun file => file.1 != target).map Prod.fst).Nodup :=
      hplain.once.sublist (List.filter_sublist.map Prod.fst)
    simp only [FileTree.putFile, List.map_append, List.nodup_append]
    refine ⟨hkept, by simp, ?_⟩
    intro place hplace other hother
    obtain ⟨file, hfile, rfl⟩ := List.mem_map.1 hplace
    obtain rfl : other = target := by simpa using hother
    simpa using List.of_mem_filter hfile
  apart := by
    intro file hfile
    rw [h.isFolder_putFile]
    obtain ⟨hold, -⟩ | rfl := mem_files_putFile.1 hfile
    · exact hplain.apart file hold
    · exact h.free
  ahead := by
    intro file hfile
    obtain ⟨hold, -⟩ | rfl := mem_files_putFile.1 hfile
    · exact hplain.ahead file hold
    · exact h.ahead

theorem resolveFrom_putFile (bytes : List Nat) (here place other : Location) :
    (tree.putFile target bytes).resolveFrom here place = .ok other ↔
      tree.resolveFrom here place = .ok other := by
  induction place generalizing here with
  | nil => rfl
  | cons name rest ih =>
    rw [(hplain.putFile h bytes).resolveFrom_cons, hplain.resolveFrom_cons, h.isFolder_putFile, ih]

/-- Besides the new file, the same documents are listed. -/
theorem documentsBelow_putFile (bytes : List Nat) (top : Location) :
    ((tree.putFile target bytes).documentsBelow top).filter (!tree.leadsTo target ·) =
      (tree.documentsBelow top).filter (!tree.leadsTo target ·) := by
  have hplain' := hplain.putFile h bytes
  refine ((hplain'.documentsBelow_pairwise top).filter _).eq_of_mem_iff
    ((hplain.documentsBelow_pairwise top).filter _) ?_
  intro place
  rw [List.mem_filter, List.mem_filter]
  refine and_congr_left fun hother => ?_
  have hne : ¬ tree.resolve place = .ok target := by simpa [leadsTo] using hother
  rw [mem_documentsBelow, mem_documentsBelow]
  constructor
  · rintro ⟨here, way, htop, hway, rfl, hfile⟩
    have hplace := (hplain.resolveFrom_putFile h bytes [] _ _).1 (hplain'.resolve_append htop hfile)
    refine ⟨here, way, (hplain.resolveFrom_putFile h bytes [] top here).1 htop, hway, rfl, ?_⟩
    obtain ⟨file, hfile, heq⟩ := List.mem_map.1 hfile
    obtain ⟨hold, -⟩ | rfl := mem_files_putFile.1 hfile
    · exact heq ▸ List.mem_map_of_mem hold
    · exact absurd hplace (heq ▸ hne)
  · rintro ⟨here, way, htop, hway, rfl, hfile⟩
    have hplace := hplain.resolve_append htop hfile
    refine ⟨here, way, (hplain.resolveFrom_putFile h bytes [] top here).2 htop, hway, rfl, ?_⟩
    obtain ⟨file, hfile, heq⟩ := List.mem_map.1 hfile
    have hdiffer : file.1 ≠ target := by
      rintro rfl
      exact hne (heq ▸ hplace)
    exact heq ▸ List.mem_map_of_mem (mem_files_putFile.2 (.inl ⟨hfile, hdiffer⟩))

/-- The other documents are read as before. -/
theorem read_putFile (hplace : place ∈ tree.documentsBelow top)
    (hne : tree.leadsTo target place = false) (bytes : List Nat) :
    (tree.putFile target bytes).read place = tree.read place := by
  obtain ⟨other, content, hfile, hother⟩ := hplain.resolve_of_mem_documentsBelow hplace
  have hdiffer : other ≠ target := by
    rintro rfl
    exact absurd (leadsTo_iff.2 hother) (by simp [hne])
  have hfile' : (other, content) ∈ (tree.putFile target bytes).files :=
    mem_files_putFile.2 (.inl ⟨hfile, hdiffer⟩)
  have hother' := (hplain.resolveFrom_putFile h bytes [] place other).2 hother
  rw [hplain.read_of_mem_files hfile hother, (hplain.putFile h bytes).read_of_mem_files hfile' hother']

/-- The new file is what is read at its place. -/
theorem read_putFile_self (hplace : tree.leadsTo target place = true) (bytes : List Nat) :
    (tree.putFile target bytes).read place = .ok bytes := by
  have hfile : (target, bytes) ∈ (tree.putFile target bytes).files := mem_files_putFile.2 (.inr rfl)
  have htarget := (hplain.resolveFrom_putFile h bytes [] place target).2 (leadsTo_iff.1 hplace)
  exact (hplain.putFile h bytes).read_of_mem_files hfile htarget

end Plain

end FileTree

end MockApi
