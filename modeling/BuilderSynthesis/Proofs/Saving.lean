import BuilderSynthesis.Files.Saving
import BuilderSynthesis.Proofs.Faithfulness
import BuilderSynthesis.Proofs.Placing
import BuilderSynthesis.Proofs.Roles
import Mathlib.Logic.Function.Basic

/-!
Contract: what saving files does to what all files hold.

Files are at the places that their paths lead to, and reading and writing succeed. Saving one file
changes what is at its own place and nothing else. So where no two files have one place, saving
one says nothing about whether another held its text already, and to save files once more changes
nothing.

Owns: `Contents`, `saveAll_exact`, and `sources_saved` for the source files of a run.

Does not own: what happens where a file cannot be read or written.
-/

namespace BuilderSynthesis

namespace Files

/-- The texts of files, by the places of the files. -/
abbrev Contents := Place → Option String

/-- The operations of commands, where files can be read and written and directories be made. -/
def Contents.access : Access (StateM Contents) where
  read path := do return (← get) (placeOf path)
  isPresent path := do return ((← get) (placeOf path)).isSome
  makeDirectory _ := return true
  write path content := do
    modify fun contents => Function.update contents (placeOf path) (some content)
    return true

def TextFile.place (directory : String) (file : TextFile) : Place :=
  placeOf (inDirectory directory file.path)

def TextFile.isSaved (directory : String) (contents : Contents) (file : TextFile) : Bool :=
  contents (file.place directory) = some file.content

def Contents.store (directory : String) (contents : Contents) (file : TextFile) : Contents :=
  Function.update contents (file.place directory) (some file.content)

/-- What saving files comes to if some of them, and only these, hold their text already. -/
def Savings.ofFiles (isSaved : TextFile → Bool) (files : List TextFile) : Savings where
  written := (files.filter fun file => !isSaved file).map TextFile.path
  unchanged := (files.filter isSaved).map TextFile.path

/-! ### One file -/

section

variable (directory : String) (contents : Contents) (file : TextFile)

theorem run_writeWithParents (path content : String) :
    (writeWithParents Contents.access path content).run contents =
      (true, Function.update contents (placeOf path) (some content)) := by
  unfold writeWithParents
  cases parent? path <;> rfl

theorem store_of_isSaved (saved : file.isSaved directory contents = true) :
    contents.store directory file = contents := by
  unfold Contents.store
  rw [← of_decide_eq_true saved, Function.update_eq_self]

/-- Whether a file is written or not, it holds its text then and the others are as they were. -/
theorem run_save :
    (save Contents.access directory file).run contents =
      (some (if file.isSaved directory contents then .unchanged else .written),
        contents.store directory file) := by
  unfold save
  by_cases saved : contents (placeOf (inDirectory directory file.path)) = some file.content
  · have isSaved : file.isSaved directory contents = true := decide_eq_true saved
    rw [store_of_isSaved directory contents file isSaved, isSaved]
    simp only [StateT.run_bind]
    change (if contents (placeOf (inDirectory directory file.path)) = some file.content then _
      else _ : StateM Contents _).run contents = _
    rw [if_pos saved]
    rfl
  · have isSaved : file.isSaved directory contents = false := decide_eq_false saved
    rw [isSaved]
    simp only [StateT.run_bind]
    change (if contents (placeOf (inDirectory directory file.path)) = some file.content then _
      else _ : StateM Contents _).run contents = _
    rw [if_neg saved, StateT.run_bind, run_writeWithParents]
    rfl

theorem store_same : contents.store directory file (file.place directory) = some file.content :=
  Function.update_self ..

theorem store_of_ne {place : Place} (other : file.place directory ≠ place) :
    contents.store directory file place = contents place :=
  Function.update_of_ne other.symm _ _

end

/-! ### All files -/

section

variable (directory : String)

theorem Savings.cons_ofFiles (isSaved : TextFile → Bool) (file : TextFile)
    (rest : List TextFile) :
    (Savings.ofFiles isSaved rest).cons file.path
        (if isSaved file then .unchanged else .written) =
      Savings.ofFiles isSaved (file :: rest) := by
  cases saved : isSaved file <;> simp [Savings.cons, Savings.ofFiles, saved]

/-- Where no two files have one place, each file is told apart by what it held at first. -/
theorem run_saveAll {files : List TextFile}
    (apart : (files.map (TextFile.place directory)).Nodup) (contents : Contents) :
    (saveAll Contents.access directory files).run contents =
      (.ok (Savings.ofFiles (TextFile.isSaved directory contents) files),
        files.foldl (Contents.store directory) contents) := by
  induction files generalizing contents with
  | nil => rfl
  | cons file rest inductionHypothesis =>
      rw [List.map_cons, List.nodup_cons] at apart
      -- What is stored for the first file is at a place that no later file looks at.
      have unseen : ∀ other ∈ rest,
          other.isSaved directory (contents.store directory file) =
            other.isSaved directory contents := by
        intro other member
        have different : file.place directory ≠ other.place directory :=
          fun same => apart.1 (List.mem_map.2 ⟨other, member, same.symm⟩)
        unfold TextFile.isSaved
        rw [store_of_ne directory contents file different]
      have later :
          Savings.ofFiles (TextFile.isSaved directory (contents.store directory file)) rest =
            Savings.ofFiles (TextFile.isSaved directory contents) rest := by
        unfold Savings.ofFiles
        rw [List.filter_congr unseen, List.filter_congr fun other member =>
          congrArg Bool.not (unseen other member)]
      unfold saveAll
      rw [StateT.run_bind, run_save]
      change ((saveAll Contents.access directory rest >>= _ : StateM Contents _)).run
        (contents.store directory file) = _
      rw [StateT.run_bind, inductionHypothesis apart.2, later, List.foldl_cons,
        ← Savings.cons_ofFiles]
      rfl

theorem foldl_store_of_ne {files : List TextFile} {place : Place}
    (other : ∀ file ∈ files, file.place directory ≠ place) (contents : Contents) :
    files.foldl (Contents.store directory) contents place = contents place := by
  induction files generalizing contents with
  | nil => rfl
  | cons file rest inductionHypothesis =>
      rw [List.forall_mem_cons] at other
      rw [List.foldl_cons, inductionHypothesis other.2, store_of_ne directory contents file other.1]

theorem isSaved_foldl_store {files : List TextFile}
    (apart : (files.map (TextFile.place directory)).Nodup) (contents : Contents) :
    ∀ file ∈ files,
      file.isSaved directory (files.foldl (Contents.store directory) contents) = true := by
  induction files generalizing contents with
  | nil => exact fun _ member => nomatch member
  | cons file rest inductionHypothesis =>
      rw [List.map_cons, List.nodup_cons] at apart
      refine List.forall_mem_cons.2 ⟨?_, inductionHypothesis apart.2 _⟩
      have different : ∀ other ∈ rest, other.place directory ≠ file.place directory :=
        fun other member same => apart.1 (List.mem_map.2 ⟨other, member, same⟩)
      refine decide_eq_true ?_
      rw [List.foldl_cons, foldl_store_of_ne directory different]
      exact store_same directory contents file

theorem foldl_store_of_isSaved {files : List TextFile} {contents : Contents}
    (saved : ∀ file ∈ files, file.isSaved directory contents = true) :
    files.foldl (Contents.store directory) contents = contents := by
  induction files with
  | nil => rfl
  | cons file rest inductionHypothesis =>
      rw [List.forall_mem_cons] at saved
      rw [List.foldl_cons, store_of_isSaved directory contents file saved.1]
      exact inductionHypothesis saved.2

/-- What is known of files that have been saved. -/
structure SavedFrom (files : List TextFile) (before : Contents) (savings : Savings)
    (after : Contents) : Prop where
  /-- Every file holds its text. -/
  saved : ∀ file ∈ files, after (file.place directory) = some file.content
  /-- No other file is touched. -/
  untouched : ∀ place, (∀ file ∈ files, file.place directory ≠ place) →
    after place = before place
  unchanged : savings.unchanged = (files.filter fun file =>
    before (file.place directory) = some file.content).map TextFile.path
  written : savings.written = (files.filter fun file =>
    before (file.place directory) ≠ some file.content).map TextFile.path

/-- Saving files at different places does just what it should, and so does saving them again. -/
theorem saveAll_exact {files : List TextFile}
    (apart : (files.map (TextFile.place directory)).Nodup) (before : Contents) :
    ∃ savings after,
      (saveAll Contents.access directory files).run before = (.ok savings, after) ∧
      SavedFrom directory files before savings after ∧
      (saveAll Contents.access directory files).run after =
        (.ok { unchanged := files.map TextFile.path }, after) := by
  have saved := isSaved_foldl_store directory apart before
  refine ⟨_, _, run_saveAll directory apart before, ?_, ?_⟩
  · refine ⟨fun file member => of_decide_eq_true (saved file member),
      fun place other => foldl_store_of_ne directory other before, rfl, ?_⟩
    simp only [Savings.ofFiles, TextFile.isSaved, decide_not]
  · rw [run_saveAll directory apart, foldl_store_of_isSaved directory saved]
    have all : files.filter (TextFile.isSaved directory
        (files.foldl (Contents.store directory) before)) = files :=
      List.filter_eq_self.2 saved
    have none' : files.filter (fun file => !TextFile.isSaved directory
        (files.foldl (Contents.store directory) before) file) = [] := by
      rw [List.filter_eq_nil_iff]
      intro file member
      simp [saved file member]
    simp only [Savings.ofFiles, all, none', List.map_nil]

end

end Files

/-! ### The sources of a run -/

namespace Run

open Code (Model)
open Files (Contents SavedFrom)
open Schema (Hierarchy)

/-- Types that are in no other have different names. -/
theorem nodup_topLevel {model : Model} (reached : model.Reached) :
    (model.topLevel.map fun entry => entry.2.qualifiedName).Nodup := by
  have distinct := model.nodup_fst_topLevel
  refine List.Nodup.map_on ?_ (distinct.of_map _)
  rintro ⟨id, one⟩ first ⟨later, two⟩ second same
  obtain ⟨found, outermost⟩ := model.mem_topLevel_iff.1 first
  obtain ⟨there, outermostToo⟩ := model.mem_topLevel_iff.1 second
  rcases Nat.lt_trichotomy id later with before | rfl | after
  · have nested := reached.isNested found there before same
    rw [outermostToo] at nested
    cases nested
  · exact List.inj_on_of_nodup_map distinct first second rfl
  · have nested := reached.isNested there found after same.symm
    rw [outermost] at nested
    cases nested

/-- The sources of a run are saved at different places if its classes have usable names. -/
theorem nodup_place_sourceFiles {hierarchy : Hierarchy} {config : Config}
    {workshop : Builder.Workshop} (completes : Completes hierarchy config workshop)
    (usable : ∀ dataClass ∈ hierarchy.classes, Manifest.IsUsablePath dataClass.name)
    (directory : String) :
    ((Java.sourceFiles workshop.model).map (Files.TextFile.place directory)).Nodup := by
  have named : ∀ entry ∈ workshop.model.topLevel,
      workshop.model.qualifiedName entry.1 = entry.2.qualifiedName ∧
        Manifest.IsUsablePath entry.2.qualifiedName := by
    intro entry member
    obtain ⟨found, outermost⟩ := workshop.model.mem_topLevel_iff.1 member
    refine ⟨by simp only [Model.qualifiedName, found], ?_⟩
    cases completes.role found with
    | product known header named isOutermost => exact named ▸ usable _ known
    | host known listed header named inside found above isOutermost =>
        rw [outermost] at inside
        cases inside
    | builder known header named inside found above =>
        rw [outermost] at inside
        cases inside
  have plain : '/' ∉ Java.fileExtension.toList := by
    decide
  unfold Java.sourceFiles
  rw [List.map_map]
  refine List.Nodup.map_on ?_ (workshop.model.nodup_fst_topLevel.of_map _)
  intro one first two second same
  obtain ⟨nameOne, usableOne⟩ := named one first
  obtain ⟨nameTwo, usableTwo⟩ := named two second
  refine List.inj_on_of_nodup_map (nodup_topLevel completes.reached) first second ?_
  have paths : Files.placeOf (Files.inDirectory directory
        (Java.sourcePath (workshop.model.qualifiedName one.1) Java.fileExtension)) =
      Files.placeOf (Files.inDirectory directory
        (Java.sourcePath (workshop.model.qualifiedName two.1) Java.fileExtension)) := same
  rw [nameOne, nameTwo] at paths
  exact Java.placeOf_sourcePath_inj usableOne usableTwo plain paths

/-- Saving the sources of a manifest gives each of them its text and touches no other file. It
tells apart which held their text already, and saving them again changes nothing. -/
theorem sources_saved {manifest : Manifest} {context : Context}
    (accepted : manifest.validate = .ok ())
    (success : (({} : Pipeline).run manifest).result = .ok context) (directory : String)
    (before : Contents) :
    ∃ savings after,
      (Files.saveAll Contents.access directory (Java.sourceFiles context.model)).run before =
        (.ok savings, after) ∧
      SavedFrom directory (Java.sourceFiles context.model) before savings after ∧
      (Files.saveAll Contents.access directory (Java.sourceFiles context.model)).run after =
        (.ok { unchanged := (Java.sourceFiles context.model).map Files.TextFile.path }, after) := by
  obtain ⟨hierarchy, registry, -, lowers, completes⟩ := completes_of_accepted accepted success
  have usable := lowers.isUsablePath (Manifest.wellFormed_of_validate accepted)
  exact Files.saveAll_exact directory (nodup_place_sourceFiles completes usable directory) before

/-- Where there are no files, the sources of three classes are written, and then they are there. -/
theorem forward_sources_saved :
    Manifest.forwardManifest.validate = .ok () ∧
      ∃ context, (({} : Pipeline).run Manifest.forwardManifest).result = .ok context ∧
        ∃ savings after,
          (Files.saveAll Contents.access "out" (Java.sourceFiles context.model)).run
              (fun _ => none) = (.ok savings, after) ∧
          savings.written = ["app/Leaf.java", "base/Root.java", "app/Part.java"] ∧
          savings.unchanged = [] ∧
          (Files.saveAll Contents.access "out" (Java.sourceFiles context.model)).run after =
            (.ok ⟨[], ["app/Leaf.java", "base/Root.java", "app/Part.java"]⟩, after) := by
  have accepted : Manifest.forwardManifest.validate = .ok () := by
    decide +kernel
  have succeeds : (({} : Pipeline).run Manifest.forwardManifest).failure = none := by
    decide +kernel
  have paths : (Java.sourceFiles (({} : Pipeline).run Manifest.forwardManifest).context.model).map
      Files.TextFile.path = ["app/Leaf.java", "base/Root.java", "app/Part.java"] := by
    decide +kernel
  have success := result_of_failure_eq_none succeeds
  obtain ⟨savings, after, saved, holds, again⟩ :=
    sources_saved accepted success "out" (fun _ => none)
  refine ⟨accepted, _, success, savings, after, saved, ?_, ?_, paths ▸ again⟩
  · rw [holds.written, List.filter_eq_self.2 fun _ _ => decide_eq_true (Option.some_ne_none _).symm,
      paths]
  · rw [holds.unchanged, List.filter_eq_nil_iff.2 fun _ _ => by simp, List.map_nil]

end Run

end BuilderSynthesis
