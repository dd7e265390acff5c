import BuilderSynthesis.Files.Disk
import BuilderSynthesis.Proofs.Identifier
import BuilderSynthesis.Proofs.Rendering

/-!
Contract: the places that the paths of source files lead to.

Different paths may lead to one place: idle names count for nothing and a name may lead back out.
The path of a source file has no such names, so from any directory its names are the rest of its
place, and classes with different names have their files at different places.

Owns: `placeOf`, and `placeOf_sourcePath_inj`.

Does not own: what is at a place.
-/

namespace BuilderSynthesis

namespace Text

/-- Text without the separator that follows a text goes on from its last segment. -/
theorem split_append {separator : Char} {extension : List Char} (absent : separator ∉ extension)
    (text : List Char) :
    ∃ before last, split separator text = before ++ [last] ∧
      split separator (text ++ extension) = before ++ [last ++ extension] := by
  induction text with
  | nil => exact ⟨[], [], rfl, split_of_not_mem absent⟩
  | cons character text inductionHypothesis =>
      obtain ⟨before, last, own, longer⟩ := inductionHypothesis
      rw [List.cons_append]
      simp only [split, own, longer]
      split
      · exact ⟨[] :: before, last, rfl, rfl⟩
      · cases before with
        | nil => exact ⟨[], character :: last, rfl, rfl⟩
        | cons first others => exact ⟨(character :: first) :: others, last, rfl, rfl⟩

/-- A separator may be replaced by one that is not in the text. -/
theorem split_map_replace {old new : Char} {text : List Char} (absent : new ∉ text) :
    split new (text.map fun character => if character = old then new else character) =
      split old text := by
  induction text with
  | nil => rfl
  | cons character text inductionHypothesis =>
      rw [List.mem_cons, not_or] at absent
      rw [List.map_cons]
      by_cases here : character = old
      · simp only [split, here, if_true, inductionHypothesis absent.2]
      · simp only [split, here, if_false, Ne.symm absent.1, inductionHypothesis absent.2]

end Text

namespace Files

/-- A name that leads further in. -/
def IsProper (name : String) : Prop :=
  isIdle name = false ∧ name ≠ ".."

def placeFrom (start : Place) (names : List String) : Place :=
  names.foldl Disk.next start

def placeOf (path : String) : Place :=
  placeFrom [] (names path)

/-- What a disk finds at the end of a path is what is at its place. -/
theorem follow_eq_ok {disk : Disk} {start place : Place} {names : List String}
    (found : disk.follow start names = .ok place) : place = placeFrom start names := by
  induction names generalizing start with
  | nil => exact (Except.ok.inj found).symm
  | cons name rest inductionHypothesis =>
      unfold Disk.follow at found
      split at found
      · split at found
        · exact inductionHypothesis found
        · cases found
      · split at found <;> cases found

theorem placeFrom_append (start : Place) (first second : List String) :
    placeFrom start (first ++ second) = placeFrom (placeFrom start first) second :=
  List.foldl_append

theorem placeFrom_of_isProper {names : List String} (proper : ∀ name ∈ names, IsProper name)
    (start : Place) : placeFrom start names = start ++ names := by
  induction names generalizing start with
  | nil => exact (List.append_nil start).symm
  | cons name rest inductionHypothesis =>
      rw [List.forall_mem_cons] at proper
      obtain ⟨⟨busy, inward⟩, others⟩ := proper
      have step : Disk.next start name = start ++ [name] := by
        simp [Disk.next, busy, inward]
      have later := inductionHypothesis others (start ++ [name])
      rw [List.append_assoc, List.singleton_append] at later
      simpa only [placeFrom, List.foldl_cons, step] using later

/-! ### Paths from a directory -/

theorem names_append_slash (path other : String) :
    names (path ++ "/" ++ other) = names path ++ names other := by
  unfold names
  rw [String.toList_append, String.toList_append, List.append_assoc,
    show "/".toList ++ other.toList = '/' :: other.toList from rfl, Text.split_append_cons,
    List.map_append]

theorem exists_append_slash {path : String} (slash : path.toList.getLast? = some '/') :
    ∃ outer, path = outer ++ "/" := by
  obtain ⟨before, same⟩ := List.getLast?_eq_some_iff.1 slash
  refine ⟨String.ofList before, ?_⟩
  rw [← String.toList_inj, same, String.toList_append, String.toList_ofList]
  rfl

/-- The place of a relative path is found from that of its directory. -/
theorem placeOf_inDirectory (directory : String) {path : String}
    (relative : isAbsolute path = false) :
    placeOf (inDirectory directory path) = placeFrom (placeOf directory) (names path) := by
  unfold inDirectory
  rw [relative, Bool.false_or]
  by_cases empty : directory.isEmpty = true
  · rw [if_pos empty, String.isEmpty_iff.1 empty]
    rfl
  · rw [if_neg empty]
    split
    · -- The directory ends with a slash, so the name after that is idle.
      rename_i slash
      obtain ⟨outer, rfl⟩ := exists_append_slash (beq_iff_eq.1 slash)
      have idle : placeOf (outer ++ "/") = placeOf outer := by
        have last := names_append_slash outer ""
        rw [String.append_empty] at last
        unfold placeOf
        rw [last, placeFrom_append]
        rfl
      rw [idle]
      unfold placeOf
      rw [names_append_slash, placeFrom_append]
    · unfold placeOf
      rw [names_append_slash, placeFrom_append]

theorem names_injective : Function.Injective names := by
  intro one two same
  have lists := List.map_injective_iff.2 (fun _ _ => String.ofList_inj.1) same
  rw [← String.toList_inj, ← Text.join_split '/' one.toList, lists, Text.join_split]

end Files

/-! ### Source files -/

namespace Java

open Files (IsProper names placeOf placeFrom)
open Manifest (IsUsablePath)

/-- A usable name is proper, with an extension and without. -/
theorem IsUsable.isProper {name : String} (usable : IsUsable name) (extension : String) :
    IsProper (name ++ extension) := by
  obtain ⟨first, rest, characters, start, -⟩ := usable.1
  have front : (name ++ extension).toList = first :: (rest ++ extension.toList) := by
    rw [String.toList_append, characters, List.cons_append]
  have dotted : first ≠ '.' := by
    rintro rfl
    exact absurd start (by decide)
  have begins : ∀ other : String, other.toList.head? ≠ some first → name ++ extension ≠ other := by
    rintro _ different rfl
    exact different (by rw [front, List.head?_cons])
  have busy : (name ++ extension) ≠ "" := begins "" (by simp)
  have here : (name ++ extension) ≠ "." := begins "." (by simpa using dotted.symm)
  have back : (name ++ extension) ≠ ".." := begins ".." (by simpa using dotted.symm)
  refine ⟨?_, back⟩
  simp [Files.isIdle, busy, here]

section

variable {qualifiedName : String} (usable : IsUsablePath qualifiedName)

include usable

theorem slash_not_mem : '/' ∉ qualifiedName.toList := by
  intro member
  rcases @Text.mem_split '.' _ _ member with dot | ⟨segment, inside, here⟩
  · cases dot
  · have identifier := (usable _ (List.mem_map_of_mem inside)).1
    refine identifier.not_mem (show isIdentifierPart '/' = false by decide) ?_
    rwa [String.toList_ofList]

/-- The names of the path of a source file are the segments of a class name, the last of them with
an extension. -/
theorem names_sourcePath {extension : String} (plain : '/' ∉ extension.toList) :
    ∃ before last, Text.dottedSegments qualifiedName = before ++ [last] ∧
      names (sourcePath qualifiedName extension) = before ++ [last ++ ("." ++ extension)] := by
  have absent : '/' ∉ ("." ++ extension).toList := by
    rw [String.toList_append, List.mem_append, not_or]
    exact ⟨by decide, plain⟩
  obtain ⟨before, last, own, longer⟩ := Text.split_append absent (qualifiedName.toList.map
    fun character => if character = '.' then '/' else character)
  rw [Text.split_map_replace (slash_not_mem usable)] at own
  refine ⟨before.map String.ofList, String.ofList last, ?_, ?_⟩
  · rw [Text.dottedSegments, own, List.map_append, List.map_singleton]
  · rw [names, sourcePath, String.append_assoc, String.toList_append, String.toList_map, longer,
      List.map_append, List.map_singleton, String.ofList_append, String.ofList_toList]

theorem isProper_of_mem_names {extension : String} (plain : '/' ∉ extension.toList) :
    ∀ name ∈ names (sourcePath qualifiedName extension), IsProper name := by
  obtain ⟨before, last, segments, same⟩ := names_sourcePath usable plain
  have each : ∀ segment ∈ before ++ [last], IsUsable segment := segments ▸ usable
  rw [List.forall_mem_append, List.forall_mem_singleton] at each
  rw [same, List.forall_mem_append, List.forall_mem_singleton]
  refine ⟨fun name member => ?_, each.2.isProper _⟩
  have proper := (each.1 name member).isProper ""
  rwa [String.append_empty] at proper

theorem isAbsolute_sourcePath {extension : String} (plain : '/' ∉ extension.toList) :
    Files.isAbsolute (sourcePath qualifiedName extension) = false := by
  have proper := isProper_of_mem_names usable plain
  unfold Files.isAbsolute
  rw [beq_eq_false_iff_ne]
  intro slash
  obtain ⟨rest, same⟩ := List.head?_eq_some_iff.1 slash
  have first : "" ∈ names (sourcePath qualifiedName extension) := by
    rw [names, same]
    simp [Text.split]
  exact absurd (proper "" first).1 (by decide)

/-- From a directory, a source file is at the names of its path. -/
theorem placeOf_sourcePath (directory : String) {extension : String}
    (plain : '/' ∉ extension.toList) :
    placeOf (Files.inDirectory directory (sourcePath qualifiedName extension)) =
      placeOf directory ++ names (sourcePath qualifiedName extension) := by
  rw [Files.placeOf_inDirectory directory (isAbsolute_sourcePath usable plain),
    Files.placeFrom_of_isProper (isProper_of_mem_names usable plain)]

end

/-- Classes with different names have their files at different places. -/
theorem placeOf_sourcePath_inj {one two directory extension : String} (first : IsUsablePath one)
    (second : IsUsablePath two) (plain : '/' ∉ extension.toList)
    (same : placeOf (Files.inDirectory directory (sourcePath one extension)) =
      placeOf (Files.inDirectory directory (sourcePath two extension))) : one = two := by
  rw [placeOf_sourcePath first directory plain, placeOf_sourcePath second directory plain,
    List.append_cancel_left_eq] at same
  exact sourcePath_inj (slash_not_mem first) (slash_not_mem second) (Files.names_injective same)

end Java

end BuilderSynthesis
