import BuilderSynthesis.Proofs.Placing
import BuilderSynthesis.Proofs.Starting
import Mathlib.Logic.Function.Basic

/-!
Contract: what the command that writes a starter does to a disk.

The starter is written first and looked at afterwards. So a package that makes it unreadable, or
that makes it one of another package, leaves a file behind, and that file is in the way of any
other starter. With a package that can be used nothing of this happens, and as long as no starter is
written no file changes.

Owns: `IsOpen`, `Clean`, and `creation_clean_iff`.

Does not own: which starters are accepted.
-/

namespace BuilderSynthesis

namespace Files.Disk

variable {disk other : Disk}

/-! ### Directories that are made -/

theorem files_withDirectory {path : String} {after : Disk}
    (made : disk.withDirectory path = .ok after) : after.files = disk.files := by
  obtain ⟨place, -, rest⟩ := Outcome.bind_eq_ok_iff.1 made
  split at rest
  · cases rest
    rfl
  · split at rest
    · cases rest
    · cases rest
      rfl

theorem files_makeDirectories (disk : Disk) (paths : List String) :
    (disk.makeDirectories paths).2.files = disk.files := by
  induction paths with
  | nil => rfl
  | cons path outer inductionHypothesis =>
      unfold makeDirectories
      split
      · rename_i after made
        exact files_withDirectory made
      · rfl
      · split
        · rename_i after madeOuter
          rw [madeOuter] at inductionHypothesis
          exact inductionHypothesis
        · rename_i between madeOuter
          rw [madeOuter] at inductionHypothesis
          split
          · rename_i after made
            exact (files_withDirectory made).trans inductionHypothesis
          · exact inductionHypothesis

/-- Making directories changes no file. -/
theorem textAt?_makeDirectory (disk : Disk) (path : String) :
    (disk.makeDirectory path).2.textAt? = disk.textAt? := by
  have files : (disk.makeDirectory path).2.files = disk.files := by
    unfold makeDirectory
    split
    · rfl
    · exact files_makeDirectories disk _
  unfold textAt?
  rw [files]

/-! ### Where paths lead -/

theorem follow_cons_eq_ok_iff {start place : Place} {name : String} {rest : List String} :
    disk.follow start (name :: rest) = .ok place ↔
      disk.isDirectory start = true ∧ isShortName name = true ∧
        disk.follow (next start name) rest = .ok place := by
  rw [follow]
  split
  · rename_i inside
    split
    · rename_i short
      simp [inside, short]
    · rename_i long
      simp [long]
  · rename_i outside
    split <;> simp [outside]

/-- A path that leads somewhere still does when there are more directories. -/
theorem follow_mono
    (more : ∀ place, disk.isDirectory place = true → other.isDirectory place = true)
    {start place : Place} {names : List String} (found : disk.follow start names = .ok place) :
    other.follow start names = .ok place := by
  induction names generalizing start with
  | nil => exact found
  | cons name rest inductionHypothesis =>
      obtain ⟨inside, short, later⟩ := follow_cons_eq_ok_iff.1 found
      exact follow_cons_eq_ok_iff.2 ⟨more start inside, short, inductionHypothesis later⟩

theorem locate_eq_ok_iff {path : String} {place : Place} :
    disk.locate path = .ok place ↔
      isAdmissible path = true ∧ disk.follow [] (names path) = .ok place := by
  unfold locate
  split
  · rename_i admissible
    simp [admissible]
  · rename_i inadmissible
    simp [inadmissible]

theorem locate_setText {path : String} {place : Place} (found : disk.locate path = .ok place)
    (content : String) : (disk.setText place content).locate path = .ok place := by
  have same : ∀ other, disk.isDirectory other = true →
      (disk.setText place content).isDirectory other = true := fun _ inside => inside
  rw [locate_eq_ok_iff] at found ⊢
  exact ⟨found.1, follow_mono same found.2⟩

/-- A path that leads to a file has something present. -/
theorem isPresent_of_textAt? {path : String} {place : Place} (found : disk.locate path = .ok place)
    {content : String} (there : disk.textAt? place = some content) :
    disk.isPresent path = true := by
  unfold isPresent
  rw [found]
  change disk.isTaken place = true
  rw [isTaken, there, Option.isSome_some, Bool.or_true]

theorem textAt?_setText_self (disk : Disk) (place : Place) (content : String) :
    (disk.setText place content).textAt? place = some content :=
  (disk.textAt?_setText place content place).trans (if_pos rfl)

theorem read?_setText {path : String} {place : Place} (found : disk.locate path = .ok place)
    (content : String) : (disk.setText place content).read? path = some content := by
  unfold read?
  rw [locate_setText found content]
  exact disk.textAt?_setText_self place content

theorem isPresent_setText {path : String} {place : Place} (found : disk.locate path = .ok place)
    (content : String) : (disk.setText place content).isPresent path = true :=
  isPresent_of_textAt? (locate_setText found content) (disk.textAt?_setText_self place content)

theorem locate_eq_placeOf {path : String} {place : Place} (found : disk.locate path = .ok place) :
    place = placeOf path :=
  follow_eq_ok (locate_eq_ok_iff.1 found).2

/-! ### Files in directories -/

/-- Every file is in a directory, which is in a directory too, up to the root. -/
def IsSound (disk : Disk) : Prop :=
  ∀ place, (disk.textAt? place).isSome = true → ∀ outer, outer <+: place → outer ≠ place →
    disk.isDirectory outer = true

theorem placeFrom_prefix {names : List String} (inward : ".." ∉ names) (start : Place) :
    start <+: placeFrom start names := by
  induction names generalizing start with
  | nil => exact List.prefix_rfl
  | cons name rest inductionHypothesis =>
      rw [List.mem_cons, not_or] at inward
      have step : start <+: next start name := by
        unfold next
        rw [if_neg (Ne.symm inward.1)]
        split
        · exact List.prefix_rfl
        · exact List.prefix_append start [name]
      exact step.trans (inductionHypothesis inward.2 (next start name))

theorem prefix_of_follow {start place : Place} {before : List String} {last : String}
    (inward : ".." ∉ before) (proper : IsProper last)
    (found : disk.follow start (before ++ [last]) = .ok place) :
    start <+: place ∧ start ≠ place := by
  have reached := follow_eq_ok found
  rw [placeFrom_append, placeFrom_of_isProper (List.forall_mem_singleton.2 proper)] at reached
  have onTheWay := placeFrom_prefix inward start
  constructor
  · exact reached ▸ onTheWay.trans (List.prefix_append _ _)
  · intro same
    have short := onTheWay.length_le
    have long := congrArg List.length (same.trans reached)
    rw [List.length_append, List.length_singleton] at long
    omega

/-- Names that only lead further in lead to a place on every disk that has the directories which
the place is in. -/
theorem follow_of_directories {start place : Place} {before : List String} {last : String}
    (inward : ".." ∉ before) (proper : IsProper last)
    (inside : ∀ outer, outer <+: place → outer ≠ place → disk.isDirectory outer = true)
    (found : other.follow start (before ++ [last]) = .ok place) :
    disk.follow start (before ++ [last]) = .ok place := by
  induction before generalizing start with
  | nil =>
      obtain ⟨onTheWay, different⟩ := prefix_of_follow inward proper found
      obtain ⟨-, short, later⟩ := follow_cons_eq_ok_iff.1 found
      exact follow_cons_eq_ok_iff.2 ⟨inside start onTheWay different, short, later⟩
  | cons name rest inductionHypothesis =>
      obtain ⟨onTheWay, different⟩ := prefix_of_follow inward proper found
      rw [List.cons_append] at found ⊢
      obtain ⟨-, short, later⟩ := follow_cons_eq_ok_iff.1 found
      rw [List.mem_cons, not_or] at inward
      exact follow_cons_eq_ok_iff.2
        ⟨inside start onTheWay different, short, inductionHypothesis inward.2 later⟩

end Files.Disk

namespace Command

open Files (Disk placeOf)

/-- The path of the manifest that belongs in a directory. -/
def manifestPath (directory : String) : String :=
  Files.inDirectory directory Manifest.fileName

/-- What the command comes to, and the disk that it leaves. -/
def created (package directory : String) (disk : Disk) (toml : Toml.Reader := Toml.read?) :
    Except Failure String × Disk :=
  (create Disk.access package directory toml).run disk

/-- Nothing is where a manifest would be, and the directory and the file can be made. -/
structure IsOpen (directory : String) (disk : Disk) : Prop where
  absent : disk.isPresent (manifestPath directory) = false
  made : (disk.makeDirectory directory).1 = true
  leads : (disk.makeDirectory directory).2.locate (manifestPath directory) =
    .ok (placeOf (manifestPath directory))
  free : (disk.makeDirectory directory).2.isDirectory (placeOf (manifestPath directory)) = false

instance (directory : String) (disk : Disk) : Decidable (IsOpen directory disk) :=
  decidable_of_iff (disk.isPresent (manifestPath directory) = false ∧
      (disk.makeDirectory directory).1 = true ∧
      (disk.makeDirectory directory).2.locate (manifestPath directory) =
        .ok (placeOf (manifestPath directory)) ∧
      (disk.makeDirectory directory).2.isDirectory (placeOf (manifestPath directory)) = false)
    ⟨fun ⟨absent, made, leads, free⟩ => ⟨absent, made, leads, free⟩,
      fun isOpen => ⟨isOpen.absent, isOpen.made, isOpen.leads, isOpen.free⟩⟩

section

variable (package directory : String) (disk : Disk) (toml : Toml.Reader)

theorem run_bind (first : StateM Disk α) (next : α → StateM Disk β) :
    (first >>= next).run disk = (next (first.run disk).1).run (first.run disk).2 :=
  rfl

theorem run_ite (condition : Bool) (first second : StateM Disk α) :
    (if condition then first else second).run disk =
      if condition then first.run disk else second.run disk := by
  cases condition <;> rfl

theorem run_read (path : String) :
    (Disk.access.read path).run disk = (disk.read? path, disk) :=
  rfl

/-- What looking at a manifest comes to; it changes nothing. -/
theorem run_openFile (path : String) :
    (Manifest.openFile Disk.access path toml).run disk =
      (match disk.read? path with
        | none => .error (.unreadable path)
        | some content =>
            (Manifest.read path content toml).map fun manifest => ⟨path, content, manifest⟩,
        disk) := by
  unfold Manifest.openFile
  simp only [run_bind, run_read]
  cases disk.read? path with
  | none => rfl
  | some content =>
      dsimp only
      cases Manifest.read path content toml <;> rfl

/-- Looking at a manifest once more tells whether it is accepted. -/
theorem run_review (path : String) :
    (do match ← Manifest.openFile Disk.access path toml with
      | .error problem => return .error (.refused problem)
      | .ok _ => return .ok path : StateM Disk (Except Failure String)).run disk =
      (match ((Manifest.openFile Disk.access path toml).run disk).1 with
        | .error problem => .error (.refused problem)
        | .ok _ => .ok path, disk) := by
  rw [run_bind, run_openFile]
  split <;> rfl

/-- The command step by step, each on the disk that the one before leaves. -/
theorem created_eq :
    created package directory disk toml =
      if disk.isPresent (manifestPath directory) then
        (.error (.occupied (manifestPath directory)), disk)
      else
        let made := disk.makeDirectory directory
        if !made.1 then
          (.error (.noDirectory directory), made.2)
        else
          let written := made.2.write (manifestPath directory) (Manifest.starter package)
          if !written.1 then
            (.error (.unwritten (manifestPath directory)), written.2)
          else
            (match
                ((Manifest.openFile Disk.access (manifestPath directory) toml).run written.2).1 with
              | .error problem => .error (.refused problem)
              | .ok _ => .ok (manifestPath directory), written.2) := by
  unfold created create
  rw [run_bind, run_ite, run_bind, run_ite, run_bind, run_ite]
  congr 3
  exact run_review _ _ _

variable {directory disk}

/-- The disk with the starter, before anything looks at it. -/
theorem write_of_isOpen (isOpen : IsOpen directory disk) (content : String) :
    (disk.makeDirectory directory).2.write (manifestPath directory) content =
      (true,
        (disk.makeDirectory directory).2.setText (placeOf (manifestPath directory)) content) := by
  unfold Disk.write
  rw [isOpen.leads]
  exact if_neg (Bool.eq_false_iff.1 isOpen.free)

theorem created_of_isOpen (isOpen : IsOpen directory disk) :
    created package directory disk toml =
      (match Manifest.read (manifestPath directory) (Manifest.starter package) toml with
        | .error problem => .error (.refused problem)
        | .ok _ => .ok (manifestPath directory),
        (disk.makeDirectory directory).2.setText (placeOf (manifestPath directory))
          (Manifest.starter package)) := by
  have written := write_of_isOpen isOpen (Manifest.starter package)
  have there := Disk.read?_setText isOpen.leads (Manifest.starter package)
  rw [created_eq, isOpen.absent]
  simp only [isOpen.made, written, run_openFile, there, Bool.false_eq_true, if_false,
    Bool.not_true]
  cases Manifest.read (manifestPath directory) (Manifest.starter package) toml <;> rfl

/-- Where no starter can be written, the command fails and no file changes. -/
theorem created_of_not_isOpen (closed : ¬ IsOpen directory disk) :
    (∃ failure, (created package directory disk toml).1 = .error failure) ∧
      (created package directory disk toml).2.textAt? = disk.textAt? := by
  rw [created_eq]
  split
  · exact ⟨⟨_, rfl⟩, rfl⟩
  · rename_i absent
    dsimp only
    split
    · exact ⟨⟨_, rfl⟩, disk.textAt?_makeDirectory directory⟩
    · rename_i made
      have failed : (disk.makeDirectory directory).2.write (manifestPath directory)
          (Manifest.starter package) = (false, (disk.makeDirectory directory).2) := by
        unfold Disk.write
        split
        · rfl
        · rename_i place leads
          obtain rfl := Disk.locate_eq_placeOf leads
          apply if_pos
          cases free : (disk.makeDirectory directory).2.isDirectory
            (placeOf (manifestPath directory)) with
          | true => rfl
          | false =>
              have made' : (disk.makeDirectory directory).1 = true := by simpa using made
              exact absurd ⟨Bool.eq_false_iff.2 absent, made', leads, free⟩ closed
      rw [failed]
      exact ⟨⟨_, rfl⟩, disk.textAt?_makeDirectory directory⟩

/-- The starter is the only file that changes. -/
theorem textAt?_created (isOpen : IsOpen directory disk) :
    (created package directory disk toml).2.textAt? =
      Function.update disk.textAt? (placeOf (manifestPath directory))
        (some (Manifest.starter package)) := by
  rw [created_of_isOpen package toml isOpen]
  funext place
  rw [Disk.textAt?_setText, disk.textAt?_makeDirectory, Function.update_apply]

/-- What looking at the manifest comes to afterwards. -/
theorem run_openFile_created (isOpen : IsOpen directory disk) :
    (Manifest.openFile Disk.access (manifestPath directory) toml).run
        (created package directory disk toml).2 =
      ((Manifest.read (manifestPath directory) (Manifest.starter package) toml).map fun manifest =>
        ⟨manifestPath directory, Manifest.starter package, manifest⟩,
        (created package directory disk toml).2) := by
  rw [run_openFile, created_of_isOpen package toml isOpen,
    Disk.read?_setText isOpen.leads (Manifest.starter package)]

/-- After a starter was written, whatever it was, no other can be. -/
theorem occupied_of_isOpen (isOpen : IsOpen directory disk) (later : String) :
    created later directory (created package directory disk toml).2 toml =
      (.error (.occupied (manifestPath directory)), (created package directory disk toml).2) := by
  have present :
      (created package directory disk toml).2.isPresent (manifestPath directory) = true := by
    rw [created_of_isOpen package toml isOpen]
    exact Disk.isPresent_setText isOpen.leads _
  rw [created_eq, if_pos present]

end

/-! ### Where there was no file -/

/-- The path of a manifest ends with the name of its file. -/
theorem exists_names_manifestPath {directory : String} (inward : ".." ∉ Files.names directory) :
    ∃ before, ".." ∉ before ∧
      Files.names (manifestPath directory) = before ++ [Manifest.fileName] := by
  have relative : Files.isAbsolute Manifest.fileName = false := by decide
  have single : Files.names Manifest.fileName = [Manifest.fileName] := by decide
  unfold manifestPath Files.inDirectory
  rw [relative, Bool.false_or]
  by_cases empty : directory.isEmpty = true
  · rw [if_pos empty]
    exact ⟨[], List.not_mem_nil, single⟩
  · rw [if_neg empty]
    split
    · rename_i slash
      obtain ⟨outer, rfl⟩ := Files.exists_append_slash (beq_iff_eq.1 slash)
      have last := Files.names_append_slash outer ""
      rw [String.append_empty] at last
      rw [last, List.mem_append, not_or] at inward
      exact ⟨Files.names outer, inward.1, by rw [Files.names_append_slash, single]⟩
    · exact ⟨Files.names directory, inward, by rw [Files.names_append_slash, single]⟩

/-- If files are in directories and the directory of a starter is not reached by way of another,
then the place of the starter held no file. -/
theorem textAt?_eq_none_of_isSound {directory : String} {disk : Disk} (sound : disk.IsSound)
    (inward : ".." ∉ Files.names directory) (isOpen : IsOpen directory disk) :
    disk.textAt? (placeOf (manifestPath directory)) = none := by
  obtain ⟨before, inwardBefore, names⟩ := exists_names_manifestPath inward
  have proper : Files.IsProper Manifest.fileName := by
    constructor <;> decide
  cases there : disk.textAt? (placeOf (manifestPath directory)) with
  | none => rfl
  | some content =>
      -- Then the path led to that file before, and the file was present.
      have inside := sound _ (Option.isSome_iff_exists.2 ⟨content, there⟩)
      obtain ⟨admissible, found⟩ := Disk.locate_eq_ok_iff.1 isOpen.leads
      rw [names] at found
      have same := Disk.follow_of_directories inwardBefore proper inside found
      rw [← names] at same
      have leads := Disk.locate_eq_ok_iff.2 ⟨admissible, same⟩
      have present := Disk.isPresent_of_textAt? leads there
      rw [isOpen.absent] at present
      cases present

/-! ### Clean beginnings -/

/-- The command succeeds and the manifest of the package is the only file that is new, or it fails
and all files are as they were. -/
structure Clean (package directory : String) (disk : Disk) (toml : Toml.Reader := Toml.read?) :
    Prop where
  succeeded : ∀ path, (created package directory disk toml).1 = .ok path →
    path = manifestPath directory ∧ disk.textAt? (placeOf path) = none ∧
      (created package directory disk toml).2.textAt? =
        Function.update disk.textAt? (placeOf path) (some (Manifest.starter package)) ∧
      ∃ file,
        (Manifest.openFile Disk.access path toml).run (created package directory disk toml).2 =
          (.ok file, (created package directory disk toml).2) ∧
        file.manifest.settings.package = some package
  failed : ∀ failure, (created package directory disk toml).1 = .error failure →
    (created package directory disk toml).2.textAt? = disk.textAt?

section

variable {package directory : String} {disk : Disk} {toml : Toml.Reader}

/-- A clean beginning that writes a file is made with a package that can be used, where no file
was. -/
theorem Clean.cases_of_isOpen (clean : Clean package directory disk toml)
    (isOpen : IsOpen directory disk) :
    (disk.textAt? (placeOf (manifestPath directory)) = none ∧
        (package = "" ∨ Manifest.IsUsablePath package)) ∨
      (disk.textAt? (placeOf (manifestPath directory)) = some (Manifest.starter package) ∧
        ∃ problem, Manifest.read (manifestPath directory) (Manifest.starter package) toml =
          .error problem) := by
  have outcome := congrArg Prod.fst (created_of_isOpen package toml isOpen)
  cases accepted : Manifest.read (manifestPath directory) (Manifest.starter package) toml with
  | error problem =>
      rw [accepted] at outcome
      have unchanged := clean.failed _ outcome
      rw [textAt?_created package toml isOpen] at unchanged
      have there := congrFun unchanged (placeOf (manifestPath directory))
      rw [Function.update_self] at there
      exact .inr ⟨there.symm, problem, rfl⟩
  | ok manifest =>
      rw [accepted] at outcome
      obtain ⟨-, free, -, file, opened, same⟩ := clean.succeeded _ outcome
      rw [run_openFile_created package toml isOpen, accepted] at opened
      obtain rfl := Except.ok.inj (Prod.mk.inj opened).1
      exact .inl ⟨free, Manifest.usable_of_read accepted same⟩

theorem clean_of_usable (reads : Toml.ReadsPlainLines toml) (isOpen : IsOpen directory disk)
    (free : disk.textAt? (placeOf (manifestPath directory)) = none)
    (usable : package = "" ∨ Manifest.IsUsablePath package) :
    Clean package directory disk toml := by
  obtain ⟨span, accepted⟩ := Manifest.read_starter reads usable (manifestPath directory)
  have outcome := congrArg Prod.fst (created_of_isOpen package toml isOpen)
  have opened := run_openFile_created package toml isOpen
  rw [accepted] at outcome opened
  constructor
  · intro path success
    obtain rfl := Except.ok.inj (outcome.symm.trans success)
    exact ⟨rfl, free, textAt?_created package toml isOpen, _, opened, rfl⟩
  · intro failure failed
    cases outcome.symm.trans failed

theorem clean_of_refused {problem : Manifest.Problem} (isOpen : IsOpen directory disk)
    (there : disk.textAt? (placeOf (manifestPath directory)) = some (Manifest.starter package))
    (refused : Manifest.read (manifestPath directory) (Manifest.starter package) toml =
      .error problem) : Clean package directory disk toml := by
  have outcome := congrArg Prod.fst (created_of_isOpen package toml isOpen)
  rw [refused] at outcome
  constructor
  · intro path success
    cases outcome.symm.trans success
  · intro failure failed
    rw [textAt?_created package toml isOpen, ← there, Function.update_eq_self]

theorem clean_of_not_isOpen (closed : ¬ IsOpen directory disk) :
    Clean package directory disk toml := by
  obtain ⟨⟨failure, failed⟩, unchanged⟩ := created_of_not_isOpen package toml closed
  constructor
  · intro path success
    cases failed.symm.trans success
  · exact fun _ _ => unchanged

end

/-- Whatever reads TOML, if it reads plain lines as they stand, then the command leaves nothing half
done exactly where it writes nothing, or the package can be used and the place of the file was free;
or where a package is refused whose starter was there already. Once a starter was written, accepted
or not, no other package can be tried. -/
theorem creation_clean_of_readsPlainLines {toml : Toml.Reader} (reads : Toml.ReadsPlainLines toml)
    (package directory : String) (disk : Disk) :
    (Clean package directory disk toml ↔ (IsOpen directory disk →
        (disk.textAt? (placeOf (manifestPath directory)) = none ∧
          (package = "" ∨ Manifest.IsUsablePath package)) ∨
        (disk.textAt? (placeOf (manifestPath directory)) = some (Manifest.starter package) ∧
          ∃ problem, Manifest.read (manifestPath directory) (Manifest.starter package) toml =
            .error problem))) ∧
      (disk.IsSound → ".." ∉ Files.names directory → IsOpen directory disk →
        disk.textAt? (placeOf (manifestPath directory)) = none) ∧
      (IsOpen directory disk → ∀ later,
        created later directory (created package directory disk toml).2 toml =
          (.error (.occupied (manifestPath directory)),
            (created package directory disk toml).2)) := by
  refine ⟨⟨Clean.cases_of_isOpen, fun condition => ?_⟩, textAt?_eq_none_of_isSound,
    fun isOpen => occupied_of_isOpen package toml isOpen⟩
  by_cases isOpen : IsOpen directory disk
  · rcases condition isOpen with ⟨free, usable⟩ | ⟨there, problem, refused⟩
    · exact clean_of_usable reads isOpen free usable
    · exact clean_of_refused isOpen there refused
  · exact clean_of_not_isOpen isOpen

/-- The command leaves nothing half done exactly where it writes nothing, or the package can be
used and the place of the file was free, or a package is refused whose starter was there already. -/
theorem creation_clean_iff (package directory : String) (disk : Disk) :
    (Clean package directory disk ↔ (IsOpen directory disk →
        (disk.textAt? (placeOf (manifestPath directory)) = none ∧
          (package = "" ∨ Manifest.IsUsablePath package)) ∨
        (disk.textAt? (placeOf (manifestPath directory)) = some (Manifest.starter package) ∧
          ∃ problem, Manifest.read (manifestPath directory) (Manifest.starter package) =
            .error problem))) ∧
      (disk.IsSound → ".." ∉ Files.names directory → IsOpen directory disk →
        disk.textAt? (placeOf (manifestPath directory)) = none) ∧
      (IsOpen directory disk → ∀ later,
        created later directory (created package directory disk).2 =
          (.error (.occupied (manifestPath directory)), (created package directory disk).2)) :=
  creation_clean_of_readsPlainLines Toml.readsPlainLines_read? package directory disk

/-- A place that is reached by way of a missing directory need not be free. -/
example :
    IsOpen "new/../model" ⟨[(["model", "fluent.toml"], "# mine")], [["model"]]⟩ ∧
      placeOf (manifestPath "new/../model") = ["model", "fluent.toml"] := by
  decide +kernel

/-- In an empty directory a package that can be used makes a clean beginning, and no other can be
made after that. -/
theorem empty_creation_clean :
    Clean "com.acme" "." {} ∧
      created "org.other" "." (created "com.acme" "." {}).2 =
        (.error (.occupied "./fluent.toml"), (created "com.acme" "." {}).2) := by
  have isOpen : IsOpen "." {} := by
    decide +kernel
  have usable : Manifest.IsUsablePath "com.acme" := by
    unfold Manifest.IsUsablePath
    decide +kernel
  have sound : Disk.IsSound {} := by
    intro place there
    cases there
  have inward : ".." ∉ Files.names "." := by
    decide
  obtain ⟨clean, free, occupied⟩ := creation_clean_iff "com.acme" "." {}
  exact ⟨clean.2 fun _ => .inl ⟨free sound inward isOpen, .inr usable⟩,
    occupied isOpen "org.other"⟩

/-- A package with a hyphen is refused, and its starter stays. -/
theorem not_every_creation_is_clean : ¬ Clean "my-app" "." {} := by
  intro clean
  have isOpen : IsOpen "." {} := by
    decide +kernel
  have unusable : ¬ ("my-app" = "" ∨ Manifest.IsUsablePath "my-app") := by
    unfold Manifest.IsUsablePath
    decide +kernel
  rcases clean.cases_of_isOpen isOpen with ⟨-, usable⟩ | ⟨there, -⟩
  · exact unusable usable
  · cases there

end Command

end BuilderSynthesis
