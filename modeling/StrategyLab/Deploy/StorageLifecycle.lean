import StrategyLab.Lib.Dict
import Mathlib.Algebra.Order.Field.Rat

/-! Storage lifecycle: the tiers of the files below some roots, and the cleanup of cold ones. -/

namespace StrategyLab.StorageLifecycle

/-- A place in a tree of files: the names on the way from the top. -/
abbrev Path := List String

/-- A file of a tree; times are seconds. -/
structure File where
  path : Path
  content : String
  modified : ℚ
  deriving DecidableEq

/-- A tree of files, each at a place of its own. -/
abbrev Tree := Table File.path

/-- A tree without the file at a place. -/
def unlinked (tree : Tree) (path : Path) : Tree where
  rows := tree.rows.filter (·.path ≠ path)
  distinct := tree.distinct.sublist (List.filter_sublist.map File.path)

/-- How much a file may be touched. -/
inductive Tier where
  | hot
  | warm
  | cold
  deriving DecidableEq, Repr

/-- A file that was found below a root. -/
structure ClassifiedFile where
  path : Path
  sizeBytes : Nat
  tier : Tier
  deriving DecidableEq

/-- What the script is called with. -/
structure Args where
  root : List Path
  warmDays : Int
  warmDirName : String
  coldDirName : String
  backupsDirName : String
  dryRun : Bool

/-- Which operations on files fail: looking at one below the root of a number, reading one, with the
text of the error, and removing one. -/
structure Faults where
  stat : Nat → Path → Bool
  read : Path → Option String
  unlink : Path → Bool

/-- Whether a file is below a root. -/
def isBelow (root path : Path) : Bool := root.isPrefixOf path && path ≠ root

/-- The files below a root. -/
def iterFiles (tree : Tree) (root : Path) : List File :=
  tree.rows.filter fun file => isBelow root file.path

/-- Whether a directory of a name is between a root and a file. -/
def isUnderDirNamed (path root : Path) (dirName : String) : Bool :=
  root.isPrefixOf path && dirName ∈ (path.drop root.length).dropLast

/-- The tier of a file below a root at a time. -/
def tierOf (args : Args) (now : ℚ) (root : Path) (file : File) : Tier :=
  let ageSeconds := now - file.modified
  if isUnderDirNamed file.path root args.backupsDirName ||
      isUnderDirNamed file.path root args.coldDirName then .cold
  else if isUnderDirNamed file.path root args.warmDirName then
    if (args.warmDays * 86400 : Int) < ageSeconds then .cold else .warm
  else .hot

/-- The files below all roots with their tiers, once for each root. -/
def classify (args : Args) (faults : Faults) (now : ℚ) (tree : Tree) : List ClassifiedFile :=
  args.root.zipIdx.flatMap fun place =>
    ((iterFiles tree place.1).filter fun file => !faults.stat place.2 file.path).map fun file =>
      ⟨file.path, file.content.utf8ByteSize, tierOf args now place.1 file⟩

/-- An entry of the verified manifest; what is missing is `none`. -/
structure ManifestEntry where
  path : Path
  sha256 : Option String
  deriving DecidableEq

/-- An entry of the deletion log, without its time. -/
inductive LogEntry where
  | delete (path : Path) (sizeBytes : Nat) (sha256 verifiedManifest : String)
  | skip (path : Path) (reason : String)
  deriving DecidableEq

/-- How far a cleanup has come; a failure to remove a file ends it. -/
structure Cleanup where
  tree : Tree
  log : List LogEntry
  deleted : List Path
  skipped : List (Path × String)
  raised : Bool

section Run

variable (hash : String → String) (args : Args) (faults : Faults)

/-- The files that may be deleted, by their paths. -/
def coldPaths (now : ℚ) (tree : Tree) : Table ClassifiedFile.path :=
  Table.ofRows ((classify args faults now tree).filter (·.tier = .cold))

/-- The entries of a manifest by their paths. -/
def verifiedByPath (manifest : List ManifestEntry) : Table ManifestEntry.path :=
  Table.ofRows manifest

/-- The hash of a file that can be read. -/
def sha256Of (tree : Tree) (path : Path) : Except String String :=
  match faults.read path, tree.find? path with
  | some message, _ => .error message
  | none, none => .error "No such file or directory"
  | none, some file => .ok (hash file.content)

/-- The current hash of a file that is to be deleted, or why it is left alone. -/
def verified (manifest : List ManifestEntry) (tree : Tree) (path : Path) : Except String String :=
  match (verifiedByPath manifest).find? path with
  | none => .error "not_in_verified_manifest"
  | some entry =>
    match sha256Of hash faults tree path with
    | .error message => .error ("unreadable: " ++ message)
    | .ok currentHash =>
      if some currentHash ≠ entry.sha256 then .error "hash_mismatch_since_verification"
      else .ok currentHash

/-- Go through the cold files. -/
def deleteVerified (manifest : List ManifestEntry) (manifestName : String) :
    List ClassifiedFile → Cleanup → Cleanup
  | [], cleanup => cleanup
  | file :: rest, cleanup =>
    match verified hash faults manifest cleanup.tree file.path with
    | .error reason =>
      deleteVerified manifest manifestName rest
        { cleanup with skipped := cleanup.skipped ++ [(file.path, reason)] }
    | .ok currentHash =>
      let log := cleanup.log ++ [.delete file.path file.sizeBytes currentHash manifestName]
      let deleted := cleanup.deleted ++ [file.path]
      if args.dryRun then
        deleteVerified manifest manifestName rest { cleanup with log, deleted }
      else if faults.unlink file.path then { cleanup with log, raised := true }
      else
        deleteVerified manifest manifestName rest
          { cleanup with tree := unlinked cleanup.tree file.path, log, deleted }

/-- Delete the cold files that are verified, and log what was done with each. -/
def cmdCleanup (now : ℚ) (manifest : List ManifestEntry) (manifestName : String) (tree : Tree) :
    Cleanup :=
  let cleanup := deleteVerified hash args faults manifest manifestName
    (coldPaths args faults now tree).rows ⟨tree, [], [], [], false⟩
  if cleanup.raised then cleanup
  else { cleanup with log := cleanup.log ++ cleanup.skipped.map fun entry => .skip entry.1 entry.2 }

/-- What a cleanup reports when it gets to its end. -/
structure CleanupReport where
  dryRun : Bool
  deletedCount : Nat
  skippedCount : Nat
  destructiveActionTaken : Bool

/-- The report on a cleanup. -/
def Cleanup.report (cleanup : Cleanup) : CleanupReport where
  dryRun := args.dryRun
  deletedCount := cleanup.deleted.length
  skippedCount := cleanup.skipped.length
  destructiveActionTaken := !cleanup.deleted.isEmpty && !args.dryRun

end Run

/-- The place of a delete entry. -/
def LogEntry.deletes? : LogEntry → Option Path
  | delete path _ _ _ => some path
  | skip _ _ => none

/-- The places of the delete entries of a log. -/
def deletions (log : List LogEntry) : List Path := log.filterMap LogEntry.deletes?

section Loop

variable {hash : String → String} {args : Args} {faults : Faults} {manifest : List ManifestEntry}
  {manifestName : String}

/-- Removing one file changes nothing for the others. -/
theorem find?_unlinked {tree : Tree} {path other : Path} (apart : other ≠ path) :
    (unlinked tree path).find? other = tree.find? other := by
  simp only [Table.find?, unlinked, List.find?_filter]
  congr 1
  funext file
  by_cases here : file.path = other
  · simp [here, apart]
  · simp [here]

/-- Whether another file is verified does not depend on one that is removed. -/
theorem verified_unlinked {tree : Tree} {path other : Path} (apart : other ≠ path) :
    verified hash faults manifest (unlinked tree path) other =
      verified hash faults manifest tree other := by
  unfold verified sha256Of
  rw [find?_unlinked apart]

/-- The files that are gone through, and what is done with them: those before the one that cannot be
removed, if there is one. -/
structure Ran (hash : String → String) (args : Args) (faults : Faults)
    (manifest : List ManifestEntry) (todo : List ClassifiedFile) (start final : Cleanup)
    (done : List ClassifiedFile) : Prop where
  begins : done <+: todo
  tree : ∀ file, file ∈ final.tree.rows ↔ file ∈ start.tree.rows ∧
    ¬(args.dryRun = false ∧ (∃ cold ∈ done, cold.path = file.path) ∧
      (verified hash faults manifest start.tree file.path).isOk)
  logged : ∀ path, path ∈ deletions final.log ↔ path ∈ deletions start.log ∨
    (∃ cold ∈ done, cold.path = path) ∧ (verified hash faults manifest start.tree path).isOk ∨
    ∃ cold, final.raised ∧ done ++ [cold] <+: todo ∧ cold.path = path
  ended : final.raised = false → done = todo
  stopped : final.raised → args.dryRun = false

variable {size : Nat}

/-- One more entry deletes one more place. -/
theorem mem_deletions_delete {log : List LogEntry} {place path : Path} {sha256 name : String} :
    path ∈ deletions (log ++ [.delete place size sha256 name]) ↔
      path ∈ deletions log ∨ place = path := by
  simp [deletions, List.filterMap_append, LogEntry.deletes?, eq_comm]

variable {rest done : List ClassifiedFile} {start next final : Cleanup}

variable {file : ClassifiedFile}

/-- A file that is skipped is gone through, and nothing is done with it. -/
theorem Ran.skip {reason : String}
    (left : verified hash faults manifest start.tree file.path = .error reason)
    (ran : Ran hash args faults manifest rest next final done)
    (tree : next.tree = start.tree) (log : next.log = start.log) :
    Ran hash args faults manifest (file :: rest) start final (file :: done) := by
  have unchecked (path : Path) (here : file.path = path) :
      ¬(verified hash faults manifest start.tree path).isOk := by
    rw [← here, left]
    simp [Except.isOk, Except.toBool]
  refine ⟨List.cons_prefix_cons.mpr ⟨rfl, ran.begins⟩, fun other => ?_, fun path => ?_,
    fun whole => congrArg _ (ran.ended whole), ran.stopped⟩
  · rw [ran.tree, tree]
    by_cases here : file.path = other.path
    · simp [unchecked _ here]
    · simp [here]
  · rw [ran.logged, log, tree]
    by_cases here : file.path = path
    · simp [unchecked _ here, List.cons_prefix_cons]
    · simp [here, List.cons_prefix_cons]

variable {sha256 currentHash name : String}

/-- In a dry run a verified file is logged and stays. -/
theorem Ran.plan (checked : verified hash faults manifest start.tree file.path = .ok currentHash)
    (dry : args.dryRun = true)
    (ran : Ran hash args faults manifest rest next final done)
    (tree : next.tree = start.tree)
    (log : next.log = start.log ++ [.delete file.path size sha256 name]) :
    Ran hash args faults manifest (file :: rest) start final (file :: done) := by
  refine ⟨List.cons_prefix_cons.mpr ⟨rfl, ran.begins⟩, fun other => ?_, fun path => ?_,
    fun whole => congrArg _ (ran.ended whole), ran.stopped⟩
  · rw [ran.tree, tree]
    simp [dry]
  · rw [ran.logged, log, tree, mem_deletions_delete]
    by_cases here : file.path = path
    · have ok : (verified hash faults manifest start.tree path).isOk := by
        rw [← here, checked]
        rfl
      simp [here, ok]
    · simp [here, List.cons_prefix_cons]

/-- A verified file that can be removed is logged and removed. -/
theorem Ran.remove (checked : verified hash faults manifest start.tree file.path = .ok currentHash)
    (real : args.dryRun = false)
    (ran : Ran hash args faults manifest rest next final done)
    (tree : next.tree = unlinked start.tree file.path)
    (log : next.log = start.log ++ [.delete file.path size sha256 name]) :
    Ran hash args faults manifest (file :: rest) start final (file :: done) := by
  have ok (path : Path) (here : file.path = path) :
      (verified hash faults manifest start.tree path).isOk := by
    rw [← here, checked]
    rfl
  refine ⟨List.cons_prefix_cons.mpr ⟨rfl, ran.begins⟩, fun other => ?_, fun path => ?_,
    fun whole => congrArg _ (ran.ended whole), ran.stopped⟩
  · rw [ran.tree, tree]
    by_cases here : file.path = other.path
    · simp [unlinked, real, here, ok other.path here]
    · have apart : other.path ≠ file.path := Ne.symm here
      rw [verified_unlinked apart]
      simp [unlinked, here, apart]
  · rw [ran.logged, log, tree, mem_deletions_delete]
    by_cases here : file.path = path
    · simp [here, ok path here]
    · rw [verified_unlinked (Ne.symm here)]
      simp [here, List.cons_prefix_cons]

/-- A verified file that cannot be removed is logged, and nothing comes after it. -/
theorem ran_stop {rest : List ClassifiedFile} {start final : Cleanup}
    {sha256 name : String} (real : args.dryRun = false) (raised : final.raised = true)
    (tree : final.tree = start.tree)
    (log : final.log = start.log ++ [.delete file.path size sha256 name]) :
    Ran hash args faults manifest (file :: rest) start final [] := by
  refine ⟨List.nil_prefix, fun other => ?_, fun path => ?_, fun whole => ?_, fun _ => real⟩
  · rw [tree]
    simp
  · rw [log, mem_deletions_delete]
    simp [raised, List.cons_prefix_cons]
  · rw [raised] at whole
    cases whole

/-- The loop goes through the files up to the one that cannot be removed. -/
theorem exists_ran (todo : List ClassifiedFile) (start : Cleanup) (fresh : start.raised = false) :
    ∃ done, Ran hash args faults manifest todo start
      (deleteVerified hash args faults manifest manifestName todo start) done := by
  induction todo generalizing start with
  | nil =>
    refine ⟨[], List.prefix_refl _, fun file => ?_, fun path => ?_, fun _ => rfl, fun stopped => ?_⟩
    · simp [deleteVerified]
    · simp [deleteVerified]
    · rw [deleteVerified, fresh] at stopped
      cases stopped
  | cons file rest ih =>
    rw [deleteVerified]
    cases checked : verified hash faults manifest start.tree file.path with
    | error reason =>
      obtain ⟨done, ran⟩ := ih
        { start with skipped := start.skipped ++ [(file.path, reason)] } fresh
      exact ⟨file :: done, Ran.skip checked ran rfl rfl⟩
    | ok currentHash =>
      dsimp only
      split
      · rename_i dry
        obtain ⟨done, ran⟩ := ih
          { start with
            log := start.log ++ [.delete file.path file.sizeBytes currentHash manifestName]
            deleted := start.deleted ++ [file.path] } fresh
        exact ⟨file :: done, Ran.plan checked dry ran rfl rfl⟩
      · rename_i real
        rw [Bool.not_eq_true] at real
        split
        · exact ⟨[], ran_stop real rfl rfl rfl⟩
        · obtain ⟨done, ran⟩ := ih
            { start with
              tree := unlinked start.tree file.path
              log := start.log ++ [.delete file.path file.sizeBytes currentHash manifestName]
              deleted := start.deleted ++ [file.path] } fresh
          exact ⟨file :: done, Ran.remove checked real ran rfl rfl⟩

end Loop

section Checks

variable {hash : String → String} {args : Args} {faults : Faults} {manifest : List ManifestEntry}
  {now : ℚ} {tree : Tree} {file : File}

/-- A file is found cold below a root that contains it. -/
def FoundCold (args : Args) (faults : Faults) (now : ℚ) (file : File) : Prop :=
  ∃ place ∈ args.root.zipIdx, faults.stat place.2 file.path = false ∧
    isBelow place.1 file.path ∧ tierOf args now place.1 file = .cold

/-- A manifest lists a file with the hash that it has. -/
def Listed (hash : String → String) (manifest : List ManifestEntry) (file : File) : Prop :=
  ∃ entry, (verifiedByPath manifest).find? file.path = some entry ∧
    entry.sha256 = some (hash file.content)

/-- A file passes all checks before a deletion. -/
structure Passes (hash : String → String) (args : Args) (faults : Faults) (now : ℚ)
    (manifest : List ManifestEntry) (file : File) : Prop where
  cold : FoundCold args faults now file
  listed : Listed hash manifest file
  readable : faults.read file.path = none

/-- A file of a tree is verified if it can be read and is listed with its hash. -/
theorem isOk_verified_iff (member : file ∈ tree.rows) :
    (verified hash faults manifest tree file.path).isOk ↔
      Listed hash manifest file ∧ faults.read file.path = none := by
  have found := Table.find?_of_mem member
  unfold verified sha256Of Listed
  rw [found]
  cases (verifiedByPath manifest).find? file.path with
  | none => simp [Except.isOk, Except.toBool]
  | some entry =>
    cases faults.read file.path with
    | some message => simp [Except.isOk, Except.toBool]
    | none =>
      by_cases same : some (hash file.content) = entry.sha256
      · simp [same, Except.isOk, Except.toBool]
      · simp [same, Ne.symm same, Except.isOk, Except.toBool]

/-- The cold files are those of the tree that are found cold. -/
theorem mem_coldPaths {path : Path} :
    (∃ cold ∈ (coldPaths args faults now tree).rows, cold.path = path) ↔
      ∃ file ∈ tree.rows, file.path = path ∧ FoundCold args faults now file := by
  have keys : (∃ cold ∈ (coldPaths args faults now tree).rows, cold.path = path) ↔
      path ∈ (coldPaths args faults now tree).keyList := by
    simp [Table.keyList]
  rw [keys, coldPaths, Table.keyList_ofRows, Py.mem_fromkeys]
  simp only [classify, iterFiles, List.mem_map, List.mem_filter, List.mem_flatMap,
    decide_eq_true_eq]
  constructor
  · rintro ⟨found, ⟨⟨place, inside, file, ⟨⟨member, below⟩, seen⟩, rfl⟩, cold⟩, rfl⟩
    exact ⟨file, member, rfl, place, inside, by simpa using seen, below, cold⟩
  · rintro ⟨file, member, rfl, place, inside, seen, below, cold⟩
    exact ⟨_, ⟨⟨place, inside, file, ⟨⟨member, below⟩, by simpa using seen⟩, rfl⟩, cold⟩, rfl⟩

/-- Files at one place of a tree are one file. -/
theorem eq_of_path_eq {other : File} (member : file ∈ tree.rows) (inside : other ∈ tree.rows)
    (same : other.path = file.path) : other = file := by
  have found := Table.find?_of_mem inside
  rw [same, Table.find?_of_mem member] at found
  exact (Option.some.inj found).symm

/-- The places that are logged as skipped are none that are deleted. -/
theorem deletions_skipped (log : List LogEntry) (skipped : List (Path × String)) :
    deletions (log ++ skipped.map fun entry => .skip entry.1 entry.2) = deletions log := by
  simp [deletions, List.filterMap_append, List.filterMap_map, Function.comp_def,
    LogEntry.deletes?]

/-- A cleanup is what its loop has done, up to the entries of what was skipped. -/
theorem cmdCleanup_eq (manifestName : String) :
    ∃ loop done, Ran hash args faults manifest (coldPaths args faults now tree).rows
        ⟨tree, [], [], [], false⟩ loop done ∧
      (cmdCleanup hash args faults now manifest manifestName tree).tree = loop.tree ∧
      (cmdCleanup hash args faults now manifest manifestName tree).raised = loop.raised ∧
      deletions (cmdCleanup hash args faults now manifest manifestName tree).log =
        deletions loop.log := by
  obtain ⟨done, ran⟩ := @exists_ran hash args faults manifest manifestName
    (coldPaths args faults now tree).rows ⟨tree, [], [], [], false⟩ rfl
  refine ⟨_, done, ran, ?_⟩
  unfold cmdCleanup
  dsimp only
  split
  · exact ⟨rfl, rfl, rfl⟩
  · exact ⟨rfl, rfl, deletions_skipped _ _⟩

/-- A cleanup removes only files that pass all checks, and with no root inside another one these are
cold below every root; every removal is logged, a cleanup that gets to its end logs nothing else
unless it is a dry run, and a dry run removes nothing and logs what passes. -/
theorem cleanup_truthful (hash : String → String) (args : Args) (faults : Faults) (now : ℚ)
    (manifest : List ManifestEntry) (manifestName : String) (tree : Tree) :
    let run := cmdCleanup hash args faults now manifest manifestName tree
    (∀ file ∈ run.tree.rows, file ∈ tree.rows) ∧
    (∀ file ∈ tree.rows, file ∉ run.tree.rows → args.dryRun = false ∧
      Passes hash args faults now manifest file ∧ file.path ∈ deletions run.log) ∧
    ((∀ root ∈ args.root, ∀ other ∈ args.root, root <+: other → root = other) →
      ∀ file ∈ tree.rows, file ∉ run.tree.rows → ∀ root ∈ args.root, isBelow root file.path →
        tierOf args now root file = .cold) ∧
    (run.raised = false → args.dryRun = false → ∀ path, path ∈ deletions run.log ↔
      ∃ file ∈ tree.rows, file.path = path ∧ file ∉ run.tree.rows) ∧
    (args.dryRun → (∀ file ∈ tree.rows, file ∈ run.tree.rows) ∧ ∀ path,
      path ∈ deletions run.log ↔ ∃ file ∈ tree.rows, file.path = path ∧
        Passes hash args faults now manifest file) := by
  obtain ⟨loop, done, ran, sameTree, sameRaised, sameLog⟩ :=
    @cmdCleanup_eq hash args faults manifest now tree manifestName
  dsimp only
  rw [sameTree, sameRaised, sameLog]
  -- What is gone through and can be verified passes all checks.
  have passes : ∀ file ∈ tree.rows, (∃ cold ∈ done, cold.path = file.path) →
      (verified hash faults manifest tree file.path).isOk →
      Passes hash args faults now manifest file := by
    intro file member gone ok
    obtain ⟨cold, inside, here⟩ := gone
    obtain ⟨other, known, same, found⟩ :=
      mem_coldPaths.mp ⟨cold, ran.begins.subset inside, here⟩
    obtain rfl := eq_of_path_eq member known same
    obtain ⟨listed, readable⟩ := (isOk_verified_iff member).mp ok
    exact ⟨found, listed, readable⟩
  have removed : ∀ file ∈ tree.rows, file ∉ loop.tree.rows → args.dryRun = false ∧
      (∃ cold ∈ done, cold.path = file.path) ∧
      (verified hash faults manifest tree file.path).isOk := by
    intro file member gone
    by_contra stays
    exact gone ((ran.tree file).mpr ⟨member, stays⟩)
  -- And what passes is gone through when nothing stops the loop.
  have reached : loop.raised = false → ∀ file ∈ tree.rows,
      Passes hash args faults now manifest file →
      (∃ cold ∈ done, cold.path = file.path) ∧
        (verified hash faults manifest tree file.path).isOk := by
    intro ends file member passing
    rw [ran.ended ends, mem_coldPaths]
    exact ⟨⟨file, member, rfl, passing.cold⟩,
      (isOk_verified_iff member).mpr ⟨passing.listed, passing.readable⟩⟩
  have logged : loop.raised = false → ∀ path, path ∈ deletions loop.log ↔
      ∃ file ∈ tree.rows, file.path = path ∧ Passes hash args faults now manifest file := by
    intro ends path
    rw [ran.logged]
    constructor
    · rintro (none_ | ⟨⟨cold, inside, rfl⟩, ok⟩ | ⟨_, stopped, _⟩)
      · cases none_
      · obtain ⟨file, member, here, found⟩ :=
          mem_coldPaths.mp ⟨cold, ran.begins.subset inside, rfl⟩
        rw [← here] at ok
        exact ⟨file, member, here, passes file member ⟨cold, inside, here.symm⟩ ok⟩
      · rw [ends] at stopped
        cases stopped
    · rintro ⟨file, member, rfl, passing⟩
      exact .inr (.inl (reached ends file member passing))
  refine ⟨fun file kept => ((ran.tree file).mp kept).1, fun file member gone => ?_,
    fun apart file member gone root among below => ?_, fun ends real path => ?_, fun dry => ?_⟩
  · obtain ⟨real, among, ok⟩ := removed file member gone
    exact ⟨real, passes file member among ok, (ran.logged _).mpr (.inr (.inl ⟨among, ok⟩))⟩
  · obtain ⟨_, through, ok⟩ := removed file member gone
    obtain ⟨place, inside, _, belowPlace, cold⟩ := (passes file member through ok).cold
    -- Two roots above one file are one inside the other.
    have inRoots : place.1 ∈ args.root := by
      have listed := List.mem_map_of_mem (f := Prod.fst) inside
      rwa [List.zipIdx_map_fst] at listed
    simp only [isBelow, Bool.and_eq_true, List.isPrefixOf_iff_prefix] at below belowPlace
    have same : root = place.1 := by
      rcases List.prefix_or_prefix_of_prefix below.1 belowPlace.1 with outer | inner
      · exact apart root among place.1 inRoots outer
      · exact (apart place.1 inRoots root among inner).symm
    rw [same]
    exact cold
  · rw [logged ends path]
    refine exists_congr fun file => and_congr_right fun member => and_congr_right fun _ => ?_
    constructor
    · intro passing kept
      exact ((ran.tree file).mp kept).2 ⟨real, reached ends file member passing⟩
    · intro gone
      obtain ⟨_, through, ok⟩ := removed file member gone
      exact passes file member through ok
  · have ends : loop.raised = false := by
      by_contra stopped
      have real := ran.stopped (by simpa using stopped)
      rw [dry] at real
      cases real
    refine ⟨fun file member => ?_, logged ends⟩
    by_contra gone
    have real := (removed file member gone).1
    rw [dry] at real
    cases real

/-- A directory of backups that is a root of its own, below another root. -/
def nestedArgs (dryRun : Bool) : Args :=
  ⟨[["var"], ["var", "backups"]], 14, "research_cache", "research_exports", "backups", dryRun⟩

/-- Nothing fails, or nothing can be removed. -/
def removalFaults (fails : Bool) : Faults := ⟨fun _ _ => false, fun _ => none, fun _ => fails⟩

/-- A backup. -/
def backupFile : File := ⟨["var", "backups", "gaon.bak"], "x", 0⟩

/-- A tree with nothing but the backup. -/
def backupTree : Tree := Table.ofRows [backupFile]

/-- The SHA-256 of the content of the backup. -/
def backupHash (content : String) : String :=
  if content = "x" then "2d711642b726b04401627ca9fbac32f5c8530fb1903cc4db02258717921a4881" else ""

/-- The manifest that lists the backup. -/
def backupManifest : List ManifestEntry := [⟨backupFile.path, some (backupHash "x")⟩]

/-- A file that is hot below a nested root is deleted, a dry run logs a deletion, and so does a run
that cannot delete. -/
theorem nested_root_deletes_hot_file :
    tierOf (nestedArgs false) 0 ["var", "backups"] backupFile = .hot ∧
    isBelow ["var", "backups"] backupFile.path ∧
    (cmdCleanup backupHash (nestedArgs false) (removalFaults false) 0 backupManifest
      "verified.json" backupTree).tree.rows = [] ∧
    (cmdCleanup backupHash (nestedArgs true) (removalFaults false) 0 backupManifest
      "verified.json" backupTree).tree.rows = [backupFile] ∧
    deletions (cmdCleanup backupHash (nestedArgs true) (removalFaults false) 0 backupManifest
      "verified.json" backupTree).log = [backupFile.path] ∧
    (cmdCleanup backupHash (nestedArgs false) (removalFaults true) 0 backupManifest
      "verified.json" backupTree).tree.rows = [backupFile] ∧
    deletions (cmdCleanup backupHash (nestedArgs false) (removalFaults true) 0 backupManifest
      "verified.json" backupTree).log = [backupFile.path] := by
  decide +kernel

end Checks

section Preview

variable (hash : String → String) (args : Args) (faults : Faults) (manifest : List ManifestEntry)
  (manifestName : String)

/-- Nothing that is to be removed stays. -/
def Faults.removing (faults : Faults) : Faults := { faults with unlink := fun _ => false }

/-- The loop of a dry run reports what a loop does that can remove everything. -/
theorem deleteVerified_preview {todo : List ClassifiedFile}
    (distinct : (todo.map (·.path)).Nodup) (start : Cleanup) (tree : Tree)
    (same : ∀ cold ∈ todo, verified hash faults manifest tree cold.path =
      verified hash faults manifest start.tree cold.path) :
    deleteVerified hash { args with dryRun := true } faults manifest manifestName todo
        { start with tree } =
      { deleteVerified hash { args with dryRun := false } faults.removing manifest manifestName todo
          start with tree } := by
  induction todo generalizing start with
  | nil => rfl
  | cons file rest ih =>
    obtain ⟨apart, distinct⟩ := List.nodup_cons.mp distinct
    have later := fun cold member => same cold (List.mem_cons_of_mem _ member)
    have unfaulted : verified hash faults.removing manifest start.tree file.path =
        verified hash faults manifest start.tree file.path := rfl
    rw [deleteVerified, deleteVerified, same file List.mem_cons_self, unfaulted]
    cases verified hash faults manifest start.tree file.path with
    | error reason => exact ih distinct { start with skipped := _ } later
    | ok currentHash =>
      refine ih distinct { start with tree := unlinked start.tree file.path, log := _, deleted := _ }
        fun cold member => ?_
      -- What was removed is none of the files to come.
      have other : cold.path ≠ file.path :=
        fun here => apart (List.mem_map.mpr ⟨cold, member, here⟩)
      rw [verified_unlinked other]
      exact later cold member

/-- A dry run reports exactly what a run does that can remove everything, and leaves the files. -/
theorem dry_run_previews (now : ℚ) (tree : Tree) :
    cmdCleanup hash { args with dryRun := true } faults now manifest manifestName tree =
      { cmdCleanup hash { args with dryRun := false } faults.removing now manifest manifestName
          tree with tree } := by
  have loop := deleteVerified_preview hash args faults manifest manifestName
    (coldPaths args faults now tree).distinct ⟨tree, [], [], [], false⟩ tree fun _ _ => rfl
  let finished (cleanup : Cleanup) : Cleanup := if cleanup.raised then cleanup else
    { cleanup with log := cleanup.log ++ cleanup.skipped.map fun entry => .skip entry.1 entry.2 }
  have moved (cleanup : Cleanup) :
      finished { cleanup with tree } = { finished cleanup with tree } := by
    simp only [finished]
    split <;> rfl
  exact (congrArg finished loop).trans (moved _)

end Preview

end StrategyLab.StorageLifecycle
