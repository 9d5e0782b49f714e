import CliCore.Audit.Env
import Mathlib.Data.List.Perm.Basic

/-!
# The schedule of scan units

`getScaScansToPreform` asks the detector about every requested directory and turns each
detection result into scan units.  The requested directories are the working directory,
detected recursively, when the caller named none, and otherwise every directory the caller
named, once, detected non-recursively (`getRequestedDirectoriesToScan`).

A detection result is a map from technology to a map from working directory to descriptors,
ranged over in an order Go leaves open.  `getScaScansToPreform_schedules` characterises the
schedule up to that order: the units of one result are duplicate-free and are exactly those
`ScheduledFrom` describes (one per working directory of a detected technology, or one rooted
at the requested directory when the technology's map is empty; Dotnet never), so the schedule
is a permutation of any list of such units, directory after directory.
-/

namespace CliCore

namespace Audit

/-- A detection result: technology to working directory to descriptors. -/
abbrev Detected := GoMap Technology (GoMap Dir (List String))

/-- `DefaultExcludePatterns`. -/
def defaultExcludePatterns : List String :=
  ["*.git*", "*node_modules*", "*target*", "*venv*", "*test*"]

/-- `getRequestedDescriptors`. -/
def getRequestedDescriptors (params : AuditBasicParams) : GoMap Technology (List String) :=
  if params.pipRequirementsFile != "" then GoMap.empty.insert .pip [params.pipRequirementsFile]
  else GoMap.empty

/-- `getExcludePattern`. -/
def getExcludePattern (env : Env) (params : AuditBasicParams) (recursive : Bool) : String :=
  env.prepareExcludePathPattern
    (if params.exclusions.isEmpty then defaultExcludePatterns else params.exclusions) recursive

/-- `getRequestedDirectoriesToScan`: the directories and whether to detect recursively. -/
def getRequestedDirectoriesToScan (currentWorkingDir : Path) (params : AuditParams) :
    List Dir × Bool :=
  let workingDirs := GoSet.makeSet.addAll params.workingDirs
  if params.workingDirs.isEmpty then ([.abs currentWorkingDir], true)
  else (workingDirs.toSlice, false)

/-- The units one detected technology gives: one rooted at the requested directory when no
working directory was found for it, and one per working directory found. -/
def techScans (requestedDirectory : Dir) (tech : Technology)
    (workingDirs : GoMap Dir (List String)) :
    List ScaScanResult :=
  (if workingDirs.entries.isEmpty then [⟨requestedDirectory, tech, [], none, []⟩] else []) ++
    workingDirs.entries.map fun (workingDir, descriptors) =>
      ⟨workingDir, tech, descriptors, none, []⟩

/-- The units of one detection result for `requestedDirectory`: the loop over technologies of
`getScaScansToPreform`, which skips Dotnet. -/
def detectedScans (requestedDirectory : Dir) (techToWorkingDirs : Detected) :
    List ScaScanResult :=
  techToWorkingDirs.entries.flatMap fun (tech, workingDirs) =>
    if tech = .dotnet then [] else techScans requestedDirectory tech workingDirs

/-- `coreutils.DetectTechnologiesDescriptors` as `getScaScansToPreform` calls it. -/
def detect (env : Env) (currentWorkingDir : Path) (params : AuditParams) (isRecursive : Bool)
    (requestedDirectory : Dir) : Except String Detected :=
  env.detectTechnologiesDescriptors currentWorkingDir requestedDirectory isRecursive
    params.basic.technologies (getRequestedDescriptors params.basic)
    (getExcludePattern env params.basic isRecursive)

/-- `getScaScansToPreform`, from the working directory `currentWorkingDir`; a directory whose
detection fails is skipped. -/
def getScaScansToPreform (env : Env) (currentWorkingDir : Path) (params : AuditParams) :
    List ScaScanResult :=
  match getRequestedDirectoriesToScan currentWorkingDir params with
  | (requestedDirectories, isRecursive) =>
    requestedDirectories.flatMap fun requestedDirectory =>
      match detect env currentWorkingDir params isRecursive requestedDirectory with
      | .error _ => []
      | .ok techToWorkingDirs => detectedScans requestedDirectory techToWorkingDirs

/-- The spec's account of the units a detection result gives for the requested directory `d`:
a technology other than Dotnet gives one unit rooted at `d` without descriptors when its map
of working directories is empty, and one unit per entry of that map otherwise. -/
def ScheduledFrom (d : Dir) (m : Detected) (u : ScaScanResult) : Prop :=
  u.technology ≠ .dotnet ∧ u.isMultipleRootProject = none ∧ u.xrayResults = [] ∧
    ∃ workingDirs, (u.technology, workingDirs) ∈ m.entries ∧
      ((workingDirs.entries = [] ∧ u.workingDirectory = d ∧ u.descriptors = []) ∨
        (u.workingDirectory, u.descriptors) ∈ workingDirs.entries)

theorem mem_techScans {d : Dir} {tech : Technology} {wds : GoMap Dir (List String)}
    {u : ScaScanResult} :
    u ∈ techScans d tech wds ↔ u.technology = tech ∧ u.isMultipleRootProject = none ∧
      u.xrayResults = [] ∧ ((wds.entries = [] ∧ u.workingDirectory = d ∧ u.descriptors = []) ∨
        (u.workingDirectory, u.descriptors) ∈ wds.entries) := by
  obtain ⟨d', t, ds, mr, xr⟩ := u
  by_cases he : wds.entries = []
  · simp [techScans, he, and_comm, and_left_comm, and_assoc]
  · simp [techScans, he, @eq_comm _ tech, @eq_comm _ none, and_comm, and_left_comm]

theorem mem_detectedScans {d : Dir} {m : Detected} {u : ScaScanResult} :
    u ∈ detectedScans d m ↔ ScheduledFrom d m u := by
  simp only [detectedScans, List.mem_flatMap, ScheduledFrom, Prod.exists]
  constructor
  · rintro ⟨tech, wds, hmem, hu⟩
    split_ifs at hu with hd
    · simp at hu
    · obtain ⟨rfl, h1, h2, h3⟩ := mem_techScans.1 hu
      exact ⟨hd, h1, h2, wds, hmem, h3⟩
  · rintro ⟨hd, h1, h2, wds, hmem, h3⟩
    exact ⟨u.technology, wds, hmem, by simpa [hd] using mem_techScans.2 ⟨rfl, h1, h2, h3⟩⟩

theorem techScans_nodup (d : Dir) (tech : Technology) (wds : GoMap Dir (List String)) :
    (techScans d tech wds).Nodup := by
  refine List.Nodup.append (by split_ifs <;> simp) ?_ ?_
  · refine (List.Nodup.of_map Prod.fst wds.nodup).map fun a b h => ?_
    simp only [ScaScanResult.mk.injEq] at h
    exact Prod.ext h.1 h.2.2.1
  · split_ifs with he
    · simp_all
    · simp

theorem detectedScans_nodup (d : Dir) (m : Detected) : (detectedScans d m).Nodup := by
  refine List.nodup_flatMap.2 ⟨fun ⟨tech, wds⟩ _ => ?_, ?_⟩
  · dsimp only
    split_ifs
    · exact List.nodup_nil
    · exact techScans_nodup _ _ _
  · refine (List.pairwise_map.1 m.nodup).imp fun {a b} hab u hua hub => hab ?_
    have technology_eq : ∀ p : Technology × GoMap Dir (List String),
        u ∈ (if p.1 = .dotnet then [] else techScans d p.1 p.2) → u.technology = p.1 := by
      rintro ⟨t, w⟩ h
      split_ifs at h
      exacts [absurd h (List.not_mem_nil _), (mem_techScans.1 h).1]
    exact (technology_eq a hua).symm.trans (technology_eq b hub)

theorem getRequestedDirectoriesToScan_spec (cwd : Path) (params : AuditParams) :
    let requested := getRequestedDirectoriesToScan cwd params
    requested.2 = params.workingDirs.isEmpty ∧
      (params.workingDirs = [] → requested.1 = [.abs cwd]) ∧
      (params.workingDirs ≠ [] →
        requested.1.Nodup ∧ ∀ d, d ∈ requested.1 ↔ d ∈ params.workingDirs) := by
  by_cases h : params.workingDirs = []
  · simp [getRequestedDirectoriesToScan, h]
  · have he : params.workingDirs.isEmpty = false := by simpa using h
    simp only [getRequestedDirectoriesToScan, he, h, Bool.false_eq_true, ↓reduceIte]
    exact ⟨trivial, False.elim, fun _ => ⟨GoSet.nodup _, fun d => by simp [GoSet.makeSet]⟩⟩

theorem getScaScansToPreform_eq (env : Env) (cwd : Path) (params : AuditParams) :
    getScaScansToPreform env cwd params =
      (getRequestedDirectoriesToScan cwd params).1.flatMap fun d =>
        match env.detectTechnologiesDescriptors cwd d (getRequestedDirectoriesToScan cwd params).2
            params.basic.technologies (getRequestedDescriptors params.basic)
            (getExcludePattern env params.basic (getRequestedDirectoriesToScan cwd params).2) with
        | .error _ => []
        | .ok m => detectedScans d m := rfl

/-- **The schedule.**  The requested directories are the working directory, recursively, when
the caller named none, and otherwise each directory the caller named, once, non-recursively.
A directory whose detection fails gives no unit; the units of a detection result are
duplicate-free and exactly those `ScheduledFrom` describes, so the schedule is a permutation
of any such choice of units, in whatever order Go ranges over the maps; no Dotnet unit is
scheduled. -/
theorem getScaScansToPreform_schedules (env : Env) (cwd : Path) (params : AuditParams) :
    let requested := getRequestedDirectoriesToScan cwd params
    (requested.2 = params.workingDirs.isEmpty ∧
      (params.workingDirs = [] → requested.1 = [.abs cwd]) ∧
      (params.workingDirs ≠ [] →
        requested.1.Nodup ∧ ∀ d, d ∈ requested.1 ↔ d ∈ params.workingDirs)) ∧
    (∀ d m, (detectedScans d m).Nodup ∧ ∀ u, u ∈ detectedScans d m ↔ ScheduledFrom d m u) ∧
    (∀ units : Dir → Detected → List ScaScanResult,
      (∀ d m, (units d m).Nodup ∧ ∀ u, u ∈ units d m ↔ ScheduledFrom d m u) →
      (getScaScansToPreform env cwd params).Perm (requested.1.flatMap fun d =>
        match env.detectTechnologiesDescriptors cwd d requested.2 params.basic.technologies
            (getRequestedDescriptors params.basic) (getExcludePattern env params.basic requested.2)
          with
        | .error _ => []
        | .ok m => units d m)) ∧
    ∀ u ∈ getScaScansToPreform env cwd params, u.technology ≠ .dotnet := by
  refine ⟨getRequestedDirectoriesToScan_spec cwd params,
    fun d m => ⟨detectedScans_nodup d m, fun _ => mem_detectedScans⟩, fun units hunits => ?_, ?_⟩
  · rw [getScaScansToPreform_eq]
    refine List.Perm.flatMap_left _ fun d _ => ?_
    split
    · exact .refl _
    · rename_i m _
      refine (List.perm_ext_iff_of_nodup (detectedScans_nodup d m) (hunits d m).1).2 fun u => ?_
      rw [mem_detectedScans, (hunits d m).2]
  · intro u hu
    rw [getScaScansToPreform_eq, List.mem_flatMap] at hu
    obtain ⟨d, -, hu⟩ := hu
    split at hu
    · simp at hu
    · exact (mem_detectedScans.1 hu).1

end Audit

end CliCore
