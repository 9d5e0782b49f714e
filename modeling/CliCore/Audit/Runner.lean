import CliCore.Audit.DependencyTree
import CliCore.Audit.Schedule

/-!
# Running the scan units

`runScaScan` reads the working directory and the server details, schedules the units, runs
them one after the other with `executeScaScan`, and finally changes back to the working
directory it started in (a `defer`).  A failing unit does not stop the loop: its error is
wrapped with the unit's working directory and joined to the others; a unit that succeeds is
appended to the results.

* `scanLoop_eq`: the loop is the units executed in sequence (`executeAll`), with every success
  appended and every failure joined, in schedule order.
* `runScaScan_collects_units`: the whole run, once the working directory and the server details
  are read, for every schedule and every outcome of every unit.
* `runScaScan_restores_workingDir`: the early returns change nothing, and after the loop the
  working directory is the one of the start unless changing back failed, whose error is then
  the last one returned.

The JSON rendering of the schedule for the log is not modelled: `json.MarshalIndent` fails only
on values of unsupported kinds, and a schedule holds strings, string slices and a `*bool`.
-/

namespace CliCore

namespace Audit

/-- What a run changes besides the results: the process working directory, the shared params,
and the calls of the tree builders, each with the directory it ran in. -/
structure State where
  /-- The process working directory. -/
  cwd : Path
  /-- The `*AuditParams` of the run. -/
  params : AuditParams
  /-- The tree builders called so far. -/
  builds : List (Path × BuilderCall)
  deriving DecidableEq, Repr

/-- `runScaWithTech`. -/
def runScaWithTech (env : Env) (tech : Technology) (serverDetails : ServerDetails)
    (flatTree : GraphNode) (fullDependencyTrees : List GraphNode) :
    Except String (List ScanResponse) :=
  match env.runXrayDependenciesTreeScanGraph flatTree tech serverDetails with
  | .error err => .error err
  | .ok techResults => .ok (env.buildImpactPathsForScanResponse techResults fullDependencyTrees)

/-- `executeScaScan`: the state it leaves, and its error or the unit as it filled it in,
with the dependencies it added for the applicability scan. -/
def executeScaScan (env : Env) (serverDetails : ServerDetails) (s : State)
    (scan : ScaScanResult) : State × Except AuditError (ScaScanResult × List String) :=
  match chdir env s.cwd scan.workingDirectory with
  | .error err => (s, .error err)
  | .ok cwd =>
    let t := getTechDependencyTree env cwd s.params.basic scan.technology
    let s : State := ⟨cwd, { s.params with basic := t.params },
      s.builds ++ t.builderCall.toList.map (cwd, ·)⟩
    match t.err, t.flatTree with
    | some techErr, _ => (s, .error (.buildTree scan.technology techErr))
    | none, none => (s, .error .noDependencies)
    | none, some flattenTree =>
      if flattenTree.nodes.isEmpty then (s, .error .noDependencies) else
      match runScaWithTech env scan.technology serverDetails flattenTree t.fullDependencyTrees with
      | .error xrayErr => (s, .error (.xrayScan scan.technology (.external xrayErr)))
      | .ok scanResults =>
        ({ s with
            params := addThirdPartyDependenciesToParams s.params scan.technology flattenTree
              t.fullDependencyTrees },
          .ok ({ scan with
              isMultipleRootProject := some (decide (t.fullDependencyTrees.length > 1))
              xrayResults := scan.xrayResults ++ scanResults },
            dependenciesForApplicabilityScan s.params.thirdPartyApplicabilityScan scan.technology
              flattenTree t.fullDependencyTrees))

/-- The `for` loop of `runScaScan`, from its accumulators: the state, `results.ScaResults`
and `err`. -/
def scanLoop (env : Env) (serverDetails : ServerDetails) :
    List ScaScanResult → State × List ScaScanResult × List AuditError →
      State × List ScaScanResult × List AuditError
  | [], acc => acc
  | scan :: scans, (s, results, err) =>
    match executeScaScan env serverDetails s scan with
    | (s, .error wdScanErr) =>
      scanLoop env serverDetails scans
        (s, results, err ++ [.auditFailed scan.workingDirectory wdScanErr])
    | (s, .ok (scan, _)) => scanLoop env serverDetails scans (s, results ++ [scan], err)

/-- The deferred function of `runScaScan`: back to `currentWorkingDir`, its error joined. -/
def restoreWorkingDir (env : Env) (currentWorkingDir : Path) :
    State × List ScaScanResult × List AuditError → State × List ScaScanResult × List AuditError
  | (s, results, err) =>
    match chdir env s.cwd (.abs currentWorkingDir) with
    | .ok cwd => ({ s with cwd }, results, err)
    | .error chdirErr => (s, results, err ++ [chdirErr])

/-- `runScaScan`: the state it leaves, `results.ScaResults`, and its error (`[]` is `nil`). -/
def runScaScan (env : Env) (s : State) (results : List ScaScanResult) :
    State × List ScaScanResult × List AuditError :=
  match getwd env s.cwd with
  | .error err => (s, results, [err])
  | .ok currentWorkingDir =>
    match s.params.basic.serverDetails with
    | .error err => (s, results, [.external err])
    | .ok serverDetails =>
      let scans := getScaScansToPreform env currentWorkingDir s.params
      if scans.isEmpty then (s, results, []) else
      restoreWorkingDir env currentWorkingDir (scanLoop env serverDetails scans (s, results, []))

/-! ### The loop as a sequence of units -/

/-- One unit as the loop met it: the unit as scheduled and what `executeScaScan` made of it. -/
structure UnitRun where
  /-- The unit as scheduled. -/
  scan : ScaScanResult
  /-- The error, or the unit filled in and its dependencies for the applicability scan. -/
  outcome : Except AuditError (ScaScanResult × List String)

/-- The unit a successful run appends to the results. -/
def UnitRun.succeeded (r : UnitRun) : Option ScaScanResult :=
  match r.outcome with
  | .ok (scan, _) => some scan
  | .error _ => none

/-- The error a failed run joins, wrapped with the unit's working directory. -/
def UnitRun.failure (r : UnitRun) : Option AuditError :=
  match r.outcome with
  | .ok _ => none
  | .error e => some (.auditFailed r.scan.workingDirectory e)

/-- The dependencies a run added for the applicability scan. -/
def UnitRun.contribution (r : UnitRun) : List String :=
  match r.outcome with
  | .ok (_, ds) => ds
  | .error _ => []

/-- The units executed one after the other, each from the state the previous one left. -/
def executeAll (env : Env) (serverDetails : ServerDetails) :
    State → List ScaScanResult → State × List UnitRun
  | s, [] => (s, [])
  | s, scan :: scans =>
    let r := executeScaScan env serverDetails s scan
    let rest := executeAll env serverDetails r.1 scans
    (rest.1, ⟨scan, r.2⟩ :: rest.2)

variable {env : Env} {serverDetails : ServerDetails}

theorem scanLoop_eq (scans : List ScaScanResult) (s : State) (results : List ScaScanResult)
    (err : List AuditError) :
    scanLoop env serverDetails scans (s, results, err) =
      ((executeAll env serverDetails s scans).1,
        results ++ (executeAll env serverDetails s scans).2.filterMap UnitRun.succeeded,
        err ++ (executeAll env serverDetails s scans).2.filterMap UnitRun.failure) := by
  induction scans generalizing s results err with
  | nil => simp [scanLoop, executeAll]
  | cons scan scans ih =>
    simp only [scanLoop, executeAll]
    rcases executeScaScan env serverDetails s scan with ⟨s', _ | ⟨scan', ds⟩⟩ <;>
      simp [ih, UnitRun.succeeded, UnitRun.failure]

/-- **One unit.**  A unit leaves the caller's working directories and third-party flag alone,
adds to the dependencies of the applicability scan exactly its contribution (nothing when it
fails), and a successful unit comes back as the unit scheduled, filled in. -/
theorem executeScaScan_spec (s : State) (scan : ScaScanResult) :
    let r := executeScaScan env serverDetails s scan
    r.1.params.workingDirs = s.params.workingDirs ∧
      r.1.params.thirdPartyApplicabilityScan = s.params.thirdPartyApplicabilityScan ∧
      r.1.params.basic.dependenciesForApplicabilityScan =
        s.params.basic.dependenciesForApplicabilityScan ++ (UnitRun.mk scan r.2).contribution ∧
      ∀ u ds, r.2 = .ok (u, ds) → u.workingDirectory = scan.workingDirectory ∧
        u.technology = scan.technology ∧ u.descriptors = scan.descriptors := by
  unfold executeScaScan
  dsimp only
  split
  · simp [UnitRun.contribution]
  rename_i cwd _
  obtain ⟨sd, repo, hp⟩ :=
    @getTechDependencyTree_frame env cwd s.params.basic scan.technology
  repeat' split
  all_goals simp [hp, UnitRun.contribution, addThirdPartyDependenciesToParams,
    AuditBasicParams.appendDependenciesForApplicabilityScan]

/-- What `executeScaScan` does to the state: nothing when it cannot change into the unit's
directory; otherwise it stays there, records the builder call `GetTechDependencyTree` made, and
keeps the params as the resolver left them, with the unit's applicability dependencies
appended. -/
theorem executeScaScan_state (s : State) (scan : ScaScanResult) :
    let r := (executeScaScan env serverDetails s scan).1
    let cwd := scan.workingDirectory.resolve s.cwd
    let t := getTechDependencyTree env cwd s.params.basic scan.technology
    (env.isDir cwd = false → r = s) ∧
      (env.isDir cwd = true → r.cwd = cwd ∧
        r.builds = s.builds ++ t.builderCall.toList.map (cwd, ·) ∧
        ∃ ds, r.params =
          { s.params with basic := t.params.appendDependenciesForApplicabilityScan ds }) := by
  dsimp only
  refine ⟨fun hd => by simp [executeScaScan, chdir, hd], fun hd => ?_⟩
  simp only [executeScaScan, chdir, hd, ↓reduceIte]
  generalize getTechDependencyTree env (scan.workingDirectory.resolve s.cwd) s.params.basic
    scan.technology = t
  have hnil : { s.params with basic := t.params } =
      { s.params with basic := t.params.appendDependenciesForApplicabilityScan [] } := by
    simp [AuditBasicParams.appendDependenciesForApplicabilityScan]
  repeat' split
  all_goals first
    | exact ⟨rfl, rfl, _, rfl⟩
    | exact ⟨rfl, rfl, [], hnil⟩

theorem executeAll_scans (s : State) (scans : List ScaScanResult) :
    (executeAll env serverDetails s scans).2.map UnitRun.scan = scans := by
  induction scans generalizing s with
  | nil => rfl
  | cons scan scans ih => simp [executeAll, ih]

theorem executeAll_deps (s : State) (scans : List ScaScanResult) :
    (executeAll env serverDetails s scans).1.params.basic.dependenciesForApplicabilityScan =
      s.params.basic.dependenciesForApplicabilityScan ++
        ((executeAll env serverDetails s scans).2.map UnitRun.contribution).flatten := by
  induction scans generalizing s with
  | nil => simp [executeAll]
  | cons scan scans ih =>
    simp [executeAll, ih, (executeScaScan_spec s scan).2.2.1]

theorem mem_executeAll {s : State} {scans : List ScaScanResult} {r : UnitRun}
    (h : r ∈ (executeAll env serverDetails s scans).2) :
    ∃ s', r.outcome = (executeScaScan env serverDetails s' r.scan).2 := by
  induction scans generalizing s with
  | nil => simp [executeAll] at h
  | cons scan scans ih =>
    simp only [executeAll, List.mem_cons] at h
    rcases h with rfl | h
    · exact ⟨s, rfl⟩
    · exact ih h

theorem restoreWorkingDir_eq (currentWorkingDir : Path) (s : State)
    (results : List ScaScanResult) (err : List AuditError) :
    restoreWorkingDir env currentWorkingDir (s, results, err) =
      if env.isDir currentWorkingDir then ({ s with cwd := currentWorkingDir }, results, err)
      else (s, results, err ++ [.chdir (.abs currentWorkingDir)]) := by
  simp only [restoreWorkingDir, chdir, Dir.resolve_abs]
  split_ifs <;> rfl

theorem UnitRun.failure_eq_none {r : UnitRun} : r.failure = none ↔ r.outcome.isOk = true := by
  unfold UnitRun.failure
  split <;> simp_all [Except.isOk, Except.toBool]

/-- The run once the working directory and the server details are read, through the trace of
its units: the results and errors of the loop, then the change back. -/
theorem runScaScan_eq_trace (s : State) (results : List ScaScanResult)
    (hwd : env.getwdError s.cwd = none) (hsd : s.params.basic.serverDetails = .ok serverDetails) :
    let scans := getScaScansToPreform env s.cwd s.params
    let t := executeAll env serverDetails s scans
    runScaScan env s results =
      if scans = [] then (s, results, [])
      else if env.isDir s.cwd then
        ({ t.1 with cwd := s.cwd }, results ++ t.2.filterMap UnitRun.succeeded,
          t.2.filterMap UnitRun.failure)
      else (t.1, results ++ t.2.filterMap UnitRun.succeeded,
        t.2.filterMap UnitRun.failure ++ [.chdir (.abs s.cwd)]) := by
  simp [runScaScan, getwd, hwd, hsd, scanLoop_eq, restoreWorkingDir_eq]

/-- **Every unit is run and accounted for.**  Once the working directory and the server
details are read, the units are executed in schedule order, each exactly once whatever the
others did; the results gain the units that succeeded, filled in, in that order; the
applicability dependencies gain the contributions of the units that succeeded; the error is
the join of one error per failed unit, wrapped with its working directory, in that order,
then the error of changing back if that failed; so it is `nil` exactly when every unit
succeeded and changing back did (or nothing was scheduled). -/
theorem runScaScan_collects_units (s : State) (results : List ScaScanResult)
    (hwd : env.getwdError s.cwd = none) (hsd : s.params.basic.serverDetails = .ok serverDetails) :
    let scans := getScaScansToPreform env s.cwd s.params
    let runs := (executeAll env serverDetails s scans).2
    let r := runScaScan env s results
    runs.map UnitRun.scan = scans ∧
      (∀ run ∈ runs, ∀ u ds, run.outcome = .ok (u, ds) →
        u.workingDirectory = run.scan.workingDirectory ∧ u.technology = run.scan.technology ∧
          u.descriptors = run.scan.descriptors) ∧
      r.2.1 = results ++ runs.filterMap UnitRun.succeeded ∧
      r.1.params.basic.dependenciesForApplicabilityScan =
        s.params.basic.dependenciesForApplicabilityScan ++ (runs.map UnitRun.contribution).flatten ∧
      r.2.2 = runs.filterMap UnitRun.failure ++
        (if scans = [] ∨ env.isDir s.cwd = true then [] else [.chdir (.abs s.cwd)]) ∧
      (r.2.2 = [] ↔ (∀ run ∈ runs, run.outcome.isOk = true) ∧
        (scans = [] ∨ env.isDir s.cwd = true)) := by
  dsimp only
  rw [runScaScan_eq_trace s results hwd hsd]
  generalize getScaScansToPreform env s.cwd s.params = scans
  have hcopy : ∀ run ∈ (executeAll env serverDetails s scans).2, ∀ u ds,
      run.outcome = .ok (u, ds) → u.workingDirectory = run.scan.workingDirectory ∧
        u.technology = run.scan.technology ∧ u.descriptors = run.scan.descriptors := by
    intro run hrun u ds hok
    obtain ⟨s', hs'⟩ := mem_executeAll hrun
    exact (executeScaScan_spec s' run.scan).2.2.2 u ds (hs' ▸ hok)
  refine ⟨executeAll_scans s scans, hcopy, ?_⟩
  rcases eq_or_ne scans [] with rfl | h0
  · simp [executeAll]
  · by_cases hd : env.isDir s.cwd <;>
      simp [h0, hd, executeAll_deps, List.filterMap_eq_nil_iff, UnitRun.failure_eq_none]

/-- A run from `/repo` that schedules an npm and a Pip unit, its working directory and server
details readable. -/
theorem runScaScan_collects_units_npm_pip :
    npmThenPipEnv.getwdError ["repo"] = none ∧ freshParams.serverDetails = .ok ⟨"default"⟩ ∧
      (getScaScansToPreform npmThenPipEnv ["repo"] ⟨freshParams, [], false⟩).length = 2 ∧
      let s : State := ⟨["repo"], ⟨freshParams, [], false⟩, []⟩
      let scans := getScaScansToPreform npmThenPipEnv s.cwd s.params
      let runs := (executeAll npmThenPipEnv ⟨"default"⟩ s scans).2
      let r := runScaScan npmThenPipEnv s []
      runs.map UnitRun.scan = scans ∧
        (∀ run ∈ runs, ∀ u ds, run.outcome = .ok (u, ds) →
          u.workingDirectory = run.scan.workingDirectory ∧ u.technology = run.scan.technology ∧
            u.descriptors = run.scan.descriptors) ∧
        r.2.1 = [] ++ runs.filterMap UnitRun.succeeded ∧
        r.1.params.basic.dependenciesForApplicabilityScan =
          s.params.basic.dependenciesForApplicabilityScan ++
            (runs.map UnitRun.contribution).flatten ∧
        r.2.2 = runs.filterMap UnitRun.failure ++
          (if scans = [] ∨ npmThenPipEnv.isDir s.cwd = true then [] else [.chdir (.abs s.cwd)]) ∧
        (r.2.2 = [] ↔ (∀ run ∈ runs, run.outcome.isOk = true) ∧
          (scans = [] ∨ npmThenPipEnv.isDir s.cwd = true)) :=
  ⟨rfl, rfl, by decide, runScaScan_collects_units _ [] rfl rfl⟩

/-- **Back to the working directory of the start.**  Every early return (the working directory
or the server details unreadable, nothing scheduled) leaves the state as it was.  After the
loop, the working directory is the one of the start whenever changing back to it succeeds;
when that fails, its error is the last one returned. -/
theorem runScaScan_restores_workingDir (s : State) (results : List ScaScanResult) :
    let r := runScaScan env s results
    ((env.getwdError s.cwd).isSome ∨ s.params.basic.serverDetails.isOk = false ∨
        getScaScansToPreform env s.cwd s.params = [] → r.1 = s ∧ r.2.1 = results) ∧
      (env.getwdError s.cwd = none → s.params.basic.serverDetails.isOk = true →
        getScaScansToPreform env s.cwd s.params ≠ [] →
        (env.isDir s.cwd = true → r.1.cwd = s.cwd) ∧
          (env.isDir s.cwd = false → r.2.2.getLast? = some (.chdir (.abs s.cwd)))) := by
  rcases hw : env.getwdError s.cwd with _ | e
  · rcases hs : s.params.basic.serverDetails with e | sd
    · simp [runScaScan, getwd, hw, hs, Except.isOk, Except.toBool]
    · rw [runScaScan_eq_trace s results hw hs]
      by_cases h0 : getScaScansToPreform env s.cwd s.params = []
      · simp [h0]
      · by_cases hd : env.isDir s.cwd <;> simp [h0, hd, Except.isOk, Except.toBool]
  · simp [runScaScan, getwd, hw]

end Audit

end CliCore
