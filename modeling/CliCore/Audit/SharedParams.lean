import CliCore.Audit.Isolation

/-!
# What a run does to the shared params

Every unit of a run reads and writes the one `*AuditParams` of the caller.  This file says
what a whole run may do to it, and when the units of a run do not interfere through it.

* `ParamsFrame`: what a run leaves of its caller's params.  The request (the directories, the
  technologies, the exclusions, the requirements file, whether configuration files are
  ignored, the third-party flag) stays as it was, the server details stay readable exactly when
  they were, and the dependencies for the applicability scan only grow at the end.  A unit
  keeps it (`executeScaScan_paramsFrame`), hence a run (`executeAll_paramsFrame`,
  `runScaScan_paramsFrame`), and the schedule reads nothing else
  (`getScaScansToPreform_congr`): `runScaScan_params_frame`.
* `executeAll_builds_as_alone`: when the params preset the resolution (a dependency repository
  is set or configuration files are ignored) and every unit names an absolute directory, the
  units do not interfere: every tree of the run is built where, and with the arguments with
  which, its unit builds it when it runs alone from the start, up to the dependencies that
  earlier units collected for the applicability scan.  Without the first condition a
  configuration file read by one unit reaches the next (`runScaScan_npm_config_reaches_pip`);
  without the second the directories nest (`runScaScan_relative_dir_nests`).
* `executeAll_order_independent`: under the same two conditions, and when the tree builders
  read nothing of the applicability dependencies (`Env.BuildersIgnoreApplicability`), every
  unit has the outcome it has alone (`executeAll_outcomes_as_alone`, from
  `executeScaScan_outcome_congr`), so the order in which Go's map iteration schedules the
  units changes the results, the errors and the applicability dependencies only by a
  permutation.
-/

namespace CliCore

namespace Audit

/-! ### The frame of a run -/

/-- What a run may do to the params of its caller. -/
structure ParamsFrame (p q : AuditParams) : Prop where
  /-- The requested directories stay. -/
  workingDirs : q.workingDirs = p.workingDirs
  /-- The third-party flag stays. -/
  thirdPartyApplicabilityScan : q.thirdPartyApplicabilityScan = p.thirdPartyApplicabilityScan
  /-- The requested technologies stay. -/
  technologies : q.basic.technologies = p.basic.technologies
  /-- The exclusions stay. -/
  exclusions : q.basic.exclusions = p.basic.exclusions
  /-- The requirements file stays. -/
  pipRequirementsFile : q.basic.pipRequirementsFile = p.basic.pipRequirementsFile
  /-- Whether configuration files are ignored stays. -/
  ignoreConfigFile : q.basic.ignoreConfigFile = p.basic.ignoreConfigFile
  /-- The server details stay readable exactly when they were. -/
  serverDetails_isOk : q.basic.serverDetails.isOk = p.basic.serverDetails.isOk
  /-- The applicability dependencies only grow at the end. -/
  dependencies :
    p.basic.dependenciesForApplicabilityScan <+: q.basic.dependenciesForApplicabilityScan

theorem ParamsFrame.refl (p : AuditParams) : ParamsFrame p p :=
  ⟨rfl, rfl, rfl, rfl, rfl, rfl, rfl, List.prefix_refl _⟩

theorem ParamsFrame.trans {p q r : AuditParams} (h₁ : ParamsFrame p q) (h₂ : ParamsFrame q r) :
    ParamsFrame p r :=
  ⟨h₂.1.trans h₁.1, h₂.2.trans h₁.2, h₂.3.trans h₁.3, h₂.4.trans h₁.4, h₂.5.trans h₁.5,
    h₂.6.trans h₁.6, h₂.7.trans h₁.7, h₁.8.trans h₂.8⟩

variable {env : Env} {serverDetails : ServerDetails}

theorem executeScaScan_paramsFrame (s : State) (scan : ScaScanResult) :
    ParamsFrame s.params (executeScaScan env serverDetails s scan).1.params := by
  have h := @executeScaScan_state env serverDetails s scan
  by_cases hd : env.isDir (scan.workingDirectory.resolve s.cwd)
  · obtain ⟨-, -, ds, hp⟩ := h.2 hd
    generalize scan.workingDirectory.resolve s.cwd = cwd at hp
    have hok := @getTechDependencyTree_serverDetails_isOk env cwd s.params.basic scan.technology
    obtain ⟨sd, repo, ht⟩ :=
      @getTechDependencyTree_frame env cwd s.params.basic scan.technology
    rw [hp]
    rw [ht] at hok ⊢
    exact ⟨rfl, rfl, rfl, rfl, rfl, rfl, hok, List.prefix_append _ _⟩
  · rw [h.1 (by simpa using hd)]
    exact .refl _

theorem executeAll_paramsFrame (s : State) (scans : List ScaScanResult) :
    ParamsFrame s.params (executeAll env serverDetails s scans).1.params := by
  induction scans generalizing s with
  | nil => exact .refl _
  | cons scan scans ih => exact (executeScaScan_paramsFrame s scan).trans (ih _)

theorem runScaScan_paramsFrame (s : State) (results : List ScaScanResult) :
    ParamsFrame s.params (runScaScan env s results).1.params := by
  unfold runScaScan
  split
  · exact .refl _
  · split
    · exact .refl _
    · dsimp only
      split_ifs
      · exact .refl _
      · rw [scanLoop_eq, restoreWorkingDir_eq]
        split_ifs <;> exact executeAll_paramsFrame _ _

/-- The schedule reads only what the frame keeps. -/
theorem getScaScansToPreform_congr {p q : AuditParams} (h : ParamsFrame p q) (cwd : Path) :
    getScaScansToPreform env cwd q = getScaScansToPreform env cwd p := by
  simp only [getScaScansToPreform, getRequestedDirectoriesToScan, detect, getRequestedDescriptors,
    getExcludePattern, h.workingDirs, h.technologies, h.pipRequirementsFile, h.exclusions]

/-- **A run leaves its caller's request alone.**  Whatever its units do, a run changes of the
params only the server details and the dependency repository, through the resolver, keeping
the server details readable exactly when they were, and appends to the applicability
dependencies; so a second run, from any directory, schedules the same units as a first run
from there. -/
theorem runScaScan_params_frame (s : State) (results : List ScaScanResult) :
    ParamsFrame s.params (runScaScan env s results).1.params ∧
      ∀ cwd, getScaScansToPreform env cwd (runScaScan env s results).1.params =
        getScaScansToPreform env cwd s.params :=
  ⟨runScaScan_paramsFrame s results, getScaScansToPreform_congr (runScaScan_paramsFrame s results)⟩

/-! ### Units that do not interfere -/

/-- The params without the dependencies collected for the applicability scan. -/
def AuditBasicParams.withoutApplicability (p : AuditBasicParams) : AuditBasicParams :=
  { p with dependenciesForApplicabilityScan := [] }

/-- A builder call without the dependencies collected for the applicability scan. -/
def BuilderCall.withoutApplicability : BuilderCall → BuilderCall
  | .java params tech => .java params.withoutApplicability tech
  | .npm params => .npm params.withoutApplicability
  | .yarn params => .yarn params.withoutApplicability
  | .go params => .go params.withoutApplicability
  | .python auditPython => .python auditPython
  | .nuget params => .nuget params.withoutApplicability

theorem resolutionPreset_withoutApplicability {p : AuditBasicParams} :
    ResolutionPreset p.withoutApplicability ↔ ResolutionPreset p :=
  Iff.rfl

theorem techBuilderCall_withoutApplicability (params : AuditBasicParams)
    (serverDetails : ServerDetails) (tech : Technology) :
    (techBuilderCall params serverDetails tech).map BuilderCall.withoutApplicability =
      techBuilderCall params.withoutApplicability serverDetails tech := by
  cases tech <;> rfl

/-- With a preset resolution, the builder call without the applicability dependencies is the
call made from the params without them. -/
theorem getTechDependencyTree_builderCall_withoutApplicability {cwd : Path}
    {params : AuditBasicParams} (tech : Technology) (h : ResolutionPreset params) :
    (getTechDependencyTree env cwd params tech).builderCall.map BuilderCall.withoutApplicability =
      (getTechDependencyTree env cwd params.withoutApplicability tech).builderCall := by
  rw [getTechDependencyTree_builderCall_of_preset tech h,
    getTechDependencyTree_builderCall_of_preset tech (resolutionPreset_withoutApplicability.2 h)]
  have hsd : params.withoutApplicability.serverDetails = params.serverDetails := rfl
  rw [hsd]
  split
  · exact techBuilderCall_withoutApplicability _ _ _
  · rfl

/-- A builder call with its directory, without the applicability dependencies. -/
def buildWithoutApplicability (b : Path × BuilderCall) : Path × BuilderCall :=
  (b.1, b.2.withoutApplicability)

theorem executeScaScan_extends_builds (s : State) (scan : ScaScanResult) :
    s.builds <+: (executeScaScan env serverDetails s scan).1.builds := by
  obtain ⟨calls, -, -, h⟩ := @executeScaScan_builds env serverDetails s scan
  exact ⟨_, h.symm⟩

theorem executeAll_extends_builds (s : State) (scans : List ScaScanResult) :
    s.builds <+: (executeAll env serverDetails s scans).1.builds := by
  induction scans generalizing s with
  | nil => exact List.prefix_refl _
  | cons scan scans ih => exact (executeScaScan_extends_builds s scan).trans (ih _)

/-- With a preset resolution, a unit of an absolute directory builds where it points, with the
call made from the params without the applicability dependencies, and leaves the params the
same up to those dependencies. -/
theorem executeScaScan_of_preset (s : State) (scan : ScaScanResult) {p : Path}
    (hp : scan.workingDirectory = .abs p) (h : ResolutionPreset s.params.basic) :
    let r := (executeScaScan env serverDetails s scan).1
    (r.builds.drop s.builds.length).map buildWithoutApplicability =
        (if env.isDir p then
          (getTechDependencyTree env p s.params.basic.withoutApplicability
            scan.technology).builderCall.toList.map (p, ·)
        else []) ∧
      r.params.basic.withoutApplicability = s.params.basic.withoutApplicability := by
  have hs := @executeScaScan_state env serverDetails s scan
  simp only [hp, Dir.resolve_abs] at hs ⊢
  by_cases hd : env.isDir p
  · obtain ⟨-, hb, ds, hparams⟩ := hs.2 hd
    rw [hb, hparams, List.drop_left, getTechDependencyTree_params_of_preset _ h,
      ← getTechDependencyTree_builderCall_withoutApplicability _ h]
    cases (getTechDependencyTree env p s.params.basic scan.technology).builderCall <;>
      simp [hd, buildWithoutApplicability, AuditBasicParams.withoutApplicability,
        AuditBasicParams.appendDependenciesForApplicabilityScan]
  · rw [hs.1 (by simpa using hd)]
    simp [hd]

/-- **Preset and absolute units do not interfere.**  When the params preset the resolution (a
dependency repository is set or configuration files are ignored) and every unit names an
absolute directory, every tree of the run is built, in schedule order, where and with the
arguments with which its unit builds it when it runs alone from the start, up to the
dependencies that earlier units collected for the applicability scan. -/
theorem executeAll_builds_as_alone (s : State) (scans : List ScaScanResult)
    (h : ResolutionPreset s.params.basic)
    (habs : ∀ scan ∈ scans, ∃ p, scan.workingDirectory = .abs p) :
    ((executeAll env serverDetails s scans).1.builds.drop s.builds.length).map
        buildWithoutApplicability =
      scans.flatMap fun scan =>
        ((executeScaScan env serverDetails s scan).1.builds.drop s.builds.length).map
          buildWithoutApplicability := by
  suffices hrun : ∀ s' : State,
      s'.params.basic.withoutApplicability = s.params.basic.withoutApplicability →
      ((executeAll env serverDetails s' scans).1.builds.drop s'.builds.length).map
          buildWithoutApplicability =
        scans.flatMap fun scan =>
          ((executeScaScan env serverDetails s scan).1.builds.drop s.builds.length).map
            buildWithoutApplicability from hrun s rfl
  induction scans with
  | nil => intro s' _; simp [executeAll]
  | cons scan scans ih =>
    intro s' hs'
    obtain ⟨p, hp⟩ := habs scan (List.mem_cons_self _ _)
    have h' : ResolutionPreset s'.params.basic := by
      rw [← resolutionPreset_withoutApplicability, hs']
      exact h
    obtain ⟨hstep', hfrom'⟩ := @executeScaScan_of_preset env serverDetails s' scan p hp h'
    obtain ⟨hstep, -⟩ := @executeScaScan_of_preset env serverDetails s scan p hp h
    obtain ⟨new₁, hnew₁⟩ := @executeScaScan_extends_builds env serverDetails s' scan
    obtain ⟨new₂, hnew₂⟩ := @executeAll_extends_builds env serverDetails
      (executeScaScan env serverDetails s' scan).1 scans
    have hrest := ih (fun u hu => habs u (List.mem_cons_of_mem _ hu))
      (executeScaScan env serverDetails s' scan).1 (hfrom'.trans hs')
    rw [← hnew₁, List.drop_left] at hstep'
    rw [← hnew₂, List.drop_left] at hrest
    simp only [executeAll, List.flatMap_cons, ← hnew₂, ← hnew₁, List.append_assoc, List.drop_left,
      List.map_append, hstep', hstep, hs', hrest]

/-- A run from `/repo` that ignores configuration files. -/
def ignoringConfigState : State :=
  ⟨["repo"], ⟨{ freshParams with ignoreConfigFile := true }, [], false⟩, []⟩

/-- An npm and a Pip unit of `/repo`. -/
def repoUnits : List ScaScanResult :=
  [⟨.abs ["repo"], .npm, ["package.json"], none, []⟩,
    ⟨.abs ["repo"], .pip, ["requirements.txt"], none, []⟩]

/-- With configuration files ignored, the npm and the Pip unit of `/repo` build as they do
alone, though `npm.yaml` names a repository. -/
theorem executeAll_builds_as_alone_ignoring_config :
    ResolutionPreset ignoringConfigState.params.basic ∧
      (∀ scan ∈ repoUnits, ∃ p, scan.workingDirectory = .abs p) ∧
      ((executeAll npmThenPipEnv ⟨"default"⟩ ignoringConfigState repoUnits).1.builds.drop
          ignoringConfigState.builds.length).map buildWithoutApplicability =
        repoUnits.flatMap fun scan =>
          ((executeScaScan npmThenPipEnv ⟨"default"⟩ ignoringConfigState scan).1.builds.drop
            ignoringConfigState.builds.length).map buildWithoutApplicability :=
  ⟨by decide, by simp [repoUnits], executeAll_builds_as_alone _ _ (by decide) (by simp [repoUnits])⟩

/-! ### The order of the units -/

/-- The tree builders read nothing of the dependencies collected for the applicability scan:
what a builder returns depends on its call without them. -/
def Env.BuildersIgnoreApplicability (env : Env) : Prop :=
  ∀ cwd call, env.buildDependencyTree cwd call =
    env.buildDependencyTree cwd call.withoutApplicability

/-- With a preset resolution and builders that ignore the applicability dependencies, what
`GetTechDependencyTree` returns does not depend on those dependencies. -/
theorem getTechDependencyTree_results_withoutApplicability {cwd : Path}
    {params : AuditBasicParams} (tech : Technology) (hb : env.BuildersIgnoreApplicability)
    (h : ResolutionPreset params) :
    let t := getTechDependencyTree env cwd params tech
    let t' := getTechDependencyTree env cwd params.withoutApplicability tech
    t.err = t'.err ∧ t.flatTree = t'.flatTree ∧ t.fullDependencyTrees = t'.fullDependencyTrees := by
  dsimp only
  unfold getTechDependencyTree
  rw [setResolutionRepoIfExists_of_preset h,
    setResolutionRepoIfExists_of_preset (resolutionPreset_withoutApplicability.2 h)]
  have hsd : params.withoutApplicability.serverDetails = params.serverDetails := rfl
  have hbuild := hb cwd
  generalize env.buildDependencyTree cwd = build at hbuild ⊢
  rw [hsd]
  rcases params.serverDetails with e | sd
  · exact ⟨rfl, rfl, rfl⟩
  · dsimp only
    rw [← techBuilderCall_withoutApplicability]
    rcases techBuilderCall params sd tech with _ | call
    · exact ⟨rfl, rfl, rfl⟩
    · dsimp only [Option.map]
      rw [hbuild call]
      rcases build call.withoutApplicability with ⟨full, unique, err⟩
      dsimp only
      split_ifs <;> exact ⟨rfl, rfl, rfl⟩

/-- The outcome of a unit of an absolute directory depends on the state it starts from only
through what its tree builder returns and the third-party flag. -/
theorem executeScaScan_outcome_congr {s s' : State} {scan : ScaScanResult} {p : Path}
    (hp : scan.workingDirectory = .abs p)
    (ht : let t := getTechDependencyTree env p s.params.basic scan.technology
      let t' := getTechDependencyTree env p s'.params.basic scan.technology
      t'.err = t.err ∧ t'.flatTree = t.flatTree ∧ t'.fullDependencyTrees = t.fullDependencyTrees)
    (hthird : s'.params.thirdPartyApplicabilityScan = s.params.thirdPartyApplicabilityScan) :
    (executeScaScan env serverDetails s' scan).2 = (executeScaScan env serverDetails s scan).2 := by
  obtain ⟨herr, hflat, hfull⟩ := ht
  by_cases hd : env.isDir p
  · simp only [executeScaScan, chdir, hp, Dir.resolve_abs, hd, ↓reduceIte]
    rw [herr, hflat, hfull, hthird]
    repeat' split
    all_goals rfl
  · simp [executeScaScan, chdir, hp, hd]

/-- With a preset resolution, units of absolute directories and builders that ignore the
applicability dependencies, every unit of a run has the outcome it has alone. -/
theorem executeAll_outcomes_as_alone (hb : env.BuildersIgnoreApplicability) (s : State)
    (scans : List ScaScanResult) (h : ResolutionPreset s.params.basic)
    (habs : ∀ scan ∈ scans, ∃ p, scan.workingDirectory = .abs p) :
    (executeAll env serverDetails s scans).2 =
      scans.map fun scan => ⟨scan, (executeScaScan env serverDetails s scan).2⟩ := by
  suffices hrun : ∀ s' : State,
      s'.params.basic.withoutApplicability = s.params.basic.withoutApplicability →
      s'.params.thirdPartyApplicabilityScan = s.params.thirdPartyApplicabilityScan →
      (executeAll env serverDetails s' scans).2 =
        scans.map fun scan => ⟨scan, (executeScaScan env serverDetails s scan).2⟩ from
    hrun s rfl rfl
  induction scans with
  | nil => intro s' _ _; rfl
  | cons scan scans ih =>
    intro s' hbasic hthird
    obtain ⟨p, hp⟩ := habs scan (List.mem_cons_self _ _)
    have h' : ResolutionPreset s'.params.basic := by
      rw [← resolutionPreset_withoutApplicability, hbasic]
      exact h
    have hout : (executeScaScan env serverDetails s' scan).2 =
        (executeScaScan env serverDetails s scan).2 := by
      obtain ⟨e', f', t'⟩ :=
        @getTechDependencyTree_results_withoutApplicability env p _ scan.technology hb h'
      obtain ⟨e, f, t⟩ :=
        @getTechDependencyTree_results_withoutApplicability env p _ scan.technology hb h
      rw [hbasic] at e' f' t'
      exact executeScaScan_outcome_congr hp ⟨e'.trans e.symm, f'.trans f.symm, t'.trans t.symm⟩
        hthird
    have hbasic' := (@executeScaScan_of_preset env serverDetails s' scan p hp h').2
    have hthird' :=
      (@executeScaScan_paramsFrame env serverDetails s' scan).thirdPartyApplicabilityScan
    simp only [executeAll, List.map_cons, hout,
      ih (fun u hu => habs u (List.mem_cons_of_mem _ hu)) _ (hbasic'.trans hbasic)
        (hthird'.trans hthird)]

/-- **The order of preset, absolute units does not matter.**  When the params preset the
resolution, every unit names an absolute directory and the tree builders read nothing of the
dependencies collected for the applicability scan, every unit of a run has the outcome it has
when it runs alone from the start; so the same units run in any other order, as Go's map
iteration may schedule them, give the same successful units, the same applicability
dependencies and the same errors, each up to their order. -/
theorem executeAll_order_independent (hb : env.BuildersIgnoreApplicability) (s : State)
    {scans scans' : List ScaScanResult} (hperm : scans.Perm scans')
    (h : ResolutionPreset s.params.basic)
    (habs : ∀ scan ∈ scans, ∃ p, scan.workingDirectory = .abs p) :
    (executeAll env serverDetails s scans).2 =
        scans.map (fun scan => ⟨scan, (executeScaScan env serverDetails s scan).2⟩) ∧
      ((executeAll env serverDetails s scans).2.filterMap UnitRun.succeeded).Perm
        ((executeAll env serverDetails s scans').2.filterMap UnitRun.succeeded) ∧
      (executeAll env serverDetails s scans).1.params.basic.dependenciesForApplicabilityScan.Perm
        (executeAll env serverDetails s scans').1.params.basic.dependenciesForApplicabilityScan ∧
      ((executeAll env serverDetails s scans).2.filterMap UnitRun.failure).Perm
        ((executeAll env serverDetails s scans').2.filterMap UnitRun.failure) := by
  have habs' : ∀ scan ∈ scans', ∃ p, scan.workingDirectory = .abs p :=
    fun scan hs => habs scan (hperm.mem_iff.2 hs)
  have hruns : (executeAll env serverDetails s scans).2.Perm
      (executeAll env serverDetails s scans').2 := by
    rw [executeAll_outcomes_as_alone hb s scans h habs,
      executeAll_outcomes_as_alone hb s scans' h habs']
    exact hperm.map _
  refine ⟨executeAll_outcomes_as_alone hb s scans h habs, hruns.filterMap _, ?_,
    hruns.filterMap _⟩
  rw [executeAll_deps, executeAll_deps]
  exact List.Perm.append_left _ (hruns.map _).flatten

/-- The npm and the Pip unit of `/repo`, configuration files ignored, in either order. -/
theorem executeAll_order_independent_repo :
    npmThenPipEnv.BuildersIgnoreApplicability ∧ repoUnits.Perm repoUnits.reverse ∧
      ResolutionPreset ignoringConfigState.params.basic ∧
      (∀ scan ∈ repoUnits, ∃ p, scan.workingDirectory = .abs p) ∧
      (executeAll npmThenPipEnv ⟨"default"⟩ ignoringConfigState repoUnits).2 =
          repoUnits.map (fun scan =>
            ⟨scan, (executeScaScan npmThenPipEnv ⟨"default"⟩ ignoringConfigState scan).2⟩) ∧
        ((executeAll npmThenPipEnv ⟨"default"⟩ ignoringConfigState repoUnits).2.filterMap
            UnitRun.succeeded).Perm
          ((executeAll npmThenPipEnv ⟨"default"⟩ ignoringConfigState repoUnits.reverse).2.filterMap
            UnitRun.succeeded) ∧
        (executeAll npmThenPipEnv ⟨"default"⟩ ignoringConfigState
            repoUnits).1.params.basic.dependenciesForApplicabilityScan.Perm
          (executeAll npmThenPipEnv ⟨"default"⟩ ignoringConfigState
            repoUnits.reverse).1.params.basic.dependenciesForApplicabilityScan ∧
        ((executeAll npmThenPipEnv ⟨"default"⟩ ignoringConfigState repoUnits).2.filterMap
            UnitRun.failure).Perm
          ((executeAll npmThenPipEnv ⟨"default"⟩ ignoringConfigState repoUnits.reverse).2.filterMap
            UnitRun.failure) :=
  ⟨fun _ _ => rfl, (List.reverse_perm _).symm, by decide, by simp [repoUnits],
    executeAll_order_independent (fun _ _ => rfl) _ (List.reverse_perm _).symm (by decide)
      (by simp [repoUnits])⟩

end Audit

end CliCore
