import CliCore.Audit.Runner

/-!
# What one scan unit leaves to the next

The units of a run share two things that `executeScaScan` changes and that nothing puts back
between units: the process working directory, restored only once after the loop, and the
shared `*AuditBasicParams`, into which the resolver writes the server and the repository of a
configuration file.

* `executeScaScan_cwd`, `executeScaScan_builds`: a unit changes into its working directory
  resolved against the directory the previous unit left, stays there, and runs its builder
  there.  Over a whole run the directories thread through the units (`cwdTrace`), and every
  tree is built in the directory of the trace at its unit (`executeAll_builds_cwdTrace`).  For
  an absolute directory that is the same from every starting directory, so a run of absolute
  units builds every tree where a unit points (`executeAll_builds_abs`); for a relative one it
  is not: two units of the relative directory `frontend` nest, and the second fails
  (`runScaScan_relative_dir_nests`).
* `executeAll_resolution_pinned`: once the params hold a repository, no later unit of the run
  changes it or the server, and every tree is built with that pair.  A repository the resolver
  took from `npm.yaml` is thus used for the Pip tree of a later unit
  (`runScaScan_npm_config_reaches_pip`).
-/

namespace CliCore

namespace Audit

/-! ### The working directory -/

/-- The directory the process is in after each unit of a run that starts in `cwd`: a unit
changes into its working directory resolved against the directory the unit before it left,
when that exists, and stays where it is otherwise. -/
def cwdTrace (env : Env) : Path → List ScaScanResult → List Path
  | _, [] => []
  | cwd, scan :: scans =>
    let next :=
      if env.isDir (scan.workingDirectory.resolve cwd) then scan.workingDirectory.resolve cwd
      else cwd
    next :: cwdTrace env next scans

variable {env : Env} {serverDetails : ServerDetails}

/-- A unit that could change into its directory is left there, whatever else happens. -/
theorem executeScaScan_cwd (s : State) (scan : ScaScanResult) :
    (executeScaScan env serverDetails s scan).1.cwd =
      if env.isDir (scan.workingDirectory.resolve s.cwd) then scan.workingDirectory.resolve s.cwd
      else s.cwd := by
  have h := @executeScaScan_state env serverDetails s scan
  split_ifs with hd
  · exact (h.2 hd).1
  · rw [h.1 (by simpa using hd)]

/-- A unit calls at most one tree builder, none when it cannot change into its directory, and
in its directory resolved against the directory it starts from. -/
theorem executeScaScan_builds (s : State) (scan : ScaScanResult) :
    ∃ calls : List BuilderCall, calls.length ≤ 1 ∧
      (env.isDir (scan.workingDirectory.resolve s.cwd) = false → calls = []) ∧
      (executeScaScan env serverDetails s scan).1.builds =
        s.builds ++ calls.map (scan.workingDirectory.resolve s.cwd, ·) := by
  have h := @executeScaScan_state env serverDetails s scan
  by_cases hd : env.isDir (scan.workingDirectory.resolve s.cwd)
  · refine ⟨_, ?_, fun h' => absurd hd (by simp [h']), (h.2 hd).2.1⟩
    cases (getTechDependencyTree env (scan.workingDirectory.resolve s.cwd) s.params.basic
      scan.technology).builderCall <;> simp
  · exact ⟨[], by simp, fun _ => rfl, by rw [h.1 (by simpa using hd)]; simp⟩

/-- A unit builds, if at all, in the directory it leaves the process in. -/
theorem executeScaScan_builds_cwd (s : State) (scan : ScaScanResult) :
    ∃ calls : List BuilderCall, calls.length ≤ 1 ∧
      (executeScaScan env serverDetails s scan).1.builds =
        s.builds ++ calls.map ((executeScaScan env serverDetails s scan).1.cwd, ·) := by
  obtain ⟨calls, hlen, hnone, hb⟩ := @executeScaScan_builds env serverDetails s scan
  refine ⟨calls, hlen, ?_⟩
  rw [hb, executeScaScan_cwd]
  split_ifs with hd
  · rfl
  · rw [hnone (by simpa using hd)]
    rfl

/-- **Where a run builds.**  Unit after unit, the process changes into the unit's directory
resolved against the one the unit before it left, when that directory exists, and every unit
builds at most one tree, in the directory it is then in.  So the directories of a run's trees
depend on its units and on which directories exist, and on nothing a builder, a configuration
file or the backend returns; the run ends in the last directory of the trace. -/
theorem executeAll_builds_cwdTrace (s : State) (scans : List ScaScanResult) :
    ∃ calls : List (List BuilderCall), calls.length = scans.length ∧
      (∀ cs ∈ calls, cs.length ≤ 1) ∧
      (executeAll env serverDetails s scans).1.builds = s.builds ++
        (List.zipWith (fun d cs => cs.map (d, ·)) (cwdTrace env s.cwd scans) calls).flatten ∧
      (executeAll env serverDetails s scans).1.cwd =
        (cwdTrace env s.cwd scans).getLast?.getD s.cwd := by
  induction scans generalizing s with
  | nil => exact ⟨[], rfl, by simp, by simp [executeAll, cwdTrace], rfl⟩
  | cons scan scans ih =>
    obtain ⟨calls₁, hlen₁, hb₁⟩ := @executeScaScan_builds_cwd env serverDetails s scan
    obtain ⟨calls, hlen, hone, hb, hcwd⟩ := ih (executeScaScan env serverDetails s scan).1
    have htrace : cwdTrace env s.cwd (scan :: scans) =
        (executeScaScan env serverDetails s scan).1.cwd ::
          cwdTrace env (executeScaScan env serverDetails s scan).1.cwd scans := by
      rw [executeScaScan_cwd]
      rfl
    refine ⟨calls₁ :: calls, by simp [hlen], ?_, ?_, ?_⟩
    · rintro cs (_ | ⟨_, hcs⟩)
      exacts [hlen₁, hone cs hcs]
    · simp [executeAll, htrace, hb, hb₁]
    · simp [executeAll, htrace, hcwd, List.getLast?_cons]

/-- **Absolute directories are built where they point.**  When every unit of a run names an
absolute directory, every tree the run builds is built in the directory one of its units names,
whatever directory the units before it left behind. -/
theorem executeAll_builds_abs (s : State) (scans : List ScaScanResult)
    (habs : ∀ scan ∈ scans, ∃ p, scan.workingDirectory = .abs p) :
    ∃ new, (executeAll env serverDetails s scans).1.builds = s.builds ++ new ∧
      ∀ b ∈ new, ∃ scan ∈ scans, scan.workingDirectory = .abs b.1 := by
  induction scans generalizing s with
  | nil => exact ⟨[], by simp [executeAll], by simp⟩
  | cons scan scans ih =>
    obtain ⟨p, hp⟩ := habs scan (List.mem_cons_self _ _)
    obtain ⟨calls, -, -, hb₁⟩ := @executeScaScan_builds env serverDetails s scan
    obtain ⟨new, hb₂, hnew⟩ :=
      ih (executeScaScan env serverDetails s scan).1 fun u hu => habs u (List.mem_cons_of_mem _ hu)
    refine ⟨calls.map (p, ·) ++ new, by simp [executeAll, hb₂, hb₁, hp], fun b hb => ?_⟩
    rcases List.mem_append.1 hb with hb | hb
    · obtain ⟨c, -, rfl⟩ := List.mem_map.1 hb
      exact ⟨scan, List.mem_cons_self _ _, hp⟩
    · obtain ⟨u, hu, hwd⟩ := hnew b hb
      exact ⟨u, List.mem_cons_of_mem _ hu, hwd⟩

/-- The npm unit of `/repo` and the Pip unit of `/repo/api` build where they point. -/
theorem executeAll_builds_abs_repo :
    (∀ scan ∈ [(⟨.abs ["repo"], .npm, ["package.json"], none, []⟩ : ScaScanResult),
        ⟨.abs ["repo", "api"], .pip, ["requirements.txt"], none, []⟩],
      ∃ p, scan.workingDirectory = .abs p) ∧
      ∃ new, (executeAll quietEnv ⟨"default"⟩ ⟨["tmp"], ⟨freshParams, [], false⟩, []⟩
          [⟨.abs ["repo"], .npm, ["package.json"], none, []⟩,
            ⟨.abs ["repo", "api"], .pip, ["requirements.txt"], none, []⟩]).1.builds = [] ++ new ∧
        ∀ b ∈ new, ∃ scan ∈ [(⟨.abs ["repo"], .npm, ["package.json"], none, []⟩ : ScaScanResult),
          ⟨.abs ["repo", "api"], .pip, ["requirements.txt"], none, []⟩],
          scan.workingDirectory = .abs b.1 :=
  ⟨by simp, executeAll_builds_abs _ _ (by simp)⟩

/-- Two units of the relative directory `frontend`, which exists under `/repo` and holds no
`frontend` of its own. -/
def frontendEnv : Env :=
  { quietEnv with
    isDir := fun p => decide (p = ["repo"] ∨ p = ["repo", "frontend"])
    detectTechnologiesDescriptors := fun _ _ _ _ _ _ =>
      .ok ⟨[(.npm, ⟨[(.rel ["frontend"], ["package.json"])], by decide⟩),
        (.pip, ⟨[(.rel ["frontend"], ["requirements.txt"])], by decide⟩)], by decide⟩
    buildDependencyTree := fun _ _ => ([], ["pkg:a@1"], none) }

/-- With the relative directory `frontend` requested from `/repo`, the npm unit builds in
`/repo/frontend`; the Pip unit then changes into `frontend` from there and fails, while on its
own it builds in `/repo/frontend` too. -/
theorem runScaScan_relative_dir_nests :
    let s₀ : State := ⟨["repo"], ⟨freshParams, [.rel ["frontend"]], false⟩, []⟩
    (runScaScan frontendEnv s₀ []).1.builds.map Prod.fst = [["repo", "frontend"]] ∧
      (runScaScan frontendEnv s₀ []).2.2 =
        [.auditFailed (.rel ["frontend"]) (.chdir (.rel ["frontend"]))] ∧
      (executeScaScan frontendEnv ⟨"default"⟩ s₀
        ⟨.rel ["frontend"], .pip, ["requirements.txt"], none, []⟩).1.builds.map Prod.fst =
        [["repo", "frontend"]] := by
  decide

/-! ### The shared params -/

/-- Once the params hold a repository, a unit neither changes it nor the server, and its
builder resolves with that pair. -/
theorem executeScaScan_pinned (s : State) (scan : ScaScanResult)
    (h : s.params.basic.depsRepo ≠ "") :
    let r := (executeScaScan env serverDetails s scan).1
    r.params.basic.depsRepo = s.params.basic.depsRepo ∧
      r.params.basic.serverDetails = s.params.basic.serverDetails ∧
      ∃ new, r.builds = s.builds ++ new ∧
        ∀ b ∈ new, b.2.resolution = (s.params.basic.serverDetails, s.params.basic.depsRepo) := by
  have hstate := @executeScaScan_state env serverDetails s scan
  by_cases hd : env.isDir (scan.workingDirectory.resolve s.cwd)
  · obtain ⟨-, hb, ds, hp⟩ := hstate.2 hd
    generalize scan.workingDirectory.resolve s.cwd = cwd at hb hp
    have ht := @getTechDependencyTree_params_of_preset env cwd _ scan.technology (.inl h)
    rw [ht] at hp
    refine ⟨by simp [hp], by simp [hp], _, hb, ?_⟩
    rcases @getTechDependencyTree_cases env cwd s.params.basic scan.technology with
      ⟨hnone, -⟩ | ⟨sd, call, hs, -, -, hc, hsome, -⟩
    · simp [hnone]
    · simp only [hsome, Option.toList_some, List.map_cons, List.map_nil, List.mem_singleton,
        forall_eq]
      rw [ht] at hc
      rw [techBuilderCall_resolution hc, hs]
      split_ifs <;> rfl
  · rw [hstate.1 (by simpa using hd)]
    exact ⟨rfl, rfl, [], by simp, by simp⟩

/-- **A resolved repository stays for the rest of the run.**  Once the params hold a
repository, preset or read by an earlier unit from its configuration file, no later unit
changes it or the server, and every tree built from then on resolves with that pair. -/
theorem executeAll_resolution_pinned (s : State) (scans : List ScaScanResult)
    (h : s.params.basic.depsRepo ≠ "") :
    let r := (executeAll env serverDetails s scans).1
    r.params.basic.depsRepo = s.params.basic.depsRepo ∧
      r.params.basic.serverDetails = s.params.basic.serverDetails ∧
      ∃ new, r.builds = s.builds ++ new ∧
        ∀ b ∈ new, b.2.resolution = (s.params.basic.serverDetails, s.params.basic.depsRepo) := by
  induction scans generalizing s with
  | nil => exact ⟨rfl, rfl, [], by simp [executeAll], by simp⟩
  | cons scan scans ih =>
    obtain ⟨h1, h2, new₁, hb₁, hr₁⟩ := @executeScaScan_pinned env serverDetails s scan h
    obtain ⟨h1', h2', new₂, hb₂, hr₂⟩ := ih (executeScaScan env serverDetails s scan).1 (h1 ▸ h)
    refine ⟨h1'.trans h1, h2'.trans h2, new₁ ++ new₂, by simp [executeAll, hb₂, hb₁], ?_⟩
    intro b hb
    rcases List.mem_append.1 hb with hb | hb
    · exact hr₁ b hb
    · rw [hr₂ b hb, h1, h2]

/-- With `maven-remote` preset, a Maven and a Pip unit both build with it. -/
theorem executeAll_resolution_pinned_preset :
    ({ freshParams with depsRepo := "maven-remote" } : AuditBasicParams).depsRepo ≠ "" ∧
      let s : State := ⟨["repo"], ⟨{ freshParams with depsRepo := "maven-remote" }, [], false⟩, []⟩
      let r := (executeAll quietEnv ⟨"default"⟩ s
        [⟨.abs ["repo"], .maven, ["pom.xml"], none, []⟩,
          ⟨.abs ["repo"], .pip, ["requirements.txt"], none, []⟩]).1
      r.params.basic.depsRepo = s.params.basic.depsRepo ∧
        r.params.basic.serverDetails = s.params.basic.serverDetails ∧
        ∃ new, r.builds = s.builds ++ new ∧
          ∀ b ∈ new, b.2.resolution = (s.params.basic.serverDetails, s.params.basic.depsRepo) :=
  ⟨by decide, executeAll_resolution_pinned _ _ (by decide)⟩

/-- After the npm unit read `npm.yaml`, the Pip unit's tree is built with npm's server and
repository; on its own the Pip unit resolves from the default server without a repository. -/
theorem runScaScan_npm_config_reaches_pip :
    let s₀ : State := ⟨["repo"], ⟨freshParams, [], false⟩, []⟩
    (runScaScan npmThenPipEnv s₀ []).1.builds.map (fun b => b.2.resolution) =
        [(.ok ⟨"npm-server"⟩, "npm-remote"), (.ok ⟨"npm-server"⟩, "npm-remote")] ∧
      (executeScaScan npmThenPipEnv ⟨"default"⟩ s₀
        ⟨.abs ["repo"], .pip, ["requirements.txt"], none, []⟩).1.builds.map
          (fun b => b.2.resolution) = [(.ok ⟨"default"⟩, "")] := by
  decide

end Audit

end CliCore
