import CliCore.Audit.FlatTree
import CliCore.Audit.Resolution

/-!
# Building a unit's dependency trees

`GetTechDependencyTree` reads the server details, runs the resolver, dispatches on the
technology to its tree builder and flattens the builder's identifier list.

* `getTechDependencyTree_flatTree`: the flat tree is missing exactly when no builder was
  reached, or the builder failed or found nothing; otherwise it is `createFlatTree` of the
  builder's list, duplicates included, and the full trees are the builder's.
* `getTechDependencyTree_pip_stale_server`: the Python builder gets the repository the resolver
  wrote together with the server read *before* the resolver ran, while the params then hold
  the server of the configuration file.
-/

namespace CliCore

namespace Audit

/-- What `GetTechDependencyTree` leaves behind: the params as the resolver left them, the tree
builder it called, and its three results. -/
structure TechDependencyTree where
  /-- The shared params after `SetResolutionRepoIfExists`. -/
  params : AuditBasicParams
  /-- The tree builder called, with its arguments. -/
  builderCall : Option BuilderCall
  /-- `flatTree`; `none` is `nil`. -/
  flatTree : Option GraphNode
  /-- `fullDependencyTrees`. -/
  fullDependencyTrees : List GraphNode
  /-- `err`. -/
  err : Option AuditError

/-- The `switch tech` of `GetTechDependencyTree`: the builder called and its arguments; `none`
is the `default` branch. -/
def techBuilderCall (params : AuditBasicParams) (serverDetails : ServerDetails) :
    Technology → Option BuilderCall
  | .maven => some (.java params .maven)
  | .gradle => some (.java params .gradle)
  | .npm => some (.npm params)
  | .yarn => some (.yarn params)
  | .go => some (.go params)
  | .pipenv => some (.python ⟨serverDetails, .pipenv, params.depsRepo, params.pipRequirementsFile⟩)
  | .pip => some (.python ⟨serverDetails, .pip, params.depsRepo, params.pipRequirementsFile⟩)
  | .poetry => some (.python ⟨serverDetails, .poetry, params.depsRepo, params.pipRequirementsFile⟩)
  | .nuget => some (.nuget params)
  | .dotnet | .docker => none

/-- `GetTechDependencyTree`, from the working directory `cwd`. -/
def getTechDependencyTree (env : Env) (cwd : Path) (params : AuditBasicParams)
    (tech : Technology) : TechDependencyTree :=
  match params.serverDetails with
  | .error e => ⟨params, none, none, [], some (.external e)⟩
  | .ok serverDetails =>
    match setResolutionRepoIfExists env cwd params tech with
    | (params, some err) => ⟨params, none, none, [], some err⟩
    | (params, none) =>
      match techBuilderCall params serverDetails tech with
      | none => ⟨params, none, none, [], some (.notSupported tech)⟩
      | some call =>
        match env.buildDependencyTree cwd call with
        | (fullDependencyTrees, uniqueDeps, err) =>
          if err.isSome || uniqueDeps.isEmpty then
            ⟨params, some call, none, fullDependencyTrees, err.map .external⟩
          else ⟨params, some call, some (createFlatTree uniqueDeps), fullDependencyTrees, none⟩

/-- The server and the repository a builder call resolves dependencies with. -/
def BuilderCall.resolution : BuilderCall → Except String ServerDetails × String
  | .java p _ | .npm p | .yarn p | .go p | .nuget p => (p.serverDetails, p.depsRepo)
  | .python a => (.ok a.server, a.remotePypiRepo)

/-- The Python technologies. -/
def Technology.IsPython (tech : Technology) : Prop := tech = .pip ∨ tech = .pipenv ∨ tech = .poetry

instance : DecidablePred Technology.IsPython := fun tech =>
  inferInstanceAs (Decidable (tech = .pip ∨ tech = .pipenv ∨ tech = .poetry))

variable {env : Env} {cwd : Path}

theorem techBuilderCall_resolution {params : AuditBasicParams} {serverDetails : ServerDetails}
    {tech : Technology} {call : BuilderCall}
    (h : techBuilderCall params serverDetails tech = some call) :
    call.resolution = if tech.IsPython then (.ok serverDetails, params.depsRepo)
      else (params.serverDetails, params.depsRepo) := by
  cases tech <;> simp [techBuilderCall, Technology.IsPython] at h ⊢ <;> subst h <;> rfl

/-- One lemma for the whole function: the builder is called exactly when the server details
were read, the resolver did not fail and the technology has a builder. -/
theorem getTechDependencyTree_cases (params : AuditBasicParams) (tech : Technology) :
    let t := getTechDependencyTree env cwd params tech
    (t.builderCall = none ∧ t.flatTree = none ∧ t.fullDependencyTrees = [] ∧ t.err.isSome) ∨
      ∃ serverDetails call, params.serverDetails = .ok serverDetails ∧
        (setResolutionRepoIfExists env cwd params tech).2 = none ∧
        t.params = (setResolutionRepoIfExists env cwd params tech).1 ∧
        techBuilderCall t.params serverDetails tech = some call ∧ t.builderCall = some call ∧
        t.fullDependencyTrees = (env.buildDependencyTree cwd call).1 ∧
        t.flatTree = (if (env.buildDependencyTree cwd call).2.2.isSome ||
            (env.buildDependencyTree cwd call).2.1.isEmpty then none
          else some (createFlatTree (env.buildDependencyTree cwd call).2.1)) := by
  unfold getTechDependencyTree
  rcases hs : params.serverDetails with e | serverDetails
  · simp
  rcases hr : setResolutionRepoIfExists env cwd params tech with ⟨params', _ | err⟩
  · rcases hc : techBuilderCall params' serverDetails tech with _ | call
    · simp [hc]
    · right
      refine ⟨serverDetails, call, rfl, rfl, ?_⟩
      simp only [hc, Bool.or_eq_true, List.isEmpty_iff]
      split_ifs <;> simp_all
  · simp

theorem getTechDependencyTree_params (params : AuditBasicParams) (tech : Technology) :
    (getTechDependencyTree env cwd params tech).params =
      if params.serverDetails.isOk then (setResolutionRepoIfExists env cwd params tech).1
      else params := by
  unfold getTechDependencyTree
  rcases params.serverDetails with e | serverDetails
  · rfl
  simp only [Except.isOk, Except.toBool, ↓reduceIte]
  rcases setResolutionRepoIfExists env cwd params tech with ⟨params', _ | err⟩
  · dsimp only
    split
    · rfl
    · split_ifs <;> rfl
  · rfl

theorem getTechDependencyTree_params_of_preset {params : AuditBasicParams} (tech : Technology)
    (h : ResolutionPreset params) :
    (getTechDependencyTree env cwd params tech).params = params := by
  rw [getTechDependencyTree_params, setResolutionRepoIfExists_of_preset h]
  split_ifs <;> rfl

/-- The server details stay readable exactly when they were. -/
theorem getTechDependencyTree_serverDetails_isOk (params : AuditBasicParams) (tech : Technology) :
    (getTechDependencyTree env cwd params tech).params.serverDetails.isOk =
      params.serverDetails.isOk := by
  rw [getTechDependencyTree_params]
  split_ifs with h
  · rcases setResolutionRepoIfExists_serverDetails params tech with h' | ⟨d, h'⟩
    · rw [h']
    · rw [h', h]
      rfl
  · rfl

/-- With a preset resolution the builder call is the `switch tech` on the params as given. -/
theorem getTechDependencyTree_builderCall_of_preset {params : AuditBasicParams}
    (tech : Technology) (h : ResolutionPreset params) :
    (getTechDependencyTree env cwd params tech).builderCall =
      match params.serverDetails with
      | .ok serverDetails => techBuilderCall params serverDetails tech
      | .error _ => none := by
  unfold getTechDependencyTree
  rw [setResolutionRepoIfExists_of_preset h]
  rcases params.serverDetails with e | serverDetails
  · rfl
  · dsimp only
    rcases techBuilderCall params serverDetails tech with _ | call
    · rfl
    · dsimp only
      split_ifs <;> rfl

/-- Of the params, `GetTechDependencyTree` writes the server details and the dependency
repository, through the resolver, and nothing else. -/
theorem getTechDependencyTree_frame (params : AuditBasicParams) (tech : Technology) :
    ∃ serverDetails depsRepo,
      (getTechDependencyTree env cwd params tech).params =
        { params with serverDetails, depsRepo } := by
  rw [getTechDependencyTree_params]
  split_ifs
  · exact setResolutionRepoIfExists_frame params tech
  · exact ⟨_, _, rfl⟩

/-- With a `pip.yaml` that names another server, the Python builder gets that file's
repository together with the server the params held before resolution. -/
theorem getTechDependencyTree_pip_stale_server :
    (getTechDependencyTree pipConfigEnv ["repo"] freshParams .pip).params.serverDetails =
        .ok ⟨"pypi-server"⟩ ∧
      (getTechDependencyTree pipConfigEnv ["repo"] freshParams .pip).params.depsRepo =
        "pypi-remote" ∧
      (getTechDependencyTree pipConfigEnv ["repo"] freshParams .pip).builderCall =
        some (.python ⟨⟨"default"⟩, .pip, "pypi-remote", ""⟩) := by
  decide

end Audit

end CliCore
