import CliCore.Audit.Env

/-!
# Resolving dependencies through a configuration file

`SetResolutionRepoIfExists` looks for the technology's `<type>.yaml` configuration file and,
when it finds one, writes its server and target repository into the shared params.  It does
nothing when a dependency repository is set already or configuration files are ignored.

`setResolutionRepoIfExists_eq` cuts the function into the file it goes by
(`resolutionConfigFile`: the technology's own, then Dotnet's for Nuget) and what it does with
that file (`readResolutionConfig`).  The resolver writes only the server details and the
dependency repository (`setResolutionRepoIfExists_frame`), and the server details it writes
are readable (`setResolutionRepoIfExists_serverDetails`).  A technology outside the `techType`
map looks up the zero `ProjectType` instead, which is the file type of another technology
(`setResolutionRepoIfExists_docker_uses_zero_type`).
-/

namespace CliCore

namespace Audit

variable (env : Env) (cwd : Path)

/-- `project.GetProjectConfFilePath(techType[tech])`: a technology the map lacks looks up the
zero `ProjectType`. -/
def confFilePath (tech : Technology) : Except String (Option String) :=
  env.getProjectConfFilePath cwd ((techType tech).getD env.projectTypeZero)

/-- The end of `SetResolutionRepoIfExists`, once the configuration file `configFilePath` was
found. -/
def readResolutionConfig (params : AuditBasicParams) (tech : Technology)
    (configFilePath : String) : AuditBasicParams × Option AuditError :=
  match env.readResolutionOnlyConfiguration configFilePath with
  | .error e => (params, some (.readConfig tech (.external e)))
  | .ok repoConfig =>
    match repoConfig.serverDetails with
    | .error e => (params, some (.getServerDetails (.external e)))
    | .ok details => ((params.setServerDetails details).setDepsRepo repoConfig.targetRepo, none)

/-- `SetResolutionRepoIfExists`, from the working directory `cwd`: the params as it leaves
them, and its error. -/
def setResolutionRepoIfExists (params : AuditBasicParams) (tech : Technology) :
    AuditBasicParams × Option AuditError :=
  if params.depsRepo != "" || params.ignoreConfigFile then (params, none) else
  match confFilePath env cwd tech with
  | .error e => (params, some (.searchConfig tech (.external e)))
  | .ok (some configFilePath) => readResolutionConfig env params tech configFilePath
  | .ok none =>
    if tech = .nuget then
      match confFilePath env cwd .dotnet with
      | .error e => (params, some (.searchConfig tech (.external e)))
      | .ok (some configFilePath) => readResolutionConfig env params tech configFilePath
      | .ok none => (params, none)
    else (params, none)

/-- The configuration file `SetResolutionRepoIfExists` goes by, if any: the technology's own,
and for Nuget Dotnet's when Nuget's does not exist. -/
def resolutionConfigFile (tech : Technology) : Except AuditError (Option String) :=
  match confFilePath env cwd tech with
  | .error e => .error (.searchConfig tech (.external e))
  | .ok (some configFilePath) => .ok (some configFilePath)
  | .ok none =>
    if tech = .nuget then
      match confFilePath env cwd .dotnet with
      | .error e => .error (.searchConfig tech (.external e))
      | .ok configFilePath => .ok configFilePath
    else .ok none

/-- A dependency repository set already, or configuration files ignored. -/
def ResolutionPreset (params : AuditBasicParams) : Prop :=
  params.depsRepo ≠ "" ∨ params.ignoreConfigFile = true

instance : DecidablePred ResolutionPreset := fun params =>
  inferInstanceAs (Decidable (params.depsRepo ≠ "" ∨ params.ignoreConfigFile = true))

variable {env cwd}

theorem setResolutionRepoIfExists_eq (params : AuditBasicParams) (tech : Technology) :
    setResolutionRepoIfExists env cwd params tech =
      if ResolutionPreset params then (params, none) else
      match resolutionConfigFile env cwd tech with
      | .error e => (params, some e)
      | .ok none => (params, none)
      | .ok (some configFilePath) => readResolutionConfig env params tech configFilePath := by
  unfold setResolutionRepoIfExists resolutionConfigFile ResolutionPreset
  simp only [Bool.or_eq_true, bne_iff_ne]
  by_cases hp : params.depsRepo ≠ "" ∨ params.ignoreConfigFile = true
  · rw [if_pos hp, if_pos hp]
  · rw [if_neg hp, if_neg hp]
    rcases confFilePath env cwd tech with _ | _ | _ <;> simp only
    split <;> rcases confFilePath env cwd .dotnet with _ | _ | _ <;> rfl

theorem setResolutionRepoIfExists_of_preset {params : AuditBasicParams} {tech : Technology}
    (h : ResolutionPreset params) :
    setResolutionRepoIfExists env cwd params tech = (params, none) := by
  simp [setResolutionRepoIfExists_eq, h]

/-- The resolver writes the server details and the dependency repository and nothing else. -/
theorem setResolutionRepoIfExists_frame (params : AuditBasicParams) (tech : Technology) :
    ∃ serverDetails depsRepo, (setResolutionRepoIfExists env cwd params tech).1 =
      { params with serverDetails, depsRepo } := by
  rw [setResolutionRepoIfExists_eq]
  unfold readResolutionConfig
  repeat' split
  all_goals exact ⟨_, _, rfl⟩

/-- The resolver keeps the server details or sets readable ones. -/
theorem setResolutionRepoIfExists_serverDetails (params : AuditBasicParams) (tech : Technology) :
    (setResolutionRepoIfExists env cwd params tech).1.serverDetails = params.serverDetails ∨
      ∃ details, (setResolutionRepoIfExists env cwd params tech).1.serverDetails = .ok details := by
  rw [setResolutionRepoIfExists_eq]
  unfold readResolutionConfig
  repeat' split
  all_goals first | exact .inl rfl | exact .inr ⟨_, rfl⟩

/-- Only Pip has a configuration file, and it names the server `pypi-server`. -/
def pipConfigEnv : Env :=
  { quietEnv with
    getProjectConfFilePath := fun _ pt =>
      .ok (if pt = .pip then some "/repo/.jfrog/projects/pip.yaml" else none)
    readResolutionOnlyConfiguration := fun _ => .ok ⟨"pypi-remote", .ok ⟨"pypi-server"⟩⟩ }

theorem techType_covers (pt : ProjectType) : ∃ tech, tech ≠ .docker ∧ techType tech = some pt := by
  cases pt
  all_goals first
    | exact ⟨.go, by decide, rfl⟩ | exact ⟨.pip, by decide, rfl⟩ | exact ⟨.pipenv, by decide, rfl⟩
    | exact ⟨.poetry, by decide, rfl⟩ | exact ⟨.npm, by decide, rfl⟩ | exact ⟨.yarn, by decide, rfl⟩
    | exact ⟨.nuget, by decide, rfl⟩ | exact ⟨.maven, by decide, rfl⟩
    | exact ⟨.gradle, by decide, rfl⟩ | exact ⟨.dotnet, by decide, rfl⟩

/-- Docker, outside the `techType` map, takes its server and repository from the configuration
file of the zero `ProjectType`, whichever type that is: the file of another technology. -/
theorem setResolutionRepoIfExists_docker_uses_zero_type (z : ProjectType) :
    (∃ tech, tech ≠ .docker ∧ techType tech = some z) ∧
      setResolutionRepoIfExists
        { quietEnv with
          projectTypeZero := z
          getProjectConfFilePath := fun _ pt => .ok (if pt = z then some "other.yaml" else none)
          readResolutionOnlyConfiguration := fun _ => .ok ⟨"other-remote", .ok ⟨"other"⟩⟩ }
        ["repo"] freshParams .docker =
        ((freshParams.setServerDetails ⟨"other"⟩).setDepsRepo "other-remote", none) :=
  ⟨techType_covers z, by simp [setResolutionRepoIfExists, confFilePath, techType,
    readResolutionConfig, freshParams]⟩

end Audit

end CliCore
