import CliCore.Repository.ConfKeys

/-!
# The callbacks of the repository template questionnaire

`RepoTemplateCommand.Run` fills a repository configuration template through an
`ioutils.InteractiveQuestionnaire`.  Some questions carry a callback, defined in
`artifactory/commands/repository/template.go`, that edits the questionnaire once the question
is answered:

* `rclassCallback`, after the repository class: for a remote repository in a create template it
  first asks the mandatory URL; then it asks for the package type, offering the common package
  types and those of the class;
* `pkgTypeCallback`, after the package type: it sets the optional keys the class and the package
  type admit, and drops the template type from the answers;
* `projectKeyCallback`, after the project key: it makes the repository key start with
  `<projectKey>-`;
* `contentSynchronisationCallBack`: it asks three more booleans and stores the four answers.

Asking is `ioutils`' work, outside these sources: `AskQuestion` and `AskFromList` are
parameters of the callbacks that call them.

* `projectKeyCallback_prefixes_once`: the prefix is added exactly when missing, and a second
  call changes nothing.
-/

namespace CliCore

namespace Repository

/-- A value of the answers map, an `interface{}`: what the questionnaire's writers store. -/
inductive AnswerValue where
  | string (s : String)
  | bool (b : Bool)
  | int (n : Int)
  | stringList (l : List String)
  deriving DecidableEq, Repr

/-- `fmt.Sprint` of an answer. -/
def AnswerValue.sprint : AnswerValue → String
  | .string s => s
  | .bool b => toString b
  | .int n => toString n
  | .stringList l => "[" ++ " ".intercalate l ++ "]"

/-- The callbacks of the questions of this file, by name. -/
inductive QuestionCallback where
  | rclass
  | pkgType
  | projectKey
  | contentSynchronisation
  deriving DecidableEq, Repr

/-- The part of `ioutils.QuestionInfo` these callbacks build. -/
structure QuestionInfo where
  /-- `Options`. -/
  options : List Suggest
  /-- `AllowVars`. -/
  allowVars : Bool
  /-- `MapKey`, the answer the question writes. -/
  mapKey : String
  /-- `Callback`. -/
  callback : Option QuestionCallback
  deriving DecidableEq, Repr

/-- The zero `QuestionInfo`, what a missing key of the questions map reads as. -/
instance : Inhabited QuestionInfo := ⟨⟨[], false, "", none⟩⟩

/-- The part of `ioutils.InteractiveQuestionnaire` the callbacks read and change. -/
structure InteractiveQuestionnaire where
  /-- `QuestionsMap`. -/
  questionsMap : GoMap String QuestionInfo
  /-- `AnswersMap`. -/
  answersMap : GoMap String AnswerValue
  /-- `OptionalKeysSuggests`, the keys offered once the mandatory questions are answered. -/
  optionalKeysSuggests : List Suggest

/-- `InteractiveQuestionnaire.AskQuestion`: the questionnaire afterwards and the answer. -/
abbrev AskQuestion :=
  InteractiveQuestionnaire → QuestionInfo → InteractiveQuestionnaire × Except String String

/-- `TemplateType`. -/
def templateType : String := "templateType"

/-- `Create`, the template type of a template that creates a repository. -/
def create : String := "create"

/-- `MandatoryUrl`, the key of the URL question a remote create template asks. -/
def mandatoryUrl : String := "mandatoryUrl"

/-- `Key`, the repository key. -/
def key : String := "key"

/-- `Rclass`. -/
def rclass : String := "rclass"

/-- `PackageType`. -/
def packageType : String := "packageType"

/-- `ContentSynchronisation`. -/
def contentSynchronisation : String := "contentSynchronisation"

/-! ### The class and the package type -/

/-- The package type question `rclassCallback` asks, offering `pkgTypes`. -/
def pkgTypeQuestion (pkgTypes : List String) : QuestionInfo where
  options := getSuggestsFromKeys pkgTypes pkgTypeSuggestsMap
  allowVars := false
  mapKey := packageType
  callback := some .pkgType

/-- `rclassCallback`, asking through `askQuestion`. -/
def rclassCallback (askQuestion : AskQuestion) (iq : InteractiveQuestionnaire) (rclass : String) :
    InteractiveQuestionnaire × Except String String :=
  match rclass with
  | "remote" =>
    match iq.answersMap.lookup templateType with
    | none => (iq, .error "package type is missing in configuration map")
    | some templateTypeAnswer =>
      let askPkgType (iq : InteractiveQuestionnaire) :=
        askQuestion iq (pkgTypeQuestion (commonPkgTypes ++ remoteRepoAdditionalPkgTypes))
      if templateTypeAnswer = .string create then
        match askQuestion iq ((iq.questionsMap.lookup mandatoryUrl).getD default) with
        | (iq, .error err) => (iq, .error err)
        | (iq, .ok _) => askPkgType iq
      else askPkgType iq
  | "local" => askQuestion iq (pkgTypeQuestion (commonPkgTypes ++ localRepoAdditionalPkgTypes))
  | "virtual" => askQuestion iq (pkgTypeQuestion (commonPkgTypes ++ virtualRepoAdditionalPkgTypes))
  | "federated" =>
    askQuestion iq (pkgTypeQuestion (commonPkgTypes ++ federatedRepoAdditionalPkgTypes))
  | _ => (iq, .error "unsupported rclass")

/-- The switch of `pkgTypeCallback` on the class answer: the optional keys, or the error. -/
def pkgTypeOptionalKeys (answersMap : GoMap String AnswerValue) (pkgType : String) :
    AnswerValue → Except String (List Suggest)
  | .string "local" => .ok (getLocalRepoConfKeys pkgType)
  | .string "remote" =>
    match answersMap.lookup templateType with
    | none => .error "package type is missing in configuration map"
    | some templateTypeAnswer => .ok (getRemoteRepoConfKeys pkgType templateTypeAnswer.sprint)
  | .string "virtual" => .ok (getVirtualRepoConfKeys pkgType)
  | .string "federated" => .ok (getLocalRepoConfKeys pkgType)
  | _ => .error "unsupported rclass was configured"

/-- `pkgTypeCallback`. -/
def pkgTypeCallback (iq : InteractiveQuestionnaire) (pkgType : String) :
    InteractiveQuestionnaire × Except String String :=
  match iq.answersMap.lookup rclass with
  | none => (iq, .error "rclass is missing in configuration map")
  | some rclassAnswer =>
    match pkgTypeOptionalKeys iq.answersMap pkgType rclassAnswer with
    | .error err => (iq, .error err)
    | .ok optionalKeysSuggests =>
      ({ iq with optionalKeysSuggests, answersMap := iq.answersMap.delete templateType }, .ok "")

/-! ### The repository key and the content synchronisation -/

/-- `strings.HasPrefix`, on the characters of the strings (for the UTF-8 strings a template
holds, a byte prefix that is itself a string is a character prefix). -/
def hasPrefix (s pre : String) : Bool := pre.data.isPrefixOf s.data

/-- `projectKeyCallback`: the questionnaire afterwards, and the callback's result. -/
def projectKeyCallback (iq : InteractiveQuestionnaire) (projectKey : String) :
    InteractiveQuestionnaire × Except String String :=
  match iq.answersMap.lookup key with
  | none => (iq, .error "repository key is missing in configuration map")
  | some value =>
    let requiredProjectPrefix := projectKey ++ "-"
    match value with
    | .string currentRepoKey =>
      if !hasPrefix currentRepoKey requiredProjectPrefix then
        ({ iq with answersMap :=
            iq.answersMap.insert key (.string (requiredProjectPrefix ++ currentRepoKey)) }, .ok "")
      else (iq, .ok "")
    | _ =>
      (iq, .error "template syntax error: the value for the repository key is not a string type")

@[simp] theorem hasPrefix_append (pre s : String) : hasPrefix (pre ++ s) pre = true := by
  simp [hasPrefix, List.isPrefixOf_iff_prefix, String.data_append, List.prefix_append]

theorem projectKeyCallback_of_string {iq : InteractiveQuestionnaire} {p k : String}
    (h : iq.answersMap.lookup key = some (.string k)) :
    projectKeyCallback iq p =
      if hasPrefix k (p ++ "-") then (iq, .ok "")
      else
        ({ iq with answersMap := iq.answersMap.insert key (.string (p ++ "-" ++ k)) }, .ok "") := by
  simp only [projectKeyCallback, h]
  split_ifs <;> simp_all

/-- **The prefix is added once.**  On a string key `k` the callback succeeds and sets the key
to `k` when `k` starts with `p-` and to `p-k` otherwise, so that it starts with `p-`; no other
answer changes, and a second call changes nothing.  On a missing or non-string key it fails and
changes nothing. -/
theorem projectKeyCallback_prefixes_once (iq : InteractiveQuestionnaire) (p : String) :
    let r := projectKeyCallback iq p
    (∀ k, iq.answersMap.lookup key = some (.string k) →
      let k' := if hasPrefix k (p ++ "-") then k else p ++ "-" ++ k
      r.2 = .ok "" ∧ r.1.answersMap.lookup key = some (.string k') ∧
        hasPrefix k' (p ++ "-") = true ∧
        (∀ other, other ≠ key → r.1.answersMap.lookup other = iq.answersMap.lookup other) ∧
        projectKeyCallback r.1 p = (r.1, .ok "")) ∧
    ((∀ k, iq.answersMap.lookup key ≠ some (.string k)) → r.1 = iq ∧ r.2.isOk = false) := by
  refine ⟨fun k hk => ?_, fun hk => ?_⟩
  · dsimp only
    rw [projectKeyCallback_of_string hk]
    by_cases hp : hasPrefix k (p ++ "-") = true
    · rw [if_pos hp, if_pos hp]
      exact ⟨rfl, hk, hp, fun _ _ => rfl, by rw [projectKeyCallback_of_string hk, if_pos hp]⟩
    · rw [if_neg hp, if_neg hp]
      let iq' : InteractiveQuestionnaire :=
        { iq with answersMap := iq.answersMap.insert key (.string (p ++ "-" ++ k)) }
      have hnew : iq'.answersMap.lookup key = some (.string (p ++ "-" ++ k)) :=
        GoMap.lookup_insert_self _ _ _
      exact ⟨rfl, hnew, hasPrefix_append _ _, fun _ h => GoMap.lookup_insert_ne _ _ h,
        by rw [projectKeyCallback_of_string hnew, if_pos (hasPrefix_append _ _)]⟩
  · unfold projectKeyCallback
    split
    · simp [Except.isOk, Except.toBool]
    · rename_i value hv
      cases value <;> simp_all [Except.isOk, Except.toBool]

/-- `contentSynchronisationCallBack`, with `AskFromList` answering each prompt: the three
further booleans are appended to the answer, comma separated, and the whole is stored under
`contentSynchronisation`.  The source's checks of `err` test its named result, which nothing
sets, so they never return early. -/
def contentSynchronisationCallBack (askFromList : String → String)
    (iq : InteractiveQuestionnaire) (answer : String) :
    InteractiveQuestionnaire × Except String String :=
  let answer := answer ++ "," ++ askFromList "Insert the value for statistic.enable >"
  let answer := answer ++ "," ++ askFromList "Insert the value for properties.enable >"
  let answer :=
    answer ++ "," ++ askFromList "Insert the value for source.originAbsenceDetection >"
  ({ iq with answersMap := iq.answersMap.insert contentSynchronisation (.string answer) }, .ok "")

end Repository

end CliCore
