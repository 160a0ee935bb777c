import CfFrappe.Core.Types
import CfFrappe.Lib.DepthFirst

set_option autoImplicit false

/-! # The order of apps

Apps are registered by name and put in order by a depth-first search over their dependencies
(`resolveAppDependencyOrder`). The search ends, with an order in which every app comes after all it depends
on, directly or not, exactly when the names are valid and distinct, every dependency is an app and no app
depends on itself (`resolveAppDependencyOrder_topological`).
-/

open Utf

/-! ## Names -/

def isAppNameStart (u : UInt16) : Bool := 0x61 ≤ u && u ≤ 0x7A

def isAppNameUnit (u : UInt16) : Bool := isAppNameStart u || (0x30 ≤ u && u ≤ 0x39) || u == 0x5F || u == 0x2D

/-- `/^[a-z][a-z0-9_-]*$/`. -/
def isAppName : JsString → Bool
  | [] => false
  | first :: rest => isAppNameStart first && rest.all isAppNameUnit

def assertAppName (name : JsString) : Except FrameworkError Unit :=
  ensure (isAppName name) { code := .appInvalid, message := js "Invalid app name '" ++ name ++ js "'", status := 400 }

def assertAppNames : List JsString → Except FrameworkError Unit
  | [] => .ok ()
  | name :: names => do
      assertAppName name
      assertAppNames names

/-! ## The order -/

/-- What the order reads of an app. -/
class AppDependencyNode (T : Type) where
  name : T → JsString
  dependencies : T → Option (List JsString)

namespace AppGraph

open AppDependencyNode

variable {T : Type} [AppDependencyNode T]

/-- `app.dependencies ?? []`. -/
def dependencyNames (app : T) : List JsString := (dependencies app).getD []

def duplicateApp (name : JsString) : FrameworkError :=
  { code := .appDuplicate, message := js "App '" ++ name ++ js "' is already registered", status := 409 }

def dependencyCycle (name : JsString) : FrameworkError :=
  { code := .appDependencyCycle, message := js "App dependency cycle includes '" ++ name ++ js "'", status := 409 }

def dependencyMissing (name dependencyName : JsString) : FrameworkError :=
  { code := .appDependencyMissing
    message := js "App '" ++ name ++ js "' depends on missing app '" ++ dependencyName ++ js "'", status := 400 }

/-- The first loop, which fills `byName`. -/
def registerApps : List T → List T → Except FrameworkError (List T)
  | byName, [] => .ok byName
  | byName, app :: apps => do
      assertAppName (name app)
      assertAppNames (dependencyNames app)
      ensure (!byName.any (fun other => name other == name app)) (duplicateApp (name app))
      registerApps (byName ++ [app]) apps

/-- The graph that `visitApp` walks. -/
def appGraph (byName : List T) : DepthFirst.Graph JsString T FrameworkError where
  key := name
  edges := dependencyNames
  nodes := byName
  cycle app := dependencyCycle (name app)
  missing app dependencyName := dependencyMissing (name app) dependencyName

/-- The second loop calls `visitApp`, which the fuel bounds; `none` if it runs out. -/
def resolveAppDependencyOrder (fuel : Nat) (apps : List T) : Option (Except FrameworkError (List T)) :=
  match registerApps [] apps with
  | .error error => some (.error error)
  | .ok byName => (DepthFirst.visitAll (appGraph byName) fuel apps {}).map (·.map (·.ordered))

/-! ## What an order is -/

/-- An app names another. -/
def DependsOn (apps : List T) (a b : JsString) : Prop := ∃ app ∈ apps, name app = a ∧ b ∈ dependencyNames app

/-- What apps need for an order. -/
structure Resolvable (apps : List T) : Prop where
  names : ∀ app ∈ apps, isAppName (name app) = true
  distinct : (apps.map name).Nodup
  present : ∀ app ∈ apps, ∀ dependencyName ∈ dependencyNames app, dependencyName ∈ apps.map name
  acyclic : ∀ a, ¬Relation.TransGen (DependsOn apps) a a

/-- Apps in order: each comes after all it depends on, directly or not. -/
structure TopologicalOrder (apps ordered : List T) : Prop where
  perm : ordered.Perm apps
  sorted : ∀ before app after, ordered = before ++ app :: after →
    ∀ dependencyName, Relation.TransGen (DependsOn apps) (name app) dependencyName →
      dependencyName ∈ before.map name

/-! ## Registration -/

theorem assertAppName_eq_ok {name : JsString} : assertAppName name = .ok () ↔ isAppName name = true := by
  unfold assertAppName ensure
  split_ifs with h
  · exact iff_of_true rfl h
  · exact iff_of_false (fun h' => by cases h') h

theorem assertAppNames_eq_ok {names : List JsString} :
    assertAppNames names = .ok () ↔ ∀ name ∈ names, isAppName name = true := by
  induction names with
  | nil => simp [assertAppNames]
  | cons name names ih =>
    rw [List.forall_mem_cons, ← ih, ← assertAppName_eq_ok]
    show (assertAppName name).bind (fun _ => assertAppNames names) = .ok () ↔ _
    cases assertAppName name with
    | error e => exact iff_of_false (fun h => by cases h) (fun h => by cases h.1)
    | ok u => exact ⟨fun h => ⟨rfl, h⟩, fun h => h.2⟩

/-- What the first loop checks of the apps that come, after others have been registered. -/
structure Registrable (byName apps : List T) : Prop where
  names : ∀ app ∈ apps, isAppName (name app) = true
  dependencyNames : ∀ app ∈ apps, ∀ dependencyName ∈ dependencyNames app, isAppName dependencyName = true
  distinct : (apps.map name).Nodup
  fresh : ∀ app ∈ apps, name app ∉ byName.map name

theorem registrable_cons {byName apps : List T} {app : T} :
    Registrable byName (app :: apps) ↔
      isAppName (name app) = true ∧ (∀ dependencyName ∈ dependencyNames app, isAppName dependencyName = true) ∧
        name app ∉ byName.map name ∧ Registrable (byName ++ [app]) apps := by
  constructor
  · rintro ⟨hnames, hdependencies, hdistinct, hfresh⟩
    rw [List.map_cons, List.nodup_cons] at hdistinct
    refine ⟨hnames app List.mem_cons_self, hdependencies app List.mem_cons_self, hfresh app List.mem_cons_self, ?_⟩
    refine ⟨fun other h => hnames other (List.mem_cons_of_mem _ h),
      fun other h => hdependencies other (List.mem_cons_of_mem _ h), hdistinct.2, ?_⟩
    intro other hother hmem
    rw [List.map_append, List.mem_append] at hmem
    rcases hmem with hold | hlast
    · exact hfresh other (List.mem_cons_of_mem _ hother) hold
    · have hname : name other = name app := by simpa using hlast
      exact hdistinct.1 (hname ▸ List.mem_map_of_mem hother)
  · rintro ⟨hname, hdependencies, hnew, hrest⟩
    constructor
    · exact List.forall_mem_cons.mpr ⟨hname, hrest.names⟩
    · exact List.forall_mem_cons.mpr ⟨hdependencies, hrest.dependencyNames⟩
    · rw [List.map_cons, List.nodup_cons]
      refine ⟨?_, hrest.distinct⟩
      intro hmem
      obtain ⟨other, hother, hsame⟩ := List.mem_map.mp hmem
      apply hrest.fresh other hother
      simp [hsame]
    · refine List.forall_mem_cons.mpr ⟨hnew, ?_⟩
      intro other hother hmem
      apply hrest.fresh other hother
      rw [List.map_append]
      exact List.mem_append_left _ hmem

/-- **The first loop**: it registers the apps as they come, or throws. -/
theorem registerApps_eq_ok_iff {apps : List T} (byName registered : List T) :
    registerApps byName apps = .ok registered ↔ Registrable byName apps ∧ registered = byName ++ apps := by
  induction apps generalizing byName with
  | nil =>
    constructor
    · intro h
      cases h
      exact ⟨⟨by simp, by simp, by simp, by simp⟩, by simp⟩
    · rintro ⟨-, rfl⟩
      simp [registerApps]
  | cons app apps ih =>
    -- one app: its name, the names it depends on, and no app of its name before it
    have hstep : registerApps byName (app :: apps) = .ok registered ↔
        assertAppName (name app) = .ok () ∧ assertAppNames (dependencyNames app) = .ok () ∧
          name app ∉ byName.map name ∧ registerApps (byName ++ [app]) apps = .ok registered := by
      show (assertAppName (name app)).bind (fun _ => (assertAppNames (dependencyNames app)).bind (fun _ =>
        (ensure (!byName.any (fun other => name other == name app)) (duplicateApp (name app))).bind (fun _ =>
          registerApps (byName ++ [app]) apps))) = .ok registered ↔ _
      cases assertAppName (name app) with
      | error e => exact iff_of_false (fun h => by cases h) (fun h => by cases h.1)
      | ok u =>
        cases assertAppNames (dependencyNames app) with
        | error e => exact iff_of_false (fun h => by cases h) (fun h => by cases h.2.1)
        | ok u' =>
          by_cases hany : name app ∈ byName.map name
          · have hduplicate : byName.any (fun other => name other == name app) = true := by
              obtain ⟨other, hother, hsame⟩ := List.mem_map.mp hany
              exact List.any_eq_true.mpr ⟨other, hother, by simp [hsame]⟩
            rw [hduplicate]
            exact iff_of_false (fun h => by cases h) (fun h => h.2.2.1 hany)
          · have hnew : byName.any (fun other => name other == name app) = false := by
              rw [List.any_eq_false]
              intro other hother hsame
              exact hany (List.mem_map.mpr ⟨other, hother, by simpa using hsame⟩)
            rw [hnew]
            exact ⟨fun h => ⟨rfl, rfl, hany, h⟩, fun h => h.2.2.2⟩
    rw [hstep, assertAppName_eq_ok, assertAppNames_eq_ok, ih, registrable_cons, List.append_assoc, List.singleton_append]
    tauto

/-! ## The whole run -/

theorem complete_iff {apps : List T} :
    (appGraph apps).Complete ↔
      ∀ app ∈ apps, ∀ dependencyName ∈ dependencyNames app, dependencyName ∈ apps.map name := by
  unfold DepthFirst.Graph.Complete DepthFirst.Graph.find
  simp [appGraph]

/-- The names of dependencies are valid when they are names of apps. -/
theorem Resolvable.registrable {apps : List T} (h : Resolvable apps) : Registrable [] apps := by
  refine ⟨h.names, ?_, h.distinct, by simp⟩
  intro app happ dependencyName hdependency
  obtain ⟨other, hother, rfl⟩ := List.mem_map.mp (h.present app happ dependencyName hdependency)
  exact h.names other hother

/-- What the search adds to what the first loop has checked. -/
theorem resolvable_iff {apps : List T} (h : Registrable [] apps) :
    Resolvable apps ↔ (appGraph apps).Acyclic ∧ (appGraph apps).Complete := by
  rw [complete_iff]
  exact ⟨fun hres => ⟨hres.acyclic, hres.present⟩, fun hsearch => ⟨h.names, h.distinct, hsearch.2, hsearch.1⟩⟩

/-- **The order of apps is a topological sort.** With fuel for every app there is one result; it is an order
exactly when there is one, and the apps are then sorted by their dependencies. -/
theorem resolveAppDependencyOrder_topological (apps : List T) :
    ∃ result, (∀ fuel, apps.length < fuel → resolveAppDependencyOrder fuel apps = some result) ∧
      ((∃ ordered, result = .ok ordered) ↔ Resolvable apps) ∧
      (∀ ordered, result = .ok ordered → TopologicalOrder apps ordered) ∧
      (¬Resolvable apps → ∃ error, result = .error error) := by
  -- an app that is refused before the search makes the list unresolvable
  cases hregister : registerApps [] apps with
  | error error =>
    have hnot : ¬Resolvable apps := by
      intro hres
      have hok := (registerApps_eq_ok_iff [] apps).mpr ⟨hres.registrable, rfl⟩
      rw [hregister] at hok
      cases hok
    refine ⟨.error error, ?_, iff_of_false ?_ hnot, ?_, fun _ => ⟨error, rfl⟩⟩
    · intro fuel _
      unfold resolveAppDependencyOrder
      rw [hregister]
    · rintro ⟨ordered, h⟩
      cases h
    · intro ordered h
      cases h
  | ok byName =>
    obtain ⟨hregistrable, hbyName⟩ := (registerApps_eq_ok_iff [] byName).mp hregister
    rw [List.nil_append] at hbyName
    obtain rfl : apps = byName := hbyName.symm
    have hdistinct : (appGraph apps).Distinct := hregistrable.distinct
    have hfuel : (appGraph apps).nodes.length < apps.length + 1 := Nat.lt_succ_self _
    obtain ⟨result, hresult, hiff⟩ := DepthFirst.visitAll_isOk_iff hdistinct hfuel
    -- more fuel than apps does not change the result of the search
    have hrun : ∀ fuel, apps.length < fuel →
        resolveAppDependencyOrder fuel apps = some (result.map (·.ordered)) := by
      intro fuel hlt
      unfold resolveAppDependencyOrder
      rw [hregister]
      show (DepthFirst.visitAll (appGraph apps) fuel (appGraph apps).nodes {}).map _ = _
      rw [DepthFirst.visitAll_mono hlt hresult]
      rfl
    rw [← resolvable_iff hregistrable] at hiff
    refine ⟨result.map (·.ordered), hrun, ?_⟩
    cases result with
    | error error =>
      have hnot : ¬Resolvable apps := fun hres => by cases hiff.mpr hres
      refine ⟨iff_of_false ?_ hnot, ?_, fun _ => ⟨error, rfl⟩⟩
      · rintro ⟨ordered, h⟩
        cases h
      · intro ordered h
        cases h
    | ok search =>
      have hres : Resolvable apps := hiff.mp rfl
      have hsorted := DepthFirst.visitAll_sorted hdistinct hfuel hresult
      refine ⟨iff_of_true ⟨search.ordered, rfl⟩ hres, ?_, fun hnot => absurd hres hnot⟩
      intro ordered h
      cases h
      exact ⟨hsorted.1, hsorted.2⟩

end AppGraph
