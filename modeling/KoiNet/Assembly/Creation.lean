import KoiNet.Infra.Assembler

/-!
# Creating the components of an artifact

If the init order of an artifact lists components of known types after their
dependencies, every component is created exactly once from the components it
depends on, unless a constructor raises; no error of the assembler's own is
raised.
-/

namespace KoiNet

open Foundation

namespace Assembler

variable {Obj Raised : Type}

/-- The init order has the properties that the builder gives it. -/
structure Orderly (artifact : BuildArtifact) : Prop where
  nodup : artifact.initOrder.Nodup
  typed : ∀ compName ∈ artifact.initOrder,
    ∃ compType, artifact.compTypes.get? compName = some compType
  respects : Respects artifact.initGraph.DependsOn artifact.initOrder

variable (iteration : Iteration String) (objects : Objects Obj Raised)
  (artifact : BuildArtifact)

/-- The component is the object it is, or what its constructor made of the
components it depends on. -/
def Made (components : Dict String Obj) (compName : String) : Prop :=
  match artifact.compTypes.get? compName with
  | none => False
  | some .object =>
      components.get? compName = some (objects.asIs compName)
  | some .singleton =>
      ∃ dependencies component,
        objects.construct compName dependencies = .ok component ∧
        components.get? compName = some component ∧
        ∀ dependency, dependencies.get? dependency =
          if artifact.initGraph.DependsOn compName dependency then
            components.get? dependency
          else
            none

/-- The constructors to be called for these components. -/
def constructors (compNames : List String) : List String :=
  compNames.filter fun compName =>
    artifact.compTypes.get? compName = some .singleton

/-- How the creation of the components ends: every component is created, or a
constructor raises; and no constructor is called twice. -/
structure Creates (outcome : Except (AssemblyFailure Raised)
    (Dict String Obj) × List String) : Prop where
  calls : outcome.2 <+: constructors artifact artifact.initOrder
  result :
    match outcome.1 with
    | .ok components =>
        components.keys = artifact.initOrder ∧
          outcome.2 = constructors artifact artifact.initOrder ∧
          ∀ compName ∈ artifact.initOrder,
            Made objects artifact components compName
    | .error failure =>
        ∃ compName ∈ artifact.initOrder, ∃ dependencies raised,
          objects.construct compName dependencies = .error raised ∧
            failure = .construction raised

theorem collectDependencies_run (Raised : Type) {components : Dict String Obj}
    (names : List String) (dependencies : Dict String Obj)
    (created : ∀ name ∈ names, name ∈ components.keys)
    (calls : List String) :
    ∃ collected,
      (collectDependencies components names dependencies :
        AssemblyM Raised (Dict String Obj)).run calls =
        (.ok collected, calls) ∧
      ∀ other, collected.get? other =
        if other ∈ names then components.get? other
        else dependencies.get? other := by
  induction names generalizing dependencies with
  | nil => exact ⟨dependencies, rfl, by simp⟩
  | cons name rest induction =>
      obtain ⟨component, stored⟩ :=
        components.mem_keys_iff.mp (created name List.mem_cons_self)
      obtain ⟨collected, run, collects⟩ :=
        induction (dependencies.set name component) fun other member =>
          created other (List.mem_cons_of_mem name member)
      refine ⟨collected, ?_, ?_⟩
      · unfold collectDependencies
        rw [stored]
        exact run
      · intro other
        rw [collects, Dict.get?_set]
        by_cases same : other = name
        · subst same
          simp [stored]
        · simp [same]

variable {iteration objects artifact} {components : Dict String Obj}
  {compName : String}

/-- Creating other components leaves a component as it was made. -/
theorem Made.set (made : Made objects artifact components compName)
    {other : String} (component : Obj) (different : compName ≠ other)
    (independent : ¬artifact.initGraph.DependsOn compName other) :
    Made objects artifact (components.set other component) compName := by
  unfold Made at made ⊢
  split at made
  · exact made
  · rw [Dict.get?_set_ne _ _ different]
    exact made
  · obtain ⟨dependencies, made, constructed, stored, given⟩ := made
    refine ⟨dependencies, made, constructed, ?_, ?_⟩
    · rw [Dict.get?_set_ne _ _ different]
      exact stored
    · intro dependency
      rw [given]
      split
      · rename_i depends
        rw [Dict.get?_set_ne]
        rintro rfl
        exact independent depends
      · rfl

theorem buildComponent_run {compType : CompType}
    (typed : artifact.compTypes.get? compName = some compType)
    (fresh : compName ∉ components.keys)
    (met : ∀ dependency, artifact.initGraph.DependsOn compName dependency →
      dependency ∈ components.keys) (calls : List String) :
    (∃ component,
      (buildComponent iteration objects artifact components compName).run
          calls =
        (.ok component, calls ++ constructors artifact [compName]) ∧
      Made objects artifact (components.set compName component) compName) ∨
    ∃ dependencies raised,
      objects.construct compName dependencies = .error raised ∧
      (buildComponent iteration objects artifact components compName).run
          calls =
        (.error (.construction raised),
          calls ++ constructors artifact [compName]) := by
  cases compType with
  | object =>
      refine .inl ⟨objects.asIs compName, ?_, ?_⟩
      · unfold buildComponent
        rw [typed]
        simp [constructors, typed]
      · unfold Made
        rw [typed]
        exact Dict.get?_set_self _ _ _
  | singleton =>
      have listed : ∀ name, name ∈ iteration.order
            (artifact.initGraph.neighbors compName).items ↔
          artifact.initGraph.DependsOn compName name :=
        fun _ => (iteration.perm _).mem_iff
      obtain ⟨dependencies, collect, collects⟩ :=
        collectDependencies_run Raised
          (iteration.order (artifact.initGraph.neighbors compName).items)
          Dict.empty (fun name member => met name ((listed name).mp member))
          calls
      have called : constructors artifact [compName] = [compName] := by
        simp [constructors, typed]
      have run : (buildComponent iteration objects artifact components
            compName).run calls =
          ((objects.construct compName dependencies).mapError .construction,
            calls ++ [compName]) := by
        unfold buildComponent
        rw [typed]
        dsimp only
        rw [Effect.run_bind_of_ok collect]
        rfl
      rw [called, run]
      cases constructed : objects.construct compName dependencies with
      | error raised => exact .inr ⟨dependencies, raised, constructed, rfl⟩
      | ok component =>
          refine .inl ⟨component, rfl, ?_⟩
          unfold Made
          rw [typed]
          refine ⟨dependencies, component, constructed,
            Dict.get?_set_self _ _ _, ?_⟩
          intro dependency
          rw [collects]
          by_cases depends : artifact.initGraph.DependsOn compName dependency
          · rw [if_pos ((listed dependency).mpr depends), if_pos depends,
              Dict.get?_set_ne]
            rintro rfl
            exact fresh (met dependency depends)
          · rw [if_neg (mt (listed dependency).mp depends), if_neg depends]
            exact Dict.get?_empty dependency

private theorem constructors_append (left right : List String) :
    constructors artifact (left ++ right) =
      constructors artifact left ++ constructors artifact right :=
  List.filter_append ..

/-- The keys of the components are the part of the init order that has been
gone through. -/
theorem buildFrom_run (orderly : Orderly artifact)
    (created rest : List String) (split : artifact.initOrder = created ++ rest)
    (keys : components.keys = created)
    (made : ∀ compName ∈ created, Made objects artifact components compName) :
    Creates objects artifact
      ((buildFrom iteration objects artifact rest components).run
        (constructors artifact created)) := by
  induction rest generalizing created components with
  | nil =>
      rw [List.append_nil] at split
      subst split
      exact
        { calls := List.prefix_rfl
          result := ⟨keys, rfl, made⟩ }
  | cons compName rest induction =>
      have member : compName ∈ artifact.initOrder := by simp [split]
      have nodup := orderly.nodup
      rw [split] at nodup
      have unlisted : compName ∉ created := fun inCreated =>
        (List.nodup_append.mp nodup).2.2 _ inCreated _ (by simp) rfl
      have fresh : compName ∉ components.keys := keys ▸ unlisted
      have met : ∀ dependency,
          artifact.initGraph.DependsOn compName dependency →
            dependency ∈ components.keys := by
        rw [keys]
        exact orderly.respects created compName rest split
      have longer : artifact.initOrder = (created ++ [compName]) ++ rest := by
        simp [split]
      obtain ⟨compType, typed⟩ := orderly.typed compName member
      rcases buildComponent_run typed fresh met
          (constructors artifact created) with
        ⟨component, run, isMade⟩ | ⟨dependencies, raised, failed, run⟩
      · unfold buildFrom
        rw [Effect.run_bind_of_ok run, ← constructors_append]
        apply induction (created ++ [compName]) longer
        · unfold Dict.keys at keys fresh ⊢
          unfold Dict.set
          rw [Dict.setItem_keys, if_neg fresh, keys]
        · intro other inLonger
          rcases List.mem_append.mp inLonger with inCreated | isLast
          · obtain ⟨earlier, later, isSplit⟩ := List.append_of_mem inCreated
            apply (made other inCreated).set
            · rintro rfl
              exact unlisted inCreated
            · intro depends
              apply unlisted
              rw [isSplit]
              apply List.mem_append_left
              apply orderly.respects earlier other
                (later ++ compName :: rest) _ _ depends
              simp [split, isSplit]
          · rw [List.mem_singleton.mp isLast]
            exact isMade
      · unfold buildFrom
        rw [Effect.run_bind, run]
        refine
          { calls := ?_
            result := ⟨compName, member, dependencies, raised, failed, rfl⟩ }
        rw [longer, constructors_append, constructors_append]
        exact List.prefix_append _ _

theorem buildComponents_creates (orderly : Orderly artifact) :
    Creates objects artifact
      ((buildComponents iteration objects artifact).run []) :=
  buildFrom_run orderly [] artifact.initOrder rfl rfl
    fun _ member => absurd member List.not_mem_nil

end Assembler

end KoiNet
