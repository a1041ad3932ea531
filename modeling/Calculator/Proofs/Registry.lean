import Calculator.Proofs.Session
import Mathlib.Data.List.Perm.Basic

/-! The registry as a log. Between two clearings registrations only add up: a name keeps the place
of its first registration and has the definition of its latest one, and an alias is registered
with the implementation that its source has just then. Lookup, the functions of a category and
the grouping by categories are views of one list of definitions, so they agree after every
history. -/

namespace Calculator

namespace Registry

section Firsts

variable {α : Type} [DecidableEq α]

theorem eraseDups_append_singleton (l : List α) (a : α) :
    (l ++ [a]).eraseDups = if a ∈ l then l.eraseDups else l.eraseDups ++ [a] := by
  have single : [a].eraseDups = [a] := by simp [List.eraseDups_cons]
  rw [List.eraseDups_append]
  split <;> simp_all [List.removeAll]

theorem nodup_eraseDups (l : List α) : l.eraseDups.Nodup := by
  induction l using List.reverseRecOn with
  | nil => simp
  | append_singleton l a ih =>
    rw [eraseDups_append_singleton]
    split
    · exact ih
    · next fresh =>
      refine List.nodup_append.2 ⟨ih, List.pairwise_singleton _ a, ?_⟩
      rintro b listed c last rfl
      rw [List.mem_singleton.1 last] at listed
      exact fresh (List.mem_eraseDups.1 listed)

end Firsts

/-- What a list of registrations, in order, says about a name: the latest one under it. -/
def latest? (log : List Definition) (name : String) : Option Definition :=
  log.reverse.find? fun d => d.name = name

/-- A registry in which names have the order of their first registrations, and the definitions
of their latest ones. -/
structure Follows (r : Registry) (log : List Definition) : Prop where
  names_eq : r.names = (log.map Definition.name).eraseDups
  find?_eq : ∀ name, r.find? name = latest? log name

variable {r r' : Registry} {log : List Definition}

theorem latest?_append (log rest : List Definition) (name : String) :
    latest? (log ++ rest) name = (latest? rest name).or (latest? log name) := by
  rw [latest?, List.reverse_append, List.find?_append]
  rfl

theorem latest?_singleton (d : Definition) (name : String) :
    latest? [d] name = if d.name = name then some d else none := by
  by_cases here : d.name = name <;> simp [latest?, here]

theorem names_registerIn (ds : List Definition) (d : Definition) :
    (registerIn ds d).map Definition.name =
      if d.name ∈ ds.map Definition.name then ds.map Definition.name
      else ds.map Definition.name ++ [d.name] := by
  induction ds with
  | nil => rfl
  | cons e rest ih =>
    by_cases here : e.name = d.name
    · simp [registerIn, here]
    · have differ : d.name ≠ e.name := fun same => here same.symm
      simp only [registerIn, here, if_false, List.map_cons, ih, List.mem_cons, differ, false_or]
      split <;> rfl

theorem find?_registerIn (ds : List Definition) (d : Definition) (name : String) :
    ((registerIn ds d).find? fun e => e.name = name) =
      if d.name = name then some d else ds.find? fun e => e.name = name := by
  induction ds with
  | nil => by_cases same : d.name = name <;> simp [registerIn, same]
  | cons e rest ih =>
    by_cases here : e.name = d.name
    · by_cases same : d.name = name <;> simp [registerIn, here, same]
    · by_cases same : d.name = name
      · have other : e.name ≠ name := same ▸ here
        simp [registerIn, other, ih, same]
      · simp [registerIn, here, List.find?_cons, ih, same]

theorem Follows.register (h : r.Follows log) (d : Definition) :
    (r.register d).Follows (log ++ [d]) where
  names_eq := by
    have listed : d.name ∈ r.names ↔ d.name ∈ log.map Definition.name := by
      rw [h.names_eq, List.mem_eraseDups]
    rw [List.map_append, List.map_singleton, eraseDups_append_singleton, ← h.names_eq]
    simp only [← listed]
    exact names_registerIn r.definitions d
  find?_eq name := by
    have kept := h.find?_eq name
    rw [latest?_append, latest?_singleton, ← kept]
    refine (find?_registerIn r.definitions d name).trans ?_
    split <;> rfl

theorem Follows.registerAll (h : r.Follows log) (ds : List Definition) :
    (r.registerAll ds).Follows (log ++ ds) := by
  induction ds generalizing r log with
  | nil => rwa [List.append_nil]
  | cons d rest ih =>
    have step := ih (h.register d)
    rwa [List.append_assoc] at step

theorem empty_follows : empty.Follows [] := ⟨rfl, fun _ => rfl⟩

theorem builtin_eq_registerAll : builtin = empty.registerAll builtinDefinitions := by
  decide +kernel

theorem builtin_follows : builtin.Follows builtinDefinitions := by
  rw [builtin_eq_registerAll]
  exact empty_follows.registerAll builtinDefinitions

theorem Follows.nodup (h : r.Follows log) : r.names.Nodup := h.names_eq ▸ nodup_eraseDups _

theorem find?_name {ds : List Definition} (nodup : (ds.map Definition.name).Nodup)
    {d : Definition} (listed : d ∈ ds) : (ds.find? fun e => e.name = d.name) = some d := by
  induction ds with
  | nil => cases listed
  | cons e rest ih =>
    rw [List.map_cons, List.nodup_cons] at nodup
    rcases List.mem_cons.1 listed with rfl | later
    · simp
    · have differ : e.name ≠ d.name := fun same =>
        nodup.1 (same ▸ List.mem_map_of_mem later)
      simp [differ, ih nodup.2 later]

theorem Follows.latest?_name (h : r.Follows log) {d : Definition} (listed : d ∈ r.definitions) :
    latest? log d.name = some d := by
  rw [← h.find?_eq]
  exact find?_name h.nodup listed

theorem Follows.definitions (h : r.Follows log) :
    r.definitions = r.names.filterMap (latest? log) := by
  rw [Registry.names, List.filterMap_map]
  refine ((List.filterMap_congr fun d listed => ?_).trans List.filterMap_some).symm
  exact h.latest?_name listed

theorem Follows.unique (h : r.Follows log) (h' : r'.Follows log) : r = r' := by
  have same : r.definitions = r'.definitions := by
    rw [h.definitions, h'.definitions, h.names_eq, h'.names_eq]
  cases r
  cases r'
  exact congrArg Registry.mk same

theorem Follows.append_again {ds : List Definition} (h : r.Follows (log ++ ds)) :
    r.Follows (log ++ ds ++ ds) where
  names_eq := by
    have nothing : (ds.map Definition.name).removeAll ((log ++ ds).map Definition.name) = [] := by
      refine List.filter_eq_nil_iff.2 fun name listed => ?_
      simp [listed]
    rw [List.map_append, List.eraseDups_append, nothing, List.eraseDups_nil, List.append_nil,
      h.names_eq]
  find?_eq name := by
    rw [h.find?_eq, latest?_append (log ++ ds), latest?_append log]
    cases latest? ds name <;> rfl

theorem Follows.names_inCategory (h : r.Follows log) (c : Category) :
    (r.inCategory c).map Definition.name =
      r.names.filter fun name => (latest? log name).any fun d => d.category = c := by
  rw [Registry.names, List.filter_map, inCategory]
  congr 1
  refine List.filter_congr fun d listed => ?_
  simp [h.latest?_name listed]

theorem categories_eq (r : Registry) :
    r.categories = (r.definitions.map Definition.category).eraseDups := by
  have from_seen (ds : List Definition) (seen : List Category) :
      ds.foldl (fun seen d => if seen.contains d.category then seen else seen ++ [d.category])
        seen.eraseDups = (seen ++ ds.map Definition.category).eraseDups := by
    induction ds generalizing seen with
    | nil => rw [List.map_nil, List.append_nil, List.foldl_nil]
    | cons d rest ih =>
      have next : (if seen.eraseDups.contains d.category then seen.eraseDups
          else seen.eraseDups ++ [d.category]) = (seen ++ [d.category]).eraseDups := by
        rw [eraseDups_append_singleton]
        simp only [List.contains_iff_mem, List.mem_eraseDups]
      rw [List.foldl_cons, next, ih, List.append_assoc]
      rfl
  exact from_seen r.definitions []

theorem mem_categories_iff {c : Category} :
    c ∈ r.categories ↔ ∃ d ∈ r.definitions, d.category = c := by
  rw [categories_eq, List.mem_eraseDups, List.mem_map]

theorem byCategory_fst (r : Registry) : r.byCategory.map Prod.fst = r.categories := by
  rw [byCategory, List.map_map]
  exact List.map_id _

theorem inCategory_ne_nil {c : Category} (listed : c ∈ r.categories) : r.inCategory c ≠ [] := by
  obtain ⟨d, registered, category⟩ := mem_categories_iff.1 listed
  exact List.ne_nil_of_mem (List.mem_filter.2 ⟨registered, by simpa using category⟩)

theorem flatMap_inCategory_perm (r : Registry) {cs : List Category} (nodup : cs.Nodup) :
    (cs.flatMap r.inCategory).Perm (r.definitions.filter fun d => d.category ∈ cs) := by
  induction cs with
  | nil => simp
  | cons c rest ih =>
    rw [List.nodup_cons] at nodup
    let all := r.definitions.filter fun d => d.category ∈ c :: rest
    have here : r.inCategory c = all.filter fun d => d.category = c := by
      rw [List.filter_filter, inCategory]
      refine List.filter_congr fun d _ => ?_
      by_cases same : d.category = c <;> simp [same]
    have others : (r.definitions.filter fun d => d.category ∈ rest) =
        all.filter fun d => !decide (d.category = c) := by
      rw [List.filter_filter]
      refine List.filter_congr fun d _ => ?_
      by_cases same : d.category = c <;> simp [same, nodup.1]
    rw [List.flatMap_cons, here]
    exact ((ih nodup.2).append_left _).trans (others ▸ List.filter_append_perm _ all)

theorem byCategory_perm (r : Registry) : (r.byCategory.flatMap Prod.snd).Perm r.definitions := by
  have nodup : r.categories.Nodup := categories_eq r ▸ nodup_eraseDups _
  have all : (r.definitions.filter fun d => d.category ∈ r.categories) = r.definitions :=
    List.filter_eq_self.2 fun d listed => decide_eq_true (mem_categories_iff.2 ⟨d, listed, rfl⟩)
  have listed := flatMap_inCategory_perm r nodup
  rw [all] at listed
  rwa [byCategory, List.flatMap_map]

end Registry

namespace Session

/-- The registrations since the last clearing, after one more step. An alias needs a category, and
a source that has been registered; its implementation is the one that the source has so far. -/
def record (log : List Definition) : Step → List Definition
  | .clear => []
  | .registerAll => log ++ Registry.builtinDefinitions
  | .alias name description category source examples =>
    match Category.ofText? category, Registry.latest? log source with
    | some c, some d => log ++ [⟨name, description, c, d.implementation, examples⟩]
    | _, _ => log
  | _ => log

/-- The builtins are registered from the start. -/
def registrations (steps : List Step) : List Definition :=
  steps.foldl record Registry.builtinDefinitions

theorem registry_after (s : Session) (step : Step) :
    (s.after step).registry =
      match step with
      | .clear => Registry.empty
      | .registerAll => s.registry.registerAll Registry.builtinDefinitions
      | .alias name description category source examples =>
        match Category.ofText? category, s.registry.find? source with
        | some c, some d => s.registry.register ⟨name, description, c, d.implementation, examples⟩
        | _, _ => s.registry
      | _ => s.registry := by
  cases step with
  | «alias» name description category source examples =>
    simp only [after, step, findCategory, find]
    cases Category.ofText? category with
    | none => rfl
    | some c => cases s.registry.find? source <;> rfl
  | set i name tree mode =>
    simp only [after, step]
    cases s.evaluateIn i tree mode <;> rfl
  | get i name =>
    simp only [after, step]
    cases (s.scope i).get name <;> rfl
  | evaluate i tree mode =>
    simp only [after, step]
    cases s.evaluateIn i tree mode <;> rfl
  | lookup name =>
    simp only [after, step]
    cases s.find name <;> rfl
  | category name =>
    simp only [after, step]
    cases findCategory name <;> rfl
  | _ => rfl

theorem follows_after {s : Session} {log : List Definition} (h : s.registry.Follows log)
    (step : Step) : (s.after step).registry.Follows (record log step) := by
  rw [registry_after]
  cases step with
  | clear => exact Registry.empty_follows
  | registerAll => exact h.registerAll Registry.builtinDefinitions
  | «alias» name description category source examples =>
    simp only [record, h.find?_eq source]
    split
    · exact h.register _
    · exact h
  | _ => exact h

theorem follows_run (steps : List Step) : (run steps).registry.Follows (registrations steps) := by
  have from_any (s : Session) (log : List Definition) (h : s.registry.Follows log) :
      (steps.foldl after s).registry.Follows (steps.foldl record log) := by
    induction steps generalizing s log with
    | nil => exact h
    | cons step rest ih => exact ih _ _ (follows_after h step)
  exact from_any initial _ Registry.builtin_follows

theorem step_alias_eq_error_iff {s : Session} {log : List Definition} (h : s.registry.Follows log)
    (name description category source : String) (examples : List String) :
    (∃ r, s.step (.alias name description category source examples) = .error r) ↔
      Category.ofText? category = none ∨ Registry.latest? log source = none := by
  rw [← h.find?_eq source]
  simp only [step, findCategory, find]
  cases Category.ofText? category with
  | none => exact ⟨fun _ => .inl rfl, fun _ => ⟨_, rfl⟩⟩
  | some c =>
    cases s.registry.find? source with
    | none => exact ⟨fun _ => .inr rfl, fun _ => ⟨_, rfl⟩⟩
    | some d =>
      constructor
      · rintro ⟨r, failed⟩
        cases failed
      · rintro (unknown | unknown) <;> cases unknown

theorem after_of_step_eq_error {s : Session} {step : Step} {r : Refusal}
    (failed : s.step step = .error r) : s.after step = s := by
  rw [after, failed]

theorem after_registerAll_twice {s : Session} {log : List Definition} (h : s.registry.Follows log) :
    (s.after .registerAll).after .registerAll = s.after .registerAll := by
  have once := h.registerAll Registry.builtinDefinitions
  have same := (once.registerAll Registry.builtinDefinitions).unique once.append_again
  simp only [after, step, same]

/-- After every history the registry is what the registrations since the last clearing come to.
Names are listed once, as they were first registered; the definition of a name is its latest
one; the lists of a category and of all categories show these definitions in their order. -/
theorem registry_as_registered (steps : List Step) :
    let log := registrations steps
    let r := (run steps).registry
    (r.names = (log.map Definition.name).eraseDups ∧ r.names.Nodup) ∧
    (r.definitions = r.names.filterMap (Registry.latest? log) ∧
      ∀ name, r.find? name = Registry.latest? log name) ∧
    (∀ c, (r.inCategory c).map Definition.name =
      r.names.filter fun name => (Registry.latest? log name).any fun d => d.category = c) ∧
    (r.byCategory.map Prod.fst = (r.definitions.map Definition.category).eraseDups ∧
      (∀ g ∈ r.byCategory, g.2 ≠ [] ∧ g.2 = r.definitions.filter fun d => d.category = g.1) ∧
      (r.byCategory.flatMap Prod.snd).Perm r.definitions) ∧
    (∀ name description category source examples,
      let step := Step.alias name description category source examples
      ((∃ refusal, (run steps).step step = .error refusal) ↔
        Category.ofText? category = none ∨ Registry.latest? log source = none) ∧
      (∀ refusal, (run steps).step step = .error refusal → run (steps ++ [step]) = run steps)) ∧
    run (steps ++ [.registerAll, .registerAll]) = run (steps ++ [.registerAll]) ∧
    (run (steps ++ [.clear, .registerAll])).registry = initial.registry := by
  intro log r
  have follows : r.Follows log := follows_run steps
  refine ⟨⟨follows.names_eq, follows.nodup⟩, ⟨follows.definitions, follows.find?_eq⟩,
    follows.names_inCategory, ⟨?_, fun g listed => ?_, r.byCategory_perm⟩, ?_, ?_, ?_⟩
  · rw [r.byCategory_fst, r.categories_eq]
  · obtain ⟨c, category, rfl⟩ := List.mem_map.1 listed
    exact ⟨Registry.inCategory_ne_nil category, rfl⟩
  · intro name description category source examples step
    refine ⟨step_alias_eq_error_iff follows name description category source examples, ?_⟩
    intro refusal failed
    rw [run_append_singleton, after_of_step_eq_error failed]
  · have twice : steps ++ [.registerAll, .registerAll] =
        (steps ++ [.registerAll]) ++ [.registerAll] := by simp
    rw [twice, run_append_singleton, run_append_singleton, after_registerAll_twice follows]
  · exact (follows_run (steps ++ [.clear, .registerAll])).unique (by
      rw [registrations, List.foldl_append]
      exact Registry.builtin_follows)

/-- An alias of a function that is then replaced, in another category: the alias goes on working,
and an alias of an alias that was refused is refused. -/
theorem registry_as_registered_alias :
    let steps : List Step :=
      [.alias "root" "Square root" "algebraic" "sqrt" ["root 9"],
        .alias "sqrt" "Display base" "presentation" "base" [], .alias "x" "" "algebraic" "y" []]
    let root : Definition :=
      ⟨"root", "Square root", .algebraic, .named .sqrt, ["root 9"]⟩
    let step : Step := .alias "z" "" "algebraic" "x" []
    (run steps).registry.find? "root" = some root ∧
    (∃ g ∈ (run steps).registry.byCategory, root ∈ g.2 ∧
      g.2 = (run steps).registry.definitions.filter fun d => d.category = g.1) ∧
    (∃ refusal, (run steps).step step = .error refusal) ∧
    run (steps ++ [step]) = run steps := by
  intro steps root step
  obtain ⟨-, ⟨-, latest⟩, -, ⟨-, groups, -⟩, refused, -⟩ := registry_as_registered steps
  have group : (Category.algebraic, (run steps).registry.inCategory .algebraic) ∈
      (run steps).registry.byCategory := by decide +kernel
  have unknown : Registry.latest? (registrations steps) "x" = none := by decide +kernel
  obtain ⟨fails, unchanged⟩ := refused "z" "" "algebraic" "x" []
  obtain ⟨refusal, failed⟩ := fails.2 (.inr unknown)
  refine ⟨?_, ⟨_, group, by decide +kernel, (groups _ group).2⟩, ⟨refusal, failed⟩,
    unchanged refusal failed⟩
  rw [latest]
  decide +kernel

end Session
end Calculator
