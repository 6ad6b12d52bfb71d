import EnvLoader.Proofs.ExpansionRun

/-! What a run has asked for in the end. A registry keeps what was asked for first under each
name; the requests themselves can be read off the plans. -/
namespace EnvLoader.Requests
open RecordWriting ExpansionRun

/-- A registry holds requests: each of its names once and with something that was asked for
under it, and all names that were asked for. -/
structure Registered {α : Type} (asked : List (String × α)) (registry : Registry α) : Prop where
  distinct : registry.names.Nodup
  known : ∀ entry ∈ registry.entries, entry ∈ asked
  names : ∀ entry ∈ asked, entry.1 ∈ registry.names

section Registries
variable {α : Type} {registry : Registry α} {asked more : List (String × α)} {name : String}
  {value : α}

theorem registered_empty : Registered ([] : List (String × α)) {} := ⟨.nil, nofun, nofun⟩

/-- One more request is kept under its name, or something else is already. -/
theorem registered_add (registered : Registered asked registry) :
    Registered (asked ++ [(name, value)]) (registry.add name value) := by
  unfold Registry.add
  split
  · rename_i known
    refine ⟨registered.distinct, fun entry member =>
      List.mem_append_left _ (registered.known entry member), fun entry member => ?_⟩
    rcases List.mem_append.mp member with member | member
    · exact registered.names entry member
    · rw [List.mem_singleton.mp member]
      simpa [Registry.contains, Registry.names] using known
  · rename_i unknown
    have new : name ∉ registry.names := by
      simpa [Registry.contains, Registry.names] using unknown
    refine ⟨?_, fun entry member => ?_, fun entry member => ?_⟩
    · simp only [Registry.names, List.map_append, List.map_cons, List.map_nil]
      exact List.nodup_append.mpr ⟨registered.distinct, by simp, by
        intro first known second last same
        exact new (List.mem_singleton.mp last ▸ same ▸ known)⟩
    · rcases List.mem_append.mp member with member | member
      · exact List.mem_append_left _ (registered.known entry member)
      · exact List.mem_append_right _ member
    · simp only [Registry.names, List.map_append, List.mem_append]
      rcases List.mem_append.mp member with member | member
      · exact .inl (registered.names entry member)
      · exact .inr (List.mem_map_of_mem member)

theorem registered_fold (registered : Registered asked registry) :
    Registered (asked ++ more)
      (more.foldl (fun registry entry => registry.add entry.1 entry.2) registry) := by
  induction more generalizing asked registry with
  | nil => simpa using registered
  | cons entry more ih => simpa using ih (registered_add registered)

/-- What is kept is a request under its own name. -/
theorem registered_keyed {key : α → String} {requests : List α}
    (registered : Registered (requests.map fun request => (key request, request)) registry) :
    ∀ entry ∈ registry.entries, entry.1 = key entry.2 ∧ entry.2 ∈ requests := by
  intro entry kept
  obtain ⟨request, asked, rfl⟩ := List.mem_map.mp (registered.known entry kept)
  exact ⟨rfl, asked⟩

/-- Where names tell the requests apart, exactly these are kept. -/
theorem mem_registered {key : α → String} {requests : List α}
    (registered : Registered (requests.map fun request => (key request, request)) registry)
    (apart : ∀ first ∈ requests, ∀ second ∈ requests, key first = key second → first = second) :
    value ∈ registry.values ↔ value ∈ requests := by
  constructor
  · intro member
    obtain ⟨entry, kept, rfl⟩ := List.mem_map.mp member
    exact (registered_keyed registered entry kept).2
  · intro asked
    obtain ⟨entry, member, same⟩ := List.mem_map.mp
      (registered.names (key value, value) (List.mem_map_of_mem asked))
    obtain ⟨isKey, requested⟩ := registered_keyed registered entry member
    rw [apart value asked entry.2 requested (same.symm.trans isKey)]
    exact List.mem_map_of_mem member

end Registries

/-! ### The requests of plans -/

/-- The parser functions that a plan asks for. -/
def requested (converters : Converters) (plan : RecordPlan) : List ParserRequest :=
  plan.settings.filterMap (request? converters)

/-- The variants that a parser function needs. -/
def needed (request : ParserRequest) : List ErrorVariant :=
  request.converter.errors ++ .notUnicode :: if request.isRequired then [.keyNotFound] else []

/-- The variants that a plan asks for. -/
def neededBy (converters : Converters) (plan : RecordPlan) : List ErrorVariant :=
  (requested converters plan).flatMap needed ++
    if (selection? plan).isSome then [.invalidChoice, .build] else []

variable {converters : Converters} {session : Session} {plan : RecordPlan}

private theorem askFor_parsers (setting : Setting) :
    (askFor converters session setting).parsers =
      (request? converters setting).toList.foldl Parsers.require session.parsers := by
  unfold askFor
  cases request? converters setting <;> rfl

private theorem askFor_errors (setting : Setting) :
    (askFor converters session setting).errors =
      ((request? converters setting).toList.flatMap needed).foldl ErrorVariants.require
        session.errors := by
  unfold askFor
  cases request? converters setting with
  | none => rfl
  | some request =>
    simp only [Option.toList_some, List.flatMap_singleton, needed, List.foldl_append, ask]
    cases request.isRequired <;> rfl

private theorem settings_parsers (settings : List Setting) :
    (settings.foldl (askFor converters) session).parsers =
      (settings.filterMap (request? converters)).foldl Parsers.require session.parsers := by
  induction settings generalizing session with
  | nil => rfl
  | cons setting settings ih =>
    rw [List.foldl_cons, ih, askFor_parsers, List.filterMap_cons]
    cases request? converters setting <;> rfl

private theorem settings_errors (settings : List Setting) :
    (settings.foldl (askFor converters) session).errors =
      ((settings.filterMap (request? converters)).flatMap needed).foldl ErrorVariants.require
        session.errors := by
  induction settings generalizing session with
  | nil => rfl
  | cons setting settings ih =>
    rw [List.foldl_cons, ih, askFor_errors, List.filterMap_cons]
    cases request? converters setting with
    | none => rfl
    | some request => simp

theorem askAll_parsers (plans : List RecordPlan) : (askAll converters plans session).parsers =
    (plans.flatMap (requested converters)).foldl Parsers.require session.parsers := by
  induction plans generalizing session with
  | nil => rfl
  | cons plan plans ih =>
    have one : (askForPlan converters plan session).parsers =
        (requested converters plan).foldl Parsers.require session.parsers := by
      rw [requested, ← settings_parsers]
      unfold askForPlan
      cases (selection? plan).isSome <;> rfl
    rw [List.flatMap_cons, List.foldl_append, ← one]
    exact ih

theorem askAll_errors (plans : List RecordPlan) : (askAll converters plans session).errors =
    (plans.flatMap (neededBy converters)).foldl ErrorVariants.require session.errors := by
  induction plans generalizing session with
  | nil => rfl
  | cons plan plans ih =>
    have one : (askForPlan converters plan session).errors =
        (neededBy converters plan).foldl ErrorVariants.require session.errors := by
      rw [neededBy, List.foldl_append, requested, ← settings_errors]
      unfold askForPlan
      cases (selection? plan).isSome <;> rfl
    rw [List.flatMap_cons, List.foldl_append, ← one]
    exact ih

end EnvLoader.Requests
