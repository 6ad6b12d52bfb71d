import Mathlib.Data.List.Forall2

/-! What a computation that may fail did on the way to a value, and which errors it can end
with. -/
namespace EnvLoader.Outcomes

variable {ε α β ι : Type}

theorem bind_ok {result : Except ε α} {next : α → Except ε β} {value : β} :
    (result >>= next) = .ok value ↔ ∃ middle, result = .ok middle ∧ next middle = .ok value := by
  cases result with
  | error error => exact ⟨nofun, fun ⟨_, impossible, _⟩ => nomatch impossible⟩
  | ok middle =>
    exact ⟨fun ran => ⟨middle, rfl, ran⟩, fun ⟨_, same, ran⟩ => by cases same; exact ran⟩

theorem pure_ok {first second : α} : (pure first : Except ε α) = .ok second ↔ first = second :=
  Except.ok.injEq first second ▸ Iff.rfl

theorem mapError_ok {σ : Type} {tell : ε → σ} {result : Except ε α} {value : α} :
    result.mapError tell = .ok value ↔ result = .ok value := by
  cases result <;> simp [Except.mapError]

theorem mapError_error {σ : Type} {tell : ε → σ} {result : Except ε α} {error : σ} :
    result.mapError tell = .error error ↔ ∃ fault, result = .error fault ∧ tell fault = error := by
  cases result <;> simp [Except.mapError]

theorem map_ok {result : Except ε α} {change : α → β} {value : β} :
    result.map change = .ok value ↔ ∃ middle, result = .ok middle ∧ change middle = value := by
  cases result <;> simp [Except.map]

/-- Results that look alike are the same error, or values that look alike. -/
theorem map_alike {view : α → ι} {shown : β → ι} {first : Except ε α} {second : Except ε β}
    (alike : first.map view = second.map shown) :
    (∃ error, first = .error error ∧ second = .error error) ∨
      ∃ one another, first = .ok one ∧ second = .ok another ∧ view one = shown another := by
  cases first with
  | error error =>
    cases second with
    | error other =>
      cases alike
      exact .inl ⟨error, rfl, rfl⟩
    | ok another => exact nomatch alike
  | ok one =>
    cases second with
    | error other => exact nomatch alike
    | ok another => exact .inr ⟨one, another, rfl, rfl, Except.ok.inj alike⟩

theorem toOption_some {result : Except ε α} {value : α} :
    result.toOption = some value ↔ result = .ok value := by
  cases result <;> simp [Except.toOption]

theorem toOption_map {result : Except ε α} {part : α → β} {seen : β} :
    result.toOption.map part = some seen ↔ ∃ value, result = .ok value ∧ part value = seen := by
  simp only [Option.map_eq_some_iff, toOption_some]

/-- A list of computations succeeds with the values of each of them. -/
theorem mapM_ok {items : List ι} {step : ι → Except ε α} {values : List α} :
    items.mapM step = .ok values ↔
      List.Forall₂ (fun item value => step item = .ok value) items values := by
  induction items generalizing values with
  | nil => rw [List.mapM_nil, pure_ok, List.forall₂_nil_left_iff, eq_comm]
  | cons item items ih =>
    simp only [List.mapM_cons, bind_ok, pure_ok, ih, List.forall₂_cons_left_iff]
    exact ⟨fun ⟨value, ran, rest, others, same⟩ => ⟨value, rest, ran, others, same.symm⟩,
      fun ⟨value, rest, ran, others, same⟩ => ⟨value, ran, rest, others, same.symm⟩⟩

/-- Whatever stands in the first of two related lists is related to something in the second. -/
theorem related_mem {Related : α → β → Prop} {firsts : List α} {seconds : List β} {first : α}
    (related : List.Forall₂ Related firsts seconds) (member : first ∈ firsts) :
    ∃ second ∈ seconds, Related first second := by
  induction related with
  | nil => exact nomatch member
  | cons one _ ih =>
    rcases List.mem_cons.mp member with rfl | member
    · exact ⟨_, by simp, one⟩
    · obtain ⟨second, found, relates⟩ := ih member
      exact ⟨second, List.mem_cons_of_mem _ found, relates⟩

/-- Related lists have what is the same of related things in common. -/
theorem related_map {Related : α → β → Prop} {firsts : List α} {seconds : List β} {seen : α → ι}
    {shown : β → ι} (related : List.Forall₂ Related firsts seconds)
    (same : ∀ first second, Related first second → seen first = shown second) :
    firsts.map seen = seconds.map shown := by
  rw [← List.forall₂_eq_eq_eq, List.forall₂_map_left_iff, List.forall₂_map_right_iff]
  exact related.imp same

/-- Where related things answer a test alike, the first ones that pass it are related. -/
theorem related_find? {Related : α → β → Prop} {firsts : List α} {seconds : List β}
    {passes : α → Bool} {fits : β → Bool} (related : List.Forall₂ Related firsts seconds)
    (same : ∀ first second, Related first second → passes first = fits second) :
    (firsts.find? passes = none ∧ seconds.find? fits = none) ∨
      ∃ first second, firsts.find? passes = some first ∧ seconds.find? fits = some second ∧
        Related first second := by
  induction related with
  | nil => exact .inl ⟨rfl, rfl⟩
  | @cons first second _ _ one _ ih =>
    have alike := same first second one
    rw [List.find?_cons, List.find?_cons, ← alike]
    cases passes first with
    | true => exact .inr ⟨first, second, rfl, rfl, one⟩
    | false => exact ih

/-- Relations between three lists, one after the other. -/
theorem related_trans {First : α → β → Prop} {Second : β → ι → Prop} {firsts : List α}
    {seconds : List β} {thirds : List ι} (first : List.Forall₂ First firsts seconds)
    (second : List.Forall₂ Second seconds thirds) :
    List.Forall₂ (fun one other => ∃ middle, First one middle ∧ Second middle other) firsts thirds := by
  induction first generalizing thirds with
  | nil =>
    cases second
    exact .nil
  | cons one _ ih =>
    cases second with
    | cons next rest => exact .cons ⟨_, one, next⟩ (ih rest)

/-- A fold that succeeds keeps what each of its steps keeps. The steps are said of the items
that were folded before. -/
theorem foldlM_ok {step : α → ι → Except ε α} {Holds : List ι → α → Prop} {items : List ι}
    {start final : α} (begins : Holds [] start)
    (keeps : ∀ before item value next, Holds before value → step value item = .ok next →
      Holds (before ++ [item]) next)
    (ran : items.foldlM step start = .ok final) : Holds items final := by
  suffices fold : ∀ (before : List ι) value, Holds before value →
      items.foldlM step value = .ok final → Holds (before ++ items) final from
    fold [] start begins ran
  clear ran
  induction items with
  | nil =>
    intro before value holds ran
    rw [List.foldlM_nil, pure_ok] at ran
    simpa [← ran] using holds
  | cons item items ih =>
    intro before value holds ran
    rw [List.foldlM_cons] at ran
    obtain ⟨next, stepped, rest⟩ := bind_ok.mp ran
    simpa using ih (before ++ [item]) next (keeps before item value next holds stepped) rest

theorem mapM_congr {first second : ι → Except ε α} {items : List ι}
    (same : ∀ item ∈ items, first item = second item) : items.mapM first = items.mapM second := by
  induction items with
  | nil => rfl
  | cons item items ih =>
    rw [List.mapM_cons, List.mapM_cons, same item (by simp),
      ih fun other member => same other (List.mem_cons_of_mem _ member)]

theorem foldlM_congr {first second : α → ι → Except ε α} {items : List ι} {start : α}
    (same : ∀ item ∈ items, ∀ value, first value item = second value item) :
    items.foldlM first start = items.foldlM second start := by
  induction items generalizing start with
  | nil => rfl
  | cons item items ih =>
    rw [List.foldlM_cons, List.foldlM_cons, same item (by simp)]
    congr 1
    funext value
    exact ih fun other member => same other (List.mem_cons_of_mem _ member)

/-- A computation fails with certain errors only. -/
def FailsWith (Allowed : ε → Prop) (result : Except ε α) : Prop :=
  ∀ error, result = .error error → Allowed error

section Errors
variable {Allowed : ε → Prop}

theorem failsWith_ok (value : α) : FailsWith Allowed (.ok value) := nofun

theorem failsWith_error {error : ε} (allowed : Allowed error) :
    FailsWith Allowed (.error error : Except ε α) := by
  rintro _ ⟨⟩
  exact allowed

theorem failsWith_bind {result : Except ε α} {next : α → Except ε β}
    (first : FailsWith Allowed result)
    (rest : ∀ value, result = .ok value → FailsWith Allowed (next value)) :
    FailsWith Allowed (result >>= next) := by
  cases result with
  | error error => exact failsWith_error (first error rfl)
  | ok value => exact rest value rfl

theorem failsWith_mapM {items : List ι} {step : ι → Except ε α}
    (each : ∀ item ∈ items, FailsWith Allowed (step item)) :
    FailsWith Allowed (items.mapM step) := by
  induction items with
  | nil => exact failsWith_ok _
  | cons item items ih =>
    have rest := ih fun other member => each other (List.mem_cons_of_mem _ member)
    rw [List.mapM_cons]
    exact failsWith_bind (each item (by simp))
      (fun _ _ => failsWith_bind rest (fun _ _ => failsWith_ok _))

theorem failsWith_foldlM {items : List ι} {step : α → ι → Except ε α} {start : α}
    (each : ∀ item ∈ items, ∀ value, FailsWith Allowed (step value item)) :
    FailsWith Allowed (items.foldlM step start) := by
  induction items generalizing start with
  | nil => exact failsWith_ok _
  | cons item items ih =>
    rw [List.foldlM_cons]
    exact failsWith_bind (each item (by simp) start)
      (fun _ _ => ih fun other member => each other (List.mem_cons_of_mem _ member))

theorem failsWith_weaken {Wider : ε → Prop} {result : Except ε α}
    (wider : ∀ error, Allowed error → Wider error) (fails : FailsWith Allowed result) :
    FailsWith Wider result :=
  fun error stops => wider error (fails error stops)

end Errors
end EnvLoader.Outcomes
