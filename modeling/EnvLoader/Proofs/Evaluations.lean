import EnvLoader.Loader.Evaluation

/-! Taking the computations of loaders apart. One that comes to a value has come to values all the way
there, and one that comes to an error has met it at some step. -/
namespace EnvLoader.Evaluations
open Loader

variable {error : LoadError}

theorem bind_congr_of {α β : Type} {computation : Evaluation α} {first second : α → Evaluation β}
    (same : ∀ value, computation = pure value → first value = second value) :
    computation >>= first = computation >>= second := by
  rcases computation with _ | error | value
  · rfl
  · rfl
  · exact same value rfl

/-! ### Computations that come to a value -/

theorem bind_value {α β : Type} {computation : Evaluation α} {next : α → Evaluation β} {value : β}
    (comes : computation >>= next = pure value) :
    ∃ middle, computation = pure middle ∧ next middle = pure value := by
  rcases computation with _ | _ | middle
  · exact nomatch comes
  · exact nomatch comes
  · exact ⟨middle, rfl, comes⟩

theorem pure_value {α : Type} {first second : α} (same : (pure first : Evaluation α) = pure second) :
    first = second := by
  cases same
  rfl

theorem map_value {α β : Type} {computation : Evaluation α} {change : α → β} {result : β}
    (comes : change <$> computation = pure result) :
    ∃ middle, computation = pure middle ∧ change middle = result := by
  rcases computation with _ | _ | middle
  · exact nomatch comes
  · exact nomatch comes
  · exact ⟨middle, rfl, pure_value comes⟩

theorem ofOption_value {α : Type} {found : Option α} {result : α}
    (comes : Evaluation.ofOption found = pure result) : found = some result := by
  cases found with
  | none => exact nomatch comes
  | some other => rw [pure_value comes]

theorem mapM_value {ι α : Type} {items : List ι} {step : ι → Evaluation α} {values : List α}
    (comes : items.mapM step = pure values) : ∀ value ∈ values, ∃ item, step item = pure value := by
  induction items generalizing values with
  | nil =>
    cases pure_value comes
    exact nofun
  | cons item items ih =>
    rw [List.mapM_cons] at comes
    obtain ⟨first, isFirst, comes⟩ := bind_value comes
    obtain ⟨others, areOthers, comes⟩ := bind_value comes
    cases pure_value comes
    intro value listed
    rcases List.mem_cons.mp listed with rfl | listed
    · exact ⟨item, isFirst⟩
    · exact ih areOthers value listed

/-! ### Computations that fail -/

end EnvLoader.Evaluations
