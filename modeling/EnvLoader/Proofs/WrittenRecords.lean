import EnvLoader.Proofs.ExpansionRun

/-! What is written for a record, said of its fields. Every field has one member, and its
value either calls a parser function or builds the record that the field nests. -/
namespace EnvLoader.WrittenRecords
open Outcomes RecordWriting SchemaNesting ExpansionRun Source Loader

/-- The member that a field is read into. -/
def fieldMember? (field : Field) : Option MemberName :=
  match field.name with
  | some name => (nameOfText? name).map .name
  | none => some (.position field.index)

/-- The parser function for a field that is read from a single variable: its converter, whether
it reads a list, and whether the variable has to be set. -/
def leafRequest? (schema : Schema) (converters : Converters) (field : Field) :
    Option ParserRequest :=
  match field.shape.traits with
  | .ok traits =>
    if traits.mayNest && schema.contains traits.type then none
    else (converters.find? traits.type).map fun converter =>
      ⟨converter, traits.isList, !traits.isOptional && field.options.default.isNone⟩
  | .error _ => none

/-- The members of a constructor with their values, the selector's last. -/
def entries (constructor : Constructor) : List (MemberName × ValueExpr) :=
  constructor.members ++ constructor.selector.toList

/-- A member with its value is written for a field. -/
def EntryOf (schema : Schema) (converters : Converters) (plan : RecordPlan) (guards : Bool)
    (field : Field) (entry : MemberName × ValueExpr) : Prop :=
  ∃ setting, Analysed schema converters guards field setting ∧
    memberOf converters plan setting = .ok entry

/-- What is written for a record. -/
structure WrittenFor (schema : Schema) (converters : Converters) (record : Record) (isRoot : Bool)
    (plan : RecordPlan) (implementation : Implementation) (members : List (MemberName × ValueExpr)) :
    Prop where
  planned : PlanOf schema converters record isRoot plan
  name : nameOfText? record.name = some implementation.record
  each : List.Forall₂ (EntryOf schema converters plan (record.fields.any isSelecting))
    record.fields members
  constructor : implementation.constructor = constructorOf plan members
  dispatcher : dispatcherOf plan = .ok implementation.dispatcher

variable {schema : Schema} {converters : Converters} {root name : String} {plan : RecordPlan}
  {implementation : Implementation} {record : Record} {field : Field} {setting : Setting}
  {guards isRoot : Bool} {members : List (MemberName × ValueExpr)} {entry : MemberName × ValueExpr}
  {value : ValueExpr} {member : MemberName} {part : CodePart} {text : String}

theorem nameFor_ok : nameFor part text = .ok name ↔ nameOfText? text = some name := by
  unfold nameFor
  cases nameOfText? text with
  | none => exact ⟨nofun, nofun⟩
  | some found => rw [pure_ok, Option.some.injEq]

/-- What is written for an analysed record is written for its fields. -/
theorem wrote_record (analysed : RecordPlan.ofRecord record isRoot schema converters = .ok plan)
    (implemented : implementationOf converters plan = .ok implementation) :
    ∃ members, WrittenFor schema converters record isRoot plan implementation members := by
  have planned := ofRecord_ok analysed
  obtain ⟨ident, named, rest⟩ := bind_ok.mp implemented
  obtain ⟨members, valued, rest⟩ := bind_ok.mp rest
  obtain ⟨dispatcher, dispatched, made⟩ := bind_ok.mp rest
  cases pure_ok.mp made
  exact ⟨members, planned, planned.name ▸ nameFor_ok.mp named,
    related_trans planned.settings (mapM_ok.mp valued), rfl, dispatched⟩

/-- Written code is written for its record. -/
theorem written_for (ready : written schema converters root name = .ok (plan, implementation)) :
    ∃ record members, schema.get? name = some record ∧
      WrittenFor schema converters record (name == root) plan implementation members := by
  obtain ⟨record, known, analysed, implemented⟩ := written_ok.mp ready
  obtain ⟨members, wrote⟩ := wrote_record analysed implemented
  exact ⟨record, members, known, wrote⟩

/-! ### Single fields -/

theorem request?_analysed (analysed : Analysed schema converters guards field setting) :
    request? converters setting = leafRequest? schema converters field := by
  obtain ⟨traits, shape, rfl, -⟩ := analysed
  simp only [leafRequest?, shape, request?, settingOf]
  rfl

theorem memberName_analysed (analysed : Analysed schema converters guards field setting)
    (named : setting.memberName = .ok member) : fieldMember? field = some member := by
  obtain ⟨traits, -, rfl, -⟩ := analysed
  unfold Setting.memberName settingOf at named
  unfold fieldMember?
  cases declared : field.name with
  | none =>
    simp only [declared, pure_ok] at named ⊢
    rw [named]
  | some name =>
    simp only [declared] at named ⊢
    obtain ⟨ident, isIdent, made⟩ := bind_ok.mp named
    cases pure_ok.mp made
    rw [nameFor_ok.mp isIdent]
    rfl

/-- The value of a setting calls the parser function that the setting asks for, or builds the
record that it nests. -/
theorem valueOf_ok (valued : valueOf converters name isRoot setting = .ok value) :
    (setting.isNested = true ∧ ∃ ident, nameOfText? setting.type = some ident ∧
      value = nestedValue setting isRoot ident) ∨
    ∃ request parser, request? converters setting = some request ∧
      nameOfText? request.name = some parser ∧ value = calledValue setting isRoot parser := by
  unfold valueOf at valued
  cases nested : setting.isNested with
  | true =>
    simp only [nested, ↓reduceIte] at valued
    obtain ⟨ident, named, made⟩ := bind_ok.mp valued
    exact .inl ⟨rfl, ident, nameFor_ok.mp named, (pure_ok.mp made).symm⟩
  | false =>
    simp only [nested, Bool.false_eq_true, ↓reduceIte] at valued
    cases found : converters.find? setting.type with
    | none =>
      rw [found] at valued
      exact nomatch valued
    | some converter =>
      rw [found] at valued
      obtain ⟨parser, named, made⟩ := bind_ok.mp valued
      refine .inr ⟨requestOf setting converter, parser, ?_, nameFor_ok.mp named,
        (pure_ok.mp made).symm⟩
      simp [request?, nested, found]

theorem memberOf_ok : memberOf converters plan setting = .ok entry ↔
    setting.memberName = .ok entry.1 ∧
      valueOf converters plan.name plan.isRoot setting = .ok entry.2 := by
  simp only [memberOf, bind_ok, pure_ok]
  constructor
  · rintro ⟨_, named, _, valued, rfl⟩
    exact ⟨named, valued⟩
  · rintro ⟨named, valued⟩
    exact ⟨_, named, _, valued, rfl⟩

theorem analysed_unique {other : Setting} (one : Analysed schema converters guards field setting)
    (second : Analysed schema converters guards field other) : setting = other := by
  obtain ⟨traits, shape, rfl, -⟩ := one
  obtain ⟨_, same, rfl, -⟩ := second
  cases shape.symm.trans same
  rfl

/-- A constructor has the members of all fields. -/
theorem mem_entries (planned : PlanOf schema converters record isRoot plan)
    (length : record.fields.length = members.length) :
    entry ∈ entries (constructorOf plan members) ↔ entry ∈ members := by
  unfold entries constructorOf
  rw [planned.selector]
  cases found : record.fields.findIdx? isSelecting with
  | none => simp
  | some index =>
    obtain ⟨inside, -⟩ := List.findIdx?_eq_some_iff_getElem.mp found
    have bound : index < members.length := length ▸ inside
    simp only [Option.bind_some, List.getElem?_eq_getElem bound, Option.toList_some,
      List.mem_append, List.mem_singleton, List.mem_eraseIdx_iff_getElem]
    constructor
    · rintro (⟨other, _, _, rfl⟩ | rfl)
      · exact List.getElem_mem _
      · exact List.getElem_mem _
    · intro listed
      obtain ⟨other, within, rfl⟩ := List.getElem_of_mem listed
      by_cases same : other = index
      · subst same
        exact .inr rfl
      · exact .inl ⟨other, within, same, rfl⟩

private theorem eraseP_filter {α : Type} {p : α → Bool} {items : List α}
    (single : (items.filter p).length ≤ 1) : items.eraseP p = items.filter (!p ·) := by
  induction items with
  | nil => rfl
  | cons item items ih =>
    cases holds : p item with
    | true =>
      rw [List.filter_cons_of_pos holds, List.length_cons] at single
      have rest : items.filter p = [] := List.eq_nil_of_length_eq_zero (by omega)
      rw [List.eraseP_cons_of_pos holds, List.filter_cons_of_neg (by simp [holds]), eq_comm,
        List.filter_eq_self]
      simpa using List.filter_eq_nil_iff.mp rest
    | false =>
      rw [List.filter_cons_of_neg (by simp [holds])] at single
      rw [List.eraseP_cons_of_neg (by simp [holds]), List.filter_cons_of_pos (by simp [holds]),
        ih single]

private theorem eraseIdx_related {α β : Type} {Related : α → β → Prop} {firsts : List α}
    {seconds : List β} (related : List.Forall₂ Related firsts seconds) (index : Nat) :
    List.Forall₂ Related (firsts.eraseIdx index) (seconds.eraseIdx index) := by
  induction related generalizing index with
  | nil => exact .nil
  | cons one rest ih =>
    cases index with
    | zero => exact rest
    | succ index => exact .cons one (ih index)

/-- A constructor has the member of the selector apart from the others, which are in the order of
their fields. -/
theorem split_members {Related : Field → MemberName × ValueExpr → Prop}
    (planned : PlanOf schema converters record isRoot plan)
    (each : List.Forall₂ Related record.fields members) :
    Option.Rel Related (record.fields.find? isSelecting) (constructorOf plan members).selector ∧
      List.Forall₂ Related (record.fields.filter (!isSelecting ·))
        (constructorOf plan members).members := by
  rw [← eraseP_filter planned.single, List.eraseP_eq_eraseIdx,
    List.find?_eq_bind_findIdx?_getElem?]
  unfold constructorOf
  dsimp only
  rw [planned.selector]
  cases found : record.fields.findIdx? isSelecting with
  | none => exact ⟨.none, each⟩
  | some index =>
    obtain ⟨inside, -⟩ := List.findIdx?_eq_some_iff_getElem.mp found
    have bound : index < members.length := each.length_eq ▸ inside
    refine ⟨?_, eraseIdx_related each index⟩
    simp only [Option.bind_some, List.getElem?_eq_getElem inside, List.getElem?_eq_getElem bound]
    exact .some (each.get inside bound)

/-- A constructor reads the selector of its record and, apart from it, the other fields in their
order. -/
theorem constructor_fields
    (wrote : WrittenFor schema converters record isRoot plan implementation members) :
    Option.Rel (EntryOf schema converters plan (record.fields.any isSelecting))
        (record.fields.find? isSelecting) implementation.constructor.selector ∧
      List.Forall₂ (EntryOf schema converters plan (record.fields.any isSelecting))
        (record.fields.filter (!isSelecting ·)) implementation.constructor.members := by
  rw [wrote.constructor]
  exact split_members wrote.planned wrote.each

/-- A plan has a selector, and the constructor its member, if a field of the record selects. -/
theorem selector_entry
    (wrote : WrittenFor schema converters record isRoot plan implementation members) :
    (record.fields.any isSelecting = false ∧ plan.selector? = none ∧
      implementation.constructor.selector = none) ∨
    ∃ field setting entry, field ∈ record.fields ∧ isSelecting field = true ∧
      Analysed schema converters (record.fields.any isSelecting) field setting ∧
      memberOf converters plan setting = .ok entry ∧ plan.selector? = some setting ∧
      implementation.constructor.selector = some entry := by
  have selects := selector_setting wrote.planned
  have reads := (constructor_fields wrote).1
  revert selects reads
  generalize plan.selector? = selector, implementation.constructor.selector = read
  cases found : record.fields.find? isSelecting with
  | none =>
    rintro ⟨⟩ ⟨⟩
    exact .inl ⟨by simpa using List.find?_eq_none.mp found, rfl, rfl⟩
  | some field =>
    rintro ⟨analysed⟩ ⟨_, analysedToo, made⟩
    cases analysed_unique analysed analysedToo
    exact .inr ⟨field, _, _, List.mem_of_find?_eq_some found, List.find?_some found, analysed, made,
      rfl, rfl⟩

end EnvLoader.WrittenRecords
