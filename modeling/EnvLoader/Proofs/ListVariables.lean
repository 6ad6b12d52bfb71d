import EnvLoader.Proofs.ServerSettings
import EnvLoader.Proofs.TrimmedText
import Mathlib.Data.List.Forall2

/-! Variables that hold lists. A list is written as its items with commas between them, and there
may be white space around each and pieces of white space alone anywhere among them. Every text
writes down one list in this way, and the loader reads that one: item by item, up to the first that
cannot be converted. -/
namespace EnvLoader.ListVariables
open Outcomes SchemaNesting WrittenRecords BuiltinConverters ClosedOutput Evaluations DirectReading
open AssembledRun LoaderRuns ReadVariables LoadedRecords ServerSettings TrimmedText KeyNames
open KeyValue Loader Text

/-- An item of a list: it has characters, no comma among them, and white space at neither end. -/
structure IsItem (item : String) : Prop where
  filled : item ≠ ""
  whole : ',' ∉ item.toList
  bare : Bare item.toList

/-- Pieces list items: each is an item with white space around it, or white space alone. -/
inductive Lists : List (List Char) → List String → Prop
  | none : Lists [] []
  | blank {piece : List Char} {pieces : List (List Char)} {items : List String}
      (isBlank : Blank piece) (rest : Lists pieces items) : Lists (piece :: pieces) items
  | item {piece : List Char} {pieces : List (List Char)} {item : String} {items : List String}
      (isItem : IsItem item) (around : Around piece item.toList) (rest : Lists pieces items) :
      Lists (piece :: pieces) (item :: items)

/-- A text writes down a list: with commas between pieces that list its items. -/
def Writes (raw : String) (items : List String) : Prop :=
  ∃ pieces, raw.toList = [','].intercalate pieces ∧ Lists pieces items

/-- What converting items in order comes to: the list of their values, or the error of the first
item that cannot be converted. -/
inductive Converted (convert : String → Evaluation Value) (items : List String) :
    Evaluation Value → Prop
  | all {values : List Value}
      (each : List.Forall₂ (fun item value => convert item = pure value) items values) :
      Converted convert items (pure (.list values))
  | failed {front rest : List String} {item : String} {values : List Value} {error : LoadError}
      (split : items = front ++ item :: rest)
      (before : List.Forall₂ (fun item value => convert item = pure value) front values)
      (fails : convert item = throw error) : Converted convert items (throw error)

/-- A field is declared as a list of texts. -/
def DeclaresTexts (field : Field) (type : String) : Prop :=
  field.shape = .sequence type ∧ (type = "String" ∨ type = "std::string::String")

/-- A member of an implementation reads lists of texts: below whatever prefix its constructor is
called, it gives the list that its variable writes down. -/
def ReadsTexts (program : Program) (isRoot : Bool) (key : String) (value : ValueExpr) : Prop :=
  ∀ (scope : Scope) (raw : String) (items : List String), scope.parser? = program.parser? →
    scope.keyPrefix.isNone = isRoot →
    scope.environment.get? (fullKey scope.keyPrefix key) = some (.text raw) → Writes raw items →
    value.eval scope = pure (.list (items.map .text))

variable {raw item key name : String} {items : List String} {piece text : List Char}
  {pieces : List (List Char)}

/-! ### Pieces of a text -/

theorem splitAt_splitOn (separator : Char) (text : List Char) :
    splitAt separator text = text.splitOn separator := by
  induction text with
  | nil => simp [splitAt]
  | cons c rest ih =>
    rw [splitAt, List.splitOn_cons_eq_if_modifyHead, ih]
    by_cases same : c = separator
    · simp [same]
    · cases split : rest.splitOn separator with
      | nil => exact absurd split (List.splitOn_ne_nil _ _)
      | cons piece pieces => simp [same]

/-- The pieces of a text have no separator in them. -/
theorem splitAt_whole {separator : Char} (listed : piece ∈ splitAt separator text) :
    separator ∉ piece := by
  induction text generalizing piece with
  | nil => simp_all [splitAt]
  | cons c rest ih =>
    rw [splitAt] at listed
    by_cases same : c = separator
    · rw [if_pos same] at listed
      rcases List.mem_cons.mp listed with rfl | later
      · exact nofun
      · exact ih later
    · rw [if_neg same] at listed
      have apart : separator ≠ c := fun other => same other.symm
      cases split : splitAt separator rest with
      | nil =>
        rw [split] at listed
        simp_all
      | cons first pieces =>
        rw [split] at listed ih
        rcases List.mem_cons.mp listed with rfl | later
        · simpa [apart] using ih List.mem_cons_self
        · exact ih (List.mem_cons_of_mem _ later)

theorem blank_whole (blank : Blank piece) : ',' ∉ piece :=
  fun member => absurd (blank _ member) (by decide)

theorem around_whole (around : Around piece text) (whole : ',' ∉ text) : ',' ∉ piece := by
  obtain ⟨before, after, rfl, front, behind⟩ := around
  simp [blank_whole front, blank_whole behind, whole]

theorem lists_whole (lists : Lists pieces items) : ∀ piece ∈ pieces, ',' ∉ piece := by
  induction lists with
  | none => exact nofun
  | blank isBlank rest ih => exact List.forall_mem_cons.mpr ⟨blank_whole isBlank, ih⟩
  | item isItem around rest ih =>
    exact List.forall_mem_cons.mpr ⟨around_whole around isItem.whole, ih⟩

/-! ### The items of a text -/

/-- The items that are taken from pieces. -/
def itemsOf (pieces : List (List Char)) : List String :=
  ((pieces.map trim).filter (!·.isEmpty)).map String.ofList

theorem itemsOf_blank (blank : Blank piece) : itemsOf (piece :: pieces) = itemsOf pieces := by
  have trimmed : trim piece = [] := trim_around ⟨piece, [], by simp, blank, nofun⟩ bare_nil
  simp [itemsOf, trimmed]

theorem itemsOf_item (trimmed : trim piece = item.toList) (filled : item ≠ "") :
    itemsOf (piece :: pieces) = item :: itemsOf pieces := by
  have some : (!item.toList.isEmpty) = true := by simpa using filled
  simp [itemsOf, trimmed, some]

/-- Pieces that list items have just these. -/
theorem lists_items (lists : Lists pieces items) : itemsOf pieces = items := by
  induction lists with
  | none => rfl
  | blank isBlank rest ih => rw [itemsOf_blank isBlank, ih]
  | item isItem around rest ih =>
    rw [itemsOf_item (trim_around around isItem.bare) isItem.filled, ih]

/-- Pieces without commas list the items that are taken from them. -/
theorem pieces_list (whole : ∀ piece ∈ pieces, ',' ∉ piece) : Lists pieces (itemsOf pieces) := by
  induction pieces with
  | nil => exact .none
  | cons piece pieces ih =>
    obtain ⟨first, others⟩ := List.forall_mem_cons.mp whole
    obtain ⟨around, bare⟩ := trim_iff.mp (rfl : trim piece = _)
    by_cases empty : trim piece = []
    · obtain ⟨before, after, isPiece, front, behind⟩ := around
      have blank : Blank piece := by
        rw [isPiece, empty, List.append_nil]
        exact fun c member => (List.mem_append.mp member).elim (front c) (behind c)
      rw [itemsOf_blank blank]
      exact .blank blank (ih others)
    · have trimmed : trim piece = (String.ofList (trim piece)).toList := String.toList_ofList.symm
      have filled : String.ofList (trim piece) ≠ "" := by simpa using empty
      have inside : ',' ∉ trim piece := by
        obtain ⟨before, after, isPiece, -, -⟩ := around
        rw [isPiece] at first
        exact fun member => first (by simp [member])
      rw [itemsOf_item trimmed filled]
      rw [trimmed] at around bare inside
      exact .item ⟨filled, inside, bare⟩ around (ih others)

/-- A text writes down the list that is read from it, and no other. -/
theorem writes_iff : Writes raw items ↔ (listItems raw.toList).map String.ofList = items := by
  have read : (listItems raw.toList).map String.ofList = itemsOf (splitAt ',' raw.toList) := rfl
  rw [read]
  constructor
  · rintro ⟨pieces, isRaw, lists⟩
    rw [isRaw, splitAt_splitOn]
    by_cases some : pieces = []
    · subst some
      cases lists
      rfl
    · rw [List.splitOn_intercalate _ (lists_whole lists) some]
      exact lists_items lists
  · rintro rfl
    refine ⟨_, ?_, pieces_list fun piece => splitAt_whole⟩
    rw [splitAt_splitOn, List.intercalate_splitOn]

theorem lists_isItem (lists : Lists pieces items) : ∀ item ∈ items, IsItem item := by
  induction lists with
  | none => exact nofun
  | blank isBlank rest ih => exact ih
  | item isItem around rest ih => exact List.forall_mem_cons.mpr ⟨isItem, ih⟩

/-- The lists that are written down are those of items. -/
theorem written_items : (∃ raw, Writes raw items) ↔ ∀ item ∈ items, IsItem item := by
  constructor
  · rintro ⟨raw, pieces, -, lists⟩
    exact lists_isItem lists
  · intro each
    refine ⟨String.ofList ([','].intercalate (items.map String.toList)), _, String.toList_ofList, ?_⟩
    induction items with
    | nil => exact .none
    | cons item items ih =>
      obtain ⟨isItem, others⟩ := List.forall_mem_cons.mp each
      exact .item isItem ⟨[], [], by simp, nofun, nofun⟩ (ih others)

/-! ### Converted lists -/

section Converting
variable {convert : String → Evaluation Value}

theorem mapM_outcome (each : ∀ item, Answers (fun _ => True) (convert item))
    (items : List String) :
    (∃ values, items.mapM convert = pure values ∧
      List.Forall₂ (fun item value => convert item = pure value) items values) ∨
    ∃ front item rest values error, items.mapM convert = throw error ∧
      items = front ++ item :: rest ∧ convert item = throw error ∧
      List.Forall₂ (fun item value => convert item = pure value) front values := by
  induction items with
  | nil => exact .inl ⟨[], rfl, .nil⟩
  | cons item items ih =>
    rw [List.mapM_cons]
    obtain ⟨outcome, comes, -⟩ := each item
    cases outcome with
    | error error => exact .inr ⟨[], item, items, [], error, by rw [comes]; rfl, rfl, comes, .nil⟩
    | ok value =>
      have first : convert item = pure value := comes
      rw [first, pure_bind]
      rcases ih with ⟨values, all, converts⟩ | ⟨front, bad, rest, values, error, all, rfl, fails, before⟩
      · exact .inl ⟨value :: values, by rw [all]; rfl, .cons first converts⟩
      · exact .inr ⟨item :: front, bad, rest, value :: values, error, by rw [all]; rfl, rfl, fails,
          .cons first before⟩

/-- Items in order are converted up to the first that cannot be. -/
theorem mapM_converted (each : ∀ item, Answers (fun _ => True) (convert item))
    (items : List String) : Converted convert items (.list <$> items.mapM convert) := by
  rcases mapM_outcome each items with
      ⟨values, all, converts⟩ | ⟨front, item, rest, values, error, all, split, fails, before⟩
  · rw [all]
    exact .all converts
  · rw [all]
    exact .failed split before fails

end Converting

variable {schema : Schema} {config : Config} {assembly : Assembly} {field : Field} {type : String}
  {record : Record} {parser : ParserFn}

/-- The parser functions of a loader come from converters that are built in. -/
theorem parser_made (assembled : assemble schema config .builtin = .ok assembly)
    (declared : parser ∈ assembly.program.parsers) :
    ∃ request : ParserRequest, request.converter ∈ Converter.builtin ∧
      request.function request.name = .ok parser := by
  obtain ⟨start, expansion, after, completed, -, made, -⟩ := assemble_ok assembled
  obtain ⟨-, -, functions⟩ := program_ok made
  obtain ⟨known, made, -⟩ := parsers_made completed functions
  obtain ⟨request, asked, isParser, -⟩ := related_mem made.flip declared
  obtain ⟨_, _, -, -, leaf⟩ := (known request).mp asked
  exact ⟨request, leafRequest?_converter leaf, isParser⟩

/-- A text is converted by the items that it writes down. -/
theorem convertText_items {converter : Converter} (writes : Writes raw items) :
    convertText converter true key raw =
      .list <$> items.mapM (converter.conversion.apply converter.typeText key) := by
  unfold convertText
  rw [if_pos rfl, ← writes_iff.mp writes, List.mapM_map]
  rfl

/-- A parser function for lists converts the items that its variable writes down. -/
theorem parser_converted (assembled : assemble schema config .builtin = .ok assembly)
    (declared : parser ∈ assembly.program.parsers) (isList : parser.isList = true) (key : String)
    (writes : Writes raw items) :
    Converted (parser.conversion.apply parser.typeName key) items (parser.apply key raw) := by
  obtain ⟨request, builtin, made⟩ := parser_made assembled declared
  obtain ⟨isType, isConversion, sameList⟩ := parser_conversion builtin made
  rw [parser_converts builtin made, ← sameList, isList, convertText_items writes, isType,
    isConversion]
  exact mapM_converted (fun item => conversion_answers builtin) items

/-! ### Fields that hold lists of texts -/

variable {environment : Environment} {path : List String} {choice : Option String}
  {nested : List String → String → Evaluation Value}

theorem texts_flat (texts : DeclaresTexts field type) : nestedName? schema field = none := by
  unfold nestedName?
  rw [texts.1]

theorem texts_converter (texts : DeclaresTexts field type) :
    Converters.builtin.find? type = some .string := by
  rcases texts.2 with rfl | rfl <;> decide

/-- Items that are texts are kept as they are. -/
theorem texts_kept (writes : Writes raw items) :
    convertText .string true key raw = pure (.list (items.map .text)) := by
  have kept : items.mapM (Converter.string.conversion.apply Converter.string.typeText key) =
      pure (items.map Value.text) := by
    clear writes
    induction items with
    | nil => rfl
    | cons item items ih =>
      rw [List.mapM_cons, ih]
      rfl
  rw [convertText_items writes, kept]
  rfl

/-- A field for texts is read as the list that its variable writes down. -/
theorem readField_texts (texts : DeclaresTexts field type)
    (isSet : environment.get? (pathKey (path ++ [fieldKey field type])) = some (.text raw))
    (writes : Writes raw items) :
    readField schema environment nested path choice field = pure (.list (items.map .text)) := by
  have traits : field.shape.traits = .ok ⟨type, true, false, false⟩ := by
    rw [texts.1]
    rfl
  unfold readField
  rw [traits, texts_flat texts]
  simp only [texts_converter texts]
  unfold readLeaf
  simp only [isSet, held_plain, texts_kept writes]
  rfl

/-- The member of a field for texts reads lists of texts. -/
theorem entry_texts (assembled : assemble schema config .builtin = .ok assembly)
    (reachable : Reachable schema config.root name) (known : schema.get? name = some record)
    (declared : field ∈ record.fields) (texts : DeclaresTexts field type) :
    ∃ implementation ∈ assembly.program.implementations,
      Source.nameOfText? name = some implementation.record ∧
      ∃ entry ∈ entries implementation.constructor, fieldMember? field = some entry.1 ∧
        ReadsTexts assembly.program implementation.constructor.isRoot (fieldKey field type)
          entry.2 := by
  obtain ⟨start, expansion, after, completed, -, made, -⟩ := assemble_ok assembled
  obtain ⟨implementations, -, functions⟩ := program_ok made
  obtain ⟨plan, other, members, implementation, listed, -, -, sameKnown, wrote⟩ :=
    record_written completed reachable
  cases known.symm.trans sameKnown
  obtain ⟨entry, member, isEntry⟩ := entry_of_field wrote declared
  have named := wrote.name
  rw [get?_name known] at named
  refine ⟨implementation, implementations ▸ listed, named, entry, member, ?_, ?_⟩
  · obtain ⟨setting, analysed, made⟩ := isEntry
    exact memberName_analysed analysed (memberOf_ok.mp made).1
  · intro scope raw items isProgram rooted isSet writes
    -- A prefix is what some path makes it, so the member is read as its field below that path.
    obtain ⟨path, isPath⟩ : ∃ path, scope.keyPrefix = pathPrefix path := by
      cases scope.keyPrefix with
      | none => exact ⟨[], rfl⟩
      | some outer => exact ⟨[outer], by simp [pathPrefix, pathKey]⟩
    have serves : Serves schema scope.environment (fun _ _ => Evaluation.stuck) path [field] scope := by
      refine ⟨rfl, isPath, fun other listed request leaf => ?_, fun other listed name nests => ?_⟩
      · cases List.mem_singleton.mp listed
        rw [isProgram]
        exact parser_found completed functions
          ⟨name, field, reachable, ⟨record, known, declared⟩, leaf⟩
      · cases List.mem_singleton.mp listed
        cases (texts_flat texts).symm.trans (nestedName?_eq_some.mpr nests)
    rw [(constructor_record wrote).2, isPath, ← wrote.planned.isRoot] at rooted
    rw [isPath, fullKey_path] at isSet
    obtain ⟨-, reads⟩ := entry_reads isEntry (List.mem_singleton_self field) serves rooted.symm
      fun nests => absurd (texts_flat texts) nests
    rw [reads, readField_texts texts isSet writes]

/-! ### The methods that the server accepts -/

theorem asTexts_texts (items : List String) : asTexts? (.list (items.map .text)) = some items := by
  change (items.map Value.text).mapM asText? = some items
  induction items with
  | nil => rfl
  | cons item items ih =>
    rw [List.map_cons, List.mapM_cons, ih]
    rfl

/-- A loaded configuration accepts the methods that the variable writes down. -/
theorem methods_loaded {config : ServerConfig} (loads : ServerConfig.load environment = pure config)
    (isSet : environment.get? "ALLOWED_METHODS" = some (.text raw)) (writes : Writes raw items) :
    config.allowedMethods = items := by
  obtain ⟨assembly, _, assembled, -⟩ := config_assembled
  obtain ⟨record, field, known, distinct, found, other, shape, isKey⟩ : ∃ record field,
      configSchema.get? configRoot = some record ∧ (record.fields.map fieldMember?).Nodup ∧
      fieldOf? record "allowed_methods" = some field ∧ isSelecting field = false ∧
      field.shape = .sequence "String" ∧ fieldKey field "String" = "ALLOWED_METHODS" :=
    ⟨_, _, rfl, by decide, rfl, rfl, rfl, by decide⟩
  rw [load_read assembled] at loads
  obtain ⟨value, comes, decoded⟩ := bind_value loads
  have decoded := ofOption_value decoded
  rw [show configSchema.size = 3 + 1 from rfl, readRecord_known known] at comes
  obtain ⟨choice, readAs⟩ := readBody_value distinct comes
  have named : fieldMember? field = some (.name "allowed_methods") := by
    simpa using List.find?_some found
  obtain ⟨content, isContent, reads⟩ :=
    readAs.member field (List.mem_of_find?_eq_some found) _ named
  have texts : DeclaresTexts field "String" := ⟨shape, .inl rfl⟩
  have written : content = .list (items.map .text) := by
    unfold FieldReads at reads
    rw [readField_texts texts (by rw [isKey]; exact isSet) writes] at reads
    exact (pure_value reads).symm
  have taken : (member "allowed_methods" value >>= asTexts?) = some items := by
    rw [member, isContent, written]
    exact asTexts_texts items
  unfold ServerConfig.ofValue? at decoded
  rw [taken] at decoded
  obtain ⟨_, -, decoded⟩ := Option.bind_eq_some_iff.mp decoded
  obtain ⟨_, -, decoded⟩ := Option.bind_eq_some_iff.mp decoded
  obtain ⟨_, -, decoded⟩ := Option.bind_eq_some_iff.mp decoded
  obtain ⟨_, -, decoded⟩ := Option.bind_eq_some_iff.mp decoded
  obtain ⟨_, isMethods, decoded⟩ := Option.bind_eq_some_iff.mp decoded
  obtain ⟨_, -, decoded⟩ := Option.bind_eq_some_iff.mp decoded
  obtain ⟨_, -, decoded⟩ := Option.bind_eq_some_iff.mp decoded
  cases isMethods
  cases decoded
  rfl

/-! ### Lists as a whole -/

/-- Every text writes down one list, and the lists that are written down are those of items. A
parser function for lists converts the items in order, up to the first that cannot be converted. A
field for texts holds just the list that its variable writes down, as do the methods that the server
accepts. -/
theorem lists_settled :
    (∀ raw, ∃! items, Writes raw items) ∧
    (∀ items, (∃ raw, Writes raw items) ↔ ∀ item ∈ items, IsItem item) ∧
    (∀ schema config assembly, assemble schema config .builtin = .ok assembly →
      (∀ parser ∈ assembly.program.parsers, parser.isList = true →
        ∀ key raw items, Writes raw items →
          Converted (parser.conversion.apply parser.typeName key) items (parser.apply key raw)) ∧
      ∀ name record field type, Reachable schema config.root name →
        schema.get? name = some record → field ∈ record.fields → DeclaresTexts field type →
        ∃ implementation ∈ assembly.program.implementations,
          Source.nameOfText? name = some implementation.record ∧
          ∃ entry ∈ entries implementation.constructor, fieldMember? field = some entry.1 ∧
            ReadsTexts assembly.program implementation.constructor.isRoot (fieldKey field type)
              entry.2) ∧
    ∀ environment config raw items, ServerConfig.load environment = pure config →
      environment.get? "ALLOWED_METHODS" = some (.text raw) → Writes raw items →
      config.allowedMethods = items := by
  refine ⟨fun raw => ?_, fun items => written_items, fun schema config assembly assembled => ?_,
    fun environment config raw items loads isSet writes => methods_loaded loads isSet writes⟩
  · exact ⟨_, writes_iff.mpr rfl, fun other writes => (writes_iff.mp writes).symm⟩
  · exact ⟨fun parser declared isList key raw items writes =>
      parser_converted assembled declared isList key writes,
      fun name record field type reachable known declared texts =>
        entry_texts assembled reachable known declared texts⟩

/-- A small schema: a record with a list of numbers and a list of texts. -/
def portsAndNames : Schema where
  declarations := [
    ⟨⟨"Config", "", [⟨some "ports", 0, .sequence "u16", {}, ""⟩,
      ⟨some "names", 1, .sequence "String", {}, ""⟩]⟩, none⟩]

/-- Two lists are read from what is written down, and a list of numbers as far as its items are
numbers. -/
theorem portsAndNames_settled :
    (∃ assembly, assemble portsAndNames { root := "Config" } .builtin = .ok assembly ∧
      (∃ parser ∈ assembly.program.parsers, parser.isList = true ∧
        Converted (parser.conversion.apply parser.typeName "PORTS") ["80", "no", "0"]
          (parser.apply "PORTS" " 80,no ,, 0")) ∧
      ∃ implementation ∈ assembly.program.implementations,
        ∃ entry ∈ entries implementation.constructor,
          ReadsTexts assembly.program implementation.constructor.isRoot "NAMES" entry.2) ∧
    ∃ config, ServerConfig.load
        (.ofList [("DATA_STORE_KIND", .text "MEM"), ("ALLOWED_METHODS", .text ", GET ,")]) =
          pure config ∧ config.allowedMethods = ["GET"] := by
  have computed : ((assemble portsAndNames { root := "Config" } .builtin).toOption.map
      fun assembly => assembly.program.parsers.map (·.isList)) = some [true, true] := by
    decide +kernel
  obtain ⟨assembly, assembled, areLists⟩ := toOption_map.mp computed
  obtain ⟨parsers, texts⟩ := lists_settled.2.2.1 _ _ _ assembled
  obtain ⟨parser, declared, isList⟩ : ∃ parser ∈ assembly.program.parsers, parser.isList = true :=
    List.mem_map.mp (areLists ▸ List.mem_cons_self)
  have ports : Writes " 80,no ,, 0" ["80", "no", "0"] := writes_iff.mpr (by decide +kernel)
  obtain ⟨implementation, listed, -, entry, member, -, reads⟩ := texts "Config" _
    ⟨some "names", 1, .sequence "String", {}, ""⟩ "String" .refl rfl (by decide) ⟨rfl, .inl rfl⟩
  have isKey : fieldKey ⟨some "names", 1, .sequence "String", {}, ""⟩ "String" = "NAMES" := by
    decide +kernel
  rw [isKey] at reads
  obtain ⟨loader, _, loaded, -⟩ := config_assembled
  have loads : ServerConfig.load
      (.ofList [("DATA_STORE_KIND", .text "MEM"), ("ALLOWED_METHODS", .text ", GET ,")]) =
        pure ⟨"localhost", 3000, false, ⟨5, 0⟩, ["GET"], none, ⟨"MEM", some ⟨1024⟩, none⟩⟩ := by
    rw [load_read loaded]
    exact ChosenCandidate.value?_eq_some.mp (by decide +kernel)
  have methods : Writes ", GET ," ["GET"] := writes_iff.mpr (by decide +kernel)
  exact ⟨⟨assembly, assembled, ⟨parser, declared, isList, parsers _ declared isList _ _ _ ports⟩,
    implementation, listed, entry, member, reads⟩, _, loads,
    lists_settled.2.2.2 _ _ _ _ loads rfl methods⟩

end EnvLoader.ListVariables
