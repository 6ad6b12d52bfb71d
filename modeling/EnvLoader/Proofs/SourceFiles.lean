import EnvLoader.Command.Run
import EnvLoader.Proofs.FileChanges

/-! What a run does to the files it reads. It writes to the places that two paths lead to, the
one of the loader and the one of the example, and changes nothing else. A source is left out if
its path is the one of the loader, and paths are compared part by part. So a source is safe
from a loader whose path is spelled as the paths of the sources are; from one that is spelled in
another way it is not. -/
namespace EnvLoader.SourceFiles
open Files Command FileChanges Outcomes

variable {tree after : Tree} {location : Location} {path text directory : String}

/-! ### Names at the end of paths -/

theorem splitAt_free {separator : Char} {piece : List Char} (free : separator ∉ piece) :
    Text.splitAt separator piece = [piece] := by
  induction piece with
  | nil => rfl
  | cons c rest ih =>
    have apart : c ≠ separator := fun same => free (by simp [same])
    have inner := ih fun member => free (List.mem_cons_of_mem _ member)
    rw [Text.splitAt, if_neg apart, inner]

/-- What ends a text without a separator ends the last piece. -/
theorem splitAt_suffix {separator : Char} {suffix : List Char} (free : separator ∉ suffix)
    (front : List Char) : ∃ pieces piece,
      Text.splitAt separator (front ++ suffix) = pieces ++ [piece ++ suffix] := by
  induction front with
  | nil => exact ⟨[], [], splitAt_free free⟩
  | cons c rest ih =>
    obtain ⟨pieces, piece, split⟩ := ih
    rw [List.cons_append, Text.splitAt, split]
    by_cases same : c = separator
    · exact ⟨[] :: pieces, piece, by simp [same]⟩
    · cases pieces with
      | nil => exact ⟨[], c :: piece, by simp [same]⟩
      | cons first pieces => exact ⟨(c :: first) :: pieces, piece, by simp [same]⟩

/-- A name at the end of the parts is the name of the path. -/
theorem fileName?_concat {parts : List PathPart} {name : String}
    (ends : pathParts path = parts ++ [.name name]) : fileName? path = some name := by
  have last : (components path).getLast? = some (.name name) := by
    rw [components, ends]
    cases parts with
    | nil => rfl
    | cons first rest =>
      have kept : (rest ++ [PathPart.name name]).filter (· ≠ .here) =
          rest.filter (· ≠ .here) ++ [.name name] := by
        simp
      show (first :: (rest ++ [PathPart.name name]).filter (· ≠ .here)).getLast? = _
      rw [kept, ← List.cons_append, List.getLast?_concat]
  rw [fileName?, last]

/-- The name of a path ends as the path does, as far as no slash is in it. -/
theorem fileName?_suffix {front suffix : List Char} (shape : path.toList = front ++ suffix)
    (free : '/' ∉ suffix) (long : 2 < suffix.length) :
    ∃ name, fileName? path = some name ∧ suffix <:+ name.toList := by
  obtain ⟨pieces, piece, split⟩ := splitAt_suffix free front
  have size : 2 < (piece ++ suffix).length := by
    rw [List.length_append]
    omega
  have part : PathPart.ofPiece? (piece ++ suffix) =
      some (.name (String.ofList (piece ++ suffix))) := by
    have nonempty : piece ++ suffix ≠ [] := fun same => by simp [same] at size
    have noDot : piece ++ suffix ≠ ['.'] := fun same => by simp [same] at size
    have noDots : piece ++ suffix ≠ ['.', '.'] := fun same => by simp [same] at size
    rw [PathPart.ofPiece?, if_neg nonempty, if_neg noDot, if_neg noDots]
  have noSlash : endsInSlash path = false := by
    have inner : path.toList.getLast? = suffix.getLast? := by
      have nonempty : suffix ≠ [] := fun same => by simp [same] at long
      rw [shape, List.getLast?_append_of_ne_nil _ nonempty]
    rw [endsInSlash, inner, decide_eq_false_iff_not]
    exact fun slash => free (List.mem_of_getLast? slash)
  have parts : pathParts path =
      ((if isAbsolute path then [.root] else []) ++ pieces.filterMap PathPart.ofPiece?) ++
        [.name (String.ofList (piece ++ suffix))] := by
    rw [pathParts, noSlash, shape, split, List.filterMap_append]
    simp [part]
  exact ⟨_, fileName?_concat parts, piece, by simp⟩

theorem joinPath_suffix (directory path : String) :
    ∃ front, (joinPath directory path).toList = front ++ path.toList := by
  unfold joinPath
  split
  · exact ⟨directory.toList, by simp⟩
  · exact ⟨directory.toList ++ ['/'], by simp⟩

/-! ### What is written -/

/-- A path lands where a file is written to it. -/
def Lands (tree : Tree) (path : String) (location : Location) : Prop :=
  ∃ name directory place, fileName? path = some name ∧
    tree.openDirectory (outputDirectory path) = .ok directory ∧
    Leads tree (some directory) maxLinks directory [.name name] place ∧
    (place = .vacant location ∨ ∃ content, place = .file location content)

theorem lands_writable (lands : Lands tree path location) : Writable tree location := by
  obtain ⟨name, directory, place, -, -, way, lies⟩ := lands
  have found := leads_found way
  intro entry there
  rcases lies with rfl | ⟨content, rfl⟩
  · have nothing : tree.entry? location = none := found
    exact nomatch nothing.symm.trans there
  · have isFile : tree.entry? location = some (.file content) := found
    exact ⟨content, Option.some.inj (there.symm.trans isFile)⟩

theorem asDirectory_ok {place : Place} :
    place.asDirectory = .ok location ↔ place = .directory location := by
  cases place with
  | directory => simp [Place.asDirectory, pure_ok]
  | file => exact ⟨nofun, nofun⟩
  | vacant => exact ⟨nofun, nofun⟩

theorem openDirectory_ok : tree.openDirectory path = .ok location ↔
    tree.find path = .ok (.directory location) := by
  rw [Tree.openDirectory, bind_ok]
  simp only [asDirectory_ok]
  exact ⟨fun ⟨place, found, same⟩ => same ▸ found, fun found => ⟨_, found, rfl⟩⟩

/-- Writing a file puts it where its path lands. -/
theorem writeFile_ok (wrote : writeFile tree path text = .ok after) :
    ∃ location, Lands tree path location ∧ after = tree.put location (.file (.text text)) := by
  unfold writeFile at wrote
  cases named : fileName? path with
  | none =>
    rw [named] at wrote
    exact nomatch wrote
  | some name =>
    simp only [named] at wrote
    obtain ⟨directory, opened, wrote⟩ := bind_ok.mp wrote
    have wrote := mapError_ok.mp wrote
    unfold Tree.writeWithin at wrote
    split at wrote
    · exact nomatch wrote
    · obtain ⟨-, -, wrote⟩ := bind_ok.mp wrote
      obtain ⟨place, walked, wrote⟩ := bind_ok.mp wrote
      have way := walk_ok.mp walked
      have opened := mapError_ok.mp opened
      cases place with
      | directory => exact nomatch wrote
      | file location content =>
        exact ⟨location, ⟨name, directory, _, named, opened, way, .inr ⟨content, rfl⟩⟩,
          (pure_ok.mp wrote).symm⟩
      | vacant location =>
        exact ⟨location, ⟨name, directory, _, named, opened, way, .inl rfl⟩,
          (pure_ok.mp wrote).symm⟩

theorem holding_directory {written other : Location} {content : Bytes} {place : Place} :
    holding written content place = .directory other ↔ place = .directory other := by
  cases place with
  | directory => rfl
  | file => simp [holding]
  | vacant free =>
    by_cases same : free = written <;> simp [holding, same]

/-- A place where a file can be written stays one, and no other place becomes one. -/
theorem holding_lands {written : Location} {content : Bytes} {place : Place} :
    (holding written content place = .vacant location ∨
        ∃ now, holding written content place = .file location now) ↔
      (place = .vacant location ∨ ∃ old, place = .file location old) := by
  cases place with
  | directory => simp [holding]
  | file => simp [holding]
  | vacant free =>
    by_cases same : free = written <;> simp [holding, same]

/-- A path that lands somewhere once a file was written landed there before. -/
theorem lands_of_put {written : Location} {content : Bytes} (writable : Writable tree written)
    (lands : Lands (tree.put written (.file content)) path location) : Lands tree path location := by
  obtain ⟨name, directory, _, named, opened, way, lies⟩ := lands
  obtain ⟨parts, usable, outer⟩ := find_ok.mp (openDirectory_ok.mp opened)
  obtain ⟨parent, outer, same⟩ := leads_of_put writable outer
  cases holding_directory.mp same.symm
  obtain ⟨before, inner, rfl⟩ := leads_of_put writable way
  have opens : tree.openDirectory (outputDirectory path) = .ok directory :=
    openDirectory_ok.mpr (find_ok.mpr ⟨parts, usable, outer⟩)
  exact ⟨name, directory, before, named, opens, inner, holding_lands.mp lies⟩

/-- Writing a file leaves the directories. -/
theorem openDirectory_put {written : Location} (content : Bytes) (writable : Writable tree written)
    (opened : tree.openDirectory path = .ok location) :
    (tree.put written (.file content)).openDirectory path = .ok location := by
  obtain ⟨parts, usable, way⟩ := find_ok.mp (openDirectory_ok.mp opened)
  exact openDirectory_ok.mpr (find_ok.mpr ⟨parts, usable, leads_put writable way⟩)

/-- Writing a file leaves the places where paths land. -/
theorem lands_put {written : Location} (content : Bytes) (writable : Writable tree written)
    (lands : Lands tree path location) : Lands (tree.put written (.file content)) path location := by
  obtain ⟨name, directory, place, named, opened, way, lies⟩ := lands
  exact ⟨name, directory, _, named, openDirectory_put content writable opened,
    leads_put writable way, holding_lands.mpr lies⟩

/-- Where a path lands, a file can be written. -/
theorem writeFile_lands (text : String) (lands : Lands tree path location)
    (clean : ∀ name, fileName? path = some name → name.toList.contains '\x00' = false) :
    writeFile tree path text = .ok (tree.put location (.file (.text text))) := by
  obtain ⟨name, directory, place, named, opened, way, lies⟩ := lands
  have written : tree.writeWithin directory name text =
      .ok (tree.put location (.file (.text text))) := by
    unfold Tree.writeWithin
    rw [clean name named, walk_ok.mpr way]
    rcases lies with rfl | ⟨old, rfl⟩ <;> rfl
  have opened : (tree.openDirectory (outputDirectory path)).mapError
      (RunError.file (outputDirectory path)) = .ok directory := mapError_ok.mpr opened
  simp only [writeFile, named]
  exact bind_ok.mpr ⟨directory, opened, mapError_ok.mpr written⟩

theorem contentAt?_put {written : Location} {content : Bytes} (writable : Writable tree written)
    (apart : location ≠ written) :
    (tree.put written (.file content)).contentAt? location = tree.contentAt? location := by
  rw [Tree.contentAt?, entry?_put (writable_inside writable), if_neg apart]
  rfl

/-- What is planned changes nothing but the places where its paths land. -/
theorem write_keeps {plan : Plan} {exampleFile : Option String} {outcome : Outcome}
    (wrote : plan.write exampleFile tree = (.ok outcome, after)) :
    outcome = ⟨plan.output, exampleFile, plan.generated.records⟩ ∧
      ∀ location, ¬ Lands tree plan.output location →
        (∀ path, exampleFile = some path → ¬ Lands tree path location) →
        after.contentAt? location = tree.contentAt? location := by
  unfold Plan.write at wrote
  cases first : writeFile tree plan.output plan.generated.source with
  | error error =>
    simp only [first] at wrote
    exact nomatch congrArg Prod.fst wrote
  | ok between =>
    obtain ⟨written, lands, rfl⟩ := writeFile_ok first
    have writable := lands_writable lands
    cases exampleFile with
    | none =>
      simp only [first, Prod.mk.injEq, Except.ok.injEq] at wrote
      obtain ⟨rfl, rfl⟩ := wrote
      refine ⟨rfl, fun location clear _ => contentAt?_put writable ?_⟩
      rintro rfl
      exact clear lands
    | some path =>
      simp only [first] at wrote
      cases second : writeFile (tree.put written (.file (.text plan.generated.source))) path
          plan.generated.exampleText with
      | error error =>
        simp only [second] at wrote
        exact nomatch congrArg Prod.fst wrote
      | ok last =>
        obtain ⟨other, alsoLands, rfl⟩ := writeFile_ok second
        simp only [second, Prod.mk.injEq, Except.ok.injEq] at wrote
        obtain ⟨rfl, rfl⟩ := wrote
        refine ⟨rfl, fun location clear clearToo => ?_⟩
        have apart : location ≠ written := by
          rintro rfl
          exact clear lands
        have apartToo : location ≠ other := by
          rintro rfl
          exact clearToo path rfl (lands_of_put writable alsoLands)
        rw [contentAt?_put (lands_writable alsoLands) apartToo, contentAt?_put writable apart]

/-! ### What is read -/

variable {output : Option String} {arguments : Arguments}

theorem sourceNames_ok {names : List Bytes} {sources : List String}
    (ran : sourceNames directory output names = .ok sources) :
    ∀ name ∈ sources, isSource directory output name = true := by
  obtain ⟨texts, -, ran⟩ := bind_ok.mp ran
  split at ran
  · exact nomatch ran
  · cases pure_ok.mp ran
    intro name member
    exact (List.mem_filter.mp (List.mem_mergeSort.mp member)).2

/-- Each source is a file of the directory, and comes with its content. -/
theorem findSources_ok {sources : List (String × Bytes)}
    (ran : findSources arguments tree = .ok sources) :
    ∃ location names, tree.openDirectory arguments.directory = .ok location ∧
      sourceNames arguments.directory arguments.file ((tree.filesIn location).map (·.1)) =
        .ok names ∧
      List.Forall₂ (fun name source => source.1 = joinPath arguments.directory name ∧
        tree.contentAt? (location ++ [.text name]) = some source.2) names sources := by
  obtain ⟨location, opened, ran⟩ := bind_ok.mp ran
  obtain ⟨names, listed, ran⟩ := bind_ok.mp ran
  refine ⟨location, names, mapError_ok.mp opened, listed, (mapM_ok.mp ran).imp ?_⟩
  intro name source read
  split at read
  · rename_i content held
    cases read
    exact ⟨rfl, held⟩
  · exact nomatch read

/-- A run with a plan writes what is planned. -/
theorem run_planned {sources : List (String × Bytes)} {plan : Plan}
    (found : findSources arguments tree = .ok sources) (planned : planRun arguments sources = .ok plan) :
    run arguments tree = plan.write arguments.exampleFile tree := by
  have both : findSources arguments tree >>= planRun arguments = .ok plan :=
    bind_ok.mpr ⟨sources, found, planned⟩
  simp only [run, both]

/-- The loader goes to the path that was given for it, else it is named after a source. -/
theorem planRun_ok {sources : List (String × Bytes)} {plan : Plan}
    (ran : planRun arguments sources = .ok plan) :
    (∀ file, arguments.file = some file → plan.output = file) ∧
      (arguments.file = none →
        ∃ origin stem, plan.output = withFileName origin (stem ++ generatedSuffix)) := by
  obtain ⟨schema, -, ran⟩ := bind_ok.mp ran
  by_cases known : schema.contains arguments.config = true
  · rw [known] at ran
    cases made : generate schema (arguments.toConfig (schema.origin? arguments.config)) .builtin with
    | error error =>
      cases given : arguments.file with
      | some file =>
        simp only [given, made] at ran
        cases ran
      | none =>
        simp only [given, made] at ran
        obtain ⟨output, -, ran⟩ := bind_ok.mp ran
        cases ran
    | ok generated =>
      cases given : arguments.file with
      | some file =>
        simp only [given, made] at ran
        cases ran
        exact ⟨fun _ same => Option.some.inj same, nofun⟩
      | none =>
        simp only [given, made] at ran
        obtain ⟨output, chosen, ran⟩ := bind_ok.mp ran
        cases ran
        simp only [defaultOutput] at chosen
        split at chosen
        · rename_i origin stem found
          exact ⟨nofun, fun _ => ⟨origin, stem, (pure_ok.mp chosen).symm⟩⟩
        · cases chosen
  · simp only [Bool.not_eq_true] at known
    rw [known] at ran
    cases ran

/-! ### Runs -/

/-- Writing to a path overwrites a file of a directory. -/
def Overwrites (tree : Tree) (path directory name : String) : Prop :=
  ∃ location, tree.openDirectory directory = .ok location ∧
    Lands tree path (location ++ [.text name]) ∧
    (tree.contentAt? (location ++ [.text name])).isSome = true

/-- A path lands under its own name, so it is no link to something else. -/
def OwnName (tree : Tree) (path : String) : Prop :=
  ∀ location, Lands tree path location → location.getLast? = (fileName? path).map Bytes.text

/-- Where there are no links, every path lands under its own name. -/
theorem ownName_of_plain (plain : ∀ location target, tree.entry? location ≠ some (.link target))
    (path : String) : OwnName tree path := by
  rintro location ⟨name, directory, place, named, -, way, lies⟩
  have reached : place = .directory (directory ++ [.text name]) ∨
      location = directory ++ [.text name] := by
    cases way with
    | vacant =>
      rcases lies with same | ⟨_, same⟩
      · cases same
        exact .inr rfl
      · exact nomatch same
    | file =>
      rcases lies with same | ⟨_, same⟩
      · exact nomatch same
      · cases same
        exact .inr rfl
    | directory _ _ way =>
      cases way
      exact .inl rfl
    | link _ entry => exact absurd entry (plain _ _)
  rcases reached with rfl | rfl
  · rcases lies with same | ⟨_, same⟩ <;> exact nomatch same
  · rw [named, List.getLast?_concat]
    rfl

theorem endsWith_iff {suffix : String} :
    text.endsWith suffix = true ↔ suffix.toList <:+ text.toList := by
  rw [String.endsWith, String.Slice.endsWith_string_iff, String.copy_toSlice]

/-- A path that ends as generated files do has a name that does. -/
theorem generated_name {name : String} (ends : path.endsWith generatedSuffix = true)
    (named : fileName? path = some name) : name.endsWith generatedSuffix = true := by
  obtain ⟨front, shape⟩ := endsWith_iff.mp ends
  obtain ⟨found, same, suffix⟩ := fileName?_suffix shape.symm (by decide) (by decide)
  cases Option.some.inj (same.symm.trans named)
  exact endsWith_iff.mpr suffix

/-- The path of a loader beside a source ends as generated files do. -/
theorem beside_generated (origin stem : String) :
    (withFileName origin (stem ++ generatedSuffix)).endsWith generatedSuffix = true := by
  obtain ⟨front, shape⟩ := joinPath_suffix ((parent? origin).getD origin) (stem ++ generatedSuffix)
  refine endsWith_iff.mpr ⟨front ++ stem.toList, ?_⟩
  rw [withFileName, shape, String.toList_append, List.append_assoc]

/-- The name of a loader beside a source is no name of a source. -/
theorem beside_isSource {origin stem name : String} {output : Option String}
    (named : fileName? (withFileName origin (stem ++ generatedSuffix)) = some name) :
    isSource directory output name = false := by
  simp [isSource, generated_name (beside_generated origin stem) named]

/-- The loader does not land on a source. -/
theorem loader_clear {sources : List (String × Bytes)} {plan : Plan} {name : String}
    (planned : planRun arguments sources = .ok plan)
    (ownName : arguments.file = none → OwnName tree plan.output)
    (spelled : ∀ file, arguments.file = some file →
      Lands tree file (location ++ [.text name]) →
      samePath (joinPath arguments.directory name) file = true)
    (counts : isSource arguments.directory arguments.file name = true) :
    ¬ Lands tree plan.output (location ++ [.text name]) := by
  intro lands
  obtain ⟨named, beside⟩ := planRun_ok planned
  cases given : arguments.file with
  | some file =>
    -- a source spelled as the loader is was left out
    rw [named file given] at lands
    have same := spelled file given lands
    simp [isSource, given, same] at counts
  | none =>
    -- the name of the loader is none of a source
    obtain ⟨origin, stem, output⟩ := beside given
    have last := ownName given _ lands
    rw [List.getLast?_concat] at last
    cases named : fileName? plan.output with
    | none => simp [named] at last
    | some own =>
      have same : name = own := by simpa [named] using last
      rw [output] at named
      rw [same, beside_isSource named] at counts
      exact nomatch counts

/-- A run that succeeds leaves every source it read as it was, as long as its paths keep clear
of them: a loader beside the source of the root is not written through a link, a given path for
the loader that overwrites a file among the sources is spelled as the path of that file is, and
the example does not overwrite a source. -/
theorem sources_kept {outcome : Outcome} (ran : run arguments tree = (.ok outcome, after))
    (ownName : arguments.file = none → OwnName tree outcome.output)
    (spelled : ∀ file name, arguments.file = some file →
      Overwrites tree file arguments.directory name →
      samePath (joinPath arguments.directory name) file = true)
    (clear : ∀ path name, arguments.exampleFile = some path →
      Overwrites tree path arguments.directory name →
      isSource arguments.directory arguments.file name = false) :
    ∃ location names sources, tree.openDirectory arguments.directory = .ok location ∧
      sourceNames arguments.directory arguments.file ((tree.filesIn location).map (·.1)) =
        .ok names ∧
      findSources arguments tree = .ok sources ∧
      List.Forall₂ (fun name source => source.1 = joinPath arguments.directory name ∧
        tree.contentAt? (location ++ [.text name]) = some source.2 ∧
        after.contentAt? (location ++ [.text name]) = some source.2) names sources := by
  unfold run at ran
  cases planned : findSources arguments tree >>= planRun arguments with
  | error error =>
    simp only [planned] at ran
    exact nomatch congrArg Prod.fst ran
  | ok plan =>
    simp only [planned] at ran
    obtain ⟨sources, found, planned⟩ := bind_ok.mp planned
    obtain ⟨location, names, opened, listed, read⟩ := findSources_ok found
    obtain ⟨rfl, keeps⟩ := write_keeps ran
    have listedAs := sourceNames_ok listed
    refine ⟨location, names, sources, opened, listed, found, ?_⟩
    refine ((List.forall₂_and_left names sources).mpr ⟨listedAs, read⟩).imp ?_
    intro name source ⟨counts, path, held⟩
    have there : (tree.contentAt? (location ++ [.text name])).isSome = true := by
      rw [held]
      rfl
    have clearOfLoader : ¬ Lands tree plan.output (location ++ [.text name]) :=
      loader_clear planned ownName
        (fun file given lands => spelled file name given ⟨location, opened, lands, there⟩) counts
    have clearOfExample : ∀ path, arguments.exampleFile = some path →
        ¬ Lands tree path (location ++ [.text name]) := by
      intro path given lands
      rw [clear path name given ⟨location, opened, lands, there⟩] at counts
      exact nomatch counts
    have same := keeps _ clearOfLoader clearOfExample
    exact ⟨path, held, same.trans held⟩

/-- A directory with a single source. -/
def oneSource : Tree where
  entries := .ofList [([.text "a.rs"], .file (.text "pub struct Config;"))]

theorem oneSource_entry {location : Location} {entry : Entry}
    (found : oneSource.entry? location = some entry) :
    location = [] ∧ entry = .directory ∨
      location = [.text "a.rs"] ∧ entry = .file (.text "pub struct Config;") := by
  unfold Tree.entry? at found
  split at found
  · exact .inl ⟨‹_›, (Option.some.inj found).symm⟩
  · rw [oneSource, Bindings.ofList, List.foldl_cons, List.foldl_nil, get?_put] at found
    split at found
    · exact .inr ⟨‹_›, (Option.some.inj found).symm⟩
    · cases found

theorem oneSource_plain (location : Location) (target : String) :
    oneSource.entry? location ≠ some (.link target) := by
  intro found
  rcases oneSource_entry found with ⟨-, same⟩ | ⟨-, same⟩ <;> exact nomatch same

theorem oneSource_opened : oneSource.openDirectory "." = .ok [] := by
  have parts : pathParts "." = [.here] := by decide
  have usable : usableParts "." = .ok [.here] := by
    rw [usableParts, if_neg (by decide), if_neg (by decide), if_neg (by decide), parts]
    rfl
  exact openDirectory_ok.mpr (find_ok.mpr ⟨_, usable, .here .done⟩)

/-- The source is found if it counts as one. -/
theorem oneSource_found (arguments : Arguments) (inside : arguments.directory = ".")
    (counts : isSource "." arguments.file "a.rs" = true) :
    findSources arguments oneSource = .ok [("./a.rs", .text "pub struct Config;")] := by
  have files : (oneSource.filesIn []).map (·.1) = [.text "a.rs"] := by decide
  have names : sourceNames "." arguments.file [.text "a.rs"] = .ok ["a.rs"] := by
    have kept : ["a.rs"].filter (isSource "." arguments.file) = ["a.rs"] := by simp [counts]
    refine bind_ok.mpr ⟨["a.rs"], mapM_ok.mpr (.cons rfl .nil), ?_⟩
    rw [kept, List.mergeSort_singleton]
    rfl
  have path : joinPath "." "a.rs" = "./a.rs" := by decide
  unfold findSources
  rw [inside]
  refine bind_ok.mpr ⟨[], mapError_ok.mpr oneSource_opened, ?_⟩
  rw [files]
  refine bind_ok.mpr ⟨["a.rs"], names, mapM_ok.mpr (.cons ?_ .nil)⟩
  rw [path]
  rfl

/-- What is written next to the source lands there. -/
theorem oneSource_lands {path name : String} (named : fileName? path = some name)
    (outer : outputDirectory path = ".") (short : ¬ name.utf8ByteSize > maxNameSize) :
    Lands oneSource path [.text name] := by
  have opened := oneSource_opened
  cases there : oneSource.entry? [.text name] with
  | none => exact ⟨name, [], _, named, outer ▸ opened, .vacant short there, .inl rfl⟩
  | some entry =>
    rcases oneSource_entry there with ⟨impossible, -⟩ | ⟨-, rfl⟩
    · exact nomatch impossible
    · exact ⟨name, [], _, named, outer ▸ opened, .file short there, .inr ⟨_, rfl⟩⟩

/-- A run with a loader beside the source and an example next to it. -/
theorem oneSource_kept : ∃ outcome after location names sources,
    run { config := "Config", exampleFile := some ".env" } oneSource = (.ok outcome, after) ∧
      oneSource.openDirectory "." = .ok location ∧
      sourceNames "." none ((oneSource.filesIn location).map (·.1)) = .ok names ∧
      findSources { config := "Config", exampleFile := some ".env" } oneSource = .ok sources ∧
      List.Forall₂ (fun name source => source.1 = joinPath "." name ∧
        oneSource.contentAt? (location ++ [.text name]) = some source.2 ∧
        after.contentAt? (location ++ [.text name]) = some source.2) names sources := by
  let arguments : Arguments := { config := "Config", exampleFile := some ".env" }
  have plain : ∀ location target, oneSource.entry? location ≠ some (.link target) := by
    intro location target found
    rcases oneSource_entry found with ⟨-, same⟩ | ⟨-, same⟩ <;> exact nomatch same
  have found := oneSource_found arguments rfl (by decide +kernel)
  have outputs : (planRun arguments [("./a.rs", .text "pub struct Config;")]).toOption.map
      (·.output) = some "./a_gen.rs" := by
    decide +kernel
  obtain ⟨plan, planned, output⟩ := toOption_map.mp outputs
  have loader : Lands oneSource plan.output [.text "a_gen.rs"] := by
    rw [output]
    exact oneSource_lands (by decide +kernel) (by decide +kernel) (by decide)
  have other : Lands oneSource ".env" [.text ".env"] :=
    oneSource_lands (by decide +kernel) (by decide +kernel) (by decide)
  have first := writeFile_lands plan.generated.source loader
    (by rw [output, show fileName? "./a_gen.rs" = some "a_gen.rs" by decide +kernel]; simp)
  have second := writeFile_lands plan.generated.exampleText
    (lands_put (.text plan.generated.source) (lands_writable loader) other)
    (by rw [show fileName? ".env" = some ".env" by decide +kernel]; simp)
  have wrote : plan.write arguments.exampleFile oneSource =
      (.ok ⟨plan.output, some ".env", plan.generated.records⟩,
        (oneSource.put [.text "a_gen.rs"] (.file (.text plan.generated.source))).put [.text ".env"]
          (.file (.text plan.generated.exampleText))) := by
    simp only [Plan.write, arguments, first, second]
  have ran := (run_planned found planned).trans wrote
  have clear : ∀ path name, arguments.exampleFile = some path →
      Overwrites oneSource path "." name → isSource "." none name = false := by
    rintro path name ⟨⟩ ⟨location, -, lands, -⟩
    have last := ownName_of_plain plain ".env" _ lands
    rw [List.getLast?_concat, show fileName? ".env" = some ".env" by decide +kernel] at last
    have same : name = ".env" := by simpa using last
    rw [same]
    decide +kernel
  obtain ⟨location, names, sources, kept⟩ :=
    sources_kept ran (fun _ => ownName_of_plain plain _) nofun clear
  exact ⟨_, _, location, names, sources, ran, kept⟩

/-- A loader is written over the source if its path is spelled in another way, here without the
directory that the paths of the sources start with. -/
theorem oneSource_overwritten : ∃ outcome after,
    findSources { config := "Config", file := some "a.rs" } oneSource =
      .ok [("./a.rs", .text "pub struct Config;")] ∧
      run { config := "Config", file := some "a.rs" } oneSource = (.ok outcome, after) ∧
      oneSource.contentAt? [.text "a.rs"] = some (.text "pub struct Config;") ∧
      after.contentAt? [.text "a.rs"] ≠ some (.text "pub struct Config;") := by
  let arguments : Arguments := { config := "Config", file := some "a.rs" }
  have found := oneSource_found arguments rfl (by decide +kernel)
  have outputs : (planRun arguments [("./a.rs", .text "pub struct Config;")]).toOption.map
      (fun plan => (plan.output, decide (plan.generated.source = "pub struct Config;"))) =
        some ("a.rs", false) := by
    decide +kernel
  obtain ⟨plan, planned, output⟩ := toOption_map.mp outputs
  obtain ⟨output, differs⟩ := Prod.mk.inj output
  have loader : Lands oneSource plan.output [.text "a.rs"] := by
    rw [output]
    exact oneSource_lands (by decide +kernel) (by decide +kernel) (by decide)
  have first := writeFile_lands plan.generated.source loader
    (by rw [output, show fileName? "a.rs" = some "a.rs" by decide +kernel]; simp)
  have wrote : plan.write arguments.exampleFile oneSource =
      (.ok ⟨plan.output, none, plan.generated.records⟩,
        oneSource.put [.text "a.rs"] (.file (.text plan.generated.source))) := by
    simp only [Plan.write, arguments, first]
  refine ⟨_, _, found, (run_planned found planned).trans wrote, rfl, ?_⟩
  rw [Tree.contentAt?, entry?_put (by simp), if_pos rfl]
  simpa using differs

end EnvLoader.SourceFiles
