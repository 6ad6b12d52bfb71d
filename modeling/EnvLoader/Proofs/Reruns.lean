import EnvLoader.Proofs.WrittenFiles

/-! Running again. What a run writes is no source: the name of a loader ends as those of generated
files do, and the name of the example is taken not to end as those of sources do. So the second
run finds the sources of the first and makes the same plan of them, and it writes what the files
hold already. Links are left out, as a path through one can land under the name of a source. -/
namespace EnvLoader.Reruns
open Files Command FileChanges Outcomes SourceFiles WrittenFiles

variable {κ α : Type} [DecidableEq κ] {tree after : Tree} {location : Location} {directory : String}
  {arguments : Arguments} {output : Option String}

/-! ### Writing what is there -/

theorem putEntry_same {key : κ} {value : α} {entries : List (κ × α)}
    (found : (entries.find? (·.1 = key)).map (·.2) = some value) :
    putEntry key value entries = entries := by
  induction entries with
  | nil => exact nomatch found
  | cons entry rest ih =>
    by_cases same : entry.1 = key
    · have held : entry.2 = value := by simpa [same] using found
      simp [putEntry, ← same, ← held]
    · have inner := ih (by simpa [same] using found)
      rw [putEntry, if_neg same, inner]

/-- Writing what a file holds already changes nothing. -/
theorem put_held {content : Bytes} (writable : Writable tree location)
    (held : tree.contentAt? location = some content) :
    tree.put location (.file content) = tree := by
  have there : tree.entry? location = some (.file content) := by
    unfold Tree.contentAt? at held
    split at held
    · rename_i old entry
      exact entry.trans (congrArg _ (congrArg _ (Option.some.inj held)))
    · exact nomatch held
  rw [Tree.entry?, if_neg (writable_inside writable)] at there
  have same := putEntry_same there
  simp only [Tree.put, Bindings.put, same]

/-! ### The files of a directory -/

/-- What a new entry adds to a list that is made of the entries one by one, where an entry under
its key counted as it does. -/
theorem filterMap_putEntry {β : Type} {part : κ × α → Option β} {key : κ} {value : α}
    {entries : List (κ × α)}
    (alike : ∀ old, (entries.find? (·.1 = key)).map (·.2) = some old →
      part (key, old) = part (key, value)) :
    ∃ more, (putEntry key value entries).filterMap part = entries.filterMap part ++ more ∧
      ∀ item ∈ more, part (key, value) = some item := by
  induction entries with
  | nil =>
    refine ⟨[(key, value)].filterMap part, by simp [putEntry], fun item member => ?_⟩
    obtain ⟨entry, isEntry, counted⟩ := List.mem_filterMap.mp member
    exact List.mem_singleton.mp isEntry ▸ counted
  | cons entry rest ih =>
    by_cases same : entry.1 = key
    · have counts : part (key, value) = part entry := by
        rw [← alike entry.2 (by simp [same]), ← same]
      refine ⟨[], ?_, List.forall_mem_nil _⟩
      rw [putEntry, if_pos same, List.filterMap_cons, List.filterMap_cons, counts, List.append_nil]
    · obtain ⟨more, added, own⟩ := ih fun old found => alike old (by simpa [same] using found)
      refine ⟨more, ?_, own⟩
      rw [putEntry, if_neg same, List.filterMap_cons, List.filterMap_cons, added]
      cases part entry <;> rfl

/-- The name of an entry that is a file directly within a directory. -/
def nameWithin? (directory : Location) : Location × Entry → Option Bytes
  | (location, .file _) => if location.dropLast = directory then location.getLast? else none
  | _ => none

theorem filesIn_names (tree : Tree) (directory : Location) :
    (tree.filesIn directory).map (·.1) =
      tree.entries.entries.filterMap (nameWithin? directory) := by
  rw [Tree.filesIn, List.map_filterMap]
  refine List.filterMap_congr fun ⟨location, entry⟩ _ => ?_
  cases entry with
  | file content =>
    by_cases within : location.dropLast = directory <;>
      cases last : location.getLast? <;> simp [nameWithin?, within, last]
  | directory => rfl
  | link target => rfl

/-- A file that is put somewhere adds at most its own name to those of a directory. -/
theorem filesIn_put (directory : Location) (content : Bytes) (writable : Writable tree location) :
    ∃ more, ((tree.put location (.file content)).filesIn directory).map (·.1) =
        (tree.filesIn directory).map (·.1) ++ more ∧
      ∀ name ∈ more, location.getLast? = some name := by
  have files : ∀ old, (tree.entries.entries.find? (·.1 = location)).map (·.2) = some old →
      nameWithin? directory (location, old) = nameWithin? directory (location, .file content) := by
    intro old found
    have there : tree.entry? location = some old := by
      rw [Tree.entry?, if_neg (writable_inside writable)]
      exact found
    obtain ⟨held, rfl⟩ := writable old there
    rfl
  obtain ⟨more, added, own⟩ := filterMap_putEntry files
  refine ⟨more, by rw [filesIn_names, filesIn_names]; exact added, fun name member => ?_⟩
  have counted := own name member
  rw [nameWithin?] at counted
  split at counted
  · exact counted
  · exact nomatch counted

/-- Names that are no sources can be added to those of a directory. -/
theorem sourceNames_append {names : List Bytes} {sources more : List String}
    (ran : sourceNames directory output names = .ok sources)
    (others : ∀ name ∈ more, isSource directory output name = false) :
    sourceNames directory output (names ++ more.map .text) = .ok sources := by
  obtain ⟨texts, read, chosen⟩ := bind_ok.mp ran
  have none : more.filter (isSource directory output) = [] :=
    List.filter_eq_nil_iff.mpr fun name member => by simp [others name member]
  refine bind_ok.mpr ⟨texts ++ more, mapM_ok.mpr (List.rel_append (mapM_ok.mp read) ?_), ?_⟩
  · exact List.forall₂_map_left_iff.mpr (List.forall₂_same.mpr fun name _ => rfl)
  · rw [List.filter_append, none, List.append_nil]
    exact chosen

/-- A file that is no source makes no difference to the sources. -/
theorem findSources_put {sources : List (String × Bytes)} {name : String} (content : Bytes)
    (writable : Writable tree location) (last : location.getLast? = some (.text name))
    (other : isSource arguments.directory arguments.file name = false)
    (found : findSources arguments tree = .ok sources) :
    findSources arguments (tree.put location (.file content)) = .ok sources := by
  obtain ⟨directory, names, opened, listed, read⟩ := findSources_ok found
  obtain ⟨more, added, own⟩ := filesIn_put directory content writable
  have listedNow : sourceNames arguments.directory arguments.file
      (((tree.put location (.file content)).filesIn directory).map (·.1)) = .ok names := by
    have alone : more = (List.replicate more.length name).map .text := by
      rw [List.map_replicate, List.eq_replicate_iff]
      exact ⟨rfl, fun written member => Option.some.inj ((own written member).symm.trans last)⟩
    rw [added, alone]
    exact sourceNames_append listed fun written member => List.eq_of_mem_replicate member ▸ other
  have counts := sourceNames_ok listed
  refine bind_ok.mpr ⟨directory, mapError_ok.mpr (openDirectory_put content writable opened), ?_⟩
  refine bind_ok.mpr ⟨names, listedNow, mapM_ok.mpr ?_⟩
  refine ((List.forall₂_and_left names sources).mpr ⟨counts, read⟩).imp ?_
  rintro source ⟨path, held⟩ ⟨counted, rfl, there⟩
  have apart : directory ++ [Bytes.text source] ≠ location := by
    rintro rfl
    have same : source = name := by simpa using last
    rw [same, other] at counted
    exact nomatch counted
  simp only [contentAt?_put writable apart, there]

/-! ### Runs -/

theorem output_generated {sources : List (String × Bytes)} {plan : Plan}
    (given : ∀ file, arguments.file = some file → file.endsWith generatedSuffix = true)
    (planned : planRun arguments sources = .ok plan) :
    plan.output.endsWith generatedSuffix = true := by
  obtain ⟨named, beside⟩ := planRun_ok planned
  cases asked : arguments.file with
  | some file => exact named file asked ▸ given file asked
  | none =>
    obtain ⟨origin, stem, output⟩ := beside asked
    exact output ▸ beside_generated origin stem

/-- What ends as generated files do ends as sources do. -/
theorem generated_source {name : String} (generated : name.endsWith generatedSuffix = true) :
    name.endsWith sourceSuffix = true :=
  endsWith_iff.mpr (List.IsSuffix.trans (by decide) (endsWith_iff.mp generated))

/-- Without links, what lands somewhere is named there as in its path. -/
theorem lands_name {path : String}
    (plain : ∀ location target, tree.entry? location ≠ some (.link target))
    (lands : Lands tree path location) :
    ∃ name, fileName? path = some name ∧ location.getLast? = some (.text name) := by
  have last := ownName_of_plain plain path location lands
  obtain ⟨name, -, -, named, -⟩ := lands
  exact ⟨name, named, by simpa [named] using last⟩

/-- Writing a plan again changes nothing, as its two files are not the same. -/
theorem write_again {plan : Plan} {path : String} {other : Location} (apart : location ≠ other)
    (loader : Lands tree plan.output location) (listing : Lands tree path other)
    (nulFree : NulFree plan.output) (nulFreeToo : NulFree path)
    (written : after = (tree.put location (.file (.text plan.generated.source))).put other
      (.file (.text plan.generated.exampleText))) :
    plan.write (some path) after =
      (.ok ⟨plan.output, some path, plan.generated.records⟩, after) := by
  have first := lands_writable loader
  have second := lands_writable (lands_put (.text plan.generated.source) first listing)
  have kept : ∀ {path location}, Lands tree path location → Lands after path location := by
    intro path location lands
    exact written ▸ lands_put _ second (lands_put _ first lands)
  have source : after.contentAt? location = some (.text plan.generated.source) := by
    rw [written, contentAt?_put second apart, contentAt?_put_self first]
  have text : after.contentAt? other = some (.text plan.generated.exampleText) := by
    rw [written, contentAt?_put_self second]
  have again := write_lands (kept loader) (kept listing) nulFree nulFreeToo
  rwa [put_held (lands_writable (kept loader)) source,
    put_held (lands_writable (kept listing)) text] at again

/-- A run that succeeds can be repeated: it comes to the same outcome and changes nothing more.
There are no links in the tree, a given path for the loader ends as those of generated files do,
and the name of the example does not end as those of sources do. -/
theorem rerun_same {outcome : Outcome}
    (plain : ∀ location target, tree.entry? location ≠ some (.link target))
    (generated : ∀ file, arguments.file = some file → file.endsWith generatedSuffix = true)
    (unread : ∀ path, arguments.exampleFile = some path →
      ∃ name, fileName? path = some name ∧ name.endsWith sourceSuffix = false)
    (ran : run arguments tree = (.ok outcome, after)) :
    run arguments after = (.ok outcome, after) := by
  obtain ⟨error, failed⟩ | ⟨plan, ⟨sources, found, planned⟩, wrote⟩ := run_cases arguments tree
  · cases failed.symm.trans ran
  have ends := write_ends plan arguments.exampleFile tree
  rw [← wrote, ran] at ends
  have suffix := output_generated generated planned
  cases ends with
  | @loaderOnly location unasked loader nulFree =>
    have writable := lands_writable loader
    have loaderNow := lands_put (.text plan.generated.source) writable loader
    obtain ⟨name, named, last⟩ := lands_name plain loader
    have other : isSource arguments.directory arguments.file name = false := by
      simp [isSource, generated_name suffix named]
    have foundNow := findSources_put (.text plan.generated.source) writable last other found
    have again := writeFile_lands plan.generated.source loaderNow nulFree
    rw [put_held (lands_writable loaderNow) (contentAt?_put_self writable)] at again
    rw [run_planned foundNow planned]
    simp only [Plan.write, unasked, again]
  | @both location other path asked loader listing nulFree nulFreeToo =>
    obtain ⟨own, named, last⟩ := lands_name plain loader
    obtain ⟨name, namedToo, lastToo⟩ := lands_name plain listing
    have isLoader := generated_name suffix named
    have isListing : name.endsWith sourceSuffix = false := by
      obtain ⟨_, same, other⟩ := unread path asked
      exact Option.some.inj (same.symm.trans namedToo) ▸ other
    have apart : location ≠ other := by
      rintro rfl
      have same : own = name := by simpa [last] using lastToo
      have ends := generated_source isLoader
      rw [same, isListing] at ends
      cases ends
    -- each of the two files lies where no source does
    have first := lands_writable loader
    have second := lands_writable (lands_put (.text plan.generated.source) first listing)
    have foundNow := findSources_put (.text plan.generated.exampleText) second lastToo
      (by simp [isSource, isListing])
      (findSources_put (.text plan.generated.source) first last (by simp [isSource, isLoader]) found)
    rw [run_planned foundNow planned, asked]
    exact write_again apart loader listing nulFree nulFreeToo rfl

/-- A loader next to the source, with an example, and the run after that. -/
theorem oneSource_rerun : ∃ outcome after,
    run { config := "Config", file := some "a_gen.rs", exampleFile := some ".env" } oneSource =
      (.ok outcome, after) ∧
    run { config := "Config", file := some "a_gen.rs", exampleFile := some ".env" } after =
      (.ok outcome, after) := by
  obtain ⟨plan, ⟨sources, found, planned⟩, output, -⟩ := oneSource_planned (some ".env")
  have envName : fileName? ".env" = some ".env" := by decide +kernel
  have loader : Lands oneSource plan.output [.text "a_gen.rs"] := by
    rw [output]
    exact oneSource_loader
  have listing : Lands oneSource ".env" [.text ".env"] :=
    oneSource_lands envName (by decide +kernel) (by decide)
  have nulFree : NulFree plan.output := by
    rw [output]
    exact oneSource_nulFree
  have nulFreeToo : NulFree ".env" := nulFree_named envName (by decide)
  have ran := (run_planned found planned).trans (write_lands loader listing nulFree nulFreeToo)
  refine ⟨_, _, ran, rerun_same oneSource_plain ?_ ?_ ran⟩
  · rintro file ⟨⟩
    decide +kernel
  · rintro path ⟨⟩
    exact ⟨".env", envName, by decide +kernel⟩

end EnvLoader.Reruns
