import EnvLoader.Proofs.SourceFiles

/-! What a run leaves behind. Everything is planned before anything is written, so a run that
comes to no plan leaves the tree as it was. The loader is written first: if only the example
fails, the loader stays, and nothing else has changed. A run that succeeds changes the files
its two paths land at. If these are one file, it holds the example, which is written last. -/
namespace EnvLoader.WrittenFiles
open Files Command FileChanges Outcomes SourceFiles

variable {arguments : Arguments} {tree after : Tree} {plan : Plan} {path : String}
  {location other : Location} {content : Bytes}

/-- Two trees agree on everything but what is at some locations. -/
structure SameBeside (locations : List Location) (before after : Tree) : Prop where
  current : after.current = before.current
  entry : ∀ location ∉ locations, after.entry? location = before.entry? location

theorem put_sameBeside (writable : Writable tree location) :
    SameBeside [location] tree (tree.put location (.file content)) := by
  refine ⟨rfl, fun elsewhere apart => ?_⟩
  rw [entry?_put (writable_inside writable), if_neg (by simpa using apart)]

theorem sameBeside_trans {between : Tree} (first : SameBeside [location] tree between)
    (second : SameBeside [other] between after) : SameBeside [location, other] tree after := by
  refine ⟨second.current.trans first.current, fun elsewhere apart => ?_⟩
  simp only [List.mem_cons, List.not_mem_nil, or_false, not_or] at apart
  rw [second.entry elsewhere (by simpa using apart.2), first.entry elsewhere (by simpa using apart.1)]

theorem contentAt?_put_self (writable : Writable tree location) :
    (tree.put location (.file content)).contentAt? location = some content := by
  rw [Tree.contentAt?, entry?_put (writable_inside writable), if_pos rfl]

/-! ### Writing a plan -/

/-- The name of a path has no NUL in it. -/
def NulFree (path : String) : Prop :=
  ∀ name, fileName? path = some name → name.toList.contains '\x00' = false

theorem nulFree_named {name : String} (named : fileName? path = some name)
    (clean : name.toList.contains '\x00' = false) : NulFree path := by
  rintro other namedToo
  exact Option.some.inj (named.symm.trans namedToo) ▸ clean

theorem writeFile_nulFree {text : String} (wrote : writeFile tree path text = .ok after) :
    NulFree path := by
  intro name named
  simp only [writeFile, named] at wrote
  obtain ⟨directory, -, wrote⟩ := bind_ok.mp wrote
  have wrote := mapError_ok.mp wrote
  unfold Tree.writeWithin at wrote
  split at wrote
  · cases wrote
  · rename_i clean
    simpa using clean

/-- How writing a plan can end, with the tree that is left. -/
inductive WriteEnds (plan : Plan) (exampleFile : Option String) (tree : Tree) :
    Except RunError Outcome × Tree → Prop
  | loaderFailed {error : RunError}
      (failed : writeFile tree plan.output plan.generated.source = .error error) :
      WriteEnds plan exampleFile tree (.error error, tree)
  | exampleFailed {location : Location} {path : String} {error : RunError}
      (asked : exampleFile = some path) (loader : Lands tree plan.output location)
      (failed : writeFile (tree.put location (.file (.text plan.generated.source))) path
        plan.generated.exampleText = .error error) :
      WriteEnds plan exampleFile tree
        (.error error, tree.put location (.file (.text plan.generated.source)))
  | loaderOnly {location : Location} (unasked : exampleFile = none)
      (loader : Lands tree plan.output location) (nulFree : NulFree plan.output) :
      WriteEnds plan exampleFile tree
        (.ok ⟨plan.output, exampleFile, plan.generated.records⟩,
          tree.put location (.file (.text plan.generated.source)))
  | both {location other : Location} {path : String} (asked : exampleFile = some path)
      (loader : Lands tree plan.output location) (listing : Lands tree path other)
      (nulFree : NulFree plan.output) (nulFreeToo : NulFree path) :
      WriteEnds plan exampleFile tree
        (.ok ⟨plan.output, exampleFile, plan.generated.records⟩,
          (tree.put location (.file (.text plan.generated.source))).put other
            (.file (.text plan.generated.exampleText)))

theorem write_ends (plan : Plan) (exampleFile : Option String) (tree : Tree) :
    WriteEnds plan exampleFile tree (plan.write exampleFile tree) := by
  unfold Plan.write
  cases first : writeFile tree plan.output plan.generated.source with
  | error error => exact .loaderFailed first
  | ok between =>
    have nulFree := writeFile_nulFree first
    obtain ⟨location, loader, rfl⟩ := writeFile_ok first
    cases exampleFile with
    | none => exact .loaderOnly rfl loader nulFree
    | some path =>
      cases second : writeFile (tree.put location (.file (.text plan.generated.source))) path
          plan.generated.exampleText with
      | error error =>
        simp only [second]
        exact .exampleFailed rfl loader second
      | ok last =>
        have nulFreeToo := writeFile_nulFree second
        obtain ⟨other, lands, rfl⟩ := writeFile_ok second
        simp only [second]
        exact .both rfl loader (lands_of_put (lands_writable loader) lands) nulFree nulFreeToo

/-- Where both paths land, writing a plan puts both files. -/
theorem write_lands (loader : Lands tree plan.output location) (listing : Lands tree path other)
    (nulFree : NulFree plan.output) (nulFreeToo : NulFree path) :
    plan.write (some path) tree = (.ok ⟨plan.output, some path, plan.generated.records⟩,
      (tree.put location (.file (.text plan.generated.source))).put other
        (.file (.text plan.generated.exampleText))) := by
  have first := writeFile_lands plan.generated.source loader nulFree
  have second := writeFile_lands plan.generated.exampleText
    (lands_put (.text plan.generated.source) (lands_writable loader) listing) nulFreeToo
  simp only [Plan.write, first, second]

/-! ### Runs -/

/-- What a run on a tree is going to write. -/
def Plans (arguments : Arguments) (tree : Tree) (plan : Plan) : Prop :=
  ∃ sources, findSources arguments tree = .ok sources ∧ planRun arguments sources = .ok plan

/-- Only the loader of a plan was written. -/
structure LoaderWritten (plan : Plan) (location : Location) (tree after : Tree) : Prop where
  lands : Lands tree plan.output location
  source : after.contentAt? location = some (.text plan.generated.source)
  others : SameBeside [location] tree after

/-- The loader of a plan was written, and then its example to a path. -/
structure BothWritten (plan : Plan) (path : String) (location other : Location)
    (tree after : Tree) : Prop where
  lands : Lands tree plan.output location
  listingLands : Lands tree path other
  source : other ≠ location → after.contentAt? location = some (.text plan.generated.source)
  listing : after.contentAt? other = some (.text plan.generated.exampleText)
  others : SameBeside [location, other] tree after

theorem loader_written (loader : Lands tree plan.output location) :
    LoaderWritten plan location tree (tree.put location (.file (.text plan.generated.source))) :=
  have writable := lands_writable loader
  ⟨loader, contentAt?_put_self writable, put_sameBeside writable⟩

theorem both_written (loader : Lands tree plan.output location) (listing : Lands tree path other) :
    BothWritten plan path location other tree
      ((tree.put location (.file (.text plan.generated.source))).put other
        (.file (.text plan.generated.exampleText))) := by
  have first := lands_writable loader
  have second := lands_writable (lands_put (.text plan.generated.source) first listing)
  refine ⟨loader, listing, fun apart => ?_, contentAt?_put_self second,
    sameBeside_trans (put_sameBeside first) (put_sameBeside second)⟩
  rw [contentAt?_put second apart.symm, contentAt?_put_self first]

/-- A run either fails before anything is written, or it has a plan and writes it. -/
theorem run_cases (arguments : Arguments) (tree : Tree) :
    (∃ error, run arguments tree = (.error error, tree)) ∨
      ∃ plan, Plans arguments tree plan ∧
        run arguments tree = plan.write arguments.exampleFile tree := by
  cases planned : findSources arguments tree >>= planRun arguments with
  | error error => exact .inl ⟨error, by simp only [run, planned]⟩
  | ok plan => exact .inr ⟨plan, bind_ok.mp planned, by simp only [run, planned]⟩

/-- A run that fails leaves the tree as it was, unless the loader is written already and the
example cannot be: then the loader stays, and is all that was changed. A run that succeeds has
written the loader, and the example if it was asked for, and has changed nothing else. -/
theorem run_all_or_nothing (arguments : Arguments) (tree : Tree) :
    match run arguments tree with
    | (.error error, after) =>
      after = tree ∨ ∃ plan path location, Plans arguments tree plan ∧
        arguments.exampleFile = some path ∧ LoaderWritten plan location tree after ∧
        writeFile after path plan.generated.exampleText = .error error
    | (.ok outcome, after) =>
      ∃ plan location, Plans arguments tree plan ∧
        outcome = ⟨plan.output, arguments.exampleFile, plan.generated.records⟩ ∧
        match arguments.exampleFile with
        | none => LoaderWritten plan location tree after
        | some path => ∃ other, BothWritten plan path location other tree after := by
  obtain ⟨error, ran⟩ | ⟨plan, planned, ran⟩ := run_cases arguments tree
  · rw [ran]
    exact .inl rfl
  · have ends := write_ends plan arguments.exampleFile tree
    rw [ran]
    generalize plan.write arguments.exampleFile tree = left at ends
    cases ends with
    | loaderFailed failed => exact .inl rfl
    | exampleFailed asked loader failed =>
      exact .inr ⟨plan, _, _, planned, asked, loader_written loader, failed⟩
    | @loaderOnly location unasked loader _ =>
      refine ⟨plan, location, planned, rfl, ?_⟩
      rw [unasked]
      exact loader_written loader
    | @both location other path asked loader listing _ _ =>
      refine ⟨plan, location, planned, rfl, ?_⟩
      rw [asked]
      exact ⟨_, both_written loader listing⟩

/-- The plan for a loader next to the source. -/
theorem oneSource_planned (exampleFile : Option String) : ∃ plan,
    Plans { config := "Config", file := some "a_gen.rs", exampleFile } oneSource plan ∧
      plan.output = "a_gen.rs" ∧ plan.generated.source ≠ plan.generated.exampleText := by
  let sources := [("./a.rs", Bytes.text "pub struct Config;")]
  have outputs : (planRun { config := "Config", file := some "a_gen.rs" } sources).toOption.map
      (fun plan => (plan.output, decide (plan.generated.source = plan.generated.exampleText))) =
        some ("a_gen.rs", false) := by
    decide +kernel
  obtain ⟨plan, planned, output⟩ := toOption_map.mp outputs
  obtain ⟨output, differs⟩ := Prod.mk.inj output
  have counts : isSource "." (some "a_gen.rs") "a.rs" = true := by decide +kernel
  -- what is planned does not depend on the path of the example
  exact ⟨plan, ⟨sources, oneSource_found _ rfl counts, planned⟩, output, of_decide_eq_false differs⟩

theorem oneSource_name : fileName? "a_gen.rs" = some "a_gen.rs" := by
  decide +kernel

theorem oneSource_nulFree : NulFree "a_gen.rs" :=
  nulFree_named oneSource_name (by decide)

theorem oneSource_loader : Lands oneSource "a_gen.rs" [.text "a_gen.rs"] :=
  oneSource_lands oneSource_name (by decide +kernel) (by decide)

/-- No path into a directory that is missing lands anywhere. -/
theorem oneSource_missing : ¬ Lands oneSource "missing/.env" location := by
  rintro ⟨name, directory, place, -, opened, -⟩
  rw [show outputDirectory "missing/.env" = "missing" by decide +kernel, openDirectory_ok] at opened
  obtain ⟨parts, usable, way⟩ := find_ok.mp opened
  rw [usableParts_ok usable, show pathParts "missing" = [.name "missing"] by decide +kernel] at way
  cases way with
  | directory _ entry =>
    rcases oneSource_entry entry with ⟨impossible, -⟩ | ⟨-, impossible⟩ <;> exact nomatch impossible
  | link _ entry =>
    rcases oneSource_entry entry with ⟨-, impossible⟩ | ⟨-, impossible⟩ <;> exact nomatch impossible

/-- The loader stays when the directory of the example is missing, and is written over when the
example goes to the same path. -/
theorem oneSource_left :
    (∃ error after,
      run { config := "Config", file := some "a_gen.rs", exampleFile := some "missing/.env" }
        oneSource = (.error error, after) ∧
      oneSource.contentAt? [.text "a_gen.rs"] = none ∧
      after.contentAt? [.text "a_gen.rs"] ≠ none) ∧
    ∃ plan outcome after,
      Plans { config := "Config", file := some "a_gen.rs", exampleFile := some "a_gen.rs" }
        oneSource plan ∧
      run { config := "Config", file := some "a_gen.rs", exampleFile := some "a_gen.rs" }
        oneSource = (.ok outcome, after) ∧
      outcome.output = "a_gen.rs" ∧
      after.contentAt? [.text "a_gen.rs"] ≠ some (.text plan.generated.source) := by
  have lands := oneSource_loader
  have writable := lands_writable lands
  constructor
  · obtain ⟨plan, ⟨sources, found, planned⟩, output, -⟩ := oneSource_planned (some "missing/.env")
    have first := writeFile_lands plan.generated.source lands oneSource_nulFree
    cases second : writeFile (oneSource.put [.text "a_gen.rs"] (.file (.text plan.generated.source)))
        "missing/.env" plan.generated.exampleText with
    | ok after =>
      obtain ⟨location, landsToo, -⟩ := writeFile_ok second
      exact absurd (lands_of_put writable landsToo) oneSource_missing
    | error error =>
      have wrote : plan.write (some "missing/.env") oneSource = (.error error,
          oneSource.put [.text "a_gen.rs"] (.file (.text plan.generated.source))) := by
        simp only [Plan.write, output, first, second]
      refine ⟨error, _, (run_planned found planned).trans wrote, rfl, ?_⟩
      rw [contentAt?_put_self writable]
      exact Option.some_ne_none _
  · obtain ⟨plan, plans, output, differs⟩ := oneSource_planned (some "a_gen.rs")
    obtain ⟨sources, found, planned⟩ := plans
    have loader : Lands oneSource plan.output [.text "a_gen.rs"] := by
      rw [output]
      exact lands
    have nulFree : NulFree plan.output := by
      rw [output]
      exact oneSource_nulFree
    have wrote := write_lands loader lands nulFree oneSource_nulFree
    refine ⟨plan, _, _, ⟨sources, found, planned⟩, (run_planned found planned).trans wrote, output, ?_⟩
    have again := lands_writable (lands_put (.text plan.generated.source) writable lands)
    rw [contentAt?_put_self again]
    simpa using differs.symm

end EnvLoader.WrittenFiles
