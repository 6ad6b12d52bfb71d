import EnvLoader.Files.Access
import EnvLoader.Proofs.Outcomes

/-! What changes when a file is put into a tree. Only the entry at its location is another one,
so paths lead where they led before, to the new content if they lead there. This is said of ways
through a tree, which are what following a path succeeds with. -/
namespace EnvLoader.FileChanges
open Files Outcomes

/-- A file can be put at a location: there is one already, or nothing. -/
def Writable (tree : Tree) (location : Location) : Prop :=
  ∀ entry, tree.entry? location = some entry → ∃ content, entry = .file content

/-- What a place becomes when a file with a content is put at a location. -/
def holding (location : Location) (content : Bytes) : Place → Place
  | .directory other => .directory other
  | .file other old => .file other (if other = location then content else old)
  | .vacant other => if other = location then .file other content else .vacant other

variable {κ α ε : Type} [DecidableEq κ] {tree after : Tree} {location start : Location}
  {content : Bytes} {floor : Option Location} {links : Nat} {path text name : String} {rest : List PathPart}

theorem find?_putEntry (key other : κ) (value : α) (entries : List (κ × α)) :
    ((putEntry key value entries).find? (·.1 = other)).map (·.2) =
      if other = key then some value else (entries.find? (·.1 = other)).map (·.2) := by
  induction entries with
  | nil => by_cases same : other = key <;> simp [putEntry, same, eq_comm]
  | cons entry rest ih =>
    by_cases here : entry.1 = key
    · by_cases same : other = key
      · simp [putEntry, here, same]
      · simp [putEntry, here, same, eq_comm]
    · by_cases found : entry.1 = other
      · have different : other ≠ key := found ▸ here
        simp [putEntry, found, different]
      · simp [putEntry, here, found, ih]

theorem get?_put (bindings : Bindings κ α) (key other : κ) (value : α) :
    (bindings.put key value).get? other = if other = key then some value else bindings.get? other :=
  find?_putEntry key other value bindings.entries

@[simp] theorem current_put (entry : Entry) : (tree.put location entry).current = tree.current := rfl

theorem entry?_put (inside : location ≠ []) (other : Location) (entry : Entry) :
    Tree.entry? (tree.put location entry) other =
      if other = location then some entry else tree.entry? other := by
  unfold Tree.entry? Tree.put
  by_cases root : other = []
  · have different : ¬ other = location := fun same => inside (same ▸ root)
    simp [root, inside.symm]
  · simp only [root, ↓reduceIte]
    exact get?_put tree.entries location other entry

theorem writable_inside (writable : Writable tree location) : location ≠ [] := by
  rintro rfl
  obtain ⟨content, same⟩ := writable .directory rfl
  exact nomatch same

/-- What is no file keeps its place. -/
theorem writable_apart {other : Location} {entry : Entry} (writable : Writable tree location)
    (found : tree.entry? other = some entry) (kind : ∀ content, entry ≠ .file content) :
    other ≠ location := by
  rintro rfl
  obtain ⟨content, isFile⟩ := writable entry found
  exact kind content isFile

/-! ### Ways through a tree -/

/-- A way from a directory through a tree, and the place it ends at. -/
inductive Leads (tree : Tree) (floor : Option Location) :
    Nat → Location → List PathPart → Place → Prop
  | done {links : Nat} {start : Location} : Leads tree floor links start [] (.directory start)
  | root {links : Nat} {start : Location} {rest : List PathPart} {place : Place}
      (free : ¬ floor.isSome = true) (way : Leads tree floor links [] rest place) :
      Leads tree floor links start (.root :: rest) place
  | here {links : Nat} {start : Location} {rest : List PathPart} {place : Place}
      (way : Leads tree floor links start rest place) :
      Leads tree floor links start (.here :: rest) place
  | up {links : Nat} {start : Location} {rest : List PathPart} {place : Place}
      (free : ¬ floor = some start) (way : Leads tree floor links start.dropLast rest place) :
      Leads tree floor links start (.up :: rest) place
  | vacant {links : Nat} {start : Location} {name : String}
      (short : ¬ name.utf8ByteSize > maxNameSize)
      (entry : tree.entry? (start ++ [.text name]) = none) :
      Leads tree floor links start [.name name] (.vacant (start ++ [.text name]))
  | file {links : Nat} {start : Location} {name : String} {content : Bytes}
      (short : ¬ name.utf8ByteSize > maxNameSize)
      (entry : tree.entry? (start ++ [.text name]) = some (.file content)) :
      Leads tree floor links start [.name name] (.file (start ++ [.text name]) content)
  | directory {links : Nat} {start : Location} {name : String} {rest : List PathPart} {place : Place}
      (short : ¬ name.utf8ByteSize > maxNameSize)
      (entry : tree.entry? (start ++ [.text name]) = some .directory)
      (way : Leads tree floor links (start ++ [.text name]) rest place) :
      Leads tree floor links start (.name name :: rest) place
  | link {links : Nat} {start : Location} {name target : String} {rest : List PathPart} {place : Place}
      (short : ¬ name.utf8ByteSize > maxNameSize)
      (entry : tree.entry? (start ++ [.text name]) = some (.link target))
      (pointed : ¬ target.isEmpty = true)
      (way : Leads tree floor links start (pathParts target ++ rest) place) :
      Leads tree floor (links + 1) start (.name name :: rest) place

/-- Following parts succeeds if they are a way, and gives the place at its end. -/
theorem walk_ok {parts : List PathPart} {place : Place} :
    tree.walk floor links start parts = .ok place ↔ Leads tree floor links start parts place := by
  constructor
  · intro ran
    induction links, start, parts using Tree.walk.induct tree floor with
    | case1 links start =>
      rw [Tree.walk, pure_ok] at ran
      exact ran ▸ .done
    | case3 links start rest free ih =>
      rw [Tree.walk, if_neg free] at ran
      exact .root free (ih ran)
    | case4 links start rest ih =>
      rw [Tree.walk] at ran
      exact .here (ih ran)
    | case6 links start rest free ih =>
      rw [Tree.walk, if_neg free] at ran
      exact .up free (ih ran)
    | case8 links start name rest short inner entry last =>
      rw [Tree.walk, if_neg short] at ran
      simp only [inner] at entry
      simp only [entry, last, ↓reduceIte, pure_ok] at ran
      cases List.isEmpty_iff.mp last
      exact ran ▸ .vacant short entry
    | case10 links start name rest short inner entry ih =>
      rw [Tree.walk, if_neg short] at ran
      simp only [inner] at entry
      simp only [entry] at ran
      exact .directory short entry (ih ran)
    | case11 links start name rest short inner content entry last =>
      rw [Tree.walk, if_neg short] at ran
      simp only [inner] at entry
      simp only [entry, last, ↓reduceIte, pure_ok] at ran
      cases List.isEmpty_iff.mp last
      exact ran ▸ .file short entry
    | case15 start name rest short inner target entry links pointed ih =>
      rw [Tree.walk, if_neg short] at ran
      simp only [inner] at entry
      simp only [entry, pointed] at ran
      exact .link short entry pointed (ih ran)
    | case2 links start rest bounded =>
      rw [Tree.walk, if_pos bounded] at ran
      exact nomatch ran
    | case5 links start rest bounded =>
      rw [Tree.walk, if_pos bounded] at ran
      exact nomatch ran
    | case7 links start name rest long =>
      rw [Tree.walk, if_pos long] at ran
      exact nomatch ran
    | case9 links start name rest short inner entry more =>
      rw [Tree.walk, if_neg short] at ran
      simp only [inner] at entry
      simp only [entry, more] at ran
      exact nomatch ran
    | case12 links start name rest short inner content entry more =>
      rw [Tree.walk, if_neg short] at ran
      simp only [inner] at entry
      simp only [entry, more] at ran
      exact nomatch ran
    | case13 start name rest short inner target entry =>
      rw [Tree.walk, if_neg short] at ran
      simp only [inner] at entry
      simp only [entry] at ran
      exact nomatch ran
    | case14 start name rest short inner target entry links empty =>
      rw [Tree.walk, if_neg short] at ran
      simp only [inner] at entry
      simp only [entry, empty] at ran
      exact nomatch ran
  · intro way
    induction way with
    | done => rw [Tree.walk]; rfl
    | root free _ ih => rw [Tree.walk, if_neg free, ih]
    | here _ ih => rw [Tree.walk, ih]
    | up free _ ih => rw [Tree.walk, if_neg free, ih]
    | vacant short entry =>
      rw [Tree.walk, if_neg short]
      simp only [entry]
      rfl
    | file short entry =>
      rw [Tree.walk, if_neg short]
      simp only [entry]
      rfl
    | directory short entry _ ih =>
      rw [Tree.walk, if_neg short]
      simp only [entry, ih]
    | link short entry pointed _ ih =>
      rw [Tree.walk, if_neg short]
      simp only [entry]
      rw [if_neg pointed, ih]

/-- What a place says about the entry at its location. -/
def Found (tree : Tree) : Place → Prop
  | .directory _ => True
  | .file location content => tree.entry? location = some (.file content)
  | .vacant location => tree.entry? location = none

theorem leads_found {parts : List PathPart} {place : Place}
    (way : Leads tree floor links start parts place) : Found tree place := by
  induction way with
  | done => trivial
  | vacant _ entry => exact entry
  | file _ entry => exact entry
  | root _ _ ih => exact ih
  | here _ ih => exact ih
  | up _ _ ih => exact ih
  | directory _ _ _ ih => exact ih
  | link _ _ _ _ ih => exact ih

/-- What is followed by a step on the spot is a directory. -/
theorem leads_here {parts : List PathPart} {place : Place}
    (way : Leads tree floor links start parts place) (ends : parts.getLast? = some .here) :
    ∃ location, place = .directory location := by
  have inner : ∀ (part : PathPart) (rest : List PathPart), part ≠ .here →
      (part :: rest).getLast? = some .here → rest.getLast? = some .here := by
    intro part rest other last
    cases rest with
    | nil => exact absurd (Option.some.inj last) other
    | cons next rest => simpa using last
  induction way with
  | @done _ start => exact ⟨start, rfl⟩
  | vacant => simp at ends
  | file => simp at ends
  | root _ _ ih => exact ih (inner .root _ nofun ends)
  | @here links start rest place way ih =>
    cases rest with
    | nil =>
      cases way
      exact ⟨start, rfl⟩
    | cons next rest => exact ih (by simpa using ends)
  | up _ _ ih => exact ih (inner .up _ nofun ends)
  | directory _ _ _ ih => exact ih (inner (.name _) _ nofun ends)
  | link _ _ _ _ ih =>
    refine ih ?_
    rw [List.getLast?_append, inner (.name _) _ nofun ends]
    rfl

/-- After a file was put somewhere, ways lead to where they led before. -/
theorem leads_put {parts : List PathPart} {place : Place} (writable : Writable tree location)
    (way : Leads tree floor links start parts place) :
    Leads (tree.put location (.file content)) floor links start parts
      (holding location content place) := by
  have entries : ∀ other, Tree.entry? (tree.put location (.file content)) other =
      if other = location then some (.file content) else tree.entry? other :=
    fun other => entry?_put (writable_inside writable) other (.file content)
  induction way with
  | done => exact .done
  | root free _ ih => exact .root free ih
  | here _ ih => exact .here ih
  | up free _ ih => exact .up free ih
  | @vacant links start name short entry =>
    have now := entries (start ++ [.text name])
    by_cases same : start ++ [.text name] = location
    · rw [if_pos same] at now
      simpa [holding, same] using Leads.file short now
    · rw [if_neg same, entry] at now
      simpa [holding, same] using Leads.vacant short now
  | @file links start name old short entry =>
    have now := entries (start ++ [.text name])
    by_cases same : start ++ [.text name] = location
    · rw [if_pos same] at now
      simpa [holding, same] using Leads.file short now
    · rw [if_neg same, entry] at now
      simpa [holding, same] using Leads.file short now
  | directory short entry _ ih =>
    have apart := writable_apart writable entry nofun
    exact .directory short ((entries _).trans ((if_neg apart).trans entry)) ih
  | link short entry pointed _ ih =>
    have apart := writable_apart writable entry nofun
    exact .link short ((entries _).trans ((if_neg apart).trans entry)) pointed ih

/-- No way leads where none led before. -/
theorem leads_of_put {parts : List PathPart} {place : Place} (writable : Writable tree location)
    (way : Leads (tree.put location (.file content)) floor links start parts place) :
    ∃ before, Leads tree floor links start parts before ∧
      place = holding location content before := by
  have entries : ∀ other, Tree.entry? (tree.put location (.file content)) other =
      if other = location then some (.file content) else tree.entry? other :=
    fun other => entry?_put (writable_inside writable) other (.file content)
  have kept : ∀ other entry, Tree.entry? (tree.put location (.file content)) other = some entry →
      (∀ content, entry ≠ .file content) → tree.entry? other = some entry := by
    intro other entry now kind
    rw [entries] at now
    by_cases same : other = location
    · rw [if_pos same] at now
      exact absurd (Option.some.inj now).symm (kind content)
    · rwa [if_neg same] at now
  induction way with
  | done => exact ⟨_, .done, rfl⟩
  | root free _ ih =>
    obtain ⟨before, way, same⟩ := ih
    exact ⟨before, .root free way, same⟩
  | here _ ih =>
    obtain ⟨before, way, same⟩ := ih
    exact ⟨before, .here way, same⟩
  | up free _ ih =>
    obtain ⟨before, way, same⟩ := ih
    exact ⟨before, .up free way, same⟩
  | vacant short entry =>
    rw [entries] at entry
    split at entry
    · exact nomatch entry
    · rename_i apart
      exact ⟨_, .vacant short entry, by simp [holding, apart]⟩
  | @file links start name now short entry =>
    rw [entries] at entry
    by_cases same : start ++ [.text name] = location
    · rw [if_pos same] at entry
      cases entry
      cases old : tree.entry? (start ++ [.text name]) with
      | none => exact ⟨_, .vacant short old, by simp [holding, same]⟩
      | some entry =>
        obtain ⟨before, rfl⟩ := writable entry (same ▸ old)
        exact ⟨_, .file short old, by simp [holding, same]⟩
    · rw [if_neg same] at entry
      exact ⟨_, .file short entry, by simp [holding, same]⟩
  | directory short entry _ ih =>
    obtain ⟨before, way, same⟩ := ih
    exact ⟨before, .directory short (kept _ _ entry nofun) way, same⟩
  | link short entry pointed _ ih =>
    obtain ⟨before, way, same⟩ := ih
    exact ⟨before, .link short (kept _ _ entry nofun) pointed way, same⟩

/-! ### Paths -/

/-- A path leads from the current directory, if it can be followed at all. -/
theorem find_ok {place : Place} : tree.find path = .ok place ↔
    ∃ parts, usableParts path = .ok parts ∧
      Leads tree none maxLinks tree.current parts place := by
  unfold Tree.find Tree.follow
  simp only [bind_ok, walk_ok]

theorem usableParts_ok {parts : List PathPart} (usable : usableParts path = .ok parts) :
    parts = pathParts path := by
  unfold usableParts at usable
  split at usable
  · exact nomatch usable
  · split at usable
    · exact nomatch usable
    · split at usable
      · exact nomatch usable
      · exact (pure_ok.mp usable).symm

/-- A path that led to a file leads to its new content. -/
theorem find_put {old : Bytes} (found : tree.find path = .ok (.file location old)) :
    (tree.put location (.file content)).find path = .ok (.file location content) := by
  obtain ⟨parts, usable, way⟩ := find_ok.mp found
  have writable : Writable tree location := by
    intro entry there
    have isFile : tree.entry? location = some (.file old) := leads_found way
    exact ⟨old, Option.some.inj (there.symm.trans isFile)⟩
  refine find_ok.mpr ⟨parts, usable, ?_⟩
  have now : Leads (tree.put location (.file content)) none maxLinks tree.current parts
      (holding location content (.file location old)) := leads_put writable way
  simpa [holding] using now

theorem readText_ok : tree.readText path = .ok text ↔
    ∃ location, tree.find path = .ok (.file location (.text text)) := by
  unfold Tree.readText
  rw [bind_ok]
  constructor
  · rintro ⟨place, found, read⟩
    cases place with
    | directory location => exact nomatch read
    | vacant location => exact nomatch read
    | file location content =>
      cases content with
      | raw bytes => exact nomatch read
      | text content =>
        cases pure_ok.mp read
        exact ⟨location, found⟩
  · rintro ⟨location, found⟩
    exact ⟨_, found, rfl⟩

theorem appendText_found (found : tree.find path = .ok (.file location content)) :
    tree.appendText path text = .ok (tree.put location (.file (content.append text))) := by
  unfold Tree.appendText
  rw [found]
  rfl

/-- Where there is a file, none has to be made. -/
theorem ensureFile_found (found : tree.find path = .ok (.file location content)) :
    tree.ensureFile path = .ok tree := by
  obtain ⟨parts, usable, way⟩ := find_ok.mp found
  have named : ¬ endsInSlash path = true := by
    intro slash
    have last : parts.getLast? = some .here := by
      rw [usableParts_ok usable, pathParts, if_pos slash]
      exact List.getLast?_concat
    obtain ⟨_, impossible⟩ := leads_here way last
    exact nomatch impossible
  have followed : tree.follow parts = .ok (.file location content) := walk_ok.mpr way
  unfold Tree.ensureFile
  refine bind_ok.mpr ⟨parts, usable, ?_⟩
  rw [if_neg named]
  exact bind_ok.mpr ⟨_, followed, rfl⟩

end EnvLoader.FileChanges
