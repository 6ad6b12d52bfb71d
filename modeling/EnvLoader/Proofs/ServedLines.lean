import EnvLoader.Proofs.ResponseLines
import EnvLoader.Proofs.StoresAlike

/-! What serving a stream of lines comes to. The lines that are not blank are answered in order, as
single lines are, until as many were answered as the server is configured for. The loop looks at the
limit only once it has taken a line, so one line more is taken than was answered; the run says which,
and everything about the answers and about the lines that are gone follows from that. -/
namespace EnvLoader.ServedLines
open Files KeyValue Text Outcomes FileChanges StoresAlike AnsweredLines ResponseLines

/-- What a server can come to: it starts on a configuration, and then answers single lines and
streams of them, whatever becomes of the files in between. -/
inductive Reachable : Server → Prop
  | started {config : ServerConfig} {before after : Tree} {server : Server}
      (starts : Server.ofConfig config before = (.ok server, after)) : Reachable server
  | handled {server : Server} (reached : Reachable server) (tree : Tree) (line : String) :
      Reachable (server.handle tree line).2.1
  | served {server : Server} (reached : Reachable server) (tree : Tree) (lines : List Bytes) :
      Reachable (server.serve tree lines).server

/-- The lines that are requests, if only bad ones: those with something on them. -/
def requestsIn (lines : List String) : List String := lines.filter fun line => !isBlankLine line

/-- How many of so many requests a server answers: all of them, or as many as it has left. -/
def answerable (server : Server) (requests : Nat) : Nat :=
  match server.config.maxRequests with
  | none => requests
  | some limit => min requests (limit - server.served)

/-- What serving returns, if every line it came to was text: how many requests it answered. -/
def returned (before : Server) (service : Service) : Option Nat :=
  if service.ending = .notText then none else some (service.server.served - before.served)

variable {server now : Server} {tree files : Tree} {line : String} {lines before : List String}
  {answered : List (String × Response)} {service : Service}

/-! ### Lines answered one by one -/

theorem answerAll_from (start : List (String × Response)) (lines : List String) :
    lines.foldl (fun (answered, server, tree) line =>
        let (response, server, tree) := Server.handle server tree line
        (answered ++ [(line, response)], server, tree)) (start, server, tree) =
      (start ++ (answerAll server tree lines).1, (answerAll server tree lines).2) := by
  induction lines using List.reverseRecOn with
  | nil => simp [answerAll]
  | append_singleton lines line ih =>
    rcases ran : answerAll server tree lines with ⟨earlier, between, middle⟩
    rw [ran] at ih
    rw [List.foldl_append, ih, answerAll_concat ran]
    simp

/-- The first line is answered, and the others from then on. -/
theorem answerAll_cons {response : Response} {next : Server} {left : Tree}
    (handled : server.handle tree line = (response, next, left))
    (rest : answerAll next left lines = (answered, now, files)) :
    answerAll server tree (line :: lines) = ((line, response) :: answered, now, files) := by
  unfold answerAll
  simp only [List.foldl_cons, handled]
  rw [answerAll_from, rest]
  rfl

/-- Every line is answered and counted, and the configuration stays. -/
theorem answerAll_counts (ran : answerAll server tree lines = (answered, now, files)) :
    answered.map (·.1) = lines ∧ now.config = server.config ∧
      now.served = server.served + lines.length := by
  induction lines generalizing server tree answered with
  | nil =>
    cases ran
    exact ⟨rfl, rfl, rfl⟩
  | cons line lines ih =>
    obtain ⟨response, store, after, handled, -⟩ := handle_ends server tree line
    rcases rest : answerAll { server with store, served := server.served + 1 } after lines with
      ⟨later, last, left⟩
    cases ran.symm.trans (answerAll_cons handled rest)
    obtain ⟨same, config, counted⟩ := ih rest
    refine ⟨by simp [same], config, counted.trans ?_⟩
    simp only [List.length_cons]
    omega

/-- Where nothing in the store breaks a line, no response to a run of lines is broken. -/
theorem answerAll_unbroken (values : PlainValues server.store) (path : PlainPath server.store)
    (ran : answerAll server tree lines = (answered, now, files)) :
    ∀ entry ∈ answered, Unbroken entry.2.text := by
  induction lines generalizing server tree answered with
  | nil =>
    cases ran
    exact nofun
  | cons line lines ih =>
    have unbroken := @handle_unbroken server tree line values path
    obtain ⟨valuesToo, samePath⟩ := @handle_keeps server tree line values
    rcases handled : server.handle tree line with ⟨response, next, left⟩
    rw [handled] at unbroken valuesToo samePath
    rcases rest : answerAll next left lines with ⟨later, last, final⟩
    cases ran.symm.trans (answerAll_cons handled rest)
    have pathToo : PlainPath next.store := fun name named => path name (samePath ▸ named)
    intro entry member
    rcases List.mem_cons.mp member with rfl | member
    · exact unbroken
    · exact ih valuesToo pathToo rest entry member

theorem serve_plain (values : PlainValues server.store) (input : List Bytes) :
    PlainValues (server.serve tree input).server.store := by
  induction input generalizing server tree with
  | nil => exact values
  | cons line rest ih =>
    rw [Server.serve]
    split
    · exact values
    · split
      · exact values
      · rename_i line _
        have kept := (@handle_keeps server tree line values).1
        rcases handled : server.handle tree line with ⟨response, next, left⟩
        rw [handled] at kept
        split
        · exact ih values
        · exact ih kept

/-- In whatever state a server is, the values in its store stay on one line. -/
theorem reachable_plain (reached : Reachable server) : PlainValues server.store := by
  induction reached with
  | @started config before after server starts =>
    rcases builds : config.store.build before with ⟨outcome, files⟩
    simp only [Server.ofConfig, builds] at starts
    obtain ⟨made, -⟩ := Prod.mk.inj starts
    obtain ⟨store, rfl, rfl⟩ := map_ok.mp made
    exact build_plain builds
  | handled _ tree line values => exact (handle_keeps values).1
  | served _ tree lines values => exact serve_plain values lines

/-! ### Lines that are served -/

/-- How serving comes to an end behind some of its lines: there are no others, or it stops at the
next one, which is taken all the same. It stops there as soon as a request has used up the limit. -/
inductive Ended (lines before : List String) (service : Service) : Prop
  | through (all : lines = before) (ending : service.ending = .inputOver) (unread : service.unread = [])
  | limit {line : String} {rest : List String} (split : lines = before ++ line :: rest)
      (ending : service.ending = .exhausted) (unread : service.unread = rest.map .text)
      (exhausted : service.server.isExhausted = true)
      (behind : ∀ last, before.getLast? = some last → isBlankLine last = false)

/-- What serving did to the lines before it came to its end: the requests among them were answered
one by one, and the limit had room for them. -/
structure Served (server : Server) (tree : Tree) (lines before : List String)
    (answered : List (String × Response)) (service : Service) : Prop where
  ran : answerAll server tree (requestsIn before) = (answered, service.server, service.tree)
  responses : service.responses = answered.map (·.2)
  within : ∀ limit, server.config.maxRequests = some limit →
    (requestsIn before).length ≤ limit - server.served
  ended : Ended lines before service

theorem isExhausted_iff : server.isExhausted = true ↔
    ∃ limit, server.config.maxRequests = some limit ∧ limit ≤ server.served := by
  unfold Server.isExhausted
  cases server.config.maxRequests <;> simp

/-- A blank line is passed over. -/
theorem served_blank (unexhausted : server.isExhausted = false) (blank : isBlankLine line = true)
    (served : Served server tree lines before answered service) :
    Served server tree (line :: lines) (line :: before) answered service := by
  have same : requestsIn (line :: before) = requestsIn before := by simp [requestsIn, blank]
  refine ⟨same ▸ served.ran, served.responses, same ▸ served.within, ?_⟩
  cases served.ended with
  | through all ending unread => exact .through (by rw [all]) ending unread
  | limit split ending unread exhausted behind =>
    refine .limit (by rw [split]; rfl) ending unread exhausted fun last isLast => ?_
    cases before with
    | nil =>
      -- The limit was not used up before the blank line, so it is not behind it.
      have still : service.server = server := (congrArg (·.2.1) served.ran).symm
      rw [still, unexhausted] at exhausted
      exact nomatch exhausted
    | cons first rest =>
      rw [List.getLast?_cons_cons] at isLast
      exact behind last isLast

/-- A request is answered, and the limit counts it. -/
theorem served_request {response : Response} {next : Server} {left : Tree}
    (unexhausted : server.isExhausted = false) (request : isBlankLine line = false)
    (handled : server.handle tree line = (response, next, left))
    (served : Served next left lines before answered service) :
    Served server tree (line :: lines) (line :: before) ((line, response) :: answered)
      { service with responses := response :: service.responses } := by
  have more : requestsIn (line :: before) = line :: requestsIn before := by
    simp [requestsIn, request]
  have one : answerAll server tree [line] = ([(line, response)], next, left) :=
    answerAll_cons handled rfl
  obtain ⟨-, config, counted⟩ := answerAll_counts one
  refine ⟨?_, ?_, fun limit limited => ?_, ?_⟩
  · rw [more]
    exact answerAll_cons handled served.ran
  · simp [served.responses]
  · have room : ¬ limit ≤ server.served := by
      intro used
      rw [isExhausted_iff.mpr ⟨limit, limited, used⟩] at unexhausted
      exact nomatch unexhausted
    have within := served.within limit (config ▸ limited)
    simp only [List.length_singleton] at counted
    rw [more, List.length_cons]
    omega
  · cases served.ended with
    | through all ending unread => exact .through (by rw [all]) ending unread
    | limit split ending unread exhausted behind =>
      refine .limit (by rw [split]; rfl) ending unread exhausted fun last isLast => ?_
      cases before with
      | nil =>
        cases isLast
        exact request
      | cons first rest =>
        rw [List.getLast?_cons_cons] at isLast
        exact behind last isLast

/-- What serving text comes to, by the loop over its lines. -/
theorem serve_text (server : Server) (tree : Tree) (lines : List String) :
    ∃ before answered,
      Served server tree lines before answered (server.serve tree (lines.map .text)) := by
  induction lines generalizing server tree with
  | nil => exact ⟨[], [], rfl, rfl, fun _ _ => Nat.zero_le _, .through rfl rfl rfl⟩
  | cons line lines ih =>
    rw [List.map_cons, Server.serve]
    cases exhausted : server.isExhausted with
    | true =>
      exact ⟨[], [], rfl, rfl, fun _ _ => Nat.zero_le _, .limit rfl rfl rfl exhausted nofun⟩
    | false =>
      cases blank : isBlankLine line with
      | true =>
        obtain ⟨before, answered, served⟩ := ih server tree
        simp only [Bool.false_eq_true, ↓reduceIte, Bytes.text?, blank]
        exact ⟨_, _, served_blank exhausted blank served⟩
      | false =>
        rcases handled : server.handle tree line with ⟨response, next, left⟩
        obtain ⟨before, answered, served⟩ := ih next left
        simp only [Bool.false_eq_true, ↓reduceIte, Bytes.text?, blank, handled]
        exact ⟨_, _, served_request exhausted blank handled served⟩

/-! ### What is answered, and what is lost -/

/-- The lines of a text. -/
def linesOf (input : String) : List String := (Text.lines input.toList).map String.ofList

theorem text_lines (input : String) : (Bytes.text input).lines = (linesOf input).map .text := by
  simp [Bytes.lines, linesOf]

/-- The requests that were answered are the first ones, as many as the limit had room for. -/
theorem served_first (served : Served server tree lines before answered service) :
    requestsIn before = (requestsIn lines).take (answerable server (requestsIn lines).length) ∧
      (requestsIn before).length = answerable server (requestsIn lines).length := by
  obtain ⟨-, config, counted⟩ := answerAll_counts served.ran
  cases served.ended with
  | through all _ _ =>
    have enough : answerable server (requestsIn lines).length = (requestsIn before).length := by
      unfold answerable
      cases limited : server.config.maxRequests with
      | none => rw [all]
      | some limit =>
        have within := served.within limit limited
        simp only [all]
        omega
    rw [enough, all, List.take_length]
    exact ⟨rfl, rfl⟩
  | @limit line rest split _ _ exhausted _ =>
    obtain ⟨limit, limited, used⟩ := isExhausted_iff.mp exhausted
    rw [config] at limited
    have within := served.within limit limited
    have parts : requestsIn lines = requestsIn before ++ requestsIn (line :: rest) := by
      rw [split, requestsIn, List.filter_append]
      rfl
    have enough : answerable server (requestsIn lines).length = (requestsIn before).length := by
      simp only [answerable, limited, parts, List.length_append]
      omega
    rw [enough, parts, List.take_left]
    exact ⟨rfl, rfl⟩

/-- A server on a store in memory, in whatever state it is, answers the requests among the lines of
a text in order, as many as the limit has room for, and no others. It sends each response on a line of
its own, and returns how many requests it answered, by which its count has grown. -/
theorem requests_served {store : MemoryStore} (reached : Reachable server)
    (inMemory : server.store = .memory store) (tree : Tree) (input : String) :
    let requests := requestsIn (linesOf input)
    let handled := requests.take (answerable server requests.length)
    let service := server.serve tree (Bytes.text input).lines
    ∃ answered, answerAll server tree handled = (answered, service.server, service.tree) ∧
      answered.map (·.1) = handled ∧ handled.length = answerable server requests.length ∧
      service.output = String.join (answered.map fun entry => entry.2.text ++ "\n") ∧
      (∀ entry ∈ answered, Unbroken entry.2.text) ∧
      returned server service = some handled.length ∧
      service.server.served = server.served + handled.length := by
  intro requests handled service
  obtain ⟨before, answered, served⟩ := serve_text server tree (linesOf input)
  rw [← text_lines] at served
  obtain ⟨first, count⟩ := served_first served
  have ran : answerAll server tree handled = (answered, service.server, service.tree) := by
    rw [show handled = requestsIn before from first.symm]
    exact served.ran
  obtain ⟨same, -, counted⟩ := answerAll_counts ran
  have path : PlainPath server.store := by
    rw [inMemory]
    exact nofun
  have text : service.ending ≠ .notText := by
    cases served.ended with
    | through _ ending _ => exact fun notText => nomatch ending.symm.trans notText
    | limit _ ending _ _ _ => exact fun notText => nomatch ending.symm.trans notText
  refine ⟨answered, ran, same, (congrArg List.length first).symm.trans count, ?_, ?_, ?_, counted⟩
  · rw [Service.output, served.responses, List.map_map]
    rfl
  · exact answerAll_unbroken (reachable_plain reached) path ran
  · rw [returned, if_neg text, counted, Nat.add_sub_cancel_left]

/-- A server with room for a single key, which answers no more than so many requests. -/
def limited (requests : Nat) : Server where
  config := { oneKey.config with maxRequests := some requests }
  store := .memory { capacity := 1 }

theorem limited_reached (requests : Nat) : Reachable (limited requests) :=
  have starts : Server.ofConfig (limited requests).config {} = (.ok (limited requests), {}) := rfl
  .started starts

/-- With one of three requests answered there is room for two more, and blank lines take none. -/
theorem limited_serves : ∃ now : Server, Reachable now ∧ now.served = 1 ∧
    let service := now.serve {} (Bytes.text "\nPUT a 1\r\n \nGET a\nGET b\n").lines
    service.output = "STORED\nOK 1\n" ∧ returned now service = some 2 := by
  have first : ((limited 3).handle {} "GET a").2.1 = { limited 3 with served := 1 } := by
    decide +kernel
  have reached : Reachable { limited 3 with served := 1 } :=
    first ▸ .handled (limited_reached 3) {} "GET a"
  obtain ⟨answered, ran, -, -, output, -, count, -⟩ :=
    requests_served reached rfl {} "\nPUT a 1\r\n \nGET a\nGET b\n"
  have given : answered = [("PUT a 1", .stored), ("GET a", .value "1")] :=
    (congrArg Prod.fst ran).symm.trans (by decide +kernel)
  subst given
  exact ⟨_, reached, rfl, output, count.trans (by decide +kernel)⟩

/-! ### Requests that are lost -/

/-- None of the lines that were taken is a request without a response line, and none has several. -/
def NoneLost (taken : List String) (service : Service) : Prop :=
  service.output.toList.count '\n' = (requestsIn taken).length

instance (taken : List String) (service : Service) : Decidable (NoneLost taken service) :=
  inferInstanceAs (Decidable (_ = _))

/-- As many lines are sent as there are responses. -/
theorem sent_lines {responses : List Response}
    (unbroken : ∀ response ∈ responses, Unbroken response.text) :
    (String.join (responses.map fun response => response.text ++ "\n")).toList.count '\n' =
      responses.length := by
  induction responses with
  | nil => rfl
  | cons response rest ih =>
    have first : response.text.toList.count '\n' = 0 :=
      List.count_eq_zero.mpr (unbroken response (by simp))
    have others := ih fun other member => unbroken other (by simp [member])
    simp only [List.map_cons, String.join_cons, String.toList_append, List.count_append, first, others,
      List.length_cons]
    rw [show "\n".toList.count '\n' = 1 from rfl]
    omega

/-- A server in whatever state, on a store whose file has a name on one line if it has one, sends one
line for each request it answers. The lines it takes are those it came to, if these are all; if the
limit ends it, the line after the last request it answered is taken too. That line has no response, so
a request is lost unless it is blank. -/
theorem taken_answered (reached : Reachable server) (path : PlainPath server.store) (tree : Tree)
    (lines : List String) :
    let service := server.serve tree (lines.map .text)
    ∃ taken answered, lines.map .text = taken.map .text ++ service.unread ∧
      answerAll server tree (answered.map (·.1)) = (answered, service.server, service.tree) ∧
      service.output = String.join (answered.map fun entry => entry.2.text ++ "\n") ∧
      (∀ entry ∈ answered, Unbroken entry.2.text) ∧
      (service.ending = .inputOver ∧ service.unread = [] ∧
          answered.map (·.1) = requestsIn taken ∧ NoneLost taken service ∨
        service.ending = .exhausted ∧ service.server.isExhausted = true ∧
          ∃ before line, taken = before ++ [line] ∧ answered.map (·.1) = requestsIn before ∧
            (∀ last, before.getLast? = some last → isBlankLine last = false) ∧
            (NoneLost taken service ↔ isBlankLine line = true)) := by
  intro service
  obtain ⟨before, answered, served⟩ := serve_text server tree lines
  obtain ⟨same, -, -⟩ := answerAll_counts served.ran
  have unbroken := answerAll_unbroken (reachable_plain reached) path served.ran
  have output : service.output = String.join (answered.map fun entry => entry.2.text ++ "\n") := by
    rw [Service.output, served.responses, List.map_map]
    rfl
  have sent : service.output.toList.count '\n' = (requestsIn before).length := by
    have each : ∀ response ∈ answered.map (·.2), Unbroken response.text := by
      simpa using fun response line member => unbroken (line, response) member
    rw [Service.output, served.responses, sent_lines each, ← same, List.length_map, List.length_map]
  have ran : answerAll server tree (answered.map (·.1)) = (answered, service.server, service.tree) := by
    rw [same]
    exact served.ran
  cases served.ended with
  | through all ending unread =>
    refine ⟨before, answered, ?_, ran, output, unbroken, .inl ⟨ending, unread, same, sent⟩⟩
    rw [all, unread, List.append_nil]
  | @limit line rest split ending unread exhausted behind =>
    refine ⟨before ++ [line], answered, ?_, ran, output, unbroken,
      .inr ⟨ending, exhausted, before, line, rfl, same, behind, ?_⟩⟩
    · rw [unread, split]
      simp
    · unfold NoneLost
      rw [sent, requestsIn, requestsIn, List.filter_append]
      cases blank : isBlankLine line <;> simp [blank]

/-- The line after the last request that is answered is taken, which is no loss if it is blank. -/
theorem limited_takes :
    let service := (limited 1).serve {} (["", "GET a", " ", "GET b"].map .text)
    service.ending = .exhausted ∧ service.unread = [.text "GET b"] ∧
      NoneLost ["", "GET a", " "] service := by
  intro service
  have path : PlainPath (limited 1).store := nofun
  have ending : service.ending = .exhausted := by decide +kernel
  have unread : service.unread = [.text "GET b"] := by decide +kernel
  obtain ⟨taken, answered, split, -, -, -, ends⟩ :=
    taken_answered (limited_reached 1) path {} ["", "GET a", " ", "GET b"]
  have texts : ["", "GET a", " "].map Bytes.text = taken.map .text :=
    (List.append_left_inj service.unread).mp (unread ▸ split)
  cases List.map_injective_iff.mpr (fun _ _ => Bytes.text.inj) texts
  rcases ends with ⟨through, -⟩ | ⟨-, -, before, line, parts, -, -, lost⟩
  · exact nomatch ending.symm.trans through
  · have isLast : " " = line := by simpa using congrArg List.getLast? parts
    exact ⟨ending, unread, lost.mpr (isLast ▸ by decide)⟩

/-- A server on a store in the file of a name. -/
def onFile (name : String) : Server where
  config := { oneKey.config with
    store := { kind := "FILE", memory := none, file := some ⟨name, true⟩ } }
  store := .file { path := name }

/-- A server starts on a file that it makes. -/
theorem onFile_reached {name : String} {location : Location} (slashless : ¬ endsInSlash name = true)
    (vacant : ({} : Tree).find name = .ok (.vacant location)) : Reachable (onFile name) := by
  have made := ensureFile_vacant slashless vacant
  have absent : ∀ location content, ({} : Tree).find name ≠ .ok (.file location content) :=
    fun location content found => nomatch Except.ok.inj (vacant.symm.trans found)
  have opens : FileStore.openFile name true {} =
      (.ok { path := name }, Tree.put {} location (.file (.text ""))) := by
    simp only [FileStore.openFile, ↓reduceIte, made, FileStore.load, ensured_empty absent made]
    rfl
  have starts : Server.ofConfig (onFile name).config {} =
      (.ok (onFile name), Tree.put {} location (.file (.text ""))) := by
    simp only [Server.ofConfig, onFile, StoreConfig.build, FileStoreConfig.build, opens]
    rfl
  exact .started starts

theorem brokenName_vacant : ({} : Tree).find "a\nb" = .ok (.vacant [.text "a\nb"]) := by
  have parts : pathParts "a\nb" = [.name "a\nb"] := by decide
  have usable : usableParts "a\nb" = .ok [.name "a\nb"] := by
    rw [usableParts, if_neg (by decide), if_neg (by decide), if_neg (by decide), parts]
    rfl
  exact find_ok.mpr ⟨_, usable, .vacant (by decide) rfl⟩

/-- A put into a file that is gone is refused with two lines, if the name of the file has two. -/
theorem brokenName_refused : (onFile "a\nb").handle {} "PUT a 1" =
    (.rejected (StoreError.file "a\nb" .notFound).message, { onFile "a\nb" with served := 1 }, {}) := by
  have read : Request.ofLine "PUT a 1" = .ok (.put "a" "1") := by decide
  have valid : isValidEntry "a" "1" = true := by decide
  have gone : ({} : Tree).appendText "a\nb" (entryLine "a" "1") = .error .notFound := by
    rw [Tree.appendText, brokenName_vacant]
    rfl
  simp only [Server.handle, read]
  rw [if_pos (by decide)]
  simp only [Server.perform, onFile, Store.put, FileStore.put, valid, gone]
  rfl

/-- A server that answers one request takes the next one too and answers it with nothing; one that
answers a request with an error of its file may send two lines. -/
theorem requests_lost :
    (Reachable (limited 1) ∧
      ((limited 1).serve {} [.text "GET a", .text "GET b"]).responses = [.notFound] ∧
      ((limited 1).serve {} [.text "GET a", .text "GET b"]).unread = [] ∧
      ¬ NoneLost ["GET a", "GET b"] ((limited 1).serve {} [.text "GET a", .text "GET b"])) ∧
    Reachable (onFile "a\nb") ∧ ((onFile "a\nb").serve {} [.text "PUT a 1"]).unread = [] ∧
      ¬ NoneLost ["PUT a 1"] ((onFile "a\nb").serve {} [.text "PUT a 1"]) := by
  have unlimited : (onFile "a\nb").isExhausted = false := rfl
  have request : isBlankLine "PUT a 1" = false := by decide
  have refused : (onFile "a\nb").serve {} [.text "PUT a 1"] =
      { server := { onFile "a\nb" with served := 1 }, tree := {}
        responses := [.rejected (StoreError.file "a\nb" .notFound).message] } := by
    rw [Server.serve]
    simp only [unlimited, Bytes.text?, request, brokenName_refused, Bool.false_eq_true, ↓reduceIte]
    rfl
  refine ⟨⟨limited_reached 1, by decide +kernel, by decide +kernel, by decide +kernel⟩, ?_⟩
  rw [refused]
  exact ⟨onFile_reached (by decide) brokenName_vacant, rfl, by decide +kernel⟩

end EnvLoader.ServedLines
