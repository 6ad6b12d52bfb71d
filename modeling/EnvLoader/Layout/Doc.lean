/-! Documents and their layout on lines of bounded width. A document is text with places
where a line may end, gathered in boxes. A box that fits the rest of its line, together
with what follows up to the next such place, keeps to the line. One that does not ends
the line at all its places, or only at those whose next piece does not fit. -/
namespace EnvLoader.Layout

/-- The width of a line. -/
def margin : Nat := 89

/-- The room on a line that indentation cannot take away. -/
def leastRoom : Nat := 60

/-- The steps of indentation. -/
def step : Int := 4

/-- A width that no line has. -/
def unbounded : Nat := 0xffff

/-- A place where a line may end. -/
structure Gap where
  /-- The spaces written if the line goes on. -/
  blanks : Nat := 0
  /-- The change of indentation if it ends. -/
  shift : Int := 0
  /-- Written before the line's end. -/
  before : String := ""
  /-- Written at the start of the next line. -/
  after : String := ""
  /-- Written if the line goes on. -/
  inline : String := ""
  /-- Left out where the box ends right after it. -/
  awaitsMore : Bool := false
  /-- The line goes on in any case. -/
  never : Bool := false
  deriving DecidableEq, Repr, Inhabited

/-- A document. -/
inductive Doc where
  | text (content : String)
  | gap (gap : Gap)
  | box (isConsistent : Bool) (shift : Int) (body : List Doc)
  /-- Nothing, but wider than any line. -/
  | wide
  /-- Nothing, but measured as a place where a line may end. -/
  | stop
  deriving Repr, Inhabited

/-- Text. -/
def word (text : String) : List Doc := [.text text]

/-- A space where no line ends. -/
def nbsp : List Doc := word " "

/-- A space where a line may end. -/
def space : List Doc := [.gap { blanks := 1 }]

/-- An empty place where a line may end. -/
def zeroGap : List Doc := [.gap {}]

/-- An empty place where no line ends. -/
def noGap : List Doc := [.gap { never := true }]

/-- The end of a line. -/
def newline : List Doc := [.gap { blanks := unbounded }]

/-- The end of a line, unless the box ends too. -/
def newlineIfMore : List Doc := [.gap { blanks := unbounded, awaitsMore := true }]

/-- A space where a line may end, unless the box ends too. -/
def spaceIfMore : List Doc := [.gap { blanks := 1, awaitsMore := true }]

/-- The comma after an item of a list; after the last one it is written only if the line
ends there. -/
def comma (isLast : Bool) : List Doc :=
  if isLast then [.gap { before := "," }] else word "," ++ space

/-- The comma after an item of a list whose brackets have a space inside. -/
def commaOrSpace (isLast : Bool) : List Doc :=
  if isLast then [.gap { blanks := 1, before := "," }] else word "," ++ space

/-- Changes the indentation after a place at the end of a document. -/
def shifted (docs : List Doc) : List Doc :=
  match docs.getLast? with
  | some (.gap gap) => docs.dropLast ++ [.gap { gap with shift := gap.shift - step }]
  | _ => docs

/-- A box. One that holds nothing but a place for a line's end vanishes. -/
def boxed (isConsistent : Bool) (shift : Int) (body : List Doc) : List Doc :=
  match body with
  | [.gap _] => []
  | _ =>
    match body.getLast? with
    | some (.gap gap) =>
      [.box isConsistent shift (if gap.awaitsMore then body.dropLast ++ [.stop] else body)]
    | _ => [.box isConsistent shift body]

/-- A box that ends its lines at all places or at none. -/
def cbox (shift : Int) (body : List Doc) : List Doc := boxed true shift body

/-- A box that ends a line only where it has to. -/
def ibox (shift : Int) (body : List Doc) : List Doc := boxed false shift body

mutual
/-- The width of a document on one line. -/
def Doc.width : Doc → Nat
  | .text content => content.utf8ByteSize
  | .gap gap => gap.blanks
  | .box _ _ body => widthOf body
  | .wide => unbounded
  | .stop => 0

/-- The width of a sequence of documents on one line. -/
def widthOf : List Doc → Nat
  | [] => 0
  | doc :: rest => doc.width + widthOf rest
end

mutual
/-- The last text of a document. -/
def Doc.lastText? : Doc → Option String
  | .text content => some content
  | .box _ _ body => lastTextOf? body
  | .gap _ | .wide | .stop => none

/-- The last text of a sequence of documents. -/
def lastTextOf? : List Doc → Option String
  | [] => none
  | doc :: rest =>
    match lastTextOf? rest with
    | some content => some content
    | none => doc.lastText?
end

/-- Whether the last text of a sequence of documents ends in a dot. -/
def endsInDot (docs : List Doc) : Bool :=
  (lastTextOf? docs).any fun content => content.toList.getLast? == some '.'

/-- The width up to the next place where a line may end, boxes taken as a whole; `beyond`
is that width for what follows the sequence. -/
def runWidth (beyond : Nat) : List Doc → Nat
  | [] => beyond
  | .gap _ :: _ | .stop :: _ => 0
  | doc :: rest => doc.width + runWidth beyond rest

/-- A box with curly brackets after it that keeps to the line only up to a given width. -/
def narrowBox (limit : Nat) (shift : Int) (body : List Doc) : List Doc :=
  cbox shift (if limit < widthOf body then body ++ [.wide] else body)

/-- Lines written so far. -/
structure Page where
  written : String := ""
  /-- The room left on the current line. -/
  room : Int := margin
  /-- Spaces to be written before the next text. -/
  pending : Nat := 0
  deriving Repr, Inhabited

/-- Writes the pending spaces. -/
def Page.indent (page : Page) : Page :=
  { page with
    written := page.written ++ String.ofList (List.replicate page.pending ' ')
    pending := 0 }

/-- Writes text. -/
def Page.write (page : Page) (text : String) : Page :=
  let page := page.indent
  { page with
    written := page.written ++ text
    room := page.room - text.utf8ByteSize }

/-- Goes on with the line at a place where it could end. The inline text comes before the
spaces, which wait for the next text. -/
def Page.goOn (page : Page) (gap : Gap) : Page :=
  { written := page.written ++ gap.inline
    room := page.room - gap.blanks - gap.inline.utf8ByteSize
    pending := page.pending + gap.blanks }

/-- Ends the line. -/
def Page.endLine (page : Page) (gap : Gap) (indent : Int) : Page :=
  let page := if gap.before.isEmpty then page else page.indent
  let indent := indent + gap.shift
  let page : Page :=
    { written := page.written ++ gap.before ++ "\n"
      room := max (margin - indent) leastRoom
      pending := indent.toNat }
  if gap.after.isEmpty then page else page.write gap.after

/-- How a box is laid out. -/
inductive Mode where
  | fits
  | consistent
  | inconsistent
  deriving DecidableEq, Repr

mutual
/-- Lays out a document within a box. -/
def Doc.layOut (mode : Mode) (indent : Int) (beyond : Nat) : Doc → Page → Page
  | .text content, page => page.write content
  | .gap gap, page =>
    let goesOn :=
      gap.never ||
        match mode with
        | .fits => true
        | .consistent => false
        | .inconsistent => ((gap.blanks + beyond : Nat) : Int) ≤ page.room
    if goesOn then page.goOn gap else page.endLine gap indent
  | .box isConsistent shift body, page =>
    if page.room < ((widthOf body + beyond : Nat) : Int) then
      layOutAll (if isConsistent then .consistent else .inconsistent) (indent + shift) beyond
        body page
    else layOutAll .fits indent beyond body page
  | .wide, page | .stop, page => page

/-- Lays out a sequence of documents within a box. -/
def layOutAll (mode : Mode) (indent : Int) (beyond : Nat) : List Doc → Page → Page
  | [], page => page
  | doc :: rest, page =>
    layOutAll mode indent beyond rest (doc.layOut mode indent (runWidth beyond rest) page)
end

/-- The text of a document. -/
def textOfDocs (docs : List Doc) : String :=
  (layOutAll .inconsistent 0 0 docs {}).written

end EnvLoader.Layout
