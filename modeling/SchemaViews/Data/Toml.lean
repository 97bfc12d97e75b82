import SchemaViews.Data.Toml.Moment
import SchemaViews.Data.Toml.Table

/-!
# TOML

A reader for TOML documents. A table may be opened once by a header, and what
is written inline is complete.
-/

namespace SchemaViews.Toml

open SchemaViews.Text

def scalar? (text : List Char) : Option (Data × List Char) :=
  match text with
  | '"' :: _ | '\'' :: _ =>
      (string? text).map fun (content, after) => (.text (String.ofList content), after)
  | _ =>
    match dropStart? "true".toList text, dropStart? "false".toList text with
    | some after, _ => some (.bool true, after)
    | _, some after => some (.bool false, after)
    | none, none =>
      match moment? text with
      | some result => result
      | none => (((basedInteger? text).or (decimal? text)).or (specialFloat? text))

mutual

def value? : Nat → List Char → Option (Data × List Char)
  | 0, _ => none
  | fuel + 1, text =>
    match text with
    | '[' :: rest => do
      match ← skipFiller? rest.length rest with
      | ']' :: after => some (.list [], after)
      | inner =>
        let (items, after) ← items? fuel inner
        some (.list items, after)
    | '\x7b' :: rest =>
      match skipSpace rest with
      | '\x7d' :: after => some (.record [], after)
      | inner => (inlineFields? fuel [] [] inner).map fun (fields, after) => (.record fields, after)
    | _ => scalar? text

/-- The items of an array up to its closing bracket; a comma may follow the last one. -/
def items? : Nat → List Char → Option (List Data × List Char)
  | 0, _ => none
  | fuel + 1, text => do
    let (item, afterItem) ← value? fuel text
    match ← skipFiller? afterItem.length afterItem with
    | ']' :: after => some ([item], after)
    | ',' :: rest =>
      match ← skipFiller? rest.length rest with
      | ']' :: after => some ([item], after)
      | more =>
        let (items, after) ← items? fuel more
        some (item :: items, after)
    | _ => none

def field? : Nat → List Char → Option ((Path × Data) × List Char)
  | 0, _ => none
  | fuel + 1, text => do
    let (path, afterKey) ← key? (text.length + 1) text
    let (value, after) ← value? fuel (skipSpace (← dropStart? ['='] afterKey))
    some ((path, value), after)

def inlineFields? : Nat → List Marked → List (String × Data) → List Char →
    Option (List (String × Data) × List Char)
  | 0, _, _, _ => none
  | fuel + 1, marks, fields, text => do
    let ((path, value), afterField) ← field? fuel text
    if isMarked marks path .frozen then none
    else
      let added ← updateTable false (addField (path.getLastD "") value) path.dropLast fields
      match skipSpace afterField with
      | '\x7d' :: after => some (added, after)
      | ',' :: rest =>
        let marked := if isNest value then ⟨path, .frozen, true⟩ :: marks else marks
        inlineFields? fuel marked added (skipSpace rest)
      | _ => none

end

/-- A document that is being read: its tables, their marks, the tables that the fields of the
current section open, and the path of that section. -/
structure State where
  fields : List (String × Data) := []
  marks : List Marked := []
  pending : List Path := []
  header : Path := []

def State.closeSection (state : State) : State :=
  { state with marks := state.marks ++ state.pending.map (fun path => ⟨path, .opened, false⟩),
               pending := [] }

def State.openTable? (state : State) (path : Path) : Option State :=
  if isMarked state.marks path .opened || isMarked state.marks path .frozen then none
  else
    (updateTable true some path state.fields).map fun fields =>
      { state with fields := fields, marks := state.marks ++ [⟨path, .opened, false⟩],
                   header := path }

/-- The header of one more table of an array. What was inside the table before it is forgotten. -/
def State.openItem? (state : State) (path : Path) : Option State :=
  if isMarked state.marks path .frozen then none
  else
    let kept := state.marks.filter fun entry => !path.isPrefixOf entry.path
    (updateTable true (appendTable (path.getLastD "")) path.dropLast state.fields).map fun fields =>
      { state with fields := fields, marks := kept ++ [⟨path, .opened, false⟩], header := path }

def innerPaths (header path : Path) : List Path :=
  (List.range (path.length - 1)).map fun count => header ++ path.take (count + 1)

def State.addField? (state : State) (path : Path) (value : Data) : Option State :=
  let inner := innerPaths state.header path
  let parent := state.header ++ path.dropLast
  if inner.any fun table => isMarked state.marks table .opened then none
  else if isMarked state.marks parent .frozen then none
  else
    (updateTable true (addField (path.getLastD "") value) parent state.fields).map fun fields =>
      let frozen : List Marked :=
        if isNest value then [⟨state.header ++ path, .frozen, true⟩] else []
      { state with fields := fields, marks := state.marks ++ frozen,
                   pending := state.pending ++ inner }

def statement? (state : State) (text : List Char) : Option (State × List Char) :=
  match text with
  | '[' :: '[' :: rest => do
    let (path, afterKey) ← key? (rest.length + 1) (skipSpace rest)
    let opened ← state.closeSection.openItem? path
    some (opened, ← dropStart? [']', ']'] afterKey)
  | '[' :: rest => do
    let (path, afterKey) ← key? (rest.length + 1) (skipSpace rest)
    let opened ← state.closeSection.openTable? path
    some (opened, ← dropStart? [']'] afterKey)
  | '#' :: _ => some (state, text)
  | _ => do
    let ((path, value), after) ← field? (2 * text.length + 2) text
    some (← state.addField? path value, after)

def lines? : Nat → State → List Char → Option State
  | 0, _, _ => none
  | fuel + 1, state, text =>
    match skipSpace text with
    | [] => some state
    | '\n' :: rest => lines? fuel state rest
    | first => do
      let (next, afterStatement) ← statement? state first
      match ← skipComment? (skipSpace afterStatement) with
      | [] => some next
      | '\n' :: rest => lines? fuel next rest
      | _ => none

def read? (text : List Char) : Option Data :=
  let joined := joinLineEnds text
  (lines? (joined.length + 1) {} joined).map fun state => .record state.fields

end SchemaViews.Toml
