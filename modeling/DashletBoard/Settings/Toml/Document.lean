/-
Module: DashletBoard.Settings.Toml.Document
Purpose: TOML documents: keys, values, tables, and the rules on what may be defined twice.
Main exports: Toml.Node, Toml.parse?
-/
import DashletBoard.Settings.Toml.Scalar
import DashletBoard.Text.Utf8

namespace DashletBoard.Toml

/-!
### Trees of definitions

How a table came about decides what may still be added to it: a table that only stands on the way to
another one may get a header later, a table made by keys with points may get more such keys, and a value
is closed.
-/

/-- How a table came about. -/
inductive Origin where
  | onTheWay
  | header
  | points
deriving Repr, DecidableEq

/-- What a name stands for while a document is read: a closed value, a table, or an array of tables, of
which the last one is open. -/
inductive Node where
  | value (value : Setting)
  | table (origin : Origin) (entries : List (String × Node))
  | tables (items : List (List (String × Node)))

/-- The entries of a table that is being read. -/
abbrev Entries := List (String × Node)

mutual

/-- The value of a node. -/
def Node.toSetting : Node → Setting
  | .value value => value
  | .table _ entries => .table (settings entries)
  | .tables items => .list (settingTables items)

/-- The values of entries. -/
def settings : List (String × Node) → List (String × Setting)
  | [] => []
  | (name, node) :: rest => (name, node.toSetting) :: settings rest

/-- The values of an array of tables. -/
def settingTables : List (List (String × Node)) → List Setting
  | [] => []
  | entries :: rest => .table (settings entries) :: settingTables rest

end

/-- Sets the node of a name. -/
def setNode (name : String) (node : Node) : Entries → Entries
  | [] => [(name, node)]
  | (other, held) :: rest =>
    if other = name then (name, node) :: rest else (other, held) :: setNode name node rest

/-- Defines a key with points, its names given in order.  On its way it may pass through tables without a
header, and through the last item of an array of tables into a table inside that item. -/
def define? (value : Setting) : List String → Entries → Option Entries
  | [], _ => none
  | [name], entries =>
    match entries.lookup name with
    | some _ => none
    | none => some (setNode name (.value value) entries)
  | name :: rest, entries =>
    match entries.lookup name with
    | none => (define? value rest []).map fun inner => setNode name (.table .points inner) entries
    | some (.table .header _) => none
    | some (.table origin inner) =>
      (define? value rest inner).map fun inner => setNode name (.table origin inner) entries
    | some (.tables items) =>
      if rest.length = 1 then none
      else
        (define? value rest (items.getLastD [])).map fun inner =>
          setNode name (.tables (items.dropLast ++ [inner])) entries
    | some (.value _) => none

/-- Changes the table at a path of names; tables that are missing on the way are made. -/
def changeAt? (change : Entries → Option Entries) : List String → Entries → Option Entries
  | [], entries => change entries
  | name :: rest, entries =>
    match entries.lookup name with
    | none =>
      (changeAt? change rest []).map fun inner => setNode name (.table .onTheWay inner) entries
    | some (.table origin inner) =>
      (changeAt? change rest inner).map fun inner => setNode name (.table origin inner) entries
    | some (.tables items) =>
      (changeAt? change rest (items.getLastD [])).map fun inner =>
        setNode name (.tables (items.dropLast ++ [inner])) entries
    | some (.value _) => none

/-- Opens a table by its header. -/
def openTable? (name : String) (entries : Entries) : Option Entries :=
  match entries.lookup name with
  | none => some (setNode name (.table .header []) entries)
  | some (.table .onTheWay inner) => some (setNode name (.table .header inner) entries)
  | some _ => none

/-- Opens a further table of an array of tables by its header. -/
def openItem? (name : String) (entries : Entries) : Option Entries :=
  match entries.lookup name with
  | none => some (setNode name (.tables [[]]) entries)
  | some (.tables items) => some (setNode name (.tables (items ++ [[]])) entries)
  | some _ => none

/-!
### Keys
-/

/-- One name of a key: bare, or a string on one line. -/
def name? (text : List Char) : Option (String × List Char) :=
  match text with
  | '"' :: rest =>
    (lineString? '"' (rest.length + 1) rest).map fun (name, rest) => (String.ofList name, rest)
  | '\'' :: rest =>
    (lineString? '\'' (rest.length + 1) rest).map fun (name, rest) => (String.ofList name, rest)
  | _ =>
    let (name, rest) := text.span isKeyChar
    if name.isEmpty then none else some (String.ofList name, rest)

/-- The names of a key with points between them, at most so many, blanks around them passed over. -/
def names? : Nat → List Char → Option (List String × List Char)
  | 0, _ => none
  | count + 1, text =>
    match name? (skipGap text) with
    | none => none
    | some (name, rest) =>
      match skipGap rest with
      | '.' :: rest => (names? count rest).map fun (names, rest) => (name :: names, rest)
      | rest => some ([name], rest)

/-- The greatest count of names in a key. -/
def greatestNames : Nat := 80

/-- The names of a key. -/
def key? (text : List Char) : Option (List String × List Char) := names? greatestNames text

/-!
### Values
-/

/-- Passes over a comment; control characters must not be part of it. -/
def skipComment? (text : List Char) : Option (List Char) :=
  match text with
  | '#' :: rest =>
    let rest := rest.dropWhile isPlain
    match rest, newline? rest with
    | [], _ => some []
    | _, some _ => some rest
    | _, none => none
  | _ => some text

/-- Passes over blanks, comments and line ends, as they may stand between the parts of an array or of a
table in braces. -/
def skipBetween? : Nat → List Char → Option (List Char)
  | 0, text => some text
  | fuel + 1, text =>
    match skipComment? (skipGap text) with
    | none => none
    | some text =>
      match newline? text with
      | some rest => skipBetween? fuel rest
      | none => some text

/-- Passes over what may stand between two parts. -/
def between? (text : List Char) : Option (List Char) := skipBetween? (text.length + 1) text

/-- The greatest depth of arrays and tables in braces inside each other. -/
def greatestDepth : Nat := 80

mutual

/-- One value, in which arrays and tables in braces may be so many deep. -/
def value? : Nat → Nat → List Char → Option (Setting × List Char)
  | 0, _, _ => none
  | fuel + 1, depth, text =>
    match text, depth with
    | '"' :: _, _ => (string? text).map fun (s, rest) => (.text (String.ofList s), rest)
    | '\'' :: _, _ => (string? text).map fun (s, rest) => (.text (String.ofList s), rest)
    | '[' :: _, 0 => none
    | '[' :: rest, depth + 1 =>
      (items? fuel depth rest).map fun (items, rest) => (.list items, rest)
    | '\x7b' :: _, 0 => none
    | '\x7b' :: rest, depth + 1 =>
      (pairs? fuel depth rest []).map fun (entries, rest) => (.table (settings entries), rest)
    | _, _ =>
      let (word, rest) := word text
      (scalar? word).map fun value => (value, rest)

/-- The items of an array up to and with its closing bracket; a comma may follow the last one. -/
def items? : Nat → Nat → List Char → Option (List Setting × List Char)
  | 0, _, _ => none
  | fuel + 1, depth, text =>
    match between? text with
    | none => none
    | some (']' :: rest) => some ([], rest)
    | some text =>
      match value? fuel depth text with
      | none => none
      | some (value, rest) =>
        match between? rest with
        | some (']' :: rest) => some ([value], rest)
        | some (',' :: rest) =>
          (items? fuel depth rest).map fun (items, rest) => (value :: items, rest)
        | _ => none

/-- The pairs of a table in braces up to and with its closing brace; a comma may follow the last one. -/
def pairs? : Nat → Nat → List Char → Entries → Option (Entries × List Char)
  | 0, _, _, _ => none
  | fuel + 1, depth, text, entries =>
    match between? text with
    | none => none
    | some ('\x7d' :: rest) => some (entries, rest)
    | some text =>
      match pair? fuel depth text entries with
      | none => none
      | some (entries, rest) =>
        match between? rest with
        | some ('\x7d' :: rest) => some (entries, rest)
        | some (',' :: rest) => pairs? fuel depth rest entries
        | _ => none

/-- One pair of a table in braces. -/
def pair? : Nat → Nat → List Char → Entries → Option (Entries × List Char)
  | 0, _, _, _ => none
  | fuel + 1, depth, text, entries =>
    match key? text with
    | none => none
    | some (names, rest) =>
      match between? rest with
      | some ('=' :: rest) =>
        match (between? rest).bind (value? fuel depth) with
        | none => none
        | some (value, rest) => (define? value names entries).map fun entries => (entries, rest)
      | _ => none

end

/-!
### Documents
-/

/-- The end of a line: blanks, a comment, and a line end or the end of the text. -/
def endOfLine? (text : List Char) : Option (List Char) :=
  match skipComment? (skipGap text) with
  | none => none
  | some [] => some []
  | some text => newline? text

/-- Reads a header after its opening bracket: the path, whether it opens an item of an array of tables,
and the rest of the line. -/
def header? (text : List Char) : Option (List String × Bool × List Char) :=
  match text with
  | '[' :: rest =>
    match key? rest with
    | some (names, ']' :: ']' :: rest) => some (names, true, rest)
    | _ => none
  | _ =>
    match key? text with
    | some (names, ']' :: rest) => some (names, false, rest)
    | _ => none

/-- Reads lines; keys belong to the table at the path of the last header. -/
def lines? : Nat → List String → Entries → List Char → Option Entries
  | 0, _, _, _ => none
  | fuel + 1, path, entries, text =>
    match endOfLine? text with
    | some [] => some entries
    | some rest => lines? fuel path entries rest
    | none =>
      match skipGap text with
      | '[' :: rest =>
        match header? rest with
        | none => none
        | some (names, isItem, rest) =>
          let opened := names.getLastD ""
          let change := if isItem then openItem? opened else openTable? opened
          match changeAt? change names.dropLast entries, endOfLine? rest with
          | some entries, some rest => lines? fuel names entries rest
          | _, _ => none
      | text =>
        match key? text with
        | some (names, '=' :: rest) =>
          match value? (rest.length + 1) greatestDepth (skipGap rest) with
          | none => none
          | some (value, rest) =>
            match changeAt? (define? value names) path entries, endOfLine? rest with
            | some entries, some rest => lines? fuel path entries rest
            | _, _ => none
        | _ => none

/-- Reads a document; a byte order mark may stand in front of it. -/
def parse? (text : List Char) : Option (List (String × Setting)) :=
  let text := Text.withoutMark text
  (lines? (text.length + 2) [] [] text).map settings

end DashletBoard.Toml
