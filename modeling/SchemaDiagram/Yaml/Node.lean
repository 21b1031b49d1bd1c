import SchemaDiagram.Json.Merge
import SchemaDiagram.Yaml.Token
import SchemaDiagram.Yaml.Word

/-! # Nodes of a file

A file is a tree of words, quoted texts, lists and maps. Between brackets and by indentation the
same trees are written.

* **`Node.ofTokens?`** — the tree that some tokens denote.
* **`Node.value`** — its data document, or the first word without a value. -/

namespace SchemaDiagram.Yaml

/-- A part of the tree that a file is. -/
inductive Node where
  /-- A word without quotes. -/
  | plain (word : Text)
  /-- A text between quotes. -/
  | quoted (text : Text)
  /-- A list. -/
  | list (items : List Node)
  /-- A map. -/
  | map (entries : List (Node × Node))
deriving Inhabited

/-! ## Maps -/

namespace Node

/-- What is left out. -/
def empty : Node := plain []

/-- Whether a node is a given plain word. -/
def isWord (word : Text) : Node → Bool
  | plain w => w = word
  | _ => false

/-- The entries of a map. -/
def entries? : Node → Option (List (Node × Node))
  | map entries => some entries
  | _ => none

/-- The entries that the value of a merge key stands for: those of a map, or those of several
maps, of which an earlier one counts more. -/
def merged? : Node → Option (List (Node × Node))
  | list items => (items.mapM entries?).map fun maps => maps.reverse.flatten
  | node => node.entries?

/-- A map with the entries of others in place of its merge keys, in front of its own entries. -/
def ofEntries? (entries : List (Node × Node)) : Option Node := do
  let merges ← (entries.filter fun entry => entry.1.isWord mergeWord).mapM fun entry =>
    entry.2.merged?
  let own := entries.filter fun entry => !entry.1.isWord mergeWord
  return map (merges.flatten ++ own.map fun (key, value) =>
    (if key.isWord valueWord then quoted valueWord else key, value))

end Node

/-! ## Trees -/

/-- Whether the first token is one of some, or there is none. -/
def startsWithAny (tokens marks : List Token) : Bool := tokens.head?.all marks.contains

mutual

/-- The node at the start of some tokens, and the rest; `isBlock` says whether it may be indented
and `isLoose` whether it may be a list that is not. -/
def readNode? (isBlock isLoose : Bool) (tokens : List Token) :
    (fuel : Nat) → Option (Node × List Token)
  | 0 => none
  | fuel + 1 =>
    match tokens with
    | .item :: _ =>
      if isLoose then (readLooseItems? tokens fuel).map fun (items, rest) => (.list items, rest)
      else none
    | .plain word :: rest => some (.plain word, rest)
    | .quoted text :: rest => some (.quoted text, rest)
    | .listOpen :: rest =>
      (readFlowItems? true rest fuel).map fun (items, rest) => (.list items, rest)
    | .mapOpen :: rest => do
      let (entries, rest) ← readFlowEntries? true rest fuel
      return (← Node.ofEntries? entries, rest)
    | .blockList :: rest =>
      if isBlock then (readItems? rest fuel).map fun (items, rest) => (.list items, rest) else none
    | .blockMap :: rest =>
      if isBlock then do
        let (entries, rest) ← readEntries? rest fuel
        return (← Node.ofEntries? entries, rest)
      else none
    | _ => none

/-- The node at the start of some tokens, an empty one in front of the given marks. -/
def readUnless? (marks : List Token) (isBlock isLoose : Bool) (tokens : List Token) :
    (fuel : Nat) → Option (Node × List Token)
  | 0 => none
  | fuel + 1 =>
    if startsWithAny tokens marks then some (.empty, tokens)
    else readNode? isBlock isLoose tokens fuel

/-- The value behind a key: a colon and a node, or nothing. -/
def readValue? (marks : List Token) (isBlock : Bool) (tokens : List Token) :
    (fuel : Nat) → Option (Node × List Token)
  | 0 => none
  | fuel + 1 =>
    match tokens with
    | .value :: rest => readUnless? marks isBlock isBlock rest fuel
    | rest => some (.empty, rest)

/-- The items of an indented list, and what follows its end. -/
def readItems? (tokens : List Token) : (fuel : Nat) → Option (List Node × List Token)
  | 0 => none
  | fuel + 1 =>
    match tokens with
    | .item :: rest => do
      let (item, rest) ← readUnless? [.item, .blockEnd] true false rest fuel
      let (items, rest) ← readItems? rest fuel
      return (item :: items, rest)
    | .blockEnd :: rest => some ([], rest)
    | _ => none

/-- The items of a list that is not indented, and what follows. -/
def readLooseItems? (tokens : List Token) : (fuel : Nat) → Option (List Node × List Token)
  | 0 => none
  | fuel + 1 =>
    match tokens with
    | .item :: rest => do
      let (item, rest) ← readUnless? [.item, .key, .value, .blockEnd] true false rest fuel
      let (items, rest) ← readLooseItems? rest fuel
      return (item :: items, rest)
    | rest => some ([], rest)

/-- The entries of an indented map, and what follows its end. -/
def readEntries? (tokens : List Token) : (fuel : Nat) → Option (List (Node × Node) × List Token)
  | 0 => none
  | fuel + 1 =>
    match tokens with
    | .key :: rest => do
      let marks : List Token := [.key, .value, .blockEnd]
      let (key, rest) ← readUnless? marks true true rest fuel
      let (value, rest) ← readValue? marks true rest fuel
      let (entries, rest) ← readEntries? rest fuel
      return ((key, value) :: entries, rest)
    | .blockEnd :: rest => some ([], rest)
    | _ => none

/-- The items of a list up to its closing bracket, and what follows; a key makes a map of one
entry. -/
def readFlowItems? (isFirst : Bool) (tokens : List Token) :
    (fuel : Nat) → Option (List Node × List Token)
  | 0 => none
  | fuel + 1 =>
    let fromItem (tokens : List Token) : Option (List Node × List Token) :=
      match tokens with
      | .key :: rest => do
        let (key, rest) ← readUnless? [.value, .comma, .listClose] false false rest fuel
        let (value, rest) ← readValue? [.comma, .listClose] false rest fuel
        let (items, rest) ← readFlowItems? false rest fuel
        return ((← Node.ofEntries? [(key, value)]) :: items, rest)
      | .listClose :: rest => some ([], rest)
      | rest => do
        let (item, rest) ← readNode? false false rest fuel
        let (items, rest) ← readFlowItems? false rest fuel
        return (item :: items, rest)
    match isFirst, tokens with
    | _, .listClose :: rest => some ([], rest)
    | true, rest | false, .comma :: rest => fromItem rest
    | false, _ => none

/-- The entries of a map up to its closing brace, and what follows; a node without a colon has no
value. -/
def readFlowEntries? (isFirst : Bool) (tokens : List Token) :
    (fuel : Nat) → Option (List (Node × Node) × List Token)
  | 0 => none
  | fuel + 1 =>
    let fromEntry (tokens : List Token) : Option (List (Node × Node) × List Token) :=
      match tokens with
      | .key :: rest => do
        let (key, rest) ← readUnless? [.value, .comma, .mapClose] false false rest fuel
        let (value, rest) ← readValue? [.comma, .mapClose] false rest fuel
        let (entries, rest) ← readFlowEntries? false rest fuel
        return ((key, value) :: entries, rest)
      | .mapClose :: rest => some ([], rest)
      | rest => do
        let (key, rest) ← readNode? false false rest fuel
        let (entries, rest) ← readFlowEntries? false rest fuel
        return ((key, .empty) :: entries, rest)
    match isFirst, tokens with
    | _, .mapClose :: rest => some ([], rest)
    | true, rest | false, .comma :: rest => fromEntry rest
    | false, _ => none

end

namespace Node

/-- The tree of a file, which holds one document at most; its content may stand behind the mark that
starts it. -/
def ofTokens? (tokens : List Token) : Option Node := do
  -- Every fourth step at the latest takes a token.
  let fuel := 4 * tokens.length + 4
  let (node, rest) ← match tokens with
    | [] => some (empty, [])
    | .documentStart :: rest => readUnless? [.documentStart, .documentEnd] true false rest fuel
    | tokens => readNode? true false tokens fuel
  if rest.all (· = .documentEnd) then return node else none

/-! ## Values -/

/-- What keeps a node that is no list or map from having a value. -/
def wordFaults : Node → List Fault
  | plain word =>
    match wordValue word with
    | .error f => [f]
    | .ok _ => []
  | _ => []

/-- What keeps a node from being a key: only a list or map is none at all. -/
def keyFaults : Node → List Fault
  | list _ | map _ => [.unreadable]
  | node => node.wordFaults

/-- The faults of two trees, level by level. -/
def joinLevels : List (List Fault) → List (List Fault) → List (List Fault)
  | fs :: more, gs :: others => (fs ++ gs) :: joinLevels more others
  | [], levels | levels, [] => levels

mutual

/-- The faults of a tree, those of each level of lists and maps together. -/
def faults : Node → List (List Fault)
  | list items => [] :: itemFaults items
  | map entries => [] :: entryFaults entries
  | node => [node.wordFaults]

/-- The faults of the items of a list. -/
def itemFaults : List Node → List (List Fault)
  | [] => []
  | item :: items => joinLevels item.faults (itemFaults items)

/-- The faults of the entries of a map. -/
def entryFaults : List (Node × Node) → List (List Fault)
  | [] => []
  | (key, value) :: entries =>
    joinLevels [key.keyFaults] (joinLevels value.faults (entryFaults entries))

end

mutual

/-- The data document of a tree that has no faults. -/
def json : Node → Json
  | plain word => (wordValue word).toOption.getD .null
  | quoted text => .text text
  | list items => .list (itemValues items)
  | map entries => .ofEntries (entryValues entries)

/-- The data documents of the items of a list. -/
def itemValues : List Node → List Json
  | [] => []
  | item :: items => item.json :: itemValues items

/-- The data documents of the entries of a map. -/
def entryValues : List (Node × Node) → List (Json × Json)
  | [] => []
  | (key, value) :: entries => (key.json, value.json) :: entryValues entries

end

/-- The data document of a tree. The first fault of the outermost level that has one keeps it from
being one. -/
def value (n : Node) : Except Fault Json :=
  match n.faults.flatten with
  | f :: _ => .error f
  | [] => .ok n.json

end Node

end SchemaDiagram.Yaml
