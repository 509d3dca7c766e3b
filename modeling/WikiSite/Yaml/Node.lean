import WikiSite.Yaml.Scan

/-!
# YAML nodes

A document is a tree of nodes. A node may carry a tag, and an anchor by which aliases refer to it. Anchors are
numbered as they come: a new anchor gets the number of different names in front of it, so a name given twice hands
its number on to the next new name.
-/

namespace WikiSite

namespace Yaml

/-- A node of a document. -/
inductive Node where
  | scalar (tag : Option Text) (plain : Bool) (text : Text)
  | sequence (tag : Option Text) (items : List Node)
  | mapping (tag : Option Text) (entries : List (Node × Node))
  | alias (anchor : Nat)
  deriving Repr, Inhabited

/-- The node that stands where nothing is written. -/
def Node.empty : Node := .scalar none true []

/-- The state of the reader of nodes. -/
structure Reading where
  tokens : List Token
  /-- The targets of the tag handles. -/
  handles : List (Text × Text)
  /-- The numbers of the anchors by name, newest first. -/
  anchors : List (Text × Nat)
  /-- The nodes of the anchors by number, newest first. -/
  nodes : List (Nat × Node)
  /-- Number of events of the nodes read so far: one for a scalar or alias, two for a collection. -/
  events : Nat

namespace Reading

/-- The next token. -/
def peek (r : Reading) : Option Token := r.tokens.head?

/-- Passes over a token. -/
def next (r : Reading) : Reading := { r with tokens := r.tokens.drop 1 }

/-- Counts events. -/
def count (r : Reading) (n : Nat) : Reading := { r with events := r.events + n }

/-- The number of a new anchor. -/
def anchorNumber (r : Reading) : Nat := ((r.anchors.map (·.1)).eraseDups).length

/-- Gives a name to the next anchor. -/
def addAnchor (r : Reading) (name : Text) : Reading :=
  { r with anchors := (name, r.anchorNumber) :: r.anchors }

/-- An empty node. -/
def emptyNode (r : Reading) : Option (Node × Reading) := some (.empty, r.count 1)

end Reading

private def standardTags : Text := "tag:yaml.org,2002:".toList

/-- The tag that a handle and a suffix name. -/
private def resolveTag (r : Reading) (handle suffix : Text) : Option Text :=
  if handle.isEmpty then some suffix
  else
    match r.handles.lookup handle with
    | some target => some (target ++ suffix)
    | none =>
      if handle == ['!'] then some ('!' :: suffix)
      else if handle == ['!', '!'] then some (standardTags ++ suffix)
      else none

/-- The properties in front of a node: its anchor and its tag, in either order. -/
private def readProperties (r : Reading) : Option (Option Text × Option Text × Reading) :=
  match r.tokens with
  | .anchor a :: .tag h s :: rest => (resolveTag r h s).map fun t => (some a, some t, { r with tokens := rest })
  | .tag h s :: .anchor a :: rest => (resolveTag r h s).map fun t => (some a, some t, { r with tokens := rest })
  | .anchor a :: rest => some (some a, none, { r with tokens := rest })
  | .tag h s :: rest => (resolveTag r h s).map fun t => (none, some t, { r with tokens := rest })
  | _ => some (none, none, r)

private def isOneOf (t : Option Token) (ts : List Token) : Bool :=
  match t with
  | some t => ts.contains t
  | none => false

mutual

/-- Reads a node. Block collections are read only where `block` is set, and a sequence without indentation of its own
only where `indentless` is set. -/
def readNode : Nat → Bool → Bool → Reading → Option (Node × Reading)
  | 0, _, _, _ => none
  | fuel + 1, block, indentless, r =>
    match r.peek with
    | some (.alias name) =>
      match r.anchors.lookup name with
      | some n => some (.alias n, r.next.count 1)
      | none => none
    | _ =>
      match readProperties r with
      | none => none
      | some (anchor, tag, r) =>
        let number := r.anchorNumber
        let r := match anchor with | some a => r.addAnchor a | none => r
        let done (x : Option (Node × Reading)) : Option (Node × Reading) :=
          match anchor with
          | some _ => x.map fun (n, r) => (n, { r with nodes := (number, n) :: r.nodes })
          | none => x
        match r.peek with
        | some .blockEntry =>
          if indentless then
            done ((readIndentless fuel (r.count 2)).map fun (items, r) => (.sequence tag items, r))
          else if anchor.isSome || tag.isSome then done (some (.scalar tag true [], r.count 1))
          else none
        | some (.scalar plain text) => done (some (.scalar tag plain text, r.next.count 1))
        | some .flowSequence =>
          done ((readFlowItems fuel true (r.next.count 2)).map fun (items, r) => (.sequence tag items, r))
        | some .flowMapping =>
          done ((readFlowEntries fuel true (r.next.count 2)).map fun (es, r) => (.mapping tag es, r))
        | other =>
          if block && other == some .blockSequence then
            done ((readBlockItems fuel (r.next.count 2)).map fun (items, r) => (.sequence tag items, r))
          else if block && other == some .blockMapping then
            done ((readBlockEntries fuel (r.next.count 2)).map fun (es, r) => (.mapping tag es, r))
          else if anchor.isSome || tag.isSome then done (some (.scalar tag true [], r.count 1))
          else none

/-- Reads the items of a block sequence up to and with its end. -/
def readBlockItems : Nat → Reading → Option (List Node × Reading)
  | 0, _ => none
  | fuel + 1, r =>
    match r.peek with
    | some .blockEntry =>
      let r := r.next
      let item :=
        if isOneOf r.peek [.blockEntry, .blockEnd] then r.emptyNode else readNode fuel true false r
      match item with
      | none => none
      | some (n, r) => (readBlockItems fuel r).map fun (ns, r) => (n :: ns, r)
    | some .blockEnd => some ([], r.next)
    | _ => none

/-- Reads the items of a sequence that shares the column of its mapping. -/
def readIndentless : Nat → Reading → Option (List Node × Reading)
  | 0, _ => none
  | fuel + 1, r =>
    match r.peek with
    | some .blockEntry =>
      let r := r.next
      let item :=
        if isOneOf r.peek [.blockEntry, .key, .value, .blockEnd] then r.emptyNode else readNode fuel true false r
      match item with
      | none => none
      | some (n, r) => (readIndentless fuel r).map fun (ns, r) => (n :: ns, r)
    | _ => some ([], r)

/-- Reads the entries of a block mapping up to and with its end. -/
def readBlockEntries : Nat → Reading → Option (List (Node × Node) × Reading)
  | 0, _ => none
  | fuel + 1, r =>
    match r.peek with
    | some .key =>
      let r := r.next
      let key :=
        if isOneOf r.peek [.key, .value, .blockEnd] then r.emptyNode else readNode fuel true true r
      match key with
      | none => none
      | some (k, r) =>
        let value :=
          if r.peek == some .value then
            let r := r.next
            if isOneOf r.peek [.key, .value, .blockEnd] then r.emptyNode else readNode fuel true true r
          else r.emptyNode
        match value with
        | none => none
        | some (v, r) => (readBlockEntries fuel r).map fun (es, r) => ((k, v) :: es, r)
    | some .blockEnd => some ([], r.next)
    | _ => none

/-- Reads the items of a flow sequence up to and with its end; a key makes the item a mapping of one entry. -/
def readFlowItems : Nat → Bool → Reading → Option (List Node × Reading)
  | 0, _, _ => none
  | fuel + 1, first, r =>
    if r.peek == some .flowSequenceEnd then some ([], r.next)
    else
      let entry : Option Reading :=
        if first then some r else if r.peek == some .flowEntry then some r.next else none
      match entry with
      | none => none
      | some r =>
        if r.peek == some .flowSequenceEnd then some ([], r.next)
        else
          let item :=
            if r.peek == some .key then readPair fuel (r.next.count 2) else readNode fuel false false r
          match item with
          | none => none
          | some (n, r) => (readFlowItems fuel false r).map fun (ns, r) => (n :: ns, r)

/-- Reads an entry that stands as an item of a flow sequence, after its key indicator. -/
def readPair : Nat → Reading → Option (Node × Reading)
  | 0, _ => none
  | fuel + 1, r =>
    let key :=
      if isOneOf r.peek [.value, .flowEntry, .flowSequenceEnd] then r.next.emptyNode else readNode fuel false false r
    match key with
    | none => none
    | some (k, r) =>
      let value :=
        if r.peek == some .value then
          let r := r.next
          if isOneOf r.peek [.flowEntry, .flowSequenceEnd] then r.emptyNode else readNode fuel false false r
        else r.emptyNode
      value.map fun (v, r) => (.mapping none [(k, v)], r)

/-- Reads the entries of a flow mapping up to and with its end. -/
def readFlowEntries : Nat → Bool → Reading → Option (List (Node × Node) × Reading)
  | 0, _, _ => none
  | fuel + 1, first, r =>
    if r.peek == some .flowMappingEnd then some ([], r.next)
    else
      let entry : Option Reading :=
        if first then some r else if r.peek == some .flowEntry then some r.next else none
      match entry with
      | none => none
      | some r =>
        if r.peek == some .flowMappingEnd then some ([], r.next)
        else
          let pair : Option ((Node × Node) × Reading) :=
            if r.peek == some .key then
              let r := r.next
              let key :=
                if isOneOf r.peek [.value, .flowEntry, .flowMappingEnd] then r.emptyNode
                else readNode fuel false false r
              match key with
              | none => none
              | some (k, r) =>
                let value :=
                  if r.peek == some .value then
                    let r := r.next
                    if isOneOf r.peek [.flowEntry, .flowMappingEnd] then r.emptyNode
                    else readNode fuel false false r
                  else r.emptyNode
                value.map fun (v, r) => ((k, v), r)
            else (readNode fuel false false r).map fun (k, r) => ((k, .empty), r.count 1)
          match pair with
          | none => none
          | some (e, r) => (readFlowEntries fuel false r).map fun (es, r) => (e :: es, r)

end

/-- A document: its node, the nodes of its anchors by number, and its number of events. -/
structure Document where
  node : Node
  anchors : List (Nat × Node)
  events : Nat

/-- Reads the directives in front of a document. -/
private def readDirectives : Nat → Bool → Reading → Option Reading
  | 0, _, _ => none
  | fuel + 1, versioned, r =>
    match r.peek with
    | some (.version major minor) =>
      if versioned || major != 1 || (minor != 1 && minor != 2) then none else readDirectives fuel true r.next
    | some (.tagHandle handle target) =>
      if (r.handles.lookup handle).isSome then none
      else readDirectives fuel versioned { r.next with handles := (handle, target) :: r.handles }
    | _ => some r

/-- The documents of a YAML text: `some none` when it holds none, and a refusal when it holds more than one. -/
def readDocument (t : Text) : Option (Option Document) :=
  match tokens t with
  | none => none
  | some ts =>
    let r : Reading := ⟨ts, [], [], [], 0⟩
    if ts.isEmpty then some none
    else
      let explicit :=
        match r.peek with
        | some (.version ..) | some (.tagHandle ..) | some .documentStart => true
        | _ => false
      let content : Option Reading :=
        if explicit then
          match readDirectives (ts.length + 1) false r with
          | some r => if r.peek == some .documentStart then some r.next else none
          | none => none
        else some r
      match content with
      | none => none
      | some r =>
        let isEnd : Bool :=
          match r.peek with
          | none | some (.version ..) | some (.tagHandle ..) | some .documentStart | some .documentEnd => true
          | _ => false
        let node := if isEnd then r.emptyNode else readNode (4 * ts.length + 4) true false r
        match node with
        | none => none
        | some (n, r) =>
          if (r.tokens.dropWhile (· == .documentEnd)).isEmpty then some (some ⟨n, r.nodes, r.events⟩) else none

end Yaml

end WikiSite
