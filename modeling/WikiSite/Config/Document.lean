import WikiSite.Config.Value
import WikiSite.Yaml.Value

/-!
# Settings in YAML

The table that a YAML document holds when it is a settings file. Plain scalars are read by a smaller set of forms than
in the frontmatter of a page: integers have 64 bits, hexadecimal and octal ones have no sign in front, and a number
with a fraction needs a digit. No mapping may have a key twice.
-/

namespace WikiSite

namespace ConfigValue

/-- An integer of 64 bits with an optional sign, in the given base. -/
def intIn? (base : Nat) (t : Text) : Option Int :=
  let (negative, digits) := cutSign t
  match (Yaml.digitsIn? base digits).map fun n => if negative then -(n : Int) else (n : Int) with
  | some n => if isInt64 n then some n else none
  | none => none

/-- Whether the text names an infinity or the number that is none. -/
def isSpecialNumber (t : Text) : Bool :=
  [".inf", ".Inf", ".INF", "+.inf", "+.Inf", "+.INF", "-.inf", "-.Inf", "-.INF", ".nan", ".NaN", ".NAN"].any
    fun w => w.toList == t

/-- The number with a fraction or an exponent that the text writes. A special number is refused: the outer `none` says
so. -/
def realIn? (t : Text) : Option (Option Binary64) :=
  if isSpecialNumber t then none
  else some (if t.any isDigit then Binary64.ofText? t else none)

/-- The integer that a plain scalar writes. -/
def plainInt? (t : Text) : Option Int :=
  let marked : Option Int :=
    match t with
    | '0' :: 'x' :: rest => intIn? 16 rest
    | '0' :: 'o' :: rest => intIn? 8 rest
    | '+' :: rest => intIn? 10 rest
    | _ => none
  match marked with
  | some n => some n
  | none => intIn? 10 t

/-- The value of a plain scalar without a tag. -/
def ofPlain? (t : Text) : Option ConfigValue :=
  match plainInt? t with
  | some n => some (.int n)
  | none =>
    if ["", "~", "null"].any fun w => w.toList == t then some .null
    else
      match Yaml.boolOf? t with
      | some b => some (.bool b)
      | none =>
        match realIn? t with
        | none => none
        | some (some d) => some (.real d)
        | some none => some (.text t)

/-- The value of a plain scalar with a tag; a text that the tag does not fit is null. -/
def ofTagged? (tag : Text) (t : Text) : Option ConfigValue :=
  match withoutStart "tag:yaml.org,2002:".toList tag with
  | none => some (.text t)
  | some kind =>
    if kind == "bool".toList then
      some (if t == "true".toList then .bool true else if t == "false".toList then .bool false else .null)
    else if kind == "int".toList then some (((intIn? 10 t).map .int).getD .null)
    else if kind == "float".toList then (realIn? t).map fun d => (d.map .real).getD .null
    else if kind == "null".toList then some .null
    else some (.text t)

/-- The value of a scalar. -/
def ofScalar? (tag : Option Text) (plain : Bool) (t : Text) : Option ConfigValue :=
  if !plain then some (.text t)
  else
    match tag with
    | some tag => ofTagged? tag t
    | none => ofPlain? t

/-- The name that a key stands for; the first part tells keys of different types apart. -/
def keyOf? : ConfigValue → Option (Nat × Text)
  | .text t => some (0, t)
  | .int n => some (1, intText n)
  | .bool b => some (2, if b then "true".toList else "false".toList)
  | _ => none

mutual

/-- The value of a node, where aliases may still be followed the given number of times. -/
def ofNode? (anchors : List (Nat × Yaml.Node)) (jumps : Nat) : Yaml.Node → Option ConfigValue
  | .scalar tag plain t => ofScalar? tag plain t
  | .sequence _ items => (ofNodes? anchors jumps items).map .list
  | .mapping _ entries => (ofPairs? anchors jumps [] entries).map fun es => .table (Table.ofEntries es)
  | .alias n =>
    match jumps, anchors.lookup n with
    | jumps + 1, some node => ofNode? anchors jumps node
    | _, _ => some .null
termination_by node => (jumps, sizeOf node)

/-- The values of the items of a sequence. -/
def ofNodes? (anchors : List (Nat × Yaml.Node)) (jumps : Nat) : List Yaml.Node → Option (List ConfigValue)
  | [] => some []
  | node :: rest =>
    match ofNode? anchors jumps node, ofNodes? anchors jumps rest with
    | some v, some vs => some (v :: vs)
    | _, _ => none
termination_by nodes => (jumps, sizeOf nodes)

/-- The entries of a mapping, where `seen` holds the keys so far. -/
def ofPairs? (anchors : List (Nat × Yaml.Node)) (jumps : Nat) (seen : List (Nat × Text)) :
    List (Yaml.Node × Yaml.Node) → Option (List (Text × ConfigValue))
  | [] => some []
  | (k, v) :: rest =>
    match (ofNode? anchors jumps k).bind keyOf? with
    | none => none
    | some key =>
      if seen.contains key then none
      else
        match ofNode? anchors jumps v, ofPairs? anchors jumps (key :: seen) rest with
        | some v, some es => some ((key.2, v) :: es)
        | _, _ => none
termination_by pairs => (jumps, sizeOf pairs)

end

/-- The table that a YAML text holds; a text without a document holds an empty one. -/
def readYaml (t : Text) : Option (List (Text × ConfigValue)) :=
  match Yaml.readDocument t with
  | none => none
  | some none => some []
  | some (some doc) =>
    match ofNode? doc.anchors doc.anchors.length doc.node with
    | some (.table entries) => some entries
    | _ => none

end ConfigValue

end WikiSite
