import WikiSite.Decimal.Shortest
import WikiSite.Table
import WikiSite.Yaml.Node

/-!
# YAML values

What a document means: untagged plain scalars are null, booleans, numbers or strings by their form, quoted scalars
are strings, standard tags force a type and local tags stay with their value. Keys of an inner mapping must differ.
Nesting is limited to 128 collections, and aliases may be followed a hundred times per event of the document.
-/

namespace WikiSite

/-- A value of a YAML document. -/
inductive YamlValue where
  | null
  | bool (b : Bool)
  | int (n : Int)
  | real (d : Binary64)
  | str (t : Text)
  | seq (items : List YamlValue)
  | map (entries : List (YamlValue × YamlValue))
  | tagged (tag : Text) (value : YamlValue)
  deriving BEq, Repr, Inhabited

namespace Yaml

/-! ### Plain scalars -/

private def isOneOfWords (words : List String) (t : Text) : Bool := words.any fun w => w.toList == t

/-- Whether the text is a spelling of null. -/
def isNullWord (t : Text) : Bool := isOneOfWords ["null", "Null", "NULL", "~"] t

/-- The boolean that the text spells. -/
def boolOf? (t : Text) : Option Bool :=
  if isOneOfWords ["true", "True", "TRUE"] t then some true
  else if isOneOfWords ["false", "False", "FALSE"] t then some false
  else none

/-- Whether the text is a zero followed by digits only, after an optional sign: such a text is no number. -/
def isPaddedDigits (t : Text) : Bool :=
  let t := match t with | '-' :: r | '+' :: r => r | _ => t
  match t with
  | '0' :: d :: rest => (d :: rest).all isDigit
  | _ => false

/-- The natural number written in the given base, without a sign. -/
def digitsIn? (base : Nat) (t : Text) : Option Nat :=
  if t.isEmpty then none
  else
    t.foldl (fun n c => do
      let n ← n
      let d : Nat :=
        if isDigit c then c.toNat - '0'.toNat
        else if 'a' ≤ c && c ≤ 'z' then c.toNat - 'a'.toNat + 10
        else if 'A' ≤ c && c ≤ 'Z' then c.toNat - 'A'.toNat + 10
        else base
      if d < base then some (n * base + d) else none) (some 0)

/-- The digits of a number and their base, by the mark in front of them. -/
private def basedDigits? (t : Text) : Option Nat :=
  match t with
  | '0' :: 'x' :: rest => digitsIn? 16 rest
  | '0' :: 'o' :: rest => digitsIn? 8 rest
  | '0' :: 'b' :: rest => digitsIn? 2 rest
  | _ => none

/-- The integer that the text writes, of any size. -/
def intOf? (t : Text) : Option Int :=
  match t with
  | '-' :: rest =>
    match basedDigits? rest with
    | some n => some (-(n : Int))
    | none => if isPaddedDigits t then none else (digitsIn? 10 rest).map fun n => -(n : Int)
  | _ =>
    let rest := match t with | '+' :: r => r | _ => t
    match basedDigits? rest with
    | some n => some n
    | none => if isPaddedDigits t then none else (digitsIn? 10 rest).map fun n => (n : Int)

/-- The number with a fraction, an exponent or a special name that the text writes. -/
def realOf? (t : Text) : Option Binary64 :=
  let plusless : Option Text :=
    match t with
    | '+' :: '+' :: _ | '+' :: '-' :: _ => none
    | '+' :: rest => some rest
    | _ => some t
  match plusless with
  | none => none
  | some u =>
    if isOneOfWords [".inf", ".Inf", ".INF"] u then some (.infinite false)
    else if isOneOfWords ["-.inf", "-.Inf", "-.INF"] t then some (.infinite true)
    else if isOneOfWords [".nan", ".NaN", ".NAN"] t then some .nan
    else (Binary64.ofText? u).filter (·.isFinite)

/-- An integer as a value: one that 64 bits do not hold is refused up to 128 bits. -/
private def sizedInt (n : Int) : Option (Option YamlValue) :=
  if -9223372036854775808 ≤ n && n < limit64 then some (some (.int n))
  else if -Int.ofNat (Nat.pow 2 127) ≤ n && n < Int.ofNat (Nat.pow 2 128) then some none
  else none

/-- The value of an integer text: `none` when it is no integer of at most 128 bits, `some none` when it is one that 64
bits do not hold. -/
def intValue? (t : Text) : Option (Option YamlValue) := (intOf? t).bind sizedInt

/-- The value of an untagged plain scalar. -/
def plainValue (t : Text) : Option YamlValue :=
  if t.isEmpty || isNullWord t then some .null
  else
    match boolOf? t with
    | some b => some (.bool b)
    | none =>
      match intValue? t with
      | some v => v
      | none =>
        match (if isPaddedDigits t then none else realOf? t) with
        | some d => some (.real d)
        | none => some (.str t)

/-! ### Tags -/

private def standard (name : String) : Text := "tag:yaml.org,2002:".toList ++ name.toList

/-- The local tag of a node, without its exclamation mark. -/
private def localTag? (tag : Option Text) : Option Text :=
  match tag with
  | some ('!' :: name) => some name
  | _ => none

/-- The value of a scalar whose tag, if any, is not local. -/
private def scalarValue (tag : Option Text) (plain : Bool) (t : Text) : Option YamlValue :=
  match tag with
  | none => if plain then plainValue t else some (.str t)
  | some tag =>
    if tag == standard "bool" then (boolOf? t).map .bool
    else if tag == standard "int" then (intValue? t).join
    else if tag == standard "float" then (realOf? t).map .real
    else if tag == standard "null" then (if isNullWord t then some .null else none)
    else some (.str t)

/-! ### Values of nodes -/

/-- How often aliases were followed, which must stay within the limit. -/
structure Jumps where
  count : Nat
  limit : Nat

/-- Counts one more alias. -/
def Jumps.add (j : Jumps) : Option Jumps := if j.limit ≤ j.count then none else some { j with count := j.count + 1 }

/-- Reads a list by a reader of its entries that counts aliases. -/
def readAll {α β : Type} (f : α → Jumps → Option (β × Jumps)) : List α → Jumps → Option (List β × Jumps)
  | [], j => some ([], j)
  | a :: rest, j =>
    match f a j with
    | none => none
    | some (b, j) => (readAll f rest j).map fun (bs, j) => (b :: bs, j)

/-- Reads the entries of a mapping whose keys must differ, where `seen` holds the keys so far. -/
def readEntries (f : Node → Jumps → Option (YamlValue × Jumps)) (seen : List YamlValue) :
    List (Node × Node) → Jumps → Option (List (YamlValue × YamlValue) × Jumps)
  | [], j => some ([], j)
  | (k, v) :: rest, j =>
    match f k j with
    | none => none
    | some (key, j) =>
      if seen.any (· == key) then none
      else
        match f v j with
        | none => none
        | some (value, j) => (readEntries f (key :: seen) rest j).map fun (es, j) => ((key, value) :: es, j)

/-- Puts the local tag of a node around its value. -/
private def withTag (tag : Option Text) (r : Option (YamlValue × Jumps)) : Option (YamlValue × Jumps) :=
  match localTag? tag with
  | some name => r.map fun (v, j) => (.tagged ('!' :: name) v, j)
  | none => r

/-- The node that an alias leads to. -/
private def target (anchors : List (Nat × Node)) (n : Nat) : Option Node := anchors.lookup n

/-- The value of a node, where `depth` collections may still open. -/
def valueOf (anchors : List (Nat × Node)) : Nat → Node → Jumps → Option (YamlValue × Jumps)
  | depth, node, j =>
    let (node, j) :=
      match node with
      | .alias n => (target anchors n, j.add)
      | n => (some n, some j)
    match node, j with
    | some (.scalar tag plain t), some j =>
      match localTag? tag with
      | some _ => withTag tag ((scalarValue none plain t).map fun v => (v, j))
      | none => (scalarValue tag plain t).map fun v => (v, j)
    | some (.sequence tag items), some j =>
      match depth with
      | 0 => none
      | depth + 1 => withTag tag ((readAll (valueOf anchors depth) items j).map fun (vs, j) => (.seq vs, j))
    | some (.mapping tag entries), some j =>
      match depth with
      | 0 => none
      | depth + 1 =>
        withTag tag ((readEntries (valueOf anchors depth) [] entries j).map fun (es, j) => (.map es, j))
    | _, _ => none

/-- The text of a node that stands as a field name. -/
private def nameOf (anchors : List (Nat × Node)) (node : Node) (j : Jumps) : Option (Text × Jumps) :=
  match node with
  | .scalar _ _ t => some (t, j)
  | .alias n =>
    match target anchors n, j.add with
    | some (.scalar _ _ t), some j => some (t, j)
    | _, _ => none
  | _ => none

/-- Reads the fields of a document whose keys are texts; a later field of a name stands for an earlier one. -/
private def readFields (anchors : List (Nat × Node)) (depth : Nat) :
    List (Node × Node) → Jumps → Table YamlValue → Option (Table YamlValue)
  | [], _, fields => some fields
  | (k, v) :: rest, j, fields =>
    match nameOf anchors k j with
    | none => none
    | some (name, j) =>
      match valueOf anchors depth v j with
      | none => none
      | some (value, j) => readFields anchors depth rest j (Table.insert name value fields)

/-- The fields of a YAML text that is a mapping with texts as keys, or null. -/
def readMapping (t : Text) : Option (Table YamlValue) :=
  match readDocument t with
  | none => none
  | some none => some []
  | some (some doc) =>
    match doc.node with
    | .mapping _ entries => readFields doc.anchors 127 entries ⟨0, 100 * doc.events⟩ []
    | .scalar tag plain text =>
      if !plain then none
      else
        match tag with
        | none => if text.isEmpty || isNullWord text then some [] else none
        | some tag =>
          if tag == standard "null" then (if isNullWord text then some [] else none)
          else if text.isEmpty then some [] else none
    | _ => none

end Yaml

end WikiSite
