import WikiSite.Site.Address
import WikiSite.Site.Path
import WikiSite.Text.Punycode

/-!
# URIs

Documents are named by URIs, which are put into a normal form when they are read: the scheme and the host in lower
case, `.` and `..` segments resolved, default ports dropped and characters outside the allowed set written in
percent form. Percent forms that are there already stay as they are, so two spellings of one file may differ as
URIs and still agree as paths.
-/

namespace WikiSite

/-- An absolute URI in normal form. -/
structure Uri where
  scheme : Text
  /-- User, host and port between `//` and the path. -/
  authority : Option Text
  /-- The host, empty when there is none. -/
  host : Text
  path : Text
  query : Option Text
  fragment : Option Text
  deriving DecidableEq, Repr

namespace Uri

/-- The written form. -/
def text (u : Uri) : Text :=
  let authority : Text :=
    match u.authority with
    | some a => '/' :: '/' :: a
    | none => if "//".toList.isPrefixOf u.path then ['/', '.'] else []
  u.scheme ++ ':' :: authority ++ u.path ++
    (match u.query with | some q => '?' :: q | none => []) ++
    (match u.fragment with | some f => '#' :: f | none => [])

/-! ### Percent forms -/

/-- A byte in percent form. -/
def percentByte (b : UInt8) : Text :=
  let digit (n : Nat) : Char := (Nat.digitChar n).toUpper
  ['%', digit (b.toNat / 16), digit (b.toNat % 16)]

/-- Writes a byte in percent form when it is not printable ASCII or one of the given characters. -/
def encodeByte (special : Text) (b : UInt8) : Text :=
  if b.toNat < 0x20 || 0x7E < b.toNat || special.contains (Char.ofNat b.toNat) then percentByte b
  else [Char.ofNat b.toNat]

/-- Writes bytes with percent forms. -/
def encodeBytes (special : Text) (bs : Bytes) : Text := bs.flatMap (encodeByte special)

/-- Writes a text with percent forms. -/
def encodeText (special : Text) (t : Text) : Text := encodeBytes special (encodeUtf8 t)

/-- The bytes that a text with percent forms stands for. -/
def decodePercent : Text → Bytes
  | [] => []
  | '%' :: a :: b :: rest =>
    match hexDigit? a, hexDigit? b with
    | some x, some y => UInt8.ofNat (x * 16 + y) :: decodePercent rest
    | _, _ => 0x25 :: decodePercent (a :: b :: rest)
  | c :: rest => String.utf8EncodeChar c ++ decodePercent rest

/-- Characters that are not allowed in a fragment as they are. -/
def fragmentSpecial : Text := [' ', '"', '<', '>', Char.ofNat 0x60]

/-- Characters that are not allowed in a path as they are. -/
def pathSpecial : Text := fragmentSpecial ++ ['#', '?', '\x7b', '\x7d']

/-- Characters that are not allowed in a path segment made from a file name. -/
def segmentSpecial : Text := pathSpecial ++ ['/', '%', '\\']

/-- Characters that are not allowed in user information. -/
def userSpecial : Text := pathSpecial ++ ['/', ':', ';', '=', '@', '[', '\\', ']', '^', '|']

/-- Characters that are not allowed in a query, by whether the scheme is special. -/
def querySpecial (special : Bool) : Text :=
  [' ', '"', '#', '<', '>'] ++ (if special then [Char.ofNat 0x27] else [])

/-! ### Paths -/

private def isDoubleDot (s : Text) : Bool :=
  let s := s.map Char.toLower
  s == "..".toList || s == ".%2e".toList || s == "%2e.".toList || s == "%2e%2e".toList

private def isSingleDot (s : Text) : Bool :=
  let s := s.map Char.toLower
  s == ".".toList || s == "%2e".toList

/-- Whether the segment names a drive: a letter and a colon or bar. -/
def isDriveLetter (s : Text) : Bool :=
  match s with
  | [c, d] => isAsciiLetter c && (d == ':' || d == '|')
  | _ => false

private def isNormalDrive (s : Text) : Bool := isDriveLetter s && s.getLast? == some ':'

/-- Drops the last segment, unless it is the drive of a file. -/
private def shorten (file : Bool) (segments : List Text) : List Text :=
  match segments with
  | [s] => if file && isNormalDrive s then [s] else []
  | _ => segments.dropLast

/-- Resolves the dots among segments, of which `done` is finished. -/
def resolveSegments (file : Bool) (done : List Text) : List Text → List Text
  | [] => done
  | s :: rest =>
    let isEnd := rest.isEmpty
    if isDoubleDot s then
      resolveSegments file (shorten file done ++ if isEnd then [[]] else []) rest
    else if isSingleDot s then
      resolveSegments file (done ++ if isEnd then [[]] else []) rest
    else
      let s := if file && done.isEmpty && isDriveLetter s then s.take 1 ++ [':'] else s
      resolveSegments file (done ++ [s]) rest

/-- Empty segments in front of the others do not count in the path of a file. -/
private def dropEmptyStart : List Text → List Text
  | [] :: s :: rest => dropEmptyStart (s :: rest)
  | segments => segments

/-- The normal form of a path, given without its first slash. -/
def normalPath (special file : Bool) (t : Text) : Text :=
  let pieces := splitWhere (fun c => c == '/' || (special && c == '\\')) t
  let segments := resolveSegments file [] (pieces.map (encodeText pathSpecial))
  let segments := if file then dropEmptyStart segments else segments
  segments.flatMap ('/' :: ·)

/-! ### Hosts -/

private def isForbiddenInHost (c : Char) : Bool :=
  c.toNat == 0 || "\t\n\r #/:<>?@[\\]^|".toList.contains c

private def isForbiddenInDomain (c : Char) : Bool :=
  isForbiddenInHost c || c.toNat < 0x20 || c == '%' || c.toNat == 0x7F

/-- The normal form of the host of a special scheme. -/
private def specialHost? (t : Text) : Option Text :=
  match t with
  | '[' :: _ => Address.bracketed? t
  | _ =>
    match decodeUtf8 (decodePercent t) with
    | none => none
    | some t =>
      match asciiHost? t with
      | none => none
      | some host =>
        if host.isEmpty || host.any isForbiddenInDomain then none
        else
          match Address.dotted? host with
          | some a => a
          | none => some host

/-- The normal form of the host of a scheme that is not special. -/
private def opaqueHost? (t : Text) : Option Text :=
  match t with
  | '[' :: _ => Address.bracketed? t
  | _ => if t.any isForbiddenInHost then none else some (encodeText [] t)

/-! ### Reading -/

/-- The default port of a special scheme. -/
def defaultPort? (scheme : Text) : Option Nat :=
  if scheme == "http".toList || scheme == "ws".toList then some 80
  else if scheme == "https".toList || scheme == "wss".toList then some 443
  else if scheme == "ftp".toList then some 21
  else none

private def cutTail (t : Text) : Text × Option Text × Option Text :=
  let (rest, fragment) :=
    match cutAtChar '#' t with
    | some (a, b) => (a, some b)
    | none => (t, none)
  match cutAtChar '?' rest with
  | some (a, b) => (a, some b, fragment)
  | none => (rest, none, fragment)

private def finish (scheme : Text) (special : Bool) (authority : Option Text) (host path : Text)
    (query fragment : Option Text) : Uri :=
  ⟨scheme, authority, host, path, query.map (encodeText (querySpecial special)),
    fragment.map (encodeText fragmentSpecial)⟩

/-- A port, empty or of digits, as it is written after the host. -/
private def portText? (scheme : Text) (t : Text) : Option Text :=
  if !t.all isDigit then none
  else if t.isEmpty then some []
  else
    let n := natOfDigits t
    if 65535 < n then none
    else if defaultPort? scheme == some n then some []
    else some (':' :: natText n)
where
  natOfDigits (t : Text) : Nat := t.foldl (fun n c => n * 10 + (c.toNat - '0'.toNat)) 0

/-- The normal form of an authority and its host. -/
private def authority? (scheme : Text) (special : Bool) (t : Text) : Option (Text × Text) :=
  let (user, hostPort) :=
    match cutAfterLast (· == '@') t with
    | some (u, h) => (some u.dropLast, h)
    | none => (none, t)
  let inBrackets := hostPort.head? == some '['
  let (host, port) :=
    if inBrackets then
      match cutAfterLast (· == ']') hostPort with
      | some (h, ':' :: p) => (h, p)
      | some (h, []) => (h, [])
      | _ => (hostPort, ['x'])
    else
      match cutAtChar ':' hostPort with
      | some (h, p) => (h, p)
      | none => (hostPort, [])
  let userText : Text :=
    match user with
    | none => []
    | some u =>
      let (name, password) :=
        match cutAtChar ':' u with
        | some (n, p) => (n, some p)
        | none => (u, none)
      let password := password.filter (!·.isEmpty)
      if name.isEmpty && password.isNone then []
      else
        encodeText userSpecial name ++
          (match password with | some p => ':' :: encodeText userSpecial p | none => []) ++ ['@']
  if host.isEmpty && (special || user.isSome || !port.isEmpty) then none
  else
    match (if special then specialHost? host else if host.isEmpty then some [] else opaqueHost? host),
        portText? scheme port with
    | some h, some p => some (userText ++ h ++ p, h)
    | _, _ => none

private def ofFile? (t : Text) : Option Uri :=
  let (rest, query, fragment) := cutTail t
  let isSlash (c : Char) : Bool := c == '/' || c == '\\'
  let make (path : Text) : Uri :=
    finish "file".toList true (some []) [] (normalPath true true path) query fragment
  match rest with
  | a :: b :: after =>
    if isSlash a && isSlash b then
      let host := after.takeWhile (fun c => !isSlash c)
      let path := after.dropWhile (fun c => !isSlash c)
      if isDriveLetter host then some (make after)
      else if host.isEmpty then some (make (path.drop 1))
      else
        match specialHost? host with
        | none => none
        | some h =>
          if h == "localhost".toList then some (make (path.drop 1))
          else
            let first := (splitWhere isSlash (path.drop 1)).head?.getD []
            if isDriveLetter first then some (make (path.drop 1))
            else some (finish "file".toList true (some h) h (normalPath true true (path.drop 1)) query fragment)
    else if isSlash a then some (make (b :: after))
    else some (make rest)
  | [a] => some (make (if isSlash a then [] else [a]))
  | [] => some (make [])

private def ofSpecial? (scheme : Text) (t : Text) : Option Uri :=
  let (rest, query, fragment) := cutTail t
  let isSlash (c : Char) : Bool := c == '/' || c == '\\'
  let rest := rest.dropWhile isSlash
  let authority := rest.takeWhile (fun c => !isSlash c)
  let path := rest.dropWhile (fun c => !isSlash c)
  (authority? scheme true authority).map fun (a, h) =>
    finish scheme true (some a) h (normalPath true false (path.drop 1)) query fragment

private def ofOther? (scheme : Text) (t : Text) : Option Uri :=
  let (rest, query, fragment) := cutTail t
  match rest with
  | '/' :: '/' :: after =>
    let authority := after.takeWhile (· != '/')
    let path := after.dropWhile (· != '/')
    (authority? scheme false authority).map fun (a, h) =>
      finish scheme false (some a) h (if path.isEmpty then [] else normalPath false false (path.drop 1)) query fragment
  | '/' :: after => some (finish scheme false none [] (normalPath false false after) query fragment)
  | _ => some (finish scheme false none [] (encodeText [] rest) query fragment)

/-- Splits the scheme off, in lower case. -/
private def cutScheme (t : Text) : Option (Text × Text) :=
  match t with
  | c :: _ =>
    if !isAsciiLetter c then none
    else
      let isPart (c : Char) : Bool := isAsciiLetter c || isDigit c || c == '+' || c == '-' || c == '.'
      match t.dropWhile isPart with
      | ':' :: rest => some ((t.takeWhile isPart).map Char.toLower, rest)
      | _ => none
  | [] => none

/-- Reads an absolute URI. Controls and spaces around it and line breaks and tabs in it do not count. -/
def ofText? (t : Text) : Option Uri :=
  let t := trimBoth (fun c => c.toNat ≤ 0x20) t
  let t := t.filter fun c => c != '\t' && c != '\n' && c != '\r'
  match cutScheme t with
  | none => none
  | some (scheme, rest) =>
    if scheme == "file".toList then ofFile? rest
    else if (defaultPort? scheme).isSome then ofSpecial? scheme rest
    else ofOther? scheme rest

/-! ### Files -/

/-- The URI of an absolute path. -/
def ofPath? (p : Path) : Option Uri :=
  if !Path.isAbsolute p then none
  else
    let segments := ((Path.parts p).drop 1).map fun part => encodeBytes segmentSpecial part.bytes
    let path := if segments.isEmpty then ['/'] else segments.flatMap ('/' :: ·)
    some ⟨"file".toList, some [], [], path, none, none⟩

/-- The path of the file that the URI names, when it has no foreign host and its path starts with a slash. -/
def filePath? (u : Uri) : Option Path :=
  if !u.host.isEmpty && u.host != "localhost".toList then none
  else
    match u.path with
    | '/' :: rest =>
      let bytes := (splitWhere (· == '/') rest).flatMap fun s => 0x2F :: decodePercent s
      let drive :=
        match bytes.reverse with
        | b :: a :: _ :: _ =>
          (b == 0x3A || b == 0x7C) && isAsciiLetter (Char.ofNat a.toNat)
        | _ => false
      some (if drive then bytes ++ [0x2F] else bytes)
    | _ => none

/-- The path of a document: that of its file, or the path of the URI as it is written. -/
def documentPath (u : Uri) : Path :=
  match u.filePath? with
  | some p => p
  | none => Path.ofText u.path

end Uri

end WikiSite
