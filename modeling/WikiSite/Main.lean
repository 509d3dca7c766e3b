import WikiSite.Session.Serve

/-!
# The language server

Serves one editor over standard input and output. The files that the server sees are those named on the command line
by their absolute paths, content files and settings files alike, and the first argument is the home of the user. The
files are read again before every message.
-/

namespace WikiSite

/-- The tree of the named files that can be read. -/
def readTree (paths : List String) : IO FileTree :=
  paths.foldlM (fun (tree : FileTree) (path : String) => do
    let content ← try some <$> IO.FS.readBinFile path catch _ => pure none
    return match content with
      | some bytes => tree.put (Path.ofText path.toList) (some bytes.toList)
      | none => tree) (FileTree.empty [])

/-- Writes what a session sends. -/
def writeOut (output : IO.FS.Stream) (out : List Outgoing) : IO Unit := do
  for o in out do
    output.write ⟨o.toMessage.frame.toArray⟩
  output.flush

/-- Reads and handles messages until the session is left or the input ends. -/
partial def serveStreams (input output : IO.FS.Stream) (home : Path) (paths : List String) (s : Session)
    (buffer : Bytes) : IO Unit := do
  if s.phase = .exited then return ()
  let missing := bytesMissing buffer
  if 0 < missing then
    let bytes ← input.read missing.toUSize
    if bytes.isEmpty then return ()
    serveStreams input output home paths s (buffer ++ bytes.toList)
  else
    let machine : Machine := ⟨← readTree paths, home, .asListed, "unreadable input".toList⟩
    match readMessage .eof buffer with
    | (.ended, _) => return ()
    | (.message m, rest) =>
      let (s, out) := s.receive machine (.ok m)
      writeOut output out
      serveStreams input output home paths s rest
    | (.error e, rest) =>
      let (s, out) := s.receive machine (.error e)
      writeOut output out
      serveStreams input output home paths s rest

end WikiSite

/-- Serves standard input and output. -/
def main (args : List String) : IO Unit := do
  let home := WikiSite.Path.ofText (args.headD "/").toList
  WikiSite.serveStreams (← IO.getStdin) (← IO.getStdout) home (args.drop 1) .new []
