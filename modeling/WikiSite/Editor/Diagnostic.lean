import WikiSite.Editor.Place
import WikiSite.Site.Index

/-!
# Diagnostics

The problems of a page as an editor shows them.
-/

namespace WikiSite

/-- A problem as an editor shows it. -/
structure Diagnostic where
  range : Range
  severity : Severity
  code : Text
  message : Text
  deriving DecidableEq, Repr

/-- Who reports the diagnostics. -/
def diagnosticSource : Text := "mdsite".toList

namespace Diagnostic

/-- The diagnostic at a span; places are numbers of 32 bits. -/
def atSpan (s : Span) (severity : Severity) (code message : Text) : Diagnostic :=
  ⟨Range.cut (s.line % limit32) s.first s.last, severity, code, message⟩

/-- The diagnostic of an issue. -/
def ofIssue (i : Issue) : Diagnostic :=
  atSpan i.span i.problem.severity i.problem.code i.problem.message

end Diagnostic

/-- The diagnostics of a page, unless the site's settings turn them off. -/
def diagnostics (ix : Index) (s : Settings) (page : Text) : List Diagnostic :=
  if s.diagnostics then (Lint.check ix.resolver page).map Diagnostic.ofIssue else []

end WikiSite
