import DiagramBridge.Codec.Utf8
import DiagramBridge.Text.Blank

/-!
# Paths and input

A command reads one text, from a file or from the standard input. Line breaks of every kind become
line feeds; in files, bytes that make no character are left out.
-/

namespace DiagramBridge.CommandLine

open Codec Text

/-! ## Paths -/

/-- A path: a row of names, from the root or from where one is; then the root is empty. Empty names
and single dots say nothing and are left out; double dots stay, for what they mean depends on the
directories. -/
structure Path where
  root : String
  names : List String
  deriving DecidableEq, Repr

namespace Path

/-- The root of a path with so many slashes in front. Exactly two are a root of their own. -/
def rootOf : Nat → String
  | 0 => ""
  | 2 => "//"
  | _ => "/"

/-- The path that a text is. -/
def ofString (s : String) : Path where
  root := rootOf (s.toList.takeWhile (· == '/')).length
  names := ((s.toList.splitOn '/').map String.ofList).filter fun name => name != "" && name != "."

def text (p : Path) : String :=
  if p.root = "" ∧ p.names = [] then "." else p.root ++ String.intercalate "/" p.names

end Path

/-! ## Input -/

/-- Where a text comes from. -/
inductive Source where
  | standardInput
  | file (path : Path)
  deriving DecidableEq, Repr

/-- The source with the given name. A single dash is the standard input. -/
def Source.ofString (s : String) : Source :=
  if s = "-" then .standardInput else .file (.ofString s)

/-- What was found at a source. -/
inductive Found where
  | text (s : String)
  | missing
  deriving DecidableEq, Repr

/-- The text of the standard input. -/
def Found.ofInput (s : String) : Found :=
  .text (String.ofList (unifyLineBreaks s.toList))

/-- The text of a file with the given bytes. -/
def Found.ofBytes (bytes : List UInt8) : Found :=
  .text (String.ofList (unifyLineBreaks ((Utf8.decode bytes).filterMap id)))

end DiagramBridge.CommandLine
