import Literate.Host
import Literate.Web
import Literate.Yaml.Scalar

/-!
# The command that writes a configuration

Writes the values of flags to the configuration file, which is not overwritten unless that is forced.
-/

namespace Literate.Command

open Text Log

/-- What the command is told. -/
structure Init where
  force : Bool := false

namespace Init

/-- A configuration file with the given values. Texts that are empty are left out. -/
def contents (values : List (Text × Value)) : Text :=
  values.flatMap fun (key, v) =>
    match v with
    | .text [] => []
    | .text t => (key ++ ": " ++ Yaml.value t ++ "\n" : Text)
    | v => (key ++ ": " ++ v.plainText ++ "\n" : Text)

/-- The failure to write the configuration file. -/
def failure (path : Text) (attrs : List Attr) (cause : Failure) : Failure :=
  ((Failure.ofFault .configNotWritten).withAttrs (Attr.text "file" path :: attrs)).wrap (some cause)

/-- Writes the values to the file at a path. -/
def run (i : Init) (path : Text) (values : List (Text × Value)) (h : Host) : Host × Option Stop :=
  if h.disk.has path && !i.force then
    (h, some (.failed (failure path [Attr.bool "exists" true] (.ofFault .fileExists))))
  else match h.disk.write path (contents values) with
    | .error t => (h, some (.failed (failure path [] (.foreign (t.whileWriting path)))))
    | .ok disk => ({ h with disk }.say .debug "initialized configuration file" [Attr.text "path" path], none)

end Init

end Literate.Command
