import RecordComparison.Files.Location
import RecordComparison.Files.Problem

/-!
A tree of files that is held in memory. A relative path leads from the root of the tree through
its directories; every directory on the way has to be there. Around the tree there are only
directories.
-/
namespace RecordComparison

inductive Entry where
  | file (octets : ByteArray)
  | directory

/-- The entries with the names that lead to them. The directories that an entry is in need not
be listed. -/
structure FileTree where
  entries : List (List String × Entry)

namespace FileTree

def steps (path : String) : List String :=
  let parts := path.splitOn "/"
  let named := parts.filter (· ≠ "")
  if parts.getLast? = some "" then named ++ ["."] else named

inductive Found where
  | file (octets : ByteArray)
  | directory
  | nothing

def at? (tree : FileTree) (names : List String) : Found :=
  match tree.entries.find? (·.1 == names) with
  | some (_, .file octets) => .file octets
  | some (_, .directory) => .directory
  | none =>
    if names = [] ∨ tree.entries.any fun e => names.isPrefixOf e.1 then .directory else .nothing

def longestName : Nat := 255

def longestPath : Nat := 4095

/-- Follows steps outside the tree: up they always lead, and down to nothing. -/
def walkOutside (steps : List String) : Except FileProblem Found :=
  match steps.find? fun step => step ≠ "." ∧ step ≠ ".." with
  | none => .ok .directory
  | some step => .error (if longestName < step.utf8ByteSize then .nameTooLong else .absent)

def walk (tree : FileTree) (place : List String) : List String → Except FileProblem Found
  | [] => .ok (tree.at? place)
  | step :: later =>
    match tree.at? place with
    | .file _ => .error .notDirectory
    | .nothing => .error .absent
    | .directory =>
      if step = "." then walk tree place later
      else if step = ".." then
        if place = [] then walkOutside later else walk tree place.dropLast later
      else if longestName < step.utf8ByteSize then .error .nameTooLong
      else walk tree (place ++ [step]) later

def follow (tree : FileTree) (path : String) : Except FileProblem Found :=
  if Location.isAbsolute path then walkOutside (steps path) else tree.walk [] (steps path)

def read (tree : FileTree) : Files := fun path =>
  if path = "" then .error .absent
  else if path.toList.contains '\x00' then .error .nameNotAllowed
  else if longestPath < path.utf8ByteSize then .error .nameTooLong
  else
    match tree.follow path with
    | .error problem => .error problem
    | .ok .nothing => .error .absent
    | .ok .directory => .error .isDirectory
    | .ok (.file octets) =>
      match String.fromUTF8? octets with
      | some text => .ok text
      | none => .error .notText

def ofPaths (entries : List (String × Entry)) : FileTree :=
  ⟨entries.map fun (path, entry) => ((steps path).filter (· ≠ "."), entry)⟩

end FileTree

end RecordComparison
