import BuildMonitor.Config.Tree
import BuildMonitor.Yaml.Node
import BuildMonitor.Yaml.Scalar

/-!
# Configuration files

A configuration file is a YAML document whose top is a mapping; a file that holds nothing counts as
an empty one. Names are taken as they are written, and of two members of one name the later counts.

Main definitions: `treeOfDocument?`.
-/

namespace BuildMonitor.Config

open BuildMonitor.Json BuildMonitor.Yaml

/-- The number of collections that may lie in each other. -/
def nestingLimit : Nat := 128

mutual

/-- A node as a tree; `depth` is the number of collections it may still open. -/
def treeOfNode? (source : Source) (depth : Nat) : Node → Option Tree
  | .scalar none plain text =>
    some (.scalar source (if plain then scalarOfPlain text else .text text))
  | .scalar (some tag) plain text => (scalarOfTag? tag plain text).map (.scalar source)
  | .sequence tag items =>
    match depth with
    | 0 => none
    | depth + 1 =>
      if isLocalTag tag then none else (treesOfNodes? source depth items).map (.sequence source)
  | .mapping tag members =>
    match depth with
    | 0 => none
    | depth + 1 =>
      if isLocalTag tag then none
      else
        (membersOfNodes? source depth members).map fun members => Tree.ofMembers source members

/-- Nodes as trees. -/
def treesOfNodes? (source : Source) (depth : Nat) : List Node → Option (List Tree)
  | [] => some []
  | node :: rest => do
    let tree ← treeOfNode? source depth node
    let trees ← treesOfNodes? source depth rest
    return tree :: trees

/-- The members of a mapping as trees. A name must be a scalar. -/
def membersOfNodes? (source : Source) (depth : Nat) :
    List (Node × Node) → Option (List (String × Tree))
  | [] => some []
  | (.scalar _ _ name, value) :: rest => do
    let tree ← treeOfNode? source depth value
    let members ← membersOfNodes? source depth rest
    return (name, tree) :: members
  | _ :: _ => none

end

/-- The tree of a configuration file; `none` if the text is no YAML document or its top is no
mapping. A tag on the top says nothing. -/
def treeOfDocument? (source : Source) (text : String) : Option Tree := do
  match ← Node.ofText? text with
  | .scalar _ true "" => return .mapping source []
  | .mapping _ members => treeOfNode? source nestingLimit (.mapping none members)
  | _ => none

end BuildMonitor.Config
