import StagedTests.Cluster.Object
import StagedTests.Text.Blank

/-!
# Label selectors

A selector lists terms `key=value`, separated by commas, all of which must hold of the labels. The
first equals sign of a term ends its key, and blanks around key and value do not count. A term
without an equals sign holds of nothing.
-/

namespace StagedTests.Selector

/-- The pieces of a text between separators. There is always one more piece than separators. -/
def pieces (separator : Char) : List Char → List (List Char)
  | [] => [[]]
  | c :: cs =>
    if c = separator then [] :: pieces separator cs
    else match pieces separator cs with
      | [] => [[c]]
      | p :: ps => (c :: p) :: ps

/-- The text before and behind the first separator. -/
def cut? (separator : Char) : List Char → Option (List Char × List Char)
  | [] => none
  | c :: cs =>
    if c = separator then some ([], cs)
    else (cut? separator cs).map fun p => (c :: p.1, p.2)

def trimmed (cs : List Char) : String :=
  String.ofList (Text.trimList Text.isBlank cs)

def termHolds (labels : Table String) (term : List Char) : Bool :=
  match cut? '=' term with
  | some (key, value) => labels.get? (trimmed key) == some (trimmed value)
  | none => false

/-- Whether a selector matches a pod. A pod without labels has an empty table of them. -/
def selects (selector : String) (pod : Pod) : Bool :=
  (pieces ',' selector.toList).all (termHolds (pod.metadata.labels.getD ∅))

end StagedTests.Selector
