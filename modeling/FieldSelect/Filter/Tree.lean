import FieldSelect.Filter.Selector

/-! A compiled filter: the selectors of all its stages. -/
namespace FieldSelect

/-- The selectors stand in the order in which they were written, whatever their stage. -/
structure Tree where
  source : String
  selectors : List Selector

namespace Tree

/-- One more than the highest stage of a selector. -/
def stageCount (tree : Tree) : Nat :=
  tree.selectors.foldl (fun count selector => max count (selector.stage + 1)) 0

/-- The top selectors of one stage. -/
def stage (tree : Tree) (stage : Nat) : List Selector :=
  tree.selectors.filter fun selector => selector.stage == stage

/-- The tree is a bare `**`, which keeps everything as it is. -/
def isIncludeAll (tree : Tree) : Bool :=
  match tree.selectors with
  | [selector] =>
    selector.name.isAnyDeep && !selector.negated && selector.minDepth.isNone && selector.maxDepth.isNone &&
      !selector.nested && !selector.hasCalls
  | _ => false

end Tree
end FieldSelect
