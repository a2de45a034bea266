/-
This file is the theory of the blocks of a chain that may fork: every block
but genesis has a parent with the number before its own, and the parent that
genesis names is no block. The chain of a block
is the block with its ancestors, and a chain that reorganises is a sequence of
blocks of the tree, each with its own chain.
-/

import Mathlib.Logic.Basic

namespace DexArbitrage

/-- The blocks of all forks, with one genesis block. -/
structure BlockTree (Hash : Type) where
  isBlock : Hash → Prop
  number : Hash → Nat
  parent : Hash → Hash
  genesis : Hash
  isBlock_parent : ∀ hash, isBlock hash → number hash ≠ 0 → isBlock (parent hash)
  number_parent : ∀ hash, isBlock hash → number hash ≠ 0 → number (parent hash) + 1 = number hash
  eq_genesis : ∀ hash, isBlock hash → number hash = 0 → hash = genesis
  parent_genesis : ¬ isBlock (parent genesis)

namespace BlockTree

variable {Hash : Type} (tree : BlockTree Hash)

/-- A block of the chain that ends in the tip. -/
inductive OnChain (ancestor : Hash) : Hash → Prop
  | tip : tree.isBlock ancestor → OnChain ancestor ancestor
  | ofParent (tip : Hash) : tree.isBlock tip → tree.number tip ≠ 0 →
      OnChain ancestor (tree.parent tip) → OnChain ancestor tip

variable {tree} {ancestor middle tip : Hash}

/-- The parent of a block is on the chain of the block. -/
theorem onChain_parent (block : tree.isBlock tip) (notGenesis : tree.number tip ≠ 0) :
    tree.OnChain (tree.parent tip) tip :=
  .ofParent tip block notGenesis (.tip (tree.isBlock_parent tip block notGenesis))

/-- A block whose parent is a block is not genesis. -/
theorem number_ne_zero_of_parent (block : tree.isBlock tip)
    (parentBlock : tree.isBlock (tree.parent tip)) : tree.number tip ≠ 0 := by
  intro zero
  rw [tree.eq_genesis tip block zero] at parentBlock
  exact tree.parent_genesis parentBlock

theorem OnChain.number_le (onChain : tree.OnChain ancestor tip) :
    tree.number ancestor ≤ tree.number tip := by
  induction onChain with
  | tip => exact Nat.le_refl _
  | ofParent tip block notGenesis _ inductionHypothesis =>
    rw [← tree.number_parent tip block notGenesis]
    exact Nat.le_succ_of_le inductionHypothesis

/-- A chain has one block of each number: here that of its tip. -/
theorem OnChain.eq_of_number_eq (onChain : tree.OnChain ancestor tip)
    (sameNumber : tree.number ancestor = tree.number tip) : ancestor = tip := by
  cases onChain with
  | tip => rfl
  | ofParent _ block notGenesis below =>
    have strict := below.number_le
    rw [sameNumber, ← tree.number_parent tip block notGenesis] at strict
    exact absurd strict (Nat.not_succ_le_self _)

end BlockTree

end DexArbitrage
