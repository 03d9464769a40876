import BranchCover.Syntax.Concrete
import Mathlib.Data.List.Nodup

/-!
# The nodes of concrete trees

A node of some trees is told from all others by its *address*: the place of the tree that it stands
in, and then the places among siblings on the way to it.

* `ConcreteTree.children_induction`: what holds of a node if it holds of its children holds of all.
* `ConcreteTree.nodes`: all nodes of some trees with their addresses, each before those inside it.
* `nodup_address_nodes`: no two nodes have the same address.
-/

namespace BranchCover

/-- A node with the places that lead to it. -/
structure LocatedTree where
  address : List ℕ
  tree : ConcreteTree

/-- A node as it is seen from the parent of the tree that it stands in. -/
def LocatedTree.under (place : ℕ) (node : LocatedTree) : LocatedTree :=
  { node with address := place :: node.address }

namespace ConcreteTree

/-- What holds of a node if it holds of its children holds of all nodes. -/
@[elab_as_elim]
theorem children_induction {motive : ConcreteTree → Prop}
    (node : ∀ label children, (∀ child ∈ children, motive child) → motive (.node label children))
    (tree : ConcreteTree) : motive tree := by
  obtain ⟨label, children⟩ := tree
  refine node label children fun child hchild => ?_
  have hsize : sizeOf child < sizeOf children := List.sizeOf_lt_of_mem hchild
  exact children_induction node child
termination_by sizeOf tree
decreasing_by
  simp only [ConcreteTree.node.sizeOf_spec]
  omega

mutual

/-- A node and all nodes inside it, each before those inside it. -/
def located : ConcreteTree → List LocatedTree
  | .node label children => { address := [], tree := .node label children } ::
      locatedFrom 0 children

/-- The nodes of several trees, the first of which stands at a place. -/
def locatedFrom (place : ℕ) : List ConcreteTree → List LocatedTree
  | [] => []
  | tree :: rest => (located tree).map (LocatedTree.under place) ++ locatedFrom (place + 1) rest

end

/-- The nodes of some trees. -/
def nodes (roots : List ConcreteTree) : List LocatedTree := locatedFrom 0 roots

variable {node : LocatedTree} {tree : ConcreteTree} {trees : List ConcreteTree} {place : ℕ}

/-- The addresses of several trees begin with their places. -/
theorem exists_address_of_mem_locatedFrom (h : node ∈ locatedFrom place trees) :
    ∃ first address, node.address = first :: address ∧ place ≤ first := by
  induction trees generalizing place with
  | nil => cases h
  | cons tree rest ih =>
    rw [locatedFrom, List.mem_append] at h
    rcases h with h | h
    · obtain ⟨other, -, rfl⟩ := List.mem_map.1 h
      exact ⟨place, other.address, rfl, Nat.le_refl place⟩
    · obtain ⟨first, address, haddress, hle⟩ := ih h
      exact ⟨first, address, haddress, by omega⟩

theorem nodup_address_locatedFrom (h : ∀ tree ∈ trees, ((located tree).map (·.address)).Nodup)
    (place : ℕ) :
    ((locatedFrom place trees).map (·.address)).Nodup := by
  induction trees generalizing place with
  | nil => exact List.nodup_nil
  | cons tree rest ih =>
    obtain ⟨htree, hrest⟩ := List.forall_mem_cons.1 h
    have hunder : ((located tree).map (LocatedTree.under place)).map (·.address) =
        ((located tree).map (·.address)).map (place :: ·) := by
      simp [LocatedTree.under, Function.comp_def]
    rw [locatedFrom, List.map_append, hunder, List.nodup_append]
    refine ⟨htree.map (List.cons_injective), ih hrest (place + 1), ?_⟩
    rintro address haddress _ hother rfl
    obtain ⟨inner, -, rfl⟩ := List.mem_map.1 haddress
    obtain ⟨other, hother, hsame⟩ := List.mem_map.1 hother
    obtain ⟨first, address, hfirst, hle⟩ := exists_address_of_mem_locatedFrom hother
    rw [hsame, List.cons.injEq] at hfirst
    omega

theorem nodup_address_located (tree : ConcreteTree) : ((located tree).map (·.address)).Nodup := by
  induction tree using children_induction with
  | node label children ih =>
    rw [located, List.map_cons, List.nodup_cons]
    refine ⟨fun h => ?_, nodup_address_locatedFrom ih 0⟩
    obtain ⟨node, hnode, hnil⟩ := List.mem_map.1 h
    obtain ⟨first, address, haddress, -⟩ := exists_address_of_mem_locatedFrom hnode
    rw [haddress] at hnil
    cases hnil

/-- No two nodes have the same address. -/
theorem nodup_address_nodes (roots : List ConcreteTree) : ((nodes roots).map (·.address)).Nodup :=
  nodup_address_locatedFrom (fun tree _ => nodup_address_located tree) 0

end ConcreteTree

end BranchCover
