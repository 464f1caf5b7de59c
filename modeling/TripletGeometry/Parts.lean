import TripletGeometry.Failure

/-!
Parts of a geometry, gathered one by one until they are sealed. Sealing gives the parts in the
order in which they were added, and may be repeated; nothing is added afterwards.
-/
namespace TripletGeometry

structure Parts (β : Type) where
  items : List β
  isSealed : Bool

namespace Parts

variable {β : Type}

def empty : Parts β := ⟨[], false⟩

def size (parts : Parts β) : Nat := parts.items.length

def add (parts : Parts β) (item : β) : Except Failure (Parts β) :=
  if parts.isSealed then .error .sealed else .ok { parts with items := parts.items ++ [item] }

def close (parts : Parts β) : Parts β := { parts with isSealed := true }

/-- Parts that are added one after the other are all kept, in order. -/
theorem foldlM_add (kept items : List β) :
    items.foldlM add ⟨kept, false⟩ = (.ok ⟨kept ++ items, false⟩ : Except Failure (Parts β)) := by
  induction items generalizing kept with
  | nil =>
    rw [List.foldlM_nil, List.append_nil]
    rfl
  | cons item rest ih =>
    rw [List.foldlM_cons, List.append_cons]
    exact ih (kept ++ [item])

/-- Parts that are added to none in order, and then sealed, are just these: what gathers its parts
in this way, as every scan over elements does, may as well keep them in a list. -/
theorem items_of_gathered (items : List β) :
    (items.foldlM add (empty : Parts β)).map (fun parts => parts.close.items) = .ok items := by
  rw [empty, foldlM_add]
  rfl

end Parts

end TripletGeometry
