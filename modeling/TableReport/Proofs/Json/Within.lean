import TableReport.Proofs.Json.Members
/-!
# What is within a value

A property that the parts of a value have is one that every value has which is somewhere within it.
-/
namespace TableReport.Json

/-- A value is within another: it is the same, or it is within an item or a member. -/
inductive Within (v : Json) : Json → Prop
  | self : Within v v
  | item {w : Json} {items : List Json} (hw : w ∈ items) (h : Within v w) : Within v (.list items)
  | member {name : String} {w : Json} {members : Members} (hw : (name, w) ∈ members) (h : Within v w) :
    Within v (.object members)

/-- Every value within a value has a property. -/
def Everywhere (p : Json → Prop) (doc : Json) : Prop := ∀ v, Within v doc → p v

section Everywhere

variable {p : Json → Prop} {items : List Json} {members pairs : Members}

theorem everywhere_list (h : p (.list items)) (hitems : ∀ v ∈ items, Everywhere p v) :
    Everywhere p (.list items) := by
  intro v hv
  cases hv with
  | self => exact h
  | item hw hv => exact hitems _ hw v hv

theorem everywhere_object (h : p (.object members)) (hmembers : ∀ m ∈ members, Everywhere p m.2) :
    Everywhere p (.object members) := by
  intro v hv
  cases hv with
  | self => exact h
  | member hw hv => exact hmembers _ hw v hv

/-- Values that hold no others. -/
def isLeaf : Json → Bool
  | .list _ | .object _ => false
  | _ => true

theorem everywhere_leaf {v : Json} (hleaf : v.isLeaf = true) (h : p v) : Everywhere p v := by
  intro w hw
  cases hw with
  | self => exact h
  | item | member => cases hleaf

theorem everywhere_ofPairs (h : p (ofPairs pairs)) (hpairs : ∀ q ∈ pairs, Everywhere p q.2) :
    Everywhere p (ofPairs pairs) := by
  refine everywhere_object h fun m hm => ?_
  obtain ⟨q, hq, heq⟩ := Members.exists_of_mem_ofList hm
  exact heq ▸ hpairs q hq

end Everywhere

end TableReport.Json
