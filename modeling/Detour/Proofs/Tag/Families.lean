import Detour.Proofs.Tag
/-!
# Tags across sequences

The documents of a batch are put together, so the tags that are made in one sequence meet those of
all others. A hop is named after its `Position`, of which the name leaves out a part: the sequence
where the hop is nearest to the client, and everything at the destination of the primary chain.
`Position.SharesTag` says which hops are called the same for that reason. Targets of rules are named
after all there is to them, and no `Family` of tags has one in common with another. `unambiguous` puts
this together with the way back from a redirect to its hop.
-/

namespace Detour

namespace Tag

/-! ## Hops -/

/-- Where a hop stands: in the build of which sequence, for which profile, and at which position of
how many. -/
structure Position where
  seq : Nat
  id : Int64
  index : Nat
  length : Nat
  index_lt : index < length

namespace Position

variable {x y : Position}

/-- The tag of the hop at a position. -/
def tag (x : Position) : String :=
  hop x.seq x.id x.index x.length

/-- The destination of the primary chain, which is nearest to the client as well in a chain of one. -/
def IsDestination (x : Position) : Prop :=
  x.seq = 0 ∧ x.index = 0

/-- Any other hop that is nearest to the client. -/
def IsNearest (x : Position) : Prop :=
  ¬ x.IsDestination ∧ x.index + 1 = x.length

/-- A hop with another one between it and the client. -/
def IsInner (x : Position) : Prop :=
  ¬ x.IsDestination ∧ x.index + 1 ≠ x.length

/-- Two hops that are called the same. -/
inductive SharesTag (x y : Position) : Prop where
  /-- The destinations of two primary chains, whatever their profiles are. -/
  | destination (hx : x.IsDestination) (hy : y.IsDestination)
  /-- Hops nearest to the client in whatever sequences, and in chains of one length. -/
  | nearest (hx : x.IsNearest) (hy : y.IsNearest) (hid : x.id = y.id) (hindex : x.index = y.index)
  /-- Any others stand in the same sequence. -/
  | inner (hx : x.IsInner) (hy : y.IsInner) (hseq : x.seq = y.seq) (hid : x.id = y.id)
      (hindex : x.index = y.index)

theorem tag_eq_proxy_iff : x.tag = proxy ↔ x.IsDestination :=
  hop_eq_proxy_iff

theorem IsNearest.tag_eq (h : x.IsNearest) : x.tag = s!"g-{x.id}-{x.index}" :=
  (if_neg h.1).trans (if_pos h.2)

theorem IsInner.tag_eq (h : x.IsInner) : x.tag = s!"c-{x.seq}-{x.id}-{x.index}" :=
  (if_neg h.1).trans (if_neg h.2)

/-- Hops that are called the same have what their names are made of in common. -/
theorem sharesTag_of_tag_eq (h : x.tag = y.tag) : x.SharesTag y := by
  by_cases hx : x.IsDestination
  · exact .destination hx (tag_eq_proxy_iff.1 (h.symm.trans (tag_eq_proxy_iff.2 hx)))
  · have hy : ¬ y.IsDestination := fun hy =>
      hx (tag_eq_proxy_iff.1 (h.trans (tag_eq_proxy_iff.2 hy)))
    rcases hop_eq_hop h with ⟨hx', -⟩ | ⟨hm, hn, hid, hindex⟩ | ⟨hm, hn, hseq, hid, hindex⟩
    · exact absurd hx' hx
    · exact .nearest ⟨hx, hm⟩ ⟨hy, hn⟩ hid hindex
    · exact .inner ⟨hx, hm⟩ ⟨hy, hn⟩ hseq hid hindex

/-- And the other way round. -/
theorem SharesTag.tag_eq (h : x.SharesTag y) : x.tag = y.tag := by
  cases h with
  | destination hx hy => rw [tag_eq_proxy_iff.2 hx, tag_eq_proxy_iff.2 hy]
  | nearest hx hy hid hindex => rw [hx.tag_eq, hy.tag_eq, hid, hindex]
  | inner hx hy hseq hid hindex => rw [hx.tag_eq, hy.tag_eq, hseq, hid, hindex]

theorem tag_eq_tag_iff : x.tag = y.tag ↔ x.SharesTag y :=
  ⟨sharesTag_of_tag_eq, SharesTag.tag_eq⟩

end Position

/-! ## Families -/

/-- What tags are made for. -/
inductive Family where
  | hop
  | target
  | hopRedirect
  | targetRedirect
  | reserved

namespace Family

variable {f g : Family} {tag : String}

/-- The tags that are made for one thing. -/
inductive Contains : Family → String → Prop where
  | hop (x : Position) : Contains .hop x.tag
  | target (seq rank : Nat) : Contains .target (routeTarget seq rank)
  | hopRedirect (x : Position) : Contains .hopRedirect (mapping x.tag)
  | targetRedirect (seq rank : Nat) : Contains .targetRedirect (mapping (routeTarget seq rank))
  | reserved {tag : String} (h : tag ∈ Tag.reserved) : Contains .reserved tag

/-- The number that the letters of a tag give. -/
def number : Family → Nat
  | hop => 0
  | reserved => 1
  | target => 2
  | hopRedirect | targetRedirect => 4

theorem Contains.family_eq (h : f.Contains tag) : Tag.family tag = f.number := by
  cases h with
  | hop x => exact family_hop x.seq x.id x.index x.length
  | target seq rank => exact family_routeTarget seq rank
  | hopRedirect x => exact family_mapping x.tag
  | targetRedirect seq rank => exact family_mapping (routeTarget seq rank)
  | reserved h => exact family_of_mem_reserved h

/-- All redirects end alike, so it is what they lead to that tells those to hops from those to
targets. -/
theorem Contains.not_targetRedirect (h : Contains .hopRedirect tag) :
    ¬ Contains .targetRedirect tag := by
  intro h'
  cases h with
  | hopRedirect x =>
    generalize htag : mapping x.tag = tag at h'
    cases h' with
    | targetRedirect seq rank => exact hop_ne_routeTarget (mapping_injective htag)

theorem eq_of_number_eq (h : f.number = g.number) :
    f = g ∨ f = hopRedirect ∧ g = targetRedirect ∨ f = targetRedirect ∧ g = hopRedirect := by
  cases f <;> cases g <;> simp [number] at h ⊢

/-- Nothing is called as something of another family. -/
theorem Contains.unique (hf : f.Contains tag) (hg : g.Contains tag) : f = g := by
  rcases eq_of_number_eq (hf.family_eq.symm.trans hg.family_eq) with h | ⟨rfl, rfl⟩ | ⟨rfl, rfl⟩
  · exact h
  · exact absurd hg hf.not_targetRedirect
  · exact absurd hf hg.not_targetRedirect

end Family

/-- **Tags are unambiguous**, in whatever sequences they are made. Two hops are called the same only
where `SharesTag` says so, two targets never, and nothing is called as something of another family.
From the tag of a redirect, and from no other one, its hop can be told. -/
theorem unambiguous :
    (∀ x y : Position, x.tag = y.tag ↔ x.SharesTag y) ∧
    (∀ s t m n, routeTarget s m = routeTarget t n ↔ s = t ∧ m = n) ∧
    (∀ (f g : Family) (tag : String), f.Contains tag → g.Contains tag → f = g) ∧
    ∀ inbound hop, mappedHop? inbound = some hop ↔ inbound = mapping hop := by
  refine ⟨fun x y => Position.tag_eq_tag_iff, fun s t m n => ⟨routeTarget_injective, ?_⟩,
    fun f g tag => Family.Contains.unique, fun inbound hop => mappedHop?_eq_some_iff⟩
  rintro ⟨rfl, rfl⟩
  rfl

/-- Servers that are used directly share a name across a batch, and dashes of ids do no harm. -/
example :
    (⟨1, -2, 0, 1, by decide⟩ : Position).tag = (⟨7, -2, 0, 1, by decide⟩ : Position).tag ∧
      (⟨1, -2, 3, 5, by decide⟩ : Position).tag = "c-1--2-3" := by decide

end Tag

end Detour
