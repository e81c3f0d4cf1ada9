import Mathlib.Data.Multiset.AddSub
import Mathlib.Data.Multiset.Replicate
import Mathlib.Data.Set.Insert

/-!
# What an active eavesdropper can derive from the terms it has seen

Messages are free terms over atomic names and secret scalars. A point is a
product of scalars applied to the group's generator, kept as a multiset so that
Diffie-Hellman exchange commutes by construction. Hashes, signatures and sealed
boxes are constructors without equations: nothing inverts a hash, only the
scalar signs, and a sealed box opens only under its key.

`Derives` is the closure of a set of known terms under everything the attacker
can compute. The rules below answer the converse question: a derivable term was
either part of something known, or the attacker held what is needed to build it.
Each rule is stated for one constructor, so a protocol proof only has to say
which terms ever occur in the traffic.
-/

namespace Microgrid.SymbolicKnowledge

/-- Symbolic messages. `shared` is the coordinate of a point that a key exchange
returns; `box` carries its nonce, and its body is readable under its key only. -/
inductive Term (Name Scalar : Type) where
  | name (label : Name)
  | scalar (secret : Scalar)
  | point (factors : Multiset Scalar)
  | shared (factors : Multiset Scalar)
  | unit
  | pair (left right : Term Name Scalar)
  | hash (body : Term Name Scalar)
  | signature (signer : Scalar) (digest : Term Name Scalar)
  | box (key nonce body : Term Name Scalar)
deriving DecidableEq

variable {Name Scalar : Type}

namespace Term

/-- A finite sequence as nested pairs closed by the unit, so that sequences of
different lengths are different terms. -/
def tuple : List (Term Name Scalar) → Term Name Scalar
  | [] => .unit
  | head :: rest => .pair head (tuple rest)

/-- Nested pairs determine their sequence. -/
theorem tuple_injective (left right : List (Term Name Scalar))
    (same : tuple left = tuple right) : left = right := by
  induction left generalizing right with
  | nil =>
    cases right with
    | nil => rfl
    | cons head rest => simp [tuple] at same
  | cons head rest inductionHypothesis =>
    cases right with
    | nil => simp [tuple] at same
    | cons other tail =>
      simp only [tuple, pair.injEq] at same
      rw [same.1, inductionHypothesis tail same.2]

@[simp] theorem tuple_inj (left right : List (Term Name Scalar)) :
    tuple left = tuple right ↔ left = right :=
  ⟨tuple_injective left right, fun same => same ▸ rfl⟩

end Term

open Term

/-- Everything the attacker can compute from the known terms. The generator is
public, a known scalar multiplies any known point, and a known key opens a box. -/
inductive Derives (known : Set (Term Name Scalar)) : Term Name Scalar → Prop where
  | known {term : Term Name Scalar} (member : term ∈ known) : Derives known term
  | unit : Derives known .unit
  | pair {left right : Term Name Scalar} :
      Derives known left → Derives known right → Derives known (.pair left right)
  | left {left right : Term Name Scalar} : Derives known (.pair left right) → Derives known left
  | right {left right : Term Name Scalar} : Derives known (.pair left right) → Derives known right
  | hash {body : Term Name Scalar} : Derives known body → Derives known (.hash body)
  | generator : Derives known (.point 0)
  | multiply {secret : Scalar} {factors : Multiset Scalar} :
      Derives known (.scalar secret) → Derives known (.point factors) →
        Derives known (.point (secret ::ₘ factors))
  | coordinate {factors : Multiset Scalar} :
      Derives known (.point factors) → Derives known (.shared factors)
  | sign {signer : Scalar} {digest : Term Name Scalar} :
      Derives known (.scalar signer) → Derives known digest →
        Derives known (.signature signer digest)
  | enclose {key nonce body : Term Name Scalar} :
      Derives known key → Derives known nonce → Derives known body →
        Derives known (.box key nonce body)
  | disclose {key nonce body : Term Name Scalar} :
      Derives known (.box key nonce body) → Derives known key → Derives known body

/-- Learning more never loses a derivation. -/
theorem derives_mono {known more : Set (Term Name Scalar)} (grows : known ⊆ more)
    {term : Term Name Scalar} (derived : Derives known term) : Derives more term := by
  induction derived with
  | known member => exact .known (grows member)
  | unit => exact .unit
  | pair _ _ first second => exact .pair first second
  | left _ whole => exact .left whole
  | right _ whole => exact .right whole
  | hash _ body => exact .hash body
  | generator => exact .generator
  | multiply _ _ scalar point => exact .multiply scalar point
  | coordinate _ point => exact .coordinate point
  | sign _ _ scalar digest => exact .sign scalar digest
  | enclose _ _ _ key nonce body => exact .enclose key nonce body
  | disclose _ _ box key => exact .disclose box key

/-- A tuple is derivable exactly when each of its entries is. -/
theorem derives_tuple {known : Set (Term Name Scalar)} (terms : List (Term Name Scalar)) :
    Derives known (tuple terms) ↔ ∀ term ∈ terms, Derives known term := by
  induction terms with
  | nil => simp [tuple, Derives.unit]
  | cons head rest inductionHypothesis =>
    simp only [tuple, List.mem_cons, forall_eq_or_imp, ← inductionHypothesis]
    exact ⟨fun whole => ⟨whole.left, whole.right⟩, fun parts => .pair parts.1 parts.2⟩

/-- `Part whole piece`: the piece can be read off the whole once every box
around it is opened. Hashes and signatures have no parts besides themselves. -/
inductive Part : Term Name Scalar → Term Name Scalar → Prop where
  | self (term : Term Name Scalar) : Part term term
  | left {left right piece : Term Name Scalar} : Part left piece → Part (.pair left right) piece
  | right {left right piece : Term Name Scalar} : Part right piece → Part (.pair left right) piece
  | body {key nonce body piece : Term Name Scalar} :
      Part body piece → Part (.box key nonce body) piece

/-- A term occurs in a set when it is a part of a member. -/
def Occurs (known : Set (Term Name Scalar)) (piece : Term Name Scalar) : Prop :=
  ∃ whole ∈ known, Part whole piece

/-- The attacker's own last step towards a term, with everything the step needs. -/
inductive Built (known : Set (Term Name Scalar)) : Term Name Scalar → Prop where
  | unit : Built known .unit
  | pair {left right : Term Name Scalar} :
      Derives known left → Derives known right → Built known (.pair left right)
  | hash {body : Term Name Scalar} : Derives known body → Built known (.hash body)
  | generator : Built known (.point 0)
  | multiply {secret : Scalar} {factors : Multiset Scalar} :
      Derives known (.scalar secret) → Derives known (.point factors) →
        Built known (.point (secret ::ₘ factors))
  | coordinate {factors : Multiset Scalar} :
      Derives known (.point factors) → Built known (.shared factors)
  | sign {signer : Scalar} {digest : Term Name Scalar} :
      Derives known (.scalar signer) → Built known (.signature signer digest)
  | enclose {key nonce body : Term Name Scalar} :
      Derives known key → Derives known body → Built known (.box key nonce body)

/-- Every part of a derivable term occurs in the known terms or was built.

Induct over the derivation. Taking a term apart only shrinks what has to be
covered; putting one together adds a single new part, the term itself, whose
ingredients are the derivation's own premises. -/
theorem part_occurs_or_built {known : Set (Term Name Scalar)} {term : Term Name Scalar}
    (derived : Derives known term) (piece : Term Name Scalar) (part : Part term piece) :
    Occurs known piece ∨ Built known piece := by
  induction derived generalizing piece with
  | known member => exact .inl ⟨_, member, part⟩
  | unit =>
    cases part
    exact .inr .unit
  | pair first second firstParts secondParts =>
    cases part with
    | self => exact .inr (.pair first second)
    | left inside => exact firstParts piece inside
    | right inside => exact secondParts piece inside
  | left _ wholeParts => exact wholeParts piece (.left part)
  | right _ wholeParts => exact wholeParts piece (.right part)
  | hash body =>
    cases part
    exact .inr (.hash body)
  | generator =>
    cases part
    exact .inr .generator
  | multiply scalar point =>
    cases part
    exact .inr (.multiply scalar point)
  | coordinate point =>
    cases part
    exact .inr (.coordinate point)
  | sign scalar digest =>
    cases part
    exact .inr (.sign scalar)
  | enclose key nonce body _ _ bodyParts =>
    cases part with
    | self => exact .inr (.enclose key body)
    | body inside => exact bodyParts piece inside
  | disclose box key boxParts _ => exact boxParts piece (.body part)

@[simp] theorem part_name {label : Name} {piece : Term Name Scalar} :
    Part (.name label) piece ↔ piece = .name label := by
  constructor
  · rintro ⟨-⟩
    rfl
  · rintro rfl
    exact .self _

/-- A name is part of a tuple exactly if it is part of one of its entries. -/
theorem part_tuple_name {label : Name} (terms : List (Term Name Scalar)) :
    Part (tuple terms) (.name label) ↔ ∃ term ∈ terms, Part term (.name label) := by
  induction terms with
  | nil =>
    constructor
    · intro part
      cases part
    · rintro ⟨term, member, -⟩
      cases member
  | cons head rest inductionHypothesis =>
    rw [List.exists_mem_cons_iff, ← inductionHypothesis]
    constructor
    · intro part
      cases part with
      | left inside => exact .inl inside
      | right inside => exact .inr inside
    · rintro (inside | inside)
      · exact .left inside
      · exact .right inside

/-- A digest shows no name. -/
theorem part_hash_name {label : Name} {body : Term Name Scalar} :
    ¬Part (.hash body) (.name label) := by
  intro part
  cases part

/-- A box shows the names in its body. -/
theorem part_box_name {label : Name} {key nonce body : Term Name Scalar} :
    Part (.box key nonce body) (.name label) ↔ Part body (.name label) := by
  constructor
  · intro part
    cases part with
    | body inside => exact inside
  · exact .body

variable {known : Set (Term Name Scalar)}

/-- A name that does not occur in what is known is no part of anything derivable. -/
theorem not_part_derived {label : Name} (absent : ¬Occurs known (.name label))
    {term : Term Name Scalar} (derived : Derives known term) : ¬Part term (.name label) := by
  intro part
  rcases part_occurs_or_built derived _ part with occurs | built
  · exact absent occurs
  · cases built

/-- A derivable name was said by someone. -/
theorem derives_name {label : Name} (derived : Derives known (.name label)) :
    Occurs known (.name label) := by
  rcases part_occurs_or_built derived _ (.self _) with occurs | built
  · exact occurs
  · cases built

/-- A derivable scalar was disclosed; points and signatures never give it away. -/
theorem derives_scalar {secret : Scalar} (derived : Derives known (.scalar secret)) :
    Occurs known (.scalar secret) := by
  rcases part_occurs_or_built derived _ (.self _) with occurs | built
  · exact occurs
  · cases built

/-- A derivable digest was seen as such, or its whole preimage is derivable. -/
theorem derives_hash {body : Term Name Scalar} (derived : Derives known (.hash body)) :
    Occurs known (.hash body) ∨ Derives known body := by
  rcases part_occurs_or_built derived _ (.self _) with occurs | built
  · exact .inl occurs
  · cases built with
    | hash preimage => exact .inr preimage

/-- Signatures are unforgeable without the signing scalar. -/
theorem derives_signature {signer : Scalar} {digest : Term Name Scalar}
    (derived : Derives known (.signature signer digest)) :
    Occurs known (.signature signer digest) ∨ Derives known (.scalar signer) := by
  rcases part_occurs_or_built derived _ (.self _) with occurs | built
  · exact .inl occurs
  · cases built with
    | sign scalar => exact .inr scalar

/-- Sealed boxes are unforgeable without their key. -/
theorem derives_box {key nonce body : Term Name Scalar}
    (derived : Derives known (.box key nonce body)) :
    Occurs known (.box key nonce body) ∨ Derives known key := by
  rcases part_occurs_or_built derived _ (.self _) with occurs | built
  · exact .inl occurs
  · cases built with
    | enclose keyDerived _ => exact .inr keyDerived

/-- A derivable point is a point that was said, multiplied by derivable scalars.

Peel one multiplication at a time; the number of factors decreases. -/
theorem derives_point {factors : Multiset Scalar} (derived : Derives known (.point factors)) :
    ∃ base extra : Multiset Scalar, factors = base + extra ∧
      (base = 0 ∨ Occurs known (.point base)) ∧
        ∀ secret ∈ extra, Derives known (.scalar secret) := by
  induction size : factors.card generalizing factors with
  | zero =>
    have empty : factors = 0 := Multiset.card_eq_zero.mp size
    exact ⟨0, 0, by simp [empty], .inl rfl, by simp⟩
  | succ count inductionHypothesis =>
    rcases part_occurs_or_built derived _ (.self _) with occurs | built
    · exact ⟨factors, 0, by simp, .inr occurs, by simp⟩
    · cases built with
      | generator => simp at size
      | @multiply secret remaining scalar point =>
        have smaller : remaining.card = count := by simpa using size
        obtain ⟨base, extra, same, source, held⟩ := inductionHypothesis point smaller
        refine ⟨base, secret ::ₘ extra, by simp [same], source, ?_⟩
        intro candidate member
        rcases Multiset.mem_cons.mp member with rfl | inside
        · exact scalar
        · exact held candidate inside

/-- The exchange of two undisclosed scalars stays secret, as long as no exchanged
coordinate and no point with several factors was ever said.

A derivation would start from a point that was said and multiply it by derivable
scalars. Neither secret is derivable, so both would already be factors of the
point it started from. -/
theorem exchange_secret {first second : Scalar}
    (noCoordinate : ∀ factors, ¬ Occurs known (.shared factors))
    (singleFactor : ∀ factors, Occurs known (.point factors) → factors.card ≤ 1)
    (firstSecret : ¬ Derives known (.scalar first))
    (secondSecret : ¬ Derives known (.scalar second)) :
    ¬ Derives known (.shared (first ::ₘ {second})) := by
  intro derived
  have point : Derives known (.point (first ::ₘ {second})) := by
    rcases part_occurs_or_built derived _ (.self _) with occurs | built
    · exact absurd occurs (noCoordinate _)
    · cases built with
      | coordinate point => exact point
  obtain ⟨base, extra, same, source, held⟩ := derives_point point
  have noExtra : extra = 0 := by
    refine Multiset.eq_zero_of_forall_notMem fun secret member => ?_
    have factor : secret ∈ first ::ₘ {second} := same ▸ Multiset.mem_add.mpr (.inr member)
    rcases Multiset.mem_cons.mp factor with rfl | isSecond
    · exact firstSecret (held secret member)
    · have equal : secret = second := Multiset.mem_singleton.mp isSecond
      exact secondSecret (equal ▸ held secret member)
  have whole : base = first ::ₘ {second} := by simpa [noExtra] using same.symm
  have two : base.card = 2 := by simp [whole]
  rcases source with empty | occurs
  · simp [empty] at two
  · have bound : base.card ≤ 1 := singleFactor base occurs
    omega

end Microgrid.SymbolicKnowledge
